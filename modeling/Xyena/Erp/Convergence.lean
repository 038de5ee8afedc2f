import Xyena.Erp.Acceptance

/-!
# The events of one invoice

The GST service may deliver the events of an invoice in any order and more than
once. An event takes effect when its first delivery finds the invoice, or carries
the snapshot from which it is added; the invoice shows the newest event that took
effect. An event that came too early is stored as failed and counts as a
duplicate from then on.
-/

namespace Xyena.Erp

open Xyena.Foundation Xyena.Foundation.Session

/-! ## Events and their deliveries -/

def EventType.gstStatus : EventType → GstStatus
  | .registered => .registered
  | .cancelled => .cancelled

/-- The event carries no document that is refused, and none of another invoice. -/
def GstEventEnvelope.Readable (event : GstEventEnvelope) : Prop :=
  ∃ snapshot, event.invoiceSnapshot.read = .ok snapshot ∧
    (snapshot.any fun value ↦ value.id != event.aggregateId) = false

/-- The event carries the snapshot of its invoice. -/
def GstEventEnvelope.Detailed (event : GstEventEnvelope) : Prop :=
  ∃ value, event.invoiceSnapshot = .valid value ∧ value.id = event.aggregateId ∧
    value.tenantId = event.tenantId

/-- Events of one invoice with distinct versions, one of which carries the snapshot. -/
structure InvoiceEvents where
  tenantId : String
  invoiceId : String
  events : List GstEventEnvelope
  ofInvoice : ∀ event ∈ events, event.tenantId = tenantId ∧ event.aggregateId = invoiceId
  versions : (events.map GstEventEnvelope.aggregateVersion).Nodup
  eventIds : (events.map GstEventEnvelope.eventId).Nodup
  detailed : ∃ event ∈ events, event.Detailed

def Known (db : ErpDb) (invoiceId : String) : Prop := invoiceId ∈ db.invoices.map SupplierInvoice.id

def Seen (db : ErpDb) (event : GstEventEnvelope) : Prop :=
  ∃ row ∈ db.inboxEvents, row.sourceApplication = gstSource ∧ row.eventId = event.eventId

/-- A delivery that the database has not cut short. -/
def Delivers (e : Entry ErpDb ErpCall (Except ErpError ErpAnswer)) (event : GstEventEnvelope) : Prop :=
  e.input.request = .consumeGstEvent event ∧ e.output ≠ .error .integrity

/-- The invoice shows an event. -/
def Shows (db : ErpDb) (invoiceId : String) (event : GstEventEnvelope) : Prop :=
  ∃ row ∈ db.invoices, row.id = invoiceId ∧ row.sourceVersion = event.aggregateVersion ∧
    row.gstStatus = event.eventType.gstStatus

theorem seen_iff {db : ErpDb} {event : GstEventEnvelope} : Seen db event ↔
    (db.inboxEvents.any fun row ↦ row.sourceApplication == gstSource && row.eventId == event.eventId) =
      true := by
  simp [Seen]

theorem GstEventEnvelope.Detailed.readable {event : GstEventEnvelope} (h : event.Detailed) :
    event.Readable := by
  obtain ⟨value, hsnapshot, hid, -⟩ := h
  exact ⟨some value, by rw [hsnapshot]; rfl, by simp [hid]⟩

/-! ## What one delivery does -/

section Consume

variable {rounding : Rounding} {db : ErpDb} {call : ErpCall} {event : GstEventEnvelope}

/-- Why an event that is new is stored without an effect. -/
inductive Idle (db : ErpDb) (event : GstEventEnvelope) : Prop
  | unreadable (h : ¬event.Readable)
  | early (hnone : eventInvoice db event = none) (h : ¬event.Detailed)
  | stale (invoice : SupplierInvoice) (hheld : eventInvoice db event = some invoice)
      (h : event.aggregateVersion ≤ invoice.sourceVersion)

/-- All ways in which an event is consumed. -/
inductive Consumes (rounding : Rounding) (db : ErpDb) (call : ErpCall) (event : GstEventEnvelope) :
    Except ErpError Outcome → Prop
  | duplicate (answer : ErpAnswer) (hseen : Seen db event) :
      Consumes rounding db call event (.ok (answer, none))
  | refused (failure : ErpError) (h : ¬event.Readable) : Consumes rounding db call event (.error failure)
  | noted (answer : ErpAnswer) (status : InboxStatus) (lastError : Option String)
      (hunseen : ¬Seen db event) (hidle : Idle db event) :
      Consumes rounding db call event (.ok (answer, some
        { inboxEvents := [.insert (newInbox call event status lastError)] }))
  | added (answer : ErpAnswer) (detail : GstInvoiceSnapshot) (settled : SupplierInvoice)
      (changed : List (RowWrite InvoiceMatch)) (hunseen : ¬Seen db event)
      (hnone : eventInvoice db event = none) (hdetail : event.invoiceSnapshot = .valid detail)
      (hid : detail.id = event.aggregateId) (htenant : detail.tenantId = event.tenantId)
      (h : Settles rounding db call event ((newInvoice rounding detail).follow rounding event (some detail))
        detail.totalInvoiceValue settled changed) :
      Consumes rounding db call event (.ok (answer, some (eventWrites call event (.insert settled) changed)))
  | followed (answer : ErpAnswer) (snapshot : Option GstInvoiceSnapshot) (invoice settled : SupplierInvoice)
      (changed : List (RowWrite InvoiceMatch)) (hunseen : ¬Seen db event) (hreadable : event.Readable)
      (hheld : eventInvoice db event = some invoice) (hnewer : invoice.sourceVersion < event.aggregateVersion)
      (h : Settles rounding db call event (invoice.follow rounding event snapshot)
        (claimedBy invoice snapshot) settled changed) :
      Consumes rounding db call event (.ok (answer, some (eventWrites call event (.update settled) changed)))

theorem consumes (rounding : Rounding) (db : ErpDb) (call : ErpCall) (event : GstEventEnvelope) :
    Consumes rounding db call event (consumeGstEvent rounding db call event) := by
  unfold consumeGstEvent
  split
  next hseen => exact .duplicate _ (seen_iff.mpr hseen)
  next hunseen =>
    have hunseen : ¬Seen db event := fun h ↦ hunseen (seen_iff.mp h)
    cases hdocument : event.invoiceSnapshot with
    | invalid =>
      refine .refused _ ?_
      rintro ⟨snapshot, hread, -⟩
      rw [hdocument] at hread
      cases hread
    | absent =>
      have hreadable : event.Readable := ⟨none, by rw [hdocument]; rfl, rfl⟩
      have hdetail : ¬event.Detailed := by
        rintro ⟨value, hvalue, -⟩
        rw [hdocument] at hvalue
        cases hvalue
      simp only [SnapshotDocument.read, bind, Except.bind, Option.any_none, Option.filter_none,
        Bool.false_eq_true, if_false]
      cases hheld : eventInvoice db event with
      | none => exact .noted _ _ _ hunseen (.early hheld hdetail)
      | some invoice =>
        simp only
        split
        next hstale => exact .noted _ _ _ hunseen (.stale invoice hheld hstale)
        next hnewer =>
          obtain ⟨answer, writes, hreturns⟩ :=
            followInvoice_returns rounding db call event invoice .update none
          obtain ⟨settled, changed, rfl, hsettles⟩ := settles_of_followInvoice hreturns
          rw [hreturns]
          exact .followed answer none invoice settled changed hunseen hreadable hheld (Int.not_le.mp hnewer)
            hsettles
    | valid snapshot =>
      simp only [SnapshotDocument.read, bind, Except.bind, Option.any_some]
      split
      next hother =>
        refine .noted _ _ _ hunseen (.unreadable ?_)
        rintro ⟨found, hread, hsame⟩
        rw [hdocument] at hread
        obtain rfl := Except.ok.inj hread
        rw [Option.any_some, hother] at hsame
        cases hsame
      next hsame =>
        have hid : snapshot.id = event.aggregateId := by simpa using hsame
        have hreadable : event.Readable := ⟨some snapshot, by rw [hdocument]; rfl, by simp [hid]⟩
        cases hheld : eventInvoice db event with
        | none =>
          by_cases htenant : snapshot.tenantId = event.tenantId
          · have hkept : (some snapshot).filter (fun value ↦ value.tenantId == event.tenantId) =
                some snapshot := by
              simp [htenant]
            obtain ⟨answer, writes, hreturns⟩ := followInvoice_returns rounding db call event
              (newInvoice rounding snapshot) .insert (some snapshot)
            obtain ⟨settled, changed, rfl, hsettles⟩ := settles_of_followInvoice hreturns
            simp only [hkept, hreturns]
            exact .added answer snapshot settled changed hunseen hheld hdocument hid htenant hsettles
          · have hdropped : (some snapshot).filter (fun value ↦ value.tenantId == event.tenantId) = none := by
              simp [htenant]
            simp only [hdropped]
            refine .noted _ _ _ hunseen (.early hheld ?_)
            rintro ⟨value, hvalue, -, hsameTenant⟩
            rw [hdocument] at hvalue
            obtain rfl := SnapshotDocument.valid.inj hvalue
            exact htenant hsameTenant
        | some invoice =>
          simp only
          split
          next hstale => exact .noted _ _ _ hunseen (.stale invoice hheld hstale)
          next hnewer =>
            obtain ⟨answer, writes, hreturns⟩ :=
              followInvoice_returns rounding db call event invoice .update (some snapshot)
            obtain ⟨settled, changed, rfl, hsettles⟩ := settles_of_followInvoice hreturns
            rw [hreturns]
            exact .followed answer (some snapshot) invoice settled changed hunseen hreadable hheld
              (Int.not_le.mp hnewer) hsettles

end Consume

/-! ## What a call does to the register of an invoice -/

/-- The columns of an invoice that tell which event it shows. -/
structure SameRegister (first second : SupplierInvoice) : Prop where
  id : first.id = second.id
  tenantId : first.tenantId = second.tenantId
  sourceVersion : first.sourceVersion = second.sourceVersion
  gstStatus : first.gstStatus = second.gstStatus

theorem SameRegister.refl (invoice : SupplierInvoice) : SameRegister invoice invoice := ⟨rfl, rfl, rfl, rfl⟩

/-- No invoice shows another event, and no event was recorded. -/
structure Quiet (db after : ErpDb) : Prop where
  seen : ∀ event, Seen after event ↔ Seen db event
  back : ∀ row ∈ after.invoices, ∃ old ∈ db.invoices, SameRegister row old
  forth : ∀ old ∈ db.invoices, ∃ row ∈ after.invoices, SameRegister row old

theorem Quiet.refl (db : ErpDb) : Quiet db db :=
  ⟨fun _ ↦ Iff.rfl, fun row hrow ↦ ⟨row, hrow, .refl row⟩, fun row hrow ↦ ⟨row, hrow, .refl row⟩⟩

/-- The event was recorded as a new one. -/
structure Recorded (db : ErpDb) (event : GstEventEnvelope) (after : ErpDb) : Prop where
  unseen : ¬Seen db event
  seen : ∀ other, Seen after other ↔ Seen db other ∨ event.eventId = other.eventId

/-- What a delivery leaves behind. -/
inductive Received (db : ErpDb) (event : GstEventEnvelope) (after : ErpDb) : Prop
  | ignored (h : Seen db event ∨ ¬event.Readable) (hquiet : after = db)
  | noted (hrecorded : Recorded db event after) (hidle : Idle db event)
      (hinvoices : after.invoices = db.invoices)
  | stored (settled : SupplierInvoice) (hrecorded : Recorded db event after) (hreadable : event.Readable)
      (hbefore : eventInvoice db event = none ∧ event.Detailed ∨ ∃ invoice,
        eventInvoice db event = some invoice ∧ invoice.sourceVersion < event.aggregateVersion)
      (hstored : settled ∈ after.invoices)
      (hshows : settled.id = event.aggregateId ∧ settled.tenantId = event.tenantId ∧
        settled.sourceVersion = event.aggregateVersion ∧ settled.gstStatus = event.eventType.gstStatus)

section Step

variable {rounding : Rounding} {db : ErpDb} {call : ErpCall} {event : GstEventEnvelope} {writes : Writes}

/-- Settling the match of an invoice leaves its register. -/
theorem Settles.register {followed settled : SupplierInvoice} {claimed : Rat}
    {changed : List (RowWrite InvoiceMatch)}
    (h : Settles rounding db call event followed claimed settled changed) : SameRegister settled followed := by
  cases h with
  | unmatched => exact .refl followed
  | reviewed => exact ⟨rfl, rfl, rfl, rfl⟩
  | recalculated done h =>
    rw [recalculate_invoice h]
    exact ⟨rfl, rfl, rfl, rfl⟩

theorem follow_register (rounding : Rounding) (event : GstEventEnvelope) (invoice : SupplierInvoice)
    (snapshot : Option GstInvoiceSnapshot) :
    (invoice.follow rounding event snapshot).tenantId = invoice.tenantId ∧
      (invoice.follow rounding event snapshot).sourceVersion = event.aggregateVersion ∧
      (invoice.follow rounding event snapshot).gstStatus = event.eventType.gstStatus := by
  have hstatus : (invoice.follow rounding event snapshot).gstStatus = event.eventType.gstStatus := by
    simp only [SupplierInvoice.follow]
    cases event.eventType <;> rfl
  exact ⟨by cases snapshot <;> rfl, rfl, hstatus⟩

theorem eventInvoice_some {invoice : SupplierInvoice} (h : eventInvoice db event = some invoice) :
    invoice ∈ db.invoices ∧ invoice.id = event.aggregateId ∧ invoice.tenantId = event.tenantId := by
  obtain ⟨hfind, htenant⟩ := Option.filter_eq_some_iff.mp h
  have hid := List.find?_some hfind
  exact ⟨List.mem_of_find?_eq_some hfind, beq_iff_eq.mp hid, beq_iff_eq.mp htenant⟩

theorem eventInvoice_eq (hkeyed : db.WellKeyed) {invoice : SupplierInvoice} (hinvoice : invoice ∈ db.invoices)
    (hid : invoice.id = event.aggregateId) (htenant : invoice.tenantId = event.tenantId) :
    eventInvoice db event = some invoice := by
  have hfind : (db.invoices.find? fun row ↦ row.id == event.aggregateId) = some invoice :=
    Table.find?_eq_some_of_unique hinvoice (beq_iff_eq.mpr hid) fun _ hother hsame ↦
      Table.eq_of_key hkeyed.invoices.keys hother hinvoice ((beq_iff_eq.mp hsame).trans hid.symm)
  rw [eventInvoice, hfind]
  simp [htenant]

/-- A session that adds an inbox row records the event. -/
theorem recorded_of_insert (status : InboxStatus) (lastError : Option String) (hunseen : ¬Seen db event)
    (hinbox : writes.inboxEvents = [.insert (newInbox call event status lastError)]) :
    Recorded db event (writes.apply db) := by
  have hrows : (writes.apply db).inboxEvents = db.inboxEvents ++ [newInbox call event status lastError] := by
    simp only [Writes.apply, hinbox]
    rfl
  refine ⟨hunseen, fun other ↦ ?_⟩
  simp only [Seen, hrows, List.mem_append, List.mem_singleton, or_and_right, exists_or, exists_eq_left]
  simp [newInbox]

/-- What a delivery leaves behind, when the database has not cut it short. -/
theorem received_of_step (hrequest : call.request = .consumeGstEvent event)
    (houtput : ((erp rounding).step db call).1 ≠ .error .integrity) :
    Received db event ((erp rounding).step db call).2 := by
  have hserve : serve rounding db call = consumeGstEvent rounding db call event := by
    simp only [serve, hrequest]
  have hstep : (erp rounding).step db call =
      (sessions rounding).close db call.refused (consumeGstEvent rounding db call event) := by
    rw [← hserve]
    rfl
  rw [hstep] at houtput ⊢
  have hcommit (answer : ErpAnswer) (writes : Writes)
      (hok : ((sessions rounding).close db call.refused (.ok (answer, some writes))).1 ≠ .error .integrity) :
      writes.Accepted db ∧
        ((sessions rounding).close db call.refused (.ok (answer, some writes))).2 = writes.apply db := by
    simp only [Service.close] at hok ⊢
    split at hok
    next hadmitted =>
      rw [if_pos hadmitted]
      exact ⟨Writes.accepted_iff.mp (Bool.and_eq_true_iff.mp hadmitted).2, rfl⟩
    · exact absurd rfl hok
  generalize hresult : consumeGstEvent rounding db call event = result at houtput ⊢
  have hconsumes := consumes rounding db call event
  rw [hresult] at hconsumes
  cases hconsumes with
  | duplicate answer hseen => exact .ignored (Or.inl hseen) rfl
  | refused failure hunreadable => exact .ignored (Or.inr hunreadable) rfl
  | noted answer status lastError hunseen hidle =>
    rw [(hcommit _ _ houtput).2]
    exact .noted (recorded_of_insert status lastError hunseen rfl) hidle rfl
  | added answer detail settled changed hunseen hnone hdetail hid htenant hsettles =>
    obtain ⟨haccepted, happly⟩ := hcommit _ _ houtput
    have hdetailed : event.Detailed := ⟨detail, hdetail, hid, htenant⟩
    have hsame := hsettles.register
    obtain ⟨htenantId, hversion, hstatus⟩ :=
      follow_register rounding event (newInvoice rounding detail) (some detail)
    rw [happly]
    refine .stored settled (recorded_of_insert .processed none hunseen rfl) hdetailed.readable
      (Or.inl ⟨hnone, hdetailed⟩) ?_ ⟨?_, ?_, hsame.sourceVersion.trans hversion, hsame.gstStatus.trans hstatus⟩
    · exact List.mem_append_right db.invoices (List.mem_singleton.mpr rfl)
    · exact hsame.id.trans ((follow_id rounding event _ _).trans hid)
    · exact hsame.tenantId.trans (htenantId.trans htenant)
  | followed answer snapshot invoice settled changed hunseen hreadable hheld hnewer hsettles =>
    obtain ⟨haccepted, happly⟩ := hcommit _ _ houtput
    obtain ⟨hinvoice, hid, htenant⟩ := eventInvoice_some hheld
    have hsame := hsettles.register
    obtain ⟨htenantId, hversion, hstatus⟩ := follow_register rounding event invoice snapshot
    have hsettledId : settled.id = invoice.id := hsame.id.trans (follow_id rounding event _ _)
    rw [happly]
    refine .stored settled (recorded_of_insert .processed none hunseen rfl) hreadable
      (Or.inr ⟨invoice, hheld, hnewer⟩) ?_
      ⟨hsettledId.trans hid, hsame.tenantId.trans (htenantId.trans htenant),
        hsame.sourceVersion.trans hversion, hsame.gstStatus.trans hstatus⟩
    exact Table.changed_mem_replace hinvoice hsettledId.symm

/-- A move of another call writes invoices only with a new status of their match. -/
theorem Move.quiet (hmove : Move rounding db call writes)
    (hother : ∀ event, call.request ≠ .consumeGstEvent event) :
    writes.inboxEvents = [] ∧ ∀ write ∈ writes.invoices, ∃ old ∈ db.invoices, ∃ status,
      write = .update (old.setMatching status) := by
  cases hmove with
  | receiptPosted tenantId receipt order lineWrites recalculated hpost =>
    refine ⟨rfl, List.forall_mem_map.mpr fun done hdone ↦ ?_⟩
    obtain ⟨invoice, hinvoice, token, seen, -, hdone⟩ := recalculateAll_mem hpost.matched done hdone
    exact ⟨invoice, (List.mem_filter.mp hinvoice).1, _, congrArg _ (recalculate_invoice hdone)⟩
  | recalculated tenantId invoice done hstored hdone =>
    refine ⟨rfl, List.forall_mem_singleton.mpr ?_⟩
    exact ⟨invoice, hstored, _, congrArg _ (recalculate_invoice hdone)⟩
  | accepted tenantId value body invoice haccept =>
    refine ⟨rfl, List.forall_mem_singleton.mpr ?_⟩
    exact ⟨invoice, findRow_mem haccept.heldInvoice, _, rfl⟩
  | disputed value body invoice hstored hinvoice =>
    exact ⟨rfl, List.forall_mem_singleton.mpr ⟨invoice, hinvoice, _, rfl⟩⟩
  | eventNoted event status lastError hrequest => exact absurd hrequest (hother event)
  | invoiceAdded event snapshot settled changed hsettles hcarries =>
    exact absurd hcarries.request (hother event)
  | invoiceFollowed event snapshot invoice settled changed hfollows =>
    exact absurd hfollows.request (hother event)
  | orderCreated => exact ⟨rfl, nofun⟩
  | orderMoved => exact ⟨rfl, nofun⟩
  | receiptCreated => exact ⟨rfl, nofun⟩

theorem quiet_of_move (hmove : Move rounding db call writes) (hregular : Regular db)
    (hother : ∀ event, call.request ≠ .consumeGstEvent event) : Quiet db (writes.apply db) := by
  obtain ⟨hinbox, hinvoices⟩ := hmove.quiet hother
  refine ⟨fun event ↦ ?_, fun row hrow ↦ ?_, fun old hold ↦ ?_⟩
  · simp only [Seen, Writes.apply, hinbox, RowWrite.applyAll_nil]
  · rcases RowWrite.mem_applyAll hrow with ⟨write, hwrite, rfl⟩ | ⟨hold, -⟩
    · obtain ⟨old, hold, status, rfl⟩ := hinvoices write hwrite
      exact ⟨old, hold, rfl, rfl, rfl, rfl⟩
    · exact ⟨row, hold, .refl row⟩
  · obtain ⟨row, hrow, -, hsame⟩ := RowWrite.exists_applyAll invoiceConstraints
      (fun row ↦ SameRegister row old) hold (.refl old) fun changed hchanged hid ↦ by
        obtain ⟨stored, hstored, status, hwrite⟩ := hinvoices _ hchanged
        obtain rfl := RowWrite.update.inj hwrite
        obtain rfl := Table.eq_of_key hregular.keyed.invoices.keys hstored hold hid
        exact ⟨rfl, rfl, rfl, rfl⟩
    exact ⟨row, hrow, hsame⟩

/-- A call that delivers nothing is quiet. -/
theorem quiet_of_step (hregular : Regular db)
    (hother : ∀ event, ¬Delivers ((erp rounding).entry db call) event) :
    Quiet db ((erp rounding).step db call).2 := by
  by_cases hrequest : ∃ event, call.request = .consumeGstEvent event
  · obtain ⟨event, hrequest⟩ := hrequest
    have hfailed : ((erp rounding).step db call).1 = .error .integrity :=
      not_not.mp fun houtput ↦ hother event ⟨hrequest, houtput⟩
    have hsame : ((erp rounding).step db call).2 = db := (sessions rounding).step_error hfailed
    rw [hsame]
    exact .refl db
  · refine (sessions rounding).step_kept (Quiet db) (.refl db) fun answer writes hserve _ _ ↦ ?_
    exact quiet_of_move (move_of_serve hserve) hregular fun event h ↦ hrequest ⟨event, h⟩

end Step

/-! ## The register over a run -/

/-- The delivery by which an event takes effect. -/
structure TakesEffect (invoiceId : String) (e : Entry ErpDb ErpCall (Except ErpError ErpAnswer))
    (event : GstEventEnvelope) : Prop where
  delivers : Delivers e event
  unseen : ¬Seen e.before event
  readable : event.Readable
  timely : event.Detailed ∨ Known e.before invoiceId

/-- The invoice shows the newest event that has taken effect, and an event that was recorded without an
effect takes none later. -/
structure Tracks (stream : InvoiceEvents) (history : List (Entry ErpDb ErpCall (Except ErpError ErpAnswer)))
    (db : ErpDb) : Prop where
  regular : Regular db
  seen : ∀ event ∈ stream.events, Seen db event → ∃ e ∈ history, Delivers e event ∧ ¬Seen e.before event
  recorded : ∀ event ∈ stream.events, event.Readable → (∃ e ∈ history, Delivers e event) → Seen db event
  shown : ∀ row ∈ db.invoices, row.id = stream.invoiceId → row.tenantId = stream.tenantId ∧
    ∃ event ∈ stream.events, (∃ e ∈ history, TakesEffect stream.invoiceId e event) ∧
      row.sourceVersion = event.aggregateVersion ∧ row.gstStatus = event.eventType.gstStatus
  newest : ∀ event ∈ stream.events, (∃ e ∈ history, TakesEffect stream.invoiceId e event) →
    ∃ row ∈ db.invoices, row.id = stream.invoiceId ∧ event.aggregateVersion ≤ row.sourceVersion
  early : ∀ event ∈ stream.events, (∃ e ∈ history, TakesEffect stream.invoiceId e event) →
    event.Detailed ∨ ∀ e ∈ history, Delivers e event → Known e.before stream.invoiceId

/-- An ERP that knows neither the invoice nor its events. -/
structure Awaiting (stream : InvoiceEvents) where
  db : ErpDb
  regular : Regular db
  unknown : ¬Known db stream.invoiceId
  unseen : ∀ event ∈ stream.events, ¬Seen db event

section Run

variable {rounding : Rounding} {stream : InvoiceEvents} {db : ErpDb} {call : ErpCall}
  {history : List (Entry ErpDb ErpCall (Except ErpError ErpAnswer))}

theorem InvoiceEvents.eq_of_eventId {first second : GstEventEnvelope} (hfirst : first ∈ stream.events)
    (hsecond : second ∈ stream.events) (h : first.eventId = second.eventId) : first = second :=
  Table.eq_of_key stream.eventIds hfirst hsecond h

theorem InvoiceEvents.eq_of_version {first second : GstEventEnvelope} (hfirst : first ∈ stream.events)
    (hsecond : second ∈ stream.events) (h : first.aggregateVersion = second.aggregateVersion) :
    first = second :=
  Table.eq_of_key stream.versions hfirst hsecond h

theorem Tracks.of_start (start : Awaiting stream) : Tracks stream [] start.db where
  regular := start.regular
  seen event hevent hseen := absurd hseen (start.unseen event hevent)
  recorded _ _ _ hdelivered := by simp at hdelivered
  shown row hrow hid := absurd (List.mem_map.mpr ⟨row, hrow, hid⟩) start.unknown
  newest _ _ heffect := by simp at heffect
  early _ _ heffect := by simp at heffect

/-- The events of the invoice find it in its tenant. -/
theorem Tracks.held (h : Tracks stream history db) {event : GstEventEnvelope} (hevent : event ∈ stream.events)
    {row : SupplierInvoice} (hrow : row ∈ db.invoices) (hid : row.id = stream.invoiceId) :
    eventInvoice db event = some row := by
  obtain ⟨htenant, haggregate⟩ := stream.ofInvoice event hevent
  exact eventInvoice_eq h.regular.keyed hrow (hid.trans haggregate.symm)
    ((h.shown row hrow hid).1.trans htenant.symm)

/-- Entries that take effect after a step are those of before and the step itself. -/
theorem effect_append {event : GstEventEnvelope} {e : Entry ErpDb ErpCall (Except ErpError ErpAnswer)} :
    (∃ other ∈ history ++ [e], TakesEffect stream.invoiceId other event) ↔
      (∃ other ∈ history, TakesEffect stream.invoiceId other event) ∨
        TakesEffect stream.invoiceId e event := by
  simp [or_and_right, exists_or]

/-- A quiet step by which no event takes effect keeps the register. -/
theorem Tracks.quiet (h : Tracks stream history db)
    {e : Entry ErpDb ErpCall (Except ErpError ErpAnswer)} (hbefore : e.before = db) {after : ErpDb}
    (hregular : Regular after) (hquiet : Quiet db after)
    (hdone : ∀ event ∈ stream.events, Delivers e event → Seen db event ∨ ¬event.Readable) :
    Tracks stream (history ++ [e]) after := by
  have hno (event : GstEventEnvelope) (hevent : event ∈ stream.events) :
      ¬TakesEffect stream.invoiceId e event := by
    intro heffect
    rcases hdone event hevent heffect.delivers with hseen | hunreadable
    · exact heffect.unseen (hbefore ▸ hseen)
    · exact hunreadable heffect.readable
  have heffects (event : GstEventEnvelope) (hevent : event ∈ stream.events) :
      (∃ other ∈ history ++ [e], TakesEffect stream.invoiceId other event) →
        ∃ other ∈ history, TakesEffect stream.invoiceId other event := by
    rw [effect_append]
    exact fun heffect ↦ heffect.resolve_right (hno event hevent)
  refine ⟨hregular, fun event hevent hseen ↦ ?_, ?_, fun row hrow hid ↦ ?_, ?_, ?_⟩
  · obtain ⟨other, hother, hfirst⟩ := h.seen event hevent ((hquiet.seen event).mp hseen)
    exact ⟨other, List.mem_append_left _ hother, hfirst⟩
  · rintro event hevent hreadable ⟨other, hother, hdelivers⟩
    rw [hquiet.seen]
    rcases List.mem_append.mp hother with hold | hnew
    · exact h.recorded event hevent hreadable ⟨other, hold, hdelivers⟩
    · obtain rfl := List.mem_singleton.mp hnew
      exact (hdone event hevent hdelivers).resolve_right fun hnot ↦ hnot hreadable
  · obtain ⟨old, hold, hsame⟩ := hquiet.back row hrow
    obtain ⟨htenant, event, hevent, heffect, hversion, hstatus⟩ :=
      h.shown old hold (hsame.id.symm.trans hid)
    exact ⟨hsame.tenantId.trans htenant, event, hevent, effect_append.mpr (Or.inl heffect),
      hsame.sourceVersion.trans hversion, hsame.gstStatus.trans hstatus⟩
  · intro event hevent heffect
    obtain ⟨old, hold, hid, hversion⟩ := h.newest event hevent (heffects event hevent heffect)
    obtain ⟨row, hrow, hsame⟩ := hquiet.forth old hold
    exact ⟨row, hrow, hsame.id.trans hid, hsame.sourceVersion ▸ hversion⟩
  · intro event hevent heffect
    have hold := heffects event hevent heffect
    refine (h.early event hevent hold).imp_right fun hknown other hother hdelivers ↦ ?_
    rcases List.mem_append.mp hother with hbefore' | hnew
    · exact hknown other hbefore' hdelivers
    · obtain rfl := List.mem_singleton.mp hnew
      obtain ⟨row, hrow, hid, -⟩ := h.newest event hevent hold
      rw [hbefore]
      exact List.mem_map.mpr ⟨row, hrow, hid⟩

theorem Delivers.eq {e : Entry ErpDb ErpCall (Except ErpError ErpAnswer)} {first second : GstEventEnvelope}
    (hfirst : Delivers e first) (hsecond : Delivers e second) : first = second :=
  Request.consumeGstEvent.inj (hfirst.1.symm.trans hsecond.1)

/-- A step that records an event keeps the register when the invoice shows the newest effect. -/
theorem Tracks.record (h : Tracks stream history db) {event : GstEventEnvelope}
    (hevent : event ∈ stream.events) {e : Entry ErpDb ErpCall (Except ErpError ErpAnswer)}
    (hbefore : e.before = db) (hdelivers : Delivers e event) {after : ErpDb} (hregular : Regular after)
    (hrecorded : Recorded db event after)
    (hshown : ∀ row ∈ after.invoices, row.id = stream.invoiceId → row.tenantId = stream.tenantId ∧
      ∃ other ∈ stream.events, (∃ entry ∈ history ++ [e], TakesEffect stream.invoiceId entry other) ∧
        row.sourceVersion = other.aggregateVersion ∧ row.gstStatus = other.eventType.gstStatus)
    (hnewest : ∀ other ∈ stream.events,
      (∃ entry ∈ history, TakesEffect stream.invoiceId entry other) ∨
        TakesEffect stream.invoiceId e event ∧ other = event →
        ∃ row ∈ after.invoices, row.id = stream.invoiceId ∧ other.aggregateVersion ≤ row.sourceVersion) :
    Tracks stream (history ++ [e]) after := by
  refine ⟨hregular, fun other hother hseen ↦ ?_, ?_, hshown, fun other hother heffect ↦ ?_,
    fun other hother heffect ↦ ?_⟩
  · rcases (hrecorded.seen other).mp hseen with hold | hid
    · obtain ⟨entry, hentry, hfirst⟩ := h.seen other hother hold
      exact ⟨entry, List.mem_append_left _ hentry, hfirst⟩
    · obtain rfl := stream.eq_of_eventId hevent hother hid
      exact ⟨e, List.mem_append_right _ List.mem_cons_self, hdelivers, hbefore ▸ hrecorded.unseen⟩
  · rintro other hother hreadable ⟨entry, hentry, hentryDelivers⟩
    rw [hrecorded.seen]
    rcases List.mem_append.mp hentry with hold | hnew
    · exact Or.inl (h.recorded other hother hreadable ⟨entry, hold, hentryDelivers⟩)
    · obtain rfl := List.mem_singleton.mp hnew
      exact Or.inr (congrArg GstEventEnvelope.eventId (hdelivers.eq hentryDelivers))
  · rcases effect_append.mp heffect with hold | hnew
    · exact hnewest other hother (Or.inl hold)
    · obtain rfl := hdelivers.eq hnew.delivers
      exact hnewest event hother (Or.inr ⟨hnew, rfl⟩)
  · rcases effect_append.mp heffect with hold | hnew
    · refine (h.early other hother hold).imp_right fun hknown entry hentry hentryDelivers ↦ ?_
      rcases List.mem_append.mp hentry with hearlier | hlast
      · exact hknown entry hearlier hentryDelivers
      · obtain rfl := List.mem_singleton.mp hlast
        obtain ⟨row, hrow, hid, -⟩ := h.newest other hother hold
        rw [hbefore]
        exact List.mem_map.mpr ⟨row, hrow, hid⟩
    · refine hnew.timely.imp_right fun hknown entry hentry hentryDelivers ↦ ?_
      rcases List.mem_append.mp hentry with hearlier | hlast
      · -- an earlier delivery would have recorded the event
        exact absurd (h.recorded other hother hnew.readable ⟨entry, hearlier, hentryDelivers⟩)
          (hbefore ▸ hnew.unseen)
      · obtain rfl := List.mem_singleton.mp hlast
        exact hknown

/-- A delivery keeps the register. -/
theorem Tracks.receive (h : Tracks stream history db) {event : GstEventEnvelope}
    (hevent : event ∈ stream.events) {e : Entry ErpDb ErpCall (Except ErpError ErpAnswer)}
    (hbefore : e.before = db) (hdelivers : Delivers e event) {after : ErpDb} (hregular : Regular after)
    (hreceived : Received db event after) : Tracks stream (history ++ [e]) after := by
  have hold {row : SupplierInvoice} (hrow : row ∈ db.invoices) (hid : row.id = stream.invoiceId) :
      row.tenantId = stream.tenantId ∧ ∃ other ∈ stream.events,
        (∃ entry ∈ history ++ [e], TakesEffect stream.invoiceId entry other) ∧
          row.sourceVersion = other.aggregateVersion ∧ row.gstStatus = other.eventType.gstStatus := by
    obtain ⟨htenant, other, hother, heffect, hshows⟩ := h.shown row hrow hid
    exact ⟨htenant, other, hother, effect_append.mpr (Or.inl heffect), hshows⟩
  cases hreceived with
  | ignored hdone hsame =>
    obtain rfl := hsame
    refine h.quiet hbefore h.regular (.refl after) fun other hother hotherDelivers ↦ ?_
    obtain rfl := hdelivers.eq hotherDelivers
    exact hdone
  | noted hrecorded hidle hinvoices =>
    refine h.record hevent hbefore hdelivers hregular hrecorded ?_ ?_
    · rw [hinvoices]
      exact fun row hrow hid ↦ hold hrow hid
    · rw [hinvoices]
      rintro other hother (hearlier | ⟨heffect, rfl⟩)
      · exact h.newest other hother hearlier
      · cases hidle with
        | unreadable hunreadable => exact absurd heffect.readable hunreadable
        | early hnone hdetail =>
          obtain ⟨row, hrow, hid⟩ := List.mem_map.mp (hbefore ▸ heffect.timely.resolve_left hdetail)
          rw [h.held hother hrow hid] at hnone
          cases hnone
        | stale invoice hheld hstale =>
          obtain ⟨hinvoice, hid, -⟩ := eventInvoice_some hheld
          exact ⟨invoice, hinvoice, hid.trans (stream.ofInvoice _ hother).2, hstale⟩
  | stored settled hrecorded hreadable hcase hstored hshows =>
    obtain ⟨hid, htenant, hversion, hstatus⟩ := hshows
    obtain ⟨htenantId, haggregate⟩ := stream.ofInvoice event hevent
    have heffect : TakesEffect stream.invoiceId e event := by
      refine ⟨hdelivers, hbefore ▸ hrecorded.unseen, hreadable, hcase.imp And.right ?_⟩
      rintro ⟨invoice, hheld, -⟩
      obtain ⟨hinvoice, hinvoiceId, -⟩ := eventInvoice_some hheld
      rw [hbefore]
      exact List.mem_map.mpr ⟨invoice, hinvoice, hinvoiceId.trans haggregate⟩
    refine h.record hevent hbefore hdelivers hregular hrecorded (fun row hrow hrowId ↦ ?_) ?_
    · obtain rfl := Table.eq_of_key hregular.keyed.invoices.keys hrow hstored
        (hrowId.trans (hid.trans haggregate).symm)
      exact ⟨htenant.trans htenantId, event, hevent, effect_append.mpr (Or.inr heffect), hversion, hstatus⟩
    · rintro other hother (hearlier | ⟨-, rfl⟩)
      · obtain ⟨row, hrow, hrowId, hle⟩ := h.newest other hother hearlier
        have hheld := h.held hevent hrow hrowId
        refine ⟨settled, hstored, hid.trans haggregate, ?_⟩
        rcases hcase with ⟨hnone, -⟩ | ⟨invoice, hinvoice, hnewer⟩
        · rw [hheld] at hnone
          cases hnone
        · rw [hheld] at hinvoice
          obtain rfl := Option.some.inj hinvoice
          rw [hversion]
          exact hle.trans hnewer.le
      · exact ⟨settled, hstored, hid.trans haggregate, hversion.ge⟩

/-- Every call keeps the register. -/
theorem Tracks.step (h : Tracks stream history db)
    (hevents : ∀ event, call.request = .consumeGstEvent event → event ∈ stream.events) :
    Tracks stream (history ++ [(erp rounding).entry db call]) ((erp rounding).step db call).2 := by
  have hregular := h.regular.step rounding call
  by_cases hdelivery : ∃ event, Delivers ((erp rounding).entry db call) event
  · obtain ⟨event, hdelivers⟩ := hdelivery
    exact h.receive (hevents event hdelivers.1) rfl hdelivers hregular
      (received_of_step hdelivers.1 hdelivers.2)
  · have hnone : ∀ event, ¬Delivers ((erp rounding).entry db call) event :=
      fun event hdelivers ↦ hdelivery ⟨event, hdelivers⟩
    exact h.quiet rfl hregular (quiet_of_step h.regular hnone) fun event _ hdelivers ↦
      absurd hdelivers (hnone event)

theorem tracks_run (rounding : Rounding) (start : Awaiting stream) (calls : List ErpCall)
    (hcalls : ∀ call ∈ calls, ∀ event, call.request = .consumeGstEvent event → event ∈ stream.events) :
    Tracks stream ((erp rounding).log start.db calls) ((erp rounding).run start.db calls) := by
  refine (erp rounding).history_invariant (Tracks stream)
    (fun e ↦ ∀ event, e.input.request = .consumeGstEvent event → event ∈ stream.events) (.of_start start)
    (fun history db call h hadmitted ↦ h.step hadmitted) calls fun e he ↦ ?_
  exact hcalls e.input ((erp rounding).input_mem he)

end Run

/-! ## The exact condition -/

/-- The invoice shows the newest event after any deliveries exactly when that event can be read and
carries the snapshot or is not delivered before the invoice is known. -/
theorem events_converge_iff (rounding : Rounding) (stream : InvoiceEvents) (start : Awaiting stream)
    (calls : List ErpCall) (top : GstEventEnvelope) (htop : top ∈ stream.events)
    (hnewest : ∀ event ∈ stream.events, event.aggregateVersion ≤ top.aggregateVersion)
    (hcalls : ∀ call ∈ calls, ∀ event, call.request = .consumeGstEvent event → event ∈ stream.events)
    (hredelivered : ∀ event ∈ stream.events, ∃ e ∈ (erp rounding).log start.db calls,
      Delivers e event ∧ Known e.before stream.invoiceId) :
    Shows ((erp rounding).run start.db calls) stream.invoiceId top ↔
      top.Readable ∧ (top.Detailed ∨ ∀ e ∈ (erp rounding).log start.db calls, Delivers e top →
        Known e.before stream.invoiceId) := by
  have htracks := tracks_run rounding start calls hcalls
  constructor
  · rintro ⟨row, hrow, hid, hversion, -⟩
    obtain ⟨-, event, hevent, heffect, hsame, -⟩ := htracks.shown row hrow hid
    obtain rfl := stream.eq_of_version hevent htop (hsame.symm.trans hversion)
    obtain ⟨e, he, hfirst⟩ := heffect
    exact ⟨hfirst.readable, htracks.early event hevent ⟨e, he, hfirst⟩⟩
  · rintro ⟨hreadable, htimely⟩
    obtain ⟨e, he, hdelivers, hknown⟩ := hredelivered top htop
    have hseen : Seen ((erp rounding).run start.db calls) top :=
      htracks.recorded top htop hreadable ⟨e, he, hdelivers⟩
    obtain ⟨first, hfirst, hfirstDelivers, hunseen⟩ := htracks.seen top htop hseen
    have heffect : TakesEffect stream.invoiceId first top :=
      ⟨hfirstDelivers, hunseen, hreadable, htimely.imp_right fun h ↦ h first hfirst hfirstDelivers⟩
    obtain ⟨row, hrow, hid, hle⟩ := htracks.newest top htop ⟨first, hfirst, heffect⟩
    obtain ⟨-, event, hevent, -, hversion, hstatus⟩ := htracks.shown row hrow hid
    have hsame : event.aggregateVersion = top.aggregateVersion :=
      Int.le_antisymm (hnewest event hevent) (hversion ▸ hle)
    obtain rfl := stream.eq_of_version hevent htop hsame
    exact ⟨row, hrow, hid, hversion, hstatus⟩

/-! ## A cancellation that comes first -/

section Cancellation

theorem cancellation_version : (1 : Int) ≤ 2 := by decide

/-- The invoice of the motors is cancelled. -/
def motorCancellation : GstEventEnvelope where
  eventId := "inv_1_cancelled"
  eventType := .cancelled
  tenantId := "tenant"
  aggregateId := "inv_1"
  aggregateVersion := 2
  invoiceSnapshot := .absent
  aggregateVersion_pos := cancellation_version

def motorEvents : InvoiceEvents where
  tenantId := "tenant"
  invoiceId := "inv_1"
  events := [motorInvoiceEvent "inv_1", motorCancellation]
  ofInvoice := by simp [motorInvoiceEvent, motorCancellation]
  versions := by decide
  eventIds := by decide
  detailed := ⟨motorInvoiceEvent "inv_1", List.mem_cons_self, motorInvoice "inv_1", rfl, rfl, rfl⟩

def awaitingMotors : Awaiting motorEvents where
  db := counterpartiesOnly.db
  regular := counterpartiesOnly.regular
  unknown := by simp [Known, counterpartiesOnly, Deliveries.ofCounterparties]
  unseen := by simp [Seen, counterpartiesOnly, Deliveries.ofCounterparties]

def deliverRegistered (draw : String) : ErpCall := drawing draw (.consumeGstEvent (motorInvoiceEvent "inv_1"))

def deliverCancelled (draw : String) : ErpCall := drawing draw (.consumeGstEvent motorCancellation)

/-- A call of a run as a delivery to an ERP that knows the invoice. -/
theorem redelivered_at {start : ErpDb} (earlier : List ErpCall) (call : ErpCall) {later : List ErpCall}
    {event : GstEventEnvelope} {invoiceId : String} (hrequest : call.request = .consumeGstEvent event)
    (houtput : (((erp .halfUp).step ((erp .halfUp).run start earlier) call).1 matches .ok _) = true)
    (hknown : Known ((erp .halfUp).run start earlier) invoiceId) :
    ∃ e ∈ (erp .halfUp).log start (earlier ++ call :: later), Delivers e event ∧ Known e.before invoiceId := by
  refine ⟨_, ((erp .halfUp).mem_log_iff start _ _).mpr ⟨earlier, call, later, rfl, rfl⟩,
    ⟨hrequest, fun hfailed ↦ ?_⟩, hknown⟩
  have hsame : ((erp .halfUp).step ((erp .halfUp).run start earlier) call).1 = .error .integrity := hfailed
  rw [hsame] at houtput
  cases houtput

instance (db : ErpDb) (invoiceId : String) : Decidable (Known db invoiceId) :=
  inferInstanceAs (Decidable (invoiceId ∈ db.invoices.map SupplierInvoice.id))

instance (db : ErpDb) (invoiceId : String) (event : GstEventEnvelope) :
    Decidable (Shows db invoiceId event) :=
  inferInstanceAs (Decidable (∃ row ∈ db.invoices, row.id = invoiceId ∧
    row.sourceVersion = event.aggregateVersion ∧ row.gstStatus = event.eventType.gstStatus))

/-- The cancellation is delivered before the registration, and both are delivered again. -/
theorem cancellation_lost :
    (∀ event ∈ motorEvents.events, ∃ e ∈ (erp .halfUp).log awaitingMotors.db
      [deliverCancelled "a", deliverRegistered "b", deliverCancelled "c", deliverRegistered "d"],
        Delivers e event ∧ Known e.before "inv_1") ∧
      ¬Shows ((erp .halfUp).run awaitingMotors.db
        [deliverCancelled "a", deliverRegistered "b", deliverCancelled "c", deliverRegistered "d"])
        "inv_1" motorCancellation := by
  refine ⟨List.forall_mem_cons.mpr ⟨?_, List.forall_mem_singleton.mpr ?_⟩, by decide +kernel⟩
  · exact redelivered_at [deliverCancelled "a", deliverRegistered "b", deliverCancelled "c"]
      (deliverRegistered "d") rfl (by decide +kernel) (by decide +kernel)
  · exact redelivered_at [deliverCancelled "a", deliverRegistered "b"] (deliverCancelled "c") rfl
       (by decide +kernel) (by decide +kernel)

theorem cancellation_shown :
    Shows ((erp .halfUp).run awaitingMotors.db
      [deliverRegistered "a", deliverCancelled "b", deliverRegistered "c", deliverCancelled "d"])
      "inv_1" motorCancellation := by
  have hcancelled (e) (he : e ∈ (erp .halfUp).log awaitingMotors.db
      [deliverRegistered "a", deliverCancelled "b", deliverRegistered "c", deliverCancelled "d"])
      (hdelivers : Delivers e motorCancellation) : Known e.before "inv_1" := by
    have hknown : ∀ e ∈ ((erp .halfUp).log awaitingMotors.db [deliverRegistered "a", deliverCancelled "b",
        deliverRegistered "c", deliverCancelled "d"]).tail, Known e.before "inv_1" := by
      decide +kernel
    rcases List.mem_cons.mp he with rfl | htail
    · have hsame : motorInvoiceEvent "inv_1" = motorCancellation :=
        Request.consumeGstEvent.inj hdelivers.1
      exact absurd (congrArg GstEventEnvelope.eventType hsame) (by decide)
    · exact hknown e htail
  refine (events_converge_iff .halfUp motorEvents awaitingMotors _ motorCancellation
    (List.mem_cons_of_mem _ List.mem_cons_self) ?_ ?_ ?_).mpr ⟨⟨none, rfl, rfl⟩, Or.inr hcancelled⟩
  · simp [motorEvents, motorInvoiceEvent, motorCancellation]
  · simp [deliverRegistered, deliverCancelled, drawing, motorEvents]
  · refine List.forall_mem_cons.mpr ⟨?_, List.forall_mem_singleton.mpr ?_⟩
    · exact redelivered_at [deliverRegistered "a", deliverCancelled "b"] (deliverRegistered "c") rfl
        (by decide +kernel) (by decide +kernel)
    · exact redelivered_at [deliverRegistered "a", deliverCancelled "b", deliverRegistered "c"]
        (deliverCancelled "d") rfl (by decide +kernel) (by decide +kernel)

end Cancellation

end Xyena.Erp
