import Xyena.Funder.Invariant

/-!
# Disbursement, settlement and confirmation

An external event sets the status of a commitment by its version alone, from
whatever state the commitment is in. When no event disburses or settles a
commitment that was not confirmed, and none but a settlement reaches a settled
one, then every disbursed or settled commitment was confirmed before, settled
commitments stay settled, and the capacity of a counted commitment stays
committed. The condition is exact.
-/

namespace Xyena.Funder

open Xyena.Foundation Xyena.Foundation.Session

abbrev History := List (Entry FunderDb FunderCall (Except FunderError FunderAnswer))

/-! ## Capacity that is committed -/

/-- The reservation with an identifier is committed. -/
def CapacityCommitted (db : FunderDb) (reservationId : String) : Prop :=
  ∃ row ∈ db.reservations, row.id = reservationId ∧ row.status = .committed

section Step

variable {rounding : Rounding} {sha256 : String → String} {db : FunderDb} {call : FunderCall}
    {answer : FunderAnswer}
  {writes : Writes}

/-- A committed reservation stays when an active one is changed. -/
theorem committed_update {changed old : OfferReservation} {reservationId : String} (h : Regular db)
    (hcommitted : CapacityCommitted db reservationId) (hold : old ∈ db.reservations)
    (hactive : old.status = .active) (hid : changed.id = old.id) :
    ∃ row ∈ RowWrite.applyAll reservationConstraints db.reservations [.update changed],
      row.id = reservationId ∧ row.status = .committed := by
  refine Table.exists_replace changed h.keyed.reservations.keys hold hid ?_ hcommitted
  rintro ⟨-, hstatus⟩
  rw [hactive] at hstatus
  cases hstatus

/-- No move takes committed capacity back. -/
theorem Move.committed (hmove : Move rounding sha256 db call answer writes) (h : Regular db)
    {reservationId : String} (hcommitted : CapacityCommitted db reservationId) :
    CapacityCommitted (writes.apply db) reservationId := by
  cases hmove with
  | reserved =>
    obtain ⟨row, hrow, hkept⟩ := hcommitted
    exact ⟨row, List.mem_append_left _ hrow, hkept⟩
  | released _ _ _ value _ _ hrelease =>
    exact committed_update h hcommitted hrelease.heldValue.stored hrelease.active rfl
  | confirmed _ _ reservation _ _ hconfirm =>
    exact committed_update h hcommitted hconfirm.heldReservation.stored hconfirm.active rfl
  | applicationCreated => exact hcommitted
  | applicationReviewed => exact hcommitted
  | offerIssued => exact hcommitted
  | prepared => exact hcommitted
  | programMoved => exact hcommitted
  | eventIgnored => exact hcommitted
  | eventFollowed => exact hcommitted

/-! ## Where the commitments of a state come from -/

/-- How a commitment came into the state after a move. -/
inductive Origin (db : FunderDb) (call : FunderCall) (after : FunderDb) (row : FundingCommitment) : Prop
  | kept (hstored : row ∈ db.commitments)
  | prepared (hnew : ∀ old ∈ db.commitments, row.id ≠ old.id) (hstatus : row.status = .prepared)
      (hunauthorized : row.guardianAuthorizationId = none)
  | confirmed (tenantId : String) (value : FundingCommitment) (reservation : OfferReservation)
      (program : FundingProgram) (body : CommitmentConfirmRequest)
      (h : Confirms db call tenantId value reservation program body) (hrow : row = value.confirm body)
      (hcommitted : CapacityCommitted after value.reservationId)
  | followed (event : ExternalEventEnvelope) (value : FundingCommitment) (version : Int)
      (h : Follows db call event value version) (hrow : row = value.follow event version)
      (hfresh : ∀ old ∈ db.inboxEvents, call.token ≠ old.id)

theorem Move.origin (hmove : Move rounding sha256 db call answer writes) (haccepted : writes.Accepted db)
    {row : FundingCommitment} (hrow : row ∈ (writes.apply db).commitments) :
    Origin db call (writes.apply db) row := by
  cases hmove with
  | prepared tenantId reservation body h =>
    have hfree := RowWrite.accepted_insert.mp (RowWrite.accepted_of_singleton haccepted.commitments)
    rcases RowWrite.mem_written haccepted.commitments hrow with rfl | ⟨hold, -⟩
    · exact .prepared (fun old hold ↦ (hfree old hold).1) rfl rfl
    · exact .kept hold
  | confirmed tenantId value reservation program body h =>
    rcases RowWrite.mem_written haccepted.commitments hrow with rfl | ⟨hold, -⟩
    · have hid := h.heldReservation.id
      exact .confirmed tenantId value reservation program body h rfl
        ⟨reservation.commit value.id, Table.changed_mem_replace h.heldReservation.stored rfl, hid, rfl⟩
    · exact .kept hold
  | eventFollowed event signedPayloadHash value version h =>
    rcases RowWrite.mem_written haccepted.commitments hrow with rfl | ⟨hold, -⟩
    · have hfree := RowWrite.accepted_insert.mp (RowWrite.accepted_of_singleton haccepted.inboxEvents)
      exact .followed event value version h rfl fun old hold ↦ (hfree old hold).1
    · exact .kept hold
  | applicationCreated => exact .kept hrow
  | applicationReviewed => exact .kept hrow
  | offerIssued => exact .kept hrow
  | reserved => exact .kept hrow
  | released => exact .kept hrow
  | programMoved => exact .kept hrow
  | eventIgnored => exact .kept hrow

/-! ## Calls whose guards hold -/

/-- Whether the database takes the inbox row of an event. -/
def Taken (db : FunderDb) (call : FunderCall) : Prop :=
  call.refused = false ∧ ∀ row ∈ db.inboxEvents, call.token ≠ row.id

/-- An event that is newer than its commitment is followed. -/
theorem step_of_follows (rounding : Rounding) (sha256 : String → String) {event : ExternalEventEnvelope}
    {value : FundingCommitment} {version : Int} (hkeyed : db.WellKeyed)
    (h : Follows db call event value version) (htaken : Taken db call) :
    ∃ writes : Writes, (marketplace rounding sha256).step db call = (.ok (.processed event.eventId value.id),
        writes.apply db) ∧ writes.commitments = [.update (value.follow event version)] := by
  obtain ⟨payloadHash, hrequest⟩ := h.request
  have hunseen : (db.inboxEvents.find? fun row ↦
      row.sourceApplication == event.sourceApplication && row.eventId == event.eventId) = none := by
    refine List.find?_eq_none.mpr fun row hrow ↦ ?_
    simpa using h.unseen row hrow
  have hserve : serve rounding sha256 db call = .ok (.processed event.eventId value.id, some
      { commitments := [.update (value.follow event version)]
        inboxEvents := [.insert (newInbox call event payloadHash)] }) := by
    have hvalue : commitmentModel db event.tenantId event.aggregateId = .ok value :=
      h.heldValue.lookup hkeyed.commitments.keys
    simp only [serve, hrequest, consumeExternalEvent, hunseen]
    refine bind_ok.mpr ⟨value, hvalue, ?_⟩
    simp only [h.sentVersion, if_neg (Int.not_le.mpr h.newer)]
    rfl
  refine ⟨_, (sessions rounding sha256).step_commit hserve htaken.1 (Writes.accepted_iff.mpr ?_), rfl⟩
  refine ⟨rfl, rfl, rfl, rfl, ?_, ?_⟩
  · refine RowWrite.acceptedAll_update hkeyed.commitments h.heldValue.stored (follow_id ..) fun row ↦ ?_
    simp [commitmentConstraints]
  · refine RowWrite.acceptedAll_cons.mpr ⟨RowWrite.accepted_insert.mpr fun old hold ↦ ?_, rfl⟩
    refine ⟨htaken.2 old hold, ?_⟩
    simp only [inboxConstraints, newInbox, Bool.and_eq_false_imp, beq_iff_eq, beq_eq_false_iff_ne]
    exact fun hsource hid ↦ h.unseen old hold hsource.symm hid.symm

end Step

/-! ## The law and its condition -/

/-- A call of the history has confirmed the commitment. -/
def Confirmed (history : History) (commitmentId : String) : Prop :=
  ∃ e ∈ history, ∃ tenantId body answer,
    e.input.request = .confirmCommitment tenantId commitmentId body ∧ e.output = .ok answer

def statusOf (commitmentId : String) (db : FunderDb) : Option CommitmentStatus :=
  (db.commitments.find? fun row ↦ row.id == commitmentId).map FundingCommitment.status

/-- A marketplace in which no commitment has been confirmed yet. -/
structure Start where
  db : FunderDb
  regular : Regular db
  prepared : ∀ row ∈ db.commitments, row.status = .prepared ∧ row.guardianAuthorizationId = none

/-- What a run has to keep: a disbursed or settled commitment was confirmed before and its capacity is
committed, a settled one stays settled, and the capacity of a counted one stays committed. -/
structure DisbursementLaw (rounding : Rounding) (sha256 : String → String) (start : FunderDb)
    (calls : List FunderCall) :
    Prop where
  confirmed : ∀ earlier later, calls = earlier ++ later →
    ∀ row ∈ ((marketplace rounding sha256).run start earlier).commitments,
      row.status = .disbursed ∨ row.status = .settled →
        Confirmed ((marketplace rounding sha256).log start earlier) row.id ∧
          row.guardianAuthorizationId.isSome = true ∧
          CapacityCommitted ((marketplace rounding sha256).run start earlier) row.reservationId
  settled : ∀ commitmentId, (marketplace rounding sha256).Final (statusOf commitmentId)
    (· = some .settled) start
    calls
  kept : ∀ first second third, calls = first ++ second ++ third →
    ∀ row ∈ ((marketplace rounding sha256).run start first).commitments, row.status.counted = true →
      CapacityCommitted ((marketplace rounding sha256).run start (first ++ second)) row.reservationId

/-- An event that disburses or settles finds a confirmed commitment, and one that does not settle finds
a commitment that is not settled. -/
structure InOrder (event : ExternalEventEnvelope) (value : FundingCommitment) : Prop where
  confirmed : event.eventType ≠ .executionFailed → value.guardianAuthorizationId.isSome = true
  unsettled : event.eventType ≠ .settled → value.status ≠ .settled

/-- An event that the call follows is in order. -/
def EventInOrder (db : FunderDb) (call : FunderCall) : Prop :=
  ∀ event value version, Taken db call → Follows db call event value version → InOrder event value

/-! ## Runs whose events are in order -/

/-- What such runs keep. -/
structure Authorized (history : History) (db : FunderDb) : Prop where
  regular : Regular db
  counted : ∀ row ∈ db.commitments, row.status.counted = true →
    row.guardianAuthorizationId.isSome = true
  confirmed : ∀ row ∈ db.commitments, row.guardianAuthorizationId.isSome = true →
    Confirmed history row.id ∧ CapacityCommitted db row.reservationId

theorem Confirmed.append {history later : History} {commitmentId : String}
    (h : Confirmed history commitmentId) : Confirmed (history ++ later) commitmentId := by
  obtain ⟨e, he, hconfirms⟩ := h
  exact ⟨e, List.mem_append_left _ he, hconfirms⟩

theorem Start.authorized (start : Start) : Authorized [] start.db where
  regular := start.regular
  counted row hrow hcounted := by
    rw [(start.prepared row hrow).1] at hcounted
    cases hcounted
  confirmed row hrow hauthorized := by
    rw [(start.prepared row hrow).2] at hauthorized
    cases hauthorized

/-- Only a disbursement or a settlement makes a commitment count. -/
theorem counted_follow {value : FundingCommitment} {event : ExternalEventEnvelope} {version : Int}
    (h : (value.follow event version).status.counted = true) : event.eventType ≠ .executionFailed := by
  intro hfailed
  simp only [FundingCommitment.follow, hfailed] at h
  cases h

section Runs

variable {rounding : Rounding} {sha256 : String → String} {history : History} {db : FunderDb}
    {call : FunderCall}
  {answer : FunderAnswer} {writes : Writes}

/-- A move that follows no event out of order keeps the commitments authorized. -/
theorem Authorized.apply (h : Authorized history db) (horder : EventInOrder db call)
    (hmove : Move rounding sha256 db call answer writes) (hrefused : call.refused = false)
    (haccepted : writes.Accepted db)
    (hstep : (marketplace rounding sha256).step db call = (.ok answer, writes.apply db)) :
    Authorized (history ++ [(marketplace rounding sha256).entry db call]) (writes.apply db) := by
  have hold (row : FundingCommitment) (hrow : row ∈ db.commitments)
      (hauthorized : row.guardianAuthorizationId.isSome = true) :
      Confirmed (history ++ [(marketplace rounding sha256).entry db call]) row.id ∧
        CapacityCommitted (writes.apply db) row.reservationId := by
    obtain ⟨hconfirmed, hcommitted⟩ := h.confirmed row hrow hauthorized
    exact ⟨hconfirmed.append, hmove.committed h.regular hcommitted⟩
  refine ⟨h.regular.apply hmove haccepted, fun row hrow hcounted ↦ ?_, fun row hrow hauthorized ↦ ?_⟩
  · cases hmove.origin haccepted hrow with
    | kept hstored => exact h.counted row hstored hcounted
    | prepared hnew hstatus hunauthorized =>
      rw [hstatus] at hcounted
      cases hcounted
    | confirmed tenantId value reservation program body hconfirm hrow hcommitted =>
      rw [hrow]
      rfl
    | followed event value version hfollow hrow hfresh =>
      rw [hrow] at hcounted ⊢
      rw [follow_guardianAuthorizationId]
      exact (horder event value version ⟨hrefused, hfresh⟩ hfollow).confirmed (counted_follow hcounted)
  · cases hmove.origin haccepted hrow with
    | kept hstored => exact hold row hstored hauthorized
    | prepared hnew hstatus hunauthorized =>
      rw [hunauthorized] at hauthorized
      cases hauthorized
    | confirmed tenantId value reservation program body hconfirm hrow hcommitted =>
      rw [hrow]
      refine ⟨⟨_, List.mem_append_right _ List.mem_cons_self, tenantId, body, answer, ?_, ?_⟩, hcommitted⟩
      · exact hconfirm.request
      · exact congrArg Prod.fst hstep
    | followed event value version hfollow hrow hfresh =>
      rw [hrow, follow_guardianAuthorizationId] at hauthorized
      rw [hrow, follow_id, follow_reservationId]
      exact hold value hfollow.heldValue.stored hauthorized

/-- Every run whose events are in order keeps its commitments authorized. -/
theorem Start.run_authorized (start : Start) (calls : List FunderCall)
    (horder : ∀ e ∈ (marketplace rounding sha256).log start.db calls, EventInOrder e.before e.input) :
    Authorized ((marketplace rounding sha256).log start.db calls)
      ((marketplace rounding sha256).run start.db calls) := by
  refine (sessions rounding sha256).commit_history Authorized EventInOrder start.authorized ?_ ?_ calls horder
  · exact fun history db e h ↦ ⟨h.regular, h.counted, fun row hrow hauthorized ↦
      (h.confirmed row hrow hauthorized).imp_left Confirmed.append⟩
  · intro history db call answer writes h horder hserve hrefused haccepted hstep
    exact h.apply horder (move_of_serve hserve) hrefused (Writes.accepted_iff.mp haccepted) hstep

/-- Committed capacity stays committed through every run. -/
theorem committed_run {start : FunderDb} {reservationId : String} (hregular : Regular start)
    (hcommitted : CapacityCommitted start reservationId) (calls : List FunderCall) :
    CapacityCommitted ((marketplace rounding sha256).run start calls) reservationId := by
  have hrun := (sessions rounding sha256).commit_invariant (fun db ↦
    Regular db ∧ CapacityCommitted db reservationId)
    (fun _ _ ↦ True) ⟨hregular, hcommitted⟩ ?_ calls (fun _ _ ↦ trivial)
  · exact hrun.2
  · rintro db call answer writes ⟨hregular, hcommitted⟩ - hserve haccepted
    have hmove := move_of_serve hserve
    have haccepted := Writes.accepted_iff.mp haccepted
    exact ⟨hregular.apply hmove haccepted, hmove.committed hregular hcommitted⟩

end Runs

/-! ## Settled commitments -/

section Settled

variable {rounding : Rounding} {sha256 : String → String} {db : FunderDb} {call : FunderCall}

/-- The status of an identifier is the status of the commitment with it. -/
theorem statusOf_eq (hregular : Regular db) {row : FundingCommitment} (hrow : row ∈ db.commitments) :
    statusOf row.id db = some row.status := by
  have hfind : (db.commitments.find? fun other ↦ other.id == row.id) = some row := by
    refine Table.find?_eq_some_of_unique hrow (beq_self_eq_true _) fun other hother hsame ↦ ?_
    exact Table.eq_of_key hregular.keyed.commitments.keys hother hrow (beq_iff_eq.mp hsame)
  rw [statusOf, hfind, Option.map_some]

theorem statusOf_some {commitmentId : String} {status : CommitmentStatus}
    (h : statusOf commitmentId db = some status) :
    ∃ row ∈ db.commitments, row.id = commitmentId ∧ row.status = status := by
  obtain ⟨row, hfind, hstatus⟩ := Option.map_eq_some_iff.mp h
  have hid := List.find?_some hfind
  exact ⟨row, List.mem_of_find?_eq_some hfind, beq_iff_eq.mp hid, hstatus⟩

/-- A move that follows no event out of order leaves settled commitments settled. -/
theorem Move.settled {answer : FunderAnswer} {writes : Writes}
    (hmove : Move rounding sha256 db call answer writes)
    (hregular : Regular db) (haccepted : writes.Accepted db) (hrefused : call.refused = false)
    (horder : EventInOrder db call) {commitmentId : String}
    (hsettled : statusOf commitmentId db = some .settled) :
    statusOf commitmentId (writes.apply db) = some .settled := by
  obtain ⟨old, hold, hid, hstatus⟩ := statusOf_some hsettled
  have hkept : commitmentId ∈ (writes.apply db).commitments.map FundingCommitment.id :=
    RowWrite.key_mem_applyAll commitmentConstraints writes.commitments (hid ▸ List.mem_map_of_mem hold)
  obtain ⟨row, hrow, rfl⟩ := List.mem_map.mp hkept
  have hsame (value : FundingCommitment) (hvalue : value ∈ db.commitments) (h : value.id = row.id) :
      value = old :=
    Table.eq_of_key hregular.keyed.commitments.keys hvalue hold (h.trans hid.symm)
  rw [statusOf_eq (hregular.apply hmove haccepted) hrow]
  cases hmove.origin haccepted hrow with
  | kept hstored => rw [hsame row hstored rfl, hstatus]
  | prepared hnew => exact absurd hid.symm (hnew old hold)
  | confirmed tenantId value reservation program body hconfirm hconfirmed =>
    have hvalue := hsame value hconfirm.heldValue.stored (by rw [hconfirmed]; rfl)
    have hprepared := hconfirm.prepared
    rw [hvalue, hstatus] at hprepared
    cases hprepared
  | followed event value version hfollow hfollowed hfresh =>
    have hvalue := hsame value hfollow.heldValue.stored (by rw [hfollowed, follow_id])
    have hevent : event.eventType = .settled := by
      by_contra hother
      refine (horder event value version ⟨hrefused, hfresh⟩ hfollow).unsettled hother ?_
      rw [hvalue, hstatus]
    rw [hfollowed]
    simp only [FundingCommitment.follow, hevent]

/-- The same for a call, whichever way it ends. -/
theorem step_settled (hregular : Regular db) (horder : EventInOrder db call) {commitmentId : String}
    (hsettled : statusOf commitmentId db = some .settled) :
    statusOf commitmentId ((marketplace rounding sha256).step db call).2 = some .settled := by
  refine (sessions rounding sha256).step_kept (fun db ↦ statusOf commitmentId db = some .settled) hsettled ?_
  intro answer writes hserve hrefused haccepted
  exact (move_of_serve hserve).settled hregular (Writes.accepted_iff.mp haccepted) hrefused horder hsettled

end Settled

/-! ## The exact condition -/

section Exact

variable {rounding : Rounding} {sha256 : String → String}

theorem Start.regular_before (start : Start) {calls : List FunderCall}
    {e : Entry FunderDb FunderCall (Except FunderError FunderAnswer)}
    (he : e ∈ (marketplace rounding sha256).log start.db calls) : Regular e.before :=
  (marketplace rounding sha256).invariant_before Regular start.regular (fun _ call h ↦ h.step call) calls he

/-- Events in order are enough for the law. -/
theorem Start.law_of_order (start : Start) {calls : List FunderCall}
    (horder : ∀ e ∈ (marketplace rounding sha256).log start.db calls, EventInOrder e.before e.input) :
    DisbursementLaw rounding sha256 start.db calls := by
  have hauthorizedAfter (earlier later : List FunderCall) (hcalls : calls = earlier ++ later) :
      Authorized ((marketplace rounding sha256).log start.db earlier)
        ((marketplace rounding sha256).run start.db earlier) := by
    refine start.run_authorized earlier fun e he ↦ horder e ?_
    rw [hcalls, Machine.log_append]
    exact List.mem_append_left _ he
  refine ⟨fun earlier later hcalls row hrow hstatus ↦ ?_, fun commitmentId ↦ ?_, ?_⟩
  · have hauthorized := hauthorizedAfter earlier later hcalls
    have hcounted : row.status.counted = true := by
      rcases hstatus with hstatus | hstatus <;> rw [hstatus] <;> rfl
    have hguardian := hauthorized.counted row hrow hcounted
    obtain ⟨hconfirmed, hcommitted⟩ := hauthorized.confirmed row hrow hguardian
    exact ⟨hconfirmed, hguardian, hcommitted⟩
  · refine ((marketplace rounding sha256).final_iff (statusOf commitmentId) _ start.db calls).mpr ?_
    rintro e he hsettled
    obtain ⟨earlier, call, later, -, rfl⟩ := ((marketplace rounding sha256).mem_log_iff start.db calls
      e).mp he
    rw [hsettled]
    exact step_settled (start.regular_before he) (horder _ he) hsettled
  · intro first second third hcalls row hrow hcounted
    have hauthorized := hauthorizedAfter first (second ++ third) (by rw [hcalls, List.append_assoc])
    have hguardian := hauthorized.counted row hrow hcounted
    rw [Machine.run_append]
    exact committed_run hauthorized.regular (hauthorized.confirmed row hrow hguardian).2 second

/-- An event out of order breaks the law. -/
theorem Start.order_of_law (start : Start) {calls : List FunderCall}
    (h : DisbursementLaw rounding sha256 start.db calls) :
    ∀ e ∈ (marketplace rounding sha256).log start.db calls, EventInOrder e.before e.input := by
  intro e he event value version htaken hfollow
  have hregular := start.regular_before he
  obtain ⟨earlier, call, later, hcalls, rfl⟩ := ((marketplace rounding sha256).mem_log_iff start.db calls
    e).mp he
  obtain ⟨writes, hstep, hwrites⟩ := step_of_follows rounding sha256 hregular.keyed hfollow htaken
  have hstored := hfollow.heldValue.stored
  have hafter : (marketplace rounding sha256).run start.db (earlier ++ [call]) =
      writes.apply ((marketplace rounding sha256).run start.db earlier) := by
    rw [Machine.run_snoc]
    exact congrArg Prod.snd hstep
  have hrow : value.follow event version ∈
      ((marketplace rounding sha256).run start.db (earlier ++ [call])).commitments := by
    rw [hafter, Writes.apply, hwrites]
    exact Table.changed_mem_replace hstored (follow_id value event version).symm
  constructor
  · intro hevent
    have hdone : (value.follow event version).status = .disbursed ∨
        (value.follow event version).status = .settled := by
      cases htype : event.eventType with
      | disbursed => exact Or.inl (by simp only [FundingCommitment.follow, htype])
      | settled => exact Or.inr (by simp only [FundingCommitment.follow, htype])
      | executionFailed => exact absurd htype hevent
    have hbacked := h.confirmed (earlier ++ [call]) later (by simpa using hcalls) _ hrow hdone
    rw [← follow_guardianAuthorizationId value event version]
    exact hbacked.2.1
  · intro hevent hsettled
    have hbefore : statusOf value.id ((marketplace rounding sha256).run start.db earlier) = some .settled :=
      (statusOf_eq hregular hstored).trans (congrArg some hsettled)
    have hregularAfter : Regular ((marketplace rounding sha256).run start.db (earlier ++ [call])) :=
      (marketplace rounding sha256).run_invariant Regular start.regular (fun _ call h ↦ h.step call) _
    have hfinal := h.settled value.id earlier [call] later (by simpa using hcalls) hbefore
    rw [hbefore, ← follow_id value event version, statusOf_eq hregularAfter hrow, Option.some.injEq]
      at hfinal
    cases htype : event.eventType with
    | settled => exact hevent htype
    | disbursed =>
      simp only [FundingCommitment.follow, htype] at hfinal
      cases hfinal
    | executionFailed =>
      simp only [FundingCommitment.follow, htype] at hfinal
      cases hfinal

/-- The law holds of a run exactly when each of its events is in order. -/
theorem disbursement_backed_iff (start : Start) (calls : List FunderCall) :
    DisbursementLaw rounding sha256 start.db calls ↔
      ∀ e ∈ (marketplace rounding sha256).log start.db calls, EventInOrder e.before e.input :=
  ⟨start.order_of_law, start.law_of_order⟩

end Exact

/-! ## An event that finds a prepared commitment -/

section Unconfirmed

/-- A marketplace with one program. -/
def aurumStart : Start where
  db := { programs := [aurum] }
  regular := Regular.of_programs aurum_meets
  prepared := by simp

theorem beneficiary_length : 8 ≤ "beneficiary".toList.length ∧ "beneficiary".toList.length ≤ 140 := by
  decide

def loomDisbursed : ExternalEventEnvelope where
  eventId := "event"
  eventType := .disbursed
  sourceApplication := .demoBank
  tenantId := "tenant"
  aggregateId := "commitment_demo_5"
  aggregateVersion := some 2
  ledgerReference := ""

/-- The commitment is prepared and never confirmed. -/
def loomUnconfirmed : List FunderCall :=
  loomReserved ++
    [aurumCall "5" (.prepareCommitment "tenant" "reservation_demo_4" ⟨"beneficiary", beneficiary_length⟩),
      aurumCall "6" (.consumeExternalEvent loomDisbursed "digest")]

theorem unconfirmed_commitment_disbursed :
    ¬ DisbursementLaw .halfUp (fun text ↦ text) aurumStart.db loomUnconfirmed := by
  intro h
  have hdisbursed : ∃ row ∈ ((marketplace .halfUp fun text ↦ text).run aurumStart.db
    loomUnconfirmed).commitments, row.status = .disbursed ∧ row.guardianAuthorizationId = none := by
    decide +kernel
  obtain ⟨row, hrow, hstatus, hunauthorized⟩ := hdisbursed
  have hbacked := h.confirmed loomUnconfirmed [] (List.append_nil _).symm row hrow (Or.inl hstatus)
  rw [hunauthorized] at hbacked
  exact absurd hbacked.2.1 Bool.false_ne_true

end Unconfirmed

end Xyena.Funder
