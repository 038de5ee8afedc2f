import Xyena.Foundation.Lifecycle
import Xyena.Foundation.OwnedRows
import Xyena.Gst.FilingMoves

/-!
# Invoices with the rows about them

A folder holds an invoice with its lines, its history and its audit and outbox
rows. A call opens one folder or advances one by a transition, and leaves all
others as they are.
-/

namespace Xyena.Gst.Filing

open Xyena.Foundation Xyena.Foundation.Session
open Portal (InvoiceStatus InvoiceLine InvoiceStatusHistory OutboxEvent InvoiceCreate)

/-! ## Folders -/

structure Folder where
  invoice : Invoice
  lines : List InvoiceLine
  history : List InvoiceStatusHistory
  audits : List AuditEvent
  outbox : List OutboxEvent

/-- The invoice that a row with an aggregate is about. -/
def subject (aggregateType aggregateId : String) : Option String :=
  if aggregateType = "INVOICE" then some aggregateId else none

def AuditEvent.subject (row : AuditEvent) : Option String := Filing.subject row.aggregateType row.aggregateId

def outboxSubject (row : OutboxEvent) : Option String := subject row.aggregateType row.aggregateId

/-- The folder of an invoice. -/
def folderOf (db : FilingDb) (row : Invoice) : Folder where
  invoice := row
  lines := Table.owned InvoiceLine.invoiceId row.id db.lines
  history := Table.owned InvoiceStatusHistory.invoiceId row.id db.history
  audits := Table.owned AuditEvent.subject (some row.id) db.audits
  outbox := Table.owned outboxSubject (some row.id) db.outbox

def folder (db : FilingDb) (id : String) : Option Folder :=
  (Table.lookup (fun row : Invoice ↦ row.id) id db.invoices).map (folderOf db)

/-- All rows about invoices are about stored ones. -/
structure Regular (db : FilingDb) : Prop where
  keyed : invoiceConstraints.Meets db.invoices
  lines : ∀ row ∈ db.lines, row.invoiceId ∈ db.invoices.map (·.id)
  history : ∀ row ∈ db.history, row.invoiceId ∈ db.invoices.map (·.id)
  audits : ∀ row ∈ db.audits, ∀ id, row.subject = some id → id ∈ db.invoices.map (·.id)
  outbox : ∀ row ∈ db.outbox, ∀ id, outboxSubject row = some id → id ∈ db.invoices.map (·.id)

/-- The folder of a new invoice. -/
def opening (call : FilingCall) (body : InvoiceCreate) (values : List LineAmounts)
    (amounts : InvoiceAmounts) : Folder where
  invoice := created call body amounts
  lines := (createdRows call body values amounts).lines
  history := (createdRows call body values amounts).history
  audits := (createdRows call body values amounts).audits
  outbox := (createdRows call body values amounts).outbox

section Advance

variable (platform : FilingPlatform) (call : FilingCall) (folder : Folder) (action : Action)
  (reason : Option String)

/-- The invoice that a transition answers. -/
def Folder.answer : Invoice :=
  transitioned platform call (call.arrange folder.lines) folder.invoice action reason

/-- The folder after a transition. -/
def Folder.advance : Folder :=
  let writes := transitionWrites call folder.invoice (folder.answer platform call action reason) reason
  { invoice := moved platform call (call.arrange folder.lines) folder.invoice action reason
    lines := folder.lines
    history := folder.history ++ writes.history
    audits := folder.audits ++ writes.audits
    outbox := folder.outbox ++ writes.outbox }

end Advance

abbrev FilingEntry := Entry FilingDb FilingCall (Except FilingError Answer)

/-- The entry has created the invoice of a folder. -/
def Opens (e : FilingEntry) (folder : Folder) : Prop :=
  ∃ body values amounts, Creates e.input body values amounts ∧ folder = opening e.input body values amounts ∧
    e.output = .ok (folder.invoice, folder.lines)

/-- The entry has moved the invoice of a folder. -/
def Advances (platform : FilingPlatform) (e : FilingEntry) (before after : Folder) : Prop :=
  ∃ action reason, Transits e.before e.input before.invoice action reason ∧
    after = before.advance platform e.input action reason ∧
    e.output = .ok (before.answer platform e.input action reason, e.input.arrange before.lines)

/-! ## Rows about one invoice -/

section About

variable {db : FilingDb} {writes : Writes} {id : String}

/-- The rows beside the invoices are about one invoice. -/
structure Writes.About (writes : Writes) (id : String) : Prop where
  lines : ∀ row ∈ writes.lines, row.invoiceId = id
  history : ∀ row ∈ writes.history, row.invoiceId = id
  audits : ∀ row ∈ writes.audits, row.subject = some id
  outbox : ∀ row ∈ writes.outbox, outboxSubject row = some id

theorem folderOf_apply_own {row : Invoice} (h : writes.About row.id) : folderOf (writes.apply db) row =
    { invoice := row
      lines := (folderOf db row).lines ++ writes.lines
      history := (folderOf db row).history ++ writes.history
      audits := (folderOf db row).audits ++ writes.audits
      outbox := (folderOf db row).outbox ++ writes.outbox } := by
  simp only [folderOf, Writes.apply, Folder.mk.injEq, true_and]
  exact ⟨Table.owned_append_own h.lines, Table.owned_append_own h.history, Table.owned_append_own h.audits,
    Table.owned_append_own h.outbox⟩

theorem folderOf_apply_other {row : Invoice} (h : writes.About id) (hid : id ≠ row.id) :
    folderOf (writes.apply db) row = folderOf db row := by
  have hsubject : some id ≠ some row.id := fun hsame ↦ hid (Option.some.inj hsame)
  simp only [folderOf, Writes.apply, Folder.mk.injEq, true_and]
  refine ⟨?_, ?_, ?_, ?_⟩
  · exact Table.owned_append_other fun line hline ↦ (h.lines line hline).symm ▸ hid
  · exact Table.owned_append_other fun entry hentry ↦ (h.history entry hentry).symm ▸ hid
  · exact Table.owned_append_other fun entry hentry ↦ (h.audits entry hentry).symm ▸ hsubject
  · exact Table.owned_append_other fun entry hentry ↦ (h.outbox entry hentry).symm ▸ hsubject

/-- Nothing is about an invoice that is not stored. -/
theorem folderOf_fresh {row : Invoice} (hregular : Regular db) (hfresh : row.id ∉ db.invoices.map (·.id)) :
    folderOf db row = ⟨row, [], [], [], []⟩ := by
  simp only [folderOf, Folder.mk.injEq, true_and]
  refine ⟨?_, ?_, ?_, ?_⟩
  · exact Table.owned_eq_nil fun line hline hsame ↦ hfresh (hsame ▸ hregular.lines line hline)
  · exact Table.owned_eq_nil fun entry hentry hsame ↦ hfresh (hsame ▸ hregular.history entry hentry)
  · exact Table.owned_eq_nil fun entry hentry hsame ↦ hfresh (hregular.audits entry hentry _ hsame)
  · exact Table.owned_eq_nil fun entry hentry hsame ↦ hfresh (hregular.outbox entry hentry _ hsame)

theorem Regular.apply (hregular : Regular db) (h : writes.About id)
    (haccepted : writes.accepted db = true)
    (hkept : db.invoices.map (·.id) ⊆ (writes.apply db).invoices.map (·.id))
    (hid : id ∈ (writes.apply db).invoices.map (·.id)) : Regular (writes.apply db) where
  keyed := by
    simp only [Writes.accepted, Bool.and_eq_true] at haccepted
    exact RowWrite.meets_applyAll hregular.keyed haccepted.1.1.1.1
  lines := List.forall_mem_append.mpr
    ⟨fun row hrow ↦ hkept (hregular.lines row hrow), fun row hrow ↦ (h.lines row hrow).symm ▸ hid⟩
  history := List.forall_mem_append.mpr
    ⟨fun row hrow ↦ hkept (hregular.history row hrow), fun row hrow ↦ (h.history row hrow).symm ▸ hid⟩
  audits := by
    refine List.forall_mem_append.mpr ⟨fun row hrow other hsubject ↦
      hkept (hregular.audits row hrow _ hsubject), ?_⟩
    intro row hrow other hsubject
    rwa [← Option.some.inj ((h.audits row hrow).symm.trans hsubject)]
  outbox := by
    refine List.forall_mem_append.mpr ⟨fun row hrow other hsubject ↦
      hkept (hregular.outbox row hrow _ hsubject), ?_⟩
    intro row hrow other hsubject
    rwa [← Option.some.inj ((h.outbox row hrow).symm.trans hsubject)]

end About

/-! ## One call -/

section Step

variable {platform : FilingPlatform} {db : FilingDb} {call : FilingCall}

theorem folder_of_mem (hregular : Regular db) {row : Invoice} (hrow : row ∈ db.invoices) :
    folder db row.id = some (folderOf db row) := by
  rw [folder, Table.lookup_of_mem (fun row : Invoice ↦ row.id) hregular.keyed.keys hrow, Option.map_some]

/-- A view of the folders under an identifier that no invoice has changed under. -/
theorem folder_congr {before after : FilingDb} {id : String}
    (hlookup : Table.lookup (fun row : Invoice ↦ row.id) id after.invoices =
      Table.lookup (fun row : Invoice ↦ row.id) id before.invoices)
    (hsides : ∀ row : Invoice, row.id = id → folderOf after row = folderOf before row) :
    folder after id = folder before id := by
  rw [folder, folder, hlookup]
  cases hrow : Table.lookup (fun row : Invoice ↦ row.id) id before.invoices with
  | none => rfl
  | some row => rw [Option.map_some, Option.map_some, hsides row (Table.lookup_spec hrow).2]

section Creation

variable {body : InvoiceCreate} {values : List LineAmounts} {amounts : InvoiceAmounts}

theorem createdRows_about : (createdRows call body values amounts).About (call.uuid 0) where
  lines := by
    intro line hline
    obtain ⟨entry, -, rfl⟩ := List.mem_map.mp hline
    rfl
  history := List.forall_mem_singleton.mpr rfl
  audits := List.forall_mem_singleton.mpr rfl
  outbox := List.forall_mem_singleton.mpr rfl

theorem created_invoices : ((createdRows call body values amounts).apply db).invoices =
    db.invoices ++ [created call body amounts] := rfl

theorem created_ids : ((createdRows call body values amounts).apply db).invoices.map (·.id) =
    db.invoices.map (·.id) ++ [call.uuid 0] := by
  rw [created_invoices, List.map_append]
  rfl

variable (haccepted : (createdRows call body values amounts).accepted db = true)
include haccepted

theorem created_fresh : ∀ old ∈ db.invoices, call.uuid 0 ≠ old.id := by
  intro old hold
  simp only [Writes.accepted, Bool.and_eq_true] at haccepted
  have hnew := RowWrite.accepted_insert.mp (RowWrite.accepted_of_singleton haccepted.1.1.1.1)
  exact (hnew old hold).1

theorem created_regular (hregular : Regular db) :
    Regular ((createdRows call body values amounts).apply db) := by
  refine hregular.apply createdRows_about haccepted ?_ ?_
  · rw [created_ids]
    exact List.subset_append_left _ _
  · rw [created_ids]
    exact List.mem_append_right _ (List.mem_singleton.mpr rfl)

/-- A creation opens the folder of its invoice and leaves the others alone. -/
theorem folder_created (hregular : Regular db) (id : String) :
    folder db (call.uuid 0) = none ∧
      folder ((createdRows call body values amounts).apply db) (call.uuid 0) =
        some (opening call body values amounts) ∧
      (id ≠ call.uuid 0 → folder ((createdRows call body values amounts).apply db) id = folder db id) := by
  have hfresh := created_fresh haccepted
  refine ⟨?_, ?_, fun hid ↦ ?_⟩
  · rw [folder, Table.lookup_eq_none.mpr fun old hold ↦ (hfresh old hold).symm, Option.map_none]
  · have hid : (created call body amounts).id = call.uuid 0 := rfl
    have hlookup : Table.lookup (fun row : Invoice ↦ row.id) (created call body amounts).id
        (db.invoices ++ [created call body amounts]) = some (created call body amounts) :=
      Table.lookup_append_new (fun row : Invoice ↦ row.id) hfresh
    have hnew : (created call body amounts).id ∉ db.invoices.map (·.id) := by
      intro hmem
      obtain ⟨old, hold, hsame⟩ := List.mem_map.mp hmem
      exact hfresh old hold hsame.symm
    rw [folder, created_invoices, ← hid, hlookup, Option.map_some, folderOf_apply_own createdRows_about,
      folderOf_fresh hregular hnew]
    rfl
  · refine folder_congr ?_ fun row hrow ↦ ?_
    · rw [created_invoices]
      exact Table.lookup_append_other (fun row : Invoice ↦ row.id) hid.symm
    · exact folderOf_apply_other createdRows_about (hrow ▸ hid.symm)

end Creation

section Transition

variable {row : Invoice} {action : Action} {reason : Option String}

/-- The rows of the transition. -/
def transitRows (platform : FilingPlatform) (db : FilingDb) (call : FilingCall) (row : Invoice)
    (action : Action) (reason : Option String) : Writes :=
  transitionWrites call row (transitioned platform call (linesOf db call row.id) row action reason) reason

theorem transitRows_about : (transitRows platform db call row action reason).About row.id where
  lines := by simp [transitRows, transitionWrites]
  history := List.forall_mem_singleton.mpr (transitioned_id ..)
  audits := List.forall_mem_singleton.mpr (congrArg some (transitioned_id ..))
  outbox := List.forall_mem_singleton.mpr (congrArg some (transitioned_id ..))

theorem transit_invoices : ((transitRows platform db call row action reason).apply db).invoices =
    Table.replace (fun row : Invoice ↦ row.id) (moved platform call
      (linesOf db call row.id) row action reason)
      db.invoices := rfl

variable (hregular : Regular db) (htransits : Transits db call row action reason)
include hregular htransits

theorem transit_regular (haccepted : (transitRows platform db call row action reason).accepted db = true) :
    Regular ((transitRows platform db call row action reason).apply db) := by
  have hids : ((transitRows platform db call row action reason).apply db).invoices.map (·.id) =
      db.invoices.map (·.id) := by
    rw [transit_invoices]
    exact Table.map_key_replace (fun row : Invoice ↦ row.id) _ db.invoices
  refine hregular.apply transitRows_about haccepted ?_ ?_
  · rw [hids]
    exact fun _ hid ↦ hid
  · rw [hids]
    exact List.mem_map_of_mem htransits.held

variable (platform) in
/-- A transition advances the folder of its invoice and leaves the others alone. -/
theorem folder_transit (id : String) : folder db row.id = some (folderOf db row) ∧
    folder ((transitRows platform db call row action reason).apply db) row.id =
      some ((folderOf db row).advance platform call action reason) ∧
    (id ≠ row.id → folder ((transitRows platform db call row action reason).apply db) id = folder db id) := by
  have hid := moved_id platform call (linesOf db call row.id) row action reason
  refine ⟨folder_of_mem hregular htransits.held, ?_, fun hother ↦ ?_⟩
  · have hlookup := Table.lookup_replace_self (fun row : Invoice ↦ row.id) hregular.keyed.keys
      htransits.held hid
    rw [folder, transit_invoices, hlookup, Option.map_some]
    rw [folderOf_apply_own (by rw [hid]; exact transitRows_about)]
    simp only [folderOf, hid]
    simp [Folder.advance, Folder.answer, transitRows, transitionWrites, linesOf, Table.owned]
  · have hne : (moved platform call (linesOf db call row.id) row action reason).id ≠ id := by
      rw [hid]
      exact hother.symm
    refine folder_congr ?_ fun other hsame ↦ ?_
    · rw [transit_invoices]
      exact Table.lookup_replace_other (fun row : Invoice ↦ row.id) hne
    · exact folderOf_apply_other transitRows_about (hsame ▸ hother.symm)

end Transition

/-! ## The portal keeps folders -/

theorem Regular.step (hregular : Regular db) : Regular ((portal platform).step db call).2 := by
  refine (sessions platform).step_kept Regular hregular fun answer writes hserve _ haccepted ↦ ?_
  cases move_of_serve hserve with
  | created body values amounts h => exact created_regular haccepted hregular
  | moved row action reason h => exact transit_regular hregular h haccepted

theorem folder_change (hregular : Regular db) (id : String) :
    Change Opens (Advances platform) ((portal platform).entry db call) (folder db id)
      (folder ((portal platform).step db call).2 id) := by
  rcases (sessions platform).step_cases db call with
    ⟨failure, hstep⟩ | ⟨answer, -, hstep⟩ | ⟨answer, writes, hserve, -, haccepted, hstep⟩
  · rw [portal, hstep]
    exact .kept _
  · rw [portal, hstep]
    exact .kept _
  · have houtput : ((portal platform).entry db call).output = .ok answer := congrArg Prod.fst hstep
    have hafter : ((portal platform).step db call).2 = writes.apply db := congrArg Prod.snd hstep
    rw [hafter]
    cases move_of_serve hserve with
    | created body values amounts h =>
      obtain ⟨hnone, hnew, hother⟩ := folder_created haccepted hregular id
      change folder ((createdRows call body values amounts).apply db) _ = _ at hnew
      by_cases hid : id = call.uuid 0
      · rw [hid, hnone, hnew]
        exact .opened ⟨body, values, amounts, h, rfl, houtput⟩
      · rw [hother hid]
        exact .kept _
    | moved row action reason h =>
      obtain ⟨hold, hnew, hother⟩ := folder_transit platform hregular h id
      by_cases hid : id = row.id
      · rw [hid, hold]
        change Change _ _ _ _ (folder ((transitRows platform db call row action reason).apply db) row.id)
        rw [hnew]
        exact .advanced ⟨action, reason, h, rfl, houtput⟩
      · change Change _ _ _ _ (folder ((transitRows platform db call row action reason).apply db) id)
        rw [hother hid]
        exact .kept _

end Step

/-- The folders of the portal. -/
def folders (platform : FilingPlatform) : Lifecycle (portal platform) String Folder where
  Inv := Regular
  thing := folder
  Opens := Opens
  Advances := Advances platform
  inv_step _ _ h := h.step
  change _ _ h id := folder_change h id

end Xyena.Gst.Filing
