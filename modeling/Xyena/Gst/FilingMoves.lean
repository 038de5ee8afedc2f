import Xyena.Gst.Filing

/-!
# What one call of the portal can do

A session that ends with rows to commit has created an invoice or has moved one
along an arrow of the status diagram. `Move` lists both ways with the guards that
led to them.
-/

namespace Xyena.Gst.Filing

open Xyena.Foundation Xyena.Foundation.Session
open Portal (InvoiceStatus InvoiceLine InvoiceStatusHistory OutboxEvent InvoiceCreate)

/-! ## Guards and moves -/

section Moves

variable (platform : FilingPlatform) (db : FilingDb) (call : FilingCall)

/-- A creation that passes its checks and has computed its amounts. -/
structure Creates (body : InvoiceCreate) (values : List LineAmounts) (amounts : InvoiceAmounts) : Prop where
  request : call.request = .createInvoice body
  role : call.scope.roles.contains "GST_OPERATOR" = true
  past : body.invoiceDate ≤ call.today
  amounts : Portal.calculateInvoice (body.lines.map Portal.LineCreate.toInvoiceLineCreate)
    (Portal.intraState call.scope body) = .ok (values, amounts)

/-- A transition that passes its checks. -/
structure Transits (row : Invoice) (action : Action) (reason : Option String) : Prop where
  request : call.request = .transitionInvoice row.id action.name row.version reason
  held : row ∈ db.invoices
  tenant : row.tenantId = call.scope.enterprise.tenantId
  enterprise : row.enterpriseId = call.scope.enterprise.id
  role : call.scope.roles.contains action.role = true
  status : row.status = action.expected
  reason : action.needsReason = true → blank (reason.getD "") = false

/-- The rows of a creation. -/
def createdRows (body : InvoiceCreate) (values : List LineAmounts) (amounts : InvoiceAmounts) : Writes :=
  creationWrites call (Portal.creationWrites (creation call body) values amounts)

/-- The invoice of a creation. -/
def created (body : InvoiceCreate) (amounts : InvoiceAmounts) : Invoice :=
  stamped call (Portal.newInvoice (creation call body) amounts)

/-- How a session ends with rows to commit. -/
inductive Move : Answer → Writes → Prop
  | created (body : InvoiceCreate) (values : List LineAmounts) (amounts : InvoiceAmounts)
      (h : Creates call body values amounts) :
      Move (created call body amounts, Portal.newLines (creation call body) values)
        (createdRows call body values amounts)
  | moved (row : Invoice) (action : Action) (reason : Option String)
      (h : Transits db call row action reason) :
      Move (transitioned platform call (linesOf db call row.id) row action reason, linesOf db call row.id)
        (transitionWrites call row (transitioned platform call (linesOf db call row.id) row action reason)
          reason)

end Moves

/-! ## Inversion -/

section Inversion

variable {platform : FilingPlatform} {db : FilingDb} {call : FilingCall} {answer : Answer}
  {rows : Option Writes} {writes : Writes}

theorem parse_eq_some {text : String} {action : Action} (h : Action.parse text = some action) :
    text = action.name := by
  unfold Action.parse at h
  have hname := List.find?_some h
  exact (beq_iff_eq.mp hname).symm

theorem invoice_ok {invoiceId : String} {row : Invoice} (h : invoice db call invoiceId = .ok row) :
    row ∈ db.invoices ∧ row.id = invoiceId ∧ row.tenantId = call.scope.enterprise.tenantId ∧
      row.enterpriseId = call.scope.enterprise.id := by
  unfold invoice at h
  split at h
  next found hfound =>
    obtain rfl := Except.ok.inj h
    have hselected := List.find?_some hfound
    simp only [Bool.and_eq_true, beq_iff_eq] at hselected
    exact ⟨List.mem_of_find?_eq_some hfound, hselected.1.1, hselected.1.2, hselected.2⟩
  · cases h

/-- The rows of a session are those of a move. -/
def Moved (platform : FilingPlatform) (db : FilingDb) (call : FilingCall) (answer : Answer)
    (rows : Option Writes) : Prop :=
  ∃ writes, rows = some writes ∧ Move platform db call answer writes

theorem moved_transitionInvoice {invoiceId action : String} {expectedVersion : Int} {reason : Option String}
    (hrequest : call.request = .transitionInvoice invoiceId action expectedVersion reason)
    (h : transitionInvoice platform db call invoiceId action expectedVersion reason = .ok (answer, rows)) :
    Moved platform db call answer rows := by
  obtain ⟨row, hrow, h⟩ := bind_ok.mp h
  obtain ⟨hversion, h⟩ := ensure_bind_ok.mp h
  split at h
  · cases h
  next known hknown =>
    obtain ⟨hrole, h⟩ := ensure_bind_ok.mp h
    obtain ⟨hstatus, h⟩ := ensure_bind_ok.mp h
    obtain ⟨hreason, h⟩ := ensure_bind_ok.mp h
    obtain ⟨rfl, rfl⟩ := Prod.mk.inj (Except.ok.inj h)
    obtain ⟨hheld, rfl, htenant, henterprise⟩ := invoice_ok hrow
    obtain rfl := parse_eq_some hknown
    rw [← beq_iff_eq.mp hversion] at hrequest
    refine ⟨_, rfl, .moved row known reason ⟨hrequest, hheld, htenant, henterprise, hrole,
      beq_iff_eq.mp hstatus, fun hneeds ↦ ?_⟩⟩
    simpa [hneeds] using hreason

theorem moved_createInvoice {body : InvoiceCreate} (hrequest : call.request = .createInvoice body)
    (h : createInvoice db call body = .ok (answer, rows)) : Moved platform db call answer rows := by
  unfold createInvoice at h
  split at h
  · cases h
  next row lines made hmade =>
    obtain ⟨rfl, rfl⟩ := Prod.mk.inj (Except.ok.inj h)
    obtain ⟨hrole, hmade⟩ := ensure_bind_ok.mp hmade
    obtain ⟨hpast, hmade⟩ := ensure_bind_ok.mp hmade
    obtain ⟨-, hmade⟩ := ensure_bind_ok.mp hmade
    obtain ⟨⟨values, amounts⟩, hamounts, hmade⟩ := bind_ok.mp hmade
    obtain ⟨hanswer, rfl⟩ := Prod.mk.inj (Except.ok.inj hmade)
    obtain ⟨rfl, rfl⟩ := Prod.mk.inj hanswer
    exact ⟨_, rfl, .created body values amounts ⟨hrequest, hrole, of_decide_eq_true hpast, hamounts⟩⟩

/-- Every session that returns has made one of the listed moves. -/
theorem moved_of_serve (h : serve platform db call = .ok (answer, rows)) :
    Moved platform db call answer rows := by
  unfold serve at h
  split at h
  next hrequest => exact moved_createInvoice hrequest h
  next hrequest => exact moved_transitionInvoice hrequest h

theorem move_of_serve (h : serve platform db call = .ok (answer, some writes)) :
    Move platform db call answer writes := by
  obtain ⟨_, ⟨⟩, hmove⟩ := moved_of_serve h
  exact hmove

end Inversion

/-! ## What a transition keeps -/

section Kept

variable (platform : FilingPlatform) (call : FilingCall) (lines : List InvoiceLine) (row : Invoice)
  (action : Action) (reason : Option String)

/-- The columns of an invoice that no transition touches. -/
def content (row : Invoice) : Portal.Invoice :=
  { row.toInvoice with status := .draft, version := 1, updatedBy := row.createdBy }

theorem transitioned_toInvoice : (transitioned platform call lines row action reason).toInvoice =
    { row.toInvoice with
      status := action.target, version := row.version + 1, updatedBy := call.scope.userId } := by
  cases action <;> rfl

@[simp] theorem transitioned_id : (transitioned platform call lines row action reason).id = row.id := by
  cases action <;> rfl

@[simp] theorem transitioned_tenantId :
    (transitioned platform call lines row action reason).tenantId = row.tenantId := by
  cases action <;> rfl

@[simp] theorem transitioned_enterpriseId :
    (transitioned platform call lines row action reason).enterpriseId = row.enterpriseId := by
  cases action <;> rfl

@[simp] theorem transitioned_status :
    (transitioned platform call lines row action reason).status = action.target := by
  cases action <;> rfl

@[simp] theorem transitioned_version :
    (transitioned platform call lines row action reason).version = row.version + 1 := by
  cases action <;> rfl

/-- The invoice of a transition as the database stores it. -/
def moved : Invoice := { transitioned platform call lines row action reason with updatedAt := call.stamp }

@[simp] theorem moved_id : (moved platform call lines row action reason).id = row.id :=
  transitioned_id platform call lines row action reason

@[simp] theorem moved_status : (moved platform call lines row action reason).status = action.target :=
  transitioned_status platform call lines row action reason

@[simp] theorem moved_version : (moved platform call lines row action reason).version = row.version + 1 :=
  transitioned_version platform call lines row action reason

theorem content_moved : content (moved platform call lines row action reason) = content row := by
  simp [content, moved, transitioned_toInvoice]

end Kept

end Xyena.Gst.Filing
