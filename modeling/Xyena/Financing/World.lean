import Xyena.Bank.Answers
import Xyena.Financing.Coordinator
import Xyena.Ledger.Answers
import Xyena.Ledger.Settlements

/-!
# The bank, the ledger and any number of coordinators

One step of the world is a call of the bank or of the ledger, by whomever, or a
step of a coordinator. The gateway blocks a tool call, lets it fail, or answers
it with what the service has answered to a call of the same tenant with the same
arguments, now or earlier. A checkpoint can be resumed any number of times, and
every resumption is a coordinator of its own.
-/

namespace Xyena.Financing

open Xyena.Foundation Xyena.Contracts Xyena.Bank Xyena.Ledger

structure Platforms where
  bank : BankPlatform
  ledger : LedgerPlatform

structure World where
  bank : BankDb
  ledger : LedgerDb
  bankAnswers : List (BankCall × BankAnswer) := []
  ledgerAnswers : List (LedgerCall × LedgerAnswer) := []
  coordinators : List Coordinator := []

/-- What the gateway does with an outstanding call; `answered` names the answer that it passes on. -/
inductive Reply where
  | blocked (callId : String)
  | failed
  | answered (index : Nat)

inductive Event where
  | bank (call : BankCall)
  | ledger (call : LedgerCall)
  | start (tenantId bankExecutionId : String)
  | resume (index : Nat)
  | deliver (index : Nat) (reply : Reply)
  | settle (index : Nat) (settledAt now : Time) (draws : Ledger.Draws) (refused : Bool)

namespace World

variable (platforms : Platforms) (w : World)

def callBank (call : BankCall) : World :=
  { w with
    bank := ((Bank.bank platforms.bank).step w.bank call).2
    bankAnswers :=
      match ((Bank.bank platforms.bank).step w.bank call).1 with
      | .ok answer => w.bankAnswers ++ [(call, answer)]
      | .error _ => w.bankAnswers }

def callLedger (call : LedgerCall) : World :=
  { w with
    ledger := ((Ledger.ledger platforms.ledger).step w.ledger call).2
    ledgerAnswers :=
      match ((Ledger.ledger platforms.ledger).step w.ledger call).1 with
      | .ok answer => w.ledgerAnswers ++ [(call, answer)]
      | .error _ => w.ledgerAnswers }

/-- The answer with a number, if it was given to the call of the tenant. -/
def projection (tenantId : String) (index : Nat) : ToolCall → Option Dict
  | .bank op =>
    match w.bankAnswers[index]? with
    | some (call, answer) =>
      if call.op = op ∧ call.scope.tenantId = tenantId then some (answer.dump platforms.bank) else none
    | none => none
  | .ledger op =>
    match w.ledgerAnswers[index]? with
    | some ({ request := .scoped scope op', .. }, answer) =>
      if op' = op ∧ scope.tenantId = tenantId then some (answer.dump platforms.ledger) else none
    | _ => none

def response (c : Coordinator) : Reply → Option Response
  | .blocked callId => some (.blocked callId)
  | .failed => some .failed
  | .answered index => do
    let call ← c.outstanding
    let projection ← w.projection platforms c.tenantId index call
    return .succeeded projection

def deliver (index : Nat) (reply : Reply) : World :=
  match w.coordinators[index]? with
  | none => w
  | some c =>
    match w.response platforms c reply with
    | none => w
    | some response => { w with coordinators := w.coordinators.set index (c.receive response) }

/-- Only a checkpoint with a pending call can be resumed. -/
def resume (index : Nat) : World :=
  match w.coordinators[index]? with
  | none => w
  | some c =>
    if c.point = .exited ∧ c.pending.isSome then
      { w with coordinators := w.coordinators ++ [{ c with point := .resumption }] }
    else w

/-- The call of the ledger that a settlement event makes. -/
def settlementCall (event : Settlement) (now : Time) (draws : Ledger.Draws) (refused : Bool) :
    LedgerCall where
  request := .settlement event
  now := now
  draws := draws
  refused := refused

def settle (index : Nat) (settledAt now : Time) (draws : Ledger.Draws) (refused : Bool) : World :=
  match w.coordinators[index]? with
  | none => w
  | some c =>
    if c.point = .settlement then
      match c.settlementEvent settledAt with
      | none => { w with coordinators := w.coordinators.set index c.raise }
      | some event =>
        let call := settlementCall event now draws refused
        let after := w.callLedger platforms call
        match ((Ledger.ledger platforms.ledger).step w.ledger call).1 with
        | .ok answer =>
          { after with
            coordinators := w.coordinators.set index (c.reconcile (answer.dump platforms.ledger)) }
        | .error _ => { after with coordinators := w.coordinators.set index c.raise }
    else w

def next : Event → World
  | .bank call => w.callBank platforms call
  | .ledger call => w.callLedger platforms call
  | .start tenantId bankExecutionId =>
    { w with coordinators := w.coordinators ++ [.start tenantId bankExecutionId] }
  | .resume index => w.resume index
  | .deliver index reply => w.deliver platforms index reply
  | .settle index settledAt now draws refused => w.settle platforms index settledAt now draws refused

end World

/-- The world, one event after the other. -/
def world (platforms : Platforms) : Machine World Event Unit where
  step w event := ((), w.next platforms event)

structure Openings where
  bank : Bank.Opening
  ledger : Ledger.Opening

def Openings.world (openings : Openings) : World where
  bank := openings.bank.db
  ledger := openings.ledger.db

/-! ## Services inside the world -/

section Services

variable {platforms : Platforms} {openings : Openings} {w : World}

/-- The bank and the ledger of a world are where runs of their own lead. -/
structure Reached (platforms : Platforms) (openings : Openings) (w : World) : Prop where
  bank : ∃ calls, w.bank = (Bank.bank platforms.bank).run openings.bank.db calls
  ledger : ∃ calls, w.ledger = (Ledger.ledger platforms.ledger).run openings.ledger.db calls

theorem Reached.callBank (h : Reached platforms openings w) (call : BankCall) :
    Reached platforms openings (w.callBank platforms call) where
  bank := by
    obtain ⟨calls, hcalls⟩ := h.bank
    exact ⟨calls ++ [call], by rw [Machine.run_snoc, ← hcalls]; rfl⟩
  ledger := h.ledger

theorem Reached.callLedger (h : Reached platforms openings w) (call : LedgerCall) :
    Reached platforms openings (w.callLedger platforms call) where
  bank := h.bank
  ledger := by
    obtain ⟨calls, hcalls⟩ := h.ledger
    exact ⟨calls ++ [call], by rw [Machine.run_snoc, ← hcalls]; rfl⟩

theorem Reached.bankRegular (h : Reached platforms openings w) : Bank.Regular w.bank := by
  obtain ⟨calls, hcalls⟩ := h.bank
  exact hcalls ▸ Bank.regular_run platforms.bank openings.bank calls

theorem Reached.bankSettled (h : Reached platforms openings w) :
    ∃ posted, Bank.Settled platforms.bank openings.bank w.bank posted := by
  obtain ⟨calls, hcalls⟩ := h.bank
  exact hcalls ▸ Bank.settled_run platforms.bank openings.bank calls

theorem Reached.ledgerRegular (h : Reached platforms openings w) : Ledger.Regular w.ledger := by
  obtain ⟨calls, hcalls⟩ := h.ledger
  exact hcalls ▸ Ledger.regular_run platforms.ledger openings.ledger.regular calls

theorem Reached.ledgerDigested (h : Reached platforms openings w) :
    Ledger.Digested platforms.ledger w.ledger := by
  obtain ⟨calls, hcalls⟩ := h.ledger
  exact hcalls ▸ Ledger.digested_run platforms.ledger openings.ledger calls

theorem Reached.ledgerInboxed (h : Reached platforms openings w) :
    Ledger.Inboxed platforms.ledger w.ledger := by
  obtain ⟨calls, hcalls⟩ := h.ledger
  exact hcalls ▸ Ledger.inboxed_run platforms.ledger openings.ledger calls

/-- What later worlds keep of the tables. -/
structure World.Extends (w later : World) : Prop where
  transfers : ∀ terms, (∃ row ∈ w.bank.preparedTransfers, row.terms = terms) →
    ∃ row ∈ later.bank.preparedTransfers, row.terms = terms
  executions : ∀ execution ∈ w.bank.executions, execution ∈ later.bank.executions
  payments : ∀ terms, (∃ row ∈ w.ledger.payments, row.terms = terms) →
    ∃ row ∈ later.ledger.payments, row.terms = terms

theorem Reached.extends_callBank (h : Reached platforms openings w) (call : BankCall) :
    w.Extends (w.callBank platforms call) where
  transfers _ := Bank.terms_step h.bankRegular
  executions _ := Bank.executions_step
  payments _ hterms := hterms

theorem Reached.extends_callLedger (h : Reached platforms openings w) (call : LedgerCall) :
    w.Extends (w.callLedger platforms call) where
  transfers _ hterms := hterms
  executions _ hexecution := hexecution
  payments _ := Ledger.terms_step h.ledgerRegular

end Services

/-! ## Answers that were given -/

/-- The amount of the financing case. -/
def financedAmount : Int := 12500000

/-- The stored rows that the answers to the calls of a coordinator show. -/
structure Shown (w : World) : Prop where
  bankPrepared : ∀ call answer, (call, answer) ∈ w.bankAnswers → call.op = bankPreparationCall →
    ShowsTransfer w.bank call answer sourceAccountToken beneficiaryToken "INR"
      "e2e-bank-case-demo-001" financedAmount
  bankExecuted : ∀ call answer, (call, answer) ∈ w.bankAnswers → ∀ action actionHash executionId,
    call.op = .executeTransfer action actionHash executionId →
      ShowsExecution w.bank call answer action actionHash executionId
  ledgerPrepared : ∀ call answer, (call, answer) ∈ w.ledgerAnswers → ∀ scope,
    call.request = .scoped scope ledgerPreparationCall →
      ShowsPayment w.ledger scope answer sourceAccountToken beneficiaryToken "INR" financedAmount

section Answers

variable {platforms : Platforms} {openings : Openings} {w later : World}

theorem bankAmount_eq : Bank.parseAmount "125000.00" = .ok financedAmount := by decide +kernel

theorem ledgerAmount_eq : Ledger.parseAmount "125000.00" = .ok financedAmount := by decide +kernel

section Kept

variable {call : BankCall} {answer : BankAnswer} {source beneficiary currency key : String} {amount : Int}

theorem World.Extends.showsTransfer (hextends : w.Extends later)
    (h : ShowsTransfer w.bank call answer source beneficiary currency key amount) :
    ShowsTransfer later.bank call answer source beneficiary currency key amount := by
  obtain ⟨row, hrow, htenant, hsource, hbeneficiary, hamount, hcurrency, hkey, hterms⟩ := h
  exact ⟨row, hrow, htenant, hsource, hbeneficiary, hamount, hcurrency, hkey,
    hextends.transfers _ hterms⟩

theorem World.Extends.showsExecution (hextends : w.Extends later) {action actionHash executionId : String}
    (h : ShowsExecution w.bank call answer action actionHash executionId) :
    ShowsExecution later.bank call answer action actionHash executionId := by
  obtain ⟨execution, hexecution, hrest⟩ := h
  exact ⟨execution, hextends.executions execution hexecution, hrest⟩

theorem World.Extends.showsPayment (hextends : w.Extends later) {scope : Ledger.RuntimeScope}
    {answer : LedgerAnswer} (h : ShowsPayment w.ledger scope answer source beneficiary currency amount) :
    ShowsPayment later.ledger scope answer source beneficiary currency amount := by
  obtain ⟨journal, lines, payment, hshown, htenant, hsource, hbeneficiary, hamount, hcurrency,
    hterms⟩ := h
  exact ⟨journal, lines, payment, hshown, htenant, hsource, hbeneficiary, hamount, hcurrency,
    hextends.payments _ hterms⟩

end Kept

/-- The answer of a new call, or an answer that was there. -/
theorem mem_bankAnswers_callBank {call other : BankCall} {answer : BankAnswer}
    (h : (other, answer) ∈ (w.callBank platforms call).bankAnswers) :
    (other, answer) ∈ w.bankAnswers ∨
      other = call ∧ ((Bank.bank platforms.bank).step w.bank call).1 = .ok answer := by
  simp only [World.callBank] at h
  split at h
  next given hgiven =>
    rcases List.mem_append.mp h with hold | hnew
    · exact Or.inl hold
    · obtain ⟨rfl, rfl⟩ := Prod.mk.inj (List.mem_singleton.mp hnew)
      exact Or.inr ⟨rfl, hgiven⟩
  · exact Or.inl h

theorem mem_ledgerAnswers_callLedger {call other : LedgerCall} {answer : LedgerAnswer}
    (h : (other, answer) ∈ (w.callLedger platforms call).ledgerAnswers) :
    (other, answer) ∈ w.ledgerAnswers ∨
      other = call ∧ ((Ledger.ledger platforms.ledger).step w.ledger call).1 = .ok answer := by
  simp only [World.callLedger] at h
  split at h
  next given hgiven =>
    rcases List.mem_append.mp h with hold | hnew
    · exact Or.inl hold
    · obtain ⟨rfl, rfl⟩ := Prod.mk.inj (List.mem_singleton.mp hnew)
      exact Or.inr ⟨rfl, hgiven⟩
  · exact Or.inl h

theorem Shown.callBank (h : Shown w) (hsha : Function.Injective platforms.bank.sha256)
    (hreached : Reached platforms openings w) (call : BankCall) :
    Shown (w.callBank platforms call) where
  bankPrepared other answer hanswer hop := by
    rcases mem_bankAnswers_callBank hanswer with hold | ⟨rfl, hok⟩
    · exact (hreached.extends_callBank call).showsTransfer (h.bankPrepared other answer hold hop)
    · obtain ⟨posted, hsettled⟩ := hreached.bankSettled
      exact showsTransfer_of_ok hsha hsettled.digests hop bankAmount_eq hok
  bankExecuted other answer hanswer action actionHash executionId hop := by
    rcases mem_bankAnswers_callBank hanswer with hold | ⟨rfl, hok⟩
    · exact (hreached.extends_callBank call).showsExecution
        (h.bankExecuted other answer hold action actionHash executionId hop)
    · exact showsExecution_of_ok hop hok
  ledgerPrepared := h.ledgerPrepared

theorem Shown.callLedger (h : Shown w) (hsha : Function.Injective platforms.ledger.sha256)
    (hreached : Reached platforms openings w) (call : LedgerCall) :
    Shown (w.callLedger platforms call) where
  bankPrepared := h.bankPrepared
  bankExecuted := h.bankExecuted
  ledgerPrepared other answer hanswer scope hrequest := by
    rcases mem_ledgerAnswers_callLedger hanswer with hold | ⟨rfl, hok⟩
    · exact (hreached.extends_callLedger call).showsPayment
        (h.ledgerPrepared other answer hold scope hrequest)
    · exact showsPayment_of_ok hsha hreached.ledgerRegular hreached.ledgerDigested hrequest
        ledgerAmount_eq hok

end Answers

end Xyena.Financing
