import Xyena.Bank.Answers
import Xyena.Foundation.DecimalValues
import Xyena.Ledger.Invariant

/-!
# One amount for the bank and the ledger

The bank and the ledger read the text of an amount in the same way. What they
accept is stated by the number that the text denotes, and the actions that they
hash show the rounded number and nothing else of the text.
-/

namespace Xyena.Financing

open Xyena.Foundation Xyena.Contracts

/-! ## Reading an amount -/

section Reading

variable {text : String} {amount : Int}

/-- The bank accepts the texts of the numbers whose rounded value is positive and within the precision. -/
theorem bank_accepts_iff : Bank.parseAmount text = .ok amount ↔
    ∃ value, Denotes text value ∧ amount = halfEven (100 * value) ∧ 0 < amount ∧
      amount < 10 ^ precision := by
  rw [← Session.toOption_eq_some, Bank.parseAmount, toOption_positiveAmount, positiveCents_iff]

end Reading

/-! ## The actions that are hashed -/

/-- A preparation of a payment, without the text of its amount. -/
inductive Preparation where
  | transfer (scope : Bank.RuntimeScope) (sourceAccountToken beneficiaryToken currency rail key : String)
  | disbursement (scope : Ledger.RuntimeScope)
      (financingCaseId sourceAccountToken beneficiaryToken currency rail key : String)

/-- The action that is hashed for an amount, `none` when its text is rejected. -/
def Preparation.action (amountText : String) : Preparation → Option Dict
  | .transfer scope source beneficiary currency rail key =>
    (Bank.parseAmount amountText).toOption.map fun amount ↦
      Bank.transferAction scope source beneficiary amount currency rail key
  | .disbursement scope caseId source beneficiary currency rail key =>
    (Ledger.parseAmount amountText).toOption.map fun amount ↦
      Ledger.disbursementAction scope caseId source beneficiary amount currency rail key

def Preparation.amountField (amountText : String) (preparation : Preparation) : Option Json :=
  (preparation.action amountText).bind (List.lookup "amount")

section Hashes

variable {source beneficiary amountText currency rail key : String}

/-- A prepared transfer carries the digest of this action, also when it is shown again. -/
theorem transfer_digest {platform : Bank.BankPlatform} {db : Bank.BankDb} {call : Bank.BankCall}
    {answer : Bank.BankAnswer} {writes : Option Bank.Writes}
    (h : Bank.prepareTransfer platform db call source beneficiary amountText currency rail key =
      .ok (answer, writes)) :
    ∃ row action, answer = .prepared row ∧ row.canonicalActionHash = Bank.hash platform action ∧
      (Preparation.transfer call.scope source beneficiary currency rail key).action amountText =
        some action := by
  obtain ⟨amount, hparsed, -⟩ := Session.bind_ok.mp h
  have haction := congrArg (fun read ↦ read.toOption.map fun amount ↦
    Bank.transferAction call.scope source beneficiary amount currency rail key) hparsed
  rcases Bank.prepareTransfer_ok hparsed h with ⟨-, row, -, hanswer, hsame⟩ | ⟨hanswer, -⟩
  · exact ⟨row, _, hanswer, hsame, haction⟩
  · exact ⟨_, _, hanswer, rfl, haction⟩

/-- The journal of a prepared disbursement carries the digest of this action. -/
theorem disbursement_digest {platform : Ledger.LedgerPlatform} {db : Ledger.LedgerDb}
    {call : Ledger.LedgerCall} {scope : Ledger.RuntimeScope} {caseId : String} {answer : Ledger.LedgerAnswer}
    {writes : Option Ledger.Writes}
    (h : Ledger.prepareDisbursement platform db call scope caseId source beneficiary amountText currency
      rail key = .ok (answer, writes)) :
    ∃ journal lines payment settled action, answer = .disbursement journal lines payment settled ∧
      journal.canonicalActionHash = Ledger.hash platform action ∧
      (Preparation.disbursement scope caseId source beneficiary currency rail key).action amountText =
        some action := by
  obtain ⟨amount, hparsed, h⟩ := Session.bind_ok.mp h
  have haction := congrArg (fun read ↦ read.toOption.map fun amount ↦
    Ledger.disbursementAction scope caseId source beneficiary amount currency rail key) hparsed
  obtain ⟨-, h⟩ := Session.ensure_bind_ok.mp h
  split at h
  next journal _ =>
    obtain ⟨hsame, h⟩ := Session.ensure_bind_ok.mp h
    obtain ⟨shown, hshown, h⟩ := Session.bind_ok.mp h
    obtain ⟨rfl, -⟩ := Prod.mk.inj (Except.ok.inj h)
    cases hpaid : Ledger.paymentOf db journal.journalId with
    | none => simp [hpaid, Ledger.disbursementAnswer] at hshown
    | some payment =>
      rw [hpaid] at hshown
      obtain rfl := Except.ok.inj hshown
      exact ⟨journal, _, payment, none, _, rfl, beq_iff_eq.mp hsame, haction⟩
  next =>
    obtain ⟨_, -, h⟩ := Session.bind_ok.mp h
    obtain ⟨_, -, h⟩ := Session.bind_ok.mp h
    obtain ⟨_, -, h⟩ := Session.bind_ok.mp h
    obtain ⟨rfl, -⟩ := Prod.mk.inj (Except.ok.inj h)
    exact ⟨_, _, _, none, _, rfl, rfl, haction⟩

end Hashes

/-- A text that the services accept, with the number that it denotes. -/
structure AcceptedAmount where
  text : String
  value : Rat
  denotes : Denotes text value
  accepted : (Bank.parseAmount text).toOption.isSome = true

theorem AcceptedAmount.parsed (amount : AcceptedAmount) :
    (Bank.parseAmount amount.text).toOption = some (halfEven (100 * amount.value)) := by
  obtain ⟨parsed, hparsed⟩ := Option.isSome_iff_exists.mp amount.accepted
  obtain ⟨value, hdenotes, hvalue, -, -⟩ := bank_accepts_iff.mp (Session.toOption_eq_some.mp hparsed)
  rw [hparsed, hvalue, hdenotes.unique amount.denotes]

/-- The amount field shows the rounded value. -/
theorem AcceptedAmount.field (amount : AcceptedAmount) (preparation : Preparation) :
    preparation.amountField amount.text = some (.str (centsText (halfEven (100 * amount.value)))) := by
  have hbank := amount.parsed
  have hledger : (Ledger.parseAmount amount.text).toOption = some (halfEven (100 * amount.value)) := by
    rw [Ledger.parseAmount, toOption_positiveAmount, ← hbank, Bank.parseAmount, toOption_positiveAmount]
  cases preparation with
  | transfer => rw [Preparation.amountField, Preparation.action, hbank]; rfl
  | disbursement => rw [Preparation.amountField, Preparation.action, hledger]; rfl

/-! ## Amounts -/

/-- Both services read an amount alike, accept exactly the numbers whose rounded value is positive and
within the precision, and enter the same text into their actions exactly for equal rounded values. -/
theorem amounts_canonical :
    (∀ text, (Bank.parseAmount text).toOption = (Ledger.parseAmount text).toOption) ∧
    (∀ text amount, Bank.parseAmount text = .ok amount ↔
      ∃ value, Denotes text value ∧ amount = halfEven (100 * value) ∧ 0 < amount ∧
        amount < 10 ^ precision) ∧
    (∀ text amount, text.toList.length ≤ longestCoefficient → (Bank.parseAmount text = .ok amount ↔
      ∃ value, Written text value ∧ amount = halfEven (100 * value) ∧ 0 < amount ∧
        amount < 10 ^ precision)) ∧
    ∀ (preparation other : Preparation) (first second : AcceptedAmount),
      preparation.amountField first.text = other.amountField second.text ↔
        halfEven (100 * first.value) = halfEven (100 * second.value) := by
  refine ⟨fun text ↦ ?_, fun text amount ↦ bank_accepts_iff, fun text amount hlength ↦ ?_,
    fun preparation other first second ↦ ?_⟩
  · rw [Bank.parseAmount, Ledger.parseAmount, toOption_positiveAmount, toOption_positiveAmount]
  · rw [bank_accepts_iff]
    constructor
    · rintro ⟨value, hdenotes, hrounded⟩
      exact ⟨value, hdenotes.written, hrounded⟩
    · rintro ⟨value, hwritten, hvalue, hpos, hlt⟩
      exact ⟨value, hwritten.denotes hlength hvalue hpos hlt, hvalue, hpos, hlt⟩
  · rw [first.field, second.field, Option.some.injEq, Json.str.injEq]
    exact ⟨centsText_injective, congrArg centsText⟩

/-- A number that lies in the middle between two amounts, and the even one of the two. -/
theorem amounts_canonical_spelled :
    Bank.parseAmount "1.005" = .ok 100 ∧
      (Preparation.transfer (Bank.sampleCall "1" "bank.transfers.prepare" .listAccounts).scope
        "src" "ben" "INR" "DEMO_BANK_RAIL" "key-0001").amountField "1.005" =
      (Preparation.disbursement (Ledger.sampleScope "1")
        "case" "src" "ben" "INR" "DEMO_BANK_RAIL" "key-0001").amountField " +1e0" := by
  have hmiddle : halfEven (100 * decimalValue false 1005 (-3)) = 100 := by
    rw [hundredfold]
    exact (hundredths_iff.mp (by decide : hundredths 1005 (-3) = some 100)).1.symm
  have heven : halfEven (100 * decimalValue false 1 0) = 100 := by
    rw [hundredfold]
    exact (hundredths_iff.mp (by decide : hundredths 1 0 = some 100)).1.symm
  have hdenotes : Denotes "1.005" (decimalValue false 1005 (-3)) :=
    denotes_iff_parse.mpr ⟨false, 1005, -3, by decide +kernel, rfl⟩
  have hother : Denotes " +1e0" (decimalValue false 1 0) :=
    denotes_iff_parse.mpr ⟨false, 1, 0, by decide +kernel, rfl⟩
  have hparsed : Bank.parseAmount "1.005" = .ok 100 :=
    (amounts_canonical.2.2.1 "1.005" 100 (by decide)).mpr
      ⟨_, hdenotes.written, hmiddle.symm, by decide, by decide⟩
  refine ⟨hparsed, (amounts_canonical.2.2.2 _ _ ⟨"1.005", _, hdenotes, ?_⟩ ⟨" +1e0", _, hother, ?_⟩).mpr ?_⟩
  · rw [hparsed]
    rfl
  · decide +kernel
  · exact hmiddle.trans heven.symm

end Xyena.Financing
