import Xyena.Bank.KeyedRows
import Xyena.Foundation.JsonText

/-!
# What an idempotency key admits

A call under a key that is taken is answered with the row that holds the key, or
refused. Five of the six operations compare a digest of all of their parameters.
A hold is compared by its account and its amount only, and before the account is
looked up.
-/

namespace Xyena.Bank

open Xyena.Foundation Xyena.Contracts
open Xyena.Foundation.Session (bind_ok)

/-! ## Parameters of a call -/

/-- The parameters of a call after normalisation. The user is one of them where the operation is on an
account of that user. -/
inductive Request where
  | consent (userId : String) (accountTokens : List String) (kinds : List InformationType)
      (validDays : Int)
  | information (userId consentId : String) (kind : InformationType) (accountToken : String)
      (fromDate toDate : Option Day)
  | transfer (userId sourceAccountToken beneficiaryToken : String) (amount : Int)
      (currency rail : String)
  | hold (userId accountToken : String) (amount : Int) (currency : String)
  | change (beneficiaryToken ownerName maskedAccount bankName currency : String)
  | reversal (transferExecutionId : String) (amount : Int) (reason : String)
deriving DecidableEq, Repr

/-- The table and the key of a call. -/
def BankCall.keyed (call : BankCall) : Option (KeyedKind × String) :=
  match call.op with
  | .createConsent _ _ _ key => some (.consent, key)
  | .fetchInformation _ _ _ key _ _ => some (.information, key)
  | .prepareTransfer _ _ _ _ _ key => some (.transfer, key)
  | .placeHold _ _ _ key => some (.hold, key)
  | .prepareBeneficiaryChange _ _ _ _ _ key => some (.change, key)
  | .prepareReversal _ _ _ key => some (.reversal, key)
  | _ => none

def BankCall.request (call : BankCall) : Option Request :=
  match call.op with
  | .createConsent tokens kinds validDays _ =>
    some (.consent call.scope.userId (sortedSet tokens) ((informationTypes kinds).getD []) validDays)
  | .fetchInformation consentId kind token _ fromDate toDate =>
    (informationType kind).map fun kind ↦
      .information call.scope.userId consentId kind token fromDate toDate
  | .prepareTransfer source beneficiary amount currency rail _ =>
    (parseAmount amount).toOption.map fun amount ↦
      .transfer call.scope.userId source beneficiary amount currency rail
  | .placeHold token amount currency _ =>
    (parseAmount amount).toOption.map fun amount ↦ .hold call.scope.userId token amount currency
  | .prepareBeneficiaryChange token ownerName maskedAccount bankName currency _ =>
    some (.change token ownerName maskedAccount bankName currency)
  | .prepareReversal execution amount reason _ =>
    (parseAmount amount).toOption.map fun amount ↦ .reversal execution amount reason
  | _ => none

/-- The terms of the row that a call would add. -/
def BankCall.terms (platform : BankPlatform) (call : BankCall) : Option Terms :=
  match call.op with
  | .createConsent tokens kinds validDays key =>
    some (.digest (hash platform
      (consentAction call.scope tokens ((informationTypes kinds).getD []) validDays key)))
  | .fetchInformation consentId kind token key fromDate toDate =>
    (informationType kind).map fun kind ↦
      .digest (hash platform (informationAction platform consentId kind token key fromDate toDate))
  | .prepareTransfer source beneficiary amount currency rail key =>
    (parseAmount amount).toOption.map fun amount ↦
      .digest (hash platform (transferAction call.scope source beneficiary amount currency rail key))
  | .placeHold token amount currency _ =>
    (parseAmount amount).toOption.map fun amount ↦ .hold token amount currency
  | .prepareBeneficiaryChange token ownerName maskedAccount bankName currency key =>
    some (.digest (hash platform (changeAction token ownerName maskedAccount bankName currency key)))
  | .prepareReversal execution amount reason key =>
    (parseAmount amount).toOption.map fun amount ↦
      .digest (hash platform (reversalAction execution amount reason key))
  | _ => none

/-- The row that an answer is about. -/
def BankAnswer.rowId : BankAnswer → Option String
  | .consent row => some row.consentId
  | .information requestId _ _ _ _ => some requestId
  | .prepared row => some row.proposedActionId
  | .hold row => some row.holdId
  | .change row _ => some row.changeId
  | .reversal row _ => some row.reversalId
  | _ => none

/-! ## One keyed call -/

/-- How a call under a key succeeds: `before` and `after` are the rows of its table. -/
inductive Served (call : BankCall) (key : String) (terms : Terms) (before after : List Registered)
    (answer : BankAnswer) : Prop
  | replayed (row : Registered) (hstored : row ∈ before) (htenant : row.tenantId = call.scope.tenantId)
      (hkey : row.key = key) (hterms : terms.Matches row.terms) (hanswer : answer.rowId = some row.rowId)
      (hafter : after = before)
  | created (row : Registered) (htenant : row.tenantId = call.scope.tenantId)
      (huser : row.userId = call.scope.userId) (hkey : row.key = key) (hterms : row.terms = terms)
      (hunused : ∀ other ∈ before, other.tenantId = call.scope.tenantId → other.key ≠ key)
      (hanswer : answer.rowId = some row.rowId) (hafter : after = before ++ [row])

/-- The tables after a session that ends with rows, or without. -/
def BankDb.commit (db : BankDb) : Option Writes → BankDb
  | none => db
  | some writes => writes.apply db

/-- A call that succeeds has committed what its operation has returned. -/
theorem close_ok {db : BankDb} {refused : Bool} {outcome : Except BankError Outcome} {answer : BankAnswer}
    (h : (close db refused outcome).1 = .ok answer) :
    ∃ writes, outcome = .ok (answer, writes) ∧ (close db refused outcome).2 = db.commit writes := by
  cases outcome with
  | error failure => cases h
  | ok outcome =>
    obtain ⟨value, _ | writes⟩ := outcome
    · obtain rfl := Except.ok.inj h
      exact ⟨none, rfl, rfl⟩
    · simp only [close] at h ⊢
      split at h
      next haccepted =>
        obtain rfl := Except.ok.inj h
        exact ⟨some writes, rfl, by rw [if_pos haccepted]; rfl⟩
      · cases h

section Operations

variable {platform : BankPlatform} {db : BankDb} {call : BankCall} {answer : BankAnswer}
  {writes : Option Writes}

/-- An operation that returns has returned just this. -/
theorem returned_all {value : BankAnswer} {rows : Option Writes}
    (h : (pure (value, rows) : Except BankError Outcome) = .ok (answer, writes)) :
    answer = value ∧ writes = rows := by
  obtain ⟨hvalue, hrows⟩ := Prod.mk.inj (Except.ok.inj h)
  exact ⟨hvalue.symm, hrows.symm⟩

section Find

variable {Row : Type} {rows : List Row} {tenant key : Row → String} {tenantId value : String}

theorem found_of_find {row : Row}
    (h : rows.find? (fun row ↦ tenant row == tenantId && key row == value) = some row) :
    row ∈ rows ∧ tenant row = tenantId ∧ key row = value := by
  have hrow := List.find?_some h
  simp only [Bool.and_eq_true, beq_iff_eq] at hrow
  exact ⟨List.mem_of_find?_eq_some h, hrow⟩

/-- A key that is unused in a table is unused among what its rows keep. -/
theorem unused_registered {column : Row → Registered}
    (h : rows.find? (fun row ↦ tenant row == tenantId && key row == value) = none)
    (htenant : ∀ row, (column row).tenantId = tenant row) (hkey : ∀ row, (column row).key = key row) :
    ∀ other ∈ rows.map column, other.tenantId = tenantId → other.key ≠ value := by
  intro other hother hsame
  obtain ⟨row, hrow, rfl⟩ := List.mem_map.mp hother
  rw [hkey]
  exact unused_of_find h row hrow ((htenant row).symm.trans hsame)

end Find

theorem served_createConsent {tokens kinds : List String} {validDays : Int} {key : String}
    (h : createConsent platform db call tokens kinds validDays key = .ok (answer, writes)) :
    Served call key (.digest (hash platform
        (consentAction call.scope tokens ((informationTypes kinds).getD []) validDays key)))
      (db.registered .consent) ((db.commit writes).registered .consent) answer := by
  obtain ⟨-, h⟩ := ensure_bind_ok.mp h
  obtain ⟨-, h⟩ := ensure_bind_ok.mp h
  split at h
  next existing hfind =>
    obtain ⟨hstored, htenant, hkey⟩ := found_of_find hfind
    obtain ⟨hsame, h⟩ := ensure_bind_ok.mp h
    obtain ⟨rfl, rfl⟩ := returned_all h
    exact .replayed existing.registered (List.mem_map_of_mem hstored) htenant hkey (beq_iff_eq.mp hsame)
      rfl rfl
  next hnone =>
    obtain ⟨-, -, h⟩ := bind_ok.mp h
    obtain ⟨rfl, rfl⟩ := returned_all h
    refine .created ⟨"aac_" ++ call.draws.token, call.scope.tenantId, call.scope.userId, key, _⟩
      rfl rfl rfl rfl (unused_registered hnone (fun _ ↦ rfl) fun _ ↦ rfl) rfl ?_
    exact List.map_append

theorem served_fetchInformation {consentId token key : String} {kind : InformationType} {kindText : String}
    (hkind : informationType kindText = some kind) {fromDate toDate : Option Day}
    (h : fetchInformation platform db call consentId kindText token key fromDate toDate =
      .ok (answer, writes)) :
    Served call key
        (.digest (hash platform (informationAction platform consentId kind token key fromDate toDate)))
        (db.registered .information) ((db.commit writes).registered .information) answer ∧
      ∃ consent ∈ db.consents, consent.consentId = consentId ∧ consent.userId = call.scope.userId := by
  simp only [fetchInformation, hkind] at h
  obtain ⟨consent, hconsent, h⟩ := bind_ok.mp h
  obtain ⟨hcovering, hid, -, huser, -⟩ := lookupConsent_ok hconsent
  refine ⟨?_, consent, hcovering, hid, huser⟩
  obtain ⟨-, h⟩ := ensure_bind_ok.mp h
  obtain ⟨-, h⟩ := ensure_bind_ok.mp h
  obtain ⟨hsame, h⟩ := ensure_bind_ok.mp h
  obtain ⟨account, -, h⟩ := bind_ok.mp h
  obtain ⟨payload, -, h⟩ := bind_ok.mp h
  obtain ⟨rfl, rfl⟩ := returned_all h
  cases hfind : db.informationRequests.find? fun row ↦
      row.tenantId == call.scope.tenantId && row.idempotencyKey == key with
  | some existing =>
    obtain ⟨hstored, htenant, hkey⟩ := found_of_find hfind
    rw [hfind, Option.all_some, beq_iff_eq] at hsame
    exact .replayed existing.registered (List.mem_map_of_mem hstored) htenant hkey hsame rfl rfl
  | none =>
    refine .created ⟨"fir_" ++ call.draws.token, call.scope.tenantId, call.scope.userId, key, _⟩
      rfl rfl rfl rfl (unused_registered hfind (fun _ ↦ rfl) fun _ ↦ rfl) rfl ?_
    exact List.map_append

theorem served_prepareTransfer {source beneficiary amountText currency rail key : String}
    (h : prepareTransfer platform db call source beneficiary amountText currency rail key =
      .ok (answer, writes)) :
    ∃ amount, parseAmount amountText = .ok amount ∧ Served call key
      (.digest (hash platform (transferAction call.scope source beneficiary amount currency rail key)))
      (db.registered .transfer) ((db.commit writes).registered .transfer) answer := by
  obtain ⟨amount, hamount, h⟩ := bind_ok.mp h
  refine ⟨amount, hamount, ?_⟩
  obtain ⟨⟨⟩, -, h⟩ := bind_ok.mp h
  split at h
  next existing hfind =>
    obtain ⟨hstored, htenant, hkey⟩ := found_of_find hfind
    obtain ⟨hsame, h⟩ := ensure_bind_ok.mp h
    obtain ⟨rfl, rfl⟩ := returned_all h
    exact .replayed existing.registered (List.mem_map_of_mem hstored) htenant hkey (beq_iff_eq.mp hsame)
      rfl rfl
  next hnone =>
    obtain ⟨account, -, h⟩ := bind_ok.mp h
    obtain ⟨payee, -, h⟩ := bind_ok.mp h
    obtain ⟨⟨⟩, -, h⟩ := bind_ok.mp h
    obtain ⟨rfl, rfl⟩ := returned_all h
    refine .created (newTransfer platform call source beneficiary amount currency rail key).registered
      rfl rfl rfl rfl (unused_registered hnone (fun _ ↦ rfl) fun _ ↦ rfl) rfl ?_
    exact List.map_append

theorem served_placeHold {token amountText currency key : String}
    (h : placeHold platform db call token amountText currency key = .ok (answer, writes)) :
    ∃ amount, parseAmount amountText = .ok amount ∧ Served call key (.hold token amount currency)
      (db.registered .hold) ((db.commit writes).registered .hold) answer := by
  obtain ⟨amount, hamount, h⟩ := bind_ok.mp h
  refine ⟨amount, hamount, ?_⟩
  split at h
  next existing hfind =>
    obtain ⟨hstored, htenant, hkey⟩ := found_of_find hfind
    obtain ⟨hsame, h⟩ := ensure_bind_ok.mp h
    obtain ⟨rfl, rfl⟩ := returned_all h
    rw [Bool.and_eq_true, beq_iff_eq, beq_iff_eq] at hsame
    exact .replayed existing.registered (List.mem_map_of_mem hstored) htenant hkey hsame rfl rfl
  next hnone =>
    obtain ⟨account, -, h⟩ := bind_ok.mp h
    obtain ⟨-, h⟩ := ensure_bind_ok.mp h
    obtain ⟨rfl, rfl⟩ := returned_all h
    refine .created (newHold call token amount currency key).registered rfl rfl rfl rfl
      (unused_registered hnone (fun _ ↦ rfl) fun _ ↦ rfl) rfl ?_
    exact List.map_append

theorem served_prepareBeneficiaryChange {token ownerName maskedAccount bankName currency key : String}
    (h : prepareBeneficiaryChange platform db call token ownerName maskedAccount bankName currency key =
      .ok (answer, writes)) :
    Served call key
      (.digest (hash platform (changeAction token ownerName maskedAccount bankName currency key)))
      (db.registered .change) ((db.commit writes).registered .change) answer := by
  unfold prepareBeneficiaryChange at h
  simp only at h
  split at h
  next existing hfind =>
    obtain ⟨hstored, htenant, hkey⟩ := found_of_find hfind
    obtain ⟨hsame, h⟩ := ensure_bind_ok.mp h
    obtain ⟨rfl, rfl⟩ := returned_all h
    exact .replayed existing.registered (List.mem_map_of_mem hstored) htenant hkey (beq_iff_eq.mp hsame)
      rfl rfl
  next hnone =>
    obtain ⟨rfl, rfl⟩ := returned_all h
    refine .created
      (newChange platform call token ownerName maskedAccount bankName currency key).registered
      rfl rfl rfl rfl (unused_registered hnone (fun _ ↦ rfl) fun _ ↦ rfl) rfl ?_
    exact List.map_append

theorem served_prepareReversal {executionId amountText reason key : String}
    (h : prepareReversal platform db call executionId amountText reason key = .ok (answer, writes)) :
    ∃ amount, parseAmount amountText = .ok amount ∧ Served call key
      (.digest (hash platform (reversalAction executionId amount reason key)))
      (db.registered .reversal) ((db.commit writes).registered .reversal) answer := by
  obtain ⟨amount, hamount, h⟩ := bind_ok.mp h
  refine ⟨amount, hamount, ?_⟩
  split at h
  · cases h
  next execution hexecution =>
    obtain ⟨-, h⟩ := ensure_bind_ok.mp h
    split at h
    next existing hfind =>
      obtain ⟨hstored, htenant, hkey⟩ := found_of_find hfind
      obtain ⟨hsame, h⟩ := ensure_bind_ok.mp h
      obtain ⟨rfl, rfl⟩ := returned_all h
      exact .replayed existing.registered (List.mem_map_of_mem hstored) htenant hkey
        (beq_iff_eq.mp hsame) rfl rfl
    next hnone =>
      obtain ⟨rfl, rfl⟩ := returned_all h
      refine .created (newReversal platform call execution executionId amount reason key).registered
        rfl rfl rfl rfl (unused_registered hnone (fun _ ↦ rfl) fun _ ↦ rfl) rfl ?_
      exact List.map_append

end Operations

/-- The operation of a call under a key. -/
def KeyedKind.Operation (kind : KeyedKind) (key : String) (op : BankOp) : Prop :=
  match kind with
  | .consent => ∃ tokens kinds validDays, op = .createConsent tokens kinds validDays key
  | .information => ∃ consentId kindText token fromDate toDate,
      op = .fetchInformation consentId kindText token key fromDate toDate
  | .transfer => ∃ source beneficiary amount currency rail,
      op = .prepareTransfer source beneficiary amount currency rail key
  | .hold => ∃ token amount currency, op = .placeHold token amount currency key
  | .change => ∃ token ownerName maskedAccount bankName currency,
      op = .prepareBeneficiaryChange token ownerName maskedAccount bankName currency key
  | .reversal => ∃ execution amount reason, op = .prepareReversal execution amount reason key

theorem operation_of_keyed {call : BankCall} {kind : KeyedKind} {key : String}
    (h : call.keyed = some (kind, key)) : kind.Operation key call.op := by
  unfold BankCall.keyed at h
  split at h
  next hop => obtain ⟨rfl, rfl⟩ := Prod.mk.inj (Option.some.inj h); exact ⟨_, _, _, hop⟩
  next hop => obtain ⟨rfl, rfl⟩ := Prod.mk.inj (Option.some.inj h); exact ⟨_, _, _, _, _, hop⟩
  next hop => obtain ⟨rfl, rfl⟩ := Prod.mk.inj (Option.some.inj h); exact ⟨_, _, _, _, _, hop⟩
  next hop => obtain ⟨rfl, rfl⟩ := Prod.mk.inj (Option.some.inj h); exact ⟨_, _, _, hop⟩
  next hop => obtain ⟨rfl, rfl⟩ := Prod.mk.inj (Option.some.inj h); exact ⟨_, _, _, _, _, hop⟩
  next hop => obtain ⟨rfl, rfl⟩ := Prod.mk.inj (Option.some.inj h); exact ⟨_, _, _, hop⟩
  · cases h

/-- The consent that a call for information names. -/
def BankCall.consentId (call : BankCall) : Option String :=
  match call.op with
  | .fetchInformation consentId _ _ _ _ _ => some consentId
  | _ => none

/-- A call under a key that succeeds was served in one of the two ways, and a consent that it names is
one of its user. -/
theorem served_of_step {platform : BankPlatform} {db : BankDb} {call : BankCall} {kind : KeyedKind}
    {key : String} (hkeyed : call.keyed = some (kind, key)) {answer : BankAnswer}
    (h : ((bank platform).step db call).1 = .ok answer) :
    ∃ terms, call.terms platform = some terms ∧ Served call key terms (db.registered kind)
        (((bank platform).step db call).2.registered kind) answer ∧
      ∀ consentId, call.consentId = some consentId →
        ∃ consent ∈ db.consents, consent.consentId = consentId ∧ consent.userId = call.scope.userId := by
  have hop := operation_of_keyed hkeyed
  obtain ⟨writes, hserve, hafter⟩ := close_ok h
  have hdb : ((bank platform).step db call).2 = db.commit writes := hafter
  rw [hdb]
  cases kind with
  | consent =>
    obtain ⟨tokens, kinds, validDays, hop⟩ := hop
    simp only [serve, hop] at hserve
    simp only [BankCall.terms, BankCall.consentId, hop]
    exact ⟨_, rfl, served_createConsent hserve, nofun⟩
  | information =>
    obtain ⟨consentId, kindText, token, fromDate, toDate, hop⟩ := hop
    simp only [serve, hop] at hserve
    simp only [BankCall.terms, BankCall.consentId, hop]
    cases hkind : informationType kindText with
    | none =>
      simp only [fetchInformation, hkind] at hserve
      cases hserve
    | some kind =>
      obtain ⟨hserved, hconsent⟩ := served_fetchInformation hkind hserve
      refine ⟨_, rfl, hserved, fun id hid ↦ ?_⟩
      obtain rfl := Option.some.inj hid
      exact hconsent
  | transfer =>
    obtain ⟨source, beneficiary, amountText, currency, rail, hop⟩ := hop
    simp only [serve, hop] at hserve
    simp only [BankCall.terms, BankCall.consentId, hop]
    obtain ⟨amount, hamount, hserved⟩ := served_prepareTransfer hserve
    rw [hamount]
    exact ⟨_, rfl, hserved, nofun⟩
  | hold =>
    obtain ⟨token, amountText, currency, hop⟩ := hop
    simp only [serve, hop] at hserve
    simp only [BankCall.terms, BankCall.consentId, hop]
    obtain ⟨amount, hamount, hserved⟩ := served_placeHold hserve
    rw [hamount]
    exact ⟨_, rfl, hserved, nofun⟩
  | change =>
    obtain ⟨token, ownerName, maskedAccount, bankName, currency, hop⟩ := hop
    simp only [serve, hop] at hserve
    simp only [BankCall.terms, BankCall.consentId, hop]
    exact ⟨_, rfl, served_prepareBeneficiaryChange hserve, nofun⟩
  | reversal =>
    obtain ⟨executionId, amountText, reason, hop⟩ := hop
    simp only [serve, hop] at hserve
    simp only [BankCall.terms, BankCall.consentId, hop]
    obtain ⟨amount, hamount, hserved⟩ := served_prepareReversal hserve
    rw [hamount]
    exact ⟨_, rfl, hserved, nofun⟩

/-! ## Parameters under a digest -/

theorem InformationType.value_injective : Function.Injective InformationType.value := by
  intro first second h
  revert h
  cases first <;> cases second <;> decide

section Digests

variable {platform : BankPlatform} (hsha : Function.Injective platform.sha256)
include hsha

/-- Actions with one digest agree in every field. -/
theorem field_of_hash {first second : Dict} (h : hash platform first = hash platform second)
    (hfirst : (Json.obj first).wellFormed = true) (hsecond : (Json.obj second).wellFormed = true)
    (hkeys : (first.map Prod.fst).Nodup) (hkeys' : (second.map Prod.fst).Nodup) (key : String)
    {left right : Json} (hleft : first.lookup key = some left) (hright : second.lookup key = some right) :
    left.normalize = right.normalize := by
  have hlookup := (Json.same_of_dumps true hfirst hsecond (hsha h)).lookup hkeys hkeys' key
  rw [hleft, hright] at hlookup
  exact Option.some.inj hlookup

theorem consent_of_hash {first second : RuntimeScope} {tokens tokens' : List String}
    {kinds kinds' : List InformationType} {validDays validDays' : Int} {key : String}
    (h : hash platform (consentAction first tokens kinds validDays key) =
      hash platform (consentAction second tokens' kinds' validDays' key)) :
    first.userId = second.userId ∧ sortedSet tokens = sortedSet tokens' ∧ kinds = kinds' ∧
      validDays = validDays' := by
  have hformed (scope : RuntimeScope) (tokens : List String) (kinds : List InformationType)
      (validDays : Int) : (Json.obj (consentAction scope tokens kinds validDays key)).wellFormed = true := by
    simp [consentAction, Json.wellFormed, Json.wellFormedFields, Json.wellFormed_strings]
  have hfield := field_of_hash hsha h (hformed ..) (hformed ..) (by simp [consentAction])
    (by simp [consentAction])
  have huser := hfield "user_id" rfl rfl
  have htokens := hfield "account_tokens" rfl rfl
  have hkinds := hfield "information_types" rfl rfl
  have hdays := hfield "valid_days" rfl rfl
  simp only [Json.normalize_strings, Json.strings_inj] at htokens hkinds
  exact ⟨Json.str.inj huser, htokens, List.map_injective_iff.mpr InformationType.value_injective hkinds,
    Json.int.inj hdays⟩

theorem information_of_hash (hdate : Function.Injective platform.isodate) {consentId consentId' : String}
    {kind kind' : InformationType} {token token' key : String} {fromDate fromDate' toDate toDate' : Option Day}
    (h : hash platform (informationAction platform consentId kind token key fromDate toDate) =
      hash platform (informationAction platform consentId' kind' token' key fromDate' toDate')) :
    consentId = consentId' ∧ kind = kind' ∧ token = token' ∧ fromDate = fromDate' ∧ toDate = toDate' := by
  have hformed (consentId : String) (kind : InformationType) (token : String)
      (fromDate toDate : Option Day) : (Json.obj
        (informationAction platform consentId kind token key fromDate toDate)).wellFormed = true := by
    simp [informationAction, Json.wellFormed, Json.wellFormedFields, Json.wellFormed_ofOption]
  have hfield := field_of_hash hsha h (hformed ..) (hformed ..) (by simp [informationAction])
    (by simp [informationAction])
  have hconsent := hfield "consent_id" rfl rfl
  have hkind := hfield "information_type" rfl rfl
  have htoken := hfield "account_token" rfl rfl
  have hfrom := hfield "from_date" rfl rfl
  have hto := hfield "to_date" rfl rfl
  simp only [Json.normalize_ofOption, Json.ofOption_inj] at hfrom hto
  exact ⟨Json.str.inj hconsent, InformationType.value_injective (Json.str.inj hkind),
    Json.str.inj htoken, Option.map_injective hdate hfrom, Option.map_injective hdate hto⟩

theorem transfer_of_hash {first second : RuntimeScope} {source source' beneficiary beneficiary' : String}
    {amount amount' : Int} {currency currency' rail rail' key : String}
    (h : hash platform (transferAction first source beneficiary amount currency rail key) =
      hash platform (transferAction second source' beneficiary' amount' currency' rail' key)) :
    first.userId = second.userId ∧ source = source' ∧ beneficiary = beneficiary' ∧ amount = amount' ∧
      currency = currency' ∧ rail = rail' := by
  have hfield := field_of_hash hsha h rfl rfl (by simp [transferAction]) (by simp [transferAction])
  exact ⟨Json.str.inj (hfield "user_id" rfl rfl), Json.str.inj (hfield "source_account_token" rfl rfl),
    Json.str.inj (hfield "beneficiary_token" rfl rfl),
    centsText_injective (Json.str.inj (hfield "amount" rfl rfl)),
    Json.str.inj (hfield "currency" rfl rfl), Json.str.inj (hfield "rail" rfl rfl)⟩

theorem change_of_hash {token token' ownerName ownerName' maskedAccount maskedAccount' bankName bankName'
      currency currency' key : String}
    (h : hash platform (changeAction token ownerName maskedAccount bankName currency key) =
      hash platform (changeAction token' ownerName' maskedAccount' bankName' currency' key)) :
    token = token' ∧ ownerName = ownerName' ∧ maskedAccount = maskedAccount' ∧ bankName = bankName' ∧
      currency = currency' := by
  have hfield := field_of_hash hsha h rfl rfl (by simp [changeAction]) (by simp [changeAction])
  exact ⟨Json.str.inj (hfield "beneficiary_token" rfl rfl), Json.str.inj (hfield "owner_name" rfl rfl),
    Json.str.inj (hfield "masked_account" rfl rfl), Json.str.inj (hfield "bank_name" rfl rfl),
    Json.str.inj (hfield "currency" rfl rfl)⟩

theorem reversal_of_hash {executionId executionId' : String} {amount amount' : Int}
    {reason reason' key : String}
    (h : hash platform (reversalAction executionId amount reason key) =
      hash platform (reversalAction executionId' amount' reason' key)) :
    executionId = executionId' ∧ amount = amount' ∧ reason = reason' := by
  have hfield := field_of_hash hsha h rfl rfl (by simp [reversalAction]) (by simp [reversalAction])
  exact ⟨Json.str.inj (hfield "transfer_execution_id" rfl rfl),
    centsText_injective (Json.str.inj (hfield "amount" rfl rfl)), Json.str.inj (hfield "reason" rfl rfl)⟩

end Digests

/-! ## Two calls under one key -/

/-- Holds are asked for by one user and in one currency. -/
def HoldsAlike (first second : BankCall) : Prop :=
  ∀ token amount currency key token' amount' currency' key',
    first.op = .placeHold token amount currency key → second.op = .placeHold token' amount' currency' key' →
      second.scope.userId = first.scope.userId ∧ currency' = currency

section Pairs

variable {platform : BankPlatform} {first second : BankCall} {kind : KeyedKind} {key : String}

theorem holdsAlike_iff {token amount currency key token' amount' currency' key' : String}
    (hfirst : first.op = .placeHold token amount currency key)
    (hsecond : second.op = .placeHold token' amount' currency' key') :
    HoldsAlike first second ↔ second.scope.userId = first.scope.userId ∧ currency' = currency := by
  constructor
  · intro h
    exact h _ _ _ _ _ _ _ _ hfirst hsecond
  · rintro h _ _ currency₁ _ _ _ currency₂ _ hop hop'
    obtain ⟨-, -, hcurrency, -⟩ := BankOp.placeHold.inj (hfirst.symm.trans hop)
    obtain ⟨-, -, hcurrency', -⟩ := BankOp.placeHold.inj (hsecond.symm.trans hop')
    rw [← hcurrency, ← hcurrency']
    exact h

/-- Terms that match come from the same parameters, except for what a hold is not compared by. -/
theorem request_eq_iff (hsha : Function.Injective platform.sha256)
    (hdate : Function.Injective platform.isodate) (hfirst : first.keyed = some (kind, key))
    (hsecond : second.keyed = some (kind, key)) {old new : Terms}
    (hold : first.terms platform = some old) (hnew : second.terms platform = some new)
    (hmatches : new.Matches old)
    (huser : ∀ consentId, first.consentId = some consentId → second.consentId = some consentId →
      second.scope.userId = first.scope.userId) :
    second.request = first.request ↔ HoldsAlike first second := by
  have hop := operation_of_keyed hfirst
  have hop' := operation_of_keyed hsecond
  cases kind with
  | consent =>
    obtain ⟨tokens, kinds, validDays, hop⟩ := hop
    obtain ⟨tokens', kinds', validDays', hop'⟩ := hop'
    simp only [BankCall.terms, hop, hop', Option.some.injEq] at hold hnew
    subst hold hnew
    obtain ⟨huser, htokens, hkinds, hdays⟩ := consent_of_hash hsha hmatches
    simp [BankCall.request, HoldsAlike, hop, hop', huser, htokens, hkinds, hdays]
  | information =>
    obtain ⟨consentId, kindText, token, fromDate, toDate, hop⟩ := hop
    obtain ⟨consentId', kindText', token', fromDate', toDate', hop'⟩ := hop'
    simp only [BankCall.terms, hop, hop', Option.map_eq_some_iff] at hold hnew
    obtain ⟨kind, hkind, rfl⟩ := hold
    obtain ⟨kind', hkind', rfl⟩ := hnew
    obtain ⟨rfl, rfl, rfl, rfl, rfl⟩ := information_of_hash hsha hdate hmatches
    have hsame := huser consentId (by simp only [BankCall.consentId, hop])
      (by simp only [BankCall.consentId, hop'])
    simp [BankCall.request, HoldsAlike, hop, hop', hkind, hkind', hsame]
  | transfer =>
    obtain ⟨source, beneficiary, amountText, currency, rail, hop⟩ := hop
    obtain ⟨source', beneficiary', amountText', currency', rail', hop'⟩ := hop'
    simp only [BankCall.terms, hop, hop', Option.map_eq_some_iff] at hold hnew
    obtain ⟨amount, hamount, rfl⟩ := hold
    obtain ⟨amount', hamount', rfl⟩ := hnew
    obtain ⟨huser, rfl, rfl, rfl, rfl, rfl⟩ := transfer_of_hash hsha hmatches
    simp [BankCall.request, HoldsAlike, hop, hop', hamount, hamount', huser]
  | hold =>
    obtain ⟨token, amountText, currency, hop⟩ := hop
    obtain ⟨token', amountText', currency', hop'⟩ := hop'
    simp only [BankCall.terms, hop, hop', Option.map_eq_some_iff] at hold hnew
    obtain ⟨amount, hamount, rfl⟩ := hold
    obtain ⟨amount', hamount', rfl⟩ := hnew
    obtain ⟨rfl, rfl⟩ := hmatches
    rw [holdsAlike_iff hop hop']
    simp [BankCall.request, hop, hop', hamount, hamount']
  | change =>
    obtain ⟨token, ownerName, maskedAccount, bankName, currency, hop⟩ := hop
    obtain ⟨token', ownerName', maskedAccount', bankName', currency', hop'⟩ := hop'
    simp only [BankCall.terms, hop, hop', Option.some.injEq] at hold hnew
    subst hold hnew
    obtain ⟨rfl, rfl, rfl, rfl, rfl⟩ := change_of_hash hsha hmatches
    simp [BankCall.request, HoldsAlike, hop, hop']
  | reversal =>
    obtain ⟨executionId, amountText, reason, hop⟩ := hop
    obtain ⟨executionId', amountText', reason', hop'⟩ := hop'
    simp only [BankCall.terms, hop, hop', Option.map_eq_some_iff] at hold hnew
    obtain ⟨amount, hamount, rfl⟩ := hold
    obtain ⟨amount', hamount', rfl⟩ := hnew
    obtain ⟨rfl, rfl, rfl⟩ := reversal_of_hash hsha hmatches
    simp [BankCall.request, HoldsAlike, hop, hop', hamount, hamount']

/-- What a key promises of a second call that finds `db`: the parameters of the first one, its row, and no
other row. -/
structure Bound (platform : BankPlatform) (db : BankDb) (first second : BankCall) (kind : KeyedKind)
    (row : Registered) (answer : BankAnswer) : Prop where
  parameters : second.request = first.request
  answered : answer.rowId = some row.rowId
  unrepeated : ((bank platform).step db second).2.registered kind = db.registered kind

/-- A row that a call has created holds the user, the key and the terms of that call. -/
theorem created_of_new {db : BankDb} (hkeyed : first.keyed = some (kind, key)) {row : Registered}
    (hbefore : row ∉ db.registered kind)
    (hafter : row ∈ ((bank platform).step db first).2.registered kind) :
    first.terms platform = some row.terms ∧ row.tenantId = first.scope.tenantId ∧ row.key = key ∧
      ∀ consentId, first.consentId = some consentId →
        ∃ consent ∈ db.consents, consent.consentId = consentId ∧ consent.userId = first.scope.userId := by
  rcases step_cases platform db first with hkept | ⟨answer, writes, -, -, hstep⟩
  · rw [hkept] at hafter
    exact absurd hafter hbefore
  · obtain ⟨terms, hterms, hserved, hconsent⟩ := served_of_step hkeyed (congrArg Prod.fst hstep)
    cases hserved with
    | replayed _ _ _ _ _ _ hsame =>
      rw [hsame] at hafter
      exact absurd hafter hbefore
    | created new htenant huser hkey hnew _ _ hgrown =>
      rw [hgrown, List.mem_append, List.mem_singleton] at hafter
      obtain rfl := hafter.resolve_left hbefore
      exact ⟨hnew ▸ hterms, htenant, hkey, hconsent⟩

/-- A second call under the key of a row is bound to the call that has created it, unless it asks for a
hold in another currency or for another user. -/
theorem bound_iff_holdsAlike (platform : BankPlatform) (hsha : Function.Injective platform.sha256)
    (hdate : Function.Injective platform.isodate) (opening : Opening) (earlier between : List BankCall)
    (first second : BankCall) (kind : KeyedKind) (key : String) (row : Registered) (answer : BankAnswer)
    (hfirst : first.keyed = some (kind, key)) (hsecond : second.keyed = some (kind, key))
    (htenant : second.scope.tenantId = first.scope.tenantId)
    (hbefore : row ∉ ((bank platform).run opening.db earlier).registered kind)
    (hcreated : row ∈ ((bank platform).run opening.db (earlier ++ [first])).registered kind)
    (hreturned : ((bank platform).step ((bank platform).run opening.db (earlier ++ [first] ++ between))
      second).1 = .ok answer) :
    Bound platform ((bank platform).run opening.db (earlier ++ [first] ++ between)) first second kind row
      answer ↔ HoldsAlike first second := by
  rw [Machine.run_snoc] at hcreated
  obtain ⟨hold, hrowTenant, hrowKey, hconsent⟩ := created_of_new hfirst hbefore hcreated
  rw [← Machine.run_snoc] at hcreated
  have hkeyed := (regular_run platform opening (earlier ++ [first] ++ between)).keyed
  have hstored := (registered_run platform opening (earlier ++ [first]) between kind).subset hcreated
  obtain ⟨terms, hnew, hserved, hconsent'⟩ := served_of_step hsecond hreturned
  -- a consent of the first call is still there, and its user is the one of the second call
  have huser : ∀ consentId, first.consentId = some consentId → second.consentId = some consentId →
      second.scope.userId = first.scope.userId := by
    intro consentId hnamed hnamed'
    obtain ⟨consent, hmem, hid, huser⟩ := hconsent consentId hnamed
    obtain ⟨consent', hmem', hid', huser'⟩ := hconsent' consentId hnamed'
    have hkept := (registered_run platform opening earlier ([first] ++ between) .consent).subset
      (List.mem_map_of_mem hmem)
    rw [← List.append_assoc] at hkept
    have hstored' : consent'.registered ∈ ((bank platform).run opening.db
        (earlier ++ [first] ++ between)).registered .consent := List.mem_map_of_mem hmem'
    have hsame := hkeyed.registered_unique hkept hstored' (Or.inl (hid.trans hid'.symm))
    exact (huser'.symm.trans (congrArg Registered.userId hsame).symm).trans huser
  cases hserved with
  | created _ _ _ _ _ hunused => exact absurd hrowKey (hunused row hstored (hrowTenant.trans htenant.symm))
  | replayed other hmem hother hotherKey hmatches hanswer hafter =>
    obtain rfl := hkeyed.registered_unique hstored hmem
      (Or.inr ⟨(hrowTenant.trans htenant.symm).trans hother.symm, hrowKey.trans hotherKey.symm⟩)
    rw [← request_eq_iff hsha hdate hfirst hsecond hold hnew hmatches huser]
    exact ⟨Bound.parameters, fun h ↦ ⟨h, hanswer, hafter⟩⟩

end Pairs

/-! ## Holds in the small bank -/

/-- A hold of 50.00 under the key `hold-1`. -/
def holdCall (label amount currency : String) : BankCall :=
  sampleCall label "bank.holds.place" (.placeHold "acct-1" amount currency "hold-1")

/-- The hold that the first call places. -/
def sampleHold : AccountHold := newHold (holdCall "1" "50.00" "INR") "acct-1" 5000 "INR" "hold-1"

/-- A hold that is asked for again, with its amount spelled in another way, is the hold of the first call. -/
theorem bound_sampleHold :
    Bound sampleBank ((bank sampleBank).run (sampleOpening 15000).db [holdCall "1" "50.00" "INR"])
      (holdCall "1" "50.00" "INR") (holdCall "2" "5E1" "INR") .hold sampleHold.registered
      (.hold sampleHold) := by
  have hdate : Function.Injective sampleBank.isodate := fun _ _ h ↦
    Json.toString_injective (congrArg String.toList h)
  refine (bound_iff_holdsAlike sampleBank sampleSha256_injective hdate (sampleOpening 15000) [] []
    (holdCall "1" "50.00" "INR") (holdCall "2" "5E1" "INR") .hold "hold-1" sampleHold.registered
    (.hold sampleHold) rfl rfl rfl (by decide +kernel) (by decide +kernel) rfl).mpr ?_
  exact (holdsAlike_iff rfl rfl).mpr ⟨rfl, rfl⟩

/-- The bank answers a call for a hold in dollars with a hold in rupees. -/
theorem hold_answered_in_other_currency :
    sampleHold.registered ∉ ((bank sampleBank).run (sampleOpening 15000).db []).registered .hold ∧
      sampleHold.registered ∈ ((bank sampleBank).run (sampleOpening 15000).db
        [holdCall "1" "50.00" "INR"]).registered .hold ∧
      ((bank sampleBank).step ((bank sampleBank).run (sampleOpening 15000).db
        [holdCall "1" "50.00" "INR"]) (holdCall "2" "50.00" "USD")).1 = .ok (.hold sampleHold) ∧
      ¬ Bound sampleBank ((bank sampleBank).run (sampleOpening 15000).db [holdCall "1" "50.00" "INR"])
        (holdCall "1" "50.00" "INR") (holdCall "2" "50.00" "USD") .hold sampleHold.registered
        (.hold sampleHold) := by
  refine ⟨by decide +kernel, by decide +kernel, rfl, fun h ↦ ?_⟩
  have hrequest := h.parameters
  revert hrequest
  decide +kernel

end Xyena.Bank
