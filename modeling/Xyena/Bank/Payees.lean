import Xyena.Bank.Transfers

/-!
# The destination of a prepared transfer

The digest of a prepared transfer covers the token of its beneficiary, and an
executed beneficiary change gives that token another meaning. A transfer pays
the details it was prepared for as long as no change with other details is
executed while a transfer to its beneficiary is ready.
-/

namespace Xyena.Bank

open Xyena.Foundation Xyena.Contracts

/-- Where a payment to a beneficiary goes: owner, account, bank and currency. -/
def Beneficiary.details (row : Beneficiary) : String × String × String × String :=
  (row.ownerName, row.maskedAccount, row.bankName, row.currency)

/-- The details that a beneficiary change asks for. -/
def PreparedBeneficiaryChange.details (value : PreparedBeneficiaryChange) :
    String × String × String × String :=
  (value.requestedOwnerName, value.requestedMaskedAccount, value.requestedBankName, value.currency)

/-- The call that has prepared a transfer, with the beneficiary at that time. -/
structure PreparedIn (e : BankEntry) (prepared : PreparedTransfer) (approved : Beneficiary) : Prop where
  stored : ∃ row ∈ e.after.preparedTransfers, row.terms = prepared.terms
  fresh : ∀ row ∈ e.before.preparedTransfers, row.proposedActionId ≠ prepared.proposedActionId
  known : approved ∈ e.before.beneficiaries
  token : approved.beneficiaryToken = prepared.beneficiaryToken

/-- Every settled transfer goes to the details that its beneficiary had when it was prepared. -/
def PaysApprovedPayees (log : List BankEntry) : Prop :=
  ∀ e ∈ log, ∀ execution ∈ e.after.executions, execution ∉ e.before.executions →
    ∃ prepared ∈ e.before.preparedTransfers,
      prepared.proposedActionId = execution.proposedActionId ∧
      prepared.canonicalActionHash = execution.canonicalActionHash ∧
      ∃ origin ∈ log, ∃ approved paid, PreparedIn origin prepared approved ∧
        paid ∈ e.before.beneficiaries ∧ paid.beneficiaryToken = prepared.beneficiaryToken ∧
        paid.details = approved.details

/-- A beneficiary change that is executed finds no ready transfer of the tenant to its beneficiary, or asks
for the details that are stored. -/
def SparesReadyTransfers (db : BankDb) (call : BankCall) : Prop :=
  ∀ value write, Changes db call value write →
    (∀ prepared ∈ db.preparedTransfers, prepared.status = .readyForGuardian →
      prepared.tenantId = call.scope.tenantId → prepared.beneficiaryToken ≠ value.beneficiaryToken) ∨
    ∀ row ∈ db.beneficiaries, row.beneficiaryToken = value.beneficiaryToken →
      row.details = value.details

/-! ## Ready transfers along a run -/

/-- A ready transfer was prepared by an earlier call, and its beneficiary still has the details of that
time. -/
def Approved (history : List BankEntry) (db : BankDb) : Prop :=
  ∀ prepared ∈ db.preparedTransfers, prepared.status = .readyForGuardian →
    ∃ origin ∈ history, ∃ approved paid, PreparedIn origin prepared approved ∧
      paid ∈ db.beneficiaries ∧ paid.beneficiaryToken = prepared.beneficiaryToken ∧
      paid.tenantId = prepared.tenantId ∧ paid.details = approved.details

section Commit

variable {platform : BankPlatform} {db : BankDb} {call : BankCall} {answer : BankAnswer}
  {writes : Writes}

/-- Only an executed change writes a beneficiary. -/
theorem beneficiaries_commit (hmove : Move platform db call answer writes) :
    (writes.apply db).beneficiaries = db.beneficiaries ∨
      ∃ value write, Changes db call value write ∧ (writes.apply db).beneficiaries =
        RowWrite.applyAll beneficiaryConstraints db.beneficiaries [write] := by
  cases hmove with
  | quiet answer writes hquiet =>
    obtain ⟨_, _, _, heq⟩ := hquiet.apply db
    rw [heq]
    exact Or.inl rfl
  | changeExecuted value write events audits hc => exact Or.inr ⟨value, write, hc, rfl⟩
  | _ => exact Or.inl rfl

/-- The beneficiary of a ready transfer keeps its details when a change is executed under the condition. -/
theorem payee_changed (hregular : Regular db) {value : PreparedBeneficiaryChange}
    {write : RowWrite Beneficiary} (hc : Changes db call value write)
    (hspares : SparesReadyTransfers db call) {prepared : PreparedTransfer}
    (hprepared : prepared ∈ db.preparedTransfers) (hready : prepared.status = .readyForGuardian)
    {paid : Beneficiary} (hpaid : paid ∈ db.beneficiaries)
    (htoken : paid.beneficiaryToken = prepared.beneficiaryToken)
    (htenant : paid.tenantId = prepared.tenantId) :
    ∃ after ∈ RowWrite.applyAll beneficiaryConstraints db.beneficiaries [write],
      after.beneficiaryToken = prepared.beneficiaryToken ∧ after.tenantId = prepared.tenantId ∧
        after.details = paid.details := by
  rcases hc.target with ⟨rfl, -⟩ | ⟨rfl, stored, hstored, hstoredToken, hstoredTenant⟩
  · exact ⟨paid, List.mem_append_left _ hpaid, htoken, htenant, rfl⟩
  · by_cases hsame : paid.beneficiaryToken = value.beneficiaryToken
    · have heq : paid = stored := Table.eq_of_key hregular.keyed.beneficiaries.keys hpaid hstored
        (hsame.trans hstoredToken.symm)
      have hown : prepared.tenantId = call.scope.tenantId := by
        rw [← htenant, heq, hstoredTenant]
      refine ⟨value.target call.scope.tenantId, Table.changed_mem_replace hpaid hsame,
        hsame.symm.trans htoken, hown.symm, ?_⟩
      rcases hspares value _ hc with hnone | hdetails
      · exact absurd (htoken.symm.trans hsame) (hnone prepared hprepared hready hown)
      · exact (hdetails paid hpaid hsame).symm
    · exact ⟨paid, Table.mem_replace_of_ne hpaid hsame, htoken, htenant, rfl⟩

/-- The beneficiary of a ready transfer keeps its details in every commit under the condition. -/
theorem payee_commit (hregular : Regular db) (hmove : Move platform db call answer writes)
    (hspares : SparesReadyTransfers db call) {prepared : PreparedTransfer}
    (hprepared : prepared ∈ db.preparedTransfers) (hready : prepared.status = .readyForGuardian)
    {paid : Beneficiary} (hpaid : paid ∈ db.beneficiaries)
    (htoken : paid.beneficiaryToken = prepared.beneficiaryToken)
    (htenant : paid.tenantId = prepared.tenantId) :
    ∃ after ∈ (writes.apply db).beneficiaries,
      after.beneficiaryToken = prepared.beneficiaryToken ∧ after.tenantId = prepared.tenantId ∧
        after.details = paid.details := by
  rcases beneficiaries_commit hmove with hkept | ⟨value, write, hc, hwritten⟩
  · rw [hkept]
    exact ⟨paid, hpaid, htoken, htenant, rfl⟩
  · rw [hwritten]
    exact payee_changed hregular hc hspares hprepared hready hpaid htoken htenant

/-- Every commit under the condition keeps the beneficiaries of the ready transfers. -/
theorem Approved.commit {history : List BankEntry} (h : Approved history db) (hregular : Regular db)
    (hspares : SparesReadyTransfers db call) (hmove : Move platform db call answer writes)
    (haccepted : writes.Accepted db)
    (hstep : (bank platform).step db call = (.ok answer, writes.apply db)) :
    Approved (history ++ [(bank platform).entry db call]) (writes.apply db) := by
  intro prepared hprepared hready
  have hafter : ((bank platform).entry db call).after = writes.apply db := congrArg Prod.snd hstep
  rcases transfer_origin hmove hprepared with ⟨stored, hstored, -, hsame⟩ |
    ⟨source, beneficiary, amountText, currency, rail, key, amount, account, payee, hp, rfl, hinsert⟩
  · obtain rfl := hsame hready
    obtain ⟨origin, horigin, approved, paid, hin, hpaid, htoken, htenant, hdetails⟩ :=
      h prepared hstored hready
    obtain ⟨after, hmem, haftertoken, haftertenant, hafterdetails⟩ :=
      payee_commit hregular hmove hspares hstored hready hpaid htoken htenant
    exact ⟨origin, List.mem_append_left _ horigin, approved, after, hin, hmem, haftertoken,
      haftertenant, hafterdetails.trans hdetails⟩
  · -- the transfer that this call has prepared, in a commit that writes no beneficiary
    have hkept : (writes.apply db).beneficiaries = db.beneficiaries := by
      rcases beneficiaries_commit hmove with hkept | ⟨value, write, hc, -⟩
      · exact hkept
      · cases hp.op.symm.trans hc.op
    refine ⟨_, List.mem_append_right _ List.mem_cons_self, payee, payee, ?_, ?_, hp.paid.token,
      hp.paid.tenant, rfl⟩
    · refine ⟨⟨_, hafter ▸ hprepared, rfl⟩, fun row hrow hid ↦ ?_, hp.paid.stored, hp.paid.token⟩
      have hinserted := haccepted.preparedTransfers
      rw [hinsert] at hinserted
      exact (RowWrite.accepted_insert.mp (RowWrite.accepted_of_singleton hinserted) row hrow).1 hid.symm
    · rw [hkept]
      exact hp.paid.stored

end Commit

/-- In every run in which each executed beneficiary change spares the ready transfers, every settled transfer
pays the details that its beneficiary had when it was prepared. -/
theorem transfer_pays_approved_payee (platform : BankPlatform) (opening : Opening)
    (calls : List BankCall)
    (hspares : ∀ e ∈ (bank platform).log opening.db calls, SparesReadyTransfers e.before e.input) :
    PaysApprovedPayees ((bank platform).log opening.db calls) := by
  intro e he execution hafter hbefore
  obtain ⟨earlier, call, later, rfl, rfl⟩ := ((bank platform).mem_log_iff opening.db calls e).mp he
  obtain ⟨executionId, prepared, account, payee, hs, rfl, -⟩ := settles_of_new_execution hafter hbefore
  have hlog : (bank platform).log opening.db earlier ⊆
      (bank platform).log opening.db (earlier ++ call :: later) := by
    rw [Machine.log_append]
    exact List.subset_append_left _ _
  have happroved := (commit_history Approved SparesReadyTransfers opening.regular
    (fun prepared hprepared ↦ by cases hprepared)
    (fun history db e h prepared hprepared hready ↦ by
      obtain ⟨origin, horigin, hrest⟩ := h prepared hprepared hready
      exact ⟨origin, List.mem_append_left _ horigin, hrest⟩)
    (fun history db call answer writes hregular h hspares hmove haccepted hstep ↦
      h.commit hregular hspares hmove haccepted hstep)
    earlier fun e he ↦ hspares e (hlog he)).2
  obtain ⟨origin, horigin, approved, paid, hin, hpaid, htoken, -, hdetails⟩ :=
    happroved prepared hs.stored hs.ready
  exact ⟨prepared, hs.stored, rfl, rfl, origin, hlog horigin, approved, paid, hin, hpaid, htoken,
    hdetails⟩

/-- The first transfer of the small bank, without any beneficiary change. -/
theorem transfer_pays_approved_payee_firstTransfer :
    (∃ execution ∈ ((bank sampleBank).run (sampleOpening 15000).db firstTransfer).executions,
      execution.executionId = "exec-1") ∧
    PaysApprovedPayees ((bank sampleBank).log (sampleOpening 15000).db firstTransfer) := by
  obtain ⟨execution, hexecution, -, hid, -⟩ := firstTransfer_settles
  refine ⟨⟨execution, hexecution, hid⟩,
    transfer_pays_approved_payee sampleBank (sampleOpening 15000) firstTransfer ?_⟩
  intro e he value write hc
  have hinput := (bank sampleBank).input_mem he
  have hop := hc.op
  simp only [firstTransfer, List.mem_cons, List.not_mem_nil, or_false] at hinput
  rcases hinput with hinput | hinput <;> simp [hinput, sampleCall] at hop

/-- The first transfer of the small bank, with a change of its beneficiary between preparation and
settlement. -/
def changedPayee : List BankCall :=
  [sampleCall "1" "bank.transfers.prepare"
      (.prepareTransfer "acct-1" "ben-1" "100.00" "INR" "DEMO_BANK_RAIL" "transfer-1"),
    sampleCall "2" "bank.beneficiaries.prepare_change"
      (.prepareBeneficiaryChange "ben-1" "Other Owner" "XX99" "Other Bank" "INR" "change-1"),
    sampleCall "3" "bank.beneficiaries.execute_change" (.executeBeneficiaryChange "bchg_2"
      "60754fd37d55a938782a32eb9e331a697fb76c7902ad436d471fb2d9ba8c49e4"),
    sampleCall "4" "bank.transfers.execute" (.executeTransfer "act_1"
      "1d22fd84ea6bbeca064e19fb6ed5b8548692343b6ca477d34ceb3ac5ae9b6542" "exec-1")]

/-- The transfer prepared for one owner is paid to another one. -/
theorem changedPayee_pays_other :
    ¬ PaysApprovedPayees ((bank sampleBank).log (sampleOpening 15000).db changedPayee) := by
  have hlog : (((bank sampleBank).log (sampleOpening 15000).db changedPayee).all (fun e ↦
        e.before.preparedTransfers.any (·.proposedActionId == "act_1") ||
          e.before.beneficiaries.all (·.ownerName == "Supplier")) &&
      ((bank sampleBank).log (sampleOpening 15000).db changedPayee).any fun e ↦
        e.before.executions.isEmpty && e.after.executions.any (·.proposedActionId == "act_1") &&
          e.before.beneficiaries.all (·.ownerName == "Other Owner")) = true := by
    decide +kernel
  generalize (bank sampleBank).log (sampleOpening 15000).db changedPayee = log at hlog
  obtain ⟨hprepared, hsettled⟩ := Bool.and_eq_true_iff.mp hlog
  obtain ⟨e, he, hchanged⟩ := List.any_eq_true.mp hsettled
  simp only [Bool.and_eq_true, List.isEmpty_iff, List.any_eq_true, List.all_eq_true, beq_iff_eq,
    Bool.or_eq_true] at hprepared hchanged
  obtain ⟨⟨hempty, execution, hexecution, haction⟩, howner⟩ := hchanged
  intro h
  obtain ⟨prepared, -, hid, -, origin, horigin, approved, paid, hin, hpaid, -, hdetails⟩ :=
    h e he execution hexecution (by simp [hempty])
  rcases hprepared origin horigin with ⟨row, hrow, hsame⟩ | hsupplier
  · exact hin.fresh row hrow (hsame.trans (haction.symm.trans hid.symm))
  · have hnames : paid.ownerName = approved.ownerName := congrArg Prod.fst hdetails
    rw [howner paid hpaid, hsupplier approved hin.known] at hnames
    exact absurd hnames (by decide)

end Xyena.Bank
