import Xyena.Bank.Invariant

/-!
# What the reads of the bank disclose

Five operations show information about accounts, and each of them asks for a
consent first. Two of them show more than they have asked for: `list_accounts`
asks for some consent to account details and shows every account of the user,
and `get_account` asks for a consent to account details and shows the balance as
well. The consents on file decide exactly when nothing beyond them is shown. A
consent that was revoked never counts again.
-/

namespace Xyena.Bank

open Xyena.Foundation Xyena.Contracts
open Xyena.Foundation.Session (bind_ok)

/-! ## Disclosures and consents -/

/-- The operations that show information about accounts. -/
def BankOp.reads : BankOp → Bool
  | .fetchInformation .. => true
  | .listAccounts => true
  | .getAccount _ => true
  | .getBalance _ => true
  | .listTransactions .. => true
  | _ => false

/-- The kinds of information that fetched data shows, each with its account. -/
def Information.disclosed : Information → List (InformationType × String)
  | .account row => [(.account, row.accountToken)]
  | .balance row _ => [(.balance, row.accountToken)]
  | .transactions rows => rows.map fun row ↦ (.transactions, row.accountToken)

/-- The kinds of information that an answer shows, each with its account. -/
def BankAnswer.disclosed : BankAnswer → List (InformationType × String)
  | .information _ _ _ data _ => data.disclosed
  | .accounts rows _ => rows.map fun row ↦ (.account, row.accountToken)
  | .account row _ _ => [(.account, row.accountToken), (.balance, row.accountToken)]
  | .balance row _ _ => [(.balance, row.accountToken)]
  | .transactions _ _ _ rows _ => rows.map fun row ↦ (.transactions, row.accountToken)
  | _ => []

/-- A consent covers a kind of information about an account at a moment of a call. -/
structure AAConsent.Covers (consent : AAConsent) (call : BankCall) (kind : InformationType)
    (token : String) : Prop where
  tenant : consent.tenantId = call.scope.tenantId
  user : consent.userId = call.scope.userId
  active : consent.status = .active
  live : ∃ k, call.clock.now k < consent.validUntil
  account : token ∈ consent.accountTokens
  kind : kind ∈ consent.informationTypes

/-- Some consent on file covers a kind of information about an account. -/
def Covered (db : BankDb) (call : BankCall) (kind : InformationType) (token : String) : Prop :=
  ∃ consent ∈ db.consents, consent.Covers call kind token

/-- The consents on file reach as far as the two reads that do not ask for everything they show. -/
def ConsentsSuffice (db : BankDb) (call : BankCall) : Prop :=
  match call.op with
  | .listAccounts => ∀ row ∈ db.accounts, row.tenantId = call.scope.tenantId →
      row.userId = call.scope.userId → row.status = "ACTIVE" → Covered db call .account row.accountToken
  | .getAccount token => Covered db call .balance token
  | _ => True

/-! ## The five reads -/

section Reads

variable {platform : BankPlatform} {db : BankDb} {call : BankCall} {answer : BankAnswer}
  {writes : Option Writes}

theorem covered_of_requireAnyConsent {kind : InformationType} {token : String} {consent : AAConsent}
    (h : requireAnyConsent db call.scope kind call.clock.now (some token) = .ok consent) :
    Covered db call kind token := by
  unfold requireAnyConsent at h
  simp only at h
  split at h
  next item hfind =>
    have hitem := List.find?_some hfind
    have hmem := List.mem_of_find?_eq_some hfind
    have hrow := List.mem_filter.mp (List.fst_mem_of_mem_zipIdx hmem)
    simp only [Bool.and_eq_true, beq_iff_eq, decide_eq_true_eq, Option.all_some,
      List.contains_iff_mem] at hitem hrow
    exact ⟨item.1, hrow.1, hrow.2.1.1, hrow.2.1.2, hrow.2.2, ⟨item.2, hitem.1.1⟩, hitem.2, hitem.1.2⟩
  · cases h

/-- A selection of transactions shows one account. -/
theorem account_of_transactionsBetween {token : String} {fromDate toDate : Day} {limit : Nat}
    {row : Transaction} (h : row ∈ transactionsBetween db token fromDate toDate limit) :
    row.accountToken = token := by
  have hselected := (List.perm_insertionSort _ _).mem_iff.mp (List.mem_of_mem_take h)
  have hrow := (List.mem_filter.mp hselected).2
  simp only [Bool.and_eq_true, beq_iff_eq] at hrow
  exact hrow.1

theorem disclosed_informationPayload {kind : InformationType} {row : Account}
    {fromDate toDate : Option Day} {data : Information}
    (h : informationPayload db call kind row fromDate toDate = .ok data) :
    ∀ item ∈ data.disclosed, item = (kind, row.accountToken) := by
  cases kind with
  | account =>
    obtain rfl := Except.ok.inj h
    simp [Information.disclosed]
  | balance =>
    obtain rfl := Except.ok.inj h
    simp [Information.disclosed]
  | transactions =>
    obtain ⟨-, h⟩ := ensure_bind_ok.mp h
    obtain rfl := Except.ok.inj h
    intro item hitem
    obtain ⟨transaction, htransaction, rfl⟩ := List.mem_map.mp hitem
    rw [account_of_transactionsBetween htransaction]

theorem covered_fetchInformation {consentId kindText token key : String} {fromDate toDate : Option Day}
    (h : fetchInformation platform db call consentId kindText token key fromDate toDate =
      .ok (answer, writes)) : ∀ item ∈ answer.disclosed, Covered db call item.1 item.2 := by
  unfold fetchInformation at h
  split at h
  · cases h
  next kind _ =>
    obtain ⟨consent, hconsent, h⟩ := bind_ok.mp h
    simp only [ensure_bind_ok, Bool.and_eq_true, List.contains_iff_mem] at h
    obtain ⟨⟨htoken, hkind⟩, -, -, h⟩ := h
    obtain ⟨account, haccount, h⟩ := bind_ok.mp h
    obtain ⟨data, hdata, h⟩ := bind_ok.mp h
    obtain ⟨rfl, -⟩ := Prod.mk.inj (Except.ok.inj h)
    obtain ⟨hstored, -, htenant, huser, hactive⟩ := lookupConsent_ok hconsent
    intro item hitem
    rw [disclosed_informationPayload hdata item hitem, (lookupAccount_ok haccount).token]
    exact ⟨consent, hstored, htenant, huser, (hactive rfl).1, ⟨0, (hactive rfl).2⟩, htoken, hkind⟩

/-- Every account of the user is shown. -/
theorem covered_listAccounts_iff (h : listAccounts platform db call = .ok (answer, writes)) :
    (∀ item ∈ answer.disclosed, Covered db call item.1 item.2) ↔
      ∀ row ∈ db.accounts, row.tenantId = call.scope.tenantId → row.userId = call.scope.userId →
        row.status = "ACTIVE" → Covered db call .account row.accountToken := by
  obtain ⟨consent, -, h⟩ := bind_ok.mp h
  obtain ⟨rfl, -⟩ := Prod.mk.inj (Except.ok.inj h)
  simp only [BankAnswer.disclosed, List.forall_mem_map, List.mem_filter, Bool.and_eq_true, beq_iff_eq]
  constructor
  · intro hcovered row hrow htenant huser hactive
    exact hcovered row ⟨hrow, ⟨htenant, huser⟩, hactive⟩
  · rintro hcovered row ⟨hrow, ⟨htenant, huser⟩, hactive⟩
    exact hcovered row hrow htenant huser hactive

/-- The details of the account are covered, its balance may not be. -/
theorem covered_getAccount_iff {token : String}
    (h : getAccount platform db call token = .ok (answer, writes)) :
    (∀ item ∈ answer.disclosed, Covered db call item.1 item.2) ↔ Covered db call .balance token := by
  obtain ⟨consent, hconsent, h⟩ := bind_ok.mp h
  obtain ⟨row, hrow, h⟩ := bind_ok.mp h
  obtain ⟨rfl, -⟩ := Prod.mk.inj (Except.ok.inj h)
  have hdetails := covered_of_requireAnyConsent hconsent
  simp only [BankAnswer.disclosed, List.forall_mem_cons, (lookupAccount_ok hrow).token]
  constructor
  · rintro ⟨-, hbalance, -⟩
    exact hbalance
  · intro hbalance
    exact ⟨hdetails, hbalance, by simp⟩

theorem covered_getBalance {token : String}
    (h : getBalance platform db call token = .ok (answer, writes)) :
    ∀ item ∈ answer.disclosed, Covered db call item.1 item.2 := by
  obtain ⟨consent, hconsent, h⟩ := bind_ok.mp h
  obtain ⟨row, hrow, h⟩ := bind_ok.mp h
  obtain ⟨rfl, -⟩ := Prod.mk.inj (Except.ok.inj h)
  intro item hitem
  rw [List.mem_singleton.mp hitem, (lookupAccount_ok hrow).token]
  exact covered_of_requireAnyConsent hconsent

theorem covered_listTransactions {token : String} {fromDate toDate : Day} {limit : Int}
    (h : listTransactions platform db call token fromDate toDate limit = .ok (answer, writes)) :
    ∀ item ∈ answer.disclosed, Covered db call item.1 item.2 := by
  obtain ⟨-, h⟩ := ensure_bind_ok.mp h
  obtain ⟨consent, hconsent, h⟩ := bind_ok.mp h
  obtain ⟨_, -, h⟩ := bind_ok.mp h
  obtain ⟨rfl, -⟩ := Prod.mk.inj (Except.ok.inj h)
  intro item hitem
  obtain ⟨transaction, htransaction, rfl⟩ := List.mem_map.mp hitem
  rw [account_of_transactionsBetween htransaction]
  exact covered_of_requireAnyConsent hconsent

/-- What a read shows is covered just when the consents on file reach far enough. -/
theorem covered_serve_iff (hreads : call.op.reads = true)
    (h : serve platform db call = .ok (answer, writes)) :
    (∀ item ∈ answer.disclosed, Covered db call item.1 item.2) ↔ ConsentsSuffice db call := by
  unfold serve at h
  unfold ConsentsSuffice
  cases hop : call.op with
  | fetchInformation =>
    simp only [hop] at h
    exact iff_true_intro (covered_fetchInformation h)
  | listAccounts =>
    simp only [hop] at h
    exact covered_listAccounts_iff h
  | getAccount =>
    simp only [hop] at h
    exact covered_getAccount_iff h
  | getBalance =>
    simp only [hop] at h
    exact iff_true_intro (covered_getBalance h)
  | listTransactions =>
    simp only [hop] at h
    exact iff_true_intro (covered_listTransactions h)
  | _ => cases hop ▸ hreads

end Reads

/-! ## Revoked consents -/

/-- The consent is on file, and it is revoked. -/
def Revoked (db : BankDb) (consentId : String) : Prop :=
  ∃ consent ∈ db.consents, consent.consentId = consentId ∧ consent.status = .revoked

section Revocation

variable {platform : BankPlatform} {db : BankDb} {call : BankCall} {answer : BankAnswer}
  {writes : Writes} {consentId : String}

/-- Storing a revoked consent. -/
theorem Revoked.replace (h : Revoked db consentId) (value : AAConsent) (now : Time) :
    ∃ consent ∈ RowWrite.applyAll consentConstraints db.consents [.update (value.revoke now)],
      consent.consentId = consentId ∧ consent.status = .revoked := by
  obtain ⟨consent, hconsent, hid, hrevoked⟩ := h
  by_cases hkey : consent.consentId = (value.revoke now).consentId
  · exact ⟨value.revoke now, Table.changed_mem_replace hconsent hkey, hkey.symm.trans hid, rfl⟩
  · exact ⟨consent, Table.mem_replace_of_ne hconsent hkey, hid, hrevoked⟩

/-- No commit takes a revocation back. -/
theorem Revoked.apply (h : Revoked db consentId) (hmove : Move platform db call answer writes) :
    Revoked (writes.apply db) consentId := by
  cases hmove with
  | quiet answer writes hquiet =>
    obtain ⟨_, _, _, heq⟩ := hquiet.apply db
    rw [heq]
    exact h
  | consentCreated value events audits hactive =>
    obtain ⟨consent, hconsent, hrevoked⟩ := h
    exact ⟨consent, List.mem_append_left _ hconsent, hrevoked⟩
  | consentRevoked value now events audits hstored => exact h.replace value now
  | _ => exact h

theorem Revoked.step (h : Revoked db consentId) :
    Revoked ((bank platform).step db call).2 consentId := by
  rcases step_cases platform db call with hkeep | ⟨answer, writes, hmove, -, hstep⟩
  · rw [hkeep]
    exact h
  · rw [hstep]
    exact h.apply hmove

/-- An answered revocation has revoked the consent, whatever its status was. -/
theorem revoked_of_revokeConsent (hop : call.op = .revokeConsent consentId)
    (hok : ((bank platform).step db call).1 = .ok answer) :
    Revoked ((bank platform).step db call).2 consentId := by
  obtain ⟨writes, hserve, hstep⟩ := served_of_ok hok
  rw [hstep]
  simp only [serve, hop] at hserve
  obtain ⟨value, hvalue, hserve⟩ := bind_ok.mp hserve
  obtain ⟨hstored, hid, -⟩ := lookupConsent_ok hvalue
  split at hserve
  · obtain ⟨-, rfl⟩ := Prod.mk.inj (Except.ok.inj hserve)
    exact ⟨_, Table.changed_mem_replace hstored rfl, hid, rfl⟩
  next hinactive =>
    obtain ⟨-, rfl⟩ := Prod.mk.inj (Except.ok.inj hserve)
    refine ⟨value, hstored, hid, ?_⟩
    cases hvalue : value.status with
    | active => exact absurd hvalue hinactive
    | revoked => rfl

/-- Every consent that was revoked in a run is revoked at its end. -/
theorem revoked_run (platform : BankPlatform) (db : BankDb) (calls : List BankCall) :
    ∀ e ∈ (bank platform).log db calls, ∀ consentId answer,
      e.input.op = .revokeConsent consentId → e.output = .ok answer →
      Revoked ((bank platform).run db calls) consentId := by
  refine (bank platform).history_invariant_all (fun history after ↦ ∀ e ∈ history, ∀ consentId answer,
    e.input.op = .revokeConsent consentId → e.output = .ok answer → Revoked after consentId)
    (by simp) ?_ calls
  intro history before call hrevoked e he consentId answer hop hok
  rcases List.mem_append.mp he with hold | hnew
  · exact (hrevoked e hold consentId answer hop hok).step
  · obtain rfl := List.mem_singleton.mp hnew
    exact revoked_of_revokeConsent hop hok

/-- The keys of the consents tell a revoked consent from all others. -/
theorem not_covers_of_revoked (hkeys : consentConstraints.Meets db.consents)
    (h : Revoked db consentId) {consent : AAConsent} (hconsent : consent ∈ db.consents)
    (hid : consent.consentId = consentId) (kind : InformationType) (token : String) :
    ¬ consent.Covers call kind token := by
  obtain ⟨revoked, hmem, hsame, hstatus⟩ := h
  intro hcovers
  rw [Table.eq_of_key hkeys.keys hconsent hmem (hid.trans hsame.symm)] at hcovers
  cases hcovers.active.symm.trans hstatus

end Revocation

/-- After every run, what an answered read shows is covered by a consent of the tenant and the user that
is active, unexpired and names the account and the kind, if and only if the consents on file suffice for
that read. A consent that was revoked in the run is none of them. -/
theorem disclosures_covered_iff (platform : BankPlatform) (opening : Opening) (calls : List BankCall)
    (call : BankCall) (answer : BankAnswer) (hreads : call.op.reads = true)
    (hok : ((bank platform).step ((bank platform).run opening.db calls) call).1 = .ok answer) :
    let db := (bank platform).run opening.db calls
    ((∀ item ∈ answer.disclosed, Covered db call item.1 item.2) ↔ ConsentsSuffice db call) ∧
      ∀ e ∈ (bank platform).log opening.db calls, ∀ consentId result,
        e.input.op = .revokeConsent consentId → e.output = .ok result →
        ∀ consent ∈ db.consents, consent.consentId = consentId →
          ∀ kind token, ¬ consent.Covers call kind token := by
  obtain ⟨writes, hserve, -⟩ := served_of_ok hok
  refine ⟨covered_serve_iff hreads hserve, ?_⟩
  intro e he consentId result hop houtput consent hconsent hid kind token
  exact not_covers_of_revoked (regular_run platform opening calls).keyed.consents
    (revoked_run platform opening.db calls e he consentId result hop houtput) hconsent hid kind token

/-- The consent of the small bank covers the account details that it is fetched with. -/
theorem disclosures_covered_iff_fetchedAccount :
    let call := sampleCall "1" "bank.aa.fetch_information"
      (.fetchInformation "aac-1" "ACCOUNT" "acct-1" "fetch-1" none none)
    ∃ answer, ((bank sampleBank).step (sampleOpening 15000).db call).1 = .ok answer ∧
      (.account, "acct-1") ∈ answer.disclosed ∧ Covered (sampleOpening 15000).db call .account "acct-1" := by
  intro call
  have hread : (((bank sampleBank).step (sampleOpening 15000).db call).1.toOption.any fun answer ↦
    answer.disclosed.contains (.account, "acct-1")) = true := by decide +kernel
  cases hok : ((bank sampleBank).step (sampleOpening 15000).db call).1 with
  | error failure =>
    rw [hok] at hread
    cases hread
  | ok answer =>
    rw [hok] at hread
    have hitem : (.account, "acct-1") ∈ answer.disclosed := List.contains_iff_mem.mp hread
    have hlaw := disclosures_covered_iff sampleBank (sampleOpening 15000) [] call answer rfl hok
    exact ⟨answer, rfl, hitem, hlaw.1.mpr trivial _ hitem⟩

/-- Without a consent for the second account of the small bank, the list of accounts shows it. -/
theorem listAccounts_shows_uncovered :
    let call := sampleCall "1" "bank.accounts.list" .listAccounts
    ∃ answer, ((bank sampleBank).step (sampleOpening 15000).db call).1 = .ok answer ∧
      (.account, "acct-2") ∈ answer.disclosed ∧
        ¬ Covered (sampleOpening 15000).db call .account "acct-2" := by
  intro call
  have huncovered : ¬ Covered (sampleOpening 15000).db call .account "acct-2" := by
    rintro ⟨consent, hconsent, hcovers⟩
    have hall : ∀ consent ∈ (sampleOpening 15000).consents, "acct-2" ∉ consent.accountTokens := by
      decide
    exact hall consent hconsent hcovers.account
  have hlisted : (((bank sampleBank).step (sampleOpening 15000).db call).1.toOption.any fun answer ↦
    answer.disclosed.contains (.account, "acct-2")) = true := by decide +kernel
  cases hok : ((bank sampleBank).step (sampleOpening 15000).db call).1 with
  | error failure =>
    rw [hok] at hlisted
    cases hlisted
  | ok answer =>
    rw [hok] at hlisted
    exact ⟨answer, rfl, List.contains_iff_mem.mp hlisted, huncovered⟩

end Xyena.Bank
