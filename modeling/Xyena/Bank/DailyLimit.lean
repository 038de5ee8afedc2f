import Xyena.Bank.Transfers

/-!
# The daily limit of an account

The capacity check counts the transfers that are ready and not expired. A
settled transfer leaves this sum, and nothing else counts it, so that the limit
bounds what is pending at one moment and not what is settled on one day. The
limit holds for the day when every preparation also finds room for what was
settled on that day, and the clocks do not run backwards.
-/

namespace Xyena.Bank

open Xyena.Foundation Xyena.Contracts

/-- The amounts debited from an account on one day. -/
def debitedOn (day : Day) (token : String) (rows : List Transaction) : Int :=
  Table.sum (fun row ↦ if row.accountToken = token ∧ row.direction = .debit ∧ row.bookedOn = day
    then row.amount else 0) rows

/-- The transactions posted since the opening. -/
def posted (opening : Opening) (db : BankDb) : List Transaction :=
  db.transactions.drop opening.transactions.length

/-- A prepared transfer fits into the daily limit together with the ready transfers of its account and with
what was settled from it on the same day. -/
def CountsSettled (platform : BankPlatform) (opening : Opening) (db : BankDb) (call : BankCall) : Prop :=
  ∀ source beneficiary amountText currency rail key amount account payee,
    Prepares platform db call source beneficiary amountText currency rail key amount account payee →
      pendingAmount db account (call.clock.now 0) none +
        debitedOn (call.clock.today 0) account.accountToken (posted opening db) + amount ≤
          account.dailyLimit

/-- Whether the clocks of a call read no earlier than those of an earlier call. -/
structure Follows (earlier later : BankCall) : Prop where
  now : ∀ k, earlier.clock.now k ≤ later.clock.now 0
  today : ∀ k, earlier.clock.today k ≤ later.clock.today 0

/-- Clocks that never run backwards from call to call. -/
def Steady (calls : List BankCall) : Prop := calls.Pairwise Follows

/-! ## Ready transfers -/

/-- The amounts of the ready transfers from an account that are not expired. -/
def readyAmount (tenantId token : String) (now : Time) (rows : List PreparedTransfer) : Int :=
  Table.sum (fun row ↦ if row.tenantId = tenantId ∧ row.sourceAccountToken = token ∧
    row.status = .readyForGuardian ∧ now < row.expiresAt then row.amount else 0) rows

theorem pendingAmount_eq (db : BankDb) (account : Account) (now : Time) :
    pendingAmount db account now none =
      readyAmount account.tenantId account.accountToken now db.preparedTransfers := by
  rw [pendingAmount, Table.sum_filter, readyAmount]
  refine Table.sum_congr fun row _ ↦ ?_
  simp [and_assoc]

/-- Time only takes ready transfers away. -/
theorem readyAmount_antitone {rows : List PreparedTransfer} (hpositive : ∀ row ∈ rows, 0 < row.amount)
    (tenantId token : String) {now later : Time} (hlater : now ≤ later) :
    readyAmount tenantId token later rows ≤ readyAmount tenantId token now rows := by
  refine Table.sum_le_sum fun row hrow ↦ ?_
  have hamount := hpositive row hrow
  by_cases hlive : later < row.expiresAt
  · simp [hlive, lt_of_le_of_lt hlater hlive]
  · simp only [hlive, and_false, if_false]
    split <;> omega

theorem readyAmount_nonneg {rows : List PreparedTransfer} (hpositive : ∀ row ∈ rows, 0 < row.amount)
    (tenantId token : String) (now : Time) : 0 ≤ readyAmount tenantId token now rows := by
  rw [← Table.sum_zero rows]
  refine Table.sum_le_sum fun row hrow ↦ ?_
  have hamount := hpositive row hrow
  split <;> omega

theorem readyAmount_insert (tenantId token : String) (now : Time) (rows : List PreparedTransfer)
    (value : PreparedTransfer) (hpositive : 0 < value.amount) :
    readyAmount tenantId token now (rows ++ [value]) ≤ readyAmount tenantId token now rows +
      if value.tenantId = tenantId ∧ value.sourceAccountToken = token then value.amount else 0 := by
  simp only [readyAmount, Table.sum_append, Table.sum_cons, Table.sum_nil, Int.add_zero]
  by_cases hown : value.tenantId = tenantId ∧ value.sourceAccountToken = token
  · simp only [hown, true_and, and_self, if_true]
    split <;> omega
  · rw [if_neg fun h ↦ hown ⟨h.1, h.2.1⟩, if_neg hown]

/-- A ready transfer that is settled or expires leaves the sum. -/
theorem readyAmount_close {rows : List PreparedTransfer} {value : PreparedTransfer}
    (changed : PreparedTransfer) (hkeys : preparedTransferConstraints.Meets rows) (hstored : value ∈ rows)
    (hready : value.status = .readyForGuardian) (hkey : changed.proposedActionId = value.proposedActionId)
    (hclosed : changed.status ≠ .readyForGuardian) (tenantId token : String) (now : Time) :
    readyAmount tenantId token now
        (RowWrite.applyAll preparedTransferConstraints rows [.update changed]) =
      readyAmount tenantId token now rows -
        if value.tenantId = tenantId ∧ value.sourceAccountToken = token ∧ now < value.expiresAt
        then value.amount else 0 := by
  simp only [readyAmount, RowWrite.applyAll_cons, RowWrite.applyAll_nil, RowWrite.apply]
  rw [Table.sum_replace _ hkeys.keys hstored hkey]
  simp [hready, hclosed]

/-! ## What is reserved and spent along a run -/

/-- An instant and a day that no earlier call has passed. -/
def After (history : List BankEntry) (now : Time) (day : Day) : Prop :=
  ∀ e ∈ history, ∀ k, e.input.clock.now k ≤ now ∧ e.input.clock.today k ≤ day

/-- At every moment from now on, the ready transfers of an account and what was settled on that day fit into
its daily limit, and so does what was settled on any other day. -/
structure WithinLimit (opening : Opening) (history : List BankEntry) (db : BankDb)
    (rows : List Transaction) : Prop where
  transactions : db.transactions = opening.transactions ++ rows
  accounts : db.accounts.map Account.terms = opening.accounts.map Account.terms
  days : ∀ now day, After history now day → ∀ row ∈ rows, row.bookedOn ≤ day
  reserved : ∀ account ∈ opening.accounts, ∀ now day, After history now day →
    readyAmount account.tenantId account.accountToken now db.preparedTransfers +
      debitedOn day account.accountToken rows ≤ account.dailyLimit
  spent : ∀ account ∈ opening.accounts, ∀ day,
    debitedOn day account.accountToken rows ≤ account.dailyLimit

section Commit

variable {platform : BankPlatform} {opening : Opening} {history : List BankEntry} {db : BankDb}
  {rows : List Transaction} {e : BankEntry} {call : BankCall} {answer : BankAnswer} {writes : Writes}

theorem After.before {now : Time} {day : Day} (h : After (history ++ [e]) now day) :
    After history now day :=
  fun earlier hearlier ↦ h earlier (List.mem_append_left _ hearlier)

/-- A later moment passes the readings of the last call. -/
theorem After.last {now : Time} {day : Day} (h : After (history ++ [e]) now day) (k : Nat) :
    e.input.clock.now k ≤ now ∧ e.input.clock.today k ≤ day :=
  h e (List.mem_append_right _ List.mem_cons_self) k

/-- The account of a call has the terms of the account that the bank has opened with. -/
theorem WithinLimit.terms_eq (h : WithinLimit opening history db rows) {initial account : Account}
    (hinitial : initial ∈ opening.accounts) (haccount : account ∈ db.accounts)
    (htoken : initial.accountToken = account.accountToken) : initial.terms = account.terms := by
  have hmem : account.terms ∈ opening.accounts.map Account.terms :=
    h.accounts ▸ List.mem_map_of_mem haccount
  obtain ⟨other, hother, hterms⟩ := List.mem_map.mp hmem
  have hsame : other.accountToken = initial.accountToken :=
    (congrArg Account.accountToken hterms).trans htoken.symm
  rw [← hterms, Table.eq_of_key opening.accountTokens hother hinitial hsame]

theorem debitedOn_append (day : Day) (token : String) (first second : List Transaction) :
    debitedOn day token (first ++ second) = debitedOn day token first + debitedOn day token second :=
  Table.sum_append _ _ _

/-- Nothing was settled on a day that no call has read. -/
theorem debitedOn_future {day : Day} (token : String) (hrows : ∀ row ∈ rows, row.bookedOn < day) :
    debitedOn day token rows = 0 := by
  refine (Table.sum_congr fun row hrow ↦ ?_).trans (Table.sum_zero _)
  rw [if_neg]
  rintro ⟨-, -, hday⟩
  exact absurd hday (ne_of_lt (hrows row hrow))

/-- A step that settles nothing and adds no ready transfer. -/
theorem WithinLimit.keep (h : WithinLimit opening history db rows) {after : BankDb}
    (htransactions : after.transactions = db.transactions)
    (haccounts : after.accounts.map Account.terms = db.accounts.map Account.terms)
    (hready : ∀ tenantId token now, readyAmount tenantId token now after.preparedTransfers ≤
      readyAmount tenantId token now db.preparedTransfers) :
    WithinLimit opening (history ++ [e]) after rows where
  transactions := htransactions.trans h.transactions
  accounts := haccounts.trans h.accounts
  days now day hafter := h.days now day hafter.before
  reserved account haccount now day hafter := by
    have hreserved := h.reserved account haccount now day hafter.before
    have hsum := hready account.tenantId account.accountToken now
    omega
  spent := h.spent

/-- A reversal is no debit. -/
theorem WithinLimit.credit (h : WithinLimit opening history db rows) {after : BankDb}
    {row : Transaction} (htransactions : after.transactions = db.transactions ++ [row])
    (haccounts : after.accounts.map Account.terms = db.accounts.map Account.terms)
    (hprepared : after.preparedTransfers = db.preparedTransfers) (hcredit : row.direction = .credit)
    (hday : row.bookedOn = e.input.clock.today 0) :
    WithinLimit opening (history ++ [e]) after (rows ++ [row]) := by
  have hdebited (day : Day) (token : String) : debitedOn day token (rows ++ [row]) =
      debitedOn day token rows := by
    simp [debitedOn, hcredit]
  refine ⟨?_, haccounts.trans h.accounts, ?_, ?_, ?_⟩
  · rw [htransactions, h.transactions, List.append_assoc]
  · intro now day hafter other hother
    rcases List.mem_append.mp hother with hold | hnew
    · exact h.days now day hafter.before other hold
    · rw [List.mem_singleton.mp hnew, hday]
      exact (hafter.last 0).2
  · intro account haccount now day hafter
    rw [hdebited, hprepared]
    exact h.reserved account haccount now day hafter.before
  · intro account haccount day
    rw [hdebited]
    exact h.spent account haccount day

/-- A prepared transfer that meets the condition finds room on its own day, and the check of the code
leaves room on every later one. -/
theorem WithinLimit.prepare (h : WithinLimit opening history db rows) (hregular : Regular db)
    (hcounts : CountsSettled platform opening db call) (hinput : e.input = call)
    (hclock : After history (call.clock.now 0) (call.clock.today 0))
    {source beneficiary amountText currency rail key : String} {amount : Int} {account : Account}
    {payee : Beneficiary}
    (hp : Prepares platform db call source beneficiary amountText currency rail key amount account payee)
    {after : BankDb} (htransactions : after.transactions = db.transactions)
    (haccounts : after.accounts = db.accounts)
    (hprepared : after.preparedTransfers = db.preparedTransfers ++
      [newTransfer platform call source beneficiary amount currency rail key]) :
    WithinLimit opening (history ++ [e]) after rows := by
  have hamount := positiveAmount_pos hp.parsed
  refine ⟨htransactions.trans h.transactions, by rw [haccounts]; exact h.accounts,
    fun now day hafter ↦ h.days now day hafter.before, ?_, h.spent⟩
  intro initial hinitial now day hafter
  have hreserved := h.reserved initial hinitial now day hafter.before
  have hinsert := readyAmount_insert initial.tenantId initial.accountToken now db.preparedTransfers
    (newTransfer platform call source beneficiary amount currency rail key) hamount
  have hlast := hafter.last 0
  rw [hinput] at hlast
  rw [hprepared]
  by_cases hown : call.scope.tenantId = initial.tenantId ∧ source = initial.accountToken
  · have hterms := h.terms_eq hinitial hp.owned.stored (hown.2.symm.trans hp.owned.token.symm)
    have hlimit : initial.terms.dailyLimit = account.terms.dailyLimit := by rw [hterms]
    change initial.dailyLimit = account.dailyLimit at hlimit
    have htoken : account.accountToken = initial.accountToken := hp.owned.token.trans hown.2
    have htenant : account.tenantId = initial.tenantId := hp.owned.tenant.trans hown.1
    have hcounted := hcounts source beneficiary amountText currency rail key amount account payee hp
    obtain ⟨-, -, hdaily⟩ := checkPaymentCapacity_ok hp.capacity
    have hlive := readyAmount_antitone hregular.transfers initial.tenantId initial.accountToken hlast.1
    have hposted : posted opening db = rows := by rw [posted, h.transactions, List.drop_left]
    rw [pendingAmount_eq, htoken, htenant, hposted] at hcounted
    rw [Option.filter_none, pendingAmount_eq, htoken, htenant] at hdaily
    have hnew : readyAmount initial.tenantId initial.accountToken now (db.preparedTransfers ++
        [newTransfer platform call source beneficiary amount currency rail key]) ≤
        readyAmount initial.tenantId initial.accountToken now db.preparedTransfers + amount := by
      simpa [newTransfer, hown] using hinsert
    rcases eq_or_lt_of_le hlast.2 with heq | hlt
    · rw [← heq]
      omega
    · have hfuture : debitedOn day initial.accountToken rows = 0 :=
        debitedOn_future _ fun row hrow ↦ lt_of_le_of_lt (h.days _ _ hclock row hrow) hlt
      omega
  · have hnew : readyAmount initial.tenantId initial.accountToken now (db.preparedTransfers ++
        [newTransfer platform call source beneficiary amount currency rail key]) ≤
        readyAmount initial.tenantId initial.accountToken now db.preparedTransfers := by
      simpa [newTransfer, hown] using hinsert
    omega

/-- A settlement moves its amount from what is reserved to what is spent. -/
theorem WithinLimit.settle (h : WithinLimit opening history db rows) (hregular : Regular db)
    (hinput : e.input = call) (hclock : After history (call.clock.now 0) (call.clock.today 0))
    {executionId : String} {prepared : PreparedTransfer} {account : Account} {payee : Beneficiary}
    (hs : Settles db call executionId prepared account payee) :
    WithinLimit opening (history ++ [e])
      ((settlementWrites platform call account prepared executionId).apply db)
      (rows ++ [newDebit call account prepared executionId]) := by
  let after := (settlementWrites platform call account prepared executionId).apply db
  have hclosed (tenantId token : String) (now : Time) : readyAmount tenantId token now
      after.preparedTransfers = readyAmount tenantId token now db.preparedTransfers -
        if prepared.tenantId = tenantId ∧ prepared.sourceAccountToken = token ∧ now < prepared.expiresAt
        then prepared.amount else 0 :=
    readyAmount_close { prepared with status := .settled } hregular.keyed.preparedTransfers hs.stored
      hs.ready rfl nofun tenantId token now
  have hpositive : ∀ row ∈ after.preparedTransfers, 0 < row.amount := by
    intro row hrow
    rcases Table.mem_replace hrow with rfl | ⟨hold, -⟩
    · exact hregular.transfers prepared hs.stored
    · exact hregular.transfers row hold
  have hdebited (day : Day) (token : String) :
      debitedOn day token (rows ++ [newDebit call account prepared executionId]) =
        debitedOn day token rows +
          if prepared.sourceAccountToken = token ∧ call.clock.today 0 = day then prepared.amount else 0 := by
    rw [debitedOn_append]
    simp [debitedOn, newDebit, hs.owned.token]
  have hown {initial : Account} (hinitial : initial ∈ opening.accounts)
      (hsource : prepared.sourceAccountToken = initial.accountToken) :
      prepared.tenantId = initial.tenantId := by
    have hterms := h.terms_eq hinitial hs.owned.stored (hsource.symm.trans hs.owned.token.symm)
    have htenant : initial.terms.tenantId = account.terms.tenantId := by rw [hterms]
    exact hs.tenant.trans (hs.owned.tenant.symm.trans htenant.symm)
  refine ⟨?_, (map_terms_apply _ db).trans h.accounts, ?_, ?_, ?_⟩
  · rw [← List.append_assoc, ← h.transactions]
    rfl
  · intro now day hafter other hother
    rcases List.mem_append.mp hother with hold | hnew
    · exact h.days now day hafter.before other hold
    · rw [List.mem_singleton.mp hnew]
      exact hinput ▸ (hafter.last 0).2
  · intro initial hinitial now day hafter
    have hreserved := h.reserved initial hinitial (call.clock.now 0) day fun earlier hearlier k ↦
      ⟨(hclock earlier hearlier k).1, (hafter.before earlier hearlier k).2⟩
    have hlive := readyAmount_antitone hpositive initial.tenantId initial.accountToken
      (hinput ▸ (hafter.last 0).1)
    change readyAmount _ _ now after.preparedTransfers + _ ≤ _
    rw [hclosed _ _ (call.clock.now 0)] at hlive
    rw [hdebited]
    by_cases hsource : prepared.sourceAccountToken = initial.accountToken
    · simp only [hsource, hown hinitial hsource, hs.live, and_self, if_true, true_and] at hlive ⊢
      have hamount := hregular.transfers prepared hs.stored
      split <;> omega
    · simp only [hsource, false_and, and_false, if_false] at hlive ⊢
      omega
  · intro initial hinitial day
    rw [hdebited]
    split
    next hday =>
      have hreserved := h.reserved initial hinitial (call.clock.now 0) day (hday.2 ▸ hclock)
      have hleft := readyAmount_nonneg hpositive initial.tenantId initial.accountToken (call.clock.now 0)
      rw [hclosed, if_pos ⟨hown hinitial hday.1, hday.1, hs.live⟩] at hleft
      omega
    · have hspent := h.spent initial hinitial day
      omega

theorem WithinLimit.apply (h : WithinLimit opening history db rows) (hregular : Regular db)
    (hcounts : CountsSettled platform opening db call) (hinput : e.input = call)
    (hclock : After history (call.clock.now 0) (call.clock.today 0))
    (hmove : Move platform db call answer writes) :
    ∃ added, WithinLimit opening (history ++ [e]) (writes.apply db) (rows ++ added) := by
  cases hmove with
  | quiet answer writes hquiet =>
    obtain ⟨_, _, _, heq⟩ := hquiet.apply db
    refine ⟨[], ?_⟩
    rw [heq, List.append_nil]
    exact h.keep rfl rfl fun _ _ _ ↦ le_rfl
  | transferPrepared source beneficiary amountText currency rail key amount account payee audits hp =>
    refine ⟨[], ?_⟩
    rw [List.append_nil]
    exact h.prepare hregular hcounts hinput hclock hp rfl rfl rfl
  | transferSettled executionId prepared account payee hs =>
    exact ⟨_, h.settle hregular hinput hclock hs⟩
  | transferExpired value hstored hready =>
    refine ⟨[], ?_⟩
    rw [List.append_nil]
    refine h.keep rfl rfl fun tenantId token now ↦ ?_
    have hclosed := readyAmount_close { value with status := .expired }
      hregular.keyed.preparedTransfers hstored hready rfl nofun tenantId token now
    have hamount := hregular.transfers value hstored
    refine hclosed.trans_le ?_
    split <;> omega
  | reversalSettled approval value execution prepared account hr =>
    refine ⟨[newCredit call account value], h.credit rfl (map_terms_apply _ db) rfl rfl ?_⟩
    rw [hinput]
    rfl
  | _ =>
    refine ⟨[], ?_⟩
    rw [List.append_nil]
    exact h.keep rfl (map_terms_apply _ db) fun _ _ _ ↦ le_rfl

end Commit

/-- The readings of the last call are not before those of the calls before it. -/
theorem Steady.last {calls : List BankCall} {call : BankCall} (h : Steady (calls ++ [call])) :
    Steady calls ∧ ∀ earlier ∈ calls, Follows earlier call := by
  have hpairs := List.pairwise_append.mp h
  exact ⟨hpairs.1, fun earlier hearlier ↦ hpairs.2.2 earlier hearlier call List.mem_cons_self⟩

/-- In a run whose clocks never run backwards and in which every prepared transfer finds room for what was
settled on its day, no account is debited by more than its daily limit on any day. -/
theorem daily_limit_kept (platform : BankPlatform) (opening : Opening) (calls : List BankCall)
    (hlimits : ∀ account ∈ opening.accounts, 0 ≤ account.dailyLimit) (hsteady : Steady calls)
    (hcounts : ∀ e ∈ (bank platform).log opening.db calls,
      CountsSettled platform opening e.before e.input) :
    ∀ account ∈ ((bank platform).run opening.db calls).accounts, ∀ day,
      debitedOn day account.accountToken (posted opening ((bank platform).run opening.db calls)) ≤
        account.dailyLimit := by
  have hrun := (commit_history
    (fun history db ↦ Steady (history.map Entry.input) → ∃ rows, WithinLimit opening history db rows)
    (CountsSettled platform opening) opening.regular ?_ ?_ ?_ calls hcounts).2
  · rw [Machine.map_input_log] at hrun
    obtain ⟨rows, hwithin⟩ := hrun hsteady
    intro account haccount day
    have hmem : account.terms ∈ opening.accounts.map Account.terms :=
      hwithin.accounts ▸ List.mem_map_of_mem haccount
    obtain ⟨initial, hinitial, hterms⟩ := List.mem_map.mp hmem
    have hposted : posted opening ((bank platform).run opening.db calls) = rows := by
      rw [posted, hwithin.transactions, List.drop_left]
    have htoken : initial.terms.accountToken = account.terms.accountToken := by rw [hterms]
    have hlimit : initial.terms.dailyLimit = account.terms.dailyLimit := by rw [hterms]
    rw [hposted]
    change debitedOn day account.terms.accountToken rows ≤ account.terms.dailyLimit
    rw [← htoken, ← hlimit]
    exact hwithin.spent initial hinitial day
  · refine fun _ ↦ ⟨[], (List.append_nil _).symm, rfl, by simp, ?_, ?_⟩
    · intro account haccount now day _
      simpa [readyAmount, debitedOn, Opening.db] using hlimits account haccount
    · intro account haccount day
      simpa [debitedOn] using hlimits account haccount
  · intro history db e h hsteady
    rw [List.map_append] at hsteady
    obtain ⟨rows, hwithin⟩ := h hsteady.last.1
    exact ⟨rows, hwithin.keep rfl rfl fun _ _ _ ↦ le_rfl⟩
  · intro history db call answer writes hregular h hcounts hmove haccepted hstep hsteady
    rw [List.map_append] at hsteady
    obtain ⟨hbefore, hfollows⟩ := hsteady.last
    obtain ⟨rows, hwithin⟩ := h hbefore
    obtain ⟨added, hafter⟩ := hwithin.apply hregular hcounts (e := (bank platform).entry db call) rfl
      (fun earlier hearlier k ↦ ⟨(hfollows _ (List.mem_map_of_mem hearlier)).now k,
        (hfollows _ (List.mem_map_of_mem hearlier)).today k⟩) hmove
    exact ⟨rows ++ added, hafter⟩

/-- The first transfer of the small bank is within the limit of 150.00. -/
theorem daily_limit_kept_firstTransfer :
    ∃ account ∈ ((bank sampleBank).run (sampleOpening 15000).db firstTransfer).accounts,
      debitedOn 20000 account.accountToken
        (posted (sampleOpening 15000) ((bank sampleBank).run (sampleOpening 15000).db firstTransfer)) =
          10000 ∧
      debitedOn 20000 account.accountToken
        (posted (sampleOpening 15000) ((bank sampleBank).run (sampleOpening 15000).db firstTransfer)) ≤
          account.dailyLimit := by
  have hdebited : (((bank sampleBank).run (sampleOpening 15000).db firstTransfer).accounts.any
      fun account ↦ decide (debitedOn 20000 account.accountToken (posted (sampleOpening 15000)
        ((bank sampleBank).run (sampleOpening 15000).db firstTransfer)) = 10000)) = true := by
    decide +kernel
  obtain ⟨account, haccount, hamount⟩ := List.any_eq_true.mp hdebited
  refine ⟨account, haccount, of_decide_eq_true hamount, daily_limit_kept sampleBank (sampleOpening 15000)
    firstTransfer (by simp [sampleOpening]) ?_ ?_ account haccount 20000⟩
  · have hfollows (first second : String) (tool other : String) (op op' : BankOp) :
        Follows (sampleCall first tool op) (sampleCall second other op') := ⟨fun _ ↦ le_rfl, fun _ ↦ le_rfl⟩
    simp [Steady, firstTransfer, hfollows]
  · intro e he source beneficiary amountText currency rail key amount account payee hp
    have hop := hp.op
    rcases List.mem_cons.mp he with rfl | hlater
    · -- the first call finds nothing settled, so that the check of the code is enough
      obtain ⟨-, -, hdaily⟩ := checkPaymentCapacity_ok hp.capacity
      have hnone : posted (sampleOpening 15000) (sampleOpening 15000).db = [] := rfl
      simp only [Machine.entry, hnone, debitedOn, Table.sum_nil, Int.add_zero]
      exact hdaily
    · obtain rfl := List.mem_singleton.mp hlater
      cases hop

/-- A second transfer, of 80.00 on the same day. -/
def secondTransfer : List BankCall :=
  [sampleCall "3" "bank.transfers.prepare"
      (.prepareTransfer "acct-1" "ben-1" "80.00" "INR" "DEMO_BANK_RAIL" "transfer-2"),
    sampleCall "4" "bank.transfers.execute" (.executeTransfer "act_3"
      "b0a440813fe3364b64bb15e7afeac3212a87c3b4e4c99972f05aa162a94099bd" "exec-2")]

/-- Transfers of 100.00 and 80.00 settle on one day under a limit of 150.00. -/
theorem daily_limit_exceeded :
    ∃ account ∈ ((bank sampleBank).run (sampleOpening 15000).db (firstTransfer ++ secondTransfer)).accounts,
      account.dailyLimit < debitedOn 20000 account.accountToken (posted (sampleOpening 15000)
        ((bank sampleBank).run (sampleOpening 15000).db (firstTransfer ++ secondTransfer))) := by
  decide +kernel

end Xyena.Bank
