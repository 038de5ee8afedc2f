import Xyena.Bank.Invariant

/-!
# Balances are conserved

The current balance of an account is its opening balance with everything booked
since, and what separates it from the available balance is what separated them
at the opening plus the active holds. A settled transfer, a placed or released
hold and a settled reversal are the only moves that assign balances; each of
them writes the rows that account for it in the same commit.
-/

namespace Xyena.Bank

open Xyena.Foundation Xyena.Contracts

/-- The amounts booked on an account in one direction. -/
def booked (direction : Direction) (token : String) (rows : List Transaction) : Int :=
  Table.sum
    (fun row ↦ if row.accountToken = token ∧ row.direction = direction then row.amount else 0) rows

/-- The amounts of the active holds on an account. -/
def activeHolds (token : String) (rows : List AccountHold) : Int :=
  Table.sum (fun row ↦ if row.accountToken = token ∧ row.status = .active then row.amount else 0) rows

/-- How the balances of an account follow from its opening row, the transactions posted since and the
holds on it. -/
structure Balanced (initial account : Account) (posted : List Transaction) (holds : List AccountHold) :
    Prop where
  token : initial.accountToken = account.accountToken
  current : account.currentBalance = initial.currentBalance +
    booked .credit account.accountToken posted - booked .debit account.accountToken posted
  reserved : account.currentBalance - account.availableBalance -
    activeHolds account.accountToken holds = initial.currentBalance - initial.availableBalance
  available : 0 ≤ account.availableBalance

/-- All accounts are balanced by the transactions posted since the opening. -/
structure Conserved (opening : Opening) (db : BankDb) (posted : List Transaction) : Prop where
  transactions : db.transactions = opening.transactions ++ posted
  accounts : ∀ account ∈ db.accounts,
    ∃ initial ∈ opening.accounts, Balanced initial account posted db.holds

theorem Opening.conserved (opening : Opening) : Conserved opening opening.db [] where
  transactions := (List.append_nil _).symm
  accounts account haccount :=
    ⟨account, haccount, rfl, by simp [booked], by simp [activeHolds, Opening.db],
      opening.covered account haccount⟩

/-! ## One commit -/

theorem booked_append (direction : Direction) (token : String) (first second : List Transaction) :
    booked direction token (first ++ second) =
      booked direction token first + booked direction token second :=
  Table.sum_append _ _ _

theorem booked_singleton (direction : Direction) (token : String) (row : Transaction) :
    booked direction token [row] =
      if row.accountToken = token ∧ row.direction = direction then row.amount else 0 := by
  simp [booked]

/-- The account, the hold and the reversal that a session has read and writes again are still the
committed ones. -/
structure Current (seen db : BankDb) (writes : Writes) : Prop where
  account : ∀ balances ∈ writes.balances, ∀ account ∈ seen.accounts,
    account.accountToken = balances.accountToken → account ∈ db.accounts
  hold : ∀ write ∈ writes.holds, ∀ row ∈ seen.holds,
    row.holdId = write.row.holdId → row ∈ db.holds
  reversal : ∀ write ∈ writes.reversals, ∀ row ∈ seen.reversals,
    row.reversalId = write.row.reversalId → row ∈ db.reversals

theorem Current.refl (db : BankDb) (writes : Writes) : Current db db writes :=
  ⟨fun _ _ _ h _ ↦ h, fun _ _ _ h _ ↦ h, fun _ _ _ h _ ↦ h⟩

section Commit

variable {opening : Opening} {posted : List Transaction} {db : BankDb}

/-- An account is written together with the rows that explain the change of its balances. The sums of
the other accounts do not move. -/
theorem Conserved.write (h : Conserved opening db posted) (hkeyed : db.WellKeyed) {after : BankDb}
    {account : Account} {balances : Balances} {added : List Transaction}
    (hstored : account ∈ db.accounts) (htoken : balances.accountToken = account.accountToken)
    (haccounts : after.accounts = writeBalances db.accounts (some balances))
    (htransactions : after.transactions = db.transactions ++ added)
    (hadded : ∀ row ∈ added, row.accountToken = account.accountToken)
    (hholds : ∀ token, token ≠ account.accountToken →
      activeHolds token after.holds = activeHolds token db.holds)
    (hcurrent : (balances.apply account).currentBalance = account.currentBalance +
      booked .credit account.accountToken added - booked .debit account.accountToken added)
    (hreserved : (balances.apply account).currentBalance - (balances.apply account).availableBalance -
      activeHolds account.accountToken after.holds = account.currentBalance -
        account.availableBalance - activeHolds account.accountToken db.holds)
    (havailable : 0 ≤ (balances.apply account).availableBalance) :
    Conserved opening after (posted ++ added) := by
  refine ⟨by rw [htransactions, h.transactions, List.append_assoc], fun row hrow ↦ ?_⟩
  rw [haccounts] at hrow
  rcases mem_writeBalances hkeyed.accounts hstored htoken hrow with rfl | ⟨hold, hother⟩
  · obtain ⟨initial, hinitial, hbalanced⟩ := h.accounts account hstored
    have hsame : (balances.apply account).accountToken = account.accountToken := rfl
    refine ⟨initial, hinitial, hbalanced.token, ?_, ?_, havailable⟩
    · calc (balances.apply account).currentBalance
          = account.currentBalance + booked .credit account.accountToken added -
              booked .debit account.accountToken added := hcurrent
        _ = initial.currentBalance + (booked .credit account.accountToken posted +
              booked .credit account.accountToken added) - (booked .debit account.accountToken posted +
              booked .debit account.accountToken added) := by
          rw [hbalanced.current]
          omega
        _ = initial.currentBalance + booked .credit (balances.apply account).accountToken
              (posted ++ added) - booked .debit (balances.apply account).accountToken
              (posted ++ added) := by
          rw [hsame, booked_append, booked_append]
    · rw [hsame, hreserved]
      exact hbalanced.reserved
  · obtain ⟨initial, hinitial, hbalanced⟩ := h.accounts row hold
    have hnone (direction : Direction) : booked direction row.accountToken added = 0 := by
      refine (Table.sum_congr fun added hrow ↦ ?_).trans (Table.sum_zero _)
      rw [if_neg]
      rintro ⟨htoken, -⟩
      exact hother (htoken.symm.trans (hadded added hrow))
    refine ⟨initial, hinitial, hbalanced.token, ?_, ?_, hbalanced.available⟩
    · rw [booked_append, booked_append, hnone, hnone, Int.add_zero, Int.add_zero]
      exact hbalanced.current
    · rw [hholds _ hother]
      exact hbalanced.reserved

/-- A commit that assigns no balances and books nothing. -/
theorem Conserved.keep (h : Conserved opening db posted) {after : BankDb}
    (haccounts : after.accounts = db.accounts) (htransactions : after.transactions = db.transactions)
    (hholds : after.holds = db.holds) : Conserved opening after posted :=
  ⟨htransactions.trans h.transactions, by rw [haccounts, hholds]; exact h.accounts⟩

theorem activeHolds_insert (token : String) (rows : List AccountHold) (value : AccountHold)
    (hactive : value.status = .active) :
    activeHolds token (RowWrite.applyAll holdConstraints rows [.insert value]) =
      activeHolds token rows + if value.accountToken = token then value.amount else 0 := by
  simp [activeHolds, RowWrite.apply, hactive]

theorem activeHolds_release {rows : List AccountHold} {value : AccountHold}
    (hkeys : holdConstraints.Meets rows) (hstored : value ∈ rows) (hactive : value.status = .active)
    (token : String) (now : Time) (callId : String) :
    activeHolds token (RowWrite.applyAll holdConstraints rows [.update (value.release now callId)]) =
      activeHolds token rows - if value.accountToken = token then value.amount else 0 := by
  simp only [activeHolds, RowWrite.applyAll_cons, RowWrite.applyAll_nil, RowWrite.apply]
  have hkey : holdConstraints.key (value.release now callId) = holdConstraints.key value := rfl
  rw [Table.sum_replace _ hkeys.keys hstored hkey]
  simp [AccountHold.release, hactive]

variable {platform : BankPlatform} {seen : BankDb} {call : BankCall} {answer : BankAnswer}
  {writes : Writes}

/-- A commit of rows that are still current conserves the balances. -/
theorem Conserved.apply (h : Conserved opening db posted) (hregular : Regular db)
    (hmove : Move platform seen call answer writes) (hcurrent : Current seen db writes) :
    ∃ added, Conserved opening (writes.apply db) (posted ++ added) := by
  cases hmove with
  | quiet answer writes hquiet =>
    obtain ⟨_, _, _, heq⟩ := hquiet.apply db
    exact ⟨[], by rw [List.append_nil, heq]; exact h.keep rfl rfl rfl⟩
  | transferSettled executionId prepared account payee hs =>
    have hstored : account ∈ db.accounts := hcurrent.account _ rfl account hs.owned.stored rfl
    obtain ⟨-, hcovered, -⟩ := checkPaymentCapacity_ok hs.capacity
    refine ⟨[newDebit call account prepared executionId], h.write hregular.keyed hstored rfl rfl rfl
      (by simp [newDebit]) (fun _ _ ↦ rfl) ?_ ?_ ?_⟩
    · simp [booked_singleton, newDebit, Balances.apply, Int.sub_eq_add_neg]
    · simp only [Balances.apply, Option.getD_some]
      change _ - _ - activeHolds _ db.holds = _
      omega
    · simp only [Balances.apply, Option.getD_some]
      omega
  | holdPlaced token amountText currency key amount account events audits hp =>
    have hstored : account ∈ db.accounts := hcurrent.account _ rfl account hp.owned.stored rfl
    have hcovered := hp.covered
    have hholds (other : String) := activeHolds_insert other db.holds
      (newHold call token amount currency key) rfl
    simp only [newHold, ← hp.owned.token] at hholds
    refine ⟨[], h.write hregular.keyed hstored rfl rfl (List.append_nil _).symm (by simp)
      (fun other hother ↦ ?_) (by simp [booked, Balances.apply]) ?_ ?_⟩
    · simpa only [Writes.apply, newHold, ← hp.owned.token, Ne.symm hother, if_false, Int.add_zero]
        using hholds other
    · simp only [Writes.apply, newHold, ← hp.owned.token, hholds, if_true, Balances.apply,
        Option.getD_some, Option.getD_none]
      omega
    · simp only [Balances.apply, Option.getD_some]
      omega
  | holdReleased value account now events audits hr =>
    have hstored : account ∈ db.accounts := hcurrent.account _ rfl account hr.owned.stored rfl
    have hvalue : value ∈ db.holds :=
      hcurrent.hold _ List.mem_cons_self value hr.stored rfl
    have hamount := hregular.holds value hvalue
    have havailable := (h.accounts account hstored).choose_spec.2.available
    have hholds (other : String) := activeHolds_release hregular.keyed.holds hvalue hr.active other now
      call.scope.callId
    refine ⟨[], h.write hregular.keyed hstored rfl rfl (List.append_nil _).symm (by simp)
      (fun other hother ↦ ?_) (by simp [booked, Balances.apply]) ?_ ?_⟩
    · simpa only [Writes.apply, ← hr.owned.token, Ne.symm hother, if_false, Int.sub_zero]
        using hholds other
    · simp only [Writes.apply, hholds, hr.owned.token, if_true, Balances.apply, Option.getD_some,
        Option.getD_none]
      omega
    · simp only [Balances.apply, Option.getD_some]
      omega
  | reversalSettled approval value execution prepared account hr =>
    have hstored : account ∈ db.accounts := hcurrent.account _ rfl account hr.owned.stored rfl
    have hvalue : value ∈ db.reversals :=
      hcurrent.reversal _ List.mem_cons_self value hr.stored rfl
    have hamount := hregular.reversals value hvalue
    have havailable := (h.accounts account hstored).choose_spec.2.available
    refine ⟨[newCredit call account value], h.write hregular.keyed hstored rfl rfl rfl
      (by simp [newCredit]) (fun _ _ ↦ rfl) ?_ ?_ ?_⟩
    · simp [booked_singleton, newCredit, Balances.apply]
    · simp only [Balances.apply, Option.getD_some]
      change _ - _ - activeHolds _ db.holds = _
      omega
    · simp only [Balances.apply, Option.getD_some]
      omega
  | _ => exact ⟨[], by rw [List.append_nil]; exact h.keep rfl rfl rfl⟩

end Commit

/-! ## Whole runs -/

theorem conserved_run (platform : BankPlatform) (opening : Opening) (calls : List BankCall) :
    ∃ posted, Conserved opening ((bank platform).run opening.db calls) posted := by
  refine (commit_invariant (fun db ↦ ∃ posted, Conserved opening db posted) (fun _ _ ↦ True)
    opening.regular ⟨[], opening.conserved⟩ ?_ calls fun _ _ ↦ trivial).2
  rintro db call answer writes hregular ⟨posted, hconserved⟩ - hmove haccepted
  obtain ⟨added, hafter⟩ := hconserved.apply hregular hmove (Current.refl db writes)
  exact ⟨posted ++ added, hafter⟩

/-- In every state that a bank reaches, the transactions posted since the opening and the active holds
account for the balances of every account, and no available balance is negative. -/
theorem balances_conserved (platform : BankPlatform) (opening : Opening) (calls : List BankCall) :
    let db := (bank platform).run opening.db calls
    let posted := db.transactions.drop opening.transactions.length
    db.transactions = opening.transactions ++ posted ∧
      ∀ account ∈ db.accounts, ∃ initial ∈ opening.accounts,
        initial.accountToken = account.accountToken ∧
        account.currentBalance = initial.currentBalance +
          booked .credit account.accountToken posted - booked .debit account.accountToken posted ∧
        account.currentBalance - account.availableBalance -
            activeHolds account.accountToken db.holds =
          initial.currentBalance - initial.availableBalance -
            activeHolds initial.accountToken opening.db.holds ∧
        0 ≤ account.availableBalance := by
  obtain ⟨posted, hconserved⟩ := conserved_run platform opening calls
  have hposted : ((bank platform).run opening.db calls).transactions.drop
      opening.transactions.length = posted := by
    rw [hconserved.transactions, List.drop_left]
  simp only [hposted]
  refine ⟨hconserved.transactions, fun account haccount ↦ ?_⟩
  obtain ⟨initial, hinitial, hbalanced⟩ := hconserved.accounts account haccount
  refine ⟨initial, hinitial, hbalanced.token, hbalanced.current, ?_, hbalanced.available⟩
  rw [hbalanced.reserved]
  simp [activeHolds, Opening.db]

/-- A hold of 30.00 in the small bank is the difference between the two balances of its account. -/
theorem balances_conserved_heldAccount :
    let calls := [sampleCall "1" "bank.holds.place" (.placeHold "acct-1" "30.00" "INR" "hold-1")]
    let db := (bank sampleBank).run (sampleOpening 15000).db calls
    ∃ account ∈ db.accounts, ∃ initial ∈ (sampleOpening 15000).accounts,
      account.availableBalance = 97000 ∧ initial.accountToken = account.accountToken ∧
        account.currentBalance - account.availableBalance - activeHolds account.accountToken db.holds =
          initial.currentBalance - initial.availableBalance - activeHolds initial.accountToken [] := by
  intro calls db
  have hheld : (db.accounts.any fun row ↦ row.availableBalance == 97000) = true := by decide +kernel
  obtain ⟨account, haccount, havailable⟩ := List.any_eq_true.mp hheld
  obtain ⟨initial, hinitial, htoken, -, hreserved, -⟩ :=
    (balances_conserved sampleBank (sampleOpening 15000) calls).2 account haccount
  exact ⟨account, haccount, initial, hinitial, beq_iff_eq.mp havailable, htoken, hreserved⟩

end Xyena.Bank
