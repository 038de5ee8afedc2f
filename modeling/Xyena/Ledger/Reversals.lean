import Xyena.Ledger.Postings

/-!
# Reversals of one journal

A reversal mirrors the lines of a posted journal when it is prepared. It is
posted later, and nothing looks then at the other reversals of that journal.
A journal is reversed once exactly when every reversal that is posted finds no
posted one before it.
-/

namespace Xyena.Ledger

open Xyena.Foundation Xyena.Foundation.DoubleEntry Xyena.Foundation.Session Xyena.Contracts

/-! ## Mirrored lines -/

/-- The original of a reversal is posted, and the lines of the reversal mirror its lines. -/
structure Mirrors (db : LedgerDb) (reversal original : JournalEntry) : Prop where
  kind : reversal.entryType = .reversal
  reviewed : reversal.status ≠ .validated
  origin : reversal.reversalOfJournalId = some original.journalId
  tenant : reversal.tenantId = original.tenantId
  posted : original.status = .posted
  lines : (linesOf db reversal.journalId).map JournalLine.posting =
    ((linesOf db original.journalId).map JournalLine.posting).map Posting.mirror

/-- Every journal that names another one is a reversal of it, and every other one a disbursement. -/
structure Linked (db : LedgerDb) : Prop where
  reversals : ∀ journal ∈ db.journals, journal.reversalOfJournalId ≠ none →
    ∃ original ∈ db.journals, Mirrors db journal original
  disbursements : ∀ journal ∈ db.journals, journal.reversalOfJournalId = none →
    journal.entryType = .disbursement ∧ journal.status ≠ .reviewRequired

section Commit

variable {platform : LedgerPlatform} {db : LedgerDb} {call : LedgerCall} {answer : LedgerAnswer}
  {writes : Writes}

/-- A mirrored pair stays one, also when the reversal is posted. -/
theorem Mirrors.apply (hregular : Regular db) (hmove : Move platform db call answer writes)
    (haccepted : writes.Accepted db) {reversal original after : JournalEntry}
    (hreversal : reversal ∈ db.journals) (horiginal : original ∈ db.journals)
    (h : Mirrors db reversal original) (hterms : SameTerms reversal after)
    (hreviewed : after.status ≠ .validated) : Mirrors (writes.apply db) after original where
  kind := hterms.kind.trans h.kind
  reviewed := hreviewed
  origin := hterms.origin.trans h.origin
  tenant := hterms.tenant.trans h.tenant
  posted := h.posted
  lines := by
    rw [hterms.id, linesOf_apply hregular hmove haccepted hreversal,
      linesOf_apply hregular hmove haccepted horiginal, h.lines]

/-- A new reversal mirrors its original. -/
theorem mirrors_newReversal (hregular : Regular db) (hmove : Move platform db call answer writes)
    (haccepted : writes.Accepted db) {scope : RuntimeScope} {original : JournalEntry}
    {reason key : String} (hprepares : PreparesReversal db call scope original reason key)
    (hjournals : writes.journals =
      [.insert (newReversal platform call scope original original.journalId reason key)])
    (hlines : writes.lines =
      (mirrorLines call original.journalId (linesOf db original.journalId)).map .insert) :
    Mirrors (writes.apply db) (newReversal platform call scope original original.journalId reason key)
      original where
  kind := rfl
  reviewed := by simp [newReversal]
  origin := rfl
  tenant := hprepares.found.tenant.symm
  posted := hprepares.posted
  lines := by
    have hinsert := haccepted.journals
    rw [hjournals] at hinsert
    have happended : (writes.apply db).lines =
        db.lines ++ mirrorLines call original.journalId (linesOf db original.journalId) := by
      simp only [Writes.apply, hlines, RowWrite.applyAll_insert]
    rw [linesOf_apply hregular hmove haccepted hprepares.found.stored,
      linesOf_append happended (fun _ ↦ journalId_of_mem_mirrorLines) (hregular.lines_unused hinsert)]
    exact (congrArg _ (if_pos rfl)).trans (map_posting_mirrorLines call _ _)

theorem Linked.apply (h : Linked db) (hregular : Regular db)
    (hmove : Move platform db call answer writes) (haccepted : writes.Accepted db) :
    Linked (writes.apply db) := by
  have hstays {original : JournalEntry} (horiginal : original ∈ db.journals)
      (hposted : original.status = .posted) : original ∈ (writes.apply db).journals :=
    (posted_apply hregular hmove haccepted horiginal hposted).1
  have hkept {journal after : JournalEntry} (hjournal : journal ∈ db.journals)
      (hterms : SameTerms journal after) (hstatus : after = journal ∨ after.status = .posted)
      (horigin : after.reversalOfJournalId ≠ none) :
      ∃ original ∈ (writes.apply db).journals, Mirrors (writes.apply db) after original := by
    obtain ⟨original, horiginal, hmirrors⟩ := h.reversals journal hjournal (hterms.origin ▸ horigin)
    have hreviewed : after.status ≠ .validated := by
      rcases hstatus with rfl | hposted
      · exact hmirrors.reviewed
      · simp [hposted]
    exact ⟨original, hstays horiginal hmirrors.posted,
      hmirrors.apply hregular hmove haccepted hjournal horiginal hterms hreviewed⟩
  constructor
  · intro row hrow horigin
    rcases mem_journals_apply hmove haccepted hrow with hold | ⟨hnew, -⟩ | ⟨journal, -, hposts⟩
    · exact hkept hold (SameTerms.refl row) (Or.inl rfl) horigin
    · cases hmove with
      | disbursementPrepared =>
        obtain rfl := RowWrite.insert.inj (List.cons.inj hnew).1
        exact absurd rfl horigin
      | reversalPrepared scope original reason key audits hp =>
        obtain rfl := RowWrite.insert.inj (List.cons.inj hnew).1
        exact ⟨original, hstays hp.found.stored hp.posted,
          mirrors_newReversal hregular (.reversalPrepared scope original reason key audits hp) haccepted
            hp rfl rfl⟩
      | _ => cases hnew
    · exact hkept hposts.stored hposts.terms (Or.inr hposts.posted) horigin
  · intro row hrow hnone
    rcases mem_journals_apply hmove haccepted hrow with hold | ⟨hnew, -⟩ | ⟨journal, -, hposts⟩
    · exact h.disbursements row hold hnone
    · cases hmove with
      | disbursementPrepared =>
        obtain rfl := RowWrite.insert.inj (List.cons.inj hnew).1
        exact ⟨rfl, by simp [newDisbursement]⟩
      | reversalPrepared =>
        obtain rfl := RowWrite.insert.inj (List.cons.inj hnew).1
        cases hnone
      | _ => cases hnew
    · have hbefore := h.disbursements journal hposts.stored (hposts.terms.origin.symm.trans hnone)
      exact ⟨hposts.terms.kind.trans hbefore.1, by simp [hposts.posted]⟩

end Commit

theorem linked_run (platform : LedgerPlatform) (opening : Opening) (calls : List LedgerCall) :
    Linked ((ledger platform).run opening.db calls) :=
  (commit_invariant Linked (fun _ _ ↦ True) opening.regular
    ⟨by simp [Opening.db], by simp [Opening.db]⟩
    (fun _ _ _ _ hdb hinv _ hmove haccepted ↦ hinv.apply hdb hmove haccepted) calls
    fun _ _ ↦ trivial).2

/-! ## The effect of a journal and its reversals -/

/-- What the lines of a journal add to an account. -/
def effectOf (db : LedgerDb) (account : LedgerAccount) (journalId : String) : Int :=
  Posting.effectOn account.normalSide account.accountId
    ((linesOf db journalId).map JournalLine.posting)

def postedReversals (db : LedgerDb) (journalId : String) : List JournalEntry :=
  db.journals.filter fun row ↦ row.reversalOfJournalId == some journalId && row.status == .posted

/-- What a journal and its posted reversals add to an account. -/
def combinedEffect (db : LedgerDb) (account : LedgerAccount) (journalId : String) : Int :=
  effectOf db account journalId +
    Table.sum (fun row ↦ effectOf db account row.journalId) (postedReversals db journalId)

/-- Every posted journal has at most one posted reversal, and its effect stands or is taken back. -/
def ReversedOnce (db : LedgerDb) : Prop :=
  ∀ journal ∈ db.journals, journal.status = .posted →
    (postedReversals db journal.journalId).length ≤ 1 ∧
    ∀ account ∈ db.accounts, combinedEffect db account journal.journalId =
        effectOf db account journal.journalId ∨
      combinedEffect db account journal.journalId = 0

theorem mem_postedReversals {db : LedgerDb} {journalId : String} {row : JournalEntry} :
    row ∈ postedReversals db journalId ↔ row ∈ db.journals ∧
      row.reversalOfJournalId = some journalId ∧ row.status = .posted := by
  simp [postedReversals]

/-- A reversal takes the effect of its original back. -/
theorem effectOf_reversal {db : LedgerDb} (hlinked : Linked db) {row : JournalEntry}
    {journalId : String} (hrow : row ∈ postedReversals db journalId) (account : LedgerAccount) :
    effectOf db account row.journalId = -effectOf db account journalId := by
  obtain ⟨hstored, horigin, -⟩ := mem_postedReversals.mp hrow
  obtain ⟨original, -, hmirrors⟩ := hlinked.reversals row hstored (by simp [horigin])
  obtain rfl : original.journalId = journalId :=
    Option.some.inj (hmirrors.origin.symm.trans horigin)
  rw [effectOf, hmirrors.lines, Posting.effectOn_mirror]
  rfl

/-- One posted reversal at most leaves the effect of a journal or nothing. -/
theorem combinedEffect_of_length {db : LedgerDb} (hlinked : Linked db) {journalId : String}
    (h : (postedReversals db journalId).length ≤ 1) (account : LedgerAccount) :
    combinedEffect db account journalId = effectOf db account journalId ∨
      combinedEffect db account journalId = 0 := by
  have heffect (row : JournalEntry) (hrow : row ∈ postedReversals db journalId) :=
    effectOf_reversal hlinked hrow account
  unfold combinedEffect
  rcases hreversals : postedReversals db journalId with _ | ⟨row, _ | ⟨other, rest⟩⟩
  · exact Or.inl (Int.add_zero _)
  · right
    rw [hreversals] at heffect
    rw [Table.sum_cons, Table.sum_nil, heffect row List.mem_cons_self]
    omega
  · simp [hreversals] at h

/-! ## Reversals that come first -/

/-- A call that passes all checks of a reversal, with rows that the database takes, finds no posted
reversal of the same journal. -/
def FirstReversal (db : LedgerDb) (call : LedgerCall) : Prop :=
  ∀ scope approval journal accounts, PostsReversal db call scope approval journal accounts →
    call.refused = false → (reversalWrites call scope accounts journal approval).Accepted db →
      ∀ other ∈ db.journals, other.status = .posted →
        other.reversalOfJournalId ≠ journal.reversalOfJournalId

/-- No two posted journals reverse the same one. -/
def OneReversal (db : LedgerDb) : Prop :=
  ∀ first ∈ db.journals, ∀ second ∈ db.journals, first.status = .posted → second.status = .posted →
    first.reversalOfJournalId ≠ none →
      first.reversalOfJournalId = second.reversalOfJournalId → first = second

theorem OneReversal.length_le_one {db : LedgerDb} (h : OneReversal db) (hregular : Regular db)
    (journalId : String) : (postedReversals db journalId).length ≤ 1 := by
  have hkeys : ((postedReversals db journalId).map JournalEntry.journalId).Nodup :=
    (List.filter_sublist.map _).nodup hregular.keyed.journals.keys
  refine Table.length_le_one hkeys fun first hfirst second hsecond ↦ ?_
  obtain ⟨hstored, horigin, hposted⟩ := mem_postedReversals.mp hfirst
  obtain ⟨hstored', horigin', hposted'⟩ := mem_postedReversals.mp hsecond
  exact h first hstored second hstored' hposted hposted' (by simp [horigin])
    (horigin.trans horigin'.symm)

section Commit

variable {platform : LedgerPlatform} {db : LedgerDb} {call : LedgerCall} {answer : LedgerAnswer}
  {writes : Writes}

/-- A reversal that passes all checks is answered with its rows. -/
theorem PostsReversal.serve {scope : RuntimeScope} {approval : String} {journal : JournalEntry}
    {accounts : List LedgerAccount} (h : PostsReversal db call scope approval journal accounts)
    (hkeys : (db.journals.map JournalEntry.journalId).Nodup) :
    serve platform db call =
      .ok (.journal (journal.approve call scope approval) (linesOf db journal.journalId),
        some (reversalWrites call scope accounts journal approval)) := by
  simp only [Ledger.serve, h.request, serveOp, executeReversal, h.approved, h.found.lookup hkeys,
    h.balanced, h.posted, ensure, bind, Except.bind, pure, Except.pure]
  simp [h.pending]

/-- A commit that posts no second reversal keeps reversals single. -/
theorem OneReversal.apply (h : OneReversal db) (hlinked : Linked db) (hfirst : FirstReversal db call)
    (hrefused : call.refused = false) (hmove : Move platform db call answer writes)
    (haccepted : writes.Accepted db) : OneReversal (writes.apply db) := by
  have hold {row : JournalEntry} (hrow : row ∈ (writes.apply db).journals)
      (hposted : row.status = .posted) (horigin : row.reversalOfJournalId ≠ none) :
      row ∈ db.journals ∨ writes.journals = [.update row] ∧ ∀ other ∈ db.journals,
        other.status = .posted → other.reversalOfJournalId ≠ row.reversalOfJournalId := by
    rcases mem_journals_apply hmove haccepted hrow with hold | ⟨-, hnew⟩ | ⟨journal, hupdate, hposts⟩
    · exact Or.inl hold
    · exact absurd hposted hnew
    · right
      cases hmove with
      | disbursementPosted scope bank validated payment accounts hp =>
        -- a disbursement journal reverses nothing
        obtain rfl := RowWrite.update.inj (List.cons.inj hupdate).1
        obtain ⟨original, -, hmirrors⟩ := hlinked.reversals validated hp.found.stored horigin
        exact absurd hp.validated hmirrors.reviewed
      | reversalPosted scope approval pending accounts hp =>
        obtain rfl := RowWrite.update.inj (List.cons.inj hupdate).1
        exact ⟨hupdate, hfirst scope approval pending accounts hp hrefused haccepted⟩
      | _ => cases hupdate
  intro first hfirstRow second hsecondRow hposted hposted' horigin hsame
  rcases hold hfirstRow hposted horigin with hfirstOld | ⟨hfirstNew, hnone⟩
  · rcases hold hsecondRow hposted' (hsame ▸ horigin) with hsecondOld | ⟨-, hnone⟩
    · exact h first hfirstOld second hsecondOld hposted hposted' horigin hsame
    · exact absurd hsame (hnone first hfirstOld hposted)
  · rcases hold hsecondRow hposted' (hsame ▸ horigin) with hsecondOld | ⟨hsecondNew, -⟩
    · exact absurd hsame.symm (hnone second hsecondOld hposted')
    · simpa [hfirstNew] using hsecondNew

end Commit

/-! ## Runs -/

theorem oneReversal_run {platform : LedgerPlatform} {opening : Opening} {calls : List LedgerCall}
    (hfirst : ∀ e ∈ (ledger platform).log opening.db calls, FirstReversal e.before e.input) :
    OneReversal ((ledger platform).run opening.db calls) :=
  (commit_history (fun _ db ↦ Linked db ∧ OneReversal db) FirstReversal opening.regular
    ⟨⟨by simp [Opening.db], by simp [Opening.db]⟩, by simp [OneReversal, Opening.db]⟩
    (fun _ _ _ hinv ↦ hinv)
    (fun _ _ _ _ _ hdb hinv hfirst hmove hrefused haccepted _ ↦
      ⟨hinv.1.apply hdb hmove haccepted, hinv.2.apply hinv.1 hfirst hrefused hmove haccepted⟩)
    calls hfirst).2.2

/-- A reversal that is posted behind another one leaves two posted reversals of one posted journal. -/
theorem firstReversal_of_reversedOnce {platform : LedgerPlatform} {db : LedgerDb} {call : LedgerCall}
    (hregular : Regular db) (hlinked : Linked db)
    (h : ReversedOnce ((ledger platform).step db call).2) : FirstReversal db call := by
  intro scope approval journal accounts hp hrefused haccepted other hother hposted hsame
  have hmove : Move platform db call _ _ := .reversalPosted scope approval journal accounts hp
  have hstep : ((ledger platform).step db call).2 =
      (reversalWrites call scope accounts journal approval).apply db := by
    simp only [ledger, Service.machine, sessions, hp.serve hregular.keyed.journals.keys, hrefused]
    simp [Service.close, Writes.accepted_iff.mpr haccepted]
  rw [hstep] at h
  have hnot : journal.reversalOfJournalId ≠ none := fun hnone ↦
    (hlinked.disbursements journal hp.found.stored hnone).2 hp.pending
  obtain ⟨original, horiginal, hmirrors⟩ := hlinked.reversals journal hp.found.stored hnot
  have hlength := (h original (posted_apply hregular hmove haccepted horiginal hmirrors.posted).1
    hmirrors.posted).1
  have hnew : journal.approve call scope approval ∈
      postedReversals ((reversalWrites call scope accounts journal approval).apply db)
        original.journalId :=
    mem_postedReversals.mpr
      ⟨Table.changed_mem_replace hp.found.stored rfl, hmirrors.origin, rfl⟩
  have hold : other ∈ postedReversals
      ((reversalWrites call scope accounts journal approval).apply db) original.journalId :=
    mem_postedReversals.mpr ⟨(posted_apply hregular hmove haccepted hother hposted).1,
      hsame.trans hmirrors.origin, hposted⟩
  have heq := Table.eq_of_length_le_one hlength hold hnew
  have hid : other.journalId = (journal.approve call scope approval).journalId := by rw [heq]
  obtain rfl := hregular.journal_eq hp.found.stored hother hid
  rw [hp.pending] at hposted
  cases hposted

/-- In all states of a run every posted journal has at most one posted reversal, and its effect on every
account stands or is taken back as a whole, exactly when every call of the run that passes all checks of
a reversal, with rows that the database takes, finds no posted reversal of the same journal. -/
theorem reversed_once_iff (platform : LedgerPlatform) (opening : Opening) (calls : List LedgerCall) :
    (∀ e ∈ (ledger platform).log opening.db calls, ReversedOnce e.after) ↔
      ∀ e ∈ (ledger platform).log opening.db calls, FirstReversal e.before e.input := by
  constructor
  · intro h e he
    have honce := h e he
    obtain ⟨earlier, call, later, rfl, rfl⟩ := ((ledger platform).mem_log_iff _ _ _).mp he
    exact firstReversal_of_reversedOnce (regular_run platform opening.regular earlier)
      (linked_run platform opening earlier) honce
  · intro h e he
    obtain ⟨earlier, call, later, rfl, rfl⟩ := ((ledger platform).mem_log_iff _ _ _).mp he
    have hrun := (ledger platform).run_snoc opening.db earlier call
    have hprefix : ∀ e ∈ (ledger platform).log opening.db (earlier ++ [call]),
        FirstReversal e.before e.input := by
      intro e he
      refine h e ?_
      rw [← List.singleton_append, ← List.append_assoc, Machine.log_append]
      exact List.mem_append_left _ he
    have hone := oneReversal_run hprefix
    have hregular := regular_run platform opening.regular (earlier ++ [call])
    have hlinked := linked_run platform opening (earlier ++ [call])
    rw [hrun] at hone hregular hlinked
    intro journal hjournal hposted
    have hlength := hone.length_le_one hregular journal.journalId
    exact ⟨hlength, fun account _ ↦ combinedEffect_of_length hlinked hlength account⟩

/-- Another reversal of the first disbursement, under another idempotency key and approval. -/
def secondReversal : List LedgerCall :=
  [sampleCall "5" (.scoped (sampleScope "5") (.prepareReversal "jrnl_10" "duplicate" "reversal-2")),
    sampleCall "6" (.scoped (sampleScope "6") (.executeReversal "jrnl_rev_50"
      "da0474eeeea7c3a9179d71f7cf5125ec03302026baebf2b39e944850c4bef745" "approval-2"))]

/-- Two reversals of one journal are posted, and together they turn its effect around. -/
theorem reversed_twice :
    ∃ journal ∈ ((ledger sampleLedger).run sampleOpening.db
        (firstDisbursement ++ firstReversal ++ secondReversal)).journals,
      journal.status = .posted ∧
      (postedReversals ((ledger sampleLedger).run sampleOpening.db
        (firstDisbursement ++ firstReversal ++ secondReversal)) journal.journalId).length = 2 ∧
      ∃ account ∈ ((ledger sampleLedger).run sampleOpening.db
          (firstDisbursement ++ firstReversal ++ secondReversal)).accounts,
        effectOf ((ledger sampleLedger).run sampleOpening.db
          (firstDisbursement ++ firstReversal ++ secondReversal)) account journal.journalId = 10000 ∧
        combinedEffect ((ledger sampleLedger).run sampleOpening.db
          (firstDisbursement ++ firstReversal ++ secondReversal)) account journal.journalId = -10000 := by
  decide +kernel

end Xyena.Ledger
