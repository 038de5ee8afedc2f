import Mathlib.Data.Finset.Dedup
import Mathlib.Data.Finset.Order
import Xyena.Guardian.Moves

/-!
# Single use of an authorization per exact request

A decision that is still live is answered with a new authorization every time
it is asked for again, and each of these can be consumed. So one exact request
can be used more than once. It is used at most once in every run in which
Guardian mints a token for a request only when every earlier token of that
request is unused and past its expiry.
-/

namespace Xyena.Guardian

open Xyena.Foundation Xyena.Contracts

/-- Consumed rows of the two tables for one tenant, call and hash are one row. -/
def OneConsumed (rows₁ rows₂ : List GuardianAuthorization) : Prop :=
  ∀ first ∈ rows₁, ∀ second ∈ rows₂, first.status = .consumed → second.status = .consumed →
    first.requestKey = second.requestKey → first.id = second.id

instance (rows₁ rows₂ : List GuardianAuthorization) : Decidable (OneConsumed rows₁ rows₂) :=
  inferInstanceAs (Decidable (∀ _ ∈ rows₁, _))

/-- No two different authorizations of one tenant, call and hash are ever consumed, be it in
different states of the run. -/
def SingleUse (log : List GuardianEntry) : Prop :=
  ∀ e₁ ∈ log, ∀ e₂ ∈ log, OneConsumed e₁.after.authorizations e₂.after.authorizations

instance (log : List GuardianEntry) : Decidable (SingleUse log) :=
  inferInstanceAs (Decidable (∀ _ ∈ log, _))

/-- If the call is answered with a new authorization, then no authorization of the same request
was consumed before and none is still unexpired. -/
def MintsWhenSpent (e : GuardianEntry) : Prop :=
  authorizes e.before e.input = true → ∀ stored ∈ e.before.authorizations,
    e.input.op.requestKey = some stored.requestKey →
      stored.status ≠ .consumed ∧ stored.expiresAt ≤ e.input.clock.now

instance (e : GuardianEntry) : Decidable (MintsWhenSpent e) := inferInstanceAs (Decidable (_ → _))

/-! ## The invariant -/

/-- Consumed already, or still consumable at the instant `now` or later. -/
def GuardianAuthorization.Usable (authorization : GuardianAuthorization) (now : Time) : Prop :=
  authorization.status = .consumed ∨ now < authorization.expiresAt

/-- Of one request at most one authorization is consumed or still consumable. -/
def OneUsable (now : Time) (db : GuardianDb) : Prop :=
  ∀ first ∈ db.authorizations, ∀ second ∈ db.authorizations,
    first.requestKey = second.requestKey → first.Usable now → second.Usable now →
      first.id = second.id

theorem OneUsable.mono {now later : Time} {db : GuardianDb} (hle : now ≤ later)
    (h : OneUsable now db) : OneUsable later db := by
  have hback (authorization : GuardianAuthorization) (hlater : authorization.Usable later) :
      authorization.Usable now :=
    hlater.imp_right fun hlt ↦ lt_of_le_of_lt hle hlt
  intro first hfirst second hsecond hkey hone htwo
  exact h first hfirst second hsecond hkey (hback first hone) (hback second htwo)

def DistinctAuthorizations (db : GuardianDb) : Prop :=
  (db.authorizations.map GuardianAuthorization.id).Nodup

/-- Every consumed row of `old` is still consumed, for the same request, in `db`. -/
def KeepsConsumed (old db : List GuardianAuthorization) : Prop :=
  ∀ row ∈ old, row.status = .consumed →
    ∃ kept ∈ db, kept.id = row.id ∧ kept.requestKey = row.requestKey ∧ kept.status = .consumed

theorem KeepsConsumed.refl (rows : List GuardianAuthorization) : KeepsConsumed rows rows :=
  fun row hrow hconsumed ↦ ⟨row, hrow, rfl, rfl, hconsumed⟩

theorem KeepsConsumed.trans {first second third : List GuardianAuthorization}
    (h₁ : KeepsConsumed first second) (h₂ : KeepsConsumed second third) :
    KeepsConsumed first third := by
  intro row hrow hconsumed
  obtain ⟨middle, hmiddle, hid, hkey, hstatus⟩ := h₁ row hrow hconsumed
  obtain ⟨last, hlast, hid', hkey', hstatus'⟩ := h₂ middle hmiddle hstatus
  exact ⟨last, hlast, hid'.trans hid, hkey'.trans hkey, hstatus'⟩

variable {platform : Platform} {call : GuardianCall} {start db after : GuardianDb}

theorem Move.distinctAuthorizations (hmove : Move platform call start db after)
    (h : DistinctAuthorizations db) : DistinctAuthorizations after := by
  cases hmove with
  | decide => exact h
  | escalate => exact h
  | resolve => exact h
  | issue _ _ _ _ _ _ _ _ hfresh =>
    exact Table.nodup_keys_append h fun old hold ↦ (hfresh old hold).1
  | consume =>
    unfold DistinctAuthorizations
    rw [Table.map_key_replace]
    exact h

theorem Move.keepsConsumed (hmove : Move platform call start db after)
    (hdistinct : DistinctAuthorizations db) :
    KeepsConsumed db.authorizations after.authorizations := by
  cases hmove with
  | decide => exact .refl _
  | escalate => exact .refl _
  | resolve => exact .refl _
  | issue =>
    intro row hrow hconsumed
    exact ⟨row, List.mem_append_left _ hrow, rfl, rfl, hconsumed⟩
  | consume request authorization _ hstored hactive =>
    intro row hrow hconsumed
    refine ⟨row, Table.mem_replace_of_ne hrow fun hid ↦ ?_, rfl, rfl, hconsumed⟩
    -- the row that is consumed now was active, so it is not this one
    obtain rfl := Table.eq_of_key hdistinct hrow hstored hid
    rw [hconsumed] at hactive
    cases hactive

/-- A move keeps the invariant at its own instant, provided a minted token finds no other usable
one. -/
theorem Move.oneUsable (hmove : Move platform call start db after)
    (hmints : authorizes start call = true → ∀ stored ∈ start.authorizations,
      call.op.requestKey = some stored.requestKey →
        stored.status ≠ .consumed ∧ stored.expiresAt ≤ call.clock.now)
    (h : OneUsable call.clock.now db) : OneUsable call.clock.now after := by
  cases hmove with
  | decide => exact h
  | escalate => exact h
  | resolve => exact h
  | issue decision token hasked hauthorizes hfirst =>
    have hspent : ∀ stored ∈ db.authorizations, decision.requestKey = stored.requestKey →
        ¬ stored.Usable call.clock.now := by
      intro stored hstored hkey husable
      rw [hfirst] at hstored
      obtain ⟨hunused, hexpired⟩ := hmints hauthorizes stored hstored (by rw [hasked, hkey])
      exact husable.elim hunused fun hlt ↦ absurd hlt (not_lt.mpr hexpired)
    intro first hone second htwo hkey husable₁ husable₂
    rcases List.mem_append.mp hone with hold₁ | hnew₁ <;>
      rcases List.mem_append.mp htwo with hold₂ | hnew₂
    · exact h first hold₁ second hold₂ hkey husable₁ husable₂
    · rw [List.mem_singleton.mp hnew₂] at hkey
      exact absurd husable₁ (hspent first hold₁ hkey.symm)
    · rw [List.mem_singleton.mp hnew₁] at hkey
      exact absurd husable₂ (hspent second hold₂ hkey)
    · rw [List.mem_singleton.mp hnew₁, List.mem_singleton.mp hnew₂]
  | consume request authorization _ hstored _ hlive =>
    -- every row after the move stands for a row before it with the same identifier and request
    have hbefore : ∀ row ∈ Table.replace GuardianAuthorization.id
        (authorization.useUp call.clock.now request.correlationId) db.authorizations,
        ∃ old ∈ db.authorizations, old.id = row.id ∧ old.requestKey = row.requestKey ∧
          (row.Usable call.clock.now → old.Usable call.clock.now) := by
      intro row hrow
      rcases Table.mem_replace hrow with rfl | ⟨hold, -⟩
      · exact ⟨authorization, hstored, rfl, rfl, fun _ ↦ Or.inr hlive⟩
      · exact ⟨row, hold, rfl, rfl, id⟩
    intro first hone second htwo hkey husable₁ husable₂
    obtain ⟨old₁, hold₁, hid₁, hkey₁, husable₁'⟩ := hbefore first hone
    obtain ⟨old₂, hold₂, hid₂, hkey₂, husable₂'⟩ := hbefore second htwo
    rw [← hid₁, ← hid₂]
    exact h old₁ hold₁ old₂ hold₂ (hkey₁.trans (hkey.trans hkey₂.symm)) (husable₁' husable₁)
      (husable₂' husable₂)

/-! ## Runs -/

/-- What holds of the entries so far and the tables, as long as the clock has not gone back. -/
structure SingleUseInvariant (history : List GuardianEntry) (db : GuardianDb) : Prop where
  distinct : DistinctAuthorizations db
  kept : ∀ e ∈ history, KeepsConsumed e.after.authorizations db.authorizations
  oneUsable : ClockForward (history.map Entry.input) →
    ∀ now, (∀ e ∈ history, e.input.clock.now ≤ now) → OneUsable now db

theorem ClockForward.of_append {calls : List GuardianCall} {call : GuardianCall}
    (h : ClockForward (calls ++ [call])) :
    ClockForward calls ∧ ∀ earlier ∈ calls, earlier.clock.now ≤ call.clock.now := by
  obtain ⟨hordered, hpairs⟩ := h
  rw [List.pairwise_append] at hpairs
  refine ⟨⟨fun c hc ↦ hordered c (List.mem_append_left _ hc), hpairs.1⟩, fun earlier hearlier ↦ ?_⟩
  have hlast : call ∈ [call] := List.mem_singleton.mpr rfl
  obtain ⟨-, -, h₁, h₂, h₃⟩ := hordered earlier (List.mem_append_left _ hearlier)
  obtain ⟨h₄, h₅, -⟩ := hordered call (List.mem_append_right _ hlast)
  have hgap := hpairs.2.2 earlier hearlier call hlast
  exact h₁.trans (h₂.trans (h₃.trans (hgap.trans (h₄.trans h₅))))

theorem singleUseInvariant_step (history : List GuardianEntry) (db : GuardianDb)
    (call : GuardianCall) (h : SingleUseInvariant history db)
    (hmints : MintsWhenSpent ((guardian platform).entry db call)) :
    SingleUseInvariant (history ++ [(guardian platform).entry db call])
      ((guardian platform).step db call).2 := by
  have hrows := step_invariant platform
    (fun db' ↦ DistinctAuthorizations db' ∧
      KeepsConsumed db.authorizations db'.authorizations) db call
    (fun before after hmove hbefore ↦
      ⟨hmove.distinctAuthorizations hbefore.1, hbefore.2.trans (hmove.keepsConsumed hbefore.1)⟩)
    ⟨h.distinct, .refl _⟩
  refine ⟨hrows.1, ?_, ?_⟩
  · intro e he
    rcases List.mem_append.mp he with hearlier | hlast
    · exact (h.kept e hearlier).trans hrows.2
    · rw [List.mem_singleton.mp hlast]
      exact .refl _
  · intro hclock now hnow
    rw [List.map_append, List.map_singleton] at hclock
    obtain ⟨hhistory, hbefore⟩ := hclock.of_append
    have hcall : OneUsable call.clock.now db := by
      refine h.oneUsable hhistory call.clock.now fun e he ↦ ?_
      exact hbefore e.input (List.mem_map_of_mem he)
    have hlast : (guardian platform).entry db call ∈ history ++ [(guardian platform).entry db call] :=
      List.mem_append_right _ (List.mem_singleton.mpr rfl)
    exact OneUsable.mono (hnow _ hlast) (step_invariant platform (OneUsable call.clock.now) db call
      (fun before after hmove hone ↦ hmove.oneUsable hmints hone) hcall)

/-- In every run with a forward clock in which a token is minted only when every earlier token of
the same request is unused and expired, each exact request is consumed at most once. -/
theorem singleUse_of_mintsWhenSpent (platform : Platform) (calls : List GuardianCall)
    (hclock : ClockForward calls)
    (hmints : ∀ e ∈ (guardian platform).log {} calls, MintsWhenSpent e) :
    SingleUse ((guardian platform).log {} calls) := by
  have hstart : SingleUseInvariant [] {} :=
    ⟨List.nodup_nil, by simp, fun _ _ _ first hfirst ↦ by cases hfirst⟩
  have hinv := (guardian platform).history_invariant SingleUseInvariant MintsWhenSpent hstart
    (fun history db call h hadmitted ↦ singleUseInvariant_step history db call h hadmitted)
    calls hmints
  obtain ⟨now, hnow⟩ := (((guardian platform).log {} calls).map
    (fun e ↦ e.input.clock.now)).toFinset.exists_le
  have hone : OneUsable now ((guardian platform).run {} calls) := by
    refine hinv.oneUsable ?_ now fun e he ↦ hnow _ ?_
    · rwa [Machine.map_input_log]
    · exact List.mem_toFinset.mpr (List.mem_map_of_mem (f := fun e ↦ e.input.clock.now) he)
  intro e₁ he₁ e₂ he₂ first hfirst second hsecond hconsumed₁ hconsumed₂ hkey
  obtain ⟨kept₁, hkept₁, hid₁, hkey₁, hstatus₁⟩ := hinv.kept e₁ he₁ first hfirst hconsumed₁
  obtain ⟨kept₂, hkept₂, hid₂, hkey₂, hstatus₂⟩ := hinv.kept e₂ he₂ second hsecond hconsumed₂
  rw [← hid₁, ← hid₂]
  exact hone kept₁ hkept₁ kept₂ hkept₂ (hkey₁.trans (hkey.trans hkey₂.symm)) (Or.inl hstatus₁)
    (Or.inl hstatus₂)

/-- The first token runs out unused, the request is evaluated again and the second token is used. -/
def renewedRun : List GuardianCall :=
  [callAt (.evaluate sampleEvaluation) 0 (sampleIds 100),
    callAt (.evaluate sampleEvaluation) (seconds 300) (sampleIds 200),
    callAt (sampleConsume (sampleIds 200)) (seconds 310) (sampleIds 300)]

def renewedPlatform : Platform :=
  samplePlatform [sampleClaims 0 100 (sampleIds 100), sampleClaims (seconds 300) 100 (sampleIds 200)]

theorem singleUse_renewedRun :
    SingleUse ((guardian renewedPlatform).log {} renewedRun) ∧
      ((guardian renewedPlatform).run {} renewedRun).authorizations.map
        GuardianAuthorization.status = [.active, .consumed] :=
  ⟨singleUse_of_mintsWhenSpent renewedPlatform renewedRun (by decide) (by decide +kernel),
    by decide +kernel⟩

/-- The same live decision is asked for twice and both tokens are used. -/
def reissuedRun : List GuardianCall :=
  [callAt (.evaluate sampleEvaluation) 0 (sampleIds 100),
    callAt (.evaluate sampleEvaluation) (seconds 1) (sampleIds 200),
    callAt (sampleConsume (sampleIds 100)) (seconds 2) (sampleIds 300),
    callAt (sampleConsume (sampleIds 200)) (seconds 3) (sampleIds 400)]

def reissuedPlatform : Platform :=
  samplePlatform [sampleClaims 0 100 (sampleIds 100), sampleClaims (seconds 1) 100 (sampleIds 200)]

theorem reissuedRun_not_singleUse :
    ClockForward reissuedRun ∧ ¬ SingleUse ((guardian reissuedPlatform).log {} reissuedRun) := by
  decide +kernel

end Xyena.Guardian
