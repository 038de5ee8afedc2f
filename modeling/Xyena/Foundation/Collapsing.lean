import Xyena.Foundation.Regex

/-!
# Runs of blanks

`collapse` replaces every run of blanks of a text by one mark, as a substitution
of `[ \t]+` by a space does. The text that remains shows the original one piece
by piece: a passage of it stands for a passage of the original, and a match in
it is a match in the original unless a bounded repetition has run over blanks
that were collapsed.
-/

namespace Xyena.Foundation

/-- Replace every run of blanks by one mark; `inside` says whether a run has begun. -/
def collapseFrom (blank : Char → Bool) (mark : Char) : Bool → List Char → List Char
  | _, [] => []
  | inside, char :: rest =>
    if blank char then
      if inside then collapseFrom blank mark true rest else mark :: collapseFrom blank mark true rest
    else char :: collapseFrom blank mark false rest

def collapse (blank : Char → Bool) (mark : Char) (text : List Char) : List Char :=
  collapseFrom blank mark false text

/-- A text shows another one: some runs of blanks are one mark in it. -/
inductive Shows (blank : Char → Bool) (mark : Char) : List Char → List Char → Prop
  | nil : Shows blank mark [] []
  | kept {char : Char} {raw shown : List Char} (hchar : blank char = false)
      (hrest : Shows blank mark raw shown) :
      Shows blank mark (char :: raw) (char :: shown)
  | run {blanks raw shown : List Char} (hsome : blanks ≠ []) (hblank : ∀ char ∈ blanks, blank char = true)
      (hrest : Shows blank mark raw shown) : Shows blank mark (blanks ++ raw) (mark :: shown)

section Shows

variable {blank : Char → Bool} {mark : Char}

theorem collapseFrom_shows (text : List Char) :
    Shows blank mark text (collapseFrom blank mark false text) ∧
      ∃ blanks raw, text = blanks ++ raw ∧ (∀ char ∈ blanks, blank char = true) ∧
        Shows blank mark raw (collapseFrom blank mark true text) := by
  induction text with
  | nil => exact ⟨.nil, [], [], rfl, by simp, .nil⟩
  | cons char rest ih =>
    obtain ⟨hshows, blanks, raw, rfl, hblanks, hraw⟩ := ih
    cases hchar : blank char with
    | false =>
      simp only [collapseFrom, hchar, Bool.false_eq_true, if_false]
      exact ⟨.kept hchar hshows, [], _, rfl, by simp, .kept hchar hshows⟩
    | true =>
      simp only [collapseFrom, hchar, if_true, Bool.false_eq_true, if_false]
      have hrun : ∀ other ∈ char :: blanks, blank other = true := List.forall_mem_cons.mpr ⟨hchar, hblanks⟩
      exact ⟨.run (List.cons_ne_nil _ _) hrun hraw, char :: blanks, raw, rfl, hrun, hraw⟩

theorem collapse_shows (text : List Char) : Shows blank mark text (collapse blank mark text) :=
  (collapseFrom_shows text).1

namespace Shows

/-- The passages of a text that shows another one stand for passages of it. -/
theorem split {raw first second : List Char} (h : Shows blank mark raw (first ++ second)) :
    ∃ left right, raw = left ++ right ∧ Shows blank mark left first ∧ Shows blank mark right second := by
  induction first generalizing raw with
  | nil => exact ⟨[], raw, rfl, .nil, h⟩
  | cons char first ih =>
    cases h with
    | kept hchar hrest =>
      obtain ⟨left, right, rfl, hleft, hright⟩ := ih hrest
      exact ⟨char :: left, right, rfl, .kept hchar hleft, hright⟩
    | run hsome hblank hrest =>
      obtain ⟨left, right, rfl, hleft, hright⟩ := ih hrest
      exact ⟨_, right, (List.append_assoc _ _ _).symm, .run hsome hblank hleft, hright⟩

theorem length_le {raw shown : List Char} (h : Shows blank mark raw shown) : shown.length ≤ raw.length := by
  induction h with
  | nil => exact Nat.le_refl _
  | kept _ _ ih => exact Nat.succ_le_succ ih
  | run hsome _ _ ih =>
    have hpos := List.length_pos_iff.mpr hsome
    rw [List.length_cons, List.length_append]
    omega

section Words

variable {word : Char → Bool} (hmark : blank mark = true)
  (hword : ∀ char, blank char = true → word char = false)
include hmark hword

theorem atWord_front {raw shown : List Char} (h : Shows blank mark raw shown) {behind behind' : List Char}
    (hbehind : Regex.atWord word behind = Regex.atWord word behind') :
    Regex.atWord word (raw ++ behind) = Regex.atWord word (shown ++ behind') := by
  cases h with
  | nil => exact hbehind
  | kept => rfl
  | run hsome hblank _ =>
    obtain ⟨char, blanks, rfl⟩ := List.exists_cons_of_ne_nil hsome
    exact (hword char (hblank char List.mem_cons_self)).trans (hword mark hmark).symm

theorem atWord_back {raw shown : List Char} (h : Shows blank mark raw shown) {before before' : List Char}
    (hbefore : Regex.atWord word before = Regex.atWord word before') :
    Regex.atWord word (raw.reverse ++ before) = Regex.atWord word (shown.reverse ++ before') := by
  induction h generalizing before before' with
  | nil => exact hbefore
  | kept _ _ ih =>
    rw [List.reverse_cons, List.reverse_cons, List.append_assoc, List.append_assoc]
    exact ih rfl
  | run hsome hblank _ ih =>
    rw [List.reverse_append, List.reverse_cons, List.append_assoc, List.append_assoc]
    refine ih ?_
    obtain ⟨char, blanks, hrun⟩ := List.exists_cons_of_ne_nil (List.reverse_ne_nil_iff.mpr hsome)
    have hmem : char ∈ List.reverse _ := hrun ▸ List.mem_cons_self
    rw [hrun]
    exact (hword char (hblank char (List.mem_reverse.mp hmem))).trans (hword mark hmark).symm

end Words

theorem forall_accepted {raw shown : List Char} (h : Shows blank mark raw shown) {accepts : Char → Bool}
    (hblank : accepts mark = true → ∀ char, blank char = true → accepts char = true)
    (hshown : ∀ char ∈ shown, accepts char = true) : ∀ char ∈ raw, accepts char = true := by
  induction h with
  | nil => exact hshown
  | kept _ _ ih =>
    obtain ⟨hchar, hrest⟩ := List.forall_mem_cons.mp hshown
    exact List.forall_mem_cons.mpr ⟨hchar, ih hrest⟩
  | run _ hrun _ ih =>
    obtain ⟨hmark, hrest⟩ := List.forall_mem_cons.mp hshown
    exact List.forall_mem_append.mpr ⟨fun char hchar ↦ hblank hmark char (hrun char hchar), ih hrest⟩

theorem eq_of_forall_ne_mark {raw shown : List Char} (h : Shows blank mark raw shown)
    (hshown : ∀ char ∈ shown, char ≠ mark) : raw = shown := by
  induction h with
  | nil => rfl
  | kept _ _ ih => rw [ih (List.forall_mem_cons.mp hshown).2]
  | run _ _ _ _ => exact absurd rfl (List.forall_mem_cons.mp hshown).1

end Shows

end Shows

/-! ## Matches in a collapsed text -/

namespace Regex

/-- Classes that accept the mark accept every blank. -/
def Blankwise (blank : Char → Bool) (mark : Char) : Regex → Prop
  | .empty => True
  | .boundary => True
  | .repeated accepts _ _ => accepts mark = true → ∀ char, blank char = true → accepts char = true
  | .seq first second => first.Blankwise blank mark ∧ second.Blankwise blank mark
  | .alt first second => first.Blankwise blank mark ∧ second.Blankwise blank mark

/-- Whether a repetition of the expression may run over marks and is bounded. -/
def gapped (mark : Char) : Regex → Bool
  | .empty => false
  | .boundary => false
  | .repeated accepts _ most => accepts mark && most.isSome
  | .seq first second => first.gapped mark || second.gapped mark
  | .alt first second => first.gapped mark || second.gapped mark

/-- What matches in a text that shows another one matches in that one, when no bounded repetition has run
over collapsed blanks. -/
theorem Matches.raw {word blank : Char → Bool} {mark : Char} (hmark : blank mark = true)
    (hword : ∀ char, blank char = true → word char = false) {expression : Regex}
    (hblankwise : expression.Blankwise blank mark) {before before' raw shown after after' : List Char}
    (h : Matches word expression before shown after) (hshows : Shows blank mark raw shown)
    (hbefore : atWord word before' = atWord word before) (hafter : atWord word after' = atWord word after)
    (hsize : expression.gapped mark = false ∨ raw.length = shown.length) :
    Matches word expression before' raw after' := by
  induction expression generalizing before before' raw shown after after' with
  | empty =>
    obtain rfl : shown = [] := h
    cases hshows
    rfl
  | boundary =>
    obtain ⟨rfl, hedge⟩ := h
    cases hshows
    exact ⟨rfl, by rw [hbefore, hafter]; exact hedge⟩
  | repeated accepts least most =>
    obtain ⟨haccepts, hleast, hmost⟩ := h
    refine ⟨hshows.forall_accepted hblankwise haccepts, Nat.le_trans hleast hshows.length_le,
      fun bound hbound ↦ ?_⟩
    have hlength : raw.length = shown.length := by
      rcases hsize with hgap | hlength
      · -- the class does not accept the mark, so nothing was collapsed
        have hrefused : accepts mark = false := by
          cases hbound
          rw [gapped, Option.isSome_some, Bool.and_true] at hgap
          exact hgap
        rw [hshows.eq_of_forall_ne_mark]
        rintro char hchar rfl
        rw [haccepts char hchar] at hrefused
        cases hrefused
      · exact hlength
    rw [hlength]
    exact hmost bound hbound
  | seq first second ihfirst ihsecond =>
    obtain ⟨left, right, rfl, hfirst, hsecond⟩ := h
    obtain ⟨rawLeft, rawRight, rfl, hleft, hright⟩ := hshows.split
    have hsizes : (first.gapped mark = false ∨ rawLeft.length = left.length) ∧
        (second.gapped mark = false ∨ rawRight.length = right.length) := by
      rcases hsize with hgap | hlength
      · obtain ⟨hgap, hgap'⟩ := Bool.or_eq_false_iff.mp hgap
        exact ⟨Or.inl hgap, Or.inl hgap'⟩
      · have hle := hleft.length_le
        have hle' := hright.length_le
        rw [List.length_append, List.length_append] at hlength
        exact ⟨Or.inr (by omega), Or.inr (by omega)⟩
    exact ⟨rawLeft, rawRight, rfl,
      ihfirst hblankwise.1 hfirst hleft hbefore (hright.atWord_front hmark hword hafter) hsizes.1,
      ihsecond hblankwise.2 hsecond hright (hleft.atWord_back hmark hword hbefore) hafter hsizes.2⟩
  | alt first second ihfirst ihsecond =>
    have hgaps : (first.gapped mark = false ∧ second.gapped mark = false) ∨ raw.length = shown.length :=
      hsize.imp Bool.or_eq_false_iff.mp id
    exact h.imp
      (fun h ↦ ihfirst hblankwise.1 h hshows hbefore hafter (hgaps.imp And.left id))
      (fun h ↦ ihsecond hblankwise.2 h hshows hbefore hafter (hgaps.imp And.right id))

end Regex

end Xyena.Foundation
