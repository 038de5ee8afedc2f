import Mathlib.Data.List.Basic

/-!
# Regular expressions with word boundaries

A backtracking search for an expression in a text. What an expression matches
depends on the text around it only through the characters next to it, and only
at word boundaries. `Matches` says what is matched, `ends` finds it in the order
in which a backtracking search tries it, and `search` finds the leftmost match.
-/

namespace Xyena.Foundation

/-- Expressions over character classes. A class is repeated as often as possible first, and the first one of
two alternatives is preferred. -/
inductive Regex where
  | empty
  | boundary
  | repeated (accepts : Char → Bool) (least : Nat) (most : Option Nat)
  | seq (first second : Regex)
  | alt (first second : Regex)

namespace Regex

def optional (expression : Regex) : Regex := .alt expression .empty

def sequence (parts : List Regex) : Regex := parts.foldr .seq .empty

/-- The first of the alternatives that matches. -/
def anyOf (first : Regex) (others : List Regex) : Regex := others.foldl .alt first

def one (accepts : Char → Bool) : Regex := .repeated accepts 1 (some 1)

section Search

variable (word : Char → Bool)

/-- Whether the next character is one of a word. -/
def atWord (chars : List Char) : Bool := chars.head?.any word

/-- The places where a repetition can end, with what stands before them, nearest first. -/
def repeats (accepts : Char → Bool) : Nat → Option Nat → List Char → List Char → List (List Char × List Char)
  | least, _, before, [] => if least = 0 then [(before, [])] else []
  | least, most, before, char :: rest =>
    (if accepts char && most != some 0 then
      repeats accepts (least - 1) (most.map (· - 1)) (char :: before) rest
    else []) ++
    if least = 0 then [(before, char :: rest)] else []

/-- The places where a match that begins here can end, in the order of preference. -/
def ends : Regex → List Char → List Char → List (List Char × List Char)
  | .empty, before, rest => [(before, rest)]
  | .boundary, before, rest => if atWord word before != atWord word rest then [(before, rest)] else []
  | .repeated accepts least most, before, rest => repeats accepts least most before rest
  | .seq first second, before, rest => (ends first before rest).flatMap fun place ↦ ends second place.1 place.2
  | .alt first second, before, rest => ends first before rest ++ ends second before rest

/-- The start and the end of the leftmost match behind a place. -/
def searchFrom (expression : Regex) : List Char → List Char → Option (Nat × Nat)
  | before, [] => (ends word expression before []).head?.map fun place ↦ (before.length, place.1.length)
  | before, char :: rest =>
    match (ends word expression before (char :: rest)).head? with
    | some place => some (before.length, place.1.length)
    | none => searchFrom expression (char :: before) rest

def search (expression : Regex) (text : List Char) : Option (Nat × Nat) := searchFrom word expression [] text

/-! ## What is matched -/

/-- The expression matches a text that stands between two others; the one before it is read backwards. -/
def Matches : Regex → List Char → List Char → List Char → Prop
  | .empty, _, matched, _ => matched = []
  | .boundary, before, matched, after => matched = [] ∧ atWord word before ≠ atWord word after
  | .repeated accepts least most, _, matched, _ =>
    (∀ char ∈ matched, accepts char = true) ∧ least ≤ matched.length ∧ ∀ bound ∈ most, matched.length ≤ bound
  | .seq first second, before, matched, after => ∃ left right, matched = left ++ right ∧
    Matches first before left (right ++ after) ∧ Matches second (left.reverse ++ before) right after
  | .alt first second, before, matched, after =>
    Matches first before matched after ∨ Matches second before matched after

/-- The expression matches somewhere in the text. -/
def Occurs (expression : Regex) (text : List Char) : Prop :=
  ∃ before matched after, text = before ++ matched ++ after ∧
    Matches word expression before.reverse matched after

end Search

section Spec

variable {word : Char → Bool} {accepts : Char → Bool}

theorem mem_repeats {least : Nat} {most : Option Nat} {before rest : List Char}
    {place : List Char × List Char} :
    place ∈ repeats accepts least most before rest ↔
      ∃ matched, rest = matched ++ place.2 ∧ place.1 = matched.reverse ++ before ∧
        (∀ char ∈ matched, accepts char = true) ∧ least ≤ matched.length ∧
          ∀ bound ∈ most, matched.length ≤ bound := by
  induction rest generalizing least most before with
  | nil =>
    rw [repeats]
    constructor
    · intro hmem
      split at hmem
      next hleast =>
        obtain rfl := List.mem_singleton.mp hmem
        exact ⟨[], rfl, rfl, by simp, Nat.le_of_eq hleast, by simp⟩
      · cases hmem
    · rintro ⟨matched, hrest, hbefore, -, hleast, -⟩
      obtain ⟨rfl, hplace⟩ := List.append_eq_nil_iff.mp hrest.symm
      rw [if_pos (Nat.le_zero.mp hleast), List.mem_singleton]
      exact Prod.ext hbefore hplace
  | cons char rest ih =>
    rw [repeats, List.mem_append]
    constructor
    · rintro (hmore | hstop)
      · split at hmore
        next hchar =>
          simp only [Bool.and_eq_true, bne_iff_ne] at hchar
          obtain ⟨matched, hrest, hbefore, haccepts, hleast, hmost⟩ := ih.mp hmore
          refine ⟨char :: matched, by rw [hrest]; rfl, by rw [hbefore]; simp,
            List.forall_mem_cons.mpr ⟨hchar.1, haccepts⟩, by rw [List.length_cons]; omega, ?_⟩
          rintro bound rfl
          have hbound := hmost (bound - 1) rfl
          have hpos : bound ≠ 0 := fun hzero ↦ hchar.2 (by rw [hzero])
          rw [List.length_cons]
          omega
        · cases hmore
      · split at hstop
        next hleast =>
          obtain rfl := List.mem_singleton.mp hstop
          exact ⟨[], rfl, rfl, by simp, Nat.le_of_eq hleast, by simp⟩
        · cases hstop
    · rintro ⟨matched, hrest, hbefore, haccepts, hleast, hmost⟩
      cases matched with
      | nil =>
        refine Or.inr ?_
        rw [if_pos (Nat.le_zero.mp hleast), List.mem_singleton]
        exact Prod.ext hbefore hrest.symm
      | cons first matched =>
        obtain ⟨rfl, htail⟩ := List.cons.inj hrest
        obtain ⟨hfirst, haccepts⟩ := List.forall_mem_cons.mp haccepts
        have hmost' : most ≠ some 0 := by
          rintro rfl
          exact absurd (hmost 0 rfl) (by simp)
        refine Or.inl ?_
        rw [if_pos (by simp [hfirst, hmost'])]
        refine ih.mpr ⟨matched, htail, by rw [hbefore]; simp, haccepts, ?_, ?_⟩
        · rw [List.length_cons] at hleast
          omega
        · intro bound hbound
          obtain ⟨limit, rfl, rfl⟩ := Option.map_eq_some_iff.mp hbound
          have hlimit := hmost limit rfl
          rw [List.length_cons] at hlimit
          omega

/-- The places that a search tries are the ends of the matches that begin here. -/
theorem mem_ends {expression : Regex} {before rest : List Char} {place : List Char × List Char} :
    place ∈ ends word expression before rest ↔
      ∃ matched, rest = matched ++ place.2 ∧ place.1 = matched.reverse ++ before ∧
        Matches word expression before matched place.2 := by
  induction expression generalizing before rest place with
  | empty =>
    rw [ends, List.mem_singleton]
    constructor
    · rintro rfl
      exact ⟨[], rfl, rfl, rfl⟩
    · rintro ⟨matched, hrest, hbefore, rfl⟩
      exact Prod.ext hbefore hrest.symm
  | boundary =>
    rw [ends]
    constructor
    · intro hmem
      split at hmem
      next hedge =>
        obtain rfl := List.mem_singleton.mp hmem
        exact ⟨[], rfl, rfl, rfl, bne_iff_ne.mp hedge⟩
      · cases hmem
    · rintro ⟨matched, hrest, hbefore, rfl, hedge⟩
      have hplace : place = (before, rest) := Prod.ext hbefore hrest.symm
      rw [hplace] at hedge ⊢
      rw [if_pos (bne_iff_ne.mpr hedge)]
      exact List.mem_singleton_self _
  | repeated accepts least most => exact mem_repeats
  | seq first second ihfirst ihsecond =>
    rw [ends, List.mem_flatMap]
    constructor
    · rintro ⟨middle, hmiddle, hplace⟩
      obtain ⟨left, hleft, hbefore, hfirst⟩ := ihfirst.mp hmiddle
      obtain ⟨right, hright, hend, hsecond⟩ := ihsecond.mp hplace
      refine ⟨left ++ right, by rw [hleft, hright, List.append_assoc], by rw [hend, hbefore]; simp,
        left, right, rfl, ?_, ?_⟩
      · rwa [← hright]
      · rwa [← hbefore]
    · rintro ⟨matched, hrest, hbefore, left, right, rfl, hfirst, hsecond⟩
      refine ⟨(left.reverse ++ before, right ++ place.2), ihfirst.mpr ⟨left, ?_, rfl, hfirst⟩,
        ihsecond.mpr ⟨right, rfl, ?_, hsecond⟩⟩
      · rw [hrest, List.append_assoc]
      · rw [hbefore]
        simp
  | alt first second ihfirst ihsecond =>
    rw [ends, List.mem_append, ihfirst, ihsecond]
    constructor
    · rintro (⟨matched, hrest, hbefore, h⟩ | ⟨matched, hrest, hbefore, h⟩)
      · exact ⟨matched, hrest, hbefore, Or.inl h⟩
      · exact ⟨matched, hrest, hbefore, Or.inr h⟩
    · rintro ⟨matched, hrest, hbefore, h | h⟩
      · exact Or.inl ⟨matched, hrest, hbefore, h⟩
      · exact Or.inr ⟨matched, hrest, hbefore, h⟩

theorem ends_ne_nil {expression : Regex} {before rest : List Char} :
    ends word expression before rest ≠ [] ↔
      ∃ matched after, rest = matched ++ after ∧ Matches word expression before matched after := by
  constructor
  · intro h
    obtain ⟨place, hplace⟩ := List.exists_mem_of_ne_nil _ h
    obtain ⟨matched, hrest, -, hmatched⟩ := mem_ends.mp hplace
    exact ⟨matched, place.2, hrest, hmatched⟩
  · rintro ⟨matched, after, hrest, hmatched⟩
    exact List.ne_nil_of_mem (mem_ends.mpr ⟨matched, hrest, rfl, hmatched⟩ :
      (matched.reverse ++ before, after) ∈ ends word expression before rest)

theorem searchFrom_isSome {expression : Regex} {before text : List Char} :
    (searchFrom word expression before text).isSome = true ↔
      ∃ skipped matched after, text = skipped ++ matched ++ after ∧
        Matches word expression (skipped.reverse ++ before) matched after := by
  induction text generalizing before with
  | nil =>
    rw [searchFrom, Option.isSome_map, List.isSome_head?, ends_ne_nil]
    constructor
    · rintro ⟨matched, after, htext, hmatched⟩
      exact ⟨[], matched, after, htext, hmatched⟩
    · rintro ⟨skipped, matched, after, htext, hmatched⟩
      obtain ⟨hleft, rfl⟩ := List.append_eq_nil_iff.mp htext.symm
      obtain ⟨rfl, rfl⟩ := List.append_eq_nil_iff.mp hleft
      exact ⟨[], [], rfl, hmatched⟩
  | cons char rest ih =>
    rw [searchFrom]
    cases hends : (ends word expression before (char :: rest)).head? with
    | some place =>
      obtain ⟨matched, after, htext, hmatched⟩ := ends_ne_nil.mp (List.ne_nil_of_mem (List.mem_of_head? hends))
      exact iff_of_true rfl ⟨[], matched, after, htext, hmatched⟩
    | none =>
      have hnone : ends word expression before (char :: rest) = [] := List.head?_eq_none_iff.mp hends
      simp only [ih]
      constructor
      · rintro ⟨skipped, matched, after, rfl, hmatched⟩
        exact ⟨char :: skipped, matched, after, rfl, by simpa using hmatched⟩
      · rintro ⟨skipped, matched, after, htext, hmatched⟩
        cases skipped with
        | nil => exact absurd hnone (ends_ne_nil.mpr ⟨matched, after, htext, hmatched⟩)
        | cons first skipped =>
          obtain ⟨rfl, rfl⟩ := List.cons.inj htext
          exact ⟨skipped, matched, after, rfl, by simpa using hmatched⟩

/-- A search finds the expressions that occur. -/
theorem search_isSome_iff {expression : Regex} {text : List Char} :
    (search word expression text).isSome = true ↔ Occurs word expression text := by
  rw [search, searchFrom_isSome]
  simp only [List.append_nil]
  rfl

/-- The classes of the expression accept nothing else. -/
def Within (accepted : Char → Bool) : Regex → Prop
  | .empty => True
  | .boundary => True
  | .repeated accepts _ _ => ∀ char, accepts char = true → accepted char = true
  | .seq first second => Within accepted first ∧ Within accepted second
  | .alt first second => Within accepted first ∧ Within accepted second

theorem Matches.within {accepted : Char → Bool} {expression : Regex} {before matched after : List Char}
    (h : Matches word expression before matched after) (hwithin : expression.Within accepted) :
    ∀ char ∈ matched, accepted char = true := by
  induction expression generalizing before matched after with
  | empty =>
    obtain rfl : matched = [] := h
    exact fun _ hchar ↦ absurd hchar List.not_mem_nil
  | boundary =>
    obtain ⟨rfl, -⟩ := h
    exact fun _ hchar ↦ absurd hchar List.not_mem_nil
  | repeated accepts least most => exact fun char hchar ↦ hwithin char (h.1 char hchar)
  | seq first second ihfirst ihsecond =>
    obtain ⟨left, right, rfl, hfirst, hsecond⟩ := h
    intro char hchar
    rcases List.mem_append.mp hchar with hleft | hright
    · exact ihfirst hfirst hwithin.1 char hleft
    · exact ihsecond hsecond hwithin.2 char hright
  | alt first second ihfirst ihsecond =>
    rcases h with hfirst | hsecond
    · exact ihfirst hfirst hwithin.1
    · exact ihsecond hsecond hwithin.2

/-! ## The characters next to a match -/

theorem atWord_append {first second : List Char} (chars : List Char)
    (h : atWord word first = atWord word second) :
    atWord word (chars ++ first) = atWord word (chars ++ second) := by
  cases chars with
  | nil => exact h
  | cons char chars => rfl

/-- A match depends on the text around it only through the words that it touches. -/
theorem Matches.congr {expression : Regex} {before before' matched after after' : List Char}
    (h : Matches word expression before matched after) (hbefore : atWord word before' = atWord word before)
    (hafter : atWord word after' = atWord word after) : Matches word expression before' matched after' := by
  induction expression generalizing before before' matched after after' with
  | empty => exact h
  | boundary => exact ⟨h.1, by rw [hbefore, hafter]; exact h.2⟩
  | repeated accepts least most => exact h
  | seq first second ihfirst ihsecond =>
    obtain ⟨left, right, hmatched, hfirst, hsecond⟩ := h
    exact ⟨left, right, hmatched, ihfirst hfirst hbefore (atWord_append right hafter),
      ihsecond hsecond (atWord_append left.reverse hbefore) hafter⟩
  | alt first second ihfirst ihsecond =>
    exact h.imp (fun h ↦ ihfirst h hbefore hafter) (fun h ↦ ihsecond h hbefore hafter)

/-- A match that does not end with a word at the end of a text is one whatever follows the text. -/
theorem Matches.extend {expression : Regex} {before matched after after' : List Char}
    (h : Matches word expression before matched after) (hlast : atWord word (matched.reverse ++ before) = false)
    (hafter : atWord word after = false) : Matches word expression before matched after' := by
  induction expression generalizing before matched after after' with
  | empty => exact h
  | boundary =>
    obtain ⟨rfl, hedge⟩ := h
    exact absurd (hlast.trans hafter.symm) hedge
  | repeated accepts least most => exact h
  | seq first second ihfirst ihsecond =>
    obtain ⟨left, right, rfl, hfirst, hsecond⟩ := h
    rw [List.reverse_append, List.append_assoc] at hlast
    refine ⟨left, right, rfl, ?_, ihsecond hsecond hlast hafter⟩
    cases right with
    | nil => exact ihfirst hfirst hlast hafter
    | cons char right => exact hfirst.congr rfl rfl
  | alt first second ihfirst ihsecond =>
    exact h.imp (fun h ↦ ihfirst h hlast hafter) (fun h ↦ ihsecond h hlast hafter)

end Spec

end Regex

end Xyena.Foundation
