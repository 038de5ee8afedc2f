import Mathlib.Data.List.Basic
import Mathlib.Data.List.Nodup

/-!
# Chains of digests

The rows of a log are numbered from 1 and each of them carries the digest of the
row before it. When the digest of a row is taken of its position, of the digest
before it and of its content, the last digest of a log commits to the whole log.
-/

namespace Xyena.Foundation

/-- The columns that link the rows of a log, and the digest that a row should have. -/
structure Links (Row Digest : Type*) where
  position : Row → Int
  previous : Row → Option Digest
  digest : Row → Digest
  expected : Row → Digest

namespace Links

variable {Row Digest : Type*} (links : Links Row Digest)

/-- The rows of a chain that goes on after a number of rows, the last of which has the digest
`previous`. -/
def Chained (count : Int) (previous : Option Digest) : List Row → Prop
  | [] => True
  | row :: rest =>
    links.position row = count + 1 ∧ links.previous row = previous ∧
      links.digest row = links.expected row ∧ Chained (count + 1) (some (links.digest row)) rest

/-- The digest of the last row, or the one that the rows go on from. -/
def head (previous : Option Digest) : List Row → Option Digest
  | [] => previous
  | row :: rest => head (some (links.digest row)) rest

/-- The parts of a chain: positions, links and digests, row by row. -/
structure Intact (rows : List Row) : Prop where
  positions : ∀ index (h : index < rows.length), links.position rows[index] = index + 1
  first : ∀ row ∈ rows.head?, links.previous row = none
  linked : ∀ index (h : index + 1 < rows.length),
    links.previous rows[index + 1] = some (links.digest rows[index])
  sealed : ∀ row ∈ rows, links.digest row = links.expected row

variable {links} {count : Int} {previous : Option Digest} {rows : List Row}

theorem head_append (rows : List Row) (row : Row) :
    links.head previous (rows ++ [row]) = some (links.digest row) := by
  induction rows generalizing previous with
  | nil => rfl
  | cons first rest ih => exact ih

theorem head_eq_getLast? (rows : List Row) :
    links.head none rows = rows.getLast?.map links.digest := by
  rcases List.eq_nil_or_concat rows with rfl | ⟨earlier, last, rfl⟩
  · rfl
  · rw [List.concat_eq_append, head_append, List.getLast?_concat]
    rfl

/-- A chain is continued by a row that is linked to its last one. -/
theorem chained_append {row : Row} (h : links.Chained count previous rows)
    (hposition : links.position row = count + rows.length + 1)
    (hprevious : links.previous row = links.head previous rows)
    (hseal : links.digest row = links.expected row) :
    links.Chained count previous (rows ++ [row]) := by
  induction rows generalizing count previous with
  | nil =>
    refine ⟨?_, hprevious, hseal, trivial⟩
    simpa using hposition
  | cons first rest ih =>
    obtain ⟨hfirst, hlink, hsealed, hrest⟩ := h
    refine ⟨hfirst, hlink, hsealed, ih hrest ?_ hprevious⟩
    rw [hposition, List.length_cons]
    push_cast
    omega

theorem Chained.positions (h : links.Chained count previous rows) (index : Nat)
    (hindex : index < rows.length) : links.position rows[index] = count + index + 1 := by
  induction rows generalizing count previous index with
  | nil => cases hindex
  | cons row rest ih =>
    obtain ⟨hrow, -, -, hrest⟩ := h
    cases index with
    | zero => simpa using hrow
    | succ index =>
      have hnext := ih hrest index (Nat.lt_of_succ_lt_succ hindex)
      rw [List.getElem_cons_succ, hnext]
      push_cast
      omega

theorem Chained.linked (h : links.Chained count previous rows) (index : Nat)
    (hindex : index + 1 < rows.length) :
    links.previous rows[index + 1] = some (links.digest rows[index]) := by
  induction rows generalizing count previous index with
  | nil => cases hindex
  | cons row rest ih =>
    obtain ⟨-, -, -, hrest⟩ := h
    cases index with
    | zero =>
      cases rest with
      | nil => simp at hindex
      | cons next rest => exact hrest.2.1
    | succ index => exact ih hrest index (Nat.lt_of_succ_lt_succ hindex)

theorem Chained.sealed (h : links.Chained count previous rows) :
    ∀ row ∈ rows, links.digest row = links.expected row := by
  induction rows generalizing count previous with
  | nil => nofun
  | cons first rest ih =>
    obtain ⟨-, -, hseal, hrest⟩ := h
    exact List.forall_mem_cons.mpr ⟨hseal, ih hrest⟩

/-- A chain from the start is intact. -/
theorem Chained.intact (h : links.Chained 0 none rows) : links.Intact rows where
  positions index hindex := by
    have hposition := h.positions index hindex
    omega
  first := by
    cases rows with
    | nil => nofun
    | cons row rest =>
      intro other hother
      obtain rfl := Option.some.inj hother
      exact h.2.1
  linked := h.linked
  sealed := h.sealed

/-- Two chains of one length that end in one digest are equal in whatever the digest of a row commits
to, and they start from one digest. -/
theorem commit {Agree : Row → Row → Prop} (Good : Row → Prop)
    (hseal : ∀ first second, Good first → Good second → links.expected first = links.expected second →
      links.previous first = links.previous second ∧ Agree first second)
    {first second : List Row} {before before' : Option Digest} {count' : Int}
    (hfirst : links.Chained count before first) (hsecond : links.Chained count' before' second)
    (hgood : ∀ row ∈ first, Good row) (hgood' : ∀ row ∈ second, Good row)
    (hlength : first.length = second.length)
    (hhead : links.head before first = links.head before' second) :
    before = before' ∧ List.Forall₂ Agree first second := by
  induction first generalizing second before before' count count' with
  | nil =>
    obtain rfl : second = [] := List.length_eq_zero_iff.mp hlength.symm
    exact ⟨hhead, .nil⟩
  | cons row rest ih =>
    cases second with
    | nil => cases hlength
    | cons other rest' =>
      obtain ⟨-, hlink, hsealed, hrest⟩ := hfirst
      obtain ⟨-, hlink', hsealed', hrest'⟩ := hsecond
      obtain ⟨hdigest, hagree⟩ := ih hrest hrest' (List.forall_mem_cons.mp hgood).2
        (List.forall_mem_cons.mp hgood').2 (Nat.succ.inj hlength) hhead
      -- the digests of the two rows agree, so their content does
      have hsame : links.expected row = links.expected other := by
        rw [← hsealed, ← hsealed']
        exact Option.some.inj hdigest
      obtain ⟨hprevious, hrow⟩ := hseal row other (hgood row List.mem_cons_self)
        (hgood' other List.mem_cons_self) hsame
      exact ⟨hlink ▸ hlink' ▸ hprevious, .cons hrow hagree⟩

end Links

end Xyena.Foundation
