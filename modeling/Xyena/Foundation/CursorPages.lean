import Xyena.Foundation.OrderBy

/-!
# Reading a table page by page

A reader asks for the rows behind a cursor, some at a time, and goes on at the last
row of a page as long as there is more. Rows are added to the table meanwhile, with
ever larger stamps. What the reader has is what lies between its cursors: no row
twice, and none left out.
-/

namespace Xyena.Foundation.CursorPages

open Table

variable {Row : Type*}

structure CursorPage (Row : Type*) where
  items : List Row
  nextCursor : Option Int
  hasMore : Bool

/-- One page: a row more than are shown is read, to know whether there is more. -/
def page (stamp : Row → Int) (rows : List Row) (after : Int) (limit : Nat) : CursorPage Row :=
  let found := (orderBy stamp (rows.filter fun row ↦ after < stamp row)).take (limit + 1)
  let selected := found.take limit
  let hasMore : Bool := limit < found.length
  { items := selected
    nextCursor := if hasMore then selected.getLast?.map stamp else none
    hasMore := hasMore }

/-- What a reader has: the rows of its pages, the cursor to go on from unless it is done, and the table as
it was at the last page. -/
structure Reading (Row : Type*) where
  items : List Row
  cursor : Option Int
  rows : List Row

/-- What a reader has, with the page before. -/
def Reading.behind (items : List Row) (reading : Reading Row) : Reading Row :=
  { reading with items := items ++ reading.items }

/-- A reader that goes on from a cursor, with the table as each of its pages finds it. -/
def follow (stamp : Row → Int) (rows : List Row) (after : Int) : List (List Row × Nat) → Reading Row
  | [] => ⟨[], some after, rows⟩
  | (found, limit) :: rest =>
    match (page stamp found after limit).nextCursor with
    | none => ⟨(page stamp found after limit).items, none, found⟩
    | some cursor => (follow stamp found cursor rest).behind (page stamp found after limit).items

/-- Each table has grown from the one before. -/
def Growing (rows : List Row) : List (List Row × Nat) → Prop
  | [] => True
  | (found, _) :: rest => rows <+: found ∧ Growing found rest

/-- The rows between two cursors. Without the second one, all rows behind the first one. -/
def between (stamp : Row → Int) (after : Int) (cursor : Option Int) (rows : List Row) : List Row :=
  rows.filter fun row ↦ after < stamp row && cursor.all fun last ↦ stamp row ≤ last

section Between

variable {stamp : Row → Int} {rows : List Row} {after last : Int}

/-- A table in the order of its stamps is cut in two at a stamp. -/
theorem filter_split (h : Increasing stamp rows) (selected : Row → Bool) (cut : Int) :
    rows.filter selected = (rows.filter fun row ↦ selected row && stamp row ≤ cut) ++
      rows.filter fun row ↦ selected row && cut < stamp row := by
  induction rows with
  | nil => rfl
  | cons row rest ih =>
    obtain ⟨hrow, hrest⟩ := List.pairwise_cons.mp h
    have htail := ih hrest
    by_cases hcut : stamp row ≤ cut
    · have hnot : ¬cut < stamp row := not_lt.mpr hcut
      cases hselected : selected row <;> simp [hselected, hcut, hnot, htail]
    · have hlt : cut < stamp row := not_le.mp hcut
      have hnone : (rest.filter fun row ↦ selected row && stamp row ≤ cut) = [] := by
        refine List.filter_eq_nil_iff.mpr fun other hother ↦ ?_
        have hlarge : ¬stamp other ≤ cut := not_le.mpr (hlt.trans (hrow other hother))
        simp [hlarge]
      rw [hnone, List.nil_append] at htail
      cases hselected : selected row <;> simp [hselected, hcut, hlt, htail, hnone]

/-- The rows up to a cursor and the rows from there on. -/
theorem between_append (h : Increasing stamp rows) (hle : after ≤ last) {cursor : Option Int}
    (hcursor : ∀ final ∈ cursor, last ≤ final) :
    between stamp after (some last) rows ++ between stamp last cursor rows = between stamp after cursor
      rows := by
  have hsplit := filter_split h (fun row ↦ after < stamp row && cursor.all fun last ↦ stamp row ≤ last) last
  rw [between, between, between, hsplit]
  congr 1
  · refine List.filter_congr fun row _ ↦ ?_
    by_cases hrow : stamp row ≤ last
    · have hall : (cursor.all fun last ↦ decide (stamp row ≤ last)) = true := by
        cases cursor with
        | none => rfl
        | some final => exact decide_eq_true (hrow.trans (hcursor final rfl))
      simp [hrow, hall]
    · simp [hrow]
  · refine List.filter_congr fun row _ ↦ ?_
    by_cases hrow : last < stamp row
    · simp [hrow, hle.trans_lt hrow]
    · simp [hrow]

/-- Rows that are added later lie behind a cursor that still has a row behind it. -/
theorem between_of_prefix {later : List Row} (hgrown : rows <+: later) (h : Increasing stamp later)
    {row : Row}
    (hrow : row ∈ rows) (hlast : last < stamp row) :
    between stamp after (some last) later = between stamp after (some last) rows := by
  obtain ⟨added, rfl⟩ := hgrown
  have hnone : between stamp after (some last) added = [] := by
    refine List.filter_eq_nil_iff.mpr fun other hother ↦ ?_
    have hlt : last < stamp other := hlast.trans ((List.pairwise_append.mp h).2.2 row hrow other hother)
    simp [not_le.mpr hlt]
  rw [between] at hnone
  rw [between, List.filter_append, hnone, List.append_nil, between]

/-- From before all rows on, a reader has the beginning of the table. -/
theorem between_start (h : Increasing stamp rows) (hbehind : ∀ row ∈ rows, after < stamp row)
    (cursor : Option Int) :
    between stamp after cursor rows <+: rows ∧ (cursor = none → between stamp after cursor rows = rows) := by
  have hall : between stamp after none rows = rows :=
    List.filter_eq_self.mpr fun row hrow ↦ by simpa using hbehind row hrow
  cases cursor with
  | none =>
    rw [hall]
    exact ⟨List.prefix_rfl, fun _ ↦ rfl⟩
  | some last =>
    refine ⟨⟨rows.filter fun row ↦ after < stamp row && last < stamp row, ?_⟩, by simp⟩
    have hsplit := filter_split h (fun row ↦ after < stamp row) last
    simp only [between, Option.all_none, Bool.and_true] at hall
    rw [hall] at hsplit
    exact hsplit.symm

end Between

section Pages

variable {stamp : Row → Int} {rows : List Row} {after : Int} {limit : Nat}

/-- A page with nothing behind it has everything behind its cursor. -/
theorem page_last (h : Increasing stamp rows) (hnone : (page stamp rows after limit).nextCursor = none)
    (hlimit : 0 < limit) : (page stamp rows after limit).items = between stamp after none rows := by
  have hsorted := (h.filter fun row ↦ after < stamp row).orderBy_eq
  simp only [page, hsorted, List.length_take] at hnone ⊢
  have hfew : (rows.filter fun row ↦ after < stamp row).length ≤ limit := by
    by_contra hmany
    rw [if_pos (by simpa using hmany), Option.map_eq_none_iff, List.getLast?_eq_none_iff] at hnone
    have hlength := congrArg List.length hnone
    simp only [List.length_take, List.length_nil] at hlength
    omega
  rw [List.take_take, List.take_of_length_le (by omega), between]
  simp

/-- A page that is not the last one has the rows up to its cursor, and a row lies behind it. -/
theorem page_more (h : Increasing stamp rows) {cursor : Int}
    (hcursor : (page stamp rows after limit).nextCursor = some cursor) :
    (page stamp rows after limit).items = between stamp after (some cursor) rows ∧ after ≤ cursor ∧
      ∃ row ∈ rows, cursor < stamp row := by
  have hincreasing := h.filter fun row ↦ after < stamp row
  have hsorted := hincreasing.orderBy_eq
  simp only [page, hsorted, List.take_take] at hcursor ⊢
  generalize hbehind : (rows.filter fun row ↦ after < stamp row) = behind at hcursor hincreasing ⊢
  rw [Option.ite_none_right_eq_some] at hcursor
  obtain ⟨hmore, hlast⟩ := hcursor
  have hmany : limit < behind.length := by simpa using hmore
  rw [min_eq_left (Nat.le_succ limit)] at hlast ⊢
  obtain ⟨final, hfinal, rfl⟩ := Option.map_eq_some_iff.mp hlast
  have hmem : final ∈ behind.take limit := List.mem_of_getLast? hfinal
  have hsplit := List.take_append_drop limit behind
  -- Everything on the page is at most the last row of it, and everything behind it is larger.
  have hordered := hincreasing
  rw [← hsplit] at hordered
  obtain ⟨hpage, -, hbeyond⟩ := List.pairwise_append.mp hordered
  have hmost : ∀ row ∈ behind.take limit, stamp row ≤ stamp final := by
    intro row hrow
    obtain ⟨init, hinit⟩ := List.getLast?_eq_some_iff.mp hfinal
    rw [hinit] at hrow hpage
    rcases List.mem_append.mp hrow with hbefore | hsame
    · exact Int.le_of_lt ((List.pairwise_append.mp hpage).2.2 row hbefore final (List.mem_singleton.mpr rfl))
    · rw [List.mem_singleton.mp hsame]
  have hbehindFinal : between stamp after (some (stamp final)) rows = behind.filter fun row ↦
      stamp row ≤ stamp final := by
    rw [← hbehind, List.filter_filter, between]
    refine List.filter_congr fun row _ ↦ ?_
    simp [Bool.and_comm]
  have hnext : ∃ row ∈ behind.drop limit, stamp final < stamp row := by
    cases hdrop : behind.drop limit with
    | nil =>
      rw [List.drop_eq_nil_iff] at hdrop
      omega
    | cons row rest => exact ⟨row, List.mem_cons_self, hbeyond final hmem row (hdrop ▸ List.mem_cons_self)⟩
  refine ⟨?_, ?_, ?_⟩
  · rw [hbehindFinal]
    conv_rhs => rw [← hsplit]
    rw [List.filter_append, List.filter_eq_self.mpr (by simpa using hmost), List.filter_eq_nil_iff.mpr,
      List.append_nil]
    intro row hrow
    simpa using hbeyond final hmem row hrow
  · have hfinalBehind : final ∈ behind := List.mem_of_mem_take hmem
    rw [← hbehind] at hfinalBehind
    exact Int.le_of_lt (by simpa using (List.mem_filter.mp hfinalBehind).2)
  · obtain ⟨row, hrow, hlt⟩ := hnext
    have hrowBehind : row ∈ behind := List.mem_of_mem_drop hrow
    rw [← hbehind] at hrowBehind
    exact ⟨row, (List.mem_filter.mp hrowBehind).1, hlt⟩

end Pages

section Follow

variable {stamp : Row → Int}

/-- The reader stops at a table that has grown from the first one, and not before its cursor. -/
theorem follow_grown {rows : List Row} (after : Int) {reads : List (List Row × Nat)}
    (hgrowing : Growing rows reads)
    (hrows : Increasing stamp rows) (hsorted : ∀ read ∈ reads, Increasing stamp read.1) :
    rows <+: (follow stamp rows after reads).rows ∧ Increasing stamp (follow stamp rows after reads).rows ∧
      ∀ cursor ∈ (follow stamp rows after reads).cursor, after ≤ cursor := by
  induction reads generalizing rows after with
  | nil =>
    refine ⟨List.prefix_rfl, hrows, fun cursor hcursor ↦ ?_⟩
    exact (Option.some.inj hcursor).le
  | cons read rest ih =>
    obtain ⟨found, limit⟩ := read
    obtain ⟨hfound, hgrows⟩ := hgrowing
    obtain ⟨hfirst, hrest⟩ := List.forall_mem_cons.mp hsorted
    rw [follow]
    split
    · exact ⟨hfound, hfirst, by simp⟩
    next cursor hcursor =>
      obtain ⟨hlater, hlaterSorted, hlast⟩ := ih cursor hgrows hfirst hrest
      obtain ⟨-, hle, -⟩ := page_more hfirst hcursor
      exact ⟨hfound.trans hlater, hlaterSorted, fun last hmem ↦ hle.trans (hlast last hmem)⟩

/-- The rule for readers: the pages are, in their order, exactly the rows between the first cursor and the
last one, and without a last one all rows behind the first. -/
theorem follow_items {rows : List Row} (after : Int) {reads : List (List Row × Nat)}
    (hgrowing : Growing rows reads)
    (hsorted : ∀ read ∈ reads, Increasing stamp read.1) (hlimit : ∀ read ∈ reads, 0 < read.2) :
    (follow stamp rows after reads).items =
      between stamp after (follow stamp rows after reads).cursor (follow stamp rows after reads).rows := by
  induction reads generalizing rows after with
  | nil =>
    refine (List.filter_eq_nil_iff.mpr fun row _ ↦ ?_).symm
    simp [follow]
  | cons read rest ih =>
    obtain ⟨found, limit⟩ := read
    obtain ⟨-, hgrows⟩ := hgrowing
    obtain ⟨hfirst, hrest⟩ := List.forall_mem_cons.mp hsorted
    obtain ⟨hpositive, hlimits⟩ := List.forall_mem_cons.mp hlimit
    rw [follow]
    split
    next hnone => exact page_last hfirst hnone hpositive
    next cursor hcursor =>
      obtain ⟨hitems, hle, row, hrow, hbeyond⟩ := page_more hfirst hcursor
      obtain ⟨hlater, hlaterSorted, hlast⟩ := follow_grown cursor hgrows hfirst hrest
      simp only [Reading.behind]
      rw [hitems, ← between_of_prefix hlater hlaterSorted hrow hbeyond, ih cursor hgrows hrest hlimits]
      exact between_append hlaterSorted hle hlast

end Follow

end Xyena.Foundation.CursorPages
