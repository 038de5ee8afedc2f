import Xyena.Foundation.Table

/-!
# Database sessions and transactions

A session computes on the rows it has read and may raise at any point. The
rows it has assigned so far stay assigned inside the session when it raises;
whether they survive is decided outside, by the transaction around the
session. `Session.atomically` is that transaction: it keeps the rows of a
session that returned and restores the old rows of a session that raised.
-/

namespace Xyena.Foundation

/-- A computation over the rows `σ` of one session that may raise `ε`. -/
abbrev Session (σ ε : Type) := ExceptT ε (StateM σ)

namespace Session

variable {σ ε α β : Type}

/-- Run the session alone: the result and the rows as the session left them. -/
def exec (session : Session σ ε α) (rows : σ) : Except ε α × σ :=
  StateT.run (ExceptT.run session) rows

/-- Run the session in a transaction that is rolled back when the session raises. -/
def atomically (session : Session σ ε α) (rows : σ) : Except ε α × σ :=
  match session.exec rows with
  | (.ok value, after) => (.ok value, after)
  | (.error failure, _) => (.error failure, rows)

@[simp] theorem exec_pure (value : α) (rows : σ) :
    (pure value : Session σ ε α).exec rows = (.ok value, rows) := rfl

theorem exec_pure_ok {value result : α} {rows after : σ} :
    (pure value : Session σ ε α).exec rows = (.ok result, after) ↔ result = value ∧ after = rows := by
  rw [exec_pure, Prod.mk.injEq, Except.ok.injEq, eq_comm, eq_comm (a := rows)]

@[simp] theorem exec_throw (failure : ε) (rows : σ) :
    (throw failure : Session σ ε α).exec rows = (.error failure, rows) := rfl

@[simp] theorem exec_get (rows : σ) :
    (get : Session σ ε σ).exec rows = (.ok rows, rows) := rfl

@[simp] theorem exec_modify (change : σ → σ) (rows : σ) :
    (modify change : Session σ ε PUnit).exec rows = (.ok ⟨⟩, change rows) := rfl

theorem exec_bind (session : Session σ ε α) (next : α → Session σ ε β) (rows : σ) :
    (session >>= next).exec rows =
      match session.exec rows with
      | (.ok value, after) => (next value).exec after
      | (.error failure, after) => (.error failure, after) := by
  change StateT.run (ExceptT.run (session >>= next)) rows = _
  simp only [ExceptT.run_bind, StateT.run_bind, exec]
  change (match StateT.run (ExceptT.run session) rows with
    | (outcome, after) => StateT.run (match outcome with
        | .ok value => ExceptT.run (next value)
        | .error failure => pure (.error failure)) after) = _
  rcases StateT.run (ExceptT.run session) rows with ⟨_ | _, after⟩ <;> rfl

/-- A sequence returns exactly when both parts return. -/
theorem exec_bind_ok {session : Session σ ε α} {next : α → Session σ ε β} {rows after : σ}
    {value : β} :
    (session >>= next).exec rows = (.ok value, after) ↔
      ∃ first middle, session.exec rows = (.ok first, middle) ∧
        (next first).exec middle = (.ok value, after) := by
  rw [exec_bind]
  rcases session.exec rows with ⟨_ | first, middle⟩ <;> simp

theorem exec_fst_error {session : Session σ ε α} {rows : σ} {failure : ε} :
    (session.exec rows).1 = .error failure ↔
      ∃ after, session.exec rows = (.error failure, after) :=
  ⟨fun h ↦ ⟨(session.exec rows).2, Prod.ext h rfl⟩, fun ⟨_, h⟩ ↦ congrArg Prod.fst h⟩

/-- A sequence raises when its first part does, or its second part after it. -/
theorem exec_bind_error {session : Session σ ε α} {next : α → Session σ ε β} {rows after : σ}
    {failure : ε} :
    (session >>= next).exec rows = (.error failure, after) ↔
      session.exec rows = (.error failure, after) ∨
        ∃ first middle, session.exec rows = (.ok first, middle) ∧
          (next first).exec middle = (.error failure, after) := by
  rw [exec_bind]
  rcases session.exec rows with ⟨_ | first, middle⟩ <;> simp

/-- Wrapping the result of a session does not change what it raises. -/
theorem exec_bind_pure_error {session : Session σ ε α} {wrap : α → β} {rows : σ} {failure : ε} :
    ((session >>= fun value ↦ pure (wrap value)).exec rows).1 = .error failure ↔
      (session.exec rows).1 = .error failure := by
  rw [exec_bind]
  rcases session.exec rows with ⟨_ | first, middle⟩ <;> simp

/-- What the session read before it went on can be substituted. -/
@[simp] theorem exec_get_bind (next : σ → Session σ ε β) (rows : σ) :
    ((get : Session σ ε σ) >>= next).exec rows = (next rows).exec rows := by
  rw [exec_bind, exec_get]

@[simp] theorem exec_modify_bind (change : σ → σ) (next : PUnit → Session σ ε β) (rows : σ) :
    ((modify change : Session σ ε PUnit) >>= next).exec rows = (next ⟨⟩).exec (change rows) := by
  rw [exec_bind, exec_modify]

/-- Insert a row into one of the tables of the session, or raise when it conflicts. -/
def insert {Row : Type} (table : σ → List Row) (store : List Row → σ → σ)
    (conflicts : Row → Row → Bool) (failure : ε) (row : Row) : Session σ ε PUnit := do
  match Table.insert conflicts row (table (← get)) with
  | none => throw failure
  | some rows => modify (store rows)

theorem insert_ok {Row : Type} {table : σ → List Row} {store : List Row → σ → σ}
    {conflicts : Row → Row → Bool} {failure : ε} {row : Row} {rows after : σ} {done : PUnit} :
    (insert table store conflicts failure row).exec rows = (.ok done, after) ↔
      (∀ old ∈ table rows, conflicts row old = false) ∧
        after = store (table rows ++ [row]) rows := by
  simp only [insert, exec_get_bind]
  split
  next hinsert =>
    simp only [exec_throw, Prod.mk.injEq, reduceCtorEq, false_and, false_iff, not_and]
    intro hfree
    have hsome := Table.insert_eq_some.mpr ⟨hfree, rfl⟩
    rw [hinsert] at hsome
    cases hsome
  next stored hinsert =>
    obtain ⟨hfree, rfl⟩ := Table.insert_eq_some.mp hinsert
    simp only [exec_modify, Prod.mk.injEq, true_and]
    exact ⟨fun h ↦ ⟨hfree, h.symm⟩, fun h ↦ h.2.symm⟩

theorem insert_error {Row : Type} {table : σ → List Row} {store : List Row → σ → σ}
    {conflicts : Row → Row → Bool} {failure raised : ε} {row : Row} {rows after : σ}
    (h : (insert table store conflicts failure row).exec rows = (.error raised, after)) :
    raised = failure := by
  simp only [insert, exec_get_bind] at h
  split at h
  · exact (Except.error.inj (Prod.mk.inj h).1).symm
  · cases h

/-- A transaction that raised has left every row as it was. -/
theorem atomically_error {session : Session σ ε α} {rows after : σ} {failure : ε}
    (h : session.atomically rows = (.error failure, after)) : after = rows := by
  unfold atomically at h
  split at h
  · cases h
  · exact (Prod.mk.inj h).2.symm

theorem atomically_fst (session : Session σ ε α) (rows : σ) :
    (session.atomically rows).1 = (session.exec rows).1 := by
  unfold atomically
  split
  next first middle hexec => rw [hexec]
  next failure middle hexec => rw [hexec]

/-- The rows after a transaction are the old ones, or those of a session that returned. -/
theorem atomically_snd_cases (session : Session σ ε α) (rows : σ) :
    (session.atomically rows).2 = rows ∨
      ∃ value, session.exec rows = (.ok value, (session.atomically rows).2) := by
  unfold atomically
  split
  next value after hexec => exact Or.inr ⟨value, hexec⟩
  next failure after hexec => exact Or.inl rfl

end Session

end Xyena.Foundation
