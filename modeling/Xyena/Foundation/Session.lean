import Xyena.Foundation.Runs

/-!
# Services with one session a call

A service reads its state, raises, or returns an answer together with the rows
that its session has added or changed. The session commits the rows in one
transaction, which the database may refuse as a whole. A call that raises
therefore changes nothing. An invariant of the service has to be kept by
accepted commits only.
-/

namespace Xyena.Foundation.Session

/-! ## Sequences that may raise -/

section Sequences

variable {Failure α β : Type}

/-- Raise when a check fails. -/
def ensure (condition : Bool) (failure : Failure) : Except Failure Unit :=
  if condition then .ok () else .error failure

/-- A sequence returns when both of its parts return. -/
theorem bind_ok {first : Except Failure α} {next : α → Except Failure β} {result : β} :
    (first >>= next) = .ok result ↔ ∃ value, first = .ok value ∧ next value = .ok result := by
  cases first with
  | error failure => simp [bind, Except.bind]
  | ok value => simp [bind, Except.bind]

theorem ensure_ok {condition : Bool} {failure : Failure} :
    ensure condition failure = .ok () ↔ condition = true := by
  cases condition <;> simp [ensure]

theorem ensure_bind_ok {condition : Bool} {failure : Failure} {next : Unit → Except Failure β}
    {result : β} :
    (ensure condition failure >>= next) = .ok result ↔ condition = true ∧ next () = .ok result := by
  cases condition <;> simp [ensure, bind, Except.bind]

theorem mapM_ok {items : List α} {f : α → Except Failure β} {g : α → β}
    (h : ∀ item ∈ items, f item = .ok (g item)) : items.mapM f = .ok (items.map g) := by
  induction items with
  | nil => rfl
  | cons item rest ih =>
    obtain ⟨hitem, hrest⟩ := List.forall_mem_cons.mp h
    rw [List.mapM_cons, hitem, ih hrest]
    rfl

/-- The first row that a query selects. -/
def findRow (missing : Failure) (selected : α → Bool) (rows : List α) : Except Failure α :=
  match rows.find? selected with
  | some row => .ok row
  | none => .error missing

section Rows

variable {missing : Failure} {selected : α → Bool} {rows : List α} {row : α}

theorem findRow_ok : findRow missing selected rows = .ok row ↔ rows.find? selected = some row := by
  unfold findRow
  cases rows.find? selected <;> simp

theorem findRow_mem (h : findRow missing selected rows = .ok row) : row ∈ rows :=
  List.mem_of_find?_eq_some (findRow_ok.mp h)

theorem findRow_selected (h : findRow missing selected rows = .ok row) : selected row = true :=
  List.find?_some (findRow_ok.mp h)

end Rows

theorem toOption_eq_some {result : Except Failure α} {value : α} :
    result.toOption = some value ↔ result = .ok value := by
  cases result <;> simp [Except.toOption]

/-- Every value that a sequence may return has a property. -/
def Returns (P : β → Prop) (sequence : Except Failure β) : Prop :=
  ∀ result, sequence = .ok result → P result

namespace Returns

variable {P : β → Prop}

theorem error (failure : Failure) : Returns P (.error failure : Except Failure β) := fun _ ↦ nofun

theorem ok {value : β} (h : P value) : Returns P (.ok value : Except Failure β) := by
  intro result heq
  obtain rfl := Except.ok.inj heq
  exact h

theorem bind {first : Except Failure α} {next : α → Except Failure β}
    (h : ∀ value, first = .ok value → Returns P (next value)) : Returns P (first >>= next) := by
  intro result heq
  obtain ⟨value, hfirst, hnext⟩ := bind_ok.mp heq
  exact h value hfirst result hnext

theorem ensure {condition : Bool} {failure : Failure} {next : Unit → Except Failure β}
    (h : condition = true → Returns P (next ())) :
    Returns P (Session.ensure condition failure >>= next) := by
  intro result heq
  obtain ⟨hcondition, hnext⟩ := ensure_bind_ok.mp heq
  exact h hcondition result hnext

end Returns

end Sequences

/-! ## Services -/

/-- A service with the states of its database, its calls, answers, failures and written rows. -/
structure Service (Db Call Answer Failure Writes : Type*) where
  serve : Db → Call → Except Failure (Answer × Option Writes)
  /-- Whether the database refuses the rows of the call for a reason outside its constraints. -/
  refused : Call → Bool
  accepted : Writes → Db → Bool
  apply : Writes → Db → Db
  /-- What a call raises whose rows are refused. -/
  integrity : Failure

namespace Service

variable {Db Call Answer Failure Writes : Type*} (service : Service Db Call Answer Failure Writes)

/-- The end of a session. A session without rows commits nothing. -/
def close (db : Db) (refused : Bool) :
    Except Failure (Answer × Option Writes) → Except Failure Answer × Db
  | .error failure => (.error failure, db)
  | .ok (answer, none) => (.ok answer, db)
  | .ok (answer, some writes) =>
    if !refused && service.accepted writes db then (.ok answer, service.apply writes db)
    else (.error service.integrity, db)

/-- The service, one call after the other. -/
def machine : Machine Db Call (Except Failure Answer) where
  step db call := service.close db (service.refused call) (service.serve db call)

/-- How a call ends: it raises, returns without rows, or commits its rows. -/
theorem step_cases (db : Db) (call : Call) :
    (∃ failure, service.machine.step db call = (.error failure, db)) ∨
      (∃ answer, service.serve db call = .ok (answer, none) ∧
        service.machine.step db call = (.ok answer, db)) ∨
      ∃ answer writes, service.serve db call = .ok (answer, some writes) ∧
        service.refused call = false ∧ service.accepted writes db = true ∧
        service.machine.step db call = (.ok answer, service.apply writes db) := by
  simp only [machine]
  cases hserve : service.serve db call with
  | error failure => exact Or.inl ⟨failure, rfl⟩
  | ok outcome =>
    obtain ⟨answer, _ | writes⟩ := outcome
    · exact Or.inr (Or.inl ⟨answer, rfl, rfl⟩)
    · simp only [close]
      split
      next haccepted =>
        simp only [Bool.and_eq_true, Bool.not_eq_true'] at haccepted
        exact Or.inr (Or.inr ⟨answer, writes, rfl, haccepted.1, haccepted.2, rfl⟩)
      · exact Or.inl ⟨service.integrity, rfl⟩

/-- A call that returns has served its operation and committed the rows of it. -/
theorem served_of_output {db : Db} {call : Call} {answer : Answer}
    (h : (service.machine.step db call).1 = .ok answer) :
    ∃ rows, service.serve db call = .ok (answer, rows) ∧ ∀ writes, rows = some writes →
      service.accepted writes db = true ∧ (service.machine.step db call).2 = service.apply writes db := by
  rcases service.step_cases db call with
    ⟨failure, hstep⟩ | ⟨other, hserve, hstep⟩ | ⟨other, writes, hserve, -, haccepted, hstep⟩
  · cases (congrArg Prod.fst hstep).symm.trans h
  · obtain rfl := Except.ok.inj ((congrArg Prod.fst hstep).symm.trans h)
    exact ⟨none, hserve, nofun⟩
  · obtain rfl := Except.ok.inj ((congrArg Prod.fst hstep).symm.trans h)
    refine ⟨some writes, hserve, fun _ hsame ↦ ?_⟩
    obtain rfl := Option.some.inj hsame
    exact ⟨haccepted, congrArg Prod.snd hstep⟩

/-- A call commits the rows that the database admits. -/
theorem step_commit {db : Db} {call : Call} {answer : Answer} {writes : Writes}
    (hserve : service.serve db call = .ok (answer, some writes)) (hrefused : service.refused call = false)
    (haccepted : service.accepted writes db = true) :
    service.machine.step db call = (.ok answer, service.apply writes db) := by
  simp [machine, close, hserve, hrefused, haccepted]

/-- A call that raises changes nothing. -/
theorem step_error {db : Db} {call : Call} {failure : Failure}
    (h : (service.machine.step db call).1 = .error failure) :
    (service.machine.step db call).2 = db := by
  rcases service.step_cases db call with ⟨_, hstep⟩ | ⟨_, _, hstep⟩ | ⟨_, _, _, _, _, hstep⟩
  · rw [hstep]
  · rw [hstep]
  · rw [hstep] at h
    cases h

/-! ## Invariants -/

/-- A call keeps a property of the state when its commit does. -/
theorem step_kept (Inv : Db → Prop) {db : Db} {call : Call} (h : Inv db)
    (hcommit : ∀ answer writes, service.serve db call = .ok (answer, some writes) →
      service.refused call = false → service.accepted writes db = true → Inv (service.apply writes db)) :
    Inv (service.machine.step db call).2 := by
  rcases service.step_cases db call with
    ⟨_, hstep⟩ | ⟨_, _, hstep⟩ | ⟨answer, writes, hserve, hrefused, haccepted, hstep⟩
  · rwa [hstep]
  · rwa [hstep]
  · rw [hstep]
    exact hcommit answer writes hserve hrefused haccepted

/-- Induction over the commits of a run for a property of the calls so far and the state they lead to.
Only calls that meet `Admitted` have to keep it. -/
theorem commit_history {start : Db} (Inv : List (Entry Db Call (Except Failure Answer)) → Db → Prop)
    (Admitted : Db → Call → Prop) (hstart : Inv [] start)
    (hkept : ∀ history db e, Inv history db → Inv (history ++ [e]) db)
    (hcommit : ∀ history db call answer writes, Inv history db → Admitted db call →
      service.serve db call = .ok (answer, some writes) → service.refused call = false →
      service.accepted writes db = true →
      service.machine.step db call = (.ok answer, service.apply writes db) →
      Inv (history ++ [service.machine.entry db call]) (service.apply writes db))
    (calls : List Call)
    (hadmitted : ∀ e ∈ service.machine.log start calls, Admitted e.before e.input) :
    Inv (service.machine.log start calls) (service.machine.run start calls) := by
  refine service.machine.history_invariant Inv (fun e ↦ Admitted e.before e.input) hstart ?_ calls
    hadmitted
  intro history db call hinv hadmitted
  rcases service.step_cases db call with
    ⟨failure, hstep⟩ | ⟨answer, -, hstep⟩ | ⟨answer, writes, hserve, hrefused, haccepted, hstep⟩
  · rw [hstep]
    exact hkept history db _ hinv
  · rw [hstep]
    exact hkept history db _ hinv
  · have hafter := hcommit history db call answer writes hinv hadmitted hserve hrefused haccepted
      hstep
    rwa [hstep]

/-- The same rule for a property of the state alone. -/
theorem commit_invariant {start : Db} (Inv : Db → Prop) (Admitted : Db → Call → Prop)
    (hstart : Inv start)
    (hcommit : ∀ db call answer writes, Inv db → Admitted db call →
      service.serve db call = .ok (answer, some writes) → service.accepted writes db = true →
      Inv (service.apply writes db))
    (calls : List Call)
    (hadmitted : ∀ e ∈ service.machine.log start calls, Admitted e.before e.input) :
    Inv (service.machine.run start calls) :=
  service.commit_history (fun _ db ↦ Inv db) Admitted hstart (fun _ _ _ h ↦ h)
    (fun _ db call answer writes hinv hadmitted hserve _ haccepted _ ↦
      hcommit db call answer writes hinv hadmitted hserve haccepted) calls hadmitted

end Service

end Xyena.Foundation.Session
