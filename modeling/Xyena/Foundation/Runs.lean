import Mathlib.Data.List.Induction

/-!
# Runs of a deterministic machine

A machine reads one input at a time, changes its state and gives one output.
Everything that happened in a run is kept as a list of entries, so that a
property of runs can speak about the state before a step, the input, the
output and the state after it. Two induction rules carry all later invariants:
one for a property of the state, one for a property of the state together with
the entries that led to it. Both can be restricted to runs whose entries meet
a side condition. A further rule relates each step to the steps after it.
-/

namespace Xyena.Foundation

/-- A deterministic step with an output. -/
structure Machine (State Input Output : Type*) where
  step : State → Input → Output × State

/-- One completed step of a run. -/
structure Entry (State Input Output : Type*) where
  before : State
  input : Input
  output : Output
  after : State

namespace Machine

variable {State Input Output : Type*} (machine : Machine State Input Output)

/-- The entry that the step from `state` on `input` writes. -/
def entry (state : State) (input : Input) : Entry State Input Output where
  before := state
  input := input
  output := (machine.step state input).1
  after := (machine.step state input).2

def run (state : State) : List Input → State
  | [] => state
  | input :: rest => run (machine.step state input).2 rest

/-- The entries of the run, oldest first. -/
def log (state : State) : List Input → List (Entry State Input Output)
  | [] => []
  | input :: rest => machine.entry state input :: log (machine.step state input).2 rest

@[simp] theorem log_nil (state : State) : machine.log state [] = [] := rfl

theorem run_append (state : State) (first second : List Input) :
    machine.run state (first ++ second) = machine.run (machine.run state first) second := by
  induction first generalizing state with
  | nil => rfl
  | cons input rest ih => exact ih _

theorem log_append (state : State) (first second : List Input) :
    machine.log state (first ++ second) =
      machine.log state first ++ machine.log (machine.run state first) second := by
  induction first generalizing state with
  | nil => rfl
  | cons input rest ih =>
    rw [List.cons_append]
    simp only [log, run, ih, List.cons_append]

theorem run_snoc (state : State) (inputs : List Input) (input : Input) :
    machine.run state (inputs ++ [input]) = (machine.step (machine.run state inputs) input).2 := by
  rw [run_append]
  rfl

theorem log_snoc (state : State) (inputs : List Input) (input : Input) :
    machine.log state (inputs ++ [input]) =
      machine.log state inputs ++ [machine.entry (machine.run state inputs) input] := by
  rw [log_append]
  rfl

@[simp] theorem map_input_log (state : State) (inputs : List Input) :
    (machine.log state inputs).map Entry.input = inputs := by
  induction inputs generalizing state with
  | nil => rfl
  | cons input rest ih => exact congrArg (input :: ·) (ih _)

/-- The input of an entry is one of the inputs of the run. -/
theorem input_mem {state : State} {inputs : List Input} {e : Entry State Input Output}
    (he : e ∈ machine.log state inputs) : e.input ∈ inputs := by
  have hmem := List.mem_map_of_mem (f := Entry.input) he
  rwa [map_input_log] at hmem

/-- Every entry of a run is the step taken after some prefix of the inputs. -/
theorem mem_log_iff (state : State) (inputs : List Input) (e : Entry State Input Output) :
    e ∈ machine.log state inputs ↔
      ∃ earlier input later, inputs = earlier ++ input :: later ∧
        e = machine.entry (machine.run state earlier) input := by
  induction inputs generalizing state with
  | nil => simp
  | cons input rest ih =>
    change e ∈ machine.entry state input :: _ ↔ _
    rw [List.mem_cons, ih]
    constructor
    · rintro (rfl | ⟨earlier, next, later, rfl, rfl⟩)
      · exact ⟨[], input, rest, rfl, rfl⟩
      · exact ⟨input :: earlier, next, later, rfl, rfl⟩
    · rintro ⟨earlier, next, later, hinputs, rfl⟩
      cases earlier with
      | nil =>
        obtain ⟨rfl, rfl⟩ := List.cons.inj hinputs
        exact Or.inl rfl
      | cons first earlier =>
        obtain ⟨rfl, rfl⟩ := List.cons.inj hinputs
        exact Or.inr ⟨earlier, next, later, rfl, rfl⟩

/-- Induction over a run for a property of the entries so far and the state they lead to. Only
entries that meet `Admitted` have to preserve it. -/
theorem history_invariant (Inv : List (Entry State Input Output) → State → Prop)
    (Admitted : Entry State Input Output → Prop) {start : State}
    (hstart : Inv [] start)
    (hstep : ∀ history state input, Inv history state → Admitted (machine.entry state input) →
      Inv (history ++ [machine.entry state input]) (machine.step state input).2)
    (inputs : List Input) (hadmitted : ∀ e ∈ machine.log start inputs, Admitted e) :
    Inv (machine.log start inputs) (machine.run start inputs) := by
  induction inputs using List.reverseRecOn with
  | nil => exact hstart
  | append_singleton inputs input ih =>
    rw [log_snoc] at hadmitted ⊢
    rw [run_snoc]
    refine hstep _ _ _ (ih fun e he ↦ hadmitted e (List.mem_append_left _ he)) ?_
    exact hadmitted _ (List.mem_append_right _ (List.mem_singleton.mpr rfl))

/-- The same rule without a side condition. -/
theorem history_invariant_all (Inv : List (Entry State Input Output) → State → Prop)
    {start : State} (hstart : Inv [] start)
    (hstep : ∀ history state input, Inv history state →
      Inv (history ++ [machine.entry state input]) (machine.step state input).2)
    (inputs : List Input) : Inv (machine.log start inputs) (machine.run start inputs) :=
  machine.history_invariant Inv (fun _ ↦ True) hstart
    (fun history state input h _ ↦ hstep history state input h) inputs (fun _ _ ↦ trivial)

/-- A property of the state that every step preserves holds at the end of every run. -/
theorem run_invariant (Inv : State → Prop) {start : State} (hstart : Inv start)
    (hstep : ∀ state input, Inv state → Inv (machine.step state input).2)
    (inputs : List Input) : Inv (machine.run start inputs) :=
  machine.history_invariant_all (fun _ state ↦ Inv state) hstart
    (fun _ state input ↦ hstep state input) inputs

/-- An invariant holds in the state before every entry, since that state ends a shorter run. -/
theorem invariant_before (Inv : State → Prop) {start : State} (hstart : Inv start)
    (hstep : ∀ state input, Inv state → Inv (machine.step state input).2)
    (inputs : List Input) {e : Entry State Input Output} (he : e ∈ machine.log start inputs) :
    Inv e.before := by
  obtain ⟨earlier, input, later, -, rfl⟩ := (machine.mem_log_iff start inputs e).mp he
  exact machine.run_invariant Inv hstart hstep earlier

/-- Two properties of steps hold all through the same runs when they agree on the steps that can be taken
from states with an invariant. -/
theorem forall_log_iff (Inv : State → Prop) {First Second : Entry State Input Output → Prop} {start : State}
    (hstart : Inv start) (hstep : ∀ state input, Inv state → Inv (machine.step state input).2)
    (hiff : ∀ state input, Inv state →
      (First (machine.entry state input) ↔ Second (machine.entry state input)))
    (inputs : List Input) :
    (∀ e ∈ machine.log start inputs, First e) ↔ ∀ e ∈ machine.log start inputs, Second e := by
  induction inputs generalizing start with
  | nil => exact ⟨fun _ ↦ nofun, fun _ ↦ nofun⟩
  | cons input rest ih =>
    simp only [log, List.forall_mem_cons]
    exact and_congr (hiff start input hstart) (ih (hstep start input hstart))

/-- A property of the state holds all through a run exactly when every step of it meets the condition
under which a step keeps the property. -/
theorem always_iff (Inv Good : State → Prop) (Cond : State → Input → Prop) {start : State}
    (hinv : Inv start) (hgood : Good start)
    (hkept : ∀ state input, Inv state → Inv (machine.step state input).2)
    (hstep : ∀ state input, Inv state → Good state →
      (Good (machine.step state input).2 ↔ Cond state input))
    (inputs : List Input) :
    (∀ e ∈ machine.log start inputs, Good e.after) ↔
      ∀ e ∈ machine.log start inputs, Cond e.before e.input := by
  induction inputs generalizing start with
  | nil => exact ⟨fun _ ↦ nofun, fun _ ↦ nofun⟩
  | cons input rest ih =>
    simp only [log, List.forall_mem_cons]
    have hfirst := hstep start input hinv hgood
    constructor
    · rintro ⟨hnext, hrest⟩
      exact ⟨hfirst.mp hnext, (ih (hkept start input hinv) hnext).mp hrest⟩
    · rintro ⟨hcond, hrest⟩
      have hnext := hfirst.mpr hcond
      exact ⟨hnext, (ih (hkept start input hinv) hnext).mpr hrest⟩

/-- A property of the history and the state holds after every prefix of a run exactly when every step of
the run meets the condition under which a step keeps the property. -/
theorem always_history_iff (Inv Good : List (Entry State Input Output) → State → Prop)
    (Cond : List (Entry State Input Output) → State → Input → Prop) {start : State}
    (hinv : Inv [] start) (hgood : Good [] start)
    (hkept : ∀ history state input, Inv history state →
      Inv (history ++ [machine.entry state input]) (machine.step state input).2)
    (hstep : ∀ history state input, Inv history state → Good history state →
      (Good (history ++ [machine.entry state input]) (machine.step state input).2 ↔
        Cond history state input))
    (inputs : List Input) :
    (∀ earlier later, inputs = earlier ++ later →
      Good (machine.log start earlier) (machine.run start earlier)) ↔
      ∀ earlier input later, inputs = earlier ++ input :: later →
        Cond (machine.log start earlier) (machine.run start earlier) input := by
  have hinvAfter := machine.history_invariant_all Inv hinv hkept
  constructor
  · intro h earlier input later hinputs
    have hnext := h (earlier ++ [input]) later (by simpa using hinputs)
    rw [log_snoc, run_snoc] at hnext
    exact (hstep _ _ input (hinvAfter earlier) (h earlier (input :: later) hinputs)).mp hnext
  · intro h earlier
    induction earlier using List.reverseRecOn with
    | nil => exact fun _ _ ↦ hgood
    | append_singleton earlier input ih =>
      intro later hinputs
      have hsplit : inputs = earlier ++ input :: later := by simpa using hinputs
      rw [log_snoc, run_snoc]
      exact (hstep _ _ input (hinvAfter earlier) (ih _ hsplit)).mpr (h earlier input later hsplit)

/-- Two relations between a step and a later one hold all through the same runs when they agree on the
steps that can be taken from states in which the effect of the first one has been kept. -/
theorem pairwise_log_iff (Inv : State → Prop) (Since : Entry State Input Output → State → Prop)
    {First Second : Entry State Input Output → Entry State Input Output → Prop} {start : State}
    (hstart : Inv start) (hstep : ∀ state input, Inv state → Inv (machine.step state input).2)
    (hopen : ∀ state input, Inv state → Since (machine.entry state input) (machine.step state input).2)
    (hkept : ∀ e state input, Inv state → Since e state → Since e (machine.step state input).2)
    (hiff : ∀ e state input, Inv state → Since e state →
      (First e (machine.entry state input) ↔ Second e (machine.entry state input)))
    (inputs : List Input) :
    (machine.log start inputs).Pairwise First ↔ (machine.log start inputs).Pairwise Second := by
  induction inputs generalizing start with
  | nil => exact ⟨fun _ ↦ .nil, fun _ ↦ .nil⟩
  | cons input rest ih =>
    simp only [log, List.pairwise_cons]
    refine and_congr (forall₂_congr fun e he ↦ ?_) (ih (hstep start input hstart))
    have hbefore := machine.invariant_before
      (fun state ↦ Inv state ∧ Since (machine.entry start input) state)
      ⟨hstep start input hstart, hopen start input hstart⟩
      (fun state next h ↦ ⟨hstep state next h.1, hkept _ state next h.1 h.2⟩) rest he
    obtain ⟨earlier, next, later, -, rfl⟩ := (machine.mem_log_iff _ rest e).mp he
    exact hiff _ _ next hbefore.1 hbefore.2

/-! ## Values that become final -/

section Final

variable {Value : Type*} (value : State → Value) (terminal : Value → Prop)

/-- Once a value is terminal in a run, it stays. -/
def Final (start : State) (inputs : List Input) : Prop :=
  ∀ first second third, inputs = first ++ second ++ third → terminal (value (machine.run start first)) →
    value (machine.run start (first ++ second)) = value (machine.run start first)

/-- A value is final in a run exactly when every step of it keeps the value from when it is terminal. -/
theorem final_iff (start : State) (inputs : List Input) :
    machine.Final value terminal start inputs ↔
      ∀ e ∈ machine.log start inputs, terminal (value e.before) → value e.after = value e.before := by
  constructor
  · intro h e he hterminal
    obtain ⟨first, input, third, rfl, rfl⟩ := (machine.mem_log_iff start inputs e).mp he
    have hkept := h first [input] third (by simp) hterminal
    rwa [run_snoc] at hkept
  · intro h first second third hinputs hterminal
    induction second using List.reverseRecOn generalizing third with
    | nil => rw [List.append_nil]
    | append_singleton second input ih =>
      have hsame := ih (input :: third) (by simpa using hinputs)
      rw [← List.append_assoc, run_snoc, ← hsame]
      refine h (machine.entry (machine.run start (first ++ second)) input) ?_ (hsame ▸ hterminal)
      exact (machine.mem_log_iff start inputs _).mpr
        ⟨first ++ second, input, third, by simpa using hinputs, rfl⟩

end Final

end Machine

end Xyena.Foundation
