import Mathlib.Data.List.Basic

/-!
# Programs that ask their environment

A program returns a value or asks its environment and goes on with the reply.
It is run against an oracle, which may answer by everything that was asked and
answered before. `Meets` is the rule for programs against every environment:
each effect is allowed after the events before it, whatever the replies are,
and the returned value meets a postcondition about the events.
-/

namespace Xyena.Foundation

/-- Programs over the effects `E` with replies `R`. -/
inductive Program (E : Type) (R : E → Type) (α : Type) where
  | ret (value : α)
  | ask (effect : E) (next : R effect → Program E R α)

/-- An effect with the reply it got. -/
structure Event (E : Type) (R : E → Type) where
  effect : E
  reply : R effect

namespace Program

variable {E : Type} {R : E → Type} {α β : Type}

def bind : Program E R α → (α → Program E R β) → Program E R β
  | ret value, next => next value
  | ask effect reply, next => ask effect fun answer ↦ bind (reply answer) next

/-- Ask once and return the reply. -/
def send (effect : E) : Program E R (R effect) := ask effect ret

/-- The replies of an environment, by the events so far. -/
abbrev Oracle (E : Type) (R : E → Type) := List (Event E R) → (effect : E) → R effect

/-- Run a program after the events `trace`: its value and all events. -/
def exec (oracle : Oracle E R) : Program E R α → List (Event E R) → α × List (Event E R)
  | ret value, trace => (value, trace)
  | ask effect next, trace =>
    exec oracle (next (oracle trace effect)) (trace ++ [⟨effect, oracle trace effect⟩])

/-- A program goes on where the one before it has ended. -/
theorem exec_bind (oracle : Oracle E R) (program : Program E R α) (next : α → Program E R β)
    (trace : List (Event E R)) :
    (program.bind next).exec oracle trace =
      (next (program.exec oracle trace).1).exec oracle (program.exec oracle trace).2 := by
  induction program generalizing trace with
  | ret => rfl
  | ask effect reply ih => exact ih _ _

/-- No event is lost. -/
theorem mem_exec (oracle : Oracle E R) (program : Program E R α) {trace : List (Event E R)}
    {event : Event E R} (h : event ∈ trace) : event ∈ (program.exec oracle trace).2 := by
  induction program generalizing trace with
  | ret => exact h
  | ask effect next ih => exact ih _ (List.mem_append_left _ h)

/-- After the events `trace` every effect of the program is `Ok` and its value meets `Post`. -/
def Meets (Ok : List (Event E R) → E → Prop) (Post : List (Event E R) → α → Prop) :
    Program E R α → List (Event E R) → Prop
  | ret value, trace => Post trace value
  | ask effect next, trace =>
    Ok trace effect ∧ ∀ reply, Meets Ok Post (next reply) (trace ++ [⟨effect, reply⟩])

variable {Ok : List (Event E R) → E → Prop} {Post : List (Event E R) → α → Prop}

/-- The rule of sequence. -/
theorem Meets.bind {Post' : List (Event E R) → β → Prop} {program : Program E R α}
    {next : α → Program E R β} {trace : List (Event E R)} (h : Meets Ok Post program trace)
    (hnext : ∀ events value, Post events value → Meets Ok Post' (next value) events) :
    Meets Ok Post' (program.bind next) trace := by
  induction program generalizing trace with
  | ret value => exact hnext trace value h
  | ask effect reply ih => exact ⟨h.1, fun answer ↦ ih answer (h.2 answer)⟩

/-- Every run of a program that meets its specification has only allowed effects. -/
theorem Meets.exec (oracle : Oracle E R) {program : Program E R α} {trace : List (Event E R)}
    (h : Meets Ok Post program trace) :
    ∃ events, (program.exec oracle trace).2 = trace ++ events ∧
      Post (trace ++ events) (program.exec oracle trace).1 ∧
      ∀ before event after, events = before ++ event :: after →
        Ok (trace ++ before) event.effect := by
  induction program generalizing trace with
  | ret value =>
    refine ⟨[], (List.append_nil trace).symm, ?_, ?_⟩
    · rw [List.append_nil]
      exact h
    · intro before event after hsplit
      cases before <;> cases hsplit
  | ask effect next ih =>
    obtain ⟨hok, hrest⟩ := h
    obtain ⟨events, hevents, hpost, hallowed⟩ := ih _ (hrest (oracle trace effect))
    refine ⟨⟨effect, oracle trace effect⟩ :: events, ?_, ?_, ?_⟩
    · exact hevents.trans (List.append_assoc _ _ _)
    · have hsame : trace ++ ⟨effect, oracle trace effect⟩ :: events =
          trace ++ [⟨effect, oracle trace effect⟩] ++ events := by
        rw [List.append_assoc]
        rfl
      rw [hsame]
      exact hpost
    · intro before event after hsplit
      cases before with
      | nil =>
        obtain ⟨rfl, -⟩ := List.cons.inj hsplit
        rwa [List.append_nil]
      | cons first before =>
        obtain ⟨rfl, htail⟩ := List.cons.inj hsplit
        have hlater := hallowed before event after htail
        rwa [List.append_assoc] at hlater

/-- A run from the start meets the postcondition and asks only what it may. -/
theorem Meets.exec_start {Asks : E → Prop} {program : Program E R α}
    (h : Meets (fun _ effect ↦ Asks effect) Post program []) (oracle : Oracle E R) :
    Post (program.exec oracle []).2 (program.exec oracle []).1 ∧
      ∀ event ∈ (program.exec oracle []).2, Asks event.effect := by
  obtain ⟨events, hevents, hpost, hasked⟩ := h.exec oracle
  rw [hevents]
  refine ⟨hpost, fun event hevent ↦ ?_⟩
  obtain ⟨before, after, rfl⟩ := List.append_of_mem hevent
  exact hasked before event after rfl

/-- The rule of consequence. -/
theorem Meets.imp {Weaker : List (Event E R) → α → Prop} {program : Program E R α} {trace : List (Event E R)}
    (h : Meets Ok Post program trace) (hpost : ∀ events value, Post events value → Weaker events value) :
    Meets Ok Weaker program trace := by
  induction program generalizing trace with
  | ret value => exact hpost trace value h
  | ask effect next ih => exact ⟨h.1, fun reply ↦ ih reply (h.2 reply)⟩

/-- Environments that answer alike all that a program may ask run it alike. -/
theorem Meets.exec_congr {Asks : E → Prop} {program : Program E R α} {trace : List (Event E R)}
    (h : Meets (fun _ effect ↦ Asks effect) Post program trace) {first second : Oracle E R}
    (hsame : ∀ events effect, Asks effect → first events effect = second events effect) :
    program.exec first trace = program.exec second trace := by
  induction program generalizing trace with
  | ret => rfl
  | ask effect next ih =>
    rw [Program.exec, Program.exec, hsame trace effect h.1]
    exact ih _ (h.2 _)

end Program

end Xyena.Foundation
