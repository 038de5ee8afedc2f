import Mathlib.Logic.Function.Basic
import Xyena.Foundation.Program
import Xyena.Foundation.Runs

/-!
# Interleaved sessions

A session reads what it needs at its begin, asks its environment, and commits at
its end. Other sessions may begin, ask and commit between any two of these steps,
and a session may be lost at any time. What a session returns is held against the
state that it finds at its end.

A specification of the programs that sessions begin with carries over to every
run: all that is asked in a run is allowed, and the state has what commits keep.
The postcondition of a session may speak about the state, as long as no commit
takes away what it says.
-/

namespace Xyena.Foundation

/-- A session under way, with what it has asked so far. -/
structure Flight (Call E : Type) (R : E → Type) (Result : Type) where
  call : Call
  events : List (Event E R) := []
  program : Program E R Result

structure World (Db Call E : Type) (R : E → Type) (Result : Type) where
  db : Db
  flights : Nat → Option (Flight Call E R Result)

/-- What happens next. The environment replies to whatever the session asks. -/
inductive Signal (Call E : Type) (R : E → Type) where
  | begin (id : Nat) (call : Call)
  | reply (id : Nat) (oracle : (effect : E) → R effect)
  | finish (id : Nat) (refused : Bool)
  | crash (id : Nat)

inductive Notice (Call E : Type) (R : E → Type) (Answer : Type) where
  | nothing
  | asked (call : Call) (event : Event E R)
  | finished (call : Call) (answer : Answer)

structure Interleaving (Db Call E : Type) (R : E → Type) (Result Answer : Type) where
  begin : World Db Call E R Result → Call → Program E R Result
  commit : Db → Call → Result → Answer × Db
  /-- The answer of a session whose commit fails. -/
  refusal : Answer

namespace Interleaving

variable {Db Call E : Type} {R : E → Type} {Result Answer : Type}
  (service : Interleaving Db Call E R Result Answer)

/-- The state with one session set or taken away. -/
def put (world : World Db Call E R Result) (id : Nat) (flight : Option (Flight Call E R Result)) :
    World Db Call E R Result :=
  { world with flights := Function.update world.flights id flight }

def step (world : World Db Call E R Result) : Signal Call E R →
    Notice Call E R Answer × World Db Call E R Result
  | .begin id call =>
    match world.flights id with
    | some _ => (.nothing, world)
    | none => (.nothing, put world id (some { call := call, program := service.begin world call }))
  | .reply id oracle =>
    match world.flights id with
    | some ⟨call, events, .ask effect next⟩ =>
      (.asked call ⟨effect, oracle effect⟩,
        put world id (some ⟨call, events ++ [⟨effect, oracle effect⟩], next (oracle effect)⟩))
    | _ => (.nothing, world)
  | .finish id refused =>
    match world.flights id with
    | some ⟨call, _, .ret result⟩ =>
      if refused then (.finished call service.refusal, put world id none)
      else (.finished call (service.commit world.db call result).1,
        put { world with db := (service.commit world.db call result).2 } id none)
    | _ => (.nothing, world)
  | .crash id => (.nothing, put world id none)

def machine : Machine (World Db Call E R Result) (Signal Call E R) (Notice Call E R Answer) where
  step := service.step

abbrev Record (Db Call E : Type) (R : E → Type) (Result Answer : Type) :=
  Entry (World Db Call E R Result) (Signal Call E R) (Notice Call E R Answer)

/-! ## One step -/

/-- What one step of a session can be. -/
inductive Happens (world : World Db Call E R Result) :
    Signal Call E R → Notice Call E R Answer → World Db Call E R Result → Prop
  | idle (signal : Signal Call E R) : Happens world signal .nothing world
  | begun (id : Nat) (call : Call) (hfree : world.flights id = none) :
    Happens world (.begin id call) .nothing
      (put world id (some { call := call, program := service.begin world call }))
  | asked (id : Nat) (oracle : (effect : E) → R effect) (call : Call) (events : List (Event E R)) (effect : E)
      (next : R effect → Program E R Result) (h : world.flights id = some ⟨call, events, .ask effect next⟩) :
    Happens world (.reply id oracle) (.asked call ⟨effect, oracle effect⟩)
      (put world id (some ⟨call, events ++ [⟨effect, oracle effect⟩], next (oracle effect)⟩))
  | refused (id : Nat) (call : Call) (events : List (Event E R)) (result : Result)
      (h : world.flights id = some ⟨call, events, .ret result⟩) :
    Happens world (.finish id true) (.finished call service.refusal) (put world id none)
  | committed (id : Nat) (call : Call) (events : List (Event E R)) (result : Result)
      (h : world.flights id = some ⟨call, events, .ret result⟩) :
    Happens world (.finish id false) (.finished call (service.commit world.db call result).1)
      (put { world with db := (service.commit world.db call result).2 } id none)
  | lost (id : Nat) : Happens world (.crash id) .nothing (put world id none)

theorem step_happens (world : World Db Call E R Result) (signal : Signal Call E R) :
    service.Happens world signal (service.step world signal).1 (service.step world signal).2 := by
  cases signal with
  | begin id call =>
    simp only [step]
    split
    · exact .idle _
    next hfree => exact .begun id call hfree
  | reply id oracle =>
    simp only [step]
    split
    next call events effect next h => exact .asked id oracle call events effect next h
    · exact .idle _
  | finish id refused =>
    simp only [step]
    split
    next call events result h =>
      cases refused with
      | true => exact .refused id call events result h
      | false => exact .committed id call events result h
    · exact .idle _
  | crash id => exact .lost id

theorem flight_of_put {world : World Db Call E R Result} {id other : Nat}
    {set flight : Option (Flight Call E R Result)} (h : (put world id set).flights other = flight) :
    other = id ∧ set = flight ∨ other ≠ id ∧ world.flights other = flight := by
  by_cases hid : other = id
  · subst hid
    simp only [put, Function.update_self] at h
    exact Or.inl ⟨rfl, h⟩
  · simp only [put, Function.update_of_ne hid] at h
    exact Or.inr ⟨hid, h⟩

/-! ## Runs -/

/-- A session of the call has asked the event before. -/
def Asked (history : List (Record Db Call E R Result Answer)) (call : Call) (event : Event E R) : Prop :=
  ∃ e ∈ history, e.output = .asked call event

/-- What holds all through a run: the state has its invariant, the sessions under way meet their
specifications, and so did all that was asked and returned. -/
structure Sound (service : Interleaving Db Call E R Result Answer)
    (Inv : List (Record Db Call E R Result Answer) → Db → Prop)
    (Ok : Call → List (Event E R) → E → Prop) (Post : Db → Call → List (Event E R) → Result → Prop)
    (history : List (Record Db Call E R Result Answer)) (world : World Db Call E R Result) : Prop where
  inv : Inv history world.db
  flights : ∀ id flight, world.flights id = some flight →
    Program.Meets (Ok flight.call) (Post world.db flight.call) flight.program flight.events ∧
      ∀ event ∈ flight.events, Asked history flight.call event
  asked : ∀ e ∈ history, ∀ call event, e.output = .asked call event → ∃ events, Ok call events event.effect
  finished : ∀ e ∈ history, ∀ call answer, e.output = .finished call answer → answer = service.refusal ∨
    ∃ db events result, Post db call events result ∧ answer = (service.commit db call result).1

variable {service} {Inv : List (Record Db Call E R Result Answer) → Db → Prop}
  {Ok : Call → List (Event E R) → E → Prop} {Post : Db → Call → List (Event E R) → Result → Prop}

theorem Asked.mono {history : List (Record Db Call E R Result Answer)} {call : Call} {event : Event E R}
    (h : Asked history call event) (e : Record Db Call E R Result Answer) :
      Asked (history ++ [e]) call event := by
  obtain ⟨found, hfound, houtput⟩ := h
  exact ⟨found, List.mem_append_left _ hfound, houtput⟩

section Rule

variable
  (hbegin : ∀ history world call, Inv history world.db →
    Program.Meets (Ok call) (Post world.db call) (service.begin world call) [])
  (hkept : ∀ history db e, Inv history db → Inv (history ++ [e]) db)
  (hstable : ∀ db call events result, Post db call events result → ∀ other asked returned,
    Post db other asked returned → Post (service.commit db call result).2 other asked returned)
  (hcommit : ∀ history db call events result e, Inv history db → Post db call events result →
    (∀ event ∈ events, Asked history call event) →
    e.output = .finished call (service.commit db call result).1 →
    Inv (history ++ [e]) (service.commit db call result).2)
include hbegin hkept hstable hcommit

theorem Sound.step {history : List (Record Db Call E R Result Answer)} {world : World Db Call E R Result}
    (h : Sound service Inv Ok Post history world) (signal : Signal Call E R) :
    Sound service Inv Ok Post (history ++ [service.machine.entry world signal])
      (service.machine.step world signal).2 := by
  have hhappens := service.step_happens world signal
  have houtput : (service.machine.entry world signal).output = (service.step world signal).1 := rfl
  change Sound service Inv Ok Post _ (service.step world signal).2
  generalize service.machine.entry world signal = e at houtput ⊢
  generalize (service.step world signal).1 = output at hhappens houtput
  generalize (service.step world signal).2 = after at hhappens
  have hold (id : Nat) (flight : Flight Call E R Result) (hflight : world.flights id = some flight) :
      Program.Meets (Ok flight.call) (Post world.db flight.call) flight.program flight.events ∧
        ∀ event ∈ flight.events, Asked (history ++ [e]) flight.call event :=
    ⟨(h.flights id flight hflight).1, fun event hevent ↦
      ((h.flights id flight hflight).2 event hevent).mono e⟩
  have hrequests (hlast : ∀ call event, output = .asked call event → ∃ events, Ok call events event.effect) :
      ∀ found ∈ history ++ [e], ∀ call event, found.output = .asked call event →
        ∃ events, Ok call events event.effect := by
    intro found hfound call event hasked
    rcases List.mem_append.mp hfound with hbefore | hnew
    · exact h.asked found hbefore call event hasked
    · rw [List.mem_singleton.mp hnew, houtput] at hasked
      exact hlast call event hasked
  have hanswers (hlast : ∀ call answer, output = .finished call answer → answer = service.refusal ∨
        ∃ db events result, Post db call events result ∧ answer = (service.commit db call result).1) :
      ∀ found ∈ history ++ [e], ∀ call answer, found.output = .finished call answer →
        answer = service.refusal ∨
          ∃ db events result, Post db call events result ∧ answer = (service.commit db call result).1 := by
    intro found hfound call answer hfinished
    rcases List.mem_append.mp hfound with hbefore | hnew
    · exact h.finished found hbefore call answer hfinished
    · rw [List.mem_singleton.mp hnew, houtput] at hfinished
      exact hlast call answer hfinished
  cases hhappens with
  | idle => exact ⟨hkept _ _ _ h.inv, hold, hrequests (by simp), hanswers (by simp)⟩
  | begun id call hfree =>
    refine ⟨hkept _ _ _ h.inv, fun other flight hflight ↦ ?_, hrequests (by simp), hanswers (by simp)⟩
    rcases flight_of_put hflight with ⟨rfl, hset⟩ | ⟨-, hother⟩
    · obtain rfl := Option.some.inj hset
      exact ⟨hbegin history world call h.inv, by simp⟩
    · exact hold other flight hother
  | asked id oracle call events effect next hflight =>
    obtain ⟨⟨hok, hnext⟩, hasked⟩ := h.flights id _ hflight
    refine ⟨hkept _ _ _ h.inv, fun other flight hput ↦ ?_, hrequests fun asker event hlast ↦ ?_,
      hanswers (by simp)⟩
    · rcases flight_of_put hput with ⟨rfl, hset⟩ | ⟨-, hother⟩
      · obtain rfl := Option.some.inj hset
        refine ⟨hnext _, List.forall_mem_append.mpr ⟨fun event hevent ↦ (hasked event hevent).mono e, ?_⟩⟩
        exact List.forall_mem_singleton.mpr
          ⟨e, List.mem_append_right _ (List.mem_singleton.mpr rfl), houtput⟩
      · exact hold other flight hother
    · obtain ⟨rfl, rfl⟩ := Notice.asked.inj hlast
      exact ⟨events, hok⟩
  | refused id call events result hflight =>
    refine ⟨hkept _ _ _ h.inv, fun other flight hput ↦ ?_, hrequests (by simp),
      hanswers fun caller answer hlast ↦ ?_⟩
    · rcases flight_of_put hput with ⟨-, hset⟩ | ⟨-, hother⟩
      · cases hset
      · exact hold other flight hother
    · obtain ⟨rfl, rfl⟩ := Notice.finished.inj hlast
      exact .inl rfl
  | committed id call events result hflight =>
    obtain ⟨hpost, hasked⟩ := h.flights id _ hflight
    refine ⟨hcommit history world.db call events result e h.inv hpost hasked houtput,
      fun other flight hput ↦ ?_, hrequests (by simp), hanswers fun caller answer hlast ↦ ?_⟩
    · rcases flight_of_put hput with ⟨-, hset⟩ | ⟨-, hother⟩
      · cases hset
      · obtain ⟨hmeets, hbefore⟩ := hold other flight hother
        exact ⟨hmeets.imp fun _ _ ↦ hstable _ _ _ _ hpost _ _ _, hbefore⟩
    · obtain ⟨rfl, rfl⟩ := Notice.finished.inj hlast
      exact .inr ⟨world.db, events, result, hpost, rfl⟩
  | lost id =>
    refine ⟨hkept _ _ _ h.inv, fun other flight hput ↦ ?_, hrequests (by simp), hanswers (by simp)⟩
    rcases flight_of_put hput with ⟨-, hset⟩ | ⟨-, hother⟩
    · cases hset
    · exact hold other flight hother

/-- The rule for interleaved sessions. -/
theorem Sound.run {start : Db} (hstart : Inv [] start) (signals : List (Signal Call E R)) :
    Sound service Inv Ok Post (service.machine.log ⟨start, fun _ ↦ none⟩ signals)
      (service.machine.run ⟨start, fun _ ↦ none⟩ signals) :=
  service.machine.history_invariant_all (Sound service Inv Ok Post) ⟨hstart, by simp, by simp, by simp⟩
    (fun _ _ signal h ↦ h.step hbegin hkept hstable hcommit signal) signals

end Rule

end Interleaving

end Xyena.Foundation
