import Mathlib.Logic.Relation
import Xyena.Foundation.Runs

/-!
# Things that a machine opens and advances

The state of a machine holds things under identifiers. A step leaves a thing as
it is, opens one that was not there, or advances it; it never takes one away.
What a whole run does to a thing is then a chain of advances, each of them by
one entry of the run, and a thing that the run has not found has been opened by
one of its entries.
-/

namespace Xyena.Foundation

open Relation (ReflTransGen)

variable {State Input Output Id Thing : Type*}

/-- What one entry does to the thing under one identifier. -/
inductive Change (Opens : Entry State Input Output → Thing → Prop)
    (Advances : Entry State Input Output → Thing → Thing → Prop) (e : Entry State Input Output) :
    Option Thing → Option Thing → Prop
  | kept (found : Option Thing) : Change Opens Advances e found found
  | opened {thing : Thing} (h : Opens e thing) : Change Opens Advances e none (some thing)
  | advanced {before after : Thing} (h : Advances e before after) :
    Change Opens Advances e (some before) (some after)

/-- The things of a machine, in the states with an invariant. -/
structure Lifecycle (machine : Machine State Input Output) (Id Thing : Type*) where
  Inv : State → Prop
  thing : State → Id → Option Thing
  Opens : Entry State Input Output → Thing → Prop
  Advances : Entry State Input Output → Thing → Thing → Prop
  inv_step : ∀ state input, Inv state → Inv (machine.step state input).2
  change : ∀ state input, Inv state → ∀ id,
    Change Opens Advances (machine.entry state input) (thing state id) (thing (machine.step state input).2 id)

namespace Lifecycle

variable {machine : Machine State Input Output} (life : Lifecycle machine Id Thing)

/-- A chain of advances by entries of a run. -/
def Chain (log : List (Entry State Input Output)) : Thing → Thing → Prop :=
  ReflTransGen fun before after ↦ ∃ e ∈ log, life.Advances e before after

variable {life} {log later : List (Entry State Input Output)} {first second third : Thing}

theorem Chain.mono (h : life.Chain log first second) (hlog : log ⊆ later) : life.Chain later first second :=
  by
  refine ReflTransGen.mono (fun _ _ hadvance ↦ ?_) _ _ h
  obtain ⟨e, he, hadvance⟩ := hadvance
  exact ⟨e, hlog he, hadvance⟩

theorem Chain.snoc {e : Entry State Input Output} (h : life.Chain log first second)
    (hadvance : life.Advances e second third) : life.Chain (log ++ [e]) first third :=
  (h.mono (List.subset_append_left log [e])).tail ⟨e, List.mem_append_right _
    (List.mem_singleton.mpr rfl), hadvance⟩

/-- What every advance keeps holds at the end of a chain. -/
theorem Chain.keeps {P : Thing → Prop} (h : life.Chain log first second) (hfirst : P first)
    (hadvance : ∀ e before after, e ∈ log → life.Advances e before after → P before → P after) :
      P second := by
  induction h with
  | refl => exact hfirst
  | tail _ hlast ih =>
    obtain ⟨e, he, hlast⟩ := hlast
    exact hadvance e _ _ he hlast ih

/-- Where a thing comes from that a run leaves behind. -/
inductive Origin (life : Lifecycle machine Id Thing) (start : State) (id : Id)
    (log : List (Entry State Input Output)) (last : Thing) : Prop
  | found {first : Thing} (h : life.thing start id = some first) (hchain : life.Chain log first last)
  | opened {first : Thing} {e : Entry State Input Output} (h : life.thing start id = none) (he : e ∈ log)
      (hopen : life.Opens e first) (hchain : life.Chain log first last)

section Runs

variable (life) {start : State} (hinv : life.Inv start) (id : Id)
include hinv

theorem inv_run (inputs : List Input) : life.Inv (machine.run start inputs) :=
  machine.run_invariant life.Inv hinv (fun state input ↦ life.inv_step state input) inputs

/-- A thing is never taken away, and what becomes of it are advances. -/
theorem later_of_found {first : Thing} (hfirst : life.thing start id = some first) (inputs : List Input) :
    ∃ last, life.thing (machine.run start inputs) id = some last ∧
      life.Chain (machine.log start inputs) first last := by
  induction inputs using List.reverseRecOn with
  | nil => exact ⟨first, hfirst, .refl⟩
  | append_singleton inputs input ih =>
    obtain ⟨last, hlast, hchain⟩ := ih
    have hchange := life.change _ input (life.inv_run hinv inputs) id
    rw [Machine.run_snoc, Machine.log_snoc]
    rw [hlast] at hchange
    generalize hafter : life.thing (machine.step (machine.run start inputs) input).2 id = after at hchange
    cases hchange with
    | kept => exact ⟨last, rfl, hchain.mono (List.subset_append_left _ _)⟩
    | advanced hadvance => exact ⟨_, rfl, hchain.snoc hadvance⟩

/-- Every thing that a run leaves behind was there before, or the run has opened it. -/
theorem origin (inputs : List Input) {last : Thing}
    (hlast : life.thing (machine.run start inputs) id = some last) :
    Origin life start id (machine.log start inputs) last := by
  induction inputs using List.reverseRecOn generalizing last with
  | nil => exact .found hlast .refl
  | append_singleton inputs input ih =>
    have hchange := life.change _ input (life.inv_run hinv inputs) id
    rw [Machine.run_snoc] at hlast
    rw [Machine.log_snoc]
    rw [hlast] at hchange
    generalize hbefore : life.thing (machine.run start inputs) id = before at hchange ih
    have hmono {entries : List (Entry State Input Output)} (e : Entry State Input Output) :
        entries ⊆ entries ++ [e] := List.subset_append_left _ _
    cases hchange with
    | kept =>
      cases ih rfl with
      | found h hchain => exact .found h (hchain.mono (hmono _))
      | opened h he hopen hchain => exact .opened h (hmono _ he) hopen (hchain.mono (hmono _))
    | opened hopen =>
      cases hstart : life.thing start id with
      | none => exact .opened hstart (List.mem_append_right _ (List.mem_singleton.mpr rfl)) hopen .refl
      | some first =>
        obtain ⟨still, hstill, -⟩ := life.later_of_found hinv id hstart inputs
        cases hbefore.symm.trans hstill
    | advanced hadvance =>
      cases ih rfl with
      | found h hchain => exact .found h (hchain.snoc hadvance)
      | opened h he hopen hchain => exact .opened h (hmono _ he) hopen (hchain.snoc hadvance)

/-- What openings have and advances keep holds of everything that a run has opened. -/
theorem opened_invariant {P : Thing → Prop} (inputs : List Input)
    (hopen : ∀ e ∈ machine.log start inputs, ∀ thing, life.Opens e thing → P thing)
    (hadvance : ∀ e before after, e ∈ machine.log start inputs → life.Advances e before after → P before →
      P after)
    (hnew : life.thing start id = none) {last : Thing}
    (hlast : life.thing (machine.run start inputs) id = some last) : P last := by
  cases life.origin hinv id inputs hlast with
  | found h _ => cases hnew.symm.trans h
  | opened _ he hopened hchain => exact hchain.keeps (hopen _ he _ hopened) hadvance

end Runs

end Lifecycle

end Xyena.Foundation
