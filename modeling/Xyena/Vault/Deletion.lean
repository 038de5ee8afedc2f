import Xyena.Foundation.OwnedRows
import Xyena.Vault.Isolation

/-!
# Deleted objects

A deletion is final unless a call that had found the object pending completes the
upload after it.
-/

namespace Xyena.Vault

open Xyena.Foundation Xyena.Foundation.Session Xyena.Foundation.Interleaving Xyena.Contracts

/-! ## What the source promises -/

abbrev VaultWorld := World VaultDb VaultCall StoreRequest Reply (Except VaultError Outcome)

/-- The status of an object. -/
def statusOf (id : Uuid) (world : VaultWorld) : Option ObjectStatus :=
  (Table.lookup DataObject.id id world.db.objects).map DataObject.status

/-- The step completes the upload of the object. -/
def Completes (id : Uuid) (e : VaultRecord) : Prop :=
  ∃ call answer, call.request = .completeUpload id ∧ e.output = .finished call (.ok answer)

/-! ## One commit -/

section Commit

variable {db : VaultDb} {call : VaultCall} {events : List (Event StoreRequest Reply)}
  {result : Except VaultError Outcome} {id : Uuid} {row : DataObject}

/-- An object that has been deleted is deleted after a commit, unless the commit completes its upload. -/
theorem deleted_commit (hgranted : Granted db call events result)
    (hrow : Table.lookup DataObject.id id db.objects = some row) (hdeleted : row.status = .deleted) :
    (Table.lookup DataObject.id id (commit db call result).2.objects).map DataObject.status = some .deleted ↔
      ¬(call.request = .completeUpload id ∧ ∃ answer, (commit db call result).1 = .ok answer) := by
  have hbefore : (Table.lookup DataObject.id id db.objects).map DataObject.status = some .deleted := by
    rw [hrow, Option.map_some, hdeleted]
  have hid := (Table.lookup_spec hrow).2
  rcases commit_cases db call result with
    ⟨failure, hcommit⟩ | ⟨answer, rfl, hcommit⟩ | ⟨answer, writes, rfl, haccepted, hcommit⟩
  · simp [hcommit, hbefore]
  · simp only [hcommit, hbefore, true_iff, not_and]
    intro hrequest
    obtain ⟨writes, version, hnone, -⟩ := (hgranted answer none rfl).2.2 id hrequest
    cases hnone
  · obtain ⟨-, hallowed, hactivates⟩ := hgranted answer (some writes) rfl
    have hallowed := hallowed writes rfl
    simp only [hcommit, Except.ok.injEq, exists_eq', and_true]
    constructor
    · rintro hafter hrequest
      obtain ⟨_, version, ⟨⟩, hobject⟩ := hactivates id hrequest
      have hobjects : (writes.apply db).objects = db.objects.map (assigned id .active version none) := by
        rw [Writes.apply, hobject]
        rfl
      rw [hobjects, Table.lookup_map _ fun row ↦ (assigned_same id .active version none row).id, hrow]
        at hafter
      simp [assigned, hid] at hafter
    · intro hother
      cases hobject : writes.object with
      | none =>
        have hobjects : (writes.apply db).objects = db.objects := by
          rw [Writes.apply, hobject]
          rfl
        rw [hobjects, hbefore]
      | some write =>
        cases write with
        | insert new =>
          have hobjects : (writes.apply db).objects = db.objects ++ [new] := by
            rw [Writes.apply, hobject]
            rfl
          have hnew : new.id ≠ id := by
            rw [← hid]
            exact insert_fresh haccepted hobject row (Table.lookup_spec hrow).1
          rw [hobjects, Table.lookup_append_other _ hnew, hbefore]
        | assign target status version deletedAt =>
          have hobjects : (writes.apply db).objects =
              db.objects.map (assigned target status version deletedAt) := by
            rw [Writes.apply, hobject]
            rfl
          obtain ⟨stored, -, -, hstatus⟩ := hallowed.assigned target status version deletedAt hobject
          rw [hobjects, Table.lookup_map _ fun row ↦ (assigned_same target status version deletedAt row).id,
            hrow, Option.map_some, Option.map_some, Option.some.injEq]
          rcases hstatus with ⟨rfl, -, hrequest⟩ | ⟨rfl, -⟩
          · have htarget : row.id ≠ target := by
              rw [hid]
              rintro rfl
              exact hother hrequest
            rw [assigned, if_neg (by simpa using htarget), hdeleted]
          · rw [assigned]
            split
            · rfl
            · exact hdeleted

end Commit

/-! ## Every interleaving -/

section Runs

variable (platform : VaultPlatform) (signals : List (Signal VaultCall StoreRequest Reply)) (id : Uuid)

/-- One step from a reachable state. -/
theorem deleted_step {history : List VaultRecord} {world : VaultWorld}
    (h : Sound (vault platform) Kept Permitted Granted history world)
    (signal : Signal VaultCall StoreRequest Reply) (hdeleted : statusOf id world = some .deleted) :
    statusOf id ((vault platform).machine.step world signal).2 = statusOf id world ↔
      ¬Completes id ((vault platform).machine.entry world signal) := by
  obtain ⟨row, hrow, hstatus⟩ := Option.map_eq_some_iff.mp hdeleted
  have hhappens := (vault platform).step_happens world signal
  have houtput : ((vault platform).machine.entry world signal).output =
    ((vault platform).step world signal).1 :=
    rfl
  rw [hdeleted]
  change statusOf id ((vault platform).step world signal).2 = _ ↔ _
  generalize (vault platform).machine.entry world signal = e at houtput ⊢
  generalize ((vault platform).step world signal).1 = output at hhappens houtput
  generalize ((vault platform).step world signal).2 = after at hhappens
  have hsame (hdb : after.db = world.db) (hopen : ∀ call answer, output ≠ .finished call (.ok answer)) :
      statusOf id after = some .deleted ↔ ¬Completes id e := by
    rw [statusOf, hdb]
    refine ⟨fun _ ⟨call, answer, _, hfinished⟩ ↦ ?_, fun _ ↦ hdeleted⟩
    exact hopen call answer (houtput.symm.trans hfinished)
  cases hhappens with
  | idle => exact hsame rfl (by simp)
  | begun flight call hfree => exact hsame rfl (by simp)
  | asked flight oracle call events effect next hflight => exact hsame rfl (by simp)
  | refused flight call events result hflight => exact hsame rfl (by simp [vault])
  | committed flight call events result hflight =>
    have hgranted : Granted world.db call events result := (h.flights flight _ hflight).1
    have hcommit := deleted_commit hgranted hrow hstatus
    refine hcommit.trans (not_congr ⟨?_, ?_⟩)
    · rintro ⟨hrequest, answer, hanswer⟩
      exact ⟨call, answer, hrequest, houtput.trans (congrArg (Notice.finished call) hanswer)⟩
    · rintro ⟨caller, answer, hrequest, hfinished⟩
      obtain ⟨rfl, hanswer⟩ := Notice.finished.inj (houtput.symm.trans hfinished)
      exact ⟨hrequest, answer, hanswer⟩
  | lost flight => exact hsame rfl (by simp)

/-- A deletion is final in a run exactly when no step of it completes the upload of the deleted object. -/
theorem deletion_final_iff : (vault platform).machine.Final (statusOf id) (· = some .deleted)
    ⟨{}, fun _ ↦ none⟩
    signals ↔ ∀ e ∈ vaultLog platform signals, statusOf id e.before = some .deleted → ¬Completes id e := by
  rw [Machine.final_iff]
  refine forall₂_congr fun e he ↦ imp_congr_right fun hdeleted ↦ ?_
  obtain ⟨earlier, signal, later, -, rfl⟩ := ((vault platform).machine.mem_log_iff _ signals e).mp he
  exact deleted_step platform id (sound_run platform earlier) signal hdeleted

end Runs

/-! ## A deletion that is undone -/

/-- The photo is uploaded, completed by one of two calls that have found it pending, and deleted. -/
def photoDeleted : List (Signal VaultCall StoreRequest Reply) :=
  [.begin 0 (calling 10 (.initiateUpload photo)), .reply 0 replying, .finish 0 false,
    .begin 1 (calling 20 (.completeUpload 10)), .begin 2 (calling 30 (.completeUpload 10)),
    .reply 1 replying, .reply 2 replying, .finish 1 false,
    .begin 3 (calling 40 (.delete 10)), .reply 3 replying, .finish 3 false]

/-- The other call completes the upload of the deleted photo. -/
theorem deletion_undone : ¬(vault ⟨Char.isAlphanum⟩).machine.Final (statusOf 10) (· = some .deleted)
    ⟨{}, fun _ ↦ none⟩ (photoDeleted ++ [.finish 2 false]) := by
  intro hfinal
  have hdeleted : statusOf 10 ((vault ⟨Char.isAlphanum⟩).machine.run ⟨{}, fun _ ↦ none⟩ photoDeleted) =
      some .deleted := by
    decide +kernel
  have hactive : statusOf 10 ((vault ⟨Char.isAlphanum⟩).machine.run ⟨{}, fun _ ↦ none⟩
      (photoDeleted ++ [.finish 2 false])) = some .active := by
    decide +kernel
  have hsame := hfinal photoDeleted [.finish 2 false] [] (by simp) hdeleted
  rw [hdeleted, hactive] at hsame
  cases hsame

end Xyena.Vault
