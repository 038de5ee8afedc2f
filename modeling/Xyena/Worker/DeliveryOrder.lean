import Xyena.Worker.Publication

/-!
# Delivery in order of creation

One publisher alone posts the events in the order in which they were created, when
rows are stored in that order: a row that the endpoint does not accept holds back
everything that is younger.
-/

namespace Xyena.Worker.Outbox

open Xyena.Foundation Xyena.Contracts

/-! ## What the source promises -/

/-- The step is no start of another publisher. -/
def OnlyBy (worker : String) (e : Record) : Prop :=
  ∀ other settings, e.input = .begin other settings → other = worker

/-- New rows are not older than the stored ones. -/
def StoresInOrder (e : Record) : Prop :=
  ∀ events, e.input = .enqueue events → ∀ row ∈ e.before.rows, ∀ event ∈ events, row.createdAt ≤ event.now

/-- Everything older than a row is published. -/
def Clear (rows : List OutboxEvent) (row : OutboxEvent) : Prop :=
  ∀ older ∈ rows, older.createdAt < row.createdAt → older.publishedAt.isSome = true

/-! ## The invariant -/

structure InOrder (isoformat : Time → String) (worker : String) (history : List Record) (state : State) :
    Prop where
  sound : Sound isoformat history state
  alone : ∀ sending ∈ state.sessions, sending.worker = worker
  sending : ∀ sending ∈ state.sessions, Clear state.rows sending.row
  published : ∀ row ∈ state.rows, row.publishedAt.isSome = true → Clear state.rows row
  posted : ∀ e ∈ history, ∀ id delivery reply, e.output = .posted id delivery reply →
    ∀ row ∈ e.before.rows, row.id = id → Clear e.before.rows row

section Steps

variable {isoformat : Time → String} {worker : String} {history : List Record} {state : State}

/-- The row of an attempt, or of none. -/
theorem settled_createdAt {id : Uuid} {read stored : OutboxEvent} {reply : Reply} {now : Time} :
    (if stored.id == id then settled read reply now stored else stored).createdAt = stored.createdAt := by
  split <;> rfl

/-- What is published stays so. -/
theorem settled_published {id : Uuid} {read stored : OutboxEvent} {reply : Reply} {now : Time}
    (h : stored.publishedAt.isSome = true) :
    (if stored.id == id then settled read reply now stored else stored).publishedAt.isSome = true := by
  split
  · simp only [settled]
    split
    · rfl
    · exact h
  · exact h

/-- An attempt keeps what is clear. -/
theorem Clear.attempted {rows : List OutboxEvent} {row : OutboxEvent} (h : Clear rows row) (id : Uuid)
    (read : OutboxEvent) (reply : Reply) (now : Time) :
    Clear (rows.map fun stored ↦ if stored.id == id then settled read reply now stored else stored) row := by
  intro older holder hlt
  obtain ⟨stored, hstored, rfl⟩ := List.mem_map.mp holder
  rw [settled_createdAt] at hlt
  exact settled_published (h stored hstored hlt)

/-- Rows that are not older leave it clear. -/
theorem Clear.append {rows new : List OutboxEvent} {row : OutboxEvent} (h : Clear rows row)
    (hnew : ∀ added ∈ new, row.createdAt ≤ added.createdAt) : Clear (rows ++ new) row := by
  refine List.forall_mem_append.mpr ⟨h, fun added hadded hlt ↦ ?_⟩
  exact absurd hlt (not_lt.mpr (hnew added hadded))

theorem InOrder.step (h : InOrder isoformat worker history state) (input : Step)
    (hby : OnlyBy worker ((outbox isoformat).entry state input))
    (hsorted : StoresInOrder ((outbox isoformat).entry state input)) :
    InOrder isoformat worker (history ++ [(outbox isoformat).entry state input])
      ((outbox isoformat).step state input).2 := by
  have hsound := h.sound.step input
  have hlast (hpost : ∀ id delivery reply, (state.step isoformat input).1 = .posted id delivery reply →
      ∀ row ∈ state.rows, row.id = id → Clear state.rows row) :
      ∀ e ∈ history ++ [(outbox isoformat).entry state input], ∀ id delivery reply,
        e.output = .posted id delivery reply → ∀ row ∈ e.before.rows, row.id = id → Clear e.before.rows row :=
    List.forall_mem_append.mpr ⟨h.posted, List.forall_mem_singleton.mpr hpost⟩
  have hby' : ∀ other settings, input = .begin other settings → other = worker := hby
  have hsorted' : ∀ events, input = .enqueue events →
      ∀ row ∈ state.rows, ∀ event ∈ events, row.createdAt ≤ event.now := hsorted
  change InOrder isoformat worker _ (state.step isoformat input).2
  change Sound isoformat _ (state.step isoformat input).2 at hsound
  have hoccurs := step_cases isoformat state input
  generalize (outbox isoformat).entry state input = e at hsound hlast ⊢
  rcases hoccurs with ⟨hsame, hidle⟩ | hmove
  · rw [hsame] at hsound ⊢
    refine ⟨hsound, h.alone, h.sending, h.published, hlast fun id delivery reply hposted ↦ ?_⟩
    simp [hposted] at hidle
  · generalize (state.step isoformat input).1 = output at hmove hlast
    generalize (state.step isoformat input).2 = after at hmove hsound ⊢
    cases hmove with
    | enqueued events hkeys =>
      have hnew {row : OutboxEvent} (hrow : row ∈ state.rows) :
          ∀ added ∈ events.map enqueueOutbox, row.createdAt ≤ added.createdAt := by
        intro added hadded
        obtain ⟨event, hevent, rfl⟩ := List.mem_map.mp hadded
        exact hsorted' events rfl row hrow event hevent
      refine ⟨hsound, h.alone, fun sending hsending ↦ ?_, fun row hrow hpublished ↦ ?_, hlast (by simp)⟩
      · exact (h.sending sending hsending).append (hnew (h.sound.held sending hsending).1)
      · rcases List.mem_append.mp hrow with hold | hadded
        · exact (h.published row hold hpublished).append (hnew hold)
        · obtain ⟨event, -, rfl⟩ := List.mem_map.mp hadded
          cases hpublished
    | begun starter settings endpoint row hidle hrow =>
      obtain rfl := hby' starter settings rfl
      obtain ⟨-, -, -, hclear⟩ := nextEvent_spec hrow
      -- The publisher is idle, and there is no other one that could hold an older row.
      have hnone : state.sessions = [] := by
        refine List.eq_nil_iff_forall_not_mem.mpr fun other hother ↦ ?_
        simp only [State.busy, List.any_eq_false, beq_iff_eq] at hidle
        exact hidle other hother (h.alone other hother)
      refine ⟨hsound, ?_, ?_, h.published, hlast (by simp)⟩
      · exact List.forall_mem_cons.mpr ⟨rfl, h.alone⟩
      · refine List.forall_mem_cons.mpr ⟨fun older holder hlt ↦ ?_, h.sending⟩
        rcases hclear older holder hlt with hpublished | ⟨other, hother, -⟩
        · exact hpublished
        · simp [hnone] at hother
    | posted poster reply sending hsending hreply =>
      have hmem := (session_spec hsending).1
      refine ⟨hsound, ?_, ?_, h.published, hlast fun id delivery told hposted row hrow hid ↦ ?_⟩
      · exact List.forall_mem_cons.mpr
          ⟨h.alone sending hmem, fun other hother ↦ h.alone other (mem_others.mp hother).1⟩
      · exact List.forall_mem_cons.mpr
          ⟨h.sending sending hmem, fun other hother ↦ h.sending other (mem_others.mp hother).1⟩
      · obtain ⟨rfl, -, -⟩ := Notice.posted.inj hposted
        rw [h.sound.eq_of_id hrow (h.sound.held sending hmem).1 hid]
        exact h.sending sending hmem
    | attempted attempter now sending reply hsending hreply =>
      have hmem := (session_spec hsending).1
      refine ⟨hsound, fun other hother ↦ h.alone other (mem_others.mp hother).1, fun other hother ↦ ?_,
        fun row hmapped hpublished ↦ ?_, hlast (by simp)⟩
      · exact (h.sending other (mem_others.mp hother).1).attempted _ _ reply now
      · obtain ⟨stored, hstored, rfl⟩ := List.mem_map.mp hmapped
        have hclear : Clear state.rows stored := by
          by_cases hid : stored.id = sending.row.id
          · rw [h.sound.eq_of_id hstored (h.sound.held sending hmem).1 hid]
            exact h.sending sending hmem
          · rw [if_neg (by simpa using hid)] at hpublished
            exact h.published stored hstored hpublished
        intro older holder hlt
        rw [settled_createdAt] at hlt
        exact hclear.attempted _ _ reply now older holder hlt
    | lost loser =>
      refine ⟨hsound, fun other hother ↦ h.alone other (mem_others.mp hother).1,
        fun other hother ↦ h.sending other (mem_others.mp hother).1, h.published, hlast (by simp)⟩

end Steps

theorem inOrder_run (isoformat : Time → String) (worker : String) (steps : List Step)
    (hby : ∀ e ∈ (outbox isoformat).log {} steps, OnlyBy worker e)
    (hsorted : ∀ e ∈ (outbox isoformat).log {} steps, StoresInOrder e) :
    InOrder isoformat worker ((outbox isoformat).log {} steps) ((outbox isoformat).run {} steps) :=
  (outbox isoformat).history_invariant (InOrder isoformat worker) (fun e ↦ OnlyBy worker e ∧ StoresInOrder e)
    ⟨sound_empty isoformat, by simp, by simp, by simp, by simp⟩
    (fun _ _ input h hadmitted ↦ h.step input hadmitted.1 hadmitted.2) steps
    (fun e he ↦ ⟨hby e he, hsorted e he⟩)

/-! ## The order of delivery -/

/-- With one publisher, and rows stored in the order of their creation, an event is posted only when all
older ones are published. So is every published event. -/
theorem published_in_order (isoformat : Time → String) (worker : String) (steps : List Step)
    (hby : ∀ e ∈ (outbox isoformat).log {} steps, OnlyBy worker e)
    (hsorted : ∀ e ∈ (outbox isoformat).log {} steps, StoresInOrder e) :
    (∀ e ∈ (outbox isoformat).log {} steps, ∀ id delivery reply, e.output = .posted id delivery reply →
      ∀ row ∈ e.before.rows, row.id = id → Clear e.before.rows row) ∧
    ∀ row ∈ ((outbox isoformat).run {} steps).rows, row.publishedAt.isSome = true →
      Clear ((outbox isoformat).run {} steps).rows row :=
  ⟨(inOrder_run isoformat worker steps hby hsorted).posted,
    (inOrder_run isoformat worker steps hby hsorted).published⟩

section Example

/-- The second event waits for the first one. -/
def queued : List Step :=
  .enqueue [completedEvent, changedEvent] ::
    [.begin "a" webhook, .post "a" (.error "503"), .commit "a" 70, .begin "a" webhook, .post "a" (.ok ()),
      .commit "a" 80, .begin "a" webhook, .post "a" (.ok ()), .commit "a" 90]

/-- The row of the second event at the end. -/
def changedRow : OutboxEvent :=
  { enqueueOutbox changedEvent with publishedAt := some 90, attemptCount := 1 }

theorem queued_alone : ∀ e ∈ (outbox Calendar.isoformat).log {} queued, OnlyBy "a" e := by
  intro e he other settings hinput
  have hmem := (outbox Calendar.isoformat).input_mem he
  rw [hinput] at hmem
  simp only [queued, List.mem_cons, Step.begin.injEq, reduceCtorEq, false_or, List.not_mem_nil, or_false]
    at hmem
  tauto

theorem queued_sorted : ∀ e ∈ (outbox Calendar.isoformat).log {} queued, StoresInOrder e := by
  refine List.forall_mem_cons.mpr ⟨?_, fun e he events hinput ↦ ?_⟩
  · rintro events - row ⟨⟩
  · have hmem := (outbox Calendar.isoformat).input_mem he
    rw [hinput] at hmem
    simp at hmem

theorem changedRow_mem : changedRow ∈ ((outbox Calendar.isoformat).run {} queued).rows :=
  List.mem_cons_of_mem _ List.mem_cons_self

theorem queued_in_order : changedRow.publishedAt = some 90 ∧
    Clear ((outbox Calendar.isoformat).run {} queued).rows changedRow :=
  ⟨rfl, (published_in_order Calendar.isoformat "a" queued queued_alone queued_sorted).2 changedRow
    changedRow_mem rfl⟩

end Example

end Xyena.Worker.Outbox
