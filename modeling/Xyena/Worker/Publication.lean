import Xyena.Worker.Outbox

/-!
# What the outbox tells about its requests

However many publishers there are and whenever they are lost, the columns of a row
are an exact account of the attempts that were written down: no attempt is lost or
counted twice. An event with a written success is never posted again. An attempt
that was lost is not in the account, and its request is made once more.
-/

namespace Xyena.Worker.Outbox

open Xyena.Foundation Xyena.Contracts

/-! ## What the source promises -/

def attemptOf (id : Uuid) : Notice → Option Reply
  | .attempted other reply => if other = id then some reply else none
  | _ => none

/-- The outcomes of the attempts for an event that were written down. -/
def attempts (history : List Record) (id : Uuid) : List Reply :=
  history.filterMap fun e ↦ attemptOf id e.output

/-- The endpoint has been sent the event, as the row has it, and gave the reply. -/
def Posted (isoformat : Time → String) (history : List Record) (row : OutboxEvent) (reply : Reply) : Prop :=
  ∃ e ∈ history, ∃ delivery, e.output = .posted row.id delivery reply ∧
    delivery.envelope = envelope isoformat row

/-- The row is one that was enqueued, but for the columns of its attempts. -/
def Origin (isoformat : Time → String) (history : List Record) (row : OutboxEvent) : Prop :=
  ∃ e ∈ history, ∃ events event, e.input = .enqueue events ∧ event ∈ events ∧ event.id = row.id ∧
    envelope isoformat (enqueueOutbox event) = envelope isoformat row

/-- What a row tells of the attempts to publish it. -/
structure Account (isoformat : Time → String) (history : List Record) (row : OutboxEvent) : Prop where
  origin : Origin isoformat history row
  count : row.attemptCount = (attempts history row.id).length
  error : row.lastError = (attempts history row.id).getLast?.bind errorOf
  published : row.publishedAt.isSome = true ↔ .ok () ∈ attempts history row.id
  last : .ok () ∉ (attempts history row.id).dropLast
  posted : ∀ reply ∈ attempts history row.id, Posted isoformat history row reply

/-! ## One more step -/

section History

variable {isoformat : Time → String} {history : List Record} {row : OutboxEvent} {e : Record}

theorem attempts_snoc (history : List Record) (e : Record) (id : Uuid) :
    attempts (history ++ [e]) id = attempts history id ++ (attemptOf id e.output).toList := by
  rw [attempts, attempts, List.filterMap_append]
  cases hattempt : attemptOf id e.output with
  | none => simp [hattempt]
  | some reply => simp [hattempt]

theorem attempts_other (history : List Record) {id : Uuid} (h : attemptOf id e.output = none) :
    attempts (history ++ [e]) id = attempts history id := by
  rw [attempts_snoc, h, Option.toList_none, List.append_nil]

theorem Posted.mono {reply : Reply} (h : Posted isoformat history row reply) (e : Record) :
    Posted isoformat (history ++ [e]) row reply := by
  obtain ⟨found, hfound, hposted⟩ := h
  exact ⟨found, List.mem_append_left _ hfound, hposted⟩

theorem Origin.mono (h : Origin isoformat history row) (e : Record) :
    Origin isoformat (history ++ [e]) row := by
  obtain ⟨found, hfound, horigin⟩ := h
  exact ⟨found, List.mem_append_left _ hfound, horigin⟩

/-- A step that is no attempt for the row leaves the account as it is. -/
theorem Account.mono (h : Account isoformat history row) (hother : attemptOf row.id e.output = none) :
    Account isoformat (history ++ [e]) row := by
  have hsame := attempts_other history hother
  refine ⟨h.origin.mono e, ?_, ?_, ?_, ?_, ?_⟩
  · rw [hsame, h.count]
  · rw [hsame, h.error]
  · rw [hsame, h.published]
  · rw [hsame]
    exact h.last
  · rw [hsame]
    exact fun reply hreply ↦ (h.posted reply hreply).mono e

/-- A row that was never attempted before. -/
theorem Account.opened (horigin : Origin isoformat (history ++ [e]) row)
    (hnone : attempts history row.id = [])
    (hother : attemptOf row.id e.output = none) (hcount : row.attemptCount = 0)
    (herror : row.lastError = none)
    (hpublished : row.publishedAt = none) : Account isoformat (history ++ [e]) row := by
  have hempty : attempts (history ++ [e]) row.id = [] := (attempts_other history hother).trans hnone
  refine ⟨horigin, ?_, ?_, ?_, ?_, ?_⟩
  · rw [hempty, hcount, List.length_nil]
  · rw [hempty, herror]
    rfl
  · rw [hempty, hpublished]
    simp
  · simp [hempty]
  · simp [hempty]

/-- One more attempt for a row that is not published yet. -/
theorem Account.attempted (h : Account isoformat history row) (hopen : row.publishedAt = none) {reply : Reply}
    (hposted : Posted isoformat history row reply) (hattempt : e.output = .attempted row.id reply)
    (now : Time) : Account isoformat (history ++ [e]) (settled row reply now row) := by
  have hnot : .ok () ∉ attempts history row.id := by
    rw [← h.published, hopen]
    simp
  have hnow : attempts (history ++ [e]) row.id = attempts history row.id ++ [reply] := by
    rw [attempts_snoc, hattempt]
    simp [attemptOf]
  refine ⟨h.origin.mono e, ?_, ?_, ?_, ?_, ?_⟩ <;> simp only [settled] <;> rw [hnow]
  · rw [h.count, List.length_append, List.length_singleton]
  · rw [List.getLast?_concat]
    rfl
  · cases reply with
    | ok value => simp [Except.isOk, Except.toBool]
    | error text => simpa [Except.isOk, Except.toBool, hopen] using hnot
  · rw [List.dropLast_concat]
    exact hnot
  · rw [List.forall_mem_append, List.forall_mem_singleton]
    exact ⟨fun old hold ↦ (h.posted old hold).mono e, hposted.mono e⟩

end History

/-! ## The invariant -/

/-- What holds after every run of the outbox. -/
structure Sound (isoformat : Time → String) (history : List Record) (state : State) : Prop where
  keys : (state.rows.map OutboxEvent.id).Nodup
  workers : (state.sessions.map Sending.worker).Nodup
  locks : (state.sessions.map fun sending ↦ sending.row.id).Nodup
  held : ∀ sending ∈ state.sessions, sending.row ∈ state.rows ∧ sending.row.publishedAt = none
  told : ∀ sending ∈ state.sessions, ∀ reply, sending.reply = some reply →
    Posted isoformat history sending.row reply
  known : ∀ id, attempts history id ≠ [] → ∃ row ∈ state.rows, row.id = id
  accounts : ∀ row ∈ state.rows, Account isoformat history row
  posts : ∀ e ∈ history, ∀ id delivery reply, e.output = .posted id delivery reply →
    ∃ row ∈ state.rows, row.id = id ∧ envelope isoformat row = delivery.envelope

section Steps

variable {isoformat : Time → String} {history : List Record} {state : State} {e : Record}

theorem Sound.eq_of_id (h : Sound isoformat history state) {first second : OutboxEvent}
    (hfirst : first ∈ state.rows)
    (hsecond : second ∈ state.rows) (hid : first.id = second.id) : first = second :=
  Table.eq_of_key h.keys hfirst hsecond hid

/-- Other publishers hold other rows. -/
theorem Sound.other_row (h : Sound isoformat history state) {worker : String} {sending other : Sending}
    (hsending : state.session worker = some sending) (hother : other ∈ state.others worker) :
    other.row.id ≠ sending.row.id := by
  obtain ⟨hmem, hworker⟩ := session_spec hsending
  obtain ⟨hsession, hne⟩ := mem_others.mp hother
  intro hsame
  obtain rfl := Table.eq_of_key h.locks hsession hmem hsame
  exact hne hworker

/-- The rows and sessions of a step that writes no attempt and posts only what a row has. -/
theorem Sound.quiet (h : Sound isoformat history state) (hquiet : ∀ id, attemptOf id e.output = none)
    (hpost : ∀ id delivery reply, e.output = .posted id delivery reply →
      ∃ row ∈ state.rows, row.id = id ∧ envelope isoformat row = delivery.envelope) :
    Sound isoformat (history ++ [e]) state where
  keys := h.keys
  workers := h.workers
  locks := h.locks
  held := h.held
  told sending hsending reply hreply := (h.told sending hsending reply hreply).mono e
  known id hattempts := h.known id (attempts_other history (hquiet id) ▸ hattempts)
  accounts row hrow := (h.accounts row hrow).mono (hquiet row.id)
  posts := List.forall_mem_append.mpr ⟨h.posts, List.forall_mem_singleton.mpr hpost⟩

/-- A publisher that is gone. -/
theorem Sound.without (h : Sound isoformat history state) (worker : String) :
    Sound isoformat history { state with sessions := state.others worker } where
  keys := h.keys
  workers := h.workers.sublist (List.filter_sublist.map _)
  locks := h.locks.sublist (List.filter_sublist.map _)
  held sending hsending := h.held sending (mem_others.mp hsending).1
  told sending hsending := h.told sending (mem_others.mp hsending).1
  known := h.known
  accounts := h.accounts
  posts := h.posts

/-- One more publisher, which holds a free row. -/
theorem Sound.with (h : Sound isoformat history state) {sending : Sending}
    (hworker : ∀ other ∈ state.sessions, sending.worker ≠ other.worker)
    (hlock : ∀ other ∈ state.sessions, sending.row.id ≠ other.row.id)
    (hheld : sending.row ∈ state.rows ∧ sending.row.publishedAt = none)
    (htold : ∀ reply, sending.reply = some reply → Posted isoformat history sending.row reply) :
    Sound isoformat history { state with sessions := sending :: state.sessions } where
  keys := h.keys
  workers := List.nodup_cons.mpr ⟨by simpa using fun other hother ↦ (hworker other hother).symm, h.workers⟩
  locks := List.nodup_cons.mpr ⟨by simpa using fun other hother ↦ (hlock other hother).symm, h.locks⟩
  held := List.forall_mem_cons.mpr ⟨hheld, h.held⟩
  told := List.forall_mem_cons.mpr ⟨htold, h.told⟩
  known := h.known
  accounts := h.accounts
  posts := h.posts

theorem Sound.enqueued (h : Sound isoformat history state) (events : List Enqueued)
    (hkeys : ((state.rows ++ events.map enqueueOutbox).map OutboxEvent.id).Nodup)
    (hinput : e.input = .enqueue events) (houtput : e.output = .stored) :
    Sound isoformat (history ++ [e]) { state with rows := state.rows ++ events.map enqueueOutbox } := by
  have hquiet (id : Uuid) : attemptOf id e.output = none := by
    rw [houtput]
    rfl
  have hnext := h.quiet hquiet (by simp [houtput])
  refine ⟨hkeys, h.workers, h.locks, fun sending hsending ↦ ?_, hnext.told, fun id hattempts ↦ ?_, ?_,
    fun found hfound id delivery reply hposted ↦ ?_⟩
  · exact ⟨List.mem_append_left _ (h.held sending hsending).1, (h.held sending hsending).2⟩
  · obtain ⟨row, hrow, hid⟩ := hnext.known id hattempts
    exact ⟨row, List.mem_append_left _ hrow, hid⟩
  · refine List.forall_mem_append.mpr ⟨hnext.accounts, fun row hrow ↦ ?_⟩
    obtain ⟨event, hevent, rfl⟩ := List.mem_map.mp hrow
    refine .opened ?_ ?_ (hquiet _) rfl rfl rfl
    · exact ⟨e, List.mem_append_right _ (List.mem_singleton.mpr rfl), events, event, hinput, hevent, rfl, rfl⟩
    · by_contra hattempts
      obtain ⟨old, hold, hid⟩ := h.known _ hattempts
      rw [List.map_append] at hkeys
      exact List.disjoint_of_nodup_append hkeys (List.mem_map_of_mem hold)
        (hid ▸ List.mem_map_of_mem hrow)
  · obtain ⟨row, hrow, hsame⟩ := hnext.posts found hfound id delivery reply hposted
    exact ⟨row, List.mem_append_left _ hrow, hsame⟩

theorem Sound.attempted (h : Sound isoformat history state) {worker : String} (now : Time) {sending : Sending}
    {reply : Reply} (hsending : state.session worker = some sending) (hreply : sending.reply = some reply)
    (houtput : e.output = .attempted sending.row.id reply) :
    Sound isoformat (history ++ [e])
      { rows := state.rows.map fun stored ↦
          if stored.id == sending.row.id then settled sending.row reply now stored else stored
        sessions := state.others worker } := by
  have hmem := (session_spec hsending).1
  obtain ⟨hrow, hopen⟩ := h.held sending hmem
  have hid (stored : OutboxEvent) :
      (if stored.id == sending.row.id then settled sending.row reply now stored else stored).id =
        stored.id := by
    split <;> rfl
  have hother {id : Uuid} (hne : id ≠ sending.row.id) : attemptOf id e.output = none := by
    rw [houtput, attemptOf, if_neg hne.symm]
  refine ⟨?_, h.workers.sublist (List.filter_sublist.map _), h.locks.sublist (List.filter_sublist.map _),
    fun other hsession ↦ ?_, fun other hsession told htold ↦ ?_,
    fun id hattempts ↦ ?_, fun row hmapped ↦ ?_, fun found hfound id delivery told hposted ↦ ?_⟩
  · rw [List.map_map, show OutboxEvent.id ∘ _ = OutboxEvent.id from funext hid]
    exact h.keys
  · obtain ⟨hstored, hpending⟩ := h.held other (mem_others.mp hsession).1
    refine ⟨List.mem_map.mpr ⟨other.row, hstored, ?_⟩, hpending⟩
    rw [if_neg (by simpa using h.other_row hsending hsession)]
  · exact (h.told other (mem_others.mp hsession).1 told htold).mono e
  · by_cases hne : id = sending.row.id
    · exact ⟨_, List.mem_map_of_mem hrow, (hid sending.row).trans hne.symm⟩
    · rw [attempts_other history (hother hne)] at hattempts
      obtain ⟨row, hstored, hrowId⟩ := h.known id hattempts
      exact ⟨_, List.mem_map_of_mem hstored, (hid row).trans hrowId⟩
  · obtain ⟨stored, hstored, rfl⟩ := List.mem_map.mp hmapped
    split
    next hsame =>
      -- The lock has kept the row as the publisher has read it.
      obtain rfl : stored = sending.row := h.eq_of_id hstored hrow (beq_iff_eq.mp hsame)
      exact (h.accounts _ hrow).attempted hopen (h.told sending hmem reply hreply) houtput now
    next hne => exact (h.accounts stored hstored).mono (hother (by simpa using hne))
  · rcases List.mem_append.mp hfound with hbefore | hnew
    · obtain ⟨row, hstored, hrowId, hsame⟩ := h.posts found hbefore id delivery told hposted
      refine ⟨_, List.mem_map_of_mem hstored, (hid row).trans hrowId, Eq.trans ?_ hsame⟩
      split <;> rfl
    · rw [List.mem_singleton.mp hnew, houtput] at hposted
      cases hposted

theorem Sound.step (h : Sound isoformat history state) (input : Step) :
    Sound isoformat (history ++ [(outbox isoformat).entry state input])
      ((outbox isoformat).step state input).2 := by
  have hoccurs := step_cases isoformat state input
  have hinput : ((outbox isoformat).entry state input).input = input := rfl
  have houtput : ((outbox isoformat).entry state input).output = (state.step isoformat input).1 := rfl
  change Sound isoformat _ (state.step isoformat input).2
  generalize (outbox isoformat).entry state input = e at hinput houtput ⊢
  rcases hoccurs with ⟨hsame, hidle⟩ | hmove
  · rw [hsame]
    rcases List.mem_pair.mp hidle with hnothing | hreturned
    · exact h.quiet (fun id ↦ by rw [houtput, hnothing]; rfl) (by simp [houtput, hnothing])
    · exact h.quiet (fun id ↦ by rw [houtput, hreturned]; rfl) (by simp [houtput, hreturned])
  · generalize (state.step isoformat input).1 = output at houtput hmove
    generalize (state.step isoformat input).2 = after at hmove
    cases hmove with
    | enqueued events hkeys => exact h.enqueued events hkeys hinput houtput
    | begun worker settings endpoint row hidle hrow =>
      obtain ⟨hstored, hopen, hfree, -⟩ := nextEvent_spec hrow
      refine (h.with ?_ ?_ ⟨hstored, hopen⟩ (by simp)).quiet (fun id ↦ by rw [houtput]; rfl)
        (by simp [houtput])
      · intro other hother hsame
        simp only [State.busy, List.any_eq_false, beq_iff_eq] at hidle
        exact hidle other hother hsame.symm
      · exact fun other hother hsame ↦ hfree other hother hsame.symm
    | posted worker reply sending hsending hreply =>
      have hmem := (session_spec hsending).1
      have hquiet (id : Uuid) : attemptOf id e.output = none := by
        rw [houtput]
        rfl
      have hpost : ∀ id delivery told, e.output = .posted id delivery told →
          ∃ row ∈ state.rows, row.id = id ∧ envelope isoformat row = delivery.envelope := by
        intro id delivery told hposted
        rw [houtput] at hposted
        obtain ⟨rfl, rfl, rfl⟩ := Notice.posted.inj hposted
        exact ⟨sending.row, (h.held sending hmem).1, rfl, rfl⟩
      refine ((h.quiet hquiet hpost).without worker).with ?_ ?_ (h.held sending hmem) ?_
      · intro other hother
        exact fun hsame ↦ (mem_others.mp hother).2 (hsame.symm.trans (session_spec hsending).2)
      · exact fun other hother hsame ↦ h.other_row hsending hother hsame.symm
      · intro told htold
        obtain rfl := Option.some.inj htold
        exact ⟨e, List.mem_append_right _ (List.mem_singleton.mpr rfl), _, houtput, rfl⟩
    | attempted worker now sending reply hsending hreply => exact h.attempted now hsending hreply houtput
    | lost worker => exact (h.quiet (fun id ↦ by rw [houtput]; rfl) (by simp [houtput])).without worker

end Steps

theorem sound_empty (isoformat : Time → String) : Sound isoformat [] {} where
  keys := List.nodup_nil
  workers := .nil
  locks := .nil
  held := by simp
  told := by simp
  known := by simp [attempts]
  accounts := by simp
  posts := by simp

theorem sound_run (isoformat : Time → String) (steps : List Step) :
    Sound isoformat ((outbox isoformat).log {} steps) ((outbox isoformat).run {} steps) :=
  (outbox isoformat).history_invariant_all (Sound isoformat) (sound_empty isoformat)
    (fun _ _ input h ↦ h.step input) steps

/-! ## The account of a row -/

/-- After any run, the columns of every row are the account of its attempts. -/
theorem outbox_accounts (isoformat : Time → String) (steps : List Step) :
    ∀ row ∈ ((outbox isoformat).run {} steps).rows, Account isoformat ((outbox isoformat).log {} steps) row :=
  (sound_run isoformat steps).accounts

section Example

def completedEvent : Enqueued :=
  ⟨1, 10, "AGENT_RUN", 3, 1, "agent.completed", 4, [("mode", .str "explore")], 50⟩

def changedEvent : Enqueued := ⟨2, 10, "MCP_TOOL_CALL", 5, 2, "mcp.tool.completed", 4, [], 60⟩

def webhook : WorkerSettings := ⟨some "https://events.example/xyena", none⟩

/-- Two publishers. The first request fails, and the publisher of the second one is lost. -/
def retried : List Step :=
  [.enqueue [completedEvent, changedEvent], .begin "a" webhook, .begin "b" webhook, .post "a" (.error "503"),
    .post "b" (.ok ()), .commit "a" 70, .lost "b", .begin "a" webhook, .post "a" (.ok ()), .commit "a" 80]

/-- The row of the first event at the end. -/
def completedRow : OutboxEvent :=
  { enqueueOutbox completedEvent with publishedAt := some 80, attemptCount := 2 }

theorem completedRow_mem : completedRow ∈ ((outbox Calendar.isoformat).run {} retried).rows :=
  List.mem_cons_self

theorem retried_accounts : completedRow.attemptCount = 2 ∧
    Account Calendar.isoformat ((outbox Calendar.isoformat).log {} retried) completedRow :=
  ⟨rfl, outbox_accounts _ retried _ completedRow_mem⟩

end Example

/-! ## Published events -/

section Published

variable {isoformat : Time → String} {history : List Record} {state : State} {row : OutboxEvent}

/-- A published row stays as it is. -/
theorem Sound.published_kept (h : Sound isoformat history state) (hrow : row ∈ state.rows)
    (hpublished : row.publishedAt.isSome = true) (input : Step) :
      row ∈ (state.step isoformat input).2.rows := by
  rcases step_cases isoformat state input with ⟨hsame, -⟩ | hmove
  · rwa [hsame]
  · generalize (state.step isoformat input).1 = output at hmove
    generalize (state.step isoformat input).2 = after at hmove ⊢
    cases hmove with
    | enqueued events hkeys => exact List.mem_append_left _ hrow
    | begun worker settings endpoint row hidle hnext => exact hrow
    | posted worker reply sending hsending hreply => exact hrow
    | attempted worker now sending reply hsending hreply =>
      obtain ⟨hstored, hopen⟩ := h.held sending (session_spec hsending).1
      refine List.mem_map.mpr ⟨row, hrow, if_neg ?_⟩
      intro hsame
      rw [h.eq_of_id hrow hstored (beq_iff_eq.mp hsame), hopen] at hpublished
      cases hpublished
    | lost worker => exact hrow

/-- A published row is not posted. -/
theorem Sound.published_silent (h : Sound isoformat history state) (hrow : row ∈ state.rows)
    (hpublished : row.publishedAt.isSome = true) (input : Step) (delivery : Delivery) (reply : Reply) :
    (state.step isoformat input).1 ≠ .posted row.id delivery reply := by
  intro hposted
  rcases step_cases isoformat state input with ⟨-, hidle⟩ | hmove
  · simp [hposted] at hidle
  · rw [hposted] at hmove
    generalize (state.step isoformat input).2 = after at hmove
    generalize hid : row.id = id at hmove
    cases hmove with
    | posted worker reply sending hsending hreply =>
      obtain ⟨hstored, hopen⟩ := h.held sending (session_spec hsending).1
      rw [h.eq_of_id hrow hstored hid, hopen] at hpublished
      cases hpublished

end Published

/-- All requests for an event carry what its row has. Once an event is published in a run, its row stays
and no request for it is made any more. -/
theorem published_final (isoformat : Time → String) (earlier later : List Step) :
    let before := (outbox isoformat).run {} earlier
    let after := (outbox isoformat).run {} (earlier ++ later)
    (∀ row ∈ after.rows, ∀ e ∈ (outbox isoformat).log {} (earlier ++ later), ∀ delivery reply,
      e.output = .posted row.id delivery reply → delivery.envelope = envelope isoformat row) ∧
    ∀ row ∈ before.rows, row.publishedAt.isSome = true → row ∈ after.rows ∧
      ∀ e ∈ (outbox isoformat).log before later, ∀ delivery reply,
        e.output ≠ .posted row.id delivery reply := by
  constructor
  · intro row hrow e he delivery reply hposted
    have h := sound_run isoformat (earlier ++ later)
    obtain ⟨stored, hstored, hid, hsame⟩ := h.posts e he row.id delivery reply hposted
    rw [← hsame, h.eq_of_id hstored hrow hid]
  · intro row hrow hpublished
    have hrun (steps : List Step) : row ∈ ((outbox isoformat).run {} (earlier ++ steps)).rows := by
      induction steps using List.reverseRecOn with
      | nil => rwa [List.append_nil]
      | append_singleton steps input ih =>
        rw [← List.append_assoc, Machine.run_snoc]
        exact (sound_run isoformat (earlier ++ steps)).published_kept ih hpublished input
    refine ⟨hrun later, fun e he delivery reply ↦ ?_⟩
    obtain ⟨steps, input, rest, -, rfl⟩ := ((outbox isoformat).mem_log_iff _ later e).mp he
    rw [← Machine.run_append]
    exact (sound_run isoformat (earlier ++ steps)).published_silent
      (hrun steps) hpublished input delivery reply

end Xyena.Worker.Outbox
