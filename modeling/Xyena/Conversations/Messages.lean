import Xyena.Conversations.Service

/-!
# The messages of a conversation

The messages of every conversation are numbered from one on without gaps, in the
order in which they were stored, and a writer is only refused for a text that a column
does not take or an identifier in use. Each message of a user has exactly one run and one job for it, and every run
is for the tenant, the user and the session of its conversation.
-/

namespace Xyena.Conversations

open Xyena.Foundation Xyena.Contracts

/-! ## What the source promises -/

def Session.owner (row : Session) : Uuid × Uuid × Uuid := (row.id, row.tenantId, row.userId)

def Conversation.owner (row : Conversation) : Uuid × Uuid × Uuid := (row.sessionId, row.tenantId, row.userId)

def Conversation.scope (row : Conversation) : Uuid × Uuid × Uuid × Uuid :=
  (row.id, row.tenantId, row.userId, row.sessionId)

def AgentRun.scope (row : AgentRun) : Uuid × Uuid × Uuid × Uuid :=
  (row.conversationId, row.tenantId, row.userId, row.sessionId)

/-- What a job is about. -/
def Job.order (row : Job) : Uuid × String × Dict := (row.tenantId, row.jobType, row.payload)

/-- The order of a run. -/
def AgentRun.order (row : AgentRun) : Uuid × String × Dict :=
  (row.tenantId, "agent.run", [("run_id", .str row.id.str)])

def Message.input (row : Message) : Uuid × Uuid × Uuid := (row.id, row.conversationId, row.tenantId)

def AgentRun.input (row : AgentRun) : Uuid × Uuid × Uuid :=
  (row.inputMessageId, row.conversationId, row.tenantId)

/-- The messages of users. -/
def State.userMessages (state : State) : List Message := state.messages.filter fun row ↦ row.role == "user"

/-- The messages of a conversation are numbered from one on, in their order. -/
def State.Numbered (state : State) (conversationId : Uuid) : Prop :=
  (state.messagesOf conversationId).map Message.sequence =
    List.range' 1 (state.messagesOf conversationId).length

/-- The transaction of a writer is for the conversation that it has locked. -/
def Writing.Fits (writing : Writing) : Prop :=
  match writing.work with
  | .userMessage principal _ _ =>
    principal.tenantId = writing.conversation.tenantId ∧ principal.userId = writing.conversation.userId
  | .answer tenantId run _ => tenantId = writing.conversation.tenantId ∧
    run.conversationId = writing.conversation.id

structure Sound (state : State) : Prop where
  accepted : state.Accepted
  sessions : ∀ row ∈ state.conversations, row.owner ∈ state.sessions.map Session.owner
  tenants : ∀ row ∈ state.messages,
    (row.conversationId, row.tenantId) ∈ state.conversations.map fun row ↦ (row.id, row.tenantId)
  numbered : ∀ conversationId, state.Numbered conversationId
  runs : ∀ row ∈ state.runs, row.scope ∈ state.conversations.map Conversation.scope
  jobs : state.jobs.map Job.order = state.runs.map AgentRun.order
  inputs : state.userMessages.map Message.input = state.runs.map AgentRun.input
  writers : (state.writings.map Writing.writer).Nodup
  locks : (state.writings.map fun writing ↦ writing.conversation.id).Nodup
  read : ∀ writing ∈ state.writings, writing.lastSequence = (state.messagesOf writing.conversation.id).length
  held : ∀ writing ∈ state.writings, writing.Fits ∧
    writing.conversation.scope ∈ state.conversations.map Conversation.scope

/-! ## What a step can do -/

/-- What a step can leave. -/
inductive Move (state : State) : State → Prop
  | idle : Move state state
  | opened (row : Session)
      (haccepted : ({ state with sessions := state.sessions ++ [row] } : State).Accepted) :
    Move state { state with sessions := state.sessions ++ [row] }
  | closed (row : Session) (hrow : row ∈ state.sessions) :
    Move state
      { state with sessions := Table.replace Session.id { row with status := "CLOSED" } state.sessions }
  | created (row : Conversation) (hsession : row.owner ∈ state.sessions.map Session.owner)
      (haccepted : ({ state with conversations := state.conversations ++ [row] } : State).Accepted) :
    Move state { state with conversations := state.conversations ++ [row] }
  | locked (writer : Nat) (request : WriteRequest) (conversation : Conversation) (work : Work)
      (hidle : state.writing writer = none) (htarget : state.target request = .ok (conversation, work))
      (hfree : state.locked conversation.id = false) :
    Move state { state with
      writings := ⟨writer, conversation, state.lastSequence conversation.id, work⟩ :: state.writings }
  | committed (writing : Writing) (uuid : Nat → Uuid) (now : Time) (hwriting : writing ∈ state.writings)
      (haccepted : (state.written writing uuid now).2.Accepted) :
    Move state (state.written writing uuid now).2
  | released (writer : Nat) : Move state { state with writings := state.others writer }

section Steps

variable {state : State}

theorem getSession_spec {principal : AuthenticatedPrincipal} {sessionId : Uuid} {row : Session}
    (h : state.getSession principal sessionId = some row) :
    row ∈ state.sessions ∧ row.id = sessionId ∧ row.tenantId = principal.tenantId ∧
      row.userId = principal.userId := by
  have hfound := List.find?_some h
  simp only [Bool.and_eq_true, beq_iff_eq] at hfound
  exact ⟨List.mem_of_find?_eq_some h, hfound.1.1, hfound.1.2, hfound.2⟩

theorem getConversation_spec {principal : AuthenticatedPrincipal} {conversationId : Uuid} {row : Conversation}
    (h : state.getConversation principal conversationId = some row) :
    row ∈ state.conversations ∧ row.id = conversationId ∧ row.tenantId = principal.tenantId ∧
      row.userId = principal.userId := by
  have hfound := List.find?_some h
  simp only [Bool.and_eq_true, beq_iff_eq] at hfound
  exact ⟨List.mem_of_find?_eq_some h, hfound.1.1, hfound.1.2, hfound.2⟩

theorem writing_spec {writer : Nat} {writing : Writing} (h : state.writing writer = some writing) :
    writing ∈ state.writings ∧ writing.writer = writer :=
  Table.lookup_spec h

theorem mem_others {writer : Nat} {writing : Writing} :
    writing ∈ state.others writer ↔ writing ∈ state.writings ∧ writing.writer ≠ writer := by
  simp [State.others]

theorem settle_move {before after : State} {columns : Bool} {answer : Answer} (hbefore : Move state before)
    (hafter : after.Accepted → Move state after) :
    Move state (State.settle before columns answer after).2 := by
  rw [State.settle]
  split
  · exact hbefore
  · split
    next haccepted => exact hafter haccepted
    · exact hbefore

theorem step_move (state : State) (input : Step) : Move state (state.step input).2 := by
  cases input with
  | createSession principal body id now => exact settle_move .idle fun haccepted ↦ .opened _ haccepted
  | closeSession principal sessionId =>
    simp only [State.step]
    split
    · exact .idle
    next row hrow => exact .closed row (getSession_spec hrow).1
  | createConversation principal body id =>
    simp only [State.step]
    split
    · exact .idle
    next session hsession =>
      split
      · exact .idle
      · obtain ⟨hmem, -, htenant, huser⟩ := getSession_spec hsession
        refine settle_move .idle fun haccepted ↦ .created _ (List.mem_map.mpr ⟨session, hmem, ?_⟩) haccepted
        rw [Session.owner, Conversation.owner, htenant, huser]
  | listMessages principal conversationId after limit =>
    simp only [State.step]
    split <;> exact .idle
  | lock writer request =>
    simp only [State.step]
    split
    · exact .idle
    · exact .idle
    next conversation work hidle htarget =>
      split
      · exact .idle
      next hfree => exact .locked writer request conversation work hidle htarget (by simpa using hfree)
  | commit writer uuid now =>
    simp only [State.step]
    split
    · exact .idle
    next writing hwriting =>
      exact settle_move (.released writer) fun haccepted ↦
        .committed writing uuid now (writing_spec hwriting).1 haccepted
  | lost writer => exact .released writer

end Steps

/-! ## Messages of one conversation -/

theorem foldl_max_range' (count : Nat) : (List.range' 1 count).foldl max 0 = count := by
  induction count with
  | zero => rfl
  | succ count ih =>
    rw [List.range'_concat, List.foldl_append, ih]
    simp [Nat.add_comm]

theorem lastSequence_eq {state : State} {conversationId : Uuid} (h : state.Numbered conversationId) :
    state.lastSequence conversationId = (state.messagesOf conversationId).length := by
  rw [State.lastSequence, h, foldl_max_range']

/-- A message with the next number keeps the numbers in order. -/
theorem numbered_append {state after : State} {message : Message} {conversationId : Uuid}
    (h : state.Numbered conversationId) (hmessages : after.messages = state.messages ++ [message])
    (hnext : message.sequence = (state.messagesOf message.conversationId).length + 1) :
    after.Numbered conversationId := by
  rw [State.Numbered, State.messagesOf] at h ⊢
  rw [hmessages]
  by_cases hown : message.conversationId = conversationId
  · subst hown
    rw [Table.owned_append_own (by simp), List.map_append, h, List.length_append, List.length_singleton,
      List.range'_concat, List.map_singleton, hnext, State.messagesOf]
    simp [Nat.add_comm]
  · rw [Table.owned_append_other (by simpa using hown), h]

/-! ## Rows that stay -/

section Growth

variable {state : State}

theorem map_counted {Column : Type} {column : Conversation → Column} {read : Conversation}
    (hkeep : ∀ row : Conversation, column { row with version := read.version + 1 } = column row)
    (rows : List Conversation) : (State.counted read rows).map column = rows.map column :=
  Table.map_update column hkeep rows

theorem sessions_closed {row : Session} (hkeys : (state.sessions.map Session.id).Nodup)
    (hrow : row ∈ state.sessions) :
    (Table.replace Session.id { row with status := "CLOSED" } state.sessions).map Session.owner =
      state.sessions.map Session.owner := by
  simp only [Table.replace, Table.update, List.map_map]
  refine List.map_congr_left fun old hold ↦ ?_
  simp only [Function.comp_apply]
  split
  next hsame =>
    obtain rfl : old = row := Table.eq_of_key hkeys hold hrow (by simpa using hsame)
    rfl
  · rfl

end Growth

/-! ## One step -/

section Step

variable {state : State}

/-- Transactions under way that are among those of a sound state. -/
theorem Sound.without (h : Sound state) (writer : Nat) :
    Sound { state with writings := state.others writer } where
  accepted := h.accepted
  sessions := h.sessions
  tenants := h.tenants
  numbered := h.numbered
  runs := h.runs
  jobs := h.jobs
  inputs := h.inputs
  writers := h.writers.sublist (List.filter_sublist.map _)
  locks := h.locks.sublist (List.filter_sublist.map _)
  read writing hwriting := h.read writing (mem_others.mp hwriting).1
  held writing hwriting := h.held writing (mem_others.mp hwriting).1

/-- Other writers have locked other conversations. -/
theorem Sound.other_conversation (h : Sound state) {writing other : Writing}
    (hwriting : writing ∈ state.writings)
    (hother : other ∈ state.others writing.writer) : other.conversation.id ≠ writing.conversation.id := by
  obtain ⟨hmem, hne⟩ := mem_others.mp hother
  intro hsame
  obtain rfl := Table.eq_of_key h.locks hmem hwriting hsame
  exact hne rfl

/-- A writer adds the next message of its conversation. -/
theorem Sound.added (h : Sound state) {after : State} {writing : Writing} {message : Message}
    (hwriting : writing ∈ state.writings) (haccepted : after.Accepted)
    (hsessions : after.sessions = state.sessions)
    (hconversations : after.conversations = State.counted writing.conversation state.conversations)
    (hmessages : after.messages = state.messages ++ [message])
    (hwritings : after.writings = state.others writing.writer)
    (hconversation : message.conversationId = writing.conversation.id)
    (htenant : message.tenantId = writing.conversation.tenantId)
    (hsequence : message.sequence = writing.lastSequence + 1)
    (hruns : ∀ row ∈ after.runs, row.scope ∈ state.conversations.map Conversation.scope)
    (hjobs : after.jobs.map Job.order = after.runs.map AgentRun.order)
    (hinputs : after.userMessages.map Message.input = after.runs.map AgentRun.input) : Sound after := by
  have hscopes : after.conversations.map Conversation.scope = state.conversations.map Conversation.scope := by
    rw [hconversations, map_counted fun _ ↦ rfl]
  obtain ⟨-, hscope⟩ := h.held writing hwriting
  refine
    { accepted := haccepted, jobs := hjobs, inputs := hinputs, sessions := ?_, tenants := ?_, numbered := ?_
      runs := hscopes ▸ hruns, writers := ?_, locks := ?_, read := ?_, held := ?_ }
  · intro row hrow
    have howner := List.mem_map_of_mem (f := Conversation.owner) hrow
    rw [hconversations, map_counted fun _ ↦ rfl] at howner
    obtain ⟨old, hold, hsame⟩ := List.mem_map.mp howner
    rw [← hsame, hsessions]
    exact h.sessions old hold
  · rw [hmessages, hconversations, map_counted fun _ ↦ rfl]
    refine List.forall_mem_append.mpr ⟨h.tenants, List.forall_mem_singleton.mpr ?_⟩
    obtain ⟨old, hold, hsame⟩ := List.mem_map.mp hscope
    simp only [Conversation.scope, Prod.mk.injEq] at hsame
    refine List.mem_map.mpr ⟨old, hold, ?_⟩
    rw [hconversation, htenant, hsame.1, hsame.2.1]
  · intro conversationId
    refine numbered_append (h.numbered conversationId) hmessages ?_
    rw [hsequence, h.read writing hwriting, hconversation]
  · rw [hwritings]
    exact (h.without writing.writer).writers
  · rw [hwritings]
    exact (h.without writing.writer).locks
  · rw [hwritings]
    intro other hother
    have hdiffers := h.other_conversation hwriting hother
    rw [(h.without writing.writer).read other hother, State.messagesOf, State.messagesOf, hmessages,
      Table.owned_append_other (by simpa [hconversation] using hdiffers.symm)]
  · rw [hwritings, hscopes]
    exact (h.without writing.writer).held

theorem Sound.committed (h : Sound state) {writing : Writing} {uuid : Nat → Uuid} {now : Time}
    (hwriting : writing ∈ state.writings) (haccepted : (state.written writing uuid now).2.Accepted) :
    Sound (state.written writing uuid now).2 := by
  obtain ⟨hfits, hscope⟩ := h.held writing hwriting
  rw [State.written] at haccepted ⊢
  rw [Writing.Fits] at hfits
  split at hfits
  next principal body correlationId hwork =>
    obtain ⟨htenant, huser⟩ := hfits
    simp only [hwork] at haccepted ⊢
    refine h.added hwriting haccepted rfl rfl rfl rfl rfl htenant rfl ?_ ?_ ?_
    · refine List.forall_mem_append.mpr ⟨h.runs, List.forall_mem_singleton.mpr ?_⟩
      rw [AgentRun.scope, htenant, huser]
      exact hscope
    · simp only [State.addUserMessage, List.map_append, h.jobs, List.map_singleton]
      rfl
    · simp only [State.userMessages, State.addUserMessage, List.filter_append, List.map_append]
      rw [← h.inputs]
      rfl
  next tenantId run output hwork =>
    obtain ⟨rfl, hrun⟩ := hfits
    simp only [hwork] at haccepted ⊢
    have hsame {Column : Type} (column : AgentRun → Column)
        (hkeep : ∀ row : AgentRun, column { row with resultMessageId := some (uuid 0) } = column row) :
        (Table.update (fun row ↦ row.id == run.id) (fun row : AgentRun ↦
          { row with resultMessageId := some (uuid 0) })
          state.runs).map column = state.runs.map column := Table.map_update column hkeep state.runs
    refine h.added hwriting haccepted rfl rfl rfl rfl hrun rfl rfl ?_ ?_ ?_
    · intro row hrow
      have hcolumn := List.mem_map_of_mem (f := AgentRun.scope) hrow
      simp only [State.complete] at hcolumn
      rw [hsame AgentRun.scope fun _ ↦ rfl] at hcolumn
      obtain ⟨old, hold, hsame⟩ := List.mem_map.mp hcolumn
      rw [← hsame]
      exact h.runs old hold
    · simp only [State.complete]
      rw [hsame AgentRun.order fun _ ↦ rfl, h.jobs]
    · simp only [State.complete, State.userMessages, List.filter_append, List.map_append]
      rw [hsame AgentRun.input fun _ ↦ rfl, ← h.inputs]
      exact List.append_nil _

/-- A request is carried out in a conversation that fits it. -/
theorem Sound.target_fits (h : Sound state) {request : WriteRequest} {conversation : Conversation}
    {work : Work}
    (htarget : state.target request = .ok (conversation, work)) (writer lastSequence : Nat) :
    conversation ∈ state.conversations ∧ (⟨writer, conversation, lastSequence, work⟩ : Writing).Fits := by
  cases request with
  | addUserMessage principal conversationId body correlationId =>
    simp only [State.target] at htarget
    split at htarget
    next found hfound =>
      obtain ⟨rfl, rfl⟩ := Prod.mk.inj (Except.ok.inj htarget)
      obtain ⟨hmem, -, htenant, huser⟩ := getConversation_spec hfound
      exact ⟨hmem, htenant.symm, huser.symm⟩
    · cases htarget
  | complete jobId output =>
    simp only [State.target] at htarget
    split at htarget
    · cases htarget
    next job hjob =>
      split at htarget
      · cases htarget
      next run hrun =>
        split at htarget
        next found hfound =>
          obtain ⟨rfl, rfl⟩ := Prod.mk.inj (Except.ok.inj htarget)
          obtain ⟨hmem, hid⟩ := Table.lookup_spec hfound
          have hrunMem := List.mem_of_find?_eq_some hrun
          -- The job is one of a run, and names it by its text.
          have horder := List.mem_map_of_mem (f := Job.order) (List.mem_of_find?_eq_some hjob)
          rw [h.jobs] at horder
          obtain ⟨ordered, hordered, hsame⟩ := List.mem_map.mp horder
          simp only [AgentRun.order, Job.order, Prod.mk.injEq] at hsame
          have hname : job.runId = some ordered.id.str := by
            rw [Job.runId, ← hsame.2.2]
            rfl
          have htext := List.find?_some hrun
          rw [hname, beq_iff_eq, Option.some.injEq] at htext
          have hruns : (state.runs.map AgentRun.id).Nodup := h.accepted.2.2.2.2.1
          obtain rfl : ordered = run := Table.eq_of_key hruns hordered hrunMem (Uuid.str_injective htext)
          have hscope := h.runs ordered hrunMem
          obtain ⟨owner, howner, hscope⟩ := List.mem_map.mp hscope
          simp only [Conversation.scope, AgentRun.scope, Prod.mk.injEq] at hscope
          obtain rfl : owner = found :=
            Table.eq_of_key h.accepted.2.1 howner hmem (hscope.1.trans hid.symm)
          exact ⟨hmem, hsame.1.symm.trans hscope.2.1.symm, hscope.1.symm⟩
        · cases htarget

theorem Sound.step (h : Sound state) (input : Step) : Sound (state.step input).2 := by
  have hmove := step_move state input
  generalize (state.step input).2 = after at hmove
  cases hmove with
  | idle => exact h
  | opened row haccepted =>
    refine { h with accepted := haccepted, sessions := fun conversation hconversation ↦ ?_ }
    rw [List.map_append]
    exact List.mem_append_left _ (h.sessions conversation hconversation)
  | closed row hrow =>
    have howners := sessions_closed h.accepted.1 hrow
    refine { h with accepted := ⟨?_, h.accepted.2⟩, sessions := ?_ }
    · rw [Table.map_key_replace]
      exact h.accepted.1
    · rw [howners]
      exact h.sessions
  | created row hsession haccepted =>
    refine
      { h with
        accepted := haccepted
        sessions := List.forall_mem_append.mpr ⟨h.sessions, List.forall_mem_singleton.mpr hsession⟩
        tenants := fun message hmessage ↦ ?_
        runs := fun run hrun ↦ ?_
        held := fun writing hwriting ↦ ⟨(h.held writing hwriting).1, ?_⟩ } <;>
      rw [List.map_append]
    · exact List.mem_append_left _ (h.tenants message hmessage)
    · exact List.mem_append_left _ (h.runs run hrun)
    · exact List.mem_append_left _ (h.held writing hwriting).2
  | locked writer request conversation work hidle htarget hfree =>
    obtain ⟨hmem, hfits⟩ := h.target_fits htarget writer (state.lastSequence conversation.id)
    refine
      { h with
        writers := List.nodup_cons.mpr ⟨?_, h.writers⟩
        locks := List.nodup_cons.mpr ⟨?_, h.locks⟩
        read := List.forall_mem_cons.mpr ⟨lastSequence_eq (h.numbered conversation.id), h.read⟩
        held := List.forall_mem_cons.mpr ⟨⟨hfits, List.mem_map_of_mem hmem⟩, h.held⟩ }
    · have hnone := Table.lookup_eq_none.mp hidle
      simpa using hnone
    · simpa [State.locked] using hfree
  | committed writing uuid now hwriting haccepted => exact h.committed hwriting haccepted
  | released writer => exact h.without writer

theorem sound_empty : Sound {} where
  accepted := by simp [State.Accepted]
  sessions := by simp
  tenants := by simp
  numbered conversationId := rfl
  runs := by simp
  jobs := rfl
  inputs := rfl
  writers := List.nodup_nil
  locks := List.nodup_nil
  read := by simp
  held := by simp

theorem sound_run (steps : List Step) : Sound (service.run {} steps) :=
  service.run_invariant Sound sound_empty (fun _ input h ↦ h.step input) steps

end Step

/-! ## Writers that are not refused -/

section Writers

variable {state : State}

end Writers

/-! ## Runs of the service -/

/-- Every message of a user has exactly one run and one job, in the same order, and a run has the tenant, the
user and the session of its conversation, which are those of the session. -/
theorem message_runs (steps : List Step) :
    let state := service.run {} steps
    state.userMessages.map Message.input = state.runs.map AgentRun.input ∧
      state.jobs.map Job.order = state.runs.map AgentRun.order ∧
      ∀ run ∈ state.runs, (∃ conversation ∈ state.conversations, conversation.scope = run.scope) ∧
        (run.sessionId, run.tenantId, run.userId) ∈ state.sessions.map Session.owner := by
  have h := sound_run steps
  refine ⟨h.inputs, h.jobs, fun run hrun ↦ ?_⟩
  obtain ⟨conversation, hconversation, hscope⟩ := List.mem_map.mp (h.runs run hrun)
  refine ⟨⟨conversation, hconversation, hscope⟩, ?_⟩
  have howner := h.sessions conversation hconversation
  simp only [Conversation.scope, AgentRun.scope, Prod.mk.injEq] at hscope
  rwa [Conversation.owner, hscope.2.1, hscope.2.2.1, hscope.2.2.2] at howner

end Xyena.Conversations
