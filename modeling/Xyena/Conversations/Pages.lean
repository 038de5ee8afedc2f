import Xyena.Conversations.Messages

/-!
# Reading a conversation page by page

A client that asks for the messages of its conversation and goes on at the cursor of
each page has, however many messages are added meanwhile, the first messages of the
conversation in their order. When there is no further cursor it has all of them.
-/

namespace Xyena.Conversations

open Xyena.Foundation Xyena.Contracts

/-! ## What the source promises -/

/-- What a client has: the messages of its pages, the cursor to go on from unless it is done, and the state
at its last page. -/
structure Browsing where
  items : List MessageView
  cursor : Option Int
  state : State

/-- A client that reads page after page. Before each page some steps happen. -/
def browse (principal : AuthenticatedPrincipal) (conversationId : Uuid) (state : State) (after : Int) :
    List (List Step × Nat) → Browsing
  | [] => ⟨[], some after, state⟩
  | (steps, limit) :: rest =>
    let found := service.run state steps
    match (found.step (.listMessages principal conversationId after limit)).1 with
    | .answered (.page items (some cursor) _) =>
      let later := browse principal conversationId found cursor rest
      { later with items := items ++ later.items }
    | .answered (.page items none _) => ⟨items, none, found⟩
    | _ => ⟨[], none, found⟩

/-- What a client is shown of a conversation in the end. -/
def State.views (state : State) (conversationId : Uuid) : List MessageView :=
  (state.messagesOf conversationId).map messageView

/-! ## Growing conversations -/

section Growth

variable {state : State}

theorem written_messages (state : State) (writing : Writing) (uuid : Nat → Uuid) (now : Time) :
    ∃ message, (state.written writing uuid now).2.messages = state.messages ++ [message] := by
  rw [State.written]
  split <;> exact ⟨_, rfl⟩

theorem written_conversations (state : State) (writing : Writing) (uuid : Nat → Uuid) (now : Time) :
    (state.written writing uuid now).2.conversations =
      State.counted writing.conversation state.conversations := by
  rw [State.written]
  split <;> rfl

theorem step_messages (state : State) (input : Step) : state.messages <+: (state.step input).2.messages := by
  have hmove := step_move state input
  generalize (state.step input).2 = after at hmove
  cases hmove with
  | committed writing uuid now hwriting haccepted =>
    obtain ⟨message, hmessages⟩ := written_messages state writing uuid now
    rw [hmessages]
    exact List.prefix_append _ _
  | _ => exact List.prefix_rfl

theorem run_messages (state : State) (steps : List Step) :
    state.messages <+: (service.run state steps).messages :=
  service.run_invariant (fun after ↦ state.messages <+: after.messages) List.prefix_rfl
    (fun after input h ↦ h.trans (step_messages after input)) steps

/-- The owner of a conversation still finds it. -/
theorem step_found {principal : AuthenticatedPrincipal} {conversationId : Uuid} (input : Step)
    (h : (conversationId, principal.tenantId, principal.userId) ∈
      state.conversations.map fun row ↦ (row.id, row.tenantId, row.userId)) :
    (conversationId, principal.tenantId, principal.userId) ∈
      (state.step input).2.conversations.map fun row ↦ (row.id, row.tenantId, row.userId) := by
  have hmove := step_move state input
  generalize (state.step input).2 = after at hmove
  cases hmove with
  | created row hsession haccepted =>
    rw [List.map_append]
    exact List.mem_append_left _ h
  | committed writing uuid now hwriting haccepted =>
    rw [written_conversations, map_counted fun _ ↦ rfl]
    exact h
  | _ => exact h

theorem getConversation_isSome {principal : AuthenticatedPrincipal} {conversationId : Uuid} :
    (state.getConversation principal conversationId).isSome = true ↔
      (conversationId, principal.tenantId, principal.userId) ∈
        state.conversations.map fun row ↦ (row.id, row.tenantId, row.userId) := by
  rw [State.getConversation, List.find?_isSome, List.mem_map]
  refine exists_congr fun row ↦ and_congr_right fun _ ↦ ?_
  simp [and_assoc]

theorem run_found {principal : AuthenticatedPrincipal} {conversationId : Uuid}
    (h : (state.getConversation principal conversationId).isSome = true) (steps : List Step) :
    ((service.run state steps).getConversation principal conversationId).isSome = true :=
  service.run_invariant (fun after ↦ (after.getConversation principal conversationId).isSome = true) h
    (fun _ input hfound ↦ getConversation_isSome.mpr (step_found input
      (getConversation_isSome.mp hfound))) steps

theorem run_sound (h : Sound state) (steps : List Step) : Sound (service.run state steps) :=
  service.run_invariant Sound h (fun _ input hstate ↦ hstate.step input) steps

/-- The owner of a conversation is shown all of it. -/
theorem shown_eq (h : Sound state) {principal : AuthenticatedPrincipal} {conversationId : Uuid}
    (hfound : (state.getConversation principal conversationId).isSome = true) :
    state.shown principal conversationId = state.messagesOf conversationId := by
  refine List.filter_eq_self.mpr fun message hmessage ↦ beq_iff_eq.mpr ?_
  obtain ⟨hmem, hown⟩ := Table.mem_owned.mp hmessage
  obtain ⟨conversation, hconversation⟩ := Option.isSome_iff_exists.mp hfound
  obtain ⟨hrow, hid, htenant, -⟩ := getConversation_spec hconversation
  obtain ⟨owner, howner, hsame⟩ := List.mem_map.mp (h.tenants message hmem)
  simp only [Prod.mk.injEq] at hsame
  obtain rfl : owner = conversation :=
    Table.eq_of_key h.accepted.2.1 howner hrow (hsame.1.trans (hown.trans hid.symm))
  exact hsame.2.symm.trans htenant

theorem increasing_messages (h : Sound state) (conversationId : Uuid) :
    Table.Increasing stamp (state.messagesOf conversationId) := by
  have hsorted : ((state.messagesOf conversationId).map Message.sequence).Pairwise (· < ·) := by
    rw [h.numbered conversationId]
    exact List.pairwise_lt_range'
  rw [List.pairwise_map] at hsorted
  exact hsorted.imp fun hlt ↦ Int.ofNat_lt.mpr hlt

theorem positive_messages (h : Sound state) (conversationId : Uuid) :
    ∀ message ∈ state.messagesOf conversationId, 0 < stamp message := by
  intro message hmessage
  have hsequence := List.mem_map_of_mem (f := Message.sequence) hmessage
  rw [h.numbered conversationId, List.mem_range'_1] at hsequence
  exact Int.ofNat_lt.mpr hsequence.1

end Growth

/-! ## Clients are readers of the table -/

section Clients

variable {principal : AuthenticatedPrincipal} {conversationId : Uuid}

/-- The tables that the pages of a client find. -/
def tables (conversationId : Uuid) (state : State) : List (List Step × Nat) → List (List Message × Nat)
  | [] => []
  | (steps, limit) :: rest =>
    ((service.run state steps).messagesOf conversationId, limit) ::
      tables conversationId (service.run state steps) rest

theorem tables_growing (conversationId : Uuid) (state : State) (reads : List (List Step × Nat)) :
    CursorPages.Growing (state.messagesOf conversationId) (tables conversationId state reads) := by
  induction reads generalizing state with
  | nil => trivial
  | cons read rest ih =>
    obtain ⟨steps, limit⟩ := read
    exact ⟨(run_messages state steps).filter _, ih (service.run state steps)⟩

theorem tables_increasing {state : State} (h : Sound state) (reads : List (List Step × Nat)) :
    ∀ read ∈ tables conversationId state reads, Table.Increasing stamp read.1 := by
  induction reads generalizing state with
  | nil => simp [tables]
  | cons read rest ih =>
    obtain ⟨steps, limit⟩ := read
    have hnext := run_sound h steps
    exact List.forall_mem_cons.mpr ⟨increasing_messages hnext conversationId, ih hnext⟩

theorem tables_limits (state : State) {reads : List (List Step × Nat)} (hlimit : ∀ read ∈ reads, 0 < read.2) :
    ∀ read ∈ tables conversationId state reads, 0 < read.2 := by
  induction reads generalizing state with
  | nil => simp [tables]
  | cons read rest ih =>
    obtain ⟨hfirst, hrest⟩ := List.forall_mem_cons.mp hlimit
    exact List.forall_mem_cons.mpr ⟨hfirst, ih _ hrest⟩

/-- A client is a reader of the messages of its conversation. -/
theorem browse_follow {state : State} (h : Sound state)
    (hfound : (state.getConversation principal conversationId).isSome = true) (after : Int)
    (reads : List (List Step × Nat)) :
    let browsing := browse principal conversationId state after reads
    let reading := CursorPages.follow stamp (state.messagesOf conversationId) after
      (tables conversationId state reads)
    browsing.items = reading.items.map messageView ∧ browsing.cursor = reading.cursor ∧
      browsing.state.messagesOf conversationId = reading.rows ∧ Sound browsing.state := by
  induction reads generalizing state after with
  | nil => exact ⟨rfl, rfl, rfl, h⟩
  | cons read rest ih =>
    obtain ⟨steps, limit⟩ := read
    have hnext := run_sound h steps
    have hstill := run_found hfound steps
    obtain ⟨conversation, hconversation⟩ := Option.isSome_iff_exists.mp hstill
    have hstep : ((service.run state steps).step (.listMessages principal conversationId after limit)).1 =
        .answered (.page
          ((CursorPages.page stamp ((service.run state steps).messagesOf conversationId) after
            limit).items.map messageView)
          (CursorPages.page stamp ((service.run state steps).messagesOf conversationId) after
            limit).nextCursor
          (CursorPages.page stamp ((service.run state steps).messagesOf conversationId) after
            limit).hasMore) := by
      simp only [State.step, hconversation, shown_eq hnext hstill]
    simp only [browse, tables, CursorPages.follow, hstep]
    cases hcursor : (CursorPages.page stamp ((service.run state steps).messagesOf conversationId) after
      limit).nextCursor with
    | none => exact ⟨rfl, rfl, rfl, hnext⟩
    | some cursor =>
      obtain ⟨hitems, hlast, hrows, hsound⟩ := ih hnext hstill cursor
      refine ⟨?_, hlast, hrows, hsound⟩
      simp only [CursorPages.Reading.behind, List.map_append, hitems]

end Clients

/-! ## What clients have -/

/-- What a client has read from the beginning on is, in its order, the beginning of the conversation, and
all of it when there is no cursor to go on from. -/
theorem pages_complete (steps : List Step) (principal : AuthenticatedPrincipal) (conversationId : Uuid)
    (hfound : ((service.run {} steps).getConversation principal conversationId).isSome = true)
    (reads : List (List Step × Nat)) (hlimit : ∀ read ∈ reads, 0 < read.2) :
    let browsing := browse principal conversationId (service.run {} steps) 0 reads
    browsing.items <+: browsing.state.views conversationId ∧
      (browsing.cursor = none → browsing.items = browsing.state.views conversationId) := by
  have h := sound_run steps
  obtain ⟨hitems, hcursor, hrows, hsound⟩ := browse_follow h hfound 0 reads
  have hread := CursorPages.follow_items 0
    (tables_growing conversationId (service.run {} steps) reads) (tables_increasing h reads)
    (tables_limits (service.run {} steps) hlimit)
  obtain ⟨hbeginning, hall⟩ := CursorPages.between_start (increasing_messages hsound conversationId)
    (positive_messages hsound conversationId)
    (browse principal conversationId (service.run {} steps) 0 reads).cursor
  rw [← hcursor, ← hrows] at hread
  simp only [hitems, hread, State.views]
  exact ⟨hbeginning.map messageView, fun hnone ↦ congrArg (List.map messageView) (hall hnone)⟩

section Example

def asha : AuthenticatedPrincipal := { tenantId := 1, organizationId := 2, userId := 3, roles := ["owner"] }

def say (writer : Nat) (content : String) : List Step :=
  [.lock writer (.addUserMessage asha 20 { content := content } 90),
    .commit writer (fun index ↦ BitVec.ofNat 128 (100 + 10 * writer + index)) (1000 + writer)]

/-- A conversation with three messages. A fourth one is added between the pages. -/
def chat : List Step :=
  [.createSession asha {} 10 0, .createConversation asha { sessionId := 10 } 20] ++ say 0 "a" ++
    say 1 "b" ++ say 2 "c"

theorem chat_found : ((service.run {} chat).getConversation asha 20).isSome = true := by decide +kernel

theorem chat_complete :
    let browsing := browse asha 20 (service.run {} chat) 0 [([], 2), (say 3 "d", 2)]
    browsing.items.map MessageView.content = ["a", "b", "c", "d"] ∧
      browsing.items = browsing.state.views 20 :=
  ⟨by decide +kernel, (pages_complete chat asha 20 chat_found [([], 2), (say 3 "d", 2)] (by simp)).2
    (by decide +kernel)⟩

end Example

end Xyena.Conversations
