import Xyena.Contracts.Tools
import Xyena.Foundation.Columns
import Xyena.Foundation.CursorPages
import Xyena.Foundation.OwnedRows
import Xyena.Foundation.Runs

/-!
# Conversations

`ConversationService` of `apps/api/services/conversation_service.py` with the pages
of `apps/api/routes/conversations.py`, and the message that `_complete` of
`packages/agents/runtime.py` adds. The two writers of messages lock the conversation
before they read the last sequence, and hold it until their transaction ends; a
writer that finds it locked waits. Any number of writers may be under way, in any
conversations, and may be lost at any time. The text and JSONB columns do not take
every text, and a transaction with one that they refuse is rolled back.
-/

namespace Xyena.Conversations

open Xyena.Foundation Xyena.Contracts

/-! ## Rows -/

structure AuthenticatedPrincipal where
  tenantId : Uuid
  organizationId : Uuid
  userId : Uuid
  roles : List String := []
  scopes : List String := []

structure Session where
  id : Uuid
  tenantId : Uuid
  organizationId : Uuid
  userId : Uuid
  status : String := "ACTIVE"
  lastSeenAt : Time
  expiresAt : Option Time
  attributes : Dict

structure Conversation where
  id : Uuid
  tenantId : Uuid
  organizationId : Uuid
  userId : Uuid
  sessionId : Uuid
  title : Option String
  status : String := "ACTIVE"
  modelPolicyId : String
  version : Nat := 1

structure Message where
  id : Uuid
  tenantId : Uuid
  conversationId : Uuid
  sequence : Nat
  role : String
  textContent : String
  sensitivity : String := "CONFIDENTIAL"
  attributes : Dict
  createdAt : Time

structure AgentRun where
  id : Uuid
  tenantId : Uuid
  organizationId : Uuid
  userId : Uuid
  sessionId : Uuid
  conversationId : Uuid
  caseId : Option Uuid
  correlationId : Uuid
  startAgent : String := "xyena-supervisor"
  inputMessageId : Uuid
  runtimeScope : Dict
  resultMessageId : Option Uuid := none

structure Job where
  id : Uuid
  tenantId : Uuid
  jobType : String
  payload : Dict

/-- The run that a job names. -/
def Job.runId (job : Job) : Option String :=
  match job.payload.lookup "run_id" with
  | some (.str text) => some text
  | _ => none

/-! ## Requests -/

structure SessionCreateRequest where
  metadata : Dict := []
  expiresAt : Option Time := none

structure ConversationCreateRequest where
  sessionId : Uuid
  title : Option String := none
  modelPolicyId : String := "default"

structure MessageCreateRequest where
  content : String
  caseId : Option Uuid := none
  metadata : Dict := []

/-- What a writer of messages is to do. A run is completed for a job. -/
inductive WriteRequest where
  | addUserMessage (principal : AuthenticatedPrincipal) (conversationId : Uuid) (body : MessageCreateRequest)
      (correlationId : Uuid)
  | complete (jobId : Uuid) (output : String)

/-- The transaction of a writer, from its lock on. -/
inductive Work where
  | userMessage (principal : AuthenticatedPrincipal) (body : MessageCreateRequest) (correlationId : Uuid)
  | answer (tenantId : Uuid) (run : AgentRun) (output : String)

structure Writing where
  writer : Nat
  conversation : Conversation
  lastSequence : Nat
  work : Work

structure State where
  sessions : List Session := []
  conversations : List Conversation := []
  messages : List Message := []
  runs : List AgentRun := []
  jobs : List Job := []
  writings : List Writing := []

/-! ## Views -/

structure MessageView where
  id : Uuid
  conversationId : Uuid
  sequence : Nat
  role : String
  content : String
  sensitivity : String
  createdAt : Time

/-- `_message_view`. No message here has a structured content. -/
def messageView (message : Message) : MessageView where
  id := message.id
  conversationId := message.conversationId
  sequence := message.sequence
  role := message.role
  content := message.textContent
  sensitivity := message.sensitivity
  createdAt := message.createdAt

def stamp (message : Message) : Int := message.sequence

inductive Failure where
  | notFound (detail : String)
  | conflict (detail : String)
  | runtime (detail : String)
  /-- A column refuses a value. -/
  | data
  | integrity
deriving DecidableEq

inductive Answer where
  | session (row : Session)
  | conversation (row : Conversation)
  | page (items : List MessageView) (nextCursor : Option Int) (hasMore : Bool)
  | accepted (message : Message) (runId : Uuid)
  | completed (message : Message)

/-! ## Steps -/

inductive Step where
  | createSession (principal : AuthenticatedPrincipal) (body : SessionCreateRequest) (id : Uuid) (now : Time)
  | closeSession (principal : AuthenticatedPrincipal) (sessionId : Uuid)
  | createConversation (principal : AuthenticatedPrincipal) (body : ConversationCreateRequest) (id : Uuid)
  | listMessages (principal : AuthenticatedPrincipal) (conversationId : Uuid) (after : Int) (limit : Nat)
  | lock (writer : Nat) (request : WriteRequest)
  /-- The end of a transaction, with the identifiers that it draws and the clock of the database. -/
  | commit (writer : Nat) (uuid : Nat → Uuid) (now : Time)
  | lost (writer : Nat)

inductive Notice where
  | nothing
  | failed (failure : Failure)
  | answered (answer : Answer)

namespace State

variable (state : State)

/-- `get_session`. -/
def getSession (principal : AuthenticatedPrincipal) (sessionId : Uuid) : Option Session :=
  state.sessions.find? fun row ↦
    row.id == sessionId && row.tenantId == principal.tenantId && row.userId == principal.userId

/-- `get_conversation`. -/
def getConversation (principal : AuthenticatedPrincipal) (conversationId : Uuid) : Option Conversation :=
  state.conversations.find? fun row ↦
    row.id == conversationId && row.tenantId == principal.tenantId && row.userId == principal.userId

/-- The messages of a conversation, in the order of the table. -/
def messagesOf (conversationId : Uuid) : List Message :=
  Table.owned Message.conversationId conversationId state.messages

/-- The messages of a conversation that its owner is shown. -/
def shown (principal : AuthenticatedPrincipal) (conversationId : Uuid) : List Message :=
  (state.messagesOf conversationId).filter fun row ↦ row.tenantId == principal.tenantId

/-- `coalesce(max(sequence), 0)`. -/
def lastSequence (conversationId : Uuid) : Nat :=
  ((state.messagesOf conversationId).map Message.sequence).foldl max 0

def writing (writer : Nat) : Option Writing := Table.lookup Writing.writer writer state.writings

/-- The transactions of the other writers. -/
def others (writer : Nat) : List Writing := state.writings.filter fun writing ↦ writing.writer != writer

def locked (conversationId : Uuid) : Bool :=
  state.writings.any fun writing ↦ writing.conversation.id == conversationId

/-- The conversation of a request and what is to be done in it. -/
def target : WriteRequest → Except Failure (Conversation × Work)
  | .addUserMessage principal conversationId body correlationId =>
    match state.getConversation principal conversationId with
    | some conversation => .ok (conversation, .userMessage principal body correlationId)
    | none => .error (.notFound "Conversation not found")
  | .complete jobId output =>
    match state.jobs.find? fun row ↦ row.id == jobId with
    | none => .error (.runtime "Agent run not found.")
    | some job =>
      match state.runs.find? fun row ↦ job.runId == some row.id.str with
      | none => .error (.runtime "Agent run not found.")
      | some run =>
        match Table.lookup Conversation.id run.conversationId state.conversations with
        | some conversation => .ok (conversation, .answer job.tenantId run output)
        | none => .error .integrity

/-- The runtime scope that a run is queued with. -/
def runtimeScope (principal : AuthenticatedPrincipal) : Dict :=
  [("roles", .strings principal.roles), ("scopes", .strings principal.scopes), ("consent_ids", .arr []),
    ("policy_bundle_version", .str "platform-default-v1")]

/-- The version of the conversation, counted on from the one that was read. -/
def counted (read : Conversation) (rows : List Conversation) : List Conversation :=
  Table.update (fun row ↦ row.id == read.id) (fun row ↦ { row with version := read.version + 1 }) rows

/-- The end of `add_user_message_and_run`. -/
def addUserMessage (writing : Writing) (principal : AuthenticatedPrincipal) (body : MessageCreateRequest)
    (correlationId : Uuid) (uuid : Nat → Uuid) (now : Time) : Answer × State :=
  let conversation := writing.conversation
  let message : Message :=
    { id := uuid 0, tenantId := principal.tenantId, conversationId := conversation.id
      sequence := writing.lastSequence + 1, role := "user", textContent := body.content
      attributes := body.metadata, createdAt := now }
  let run : AgentRun :=
    { id := uuid 1, tenantId := principal.tenantId, organizationId := principal.organizationId
      userId := principal.userId, sessionId := conversation.sessionId, conversationId := conversation.id
      caseId := body.caseId, correlationId := correlationId, inputMessageId := message.id
      runtimeScope := runtimeScope principal }
  let job : Job :=
    { id := uuid 2, tenantId := principal.tenantId, jobType := "agent.run",
      payload := [("run_id", .str run.id.str)] }
  (.accepted message run.id,
    { state with
      messages := state.messages ++ [message]
      runs := state.runs ++ [run]
      jobs := state.jobs ++ [job]
      conversations := counted conversation state.conversations
      writings := state.others writing.writer })

/-- The end of `_complete`. -/
def complete (writing : Writing) (tenantId : Uuid) (run : AgentRun) (output : String) (uuid : Nat → Uuid)
    (now : Time) : Answer × State :=
  let message : Message :=
    { id := uuid 0, tenantId := tenantId, conversationId := run.conversationId
      sequence := writing.lastSequence + 1, role := "assistant", textContent := output
      attributes := [("run_id", .str run.id.str)], createdAt := now }
  (.completed message,
    { state with
      messages := state.messages ++ [message]
      runs := Table.update (fun row ↦ row.id == run.id) (fun row ↦
        { row with resultMessageId := some message.id })
        state.runs
      conversations := counted writing.conversation state.conversations
      writings := state.others writing.writer })

/-- What a writer has written at the end of its transaction. -/
def written (writing : Writing) (uuid : Nat → Uuid) (now : Time) : Answer × State :=
  match writing.work with
  | .userMessage principal body correlationId => state.addUserMessage writing principal body correlationId
    uuid now
  | .answer tenantId run output => state.complete writing tenantId run output uuid now

/-- Whether the columns take what a writer was given. They take the texts of identifiers. -/
def storable (writing : Writing) : Bool :=
  match writing.work with
  | .userMessage principal body _ =>
    textStorable body.content && jsonStorable (.obj body.metadata) &&
      jsonStorable (.obj (runtimeScope principal))
  | .answer _ _ output => textStorable output

/-- The keys and the unique columns of the tables. -/
def Accepted (state : State) : Prop :=
  (state.sessions.map Session.id).Nodup ∧ (state.conversations.map Conversation.id).Nodup ∧
    (state.messages.map Message.id).Nodup ∧
    (state.messages.map fun row ↦ (row.tenantId, row.conversationId, row.sequence)).Nodup ∧
    (state.runs.map AgentRun.id).Nodup ∧ (state.jobs.map Job.id).Nodup

instance (state : State) : Decidable state.Accepted := inferInstanceAs (Decidable (_ ∧ _))

/-- A transaction ends with its rows, or without them when the columns refuse a value or the tables do not
admit the rows. -/
def settle (before : State) (columns : Bool) (answer : Answer) (after : State) : Notice × State :=
  if !columns then (.failed .data, before)
  else if after.Accepted then (.answered answer, after)
  else (.failed .integrity, before)

def step : Step → Notice × State
  | .createSession principal body id now =>
    let row : Session :=
      { id := id, tenantId := principal.tenantId, organizationId := principal.organizationId
        userId := principal.userId, lastSeenAt := now, expiresAt := body.expiresAt,
          attributes := body.metadata }
    settle state (jsonStorable (.obj row.attributes)) (.session row)
      { state with sessions := state.sessions ++ [row] }
  | .closeSession principal sessionId =>
    match state.getSession principal sessionId with
    | none => (.failed (.notFound "Session not found"), state)
    | some row =>
      (.answered (.session { row with status := "CLOSED" }),
        { state with sessions := Table.replace Session.id { row with status := "CLOSED" } state.sessions })
  | .createConversation principal body id =>
    match state.getSession principal body.sessionId with
    | none => (.failed (.notFound "Session not found"), state)
    | some session =>
      if session.status ≠ "ACTIVE" then (.failed (.conflict "Session is not active"), state)
      else
        let row : Conversation :=
          { id := id, tenantId := principal.tenantId, organizationId := principal.organizationId
            userId := principal.userId, sessionId := session.id, title := body.title
            modelPolicyId := body.modelPolicyId }
        settle state (row.title.all (fits 200) && fits 100 row.modelPolicyId) (.conversation row)
          { state with conversations := state.conversations ++ [row] }
  | .listMessages principal conversationId after limit =>
    match state.getConversation principal conversationId with
    | none => (.failed (.notFound "Conversation not found"), state)
    | some _ =>
      let page := CursorPages.page stamp (state.shown principal conversationId) after limit
      (.answered (.page (page.items.map messageView) page.nextCursor page.hasMore), state)
  | .lock writer request =>
    match state.writing writer, state.target request with
    | some _, _ => (.nothing, state)
    | none, .error failure => (.failed failure, state)
    | none, .ok (conversation, work) =>
      if state.locked conversation.id then (.nothing, state)
      else
        (.nothing, { state with
          writings := ⟨writer, conversation, state.lastSequence conversation.id, work⟩ :: state.writings })
  | .commit writer uuid now =>
    match state.writing writer with
    | none => (.nothing, state)
    | some writing =>
      settle { state with writings := state.others writer } (storable writing)
        (state.written writing uuid now).1 (state.written writing uuid now).2
  | .lost writer => (.nothing, { state with writings := state.others writer })

end State

def service : Machine State Step Notice where
  step := State.step

end Xyena.Conversations
