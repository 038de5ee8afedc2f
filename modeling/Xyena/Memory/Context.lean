import Xyena.Contracts.Tools
import Xyena.Foundation.JsonPlain
import Xyena.Foundation.OrderBy
import Xyena.Foundation.Trimming
import Xyena.Tools.Canonical

/-!
# The context of a model call

`ContextAssembler` of `packages/memory/context.py`. Two queries return the
newest memories and messages of a run; everything else is a function of these
lists, of the scope and of the token budget. The items are trimmed from the
oldest memory on until their estimate is within the budget.
-/

namespace Xyena.Memory.Context

open Xyena.Foundation Xyena.Contracts Xyena.Tools

/-! ## Rows and queries -/

structure AgentRun where
  id : Uuid
  tenantId : Uuid
  organizationId : Uuid
  userId : Uuid
  conversationId : Uuid

structure Message where
  id : Uuid
  tenantId : Uuid
  conversationId : Uuid
  sequence : Int
  role : String
  textContent : Option String
  structuredContent : Option Dict
  sensitivity : String := "INTERNAL"

structure MemoryRecord where
  id : Uuid
  tenantId : Uuid
  organizationId : Uuid
  userId : Option Uuid
  kind : String
  content : String
  sensitivity : String := "INTERNAL"
  status : String := "ACTIVE"
  expiresAt : Option Time
  updatedAt : Time

section Queries

variable (run : AgentRun) (now : Time)

def selectsMessage (row : Message) : Bool :=
  row.tenantId == run.tenantId && row.conversationId == run.conversationId

def selectsMemory (row : MemoryRecord) : Bool :=
  row.tenantId == run.tenantId && row.organizationId == run.organizationId &&
    (row.userId == some run.userId || row.userId.isNone) && row.status == "ACTIVE" &&
    ["PUBLIC", "INTERNAL", "CONFIDENTIAL"].contains row.sensitivity &&
    row.expiresAt.all fun expiry ↦ decide (now < expiry)

/-- What the two queries return. The sequences of a conversation are unique; memories may have been
updated at the same time. -/
structure Recalled where
  messages : List Message
  memories : List MemoryRecord
  messagesSelected : ∀ row ∈ messages, selectsMessage run row = true
  messagesOrdered : messages.Pairwise fun first second ↦ second.sequence < first.sequence
  messagesLimited : messages.length ≤ 40
  memoriesSelected : ∀ row ∈ memories, selectsMemory run now row = true
  memoriesOrdered : memories.Pairwise fun first second ↦ second.updatedAt ≤ first.updatedAt
  memoriesLimited : memories.length ≤ 20

section Tables

variable {run now} {messages : List Message} {memories : List MemoryRecord}

def newestMessages (run : AgentRun) (messages : List Message) : List Message :=
  (Table.orderByDesc Message.sequence (messages.filter (selectsMessage run))).take 40

def newestMemories (run : AgentRun) (now : Time) (memories : List MemoryRecord) : List MemoryRecord :=
  (Table.orderByDesc MemoryRecord.updatedAt (memories.filter (selectsMemory run now))).take 20

theorem mem_newestMessages : ∀ row ∈ newestMessages run messages, selectsMessage run row = true :=
  fun _ hrow ↦ (List.mem_filter.mp (Table.mem_orderByDesc.mp (List.mem_of_mem_take hrow))).2

theorem mem_newestMemories : ∀ row ∈ newestMemories run now memories, selectsMemory run now row = true :=
  fun _ hrow ↦ (List.mem_filter.mp (Table.mem_orderByDesc.mp (List.mem_of_mem_take hrow))).2

/-- A tenant's conversation has no sequence twice. -/
theorem newestMessages_ordered
    (hkeys : (messages.map fun row ↦ (row.tenantId, row.conversationId, row.sequence)).Nodup) :
    (newestMessages run messages).Pairwise fun first second ↦ second.sequence < first.sequence := by
  have hdistinct : (messages.filter (selectsMessage run)).Pairwise fun first second ↦
      first.sequence ≠ second.sequence := by
    refine ((List.pairwise_map.mp hkeys).filter _).imp_of_mem fun hfirst hsecond hne hsame ↦ hne ?_
    have hselected := (List.mem_filter.mp hfirst).2
    have hother := (List.mem_filter.mp hsecond).2
    simp only [selectsMessage, Bool.and_eq_true, beq_iff_eq] at hselected hother
    rw [hselected.1, hselected.2, hother.1, hother.2, hsame]
  exact (Table.orderByDesc_strict hdistinct).sublist (List.take_sublist _ _)

theorem newestMemories_ordered :
    (newestMemories run now memories).Pairwise fun first second ↦ second.updatedAt ≤ first.updatedAt :=
  Table.orderByDesc_sorted.sublist (List.take_sublist _ _)

/-- The queries over two tables. -/
def Recalled.query (run : AgentRun) (now : Time) (messages : List Message) (memories : List MemoryRecord)
    (hkeys : (messages.map fun row ↦ (row.tenantId, row.conversationId, row.sequence)).Nodup) :
    Recalled run now where
  messages := newestMessages run messages
  memories := newestMemories run now memories
  messagesSelected := mem_newestMessages
  messagesOrdered := newestMessages_ordered hkeys
  messagesLimited := List.length_take_le _ _
  memoriesSelected := mem_newestMemories
  memoriesOrdered := newestMemories_ordered
  memoriesLimited := List.length_take_le _ _

end Tables

end Queries

/-! ## Items -/

def trustedEnvelope (run : AgentRun) (context : RuntimeContext) : Dict :=
  [("tenant_id", .str context.tenantId.str), ("organization_id", .str context.organizationId.str),
    ("user_id", .str context.userId.str),
    ("session_id", .str ((context.sessionId.map Uuid.str).getD "None")), ("run_id", .str run.id.str),
    ("roles", .strings context.roles), ("consent_ids", .strings (context.consentIds.map Uuid.str)),
    ("policy_bundle_version", .str context.policyBundleVersion)]

def memoryItem (memory : MemoryRecord) : Dict :=
  [("type", .str "memory"), ("trust", .str "UNTRUSTED_DATA"), ("memory_id", .str memory.id.str),
    ("kind", .str memory.kind), ("content", .str memory.content),
    ("sensitivity", .str memory.sensitivity)]

/-- `structured_content or text_content or ""`. -/
def Message.content (message : Message) : Json :=
  match message.structuredContent with
  | some (field :: fields) => .obj (field :: fields)
  | _ => .str (message.textContent.getD "")

def messageItem (message : Message) : Dict :=
  [("type", .str "message"), ("trust", .str "UNTRUSTED_DATA"), ("message_id", .str message.id.str),
    ("role", .str message.role), ("content", message.content), ("sensitivity", .str message.sensitivity)]

def memoryItems (memories : List MemoryRecord) : List Dict := memories.reverse.map memoryItem

def messageItems (messages : List Message) : List Dict := messages.reverse.map messageItem

/-- `_estimate`: a quarter of the length of the text, at least one. -/
def estimate (trusted : Dict) (items : List Dict) : Int :=
  max 1 ((Json.plainText (.obj [("trusted", .obj trusted), ("items", .arr (items.map .obj))])).length / 4 : Nat)

/-! ## Assembly -/

structure ContextSnapshot where
  id : Uuid
  tenantId : Uuid
  runId : Uuid
  turnNumber : Int
  tokenBudget : Int
  estimatedTokens : Int
  policyBundleVersion : String
  snapshotHash : String
  items : List Dict

structure AssembledContext where
  trustedEnvelope : Dict
  modelItems : List Dict
  snapshotId : String
  estimatedTokens : Int

/-- What an assembler takes from its process: its budget, SHA-256 and the identifier that it draws. -/
structure ContextAssembler where
  tokenBudget : Int := 24000
  sha256 : String → String
  drawnId : Uuid

variable (assembler : ContextAssembler) {run : AgentRun} {now : Time} (recalled : Recalled run now)
  (context : RuntimeContext) (turnNumber : Int)

/-- All items, oldest first and memories before messages. -/
def contextItems : List Dict := memoryItems recalled.memories ++ messageItems recalled.messages

/-- The items that the loop leaves. -/
def keptItems : List Dict :=
  trim (fun items ↦ decide (assembler.tokenBudget < estimate (trustedEnvelope run context) items))
    (contextItems recalled)

def snapshot : ContextSnapshot where
  id := assembler.drawnId
  tenantId := run.tenantId
  runId := run.id
  turnNumber := turnNumber
  tokenBudget := assembler.tokenBudget
  estimatedTokens := estimate (trustedEnvelope run context) (keptItems assembler recalled context)
  policyBundleVersion := context.policyBundleVersion
  snapshotHash := canonicalHash assembler.sha256
    (.obj [("trusted_envelope", .obj (trustedEnvelope run context)),
      ("items", .arr ((keptItems assembler recalled context).map .obj))])
  items := keptItems assembler recalled context

/-- The assembled context and the row that is added for it. -/
def assemble : AssembledContext × ContextSnapshot :=
  let row := snapshot assembler recalled context turnNumber
  ({ trustedEnvelope := trustedEnvelope run context
     modelItems := row.items
     snapshotId := row.id.str
     estimatedTokens := row.estimatedTokens }, row)

/-! ## The newest items are kept -/

/-- Fewer items have no larger estimate. -/
theorem estimate_suffix_le (trusted : Dict) {first second : List Dict} (h : first <:+ second) :
    estimate trusted first ≤ estimate trusted second := by
  have hitems := Json.length_plainItems_suffix (h.map Json.obj)
  have htext (items : List Dict) :
      (Json.plainText (.obj [("trusted", .obj trusted), ("items", .arr (items.map .obj))])).length =
        (Json.plainText (.obj [("trusted", .obj trusted), ("items", .arr [])])).length +
          (Json.plainItems (items.map .obj)).length := by
    simp only [Json.plainText, String.length_ofList, Json.plainChars, Json.plainFields, Json.plainItems,
      List.length_cons, List.length_append, List.length_nil]
    omega
  simp only [estimate, htext]
  omega

theorem memoryItem_ne_messageItem (memory : MemoryRecord) (message : Message) :
    messageItem message ≠ memoryItem memory := by
  simp [messageItem, memoryItem]

/-- A suffix of all items with a memory in it has all messages in it. -/
theorem messageItems_suffix {kept : List Dict} (hkept : kept <:+ contextItems recalled)
    {memory : MemoryRecord} (hmemory : memoryItem memory ∈ kept) :
    messageItems recalled.messages <:+ kept := by
  have hmessages : messageItems recalled.messages <:+ contextItems recalled := List.suffix_append _ _
  rcases List.suffix_or_suffix_of_suffix hmessages hkept with hall | hfew
  · exact hall
  · obtain ⟨message, -, hmessage⟩ := List.mem_map.mp (hfew.subset hmemory)
    exact absurd hmessage (memoryItem_ne_messageItem memory message)

/-- The items of an assembled context are the longest suffix within the budget, or the last item. With a
memory all messages are kept, and the budget is exceeded by at most one item. -/
theorem context_keeps_newest (assembler : ContextAssembler) {run : AgentRun} {now : Time}
    (recalled : Recalled run now) (context : RuntimeContext) (turnNumber : Int) :
    let assembled := (assemble assembler recalled context turnNumber).1
    let size := estimate (trustedEnvelope run context)
    (memoryItems recalled.memories = recalled.memories.reverse.map memoryItem ∧
      recalled.memories.reverse.Pairwise fun first second ↦ first.updatedAt ≤ second.updatedAt) ∧
    (messageItems recalled.messages = recalled.messages.reverse.map messageItem ∧
      recalled.messages.reverse.Pairwise fun first second ↦ first.sequence < second.sequence) ∧
    LongestWithin size assembler.tokenBudget
      (memoryItems recalled.memories ++ messageItems recalled.messages) assembled.modelItems ∧
    (assembled.estimatedTokens ≤ assembler.tokenBudget → ∀ other,
      other <:+ memoryItems recalled.memories ++ messageItems recalled.messages → other ≠ [] →
        (size other ≤ assembler.tokenBudget ↔ other <:+ assembled.modelItems)) ∧
    (∀ memory, memoryItem memory ∈ assembled.modelItems →
      messageItems recalled.messages <:+ assembled.modelItems) ∧
    assembled.estimatedTokens = size assembled.modelItems ∧
    (assembler.tokenBudget < assembled.estimatedTokens → assembled.modelItems.length ≤ 1) := by
  have hlongest := longestWithin_trim (estimate (trustedEnvelope run context)) assembler.tokenBudget
    (contextItems recalled)
  refine ⟨⟨rfl, List.pairwise_reverse.mpr recalled.memoriesOrdered⟩,
    ⟨rfl, List.pairwise_reverse.mpr recalled.messagesOrdered⟩, hlongest, ?_, ?_, rfl, hlongest.exceeds⟩
  · intro hfits other hother hne
    exact hlongest.fits_iff (fun _ _ h ↦ estimate_suffix_le _ h) hfits hother hne
  · intro memory hmemory
    exact messageItems_suffix recalled hlongest.suffix hmemory

end Xyena.Memory.Context
