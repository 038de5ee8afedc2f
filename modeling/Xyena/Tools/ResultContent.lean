import Xyena.Tools.BrokerSpec

/-!
# The content of remote results

A remote result without structured data is projected before it is measured and
hashed. The projection dumps a model object that stands at the top or in tuples
only. Inside lists and dictionaries it leaves model objects as they are, and the
canonical encoder refuses them.
-/

namespace Xyena.Tools

open Xyena.Foundation Xyena.Contracts Xyena.Gateway

namespace PyValue

/-! ## Where model objects stand -/

mutual

/-- No model object stands anywhere in a value. -/
def plain : PyValue → Bool
  | .none => true
  | .bool _ => true
  | .int _ => true
  | .float _ => true
  | .str _ => true
  | .list items => plainItems items
  | .tuple items => plainItems items
  | .dict fields => plainFields fields
  | .model _ _ _ => false

def plainItems : List PyValue → Bool
  | [] => true
  | item :: rest => plain item && plainItems rest

def plainFields : List (String × PyValue) → Bool
  | [] => true
  | (_, value) :: rest => plain value && plainFields rest

end

mutual

/-- Every model object is the value itself or is reached through tuples only. -/
def modelsReached : PyValue → Bool
  | .model _ _ _ => true
  | .tuple items => itemsReached items
  | value => value.plain

def itemsReached : List PyValue → Bool
  | [] => true
  | item :: rest => modelsReached item && itemsReached rest

end

/-! ## The canonical encoder -/

section Collecting

variable {α β : Type}

theorem isOk_map (f : α → β) (result : Except String α) : (result.map f).isOk = result.isOk := by
  cases result <;> rfl

theorem isOk_collect (results : List (Except String α)) :
    (collect results).isOk = results.all Except.isOk := by
  induction results with
  | nil => rfl
  | cons result rest ih =>
    cases result with
    | error typeName => rfl
    | ok value => rw [collect, isOk_map, ih, List.all_cons]; rfl

/-- The order in which the fields are encoded does not matter. -/
theorem isOk_collectFields (fields : List (String × Except String Json)) :
    (collectFields fields).isOk = fields.all fun field ↦ field.2.isOk := by
  have hfields : (fun field : String × Except String Json ↦
      (field.2.map (field.1, ·)).isOk) = fun field ↦ field.2.isOk :=
    funext fun field ↦ isOk_map _ _
  calc
    (collectFields fields).isOk =
        (Json.sortFields fields).all fun field ↦ (field.2.map (field.1, ·)).isOk := by
      rw [collectFields, isOk_collect, List.all_map]
      rfl
    _ = (Json.sortFields fields).all fun field ↦ field.2.isOk := by rw [hfields]
    _ = fields.all fun field ↦ field.2.isOk := (Json.sortFields_perm fields).all_eq

end Collecting

mutual

/-- The canonical encoder accepts the values without model objects. -/
theorem isOk_canonical (value : PyValue) : value.canonical.isOk = value.plain := by
  cases value with
  | list items => rw [canonical, isOk_map, isOk_collect, isOk_canonicalItems, plain]
  | tuple items => rw [canonical, isOk_map, isOk_collect, isOk_canonicalItems, plain]
  | dict fields => rw [canonical, isOk_map, isOk_collectFields, isOk_canonicalFields, plain]
  | _ => rfl

theorem isOk_canonicalItems (items : List PyValue) :
    (canonicalItems items).all Except.isOk = plainItems items := by
  cases items with
  | nil => rfl
  | cons item rest =>
    rw [canonicalItems, List.all_cons, isOk_canonical item, isOk_canonicalItems rest, plainItems]

theorem isOk_canonicalFields (fields : List (String × PyValue)) :
    ((canonicalFields fields).all fun field ↦ field.2.isOk) = plainFields fields := by
  cases fields with
  | nil => rfl
  | cons field rest =>
    rw [canonicalFields, List.all_cons, isOk_canonical field.2, isOk_canonicalFields rest, plainFields]

end

/-! ## The projection -/

mutual

/-- A dump holds no model objects. -/
theorem plain_ofJson (document : Json) : (ofJson document).plain = true := by
  cases document with
  | arr items => rw [ofJson, plain, plainItems_ofJson items]
  | obj fields => rw [ofJson, plain, plainFields_ofJson fields]
  | _ => rfl

theorem plainItems_ofJson (items : List Json) : plainItems (ofJsonItems items) = true := by
  cases items with
  | nil => rfl
  | cons item rest => rw [ofJsonItems, plainItems, plain_ofJson item, plainItems_ofJson rest]; rfl

theorem plainFields_ofJson (fields : List (String × Json)) : plainFields (ofJsonFields fields) = true := by
  cases fields with
  | nil => rfl
  | cons field rest =>
    rw [ofJsonFields, plainFields, plain_ofJson field.2, plainFields_ofJson rest]; rfl

end

mutual

/-- The projection leaves no model object exactly when it reaches all of them. -/
theorem plain_contentProjection (content : PyValue) :
    content.contentProjection.plain = content.modelsReached := by
  cases content with
  | model typeName dump text => rw [contentProjection, plain_ofJson, modelsReached]
  | tuple items => rw [contentProjection, plain, plain_contentProjections items, modelsReached]
  | _ => rfl

theorem plain_contentProjections (items : List PyValue) :
    plainItems (contentProjections items) = itemsReached items := by
  cases items with
  | nil => rfl
  | cons item rest =>
    rw [contentProjections, plainItems, plain_contentProjection item, plain_contentProjections rest,
      itemsReached]

end

theorem isOk_projection (content : PyValue) :
    content.contentProjection.canonical.isOk = content.modelsReached := by
  rw [isOk_canonical, plain_contentProjection]

end PyValue

/-! ## Calls whose reply is content -/

/-- A call that a remote server has answered with content and without structured data, within the limit
of the tool's policy. -/
structure ContentReply (content : PyValue) where
  platform : BrokerPlatform
  draws : Draws
  row : CatalogRow
  call : MCPToolCall
  reply : RemoteReply
  successful : reply.isError = false
  unstructured : reply.structuredContent.truthy = false
  snakeUnstructured : reply.snakeStructuredContent = .none
  sent : reply.content = content
  fits : content.contentProjection.encodedSize ≤ row.policy.maximumResultBytes

/-- A reply with nothing but content. -/
def ContentReply.of (platform : BrokerPlatform) (draws : Draws) (row : CatalogRow) (call : MCPToolCall)
    (content : PyValue) (fits : content.contentProjection.encodedSize ≤ row.policy.maximumResultBytes) :
    ContentReply content where
  platform := platform
  draws := draws
  row := row
  call := call
  reply := { content := content }
  successful := rfl
  unstructured := rfl
  snakeUnstructured := rfl
  sent := rfl
  fits := fits

section Replies

variable {content : PyValue} (reply : ContentReply content)

/-- The status that the broker records, before its answer is masked and the transaction commits. -/
def ContentReply.status : ToolCallStatus :=
  (records reply.platform reply.draws reply.row reply.call (readReply (.ok reply.reply))).status

theorem ContentReply.readReply_eq : readReply (.ok reply.reply) = .ok content.contentProjection := by
  simp [readReply, reply.successful, reply.unstructured, reply.snakeUnstructured, reply.sent]

theorem ContentReply.status_eq : reply.status =
    if content.modelsReached then .succeeded else failureStatus reply.row := by
  have hfits := Nat.not_lt.mpr reply.fits
  rw [status, reply.readReply_eq, ← PyValue.isOk_projection, records, storedProjection, if_neg hfits]
  cases content.contentProjection.canonical <;> rfl

theorem failureStatus_ne (row : CatalogRow) : failureStatus row ≠ .succeeded := by
  unfold failureStatus
  split <;> decide

end Replies

/-- The projection of some content can be hashed, and a call that is answered with it succeeds, exactly
when every model object of the content is reached through tuples only. -/
theorem content_stored_iff (content : PyValue) :
    ((∃ document, content.contentProjection.canonical = .ok document) ↔ content.modelsReached = true) ∧
      ∀ reply : ContentReply content, reply.status = .succeeded ↔ content.modelsReached = true := by
  constructor
  · rw [← PyValue.isOk_projection]
    cases content.contentProjection.canonical <;> simp [Except.isOk, Except.toBool]
  · intro reply
    rw [reply.status_eq]
    split
    next hreached => simp [hreached]
    next hunreached => simp [hunreached, failureStatus_ne]

/-- What a server sends as plain text: a list of one content block. -/
def textContent : PyValue :=
  .list [.model "TextContent" (.obj [("type", .str "text"), ("text", .str "done")]) "type='text' text='done'"]

/-- Such a text is refused, and the call that it answers ends without a known outcome. -/
theorem text_content_lost :
    (¬ ∃ document, textContent.contentProjection.canonical = .ok document) ∧
      ((toolPlatform sampleBroker).run {} (sampleRegistration .always ++
        [sampleExecute 100 .allow { content := textContent }])).calls.map (·.status) = [.unknown] := by
  constructor
  · have hrefused : textContent.contentProjection.canonical = .error "TextContent" := rfl
    rw [hrefused]
    rintro ⟨document, h⟩
    cases h
  · decide +kernel

end Xyena.Tools
