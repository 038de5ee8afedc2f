import Xyena.Contracts.Documents
import Xyena.Foundation.JsonAgreement
import Xyena.Tools.Broker

/-!
# What the canonical text determines

The canonical text of a document determines it up to the order of its fields.
The text that a request hash is taken of therefore determines every field of
the request, and only the arguments up to the order of their keys.
-/

namespace Xyena.Tools

open Xyena.Foundation Xyena.Contracts

/-! ## Documents -/

/-- A JSON value in which no object repeats a key and every non-integer number has a text that the encoder
writes. -/
structure Document where
  value : Json
  distinctKeys : value.distinctKeys = true
  wellFormed : value.wellFormed = true

theorem canonicalJson_eq_iff (first second : Document) :
    canonicalJson first.value = canonicalJson second.value ↔ first.value.Agrees second.value :=
  Json.dumps_eq_iff false first.wellFormed second.wellFormed first.distinctKeys

/-! ## Requests -/

/-- A submitted call whose arguments are a document. -/
structure ReadableSubmit extends ToolCallSubmit where
  wellFormed : Json.wellFormedFields intent.arguments = true

section Requests

variable {first second : CanonicalToolRequest}

theorem document_wellFormed {request : CanonicalToolRequest}
    (h : Json.wellFormedFields request.normalizedArguments = true) :
    (Json.obj request.document).wellFormed = true := by
  have hoptional (id : Option Uuid) : (optionalId id).wellFormed = true := Json.wellFormed_ofOption _
  have hscope : request.scope.dump.wellFormed = true := by
    simp [RuntimeContext.dump, RuntimeContext.fields, Json.wellFormed, Json.wellFormedFields, hoptional,
      Json.wellFormed_strings]
  simp [CanonicalToolRequest.document, Json.wellFormed, Json.wellFormedFields, hoptional, hscope, h,
    Json.wellFormed_strings, Json.wellFormed_ofOption]

/-- Requests with the same content have the same document. -/
theorem document_of_sameContent (h : first.SameContent second) :
    Json.Same (.obj first.document) (.obj second.document) := by
  have harguments : (Json.obj first.normalizedArguments).normalize =
      (Json.obj second.normalizedArguments).normalize := h.normalizedArguments
  simp only [Json.Same, Json.normalize, CanonicalToolRequest.document, Json.normalizeFields, h.runId,
    h.agentVersionId, h.agentName, h.scope, h.serverId, h.toolVersionId, h.canonicalName, h.originalName,
    h.purpose, h.resourceRefs, h.idempotencyKey, Json.obj.injEq] at harguments ⊢
  rw [harguments]

variable (platform : BrokerPlatform) (callId : Uuid) (row : CatalogRow)

theorem submitted_wellFormed (request : ReadableSubmit) :
    (Json.obj (canonicalRequest platform callId request.toToolCallSubmit row).document).wellFormed =
      true :=
  document_wellFormed
    (Json.wellFormedFields_sortFields (Json.wellFormedFields_normalize _ request.wellFormed))

end Requests

/-- The canonical text of a document determines it up to the order of its fields, and the text that a
request hash is taken of determines every field of the request. -/
theorem canonical_json_injective :
    (∀ first second : Document,
      canonicalJson first.value = canonicalJson second.value ↔ first.value.Agrees second.value) ∧
    ∀ (platform : BrokerPlatform) (request other : ReadableSubmit) (callId otherId : Uuid)
      (row otherRow : CatalogRow),
      canonicalJson (.obj (canonicalRequest platform callId request.toToolCallSubmit row).document) =
        canonicalJson (.obj (canonicalRequest platform otherId other.toToolCallSubmit otherRow).document) ↔
      (canonicalRequest platform callId request.toToolCallSubmit row).SameContent
        (canonicalRequest platform otherId other.toToolCallSubmit otherRow) := by
  refine ⟨canonicalJson_eq_iff, fun platform request other callId otherId row otherRow ↦
    ⟨fun htext ↦ ?_, fun hcontent ↦ ?_⟩⟩
  · exact CanonicalToolRequest.sameContent_of_document
      (Json.same_of_dumps false (submitted_wellFormed platform callId row request)
        (submitted_wellFormed platform otherId otherRow other) htext)
  · have hsame : Json.Same _ _ := document_of_sameContent hcontent
    rw [canonicalJson, canonicalJson, Json.dumps, Json.dumps, hsame]

/-- Two spellings of one document, and one with another value. -/
theorem canonical_json_injective_spelled :
    canonicalJson (.obj [("b", .arr [.int 1, .null]), ("a", .str "\"")]) =
        canonicalJson (.obj [("a", .str "\""), ("b", .arr [.int 1, .null])]) ∧
      canonicalJson (.obj [("a", .str "1")]) ≠ canonicalJson (.obj [("a", .int 1)]) := by
  constructor
  · refine (canonical_json_injective.1 ⟨_, by decide, by decide⟩ ⟨_, by decide, by decide⟩).mpr ?_
    exact ⟨rfl, ⟨_, List.mem_cons_of_mem _ List.mem_cons_self, rfl, trivial, trivial⟩,
      ⟨_, List.mem_cons_self, rfl⟩, trivial⟩
  · intro h
    obtain ⟨-, ⟨other, hother, hagrees⟩, -⟩ :=
      (canonical_json_injective.1 ⟨.obj [("a", .str "1")], by decide, by decide⟩
        ⟨.obj [("a", .int 1)], by decide, by decide⟩).mp h
    obtain rfl := (Prod.mk.inj (List.mem_singleton.mp hother)).2
    exact hagrees

end Xyena.Tools
