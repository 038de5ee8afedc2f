import Xyena.Contracts.Tools
import Xyena.Foundation.Table

/-!
# The audit log

`append_audit_event` of `packages/audit/service.py`. The new event continues
the last committed event of its tenant; its digest is taken of the compact
ASCII text of the event, and the table refuses a second event with the same
tenant and sequence.
-/

namespace Xyena.Audit

open Xyena.Foundation Xyena.Contracts

structure AuditEvent where
  id : Uuid
  tenantId : Uuid
  sequence : Int
  actorType : String
  actorId : String
  eventType : String
  subjectType : String
  subjectId : Uuid
  payload : Dict
  correlationId : Uuid
  previousHash : Option String
  eventHash : String
  occurredAt : Time

/-- What the caller of `append_audit_event` supplies. -/
structure AuditDraft where
  tenantId : Uuid
  actorType : String
  actorId : String
  eventType : String
  subjectType : String
  subjectId : Uuid
  correlationId : Uuid
  payload : Dict := []

/-- The digest of a text and the text of an instant. -/
structure AuditCodec where
  sha256 : String → String
  isoformat : Time → String

def AuditEvent.conflicts (row old : AuditEvent) : Bool :=
  row.id == old.id || (row.tenantId == old.tenantId && row.sequence == old.sequence)

def lastEvent (tenantId : Uuid) (events : List AuditEvent) : Option AuditEvent :=
  Table.latest AuditEvent.sequence (events.filter fun event ↦ event.tenantId == tenantId)

/-- The document whose digest is the event hash. -/
def canonicalEvent (codec : AuditCodec) (draft : AuditDraft) (sequence : Int)
    (previousHash : Option String) (occurredAt : Time) : Json :=
  .obj [("tenant_id", .str draft.tenantId.str),
    ("sequence", .int sequence),
    ("actor_type", .str draft.actorType),
    ("actor_id", .str draft.actorId),
    ("event_type", .str draft.eventType),
    ("subject_type", .str draft.subjectType),
    ("subject_id", .str draft.subjectId.str),
    ("correlation_id", .str draft.correlationId.str),
    ("payload", .obj draft.payload),
    ("previous_hash", .ofOption previousHash),
    ("occurred_at", .str (codec.isoformat occurredAt))]

/-- The row that `append_audit_event` adds to the log. -/
def newEvent (codec : AuditCodec) (id : Uuid) (occurredAt : Time) (draft : AuditDraft)
    (events : List AuditEvent) : AuditEvent :=
  let last := lastEvent draft.tenantId events
  let sequence := match last with
    | some event => event.sequence + 1
    | none => 1
  let previousHash := last.map AuditEvent.eventHash
  { id := id
    tenantId := draft.tenantId
    sequence := sequence
    actorType := draft.actorType
    actorId := draft.actorId
    eventType := draft.eventType
    subjectType := draft.subjectType
    subjectId := draft.subjectId
    payload := draft.payload
    correlationId := draft.correlationId
    previousHash := previousHash
    eventHash := codec.sha256 ((canonicalEvent codec draft sequence previousHash occurredAt).dumps true)
    occurredAt := occurredAt }

/-- A new event with an unused identifier does not conflict with the log that it continues. -/
theorem newEvent_conflicts (codec : AuditCodec) {id : Uuid} (occurredAt : Time) (draft : AuditDraft)
    {events : List AuditEvent} (hid : ∀ old ∈ events, id ≠ old.id) :
    ∀ old ∈ events, (newEvent codec id occurredAt draft events).conflicts old = false := by
  intro old hold
  have hsequence : draft.tenantId = old.tenantId →
      (newEvent codec id occurredAt draft events).sequence ≠ old.sequence := by
    intro htenant
    have hselected : old ∈ events.filter fun event ↦ event.tenantId == draft.tenantId :=
      List.mem_filter.mpr ⟨hold, by simp [htenant]⟩
    simp only [newEvent]
    split
    next last hlast =>
      have hbound := Table.latest_max hlast old hselected
      omega
    next hnone =>
      rw [Table.latest_eq_none.mp hnone] at hselected
      cases hselected
  have hname : (newEvent codec id occurredAt draft events).id ≠ old.id := hid old hold
  simp only [AuditEvent.conflicts, Bool.or_eq_false_iff, beq_eq_false_iff_ne, Bool.and_eq_false_iff]
  refine ⟨hname, ?_⟩
  by_cases htenant : draft.tenantId = old.tenantId
  · exact Or.inr (hsequence htenant)
  · exact Or.inl htenant

end Xyena.Audit
