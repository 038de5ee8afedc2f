import Xyena.Audit.Service
import Xyena.Contracts.Documents
import Xyena.Foundation.Calendar
import Xyena.Foundation.HashChain
import Xyena.Foundation.JsonText
import Xyena.Foundation.Runs

/-!
# The audit log as a chain

Transactions that append audit events overlap in any way. Each of them reads the
last committed event of its tenant at some moment and inserts the event that
follows it; the constraints of the table decide at commit. The log of every
tenant is a chain of digests, and its last digest commits to all of it.
-/

namespace Xyena.Audit

open Xyena.Foundation Xyena.Contracts

/-! ## Rows -/

/-- The codec of the service: a digest of texts, and instants as `datetime.isoformat` writes them. -/
def auditCodec (sha256 : String → String) : AuditCodec where
  sha256 := sha256
  isoformat := Calendar.isoformat

/-- The hashed fields of an event. -/
def AuditEvent.hashed (codec : AuditCodec) (event : AuditEvent) : Dict :=
  [("tenant_id", .str event.tenantId.str),
    ("sequence", .int event.sequence),
    ("actor_type", .str event.actorType),
    ("actor_id", .str event.actorId),
    ("event_type", .str event.eventType),
    ("subject_type", .str event.subjectType),
    ("subject_id", .str event.subjectId.str),
    ("correlation_id", .str event.correlationId.str),
    ("payload", .obj event.payload),
    ("previous_hash", .ofOption event.previousHash),
    ("occurred_at", .str (codec.isoformat event.occurredAt))]

def auditLinks (codec : AuditCodec) : Links AuditEvent String where
  position := AuditEvent.sequence
  previous := AuditEvent.previousHash
  digest := AuditEvent.eventHash
  expected event := codec.sha256 ((Json.obj (event.hashed codec)).dumps true)

/-- The committed events of a tenant. -/
def ofTenant (tenantId : Uuid) (events : List AuditEvent) : List AuditEvent :=
  events.filter fun event ↦ event.tenantId == tenantId

/-- Two events with the same hashed fields. Payloads are compared as documents. -/
structure AuditEvent.Agree (first second : AuditEvent) : Prop where
  tenantId : first.tenantId = second.tenantId
  sequence : first.sequence = second.sequence
  actorType : first.actorType = second.actorType
  actorId : first.actorId = second.actorId
  eventType : first.eventType = second.eventType
  subjectType : first.subjectType = second.subjectType
  subjectId : first.subjectId = second.subjectId
  correlationId : first.correlationId = second.correlationId
  payload : Json.Same (.obj first.payload) (.obj second.payload)
  previousHash : first.previousHash = second.previousHash
  occurredAt : first.occurredAt = second.occurredAt

/-! ## Transactions -/

/-- What a transaction that appends an event is given: a payload of JSON values and an instant of the
clock. -/
structure Append where
  id : Uuid
  occurredAt : Time
  draft : AuditDraft
  wellFormed : Json.wellFormedFields draft.payload = true
  inRange : Calendar.InRange occurredAt

/-- The committed events, and the rows of the transactions that are open. -/
structure AuditLog where
  events : List AuditEvent := []
  inserted : List AuditEvent := []

def AuditLog.empty : AuditLog where

inductive AuditAction where
  | append (input : Append)
  | commit (index : Nat)
  | rollback (index : Nat)

inductive AuditFailure where
  | integrity
  /-- No transaction is there to be ended. -/
  | idle
deriving DecidableEq, Repr

namespace AuditLog

variable (codec : AuditCodec) (log : AuditLog)

def step : AuditAction → Except AuditFailure Unit × AuditLog
  | .append input =>
    (.ok (),
      { log with
        inserted := log.inserted ++ [newEvent codec input.id input.occurredAt input.draft log.events] })
  | .commit index =>
    match log.inserted[index]? with
    | none => (.error .idle, log)
    | some event =>
      match Table.insert AuditEvent.conflicts event log.events with
      | none => (.error .integrity, { log with inserted := log.inserted.eraseIdx index })
      | some events => (.ok (), { log with events := events, inserted := log.inserted.eraseIdx index })
  | .rollback index => (.ok (), { log with inserted := log.inserted.eraseIdx index })

end AuditLog

def auditLog (codec : AuditCodec) : Machine AuditLog AuditAction (Except AuditFailure Unit) where
  step := AuditLog.step codec

/-! ## What an open transaction has read -/

/-- A row that continues the events of its tenant as they stood at some moment. -/
def Continues (codec : AuditCodec) (events : List AuditEvent) (event : AuditEvent) : Prop :=
  ∃ count, count ≤ (ofTenant event.tenantId events).length ∧ event.sequence = count + 1 ∧
    event.previousHash =
      (auditLinks codec).head none ((ofTenant event.tenantId events).take count) ∧
    event.eventHash = (auditLinks codec).expected event

/-- The payload and the instant of a row are such that its text can be read back. -/
def Readable (event : AuditEvent) : Prop :=
  Json.wellFormedFields event.payload = true ∧ Calendar.InRange event.occurredAt

structure LogInvariant (codec : AuditCodec) (log : AuditLog) : Prop where
  chained : ∀ tenantId, (auditLinks codec).Chained 0 none (ofTenant tenantId log.events)
  readable : ∀ event ∈ log.events, Readable event
  continues : ∀ event ∈ log.inserted, Continues codec log.events event
  inserted : ∀ event ∈ log.inserted, Readable event

section Steps

variable {codec : AuditCodec} {events : List AuditEvent} {event : AuditEvent} {tenantId : Uuid}

theorem ofTenant_append (h : event.tenantId = tenantId) :
    ofTenant tenantId (events ++ [event]) = ofTenant tenantId events ++ [event] := by
  simp [ofTenant, h]

theorem ofTenant_append_of_ne (h : event.tenantId ≠ tenantId) :
    ofTenant tenantId (events ++ [event]) = ofTenant tenantId events := by
  simp [ofTenant, h]

/-- The last event that a transaction finds is the end of the chain. -/
theorem lastEvent_eq (h : (auditLinks codec).Chained 0 none (ofTenant tenantId events)) :
    lastEvent tenantId events = (ofTenant tenantId events).getLast? := by
  change Table.latest AuditEvent.sequence (ofTenant tenantId events) = _
  rcases List.eq_nil_or_concat (ofTenant tenantId events) with hnil | ⟨earlier, last, hrows⟩
  · rw [hnil]
    rfl
  · rw [List.concat_eq_append] at hrows
    rw [hrows] at h ⊢
    have hposition (index : Nat) (hindex : index < (earlier ++ [last]).length) :
        (earlier ++ [last])[index].sequence = index + 1 := by
      have hnumber := h.positions index hindex
      simpa [auditLinks] using hnumber
    cases hlatest : Table.latest AuditEvent.sequence (earlier ++ [last]) with
    | none =>
      have hempty := Table.latest_eq_none.mp hlatest
      simp at hempty
    | some newest =>
      obtain ⟨index, hindex, rfl⟩ := List.mem_iff_getElem.mp (Table.latest_mem hlatest)
      have hmax := Table.latest_max hlatest last (by simp)
      have hlast := hposition earlier.length (by simp)
      rw [List.getElem_concat_length (by rfl)] at hlast
      rw [hposition index hindex, hlast] at hmax
      obtain rfl : index = earlier.length := by
        rw [List.length_append, List.length_singleton] at hindex
        omega
      simp

/-- A transaction continues the events that it has read. -/
theorem newEvent_continues (h : ∀ tenantId, (auditLinks codec).Chained 0 none (ofTenant tenantId events))
    (id : Uuid) (occurredAt : Time) (draft : AuditDraft) :
    Continues codec events (newEvent codec id occurredAt draft events) := by
  have hlast := lastEvent_eq (h draft.tenantId)
  refine ⟨(ofTenant draft.tenantId events).length, le_rfl, ?_, ?_, rfl⟩
  · simp only [newEvent, hlast]
    rcases List.eq_nil_or_concat (ofTenant draft.tenantId events) with hnil | ⟨earlier, last, hrows⟩
    · rw [hnil]
      rfl
    · rw [List.concat_eq_append] at hrows
      have hnumber := (h draft.tenantId).positions earlier.length (by simp [hrows])
      simp only [hrows, List.getLast?_concat, List.length_append, List.length_singleton]
      simp only [hrows, auditLinks, List.getElem_concat_length] at hnumber
      push_cast
      omega
  · change (lastEvent draft.tenantId events).map AuditEvent.eventHash = Links.head _ _
      (List.take _ (ofTenant draft.tenantId events))
    rw [List.take_length, Links.head_eq_getLast?, hlast]
    rfl

/-- The rows that a row continues are still there when others were appended. -/
theorem Continues.append (h : Continues codec events event) (other : AuditEvent) :
    Continues codec (events ++ [other]) event := by
  obtain ⟨count, hcount, hsequence, hprevious, hsealed⟩ := h
  by_cases htenant : other.tenantId = event.tenantId
  · refine ⟨count, ?_, hsequence, ?_, hsealed⟩
    · rw [ofTenant_append htenant, List.length_append]
      omega
    · rw [ofTenant_append htenant, List.take_append_of_le_length hcount]
      exact hprevious
  · refine ⟨count, ?_, hsequence, ?_, hsealed⟩
    · rw [ofTenant_append_of_ne htenant]
      exact hcount
    · rw [ofTenant_append_of_ne htenant]
      exact hprevious

/-- A row that the constraints admit continues all committed events of its tenant. -/
theorem Continues.chained (h : Continues codec events event)
    (hchained : (auditLinks codec).Chained 0 none (ofTenant event.tenantId events))
    (hfree : ∀ old ∈ events, event.conflicts old = false) :
    (auditLinks codec).Chained 0 none (ofTenant event.tenantId (events ++ [event])) := by
  obtain ⟨count, hcount, hsequence, hprevious, hsealed⟩ := h
  -- an event with the sequence of the row would be in the way
  have hlength : count = (ofTenant event.tenantId events).length := by
    refine le_antisymm hcount (not_lt.mp fun hlt ↦ ?_)
    have hposition := hchained.positions count hlt
    obtain ⟨hmem, htenant⟩ := List.mem_filter.mp (List.getElem_mem hlt)
    have hconflict := hfree _ hmem
    have hsame : event.sequence = (ofTenant event.tenantId events)[count].sequence := by
      rw [hsequence]
      simpa [auditLinks] using hposition.symm
    have hequal : event.tenantId = (ofTenant event.tenantId events)[count].tenantId :=
      (beq_iff_eq.mp htenant).symm
    simp [AuditEvent.conflicts, ← hsame, ← hequal] at hconflict
  subst hlength
  rw [List.take_length] at hprevious
  rw [ofTenant_append rfl]
  refine Links.chained_append hchained ?_ hprevious hsealed
  simpa [auditLinks] using hsequence

/-- Every step of the transactions keeps the chains. -/
theorem logInvariant_step (log : AuditLog) (action : AuditAction) (h : LogInvariant codec log) :
    LogInvariant codec ((auditLog codec).step log action).2 := by
  have hrest (index : Nat) {event : AuditEvent} (hevent : event ∈ log.inserted.eraseIdx index) :
      event ∈ log.inserted := List.mem_of_mem_eraseIdx hevent
  cases action with
  | append input =>
    refine { h with continues := ?_, inserted := ?_ }
    · refine List.forall_mem_append.mpr ⟨h.continues, List.forall_mem_singleton.mpr ?_⟩
      exact newEvent_continues h.chained input.id input.occurredAt input.draft
    · refine List.forall_mem_append.mpr ⟨h.inserted, List.forall_mem_singleton.mpr ?_⟩
      exact ⟨input.wellFormed, input.inRange⟩
  | rollback index =>
    exact { h with
      continues := fun event hevent ↦ h.continues event (hrest index hevent)
      inserted := fun event hevent ↦ h.inserted event (hrest index hevent) }
  | commit index =>
    simp only [auditLog, AuditLog.step]
    split
    · exact h
    next event hevent =>
      have hopen : event ∈ log.inserted := List.mem_of_getElem? hevent
      split
      · exact { h with
          continues := fun event hevent ↦ h.continues event (hrest index hevent)
          inserted := fun event hevent ↦ h.inserted event (hrest index hevent) }
      next events hinsert =>
        obtain ⟨hfree, rfl⟩ := Table.insert_eq_some.mp hinsert
        have hcontinues := h.continues event hopen
        constructor
        · intro tenantId
          by_cases htenant : event.tenantId = tenantId
          · subst htenant
            exact hcontinues.chained (h.chained event.tenantId) hfree
          · rw [ofTenant_append_of_ne htenant]
            exact h.chained tenantId
        · exact List.forall_mem_append.mpr
            ⟨h.readable, List.forall_mem_singleton.mpr (h.inserted event hopen)⟩
        · exact fun other hother ↦ (h.continues other (hrest index hother)).append event
        · exact fun other hother ↦ h.inserted other (hrest index hother)

theorem logInvariant_empty (codec : AuditCodec) : LogInvariant codec AuditLog.empty where
  chained _ := trivial
  readable _ h := absurd h List.not_mem_nil
  continues _ h := absurd h List.not_mem_nil
  inserted _ h := absurd h List.not_mem_nil

theorem logInvariant_run (codec : AuditCodec) (actions : List AuditAction) :
    LogInvariant codec ((auditLog codec).run AuditLog.empty actions) :=
  (auditLog codec).run_invariant (LogInvariant codec) (logInvariant_empty codec)
    (fun log action h ↦ logInvariant_step log action h) actions

/-! ## What a digest commits to -/

theorem hashed_nodup (codec : AuditCodec) (event : AuditEvent) :
    ((event.hashed codec).map Prod.fst).Nodup := by
  simp [AuditEvent.hashed]

theorem hashed_wellFormed (codec : AuditCodec) (h : Readable event) :
    (Json.obj (event.hashed codec)).wellFormed = true := by
  have hprevious : (Json.ofOption event.previousHash).wellFormed = true := by
    cases event.previousHash <;> rfl
  simp [AuditEvent.hashed, Json.wellFormed, Json.wellFormedFields, h.1, hprevious]

/-- Events with one digest have the same hashed fields. -/
theorem agree_of_digest {sha256 : String → String} (hsha : Function.Injective sha256)
    {first second : AuditEvent} (hfirst : Readable first) (hsecond : Readable second)
    (h : (auditLinks (auditCodec sha256)).expected first =
      (auditLinks (auditCodec sha256)).expected second) : first.Agree second := by
  have hsame := Json.same_of_dumps true (hashed_wellFormed _ hfirst)
    (hashed_wellFormed _ hsecond) (hsha h)
  have hfield := same_field hsame (hashed_nodup _ first) (hashed_nodup _ second)
  exact
    { tenantId := id_inj.mp (hfield "tenant_id" rfl rfl)
      sequence := Json.int.inj (hfield "sequence" rfl rfl)
      actorType := text_inj.mp (hfield "actor_type" rfl rfl)
      actorId := text_inj.mp (hfield "actor_id" rfl rfl)
      eventType := text_inj.mp (hfield "event_type" rfl rfl)
      subjectType := text_inj.mp (hfield "subject_type" rfl rfl)
      subjectId := id_inj.mp (hfield "subject_id" rfl rfl)
      correlationId := id_inj.mp (hfield "correlation_id" rfl rfl)
      payload := hfield "payload" rfl rfl
      previousHash := optionalText_inj.mp (hfield "previous_hash" rfl rfl)
      occurredAt := Calendar.isoformat_injective hfirst.2 hsecond.2
        (text_inj.mp (hfield "occurred_at" rfl rfl)) }

end Steps

/-! ## The log of a tenant -/

/-- However transactions that append audit events overlap, the committed events of a tenant are
numbered from 1 without a gap, the first one has no previous hash, every other one has the hash of
the event before it, and every hash is the digest of the stored fields. Two such logs of one tenant
that have one length and one last hash have the same hashed fields event by event. -/
theorem audit_chain_intact {sha256 : String → String} (hsha : Function.Injective sha256)
    (actions : List AuditAction) (tenantId : Uuid) :
    (auditLinks (auditCodec sha256)).Intact
        (ofTenant tenantId ((auditLog (auditCodec sha256)).run AuditLog.empty actions).events) ∧
      ∀ other,
        (ofTenant tenantId ((auditLog (auditCodec sha256)).run AuditLog.empty actions).events).length =
          (ofTenant tenantId ((auditLog (auditCodec sha256)).run AuditLog.empty other).events).length →
        (ofTenant tenantId
            ((auditLog (auditCodec sha256)).run AuditLog.empty actions).events).getLast?.map
              AuditEvent.eventHash =
          (ofTenant tenantId
            ((auditLog (auditCodec sha256)).run AuditLog.empty other).events).getLast?.map
              AuditEvent.eventHash →
        List.Forall₂ AuditEvent.Agree
          (ofTenant tenantId ((auditLog (auditCodec sha256)).run AuditLog.empty actions).events)
          (ofTenant tenantId ((auditLog (auditCodec sha256)).run AuditLog.empty other).events) := by
  have hlog := logInvariant_run (auditCodec sha256) actions
  refine ⟨(hlog.chained tenantId).intact, fun other hlength hlast ↦ ?_⟩
  have hother := logInvariant_run (auditCodec sha256) other
  refine (Links.commit Readable (fun first second hfirst hsecond h ↦ ?_) (hlog.chained tenantId)
    (hother.chained tenantId) ?_ ?_ hlength ?_).2
  · have hagree := agree_of_digest hsha hfirst hsecond h
    exact ⟨hagree.previousHash, hagree⟩
  · exact fun event hevent ↦ hlog.readable event (List.mem_filter.mp hevent).1
  · exact fun event hevent ↦ hother.readable event (List.mem_filter.mp hevent).1
  · rw [Links.head_eq_getLast?, Links.head_eq_getLast?]
    exact hlast

/-- An event of the platform with a payload. -/
def sampleAppend (id tenantId : Uuid) (occurredAt : Time) (h : Calendar.InRange occurredAt) : Append where
  id := id
  occurredAt := occurredAt
  draft :=
    { tenantId := tenantId, actorType := "USER", actorId := "user-1"
      eventType := "agent.run.cancelled", subjectType := "agent_run", subjectId := 9
      correlationId := 4, payload := [("run", .obj [("ids", .arr [.int 1, .null])])] }
  wellFormed := rfl
  inRange := h

/-- Two transactions of one tenant start on the empty log and one of another tenant beside them; the
second one of the first tenant is refused and tried again. -/
def overlappingAppends : List AuditAction :=
  [.append (sampleAppend 1 10 1750000000000000 (by decide)),
    .append (sampleAppend 2 10 1750000001000000 (by decide)),
    .append (sampleAppend 3 20 1750000002000000 (by decide)), .commit 0, .commit 0, .commit 0,
    .append (sampleAppend 5 10 1750000003000005 (by decide)), .commit 0]

theorem audit_chain_intact_overlapping :
    (auditLinks (auditCodec id)).Intact
        (ofTenant 10 ((auditLog (auditCodec id)).run AuditLog.empty overlappingAppends).events) ∧
      List.Forall₂ AuditEvent.Agree
        (ofTenant 10 ((auditLog (auditCodec id)).run AuditLog.empty overlappingAppends).events)
        (ofTenant 10 ((auditLog (auditCodec id)).run AuditLog.empty overlappingAppends).events) :=
  ⟨(audit_chain_intact Function.injective_id overlappingAppends 10).1,
    (audit_chain_intact Function.injective_id overlappingAppends 10).2 overlappingAppends rfl rfl⟩

example : (ofTenant 10 ((auditLog (auditCodec id)).run AuditLog.empty overlappingAppends).events).map
    AuditEvent.id = [1, 5] := by decide

end Xyena.Audit
