import Xyena.Contracts.Tools
import Xyena.Foundation.Runs

/-!
# Forgotten memories

`MemoryService.forget` of `packages/memory/service.py` and `handle_memory_embed`
of `apps/worker/handlers.py`, for one record. Both read the record and commit
later, without a lock. A commit writes the columns whose new value differs from
the value that was read and leaves the others as they are by then, so two open
transactions can write past each other.
-/

namespace Xyena.Memory

open Xyena.Foundation Xyena.Contracts

/-! ## The record -/

inductive MemoryStatus where
  | active
  | forgotten
deriving DecidableEq, Repr

structure MemoryRecord (Embedding : Type*) where
  tenantId : Uuid
  organizationId : Uuid
  userId : Option Uuid
  content : String
  structuredContent : Dict
  embedding : Option Embedding
  status : MemoryStatus
  version : Int

/-- The caller of the memory service. -/
structure MemoryPrincipal where
  tenantId : Uuid
  organizationId : Uuid
  userId : Uuid
  roles : List String

inductive MemoryFailure where
  | lookup (detail : String)
  | permission (detail : String)
  /-- No transaction is there to go on. -/
  | idle
deriving DecidableEq, Repr

namespace MemoryRecord

variable {Embedding : Type*} (record : MemoryRecord Embedding)

/-- The selection of `MemoryService.get`. -/
def visible (principal : MemoryPrincipal) : Bool :=
  record.tenantId == principal.tenantId && record.organizationId == principal.organizationId &&
    (record.userId == some principal.userId || record.userId.isNone)

/-- `forget` up to its assignments. -/
def readForget (principal : MemoryPrincipal) : Except MemoryFailure (MemoryRecord Embedding) :=
  if !record.visible principal then .error (.lookup "Memory record not found.")
  else if record.userId.isNone && !principal.roles.contains "organization-admin" then
    .error (.permission "Organization memory requires organization-admin.")
  else .ok record

/-- The commit of `forget`. Columns that were read as they are assigned are not written. -/
def commitForget (read : MemoryRecord Embedding) : MemoryRecord Embedding :=
  { record with
    status := if read.status = .forgotten then record.status else .forgotten
    content := if read.content = "[forgotten]" then record.content else "[forgotten]"
    structuredContent := if read.structuredContent.isEmpty then record.structuredContent else []
    embedding := if read.embedding.isNone then record.embedding else none
    version := read.version + 1 }

/-- The first transaction of `handle_memory_embed`. -/
def readContent (tenantId : Uuid) : Option String :=
  if record.tenantId = tenantId ∧ record.status = .active ∧ record.embedding.isNone then
    some record.content
  else none

/-- Nothing is left of what a forgotten record said. -/
def Erased : Prop :=
  record.status = .forgotten →
    record.embedding = none ∧ record.structuredContent = [] ∧ record.content = "[forgotten]"

end MemoryRecord

/-! ## The record and what is in flight -/

/-- A run of `handle_memory_embed` between its transactions, and in its second one. -/
inductive EmbedRun (Embedding : Type*) where
  | computing (content : String)
  | writing (read : Option Embedding) (embedding : Embedding)

structure MemoryDb (Embedding : Type*) where
  record : MemoryRecord Embedding
  forgets : List (MemoryRecord Embedding) := []
  embeds : List (EmbedRun Embedding) := []

inductive MemoryAction (Embedding : Type*) where
  | forget (principal : MemoryPrincipal)
  | commitForget (index : Nat)
  | startEmbed (tenantId : Uuid)
  /-- The embedding has been computed, and the second transaction reads the record. -/
  | readRecord (index : Nat) (embedding : Embedding)
  | commitEmbed (index : Nat)
  | abandonForget (index : Nat)
  | abandonEmbed (index : Nat)

section Step

variable {Embedding : Type*} (unchanged : Embedding → Embedding → Bool)

/-- Whether an assigned embedding is written: not over one that counts as the same. -/
def writesEmbedding (read : Option Embedding) (embedding : Embedding) : Bool :=
  !read.any fun old ↦ unchanged old embedding

namespace MemoryDb

variable (db : MemoryDb Embedding)

def step : MemoryAction Embedding → Except MemoryFailure Unit × MemoryDb Embedding
  | .forget principal =>
    match db.record.readForget principal with
    | .error failure => (.error failure, db)
    | .ok read => (.ok (), { db with forgets := db.forgets ++ [read] })
  | .commitForget index =>
    match db.forgets[index]? with
    | none => (.error .idle, db)
    | some read =>
      (.ok (),
        { db with record := db.record.commitForget read, forgets := db.forgets.eraseIdx index })
  | .startEmbed tenantId =>
    match db.record.readContent tenantId with
    | none => (.ok (), db)
    | some content => (.ok (), { db with embeds := db.embeds ++ [.computing content] })
  | .readRecord index embedding =>
    match db.embeds[index]? with
    | some (.computing _) =>
      if db.record.status = .active then
        (.ok (), { db with embeds := db.embeds.set index (.writing db.record.embedding embedding) })
      else (.ok (), { db with embeds := db.embeds.eraseIdx index })
    | _ => (.error .idle, db)
  | .commitEmbed index =>
    match db.embeds[index]? with
    | some (.writing read embedding) =>
      let record : MemoryRecord Embedding :=
        if writesEmbedding unchanged read embedding then
          { db.record with embedding := some embedding }
        else db.record
      (.ok (), { db with record := record, embeds := db.embeds.eraseIdx index })
    | _ => (.error .idle, db)
  | .abandonForget index => (.ok (), { db with forgets := db.forgets.eraseIdx index })
  | .abandonEmbed index => (.ok (), { db with embeds := db.embeds.eraseIdx index })

/-- A record as `MemoryService.create` adds it. -/
def created (tenantId organizationId : Uuid) (userId : Option Uuid) (content : String)
    (structuredContent : Dict) : MemoryDb Embedding where
  record :=
    { tenantId := tenantId
      organizationId := organizationId
      userId := userId
      content := content
      structuredContent := structuredContent
      embedding := none
      status := .active
      version := 1 }

end MemoryDb

/-- One record and any transactions on it. Whether an assigned embedding counts as the one that was read
is left to the database layer. -/
def memory :
    Machine (MemoryDb Embedding) (MemoryAction Embedding) (Except MemoryFailure Unit) where
  step := MemoryDb.step unchanged

/-! ## Transactions that write past each other -/

/-- An embedding is not written to a record that was forgotten since it was read, and a record is not
forgotten when an embedding was written since it was read without one. -/
def WritesWhatItRead (db : MemoryDb Embedding) : MemoryAction Embedding → Prop
  | .commitForget index =>
    ∀ read, db.forgets[index]? = some read → read.embedding = none → db.record.embedding = none
  | .commitEmbed index =>
    ∀ read embedding, db.embeds[index]? = some (.writing read embedding) →
      writesEmbedding unchanged read embedding = true → db.record.status = .active
  | _ => True

/-- What was erased when an open `forget` read the record is still erased. -/
structure ReadsErased (db : MemoryDb Embedding) : Prop where
  status : ∀ read ∈ db.forgets, read.status = .forgotten → db.record.status = .forgotten
  content : ∀ read ∈ db.forgets, read.content = "[forgotten]" → db.record.content = "[forgotten]"
  structuredContent : ∀ read ∈ db.forgets, read.structuredContent = [] →
    db.record.structuredContent = []

variable {unchanged} {db : MemoryDb Embedding}

theorem readForget_ok {record read : MemoryRecord Embedding} {principal : MemoryPrincipal}
    (h : record.readForget principal = .ok read) : read = record := by
  unfold MemoryRecord.readForget at h
  split at h
  · cases h
  · split at h
    · cases h
    · exact (Except.ok.inj h).symm

/-- What a step can do to the record. -/
inductive RecordMove (unchanged : Embedding → Embedding → Bool) (db : MemoryDb Embedding) :
    MemoryAction Embedding → MemoryRecord Embedding → Prop
  | kept (action : MemoryAction Embedding) : RecordMove unchanged db action db.record
  | forgotten (index : Nat) (read : MemoryRecord Embedding) (hread : db.forgets[index]? = some read) :
      RecordMove unchanged db (.commitForget index) (db.record.commitForget read)
  | embedded (index : Nat) (read : Option Embedding) (embedding : Embedding)
      (hread : db.embeds[index]? = some (.writing read embedding))
      (hwrites : writesEmbedding unchanged read embedding = true) :
      RecordMove unchanged db (.commitEmbed index) { db.record with embedding := some embedding }

theorem recordMove (unchanged : Embedding → Embedding → Bool) (db : MemoryDb Embedding)
    (action : MemoryAction Embedding) :
    RecordMove unchanged db action ((memory unchanged).step db action).2.record := by
  cases action with
  | forget principal =>
    simp only [memory, MemoryDb.step]
    split <;> exact .kept _
  | commitForget index =>
    simp only [memory, MemoryDb.step]
    split
    · exact .kept _
    next read hread => exact .forgotten index read hread
  | startEmbed tenantId =>
    simp only [memory, MemoryDb.step]
    split <;> exact .kept _
  | readRecord index embedding =>
    simp only [memory, MemoryDb.step]
    split
    · split <;> exact .kept _
    · exact .kept _
  | commitEmbed index =>
    simp only [memory, MemoryDb.step]
    split
    next read embedding hread =>
      split
      next hwrites => exact .embedded index read embedding hread hwrites
      · exact .kept _
    · exact .kept _
  | abandonForget index => exact .kept _
  | abandonEmbed index => exact .kept _

/-- Whatever an open `forget` has read was there before the step. -/
theorem forgets_step (unchanged : Embedding → Embedding → Bool) (db : MemoryDb Embedding)
    (action : MemoryAction Embedding) :
    ∀ read ∈ ((memory unchanged).step db action).2.forgets, read ∈ db.forgets ∨ read = db.record := by
  have herase (index : Nat) : ∀ read ∈ db.forgets.eraseIdx index, read ∈ db.forgets ∨ read = db.record :=
    fun read hread ↦ Or.inl (List.mem_of_mem_eraseIdx hread)
  cases action with
  | forget principal =>
    simp only [memory, MemoryDb.step]
    split
    · exact fun read hread ↦ Or.inl hread
    next read hread =>
      obtain rfl := readForget_ok hread
      exact List.forall_mem_append.mpr
        ⟨fun read hread ↦ Or.inl hread, List.forall_mem_singleton.mpr (Or.inr rfl)⟩
  | commitForget index =>
    simp only [memory, MemoryDb.step]
    split
    · exact fun read hread ↦ Or.inl hread
    · exact herase index
  | startEmbed tenantId =>
    simp only [memory, MemoryDb.step]
    split <;> exact fun read hread ↦ Or.inl hread
  | readRecord index embedding =>
    simp only [memory, MemoryDb.step]
    split
    · split <;> exact fun read hread ↦ Or.inl hread
    · exact fun read hread ↦ Or.inl hread
  | commitEmbed index =>
    simp only [memory, MemoryDb.step]
    split <;> exact fun read hread ↦ Or.inl hread
  | abandonForget index => exact herase index
  | abandonEmbed index => exact fun read hread ↦ Or.inl hread

/-- The status is only ever set to forgotten, and what was erased stays so. -/
theorem RecordMove.erased {action : MemoryAction Embedding} {after : MemoryRecord Embedding}
    (h : RecordMove unchanged db action after) :
    (db.record.status = .forgotten → after.status = .forgotten) ∧
      (db.record.content = "[forgotten]" → after.content = "[forgotten]") ∧
      (db.record.structuredContent = [] → after.structuredContent = []) := by
  cases h with
  | kept => exact ⟨id, id, id⟩
  | embedded => exact ⟨id, id, id⟩
  | forgotten index read hread =>
    simp only [MemoryRecord.commitForget]
    refine ⟨fun h ↦ ?_, fun h ↦ ?_, fun h ↦ ?_⟩
    · rw [h, ite_self]
    · rw [h, ite_self]
    · rw [h, ite_self]

theorem readsErased_step (action : MemoryAction Embedding) (h : ReadsErased db) :
    ReadsErased ((memory unchanged).step db action).2 := by
  obtain ⟨hstatus, hcontent, hstructured⟩ :=
    RecordMove.erased (recordMove unchanged db action)
  have hforgets := forgets_step unchanged db action
  constructor
  · intro read hread hforgotten
    rcases hforgets read hread with hold | rfl
    · exact hstatus (h.status read hold hforgotten)
    · exact hstatus hforgotten
  · intro read hread hplaceholder
    rcases hforgets read hread with hold | rfl
    · exact hcontent (h.content read hold hplaceholder)
    · exact hcontent hplaceholder
  · intro read hread hempty
    rcases hforgets read hread with hold | rfl
    · exact hstructured (h.structuredContent read hold hempty)
    · exact hstructured hempty

/-- A committed `forget` sets the status and erases the content. -/
theorem commitForget_spec (hreads : ReadsErased db) {read : MemoryRecord Embedding}
    (hread : read ∈ db.forgets) :
    (db.record.commitForget read).status = .forgotten ∧
      (db.record.commitForget read).structuredContent = [] ∧
      (db.record.commitForget read).content = "[forgotten]" := by
  simp only [MemoryRecord.commitForget]
  refine ⟨?_, ?_, ?_⟩
  · split
    next h => exact hreads.status read hread h
    · rfl
  · split
    next h => exact hreads.structuredContent read hread (List.isEmpty_iff.mp h)
    · rfl
  · split
    next h => exact hreads.content read hread h
    · rfl

/-- Only commits change the record. -/
theorem record_kept (unchanged : Embedding → Embedding → Bool) (db : MemoryDb Embedding)
    (action : MemoryAction Embedding) (hforget : ∀ index, action ≠ .commitForget index)
    (hembed : ∀ index, action ≠ .commitEmbed index) :
    ((memory unchanged).step db action).2.record = db.record := by
  have hmove := recordMove unchanged db action
  generalize ((memory unchanged).step db action).2.record = after at hmove ⊢
  cases hmove with
  | kept => rfl
  | forgotten index => exact absurd rfl (hforget index)
  | embedded index => exact absurd rfl (hembed index)

theorem MemoryStatus.active_iff {status : MemoryStatus} : status = .active ↔ status ≠ .forgotten := by
  cases status <;> simp

/-- A step leaves nothing behind of a forgotten record exactly when it writes what it has read. -/
theorem erased_step_iff (action : MemoryAction Embedding) (hreads : ReadsErased db)
    (h : db.record.Erased) :
    ((memory unchanged).step db action).2.record.Erased ↔ WritesWhatItRead unchanged db action := by
  cases action with
  | commitForget index =>
    cases hread : db.forgets[index]? with
    | none => simp [memory, MemoryDb.step, WritesWhatItRead, hread, h]
    | some read =>
      obtain ⟨hstatus, hstructured, hcontent⟩ := commitForget_spec hreads (List.mem_of_getElem? hread)
      have hembedding : (db.record.commitForget read).embedding = none ↔
          (read.embedding = none → db.record.embedding = none) := by
        simp only [MemoryRecord.commitForget]
        cases read.embedding <;> simp
      simp only [memory, MemoryDb.step, WritesWhatItRead, hread, Option.some.injEq, forall_eq']
      rw [← hembedding]
      exact ⟨fun herased ↦ (herased hstatus).1, fun hnone _ ↦ ⟨hnone, hstructured, hcontent⟩⟩
  | commitEmbed index =>
    simp only [memory, MemoryDb.step, WritesWhatItRead]
    split
    next read embedding hread =>
      simp only [hread, Option.some.injEq, EmbedRun.writing.injEq, and_imp]
      split
      next hwrites =>
        simp only [MemoryStatus.active_iff]
        constructor
        · intro herased _ _ _ _ _ hforgotten
          exact nomatch (herased hforgotten).1
        · exact fun hactive hforgotten ↦ absurd hforgotten (hactive read embedding rfl rfl hwrites)
      next hkept =>
        refine ⟨?_, fun _ ↦ h⟩
        rintro - _ _ rfl rfl hwrites
        exact absurd hwrites hkept
    next hidle =>
      exact ⟨fun _ read embedding hread ↦ absurd hread (hidle read embedding), fun _ ↦ h⟩
  | forget principal =>
    have hkept := record_kept unchanged db (.forget principal) nofun nofun
    exact ⟨fun _ ↦ trivial, fun _ ↦ by rwa [hkept]⟩
  | startEmbed tenantId =>
    have hkept := record_kept unchanged db (.startEmbed tenantId) nofun nofun
    exact ⟨fun _ ↦ trivial, fun _ ↦ by rwa [hkept]⟩
  | readRecord index embedding =>
    have hkept := record_kept unchanged db (.readRecord index embedding) nofun nofun
    exact ⟨fun _ ↦ trivial, fun _ ↦ by rwa [hkept]⟩
  | abandonForget index => exact ⟨fun _ ↦ trivial, fun _ ↦ h⟩
  | abandonEmbed index => exact ⟨fun _ ↦ trivial, fun _ ↦ h⟩

end Step

/-- In every run of `forget` and embedding jobs on a record, in any interleaving, nothing is left of a
record once it is forgotten and it never becomes active again, exactly when no embedding is committed
to a record that was forgotten since it was read and no record is forgotten past an embedding that was
committed since it was read. -/
theorem forgotten_erased_iff {Embedding : Type*} (unchanged : Embedding → Embedding → Bool)
    (tenantId organizationId : Uuid) (userId : Option Uuid) (content : String)
    (structuredContent : Dict) (actions : List (MemoryAction Embedding)) :
    (∀ e ∈ (memory unchanged).log
        (.created tenantId organizationId userId content structuredContent) actions,
      e.after.record.Erased ∧
        (e.before.record.status = .forgotten → e.after.record.status = .forgotten)) ↔
      ∀ e ∈ (memory unchanged).log
        (.created tenantId organizationId userId content structuredContent) actions,
        WritesWhatItRead unchanged e.before e.input := by
  have hstart : ReadsErased (MemoryDb.created tenantId organizationId userId content structuredContent :
      MemoryDb Embedding) := ⟨nofun, nofun, nofun⟩
  rw [← (memory unchanged).always_iff ReadsErased (fun db ↦ db.record.Erased)
    (WritesWhatItRead unchanged) hstart nofun (fun _ action ↦ readsErased_step action)
    (fun _ action ↦ erased_step_iff action)]
  refine forall₂_congr fun e he ↦ and_iff_left ?_
  obtain ⟨earlier, action, later, -, rfl⟩ := ((memory unchanged).mem_log_iff _ _ e).mp he
  exact (recordMove unchanged _ action).erased.1

/-- A user's memory of which an embedding is computed while the user forgets it. -/
def forgottenMeanwhile : List (MemoryAction Nat) :=
  [.startEmbed 1, .readRecord 0 7, .forget ⟨1, 2, 3, []⟩, .commitForget 0, .commitEmbed 0]

/-- The embedding of the erased content is committed to the forgotten record. -/
theorem forgotten_record_embedded :
    ¬∀ e ∈ (memory (· == ·)).log (.created 1 2 (some 3) "I bank with Xyena." []) forgottenMeanwhile,
      e.after.record.Erased ∧
        (e.before.record.status = .forgotten → e.after.record.status = .forgotten) := by
  intro h
  have hlast := h _ (List.getLast_mem (by decide : (memory (· == ·)).log
    (.created 1 2 (some 3) "I bank with Xyena." []) forgottenMeanwhile ≠ []))
  exact absurd (hlast.1 rfl).1 (by decide)

end Xyena.Memory
