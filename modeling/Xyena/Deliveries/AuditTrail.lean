import Xyena.Deliveries.Refinement
import Xyena.Ledger.Invariant

/-!
# The audit trail of a delivery

Every version of a delivery has one timeline event, one audit event and one
outbox event. The audit event of a change starts from the hash of the delivery
as it was read. That is the hash that the event before ended with, but for the
event of the creation: the delivered value of a new delivery is hashed without
decimals, and read back with two.
-/

namespace Xyena.Deliveries

open Xyena.Foundation
open Xyena.Ledger (tableDigest tableDigest_injective)

/-! ## What the source promises -/

def ExactlyOne {Row : Type} (rows : List Row) (selected : Row → Bool) : Prop :=
  ∃ row, rows.filter selected = [row]

structure Gapless (db : DeliveryDb) (delivery : Delivery) : Prop where
  events : ∀ k, 1 ≤ k → k ≤ delivery.version →
    ExactlyOne db.events fun row ↦ row.deliveryId == delivery.id && row.version == k
  audits : ∀ k, 1 ≤ k → k ≤ delivery.version →
    ExactlyOne db.audits fun row ↦ row.aggregateId == delivery.id && row.aggregateVersion == k
  outbox : ∀ k, 1 ≤ k → k ≤ delivery.version →
    ExactlyOne db.outbox fun row ↦ row.aggregateId == delivery.id && row.aggregateVersion == k
  first : ∀ row ∈ db.audits, row.aggregateId = delivery.id → row.aggregateVersion = 1 →
    row.beforeHash = none

/-- The audit event of version `k + 1` starts from the hash that the one of version `k` ended with. -/
def LinkedAt (db : DeliveryDb) (delivery : Delivery) (k : Nat) : Prop :=
  ∀ row ∈ db.audits, ∀ next ∈ db.audits, row.aggregateId = delivery.id → next.aggregateId = delivery.id →
    row.aggregateVersion = k → next.aggregateVersion = k + 1 → next.beforeHash = some row.afterHash

def Linked (db : DeliveryDb) (delivery : Delivery) : Prop :=
  ∀ k, 1 ≤ k → k < delivery.version → LinkedAt db delivery k

/-! ## The trace of a dossier -/

/-- The audit events of a delivery, from its creation on. -/
inductive Trace (platform : DeliveryPlatform) : Delivery → List AuditEvent → Prop
  | opened {delivery : Delivery} {row : AuditEvent} (hdelivery : delivery.version = 1)
      (hversion : row.aggregateVersion = 1) (hbefore : row.beforeHash = none)
      (hafter : row.afterHash = snapshotHash platform (snapshot delivery "0")) : Trace platform delivery [row]
  | changed {old new : Delivery} {audits : List AuditEvent} {row : AuditEvent}
      (h : Trace platform old audits) (hdelivery : new.version = old.version + 1)
      (hversion : row.aggregateVersion = new.version)
      (hbefore : row.beforeHash = some (snapshotHash platform (storedSnapshot old)))
      (hafter : row.afterHash = snapshotHash platform (storedSnapshot new)) :
      Trace platform new (audits ++ [row])

section Trace

variable {platform : DeliveryPlatform} {delivery : Delivery} {audits : List AuditEvent} {row next : AuditEvent}

theorem Trace.versions (h : Trace platform delivery audits) :
    audits.map AuditEvent.aggregateVersion = List.range' 1 delivery.version := by
  induction h with
  | opened hdelivery hversion => rw [hdelivery, List.map_singleton, hversion, List.range'_one]
  | changed h hdelivery hversion _ _ ih =>
    rw [List.map_append, ih, List.map_singleton, hversion, hdelivery, List.range'_1_concat, Nat.add_comm 1]

theorem Trace.version_bounds (h : Trace platform delivery audits) (hrow : row ∈ audits) :
    1 ≤ row.aggregateVersion ∧ row.aggregateVersion ≤ delivery.version := by
  have hmem := List.mem_map_of_mem (f := AuditEvent.aggregateVersion) hrow
  rw [h.versions, List.mem_range'_1] at hmem
  omega

/-- Every version has its audit event. -/
theorem Trace.exists_version (h : Trace platform delivery audits) {k : Nat} (hlow : 1 ≤ k)
    (hhigh : k ≤ delivery.version) : ∃ row ∈ audits, row.aggregateVersion = k := by
  have hmem : k ∈ audits.map AuditEvent.aggregateVersion := by
    rw [h.versions, List.mem_range'_1]
    omega
  exact List.mem_map.mp hmem

theorem Trace.version_pos (h : Trace platform delivery audits) : 1 ≤ delivery.version := by
  cases h with
  | opened hdelivery => exact hdelivery.ge
  | changed _ hdelivery => omega

theorem Trace.first (h : Trace platform delivery audits) (hrow : row ∈ audits)
    (hversion : row.aggregateVersion = 1) : row.beforeHash = none := by
  induction h with
  | opened _ _ hbefore =>
    rw [List.mem_singleton.mp hrow]
    exact hbefore
  | changed h hdelivery hnew _ _ ih =>
    rcases List.mem_append.mp hrow with hold | hlast
    · exact ih hold
    · obtain rfl := List.mem_singleton.mp hlast
      have hpos := h.version_pos
      omega

/-- The hash that the newest event ended with. -/
theorem Trace.last (h : Trace platform delivery audits) (hrow : row ∈ audits)
    (hversion : row.aggregateVersion = delivery.version) :
    delivery.version = 1 ∧ row.afterHash = snapshotHash platform (snapshot delivery "0") ∨
      1 < delivery.version ∧ row.afterHash = snapshotHash platform (storedSnapshot delivery) := by
  cases h with
  | opened hdelivery _ _ hafter =>
    rw [List.mem_singleton.mp hrow]
    exact Or.inl ⟨hdelivery, hafter⟩
  | changed h hdelivery _ _ hafter =>
    have hpos := h.version_pos
    rcases List.mem_append.mp hrow with hold | hlast
    · have hbound := (h.version_bounds hold).2
      omega
    · rw [List.mem_singleton.mp hlast]
      exact Or.inr ⟨by omega, hafter⟩

/-- How an event starts that follows another one. -/
theorem Trace.follows (h : Trace platform delivery audits) (hrow : row ∈ audits) (hnext : next ∈ audits)
    (hversion : next.aggregateVersion = row.aggregateVersion + 1) :
    row.aggregateVersion = 1 ∧ (∃ opened, row.afterHash = snapshotHash platform (snapshot opened "0") ∧
        next.beforeHash = some (snapshotHash platform (storedSnapshot opened))) ∨
      1 < row.aggregateVersion ∧ next.beforeHash = some row.afterHash := by
  induction h with
  | opened _ hfirst =>
    rw [List.mem_singleton.mp hrow, List.mem_singleton.mp hnext] at hversion
    omega
  | @changed old new audits last h hdelivery hlast hbefore _ ih =>
    have hbound {other : AuditEvent} (hother : other ∈ audits) : other.aggregateVersion ≤ old.version :=
      (h.version_bounds hother).2
    rcases List.mem_append.mp hrow with hold | hnew
    · rcases List.mem_append.mp hnext with holdNext | hnewNext
      · exact ih hold holdNext
      · -- the two newest events
        obtain rfl := List.mem_singleton.mp hnewNext
        have hsame : row.aggregateVersion = old.version := by omega
        rcases h.last hold hsame with ⟨hone, hafter⟩ | ⟨hlater, hafter⟩
        · exact Or.inl ⟨hsame.trans hone, old, hafter, hbefore⟩
        · exact Or.inr ⟨hsame ▸ hlater, by rw [hbefore, hafter]⟩
    · obtain rfl := List.mem_singleton.mp hnew
      rcases List.mem_append.mp hnext with holdNext | hnewNext
      · have hle := hbound holdNext
        omega
      · rw [List.mem_singleton.mp hnewNext] at hversion
        omega

end Trace

/-- A zero without decimals is the text of no stored amount. -/
theorem centsText_ne_zero (cents : Int) : centsText cents ≠ "0" := by
  intro h
  have hchars := congrArg String.length h
  simp only [centsText, String.length_ofList] at hchars
  have hone : "0".length = 1 := rfl
  rw [hone] at hchars
  split at hchars
  · simp [pointDigits] at hchars
  · simp [pointDigits] at hchars

theorem snapshot_wellFormed (delivery : Delivery) (value : String) :
    (snapshot delivery value).wellFormed = true := by
  have hoption (field : Option String) : (Json.ofOption field).wellFormed = true := by
    cases field <;> rfl
  simp [snapshot, Json.wellFormed, Json.wellFormedFields, hoption]

/-- The hash of a new delivery is not the hash of the delivery as it is read back. -/
theorem snapshotHash_ne {platform : DeliveryPlatform} (hsha : Function.Injective platform.sha256)
    (delivery : Delivery) :
    snapshotHash platform (storedSnapshot delivery) ≠ snapshotHash platform (snapshot delivery "0") := by
  intro h
  have hsame := Json.same_of_dumps true (snapshot_wellFormed _ _) (snapshot_wellFormed _ _) (hsha h)
  have hlookup := hsame.lookup (by simp) (by simp) "verified_delivered_value"
  exact centsText_ne_zero _ (Json.str.inj (Option.some.inj hlookup))

/-! ## Dossiers with a trail -/

structure Logged (platform : DeliveryPlatform) (dossier : Dossier) : Prop where
  events : dossier.events.map DeliveryEvent.version = List.range' 1 dossier.delivery.version
  outbox : dossier.outbox.map OutboxEvent.aggregateVersion = List.range' 1 dossier.delivery.version
  trace : Trace platform dossier.delivery dossier.audits

theorem opening_logged (platform : DeliveryPlatform) (call : DeliveryCall) (actor : ActorScope)
    (body : DeliveryCreate) : Logged platform (opening platform call actor body) :=
  ⟨rfl, rfl, .opened rfl rfl rfl rfl⟩

theorem versions_concat {Row : Type} {version : Row → Nat} {rows : List Row} {row : Row} {n m : Nat}
    (h : rows.map version = List.range' 1 n) (hrow : version row = m) (hm : m = n + 1) :
    (rows ++ [row]).map version = List.range' 1 m := by
  rw [List.map_append, h, List.map_singleton, hrow, hm, List.range'_1_concat, Nat.add_comm 1]

theorem Logged.step {platform : DeliveryPlatform} {before after : Dossier} (h : Logged platform before)
    (hrecorded : Recorded platform before after) : Logged platform after := by
  obtain ⟨event, hevents, hevent⟩ := hrecorded.events
  obtain ⟨audit, haudits, haudit, hbefore, hafter⟩ := hrecorded.audits
  obtain ⟨note, houtbox, hnote⟩ := hrecorded.outbox
  refine ⟨?_, ?_, ?_⟩
  · rw [hevents]
    exact versions_concat h.events hevent hrecorded.version
  · rw [houtbox]
    exact versions_concat h.outbox hnote hrecorded.version
  · rw [haudits]
    exact h.trace.changed hrecorded.version haudit hbefore hafter

/-! ## Every reachable database -/

/-- Of rows that are numbered from one on there is just one for each number. -/
theorem exactlyOne_of_versions {Row : Type} {rows : List Row} {owned : Row → Bool} {version : Row → Nat}
    {n k : Nat} (h : (rows.filter owned).map version = List.range' 1 n) (hlow : 1 ≤ k) (hhigh : k ≤ n) :
    ExactlyOne rows fun row ↦ owned row && version row == k := by
  have hmem : k ∈ (rows.filter owned).map version := by
    rw [h, List.mem_range'_1]
    omega
  obtain ⟨row, hrow, rfl⟩ := List.mem_map.mp hmem
  have hnodup : ((rows.filter owned).map version).Nodup := h ▸ List.nodup_range' ..
  refine ⟨row, ?_⟩
  have hfilter := Table.filter_eq_singleton hnodup hrow
  rw [List.filter_filter] at hfilter
  rw [← hfilter]
  exact List.filter_congr fun other _ ↦ Bool.and_comm _ _

section Reached

variable {platform : DeliveryPlatform} {db : DeliveryDb} {delivery : Delivery}

theorem Logged.gapless (h : Logged platform (dossier db delivery)) : Gapless db delivery where
  events _ hlow hhigh := exactlyOne_of_versions h.events hlow hhigh
  audits _ hlow hhigh := exactlyOne_of_versions h.trace.versions hlow hhigh
  outbox _ hlow hhigh := exactlyOne_of_versions h.outbox hlow hhigh
  first _ hrow howner := h.trace.first (List.mem_filter.mpr ⟨hrow, beq_iff_eq.mpr howner⟩)

/-- All links hold but the first one. -/
theorem Logged.linkedAt_iff (h : Logged platform (dossier db delivery))
    (hsha : Function.Injective platform.sha256) {k : Nat} (hlow : 1 ≤ k) (hhigh : k < delivery.version) :
    LinkedAt db delivery k ↔ k ≠ 1 := by
  constructor
  · rintro hlinked rfl
    obtain ⟨row, hrow, hversion⟩ := h.trace.exists_version hlow hhigh.le
    obtain ⟨next, hnext, hnextVersion⟩ := h.trace.exists_version (Nat.le_add_left 1 1) hhigh
    rcases h.trace.follows hrow hnext (by omega) with ⟨-, opened, hafter, hbefore⟩ | ⟨hlater, -⟩
    · obtain ⟨hrow, howner⟩ := List.mem_filter.mp hrow
      obtain ⟨hnext, hnextOwner⟩ := List.mem_filter.mp hnext
      have hlink := hlinked row hrow next hnext (beq_iff_eq.mp howner) (beq_iff_eq.mp hnextOwner) hversion
        hnextVersion
      rw [hbefore, hafter, Option.some.injEq] at hlink
      exact snapshotHash_ne hsha opened hlink
    · omega
  · intro hk row hrow next hnext howner hnextOwner hversion hnextVersion
    have hmem : row ∈ (dossier db delivery).audits := List.mem_filter.mpr ⟨hrow, beq_iff_eq.mpr howner⟩
    have hnextMem : next ∈ (dossier db delivery).audits :=
      List.mem_filter.mpr ⟨hnext, beq_iff_eq.mpr hnextOwner⟩
    rcases h.trace.follows hmem hnextMem (by omega) with ⟨hone, -⟩ | ⟨-, hlink⟩
    · omega
    · exact hlink

end Reached

/-- In every reachable database the trails have no gaps, and they are linked but for the links from the
creations on. -/
theorem trail_linked_iff (platform : DeliveryPlatform) (hsha : Function.Injective platform.sha256)
    (calls : List DeliveryCall) : ∀ delivery ∈ ((deliveryService platform).run {} calls).deliveries,
      (Gapless ((deliveryService platform).run {} calls) delivery ∧
          Linked ((deliveryService platform).run {} calls) delivery ↔ delivery.version = 1) ∧
        Gapless ((deliveryService platform).run {} calls) delivery ∧
        ∀ k, 1 ≤ k → k < delivery.version →
          (LinkedAt ((deliveryService platform).run {} calls) delivery k ↔ k ≠ 1) := by
  intro delivery hdelivery
  have hlogged := dossier_invariant platform (Logged platform) (opening_logged platform)
    (fun _ _ h _ hrecorded ↦ h.step hrecorded) calls delivery hdelivery
  have hlinks (k : Nat) (hlow : 1 ≤ k) (hhigh : k < delivery.version) :=
    hlogged.linkedAt_iff hsha hlow hhigh
  refine ⟨⟨fun ⟨_, hlinked⟩ ↦ ?_, fun hone ↦ ⟨hlogged.gapless, fun k hlow hhigh ↦ ?_⟩⟩, hlogged.gapless,
    hlinks⟩
  · have hpos := hlogged.trace.version_pos
    by_contra hne
    have hlater : 1 < delivery.version := lt_of_le_of_ne hpos (Ne.symm hne)
    exact (hlinks 1 le_rfl hlater).mp (hlinked 1 le_rfl hlater) rfl
  · omega

/-! ## A delivery that is made ready -/

theorem pumps_value : (0 : Int) ≤ 2000 ∧ (2000 : Int) < 10 ^ 18 := by decide

theorem pump_value : (0 : Int) ≤ 1000 ∧ (1000 : Int) < 10 ^ 18 := by decide

/-- Two pumps at 10.00 each. -/
def pumps : DeliveryCreate where
  deliveryNumber := "DLV-1"
  purchaseOrderId := "po_1"
  sellerBusinessId := "biz_seller"
  sellerGstin := "29ABCDE1234F1Z5"
  buyerId := "buyer_1"
  buyerGstin := "29FGHIJ5678K1Z3"
  shipFrom := "\x7b\"city\":\"Pune\"\x7d"
  shipTo := "\x7b\"city\":\"Surat\"\x7d"
  declaredValue := 2000
  items := [⟨"line_1", none, "PUMP", 2000, 1000, by decide, pump_value⟩]
  declaredValue_digits := pumps_value
  items_given := by decide
  skus_distinct := by decide
  poLines_distinct := by decide
  declaredValue_total := by decide +kernel

def seller : ActorScope := ⟨"tenant", "seller", .sellerOperator⟩

def drawing (draw : String) (request : Request) : DeliveryCall where
  request := request
  uuid index := draw ++ "-" ++ toString index
  trailId index := draw ++ "-trail-" ++ toString index
  letters _ := "ABCDEFGH"
  clock _ := 0

def pumpsCreated : DeliveryCall := drawing "pumps" (.createDelivery seller pumps)

def pumpsReady : List DeliveryCall := [pumpsCreated, drawing "ready" (.markReady seller "pumps-0" 1)]

/-- The digests of the new delivery, of the same delivery as it is read back, and of the ready one. -/
def pumpDigests : List (String × String) :=
  let created := newDelivery pumpsCreated seller pumps
  [((snapshot created "0").dumps true, "090f2db5fde59296766ad663508a6ebe6f92bf764104a63238a7bfcfb1fa7b26"),
    ((snapshot created "0.00").dumps true,
      "430f4aa48b82497c26db0a882831ce2f7a5e14047cc2191fa957bf42940abcb3"),
    ((snapshot (created.ready "XYABCDEFGH") "0.00").dumps true,
      "ef1854fd1053946e38dff16c0453a0354d3638565dfc4ffc4c7f696e38c0208c")]

theorem pumpDigests_injective : Function.Injective (tableDigest pumpDigests) := by
  refine tableDigest_injective ?_ ?_
  · decide +kernel
  · decide +kernel

def pumpPlatform : DeliveryPlatform where
  sha256 := tableDigest pumpDigests
  loads text := text.startsWith "\x7b"

theorem pumpPlatform_injective : Function.Injective pumpPlatform.sha256 := by
  simp only [pumpPlatform]
  exact pumpDigests_injective

/-- The delivery as it is stored after `pumpsReady`. -/
def readyPumps : Delivery := (newDelivery pumpsCreated seller pumps).ready "XYABCDEFGH"

theorem readyPumps_mem : readyPumps ∈ ((deliveryService pumpPlatform).run {} pumpsReady).deliveries := by
  decide +kernel

theorem readyPumps_gapless : Gapless ((deliveryService pumpPlatform).run {} pumpsReady) readyPumps :=
  (trail_linked_iff pumpPlatform pumpPlatform_injective pumpsReady readyPumps readyPumps_mem).2.1

/-- The audit event of the second version does not start from the hash that the first one ended with. -/
theorem readyPumps_unlinked : ¬ ∀ delivery ∈ ((deliveryService pumpPlatform).run {} pumpsReady).deliveries,
    Linked ((deliveryService pumpPlatform).run {} pumpsReady) delivery := by
  have hbroken : ∃ row ∈ ((deliveryService pumpPlatform).run {} pumpsReady).audits,
      ∃ next ∈ ((deliveryService pumpPlatform).run {} pumpsReady).audits,
        row.aggregateId = readyPumps.id ∧ next.aggregateId = readyPumps.id ∧ row.aggregateVersion = 1 ∧
          next.aggregateVersion = 2 ∧ next.beforeHash ≠ some row.afterHash := by
    decide +kernel
  intro hlinked
  obtain ⟨row, hrow, next, hnext, howner, hnextOwner, hversion, hnextVersion, hne⟩ := hbroken
  exact hne (hlinked readyPumps readyPumps_mem 1 le_rfl (by decide) row hrow next hnext howner hnextOwner
    hversion hnextVersion)

end Xyena.Deliveries
