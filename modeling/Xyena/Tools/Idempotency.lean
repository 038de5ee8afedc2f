import Xyena.Tools.Concurrency

/-!
# One side effect per idempotency key

`execute` looks for the key of a call and inserts the call when it finds none.
No constraint and no lock covers a row that is not stored, so two calls under
one key may both get through while neither is committed; and the row of a call
is committed only after its tool was invoked, so a call that is lost in between
can be made again. In runs in which neither happens a remote tool with side
effects is invoked at most once under each key.
-/

namespace Xyena.Tools

open Xyena.Foundation Xyena.Contracts Xyena.Audit Xyena.Gateway

/-! ## The effects under a key -/

/-- What an idempotency key is unique for. The broker reads an empty key as no key. -/
structure KeyScope where
  tenantId : Uuid
  toolVersionId : Uuid
  key : String
  given : key ≠ ""

namespace KeyScope

variable (scope : KeyScope)

def covers (call : MCPToolCall) : Bool :=
  call.tenantId == scope.tenantId && call.toolVersionId == scope.toolVersionId &&
    call.idempotencyKey == some scope.key

/-- The invocation of a remote tool with side effects under the key. -/
def counts (invocation : Invocation) : Bool :=
  invocation.row.uncertain && scope.covers invocation.call

/-- All such invocations of a run. -/
def effects (history : List PoolEntry) : List Invocation :=
  (history.flatMap Entry.output).filter scope.counts

/-- A broker call has found the key unused and inserts its first call. -/
def opens (target : Option Target) : Bool :=
  target.any fun found ↦ found.inserted && scope.covers found.call

/-- An open transaction has invoked the tool. -/
def exposed (flight : Flight) : Bool :=
  flight.trace.any fun event ↦ event.effect.invocation.any scope.counts

end KeyScope

/-- The steps that keep to one effect under a key. No call comes under an unused key while another
one is open. An open call that has invoked the tool is not lost, and when it ends its last reply can
be recorded under identifiers that are unused. -/
def careful (platform : BrokerPlatform) (scope : KeyScope) (world : World) : Action → Bool
  | .registry _ => true
  | .start _ call =>
    !scope.opens (call.target platform world.db) ||
      world.flights.all fun flight ↦ !scope.opens flight.target
  | .proceed _ _ => true
  | .finish id => (world.flight id).all fun flight ↦ !scope.exposed flight ||
      freshDraws world.db flight.call.draws &&
        (flight.target.all fun target ↦
          !target.inserted || world.db.calls.all fun old ↦ target.call.id != old.id) &&
        flight.trace.getLast?.all recordable
  | .crash id => (world.flight id).all fun flight ↦ !scope.exposed flight

section Keys

variable {scope : KeyScope} {first second : MCPToolCall}

theorem KeyScope.covers_advances (h : first.Advances second) :
    scope.covers second = scope.covers first := by
  obtain ⟨_, _, _, _, rfl⟩ := h
  rfl

theorem KeyScope.sameKey (hfirst : scope.covers first = true) (hsecond : scope.covers second = true) :
    first.SameKey second := by
  simp only [covers, Bool.and_eq_true, beq_iff_eq] at hfirst hsecond
  obtain ⟨⟨htenant₁, hversion₁⟩, hkey₁⟩ := hfirst
  obtain ⟨⟨htenant₂, hversion₂⟩, hkey₂⟩ := hsecond
  refine ⟨htenant₁.trans htenant₂.symm, hversion₁.trans hversion₂.symm, hkey₁.trans hkey₂.symm, ?_⟩
  simp [truthy, hkey₁, scope.given]

theorem KeyScope.opens_some {target : Target} :
    scope.opens (some target) = true ↔ target.inserted = true ∧ scope.covers target.call = true := by
  simp only [opens, Option.any_some, Bool.and_eq_true]

end Keys

/-! ## The invariant -/

/-- What holds of the effects so far and the world, for one key. -/
structure ScopeInvariant (scope : KeyScope) (effects : List Invocation) (world : World) : Prop where
  oneCall : ∀ first ∈ world.db.calls, ∀ second ∈ world.db.calls, scope.covers first = true →
    scope.covers second = true → first.id = second.id
  oneFlight : ∀ first ∈ world.flights, ∀ second ∈ world.flights, scope.opens first.target = true →
    scope.opens second.target = true → first.id = second.id
  apart : ∀ flight ∈ world.flights, scope.opens flight.target = true →
    ∀ call ∈ world.db.calls, scope.covers call = false
  /-- Whoever caused an effect is a made call or still open. -/
  held : effects ≠ [] →
    (∃ call ∈ world.db.calls, scope.covers call = true ∧ isFinal call.status = true) ∨
      ∃ flight ∈ world.flights, scope.exposed flight = true
  atMostOne : effects.length ≤ 1

section Flights

variable {platform : BrokerPlatform} {scope : KeyScope} {effects : List Invocation}
  {world : World} {flight other : Flight} {target otherTarget : Target}

/-- A target that is allowed an effect under the key is under the key and has invoked nothing. -/
theorem Target.Allowed.counted {trace : List BrokerEvent} {effect : Ask} {invocation : Invocation}
    (h : target.Allowed trace effect) (hinvocation : effect.invocation = some invocation)
    (hcounts : scope.counts invocation = true) :
    scope.covers target.call = true ∧ NoInvocation trace := by
  obtain ⟨hrow, hadvances, -, hfirst⟩ := h invocation hinvocation
  simp only [KeyScope.counts, CatalogRow.uncertain, hrow, KeyScope.covers_advances hadvances,
    Bool.and_eq_true] at hcounts
  exact ⟨hcounts.2, hfirst hcounts.1.2⟩

/-- The target of a flight that has invoked the tool. -/
theorem Flight.Sound.exposed {db : ToolDb} (h : flight.Sound platform db)
    (hexposed : scope.exposed flight = true) :
    ¬ NoInvocation flight.trace ∧
      ∃ target, flight.target = some target ∧ scope.covers target.call = true := by
  obtain ⟨event, hevent, hany⟩ := List.any_eq_true.mp hexposed
  obtain ⟨invocation, hinvocation, hcounts⟩ := (Option.any_eq_true _ _).mp hany
  constructor
  · intro hsilent
    rw [hsilent event hevent] at hinvocation
    cases hinvocation
  · obtain ⟨target, earlier, htarget, hallowed⟩ := h.asked hevent
    exact ⟨target, htarget, (hallowed.counted hinvocation hcounts).1⟩

/-- A stored call under the key of an open flight is the one that the flight has locked. -/
theorem ScopeInvariant.stored (h : ScopeInvariant scope effects world)
    (hpool : PoolInvariant platform world) (hflight : flight ∈ world.flights)
    (htarget : flight.target = some target) (hcovers : scope.covers target.call = true)
    {call : MCPToolCall} (hcall : call ∈ world.db.calls) (hcallCovers : scope.covers call = true) :
    call = target.call ∧ target.inserted = false := by
  cases hnew : target.inserted with
  | true =>
    have hopen : scope.opens flight.target = true := by
      rw [htarget]
      exact KeyScope.opens_some.mpr ⟨hnew, hcovers⟩
    rw [h.apart flight hflight hopen call hcall] at hcallCovers
    cases hcallCovers
  | false =>
    obtain ⟨hstored, -⟩ := (hpool.sound flight hflight).locked target htarget hnew
    have hid := h.oneCall call hcall target.call hstored hcallCovers hcovers
    exact ⟨Table.eq_of_key hpool.ledger.ids hcall hstored hid, rfl⟩

/-- At most one open flight works under the key. -/
theorem ScopeInvariant.alone (h : ScopeInvariant scope effects world)
    (hpool : PoolInvariant platform world) (hflight : flight ∈ world.flights)
    (hother : other ∈ world.flights) (htarget : flight.target = some target)
    (hotherTarget : other.target = some otherTarget) (hcovers : scope.covers target.call = true)
    (hotherCovers : scope.covers otherTarget.call = true) : flight.id = other.id := by
  have hlocked {one : Flight} {found : Target} (hone : one ∈ world.flights)
      (hfound : one.target = some found) (hold : found.inserted = false) :=
    (hpool.sound one hone).locked found hfound hold
  cases hnew : target.inserted with
  | true =>
    cases hotherNew : otherTarget.inserted with
    | true =>
      refine h.oneFlight flight hflight other hother ?_ ?_
      · rw [htarget]
        exact KeyScope.opens_some.mpr ⟨hnew, hcovers⟩
      · rw [hotherTarget]
        exact KeyScope.opens_some.mpr ⟨hotherNew, hotherCovers⟩
    | false =>
      obtain ⟨-, hold⟩ := h.stored hpool hflight htarget hcovers
        (hlocked hother hotherTarget hotherNew).1 hotherCovers
      rw [hnew] at hold
      cases hold
  | false =>
    obtain ⟨hstored, -, hlock⟩ := hlocked hflight htarget hnew
    obtain ⟨hsame, hold⟩ := h.stored hpool hother hotherTarget hotherCovers hstored hcovers
    obtain ⟨-, -, hotherLock⟩ := hlocked hother hotherTarget hold
    exact hpool.locks flight hflight other hother target.call.id hlock (hsame ▸ hotherLock)

/-- A flight that is about to invoke the tool is the first to do so. -/
theorem ScopeInvariant.first (h : ScopeInvariant scope effects world)
    (hpool : PoolInvariant platform world) (hflight : flight ∈ world.flights) {effect : Ask}
    {next : Reply effect → BrokerProgram (Except BrokerError Outcome)}
    (hprogram : flight.program = .ask effect next) {invocation : Invocation}
    (hinvocation : effect.invocation = some invocation) (hcounts : scope.counts invocation = true) :
    effects = [] := by
  obtain ⟨target, htarget, hallowed⟩ := (hpool.sound flight hflight).asking hprogram
  obtain ⟨hcovers, hsilent⟩ := hallowed.counted hinvocation hcounts
  by_contra hsome
  rcases h.held hsome with ⟨call, hcall, hcallCovers, hfinal⟩ | ⟨other, hother, hexposed⟩
  · obtain ⟨rfl, hold⟩ := h.stored hpool hflight htarget hcovers hcall hcallCovers
    obtain ⟨-, hwaiting, -⟩ := (hpool.sound flight hflight).locked target htarget hold
    rw [hwaiting] at hfinal
    cases hfinal
  · obtain ⟨hnoisy, otherTarget, hotherTarget, hotherCovers⟩ :=
      (hpool.sound other hother).exposed hexposed
    have hid := h.alone hpool hflight hother htarget hotherTarget hcovers hotherCovers
    rw [Table.eq_of_key hpool.ids hflight hother hid] at hsilent
    exact hnoisy hsilent

end Flights

/-! ## Steps -/

section Steps

variable {platform : BrokerPlatform} {scope : KeyScope} {effects : List Invocation}
  {world : World}

/-- A commit keeps one stored call under the key. -/
theorem ScopeInvariant.oneCall_apply (h : ScopeInvariant scope effects world)
    (hpool : PoolInvariant platform world) {flight : Flight} (hflight : flight ∈ world.flights)
    {target : Target} {writes : Writes} (htarget : flight.target = some target)
    (hcall : target.call.Advances writes.call) (hplaced : writes.Placed world.db) :
    ∀ first ∈ (writes.apply world.db).calls, ∀ second ∈ (writes.apply world.db).calls,
      scope.covers first = true → scope.covers second = true → first.id = second.id := by
  -- the committed row is the only one under the key
  have hnew (old : MCPToolCall) (hold : old ∈ world.db.calls)
      (hcovers : scope.covers writes.call = true) (holdCovers : scope.covers old = true) :
      writes.call.id = old.id := by
    rw [KeyScope.covers_advances hcall] at hcovers
    obtain ⟨rfl, -⟩ := h.stored hpool hflight htarget hcovers hold holdCovers
    obtain ⟨_, _, _, _, hrow⟩ := hcall
    rw [hrow]
  intro first hfirst second hsecond hcovers₁ hcovers₂
  rcases (Writes.mem_apply_calls hplaced).mp hfirst with rfl | ⟨hold₁, -⟩ <;>
    rcases (Writes.mem_apply_calls hplaced).mp hsecond with rfl | ⟨hold₂, -⟩
  · rfl
  · exact hnew second hold₂ hcovers₁ hcovers₂
  · exact (hnew first hold₁ hcovers₂ hcovers₁).symm
  · exact h.oneCall first hold₁ second hold₂ hcovers₁ hcovers₂

theorem KeyScope.exposed_answered {flight : Flight} {effect : Ask}
    (next : Reply effect → BrokerProgram (Except BrokerError Outcome)) (reply : Reply effect) :
    scope.exposed (flight.answered next reply) =
      (scope.exposed flight || effect.invocation.any scope.counts) := by
  simp only [exposed, Flight.answered, List.any_append, List.any_cons, List.any_nil, Bool.or_false]

/-- The start of a broker call. -/
theorem ScopeInvariant.start (h : ScopeInvariant scope effects world) (id : Nat) (call : BrokerCall)
    (hcareful : careful platform scope world (.start id call) = true) :
    ScopeInvariant scope effects
      { world with flights := world.flights ++ [call.takeOff platform world.db id] } := by
  have hfirst (hopen : scope.opens (call.target platform world.db) = true) :
      ∀ flight ∈ world.flights, scope.opens flight.target = false := by
    simpa [careful, hopen] using hcareful
  have hunused (hopen : scope.opens (call.target platform world.db) = true) (stored : MCPToolCall)
      (hstored : stored ∈ world.db.calls) : scope.covers stored = false := by
    obtain ⟨target, htarget, hnew⟩ := (Option.any_eq_true _ _).mp hopen
    obtain ⟨hinserted, hcovers⟩ := Bool.and_eq_true_iff.mp hnew
    rw [← Bool.not_eq_true]
    intro hstoredCovers
    exact BrokerCall.target_key_unused htarget hinserted stored hstored
      (KeyScope.sameKey hcovers hstoredCovers)
  constructor
  case oneCall => exact h.oneCall
  case oneFlight =>
    refine Table.pairs_append (fun _ _ hpair hopen₁ hopen₂ ↦ (hpair hopen₂ hopen₁).symm) h.oneFlight
      (fun old hold hopen hnew ↦ ?_) fun _ _ ↦ rfl
    rw [hfirst hnew old hold] at hopen
    cases hopen
  case apart =>
    intro flight hflight hopen
    rcases List.mem_append.mp hflight with hold | hnew
    · exact h.apart flight hold hopen
    · rw [List.mem_singleton.mp hnew] at hopen
      exact hunused hopen
  case held =>
    intro hsome
    exact (h.held hsome).imp_right fun ⟨flight, hflight, hexposed⟩ ↦
      ⟨flight, List.mem_append_left _ hflight, hexposed⟩
  case atMostOne => exact h.atMostOne

/-- The step of a flight that asks. -/
theorem ScopeInvariant.proceed (h : ScopeInvariant scope effects world)
    (hpool : PoolInvariant platform world) {flight : Flight} (hflight : flight ∈ world.flights)
    {effect : Ask} {next : Reply effect → BrokerProgram (Except BrokerError Outcome)}
    (reply : Reply effect) (hprogram : flight.program = .ask effect next) :
    ScopeInvariant scope (effects ++ effect.invocation.toList.filter scope.counts)
      { world with
        flights := Table.replace Flight.id (flight.answered next reply) world.flights } := by
  have hanswered : flight.answered next reply ∈
      Table.replace Flight.id (flight.answered next reply) world.flights :=
    Table.changed_mem_replace hflight rfl
  constructor
  case oneCall => exact h.oneCall
  case oneFlight =>
    intro first hfirst second hsecond hopen₁ hopen₂
    obtain ⟨old₁, hold₁, hid₁, htarget₁, -⟩ := mem_answered hflight hfirst
    obtain ⟨old₂, hold₂, hid₂, htarget₂, -⟩ := mem_answered hflight hsecond
    rw [← hid₁, ← hid₂]
    exact h.oneFlight old₁ hold₁ old₂ hold₂ (htarget₁ ▸ hopen₁) (htarget₂ ▸ hopen₂)
  case apart =>
    intro other hother hopen
    obtain ⟨old, hold, -, htarget, -⟩ := mem_answered hflight hother
    exact h.apart old hold (htarget ▸ hopen)
  case held =>
    intro hsome
    by_cases hcounts : effect.invocation.any scope.counts = true
    · refine Or.inr ⟨_, hanswered, ?_⟩
      rw [KeyScope.exposed_answered, hcounts, Bool.or_true]
    · have hnone : effect.invocation.toList.filter scope.counts = [] := by
        cases hinvocation : effect.invocation <;> simp_all
      rw [hnone, List.append_nil] at hsome
      refine (h.held hsome).imp_right fun ⟨other, hother, hexposed⟩ ↦ ?_
      by_cases hid : other.id = flight.id
      · obtain rfl := Table.eq_of_key hpool.ids hother hflight hid
        refine ⟨_, hanswered, ?_⟩
        rw [KeyScope.exposed_answered, hexposed, Bool.true_or]
      · exact ⟨other, Table.mem_replace_of_ne hother hid, hexposed⟩
  case atMostOne =>
    match hinvocation : effect.invocation with
    | none => simpa using h.atMostOne
    | some invocation =>
      by_cases hcounts : scope.counts invocation = true
      · rw [h.first hpool hflight hprogram hinvocation hcounts]
        exact List.length_filter_le _ _
      · simpa [hcounts] using h.atMostOne

/-- A flight that has invoked the tool leaves a made call when it ends with care. -/
theorem Flight.Sound.made {flight : Flight} (h : flight.Sound platform world.db)
    (hledger : Ledger world.db) (hexposed : scope.exposed flight = true)
    {outcome : Except BrokerError Outcome} (hprogram : flight.program = .ret outcome)
    (hfound : world.flight flight.id = some flight)
    (hcareful : careful platform scope world (.finish flight.id) = true) :
    ∃ call ∈ (closeTransaction world.db outcome).2.calls, scope.covers call = true ∧
      isFinal call.status = true := by
  obtain ⟨hnoisy, target, htarget, hcovers⟩ := h.exposed hexposed
  simp only [careful, hfound, htarget, hexposed, Option.all_some, Bool.not_true, Bool.false_or,
    Bool.and_eq_true, Bool.or_eq_true, Bool.not_eq_true', List.all_eq_true, bne_iff_ne] at hcareful
  obtain ⟨⟨hfresh, hunused⟩, hrecordable⟩ := hcareful
  have hplaced (writes : Writes) (hinserted : writes.inserted = target.inserted)
      (hcall : target.call.Advances writes.call) : writes.Placed world.db :=
    h.placed htarget (fun hnew ↦ hunused.resolve_left (by simp [hnew])) hinserted hcall
  obtain ⟨made, hmade, hadvances, hfinal, -⟩ := made_of_invoked hledger hplaced
    (h.ending htarget hprogram) (h.allowed target htarget) hnoisy hfresh hrecordable
  exact ⟨made, hmade, (KeyScope.covers_advances hadvances).trans hcovers, hfinal⟩

/-- The end of a transaction. -/
theorem ScopeInvariant.finish (h : ScopeInvariant scope effects world)
    (hpool : PoolInvariant platform world) {flight : Flight} (hflight : flight ∈ world.flights)
    {outcome : Except BrokerError Outcome} (hprogram : flight.program = .ret outcome)
    (hfound : world.flight flight.id = some flight)
    (hcareful : careful platform scope world (.finish flight.id) = true) :
    ScopeInvariant scope effects
      ⟨(closeTransaction world.db outcome).2, world.remove flight.id⟩ := by
  have hsound := hpool.sound flight hflight
  have hclose := hsound.close hprogram
  constructor
  case oneCall =>
    rcases hclose with hkept | ⟨target, writes, htarget, -, hcall, hplaced, -, hcommitted⟩
    · rw [hkept]
      exact h.oneCall
    · rw [hcommitted]
      exact h.oneCall_apply hpool hflight htarget hcall hplaced
  case oneFlight =>
    intro first hfirst second hsecond
    exact h.oneFlight first (mem_remove.mp hfirst).1 second (mem_remove.mp hsecond).1
  case apart =>
    intro other hother hopen call hcall
    obtain ⟨hmem, hdistinct⟩ := mem_remove.mp hother
    rcases hclose with hkept | ⟨target, writes, htarget, -, hadvances, hplaced, -, hcommitted⟩
    · rw [hkept] at hcall
      exact h.apart other hmem hopen call hcall
    · rw [hcommitted] at hcall
      rcases (Writes.mem_apply_calls hplaced).mp hcall with rfl | ⟨hold, -⟩
      · rw [KeyScope.covers_advances hadvances, ← Bool.not_eq_true]
        intro hcovers
        match hotherTarget : other.target with
        | none =>
          rw [hotherTarget] at hopen
          cases hopen
        | some otherTarget =>
          rw [hotherTarget] at hopen
          exact hdistinct (h.alone hpool hmem hflight hotherTarget htarget
            (KeyScope.opens_some.mp hopen).2 hcovers)
      · exact h.apart other hmem hopen call hold
  case held =>
    intro hsome
    rcases h.held hsome with ⟨call, hcall, hcovers, hfinal⟩ | ⟨other, hother, hexposed⟩
    · refine Or.inl ⟨call, ?_, hcovers, hfinal⟩
      rcases hclose with hkept | ⟨target, writes, -, -, -, hplaced, -, hcommitted⟩
      · rw [hkept]
        exact hcall
      · rw [hcommitted]
        exact hpool.ledger.final_kept hplaced hcall hfinal
    · by_cases hid : other.id = flight.id
      · obtain rfl := Table.eq_of_key hpool.ids hother hflight hid
        exact Or.inl (hsound.made hpool.ledger hexposed hprogram hfound hcareful)
      · exact Or.inr ⟨other, mem_remove.mpr ⟨hother, hid⟩, hexposed⟩
  case atMostOne => exact h.atMostOne

/-- Every careful step keeps the invariant. -/
theorem PoolMove.scopeInvariant {action : Action} {output : List Invocation} {after : World}
    (hmove : PoolMove platform world action output after) (hpool : PoolInvariant platform world)
    (h : ScopeInvariant scope effects world)
    (hcareful : careful platform scope world action = true) :
    ScopeInvariant scope (effects ++ output.filter scope.counts) after := by
  cases hmove with
  | idle =>
    rw [List.filter_nil, List.append_nil]
    exact h
  | registry op changed =>
    rw [List.filter_nil, List.append_nil]
    exact ⟨h.oneCall, h.oneFlight, h.apart, h.held, h.atMostOne⟩
  | start id call =>
    rw [List.filter_nil, List.append_nil]
    exact h.start id call hcareful
  | proceed oracle flight effect next reply hflight hprogram =>
    exact h.proceed hpool hflight reply hprogram
  | finish flight outcome hflight hfound hprogram =>
    rw [List.filter_nil, List.append_nil]
    exact h.finish hpool hflight hprogram hfound hcareful
  | crash id =>
    rw [List.filter_nil, List.append_nil]
    refine ⟨h.oneCall, ?_, ?_, ?_, h.atMostOne⟩
    · intro first hfirst second hsecond
      exact h.oneFlight first (mem_remove.mp hfirst).1 second (mem_remove.mp hsecond).1
    · intro flight hflight
      exact h.apart flight (mem_remove.mp hflight).1
    · intro hsome
      refine (h.held hsome).imp_right fun ⟨flight, hflight, hexposed⟩ ↦
        ⟨flight, mem_remove.mpr ⟨hflight, ?_⟩, hexposed⟩
      rintro rfl
      rw [careful, hpool.flight_eq hflight, Option.all_some, hexposed] at hcareful
      cases hcareful

end Steps

/-! ## Runs -/

theorem KeyScope.effects_snoc (scope : KeyScope) (history : List PoolEntry) (e : PoolEntry) :
    scope.effects (history ++ [e]) = scope.effects history ++ e.output.filter scope.counts := by
  simp only [effects, List.flatMap_append, List.flatMap_singleton, List.filter_append]

/-- From every registry without calls, over every interleaving of careful steps, a remote tool with
side effects is invoked at most once under each tenant, tool version and idempotency key. -/
theorem oneEffect_of_careful (platform : BrokerPlatform) (registry : RegistryDb)
    (outbox : List OutboxEvent) (audit : List AuditEvent) (scope : KeyScope) (actions : List Action)
    (hcareful : ∀ e ∈ (brokerPool platform).log
      { db := { registry := registry, outbox := outbox, audit := audit } } actions,
      careful platform scope e.before e.input = true) :
    (scope.effects ((brokerPool platform).log
      { db := { registry := registry, outbox := outbox, audit := audit } } actions)).length ≤ 1 := by
  have hstart : PoolInvariant platform
        { db := { registry := registry, outbox := outbox, audit := audit } } ∧
      ScopeInvariant scope [] { db := { registry := registry, outbox := outbox, audit := audit } } := by
    constructor
    · refine ⟨?_, by simp, by simp, by simp⟩
      constructor <;> simp
    · constructor <;> simp
  have hinvariant := (brokerPool platform).history_invariant
    (fun history world ↦ PoolInvariant platform world ∧
      ScopeInvariant scope (scope.effects history) world)
    (fun e ↦ careful platform scope e.before e.input = true) hstart
    (fun history world action ⟨hpool, h⟩ hcareful ↦ by
      have hmove := brokerPool_moves platform world action
      rw [KeyScope.effects_snoc]
      exact ⟨hmove.invariant hpool, hmove.scopeInvariant hpool h hcareful⟩) actions hcareful
  exact hinvariant.2.atMostOne

/-- The key of the sample call. -/
def sampleScope : KeyScope where
  tenantId := 1
  toolVersionId := 14
  key := "invoice-1"
  given := by decide

/-- The next answers to a flight. -/
def sampleAnswers (id count : Nat) (outcome : GuardianOutcome) : List Action :=
  List.replicate count (.proceed id (sampleOracle outcome settledReply))

/-- The sample call is escalated, and its resumption has invoked the tool. -/
def escalatedActions : List Action :=
  (sampleReviews .always).map .registry ++
    [.start 0 ⟨.execute sampleSubmit, sampleDraws 100⟩] ++ sampleAnswers 0 1 .escalate ++
    [.finish 0, .start 1 ⟨.resume ⟨1, 100, 5⟩, sampleDraws 200⟩] ++ sampleAnswers 1 3 .allow

theorem oneEffect_escalatedActions :
    (sampleScope.effects ((brokerPool sampleBroker).log { db := {} }
        (escalatedActions ++ [.finish 1]))).length ≤ 1 ∧
      (sampleScope.effects ((brokerPool sampleBroker).log { db := {} }
        (escalatedActions ++ [.finish 1]))).length = 1 :=
  ⟨oneEffect_of_careful sampleBroker {} [] [] sampleScope (escalatedActions ++ [.finish 1])
    (by decide +kernel), by decide +kernel⟩

/-- Two requests under one key start before either is committed. -/
def racedActions : List Action :=
  (sampleReviews .policy).map .registry ++
    [.start 0 ⟨.execute sampleSubmit, sampleDraws 100⟩,
      .start 1 ⟨.execute sampleSubmit, sampleDraws 200⟩] ++
    sampleAnswers 0 3 .allow ++ sampleAnswers 1 3 .allow ++ [.finish 0, .finish 1]

/-- The resumption is lost before its commit and the call is resumed again. -/
def crashedActions : List Action :=
  escalatedActions ++ [.crash 1, .start 2 ⟨.resume ⟨1, 100, 5⟩, sampleDraws 300⟩] ++
    sampleAnswers 2 3 .allow ++ [.finish 2]

theorem racedActions_not_oneEffect :
    ¬ (sampleScope.effects ((brokerPool sampleBroker).log { db := {} } racedActions)).length ≤ 1 ∧
      ¬ (sampleScope.effects ((brokerPool sampleBroker).log { db := {} } crashedActions)).length ≤ 1 := by
  decide +kernel

end Xyena.Tools
