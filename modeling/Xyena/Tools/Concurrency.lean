import Xyena.Tools.Replay

/-!
# Concurrent broker calls

Broker calls in parallel transactions. A call reads the committed tables when it
starts and locks the call row that its `FOR UPDATE` query finds; a row that is
not stored cannot be locked. It then asks one question after the other while
other calls go on, and its rows become visible at its commit. A call may be lost
at any time, with everything that it has assigned. The registry may be changed
meanwhile.
-/

namespace Xyena.Tools

open Xyena.Foundation Xyena.Contracts Xyena.Audit Xyena.Gateway

/-! ## The pool of transactions -/

/-- A broker call in an open transaction: what it works on, the row that it has locked, what is left
of it to do, and what it has asked so far. -/
structure Flight where
  id : Nat
  call : BrokerCall
  target : Option Target
  lock : Option Uuid
  program : BrokerProgram (Except BrokerError Outcome)
  trace : List BrokerEvent

/-- The committed tables and the open transactions. -/
structure World where
  db : ToolDb
  flights : List Flight := []

/-- The stored call that a broker call locks. -/
def BrokerCall.lockedRow (platform : BrokerPlatform) (db : ToolDb) (call : BrokerCall) :
    Option Uuid :=
  match call.op with
  | .resume request => (findCall db request).map MCPToolCall.id
  | .execute request =>
    match resolve db.registry request.context.tenantId request.intent.requestedName with
    | none => none
    | some row =>
      if (validateAccess request row).isOk &&
          (validateArguments platform row.version.inputSchema request.intent.arguments).isOk then
        (request.intent.idempotencyKey.filter (· ≠ "")).bind fun key ↦
          (findByKey db request.context.tenantId row.version.id key).map MCPToolCall.id
      else none

def BrokerCall.takeOff (platform : BrokerPlatform) (db : ToolDb) (id : Nat) (call : BrokerCall) :
    Flight where
  id := id
  call := call
  target := call.target platform db
  lock := call.lockedRow platform db
  program := serveBroker platform db call
  trace := []

/-- The flight after it has asked and got a reply. -/
def Flight.answered (flight : Flight) {effect : Ask}
    (next : Reply effect → BrokerProgram (Except BrokerError Outcome)) (reply : Reply effect) :
    Flight :=
  { flight with
    program := next reply
    trace := flight.trace ++ [⟨effect, reply⟩] }

def World.flight (world : World) (id : Nat) : Option Flight :=
  world.flights.find? fun flight ↦ flight.id == id

def World.remove (world : World) (id : Nat) : List Flight :=
  world.flights.filter fun flight ↦ flight.id != id

/-- What can happen next: the registry is changed, or a call starts, gets its next answer, ends its
transaction or is lost. -/
inductive Action where
  | registry (op : RegistryOp)
  | start (id : Nat) (call : BrokerCall)
  | proceed (id : Nat) (oracle : Program.Oracle Ask Reply)
  | finish (id : Nat)
  | crash (id : Nat)

/-- The pool gives out the invocations that a step makes. A call whose row is locked by another
transaction does not start before that transaction has ended. -/
def brokerPool (platform : BrokerPlatform) : Machine World Action (List Invocation) where
  step world
    | .registry op => ([], { world with db := ((toolPlatform platform).step world.db (.registry op)).2 })
    | .start id call =>
      let busy := world.flights.any fun flight ↦ flight.id == id || flight.lock.any fun row ↦
        call.lockedRow platform world.db == some row
      if busy then ([], world)
      else ([], { world with flights := world.flights ++ [call.takeOff platform world.db id] })
    | .proceed id oracle =>
      match world.flight id with
      | none => ([], world)
      | some flight =>
        match flight.program with
        | .ret _ => ([], world)
        | .ask effect next =>
          (effect.invocation.toList,
            { world with
              flights := Table.replace Flight.id
                (flight.answered next (oracle flight.trace effect)) world.flights })
    | .finish id =>
      match world.flight id with
      | none => ([], world)
      | some flight =>
        match flight.program with
        | .ret outcome => ([], ⟨(closeTransaction world.db outcome).2, world.remove id⟩)
        | .ask _ _ => ([], world)
    | .crash id => ([], { world with flights := world.remove id })

abbrev PoolEntry := Entry World Action (List Invocation)

/-! ## Moves -/

/-- Everything that a step of the pool can do. -/
inductive PoolMove (platform : BrokerPlatform) (world : World) :
    Action → List Invocation → World → Prop
  | idle (action : Action) : PoolMove platform world action [] world
  | registry (op : RegistryOp) (changed : RegistryDb) :
      PoolMove platform world (.registry op) []
        { world with db := { world.db with registry := changed } }
  | start (id : Nat) (call : BrokerCall) (hid : ∀ flight ∈ world.flights, flight.id ≠ id)
      (hlock : ∀ flight ∈ world.flights, ∀ row, flight.lock = some row →
        call.lockedRow platform world.db ≠ some row) :
      PoolMove platform world (.start id call) []
        { world with flights := world.flights ++ [call.takeOff platform world.db id] }
  | proceed (oracle : Program.Oracle Ask Reply) (flight : Flight) (effect : Ask)
      (next : Reply effect → BrokerProgram (Except BrokerError Outcome)) (reply : Reply effect)
      (hflight : flight ∈ world.flights) (hprogram : flight.program = .ask effect next) :
      PoolMove platform world (.proceed flight.id oracle) effect.invocation.toList
        { world with
          flights := Table.replace Flight.id (flight.answered next reply) world.flights }
  | finish (flight : Flight) (outcome : Except BrokerError Outcome)
      (hflight : flight ∈ world.flights) (hfound : world.flight flight.id = some flight)
      (hprogram : flight.program = .ret outcome) :
      PoolMove platform world (.finish flight.id) []
        ⟨(closeTransaction world.db outcome).2, world.remove flight.id⟩
  | crash (id : Nat) :
      PoolMove platform world (.crash id) [] { world with flights := world.remove id }

theorem World.flight_spec {world : World} {id : Nat} {flight : Flight}
    (h : world.flight id = some flight) : flight ∈ world.flights ∧ flight.id = id :=
  ⟨List.mem_of_find?_eq_some h, by simpa using List.find?_some h⟩

theorem brokerPool_moves (platform : BrokerPlatform) (world : World) (action : Action) :
    PoolMove platform world action ((brokerPool platform).step world action).1
      ((brokerPool platform).step world action).2 := by
  cases action with
  | registry op => exact .registry op _
  | start id call =>
    simp only [brokerPool]
    split
    · exact .idle _
    next hfree =>
      simp only [List.any_eq_true, Bool.or_eq_true, beq_iff_eq, Option.any_eq_true, not_exists,
        not_and, not_or] at hfree
      exact .start id call (fun flight hflight ↦ (hfree flight hflight).1)
        fun flight hflight ↦ (hfree flight hflight).2
  | proceed id oracle =>
    simp only [brokerPool]
    split
    · exact .idle _
    next flight hfound =>
      obtain ⟨hflight, rfl⟩ := World.flight_spec hfound
      split
      · exact .idle _
      next effect next hprogram =>
        exact .proceed oracle flight effect next (oracle flight.trace effect) hflight hprogram
  | finish id =>
    simp only [brokerPool]
    split
    · exact .idle _
    next flight hfound =>
      obtain ⟨hflight, rfl⟩ := World.flight_spec hfound
      split
      next outcome hprogram => exact .finish flight outcome hflight hfound hprogram
      · exact .idle _
  | crash id => exact .crash id

/-! ## Sound flights -/

/-- A flight does what its target allows and will end as its target does; a resumed row is locked
and still waits for approval. -/
structure Flight.Sound (platform : BrokerPlatform) (db : ToolDb) (flight : Flight) : Prop where
  idle : flight.target = none → flight.trace = [] ∧
    ∃ outcome, flight.program = .ret outcome ∧ ∀ db, (closeTransaction db outcome).2 = db
  meets : ∀ target, flight.target = some target →
    Program.Meets target.Allowed (target.Ending platform flight.call.draws) flight.program
      flight.trace
  allowed : ∀ target, flight.target = some target → ∀ earlier event later,
    flight.trace = earlier ++ event :: later → target.Allowed earlier event.effect
  locked : ∀ target, flight.target = some target → target.inserted = false →
    target.call ∈ db.calls ∧ target.call.status = .waitingApproval ∧
      flight.lock = some target.call.id

structure PoolInvariant (platform : BrokerPlatform) (world : World) : Prop where
  ledger : Ledger world.db
  ids : (world.flights.map Flight.id).Nodup
  locks : ∀ first ∈ world.flights, ∀ second ∈ world.flights, ∀ row, first.lock = some row →
    second.lock = some row → first.id = second.id
  sound : ∀ flight ∈ world.flights, flight.Sound platform world.db

section Sound

variable {platform : BrokerPlatform} {db : ToolDb} {flight : Flight}

theorem takeOff_sound (platform : BrokerPlatform) (db : ToolDb) (id : Nat) (call : BrokerCall) :
    (call.takeOff platform db id).Sound platform db where
  idle := by
    intro htarget
    refine ⟨rfl, ?_⟩
    rcases serveBroker_of_no_target platform db htarget with
      ⟨failure, hserve⟩ | ⟨request, result, -, -, hserve⟩
    · exact ⟨_, hserve, fun _ ↦ rfl⟩
    · exact ⟨_, hserve, fun _ ↦ rfl⟩
  meets := fun target htarget ↦ serveBroker_meets platform db htarget
  allowed := by
    intro target _ earlier event later htrace
    cases earlier <;> cases htrace
  locked := by
    intro target htarget hstored
    rcases BrokerCall.target_cases htarget with ⟨hnew, -⟩ | ⟨-, request, hop, hfind, hwaiting, -⟩
    · rw [hstored] at hnew
      cases hnew
    · refine ⟨List.mem_of_find?_eq_some hfind, hwaiting, ?_⟩
      simp only [BrokerCall.takeOff, BrokerCall.lockedRow, hop, hfind, Option.map_some]

theorem Flight.Sound.answered {effect : Ask}
    {next : Reply effect → BrokerProgram (Except BrokerError Outcome)}
    (h : flight.Sound platform db) (hprogram : flight.program = .ask effect next)
    (reply : Reply effect) : (flight.answered next reply).Sound platform db where
  idle := by
    intro htarget
    obtain ⟨-, outcome, hret, -⟩ := h.idle htarget
    rw [hprogram] at hret
    cases hret
  meets := by
    intro target htarget
    have hmeets := h.meets target htarget
    rw [hprogram] at hmeets
    exact hmeets.2 reply
  allowed := by
    intro target htarget earlier event later htrace
    have hmeets := h.meets target htarget
    rw [hprogram] at hmeets
    rcases List.eq_nil_or_concat later with rfl | ⟨later, last, rfl⟩
    · obtain ⟨rfl, hlast⟩ := List.append_inj' htrace rfl
      rw [← (List.cons.inj hlast).1]
      exact hmeets.1
    · rw [List.concat_eq_append, ← List.cons_append, ← List.append_assoc] at htrace
      obtain ⟨htrace, -⟩ := List.append_inj' htrace rfl
      exact h.allowed target htarget earlier event later htrace
  locked := h.locked

/-- A flight that asks has a target, which allows what it asks. -/
theorem Flight.Sound.asking {effect : Ask}
    {next : Reply effect → BrokerProgram (Except BrokerError Outcome)}
    (h : flight.Sound platform db) (hprogram : flight.program = .ask effect next) :
    ∃ target, flight.target = some target ∧ target.Allowed flight.trace effect := by
  match htarget : flight.target with
  | none =>
    obtain ⟨-, outcome, hret, -⟩ := h.idle htarget
    rw [hprogram] at hret
    cases hret
  | some target =>
    have hmeets := h.meets target htarget
    rw [hprogram] at hmeets
    exact ⟨target, rfl, hmeets.1⟩

/-- So has a flight that has asked. -/
theorem Flight.Sound.asked {event : BrokerEvent} (h : flight.Sound platform db)
    (hevent : event ∈ flight.trace) :
    ∃ target earlier, flight.target = some target ∧ target.Allowed earlier event.effect := by
  match htarget : flight.target with
  | none =>
    rw [(h.idle htarget).1] at hevent
    cases hevent
  | some target =>
    obtain ⟨earlier, later, htrace⟩ := List.append_of_mem hevent
    exact ⟨target, earlier, rfl, h.allowed target htarget earlier event later htrace⟩

/-- A flight that has nothing left to ask ends as its target does. -/
theorem Flight.Sound.ending {target : Target} {outcome : Except BrokerError Outcome}
    (h : flight.Sound platform db) (htarget : flight.target = some target)
    (hprogram : flight.program = .ret outcome) :
    target.Ending platform flight.call.draws flight.trace outcome := by
  have hmeets := h.meets target htarget
  rw [hprogram] at hmeets
  exact hmeets

/-- A sound flight stays sound under commits that keep the row it has locked. -/
theorem Flight.Sound.of_kept {after : ToolDb} (h : flight.Sound platform db)
    (hkept : ∀ target, flight.target = some target → target.inserted = false →
      target.call ∈ after.calls) : flight.Sound platform after where
  idle := h.idle
  meets := h.meets
  allowed := h.allowed
  locked := fun target htarget hstored ↦
    ⟨hkept target htarget hstored, (h.locked target htarget hstored).2⟩

/-- Where a row of a sound flight belongs, when the identifier of a new row is still unused. -/
theorem Flight.Sound.placed (h : flight.Sound platform db) {target : Target} {writes : Writes}
    (htarget : flight.target = some target)
    (hunused : target.inserted = true → ∀ old ∈ db.calls, target.call.id ≠ old.id)
    (hinserted : writes.inserted = target.inserted) (hcall : target.call.Advances writes.call) :
    writes.Placed db := by
  cases hnew : target.inserted with
  | true =>
    refine .inserted (hinserted.trans hnew) ?_
    obtain ⟨_, _, _, _, hrow⟩ := hcall
    rw [hrow]
    exact hunused hnew
  | false =>
    obtain ⟨hmem, hwaiting, -⟩ := h.locked target htarget hnew
    exact .updated (hinserted.trans hnew) target.call hmem hwaiting hcall

/-- The commit of a sound flight leaves the tables as they are, or stores a row of its target with
its records. -/
theorem Flight.Sound.close (h : flight.Sound platform db) {outcome : Except BrokerError Outcome}
    (hprogram : flight.program = .ret outcome) :
    (closeTransaction db outcome).2 = db ∨
      ∃ (target : Target) (writes : Writes), flight.target = some target ∧
        writes.inserted = target.inserted ∧
        target.call.Advances writes.call ∧ writes.Placed db ∧ writes.WellFiled ∧
        (closeTransaction db outcome).2 = writes.apply db := by
  match htarget : flight.target with
  | none =>
    obtain ⟨-, other, hret, hclose⟩ := h.idle htarget
    obtain rfl := Program.ret.inj (hprogram.symm.trans hret)
    exact Or.inl (hclose db)
  | some target =>
    rcases (h.ending htarget hprogram).close db with
      hkept | ⟨writes, hinserted, hcall, hfiled, haccepted, hcommitted⟩
    · exact Or.inl hkept
    · refine Or.inr ⟨target, writes, rfl, hinserted, hcall,
        h.placed htarget (fun hnew old hold ↦ ?_) hinserted hcall, hfiled, hcommitted⟩
      obtain ⟨_, _, _, _, hrow⟩ := hcall
      rw [hnew] at hinserted
      simp only [Writes.accepted, hinserted, hrow, Bool.and_eq_true, Bool.not_true, Bool.false_or,
        List.all_eq_true, bne_iff_ne] at haccepted
      exact haccepted.1.1.1.1 old hold

end Sound

/-! ## The invariant -/

section Invariant

variable {platform : BrokerPlatform} {world after : World} {action : Action}
  {output : List Invocation}

/-- A row that another flight has locked survives the commit of a flight. -/
theorem PoolInvariant.kept (h : PoolInvariant platform world) {flight other : Flight}
    (hflight : flight ∈ world.flights) (hother : other ∈ world.flights)
    (hdistinct : other.id ≠ flight.id) {target otherTarget : Target} {writes : Writes}
    (htarget : flight.target = some target) (hinserted : writes.inserted = target.inserted)
    (hcall : target.call.Advances writes.call) (hplaced : writes.Placed world.db)
    (hotherTarget : other.target = some otherTarget) (hstored : otherTarget.inserted = false) :
    otherTarget.call ∈ (writes.apply world.db).calls := by
  obtain ⟨hmem, -, hlock⟩ := (h.sound other hother).locked otherTarget hotherTarget hstored
  refine (Writes.mem_apply_calls hplaced).mpr (Or.inr ⟨hmem, fun hid ↦ ?_⟩)
  cases hplaced with
  | inserted _ hnew => exact hnew otherTarget.call hmem hid.symm
  | updated hupdated =>
    obtain ⟨-, -, hheld⟩ := (h.sound flight hflight).locked target htarget
      (hinserted.symm.trans hupdated)
    obtain ⟨_, _, _, _, hrow⟩ := hcall
    rw [hrow] at hid
    exact hdistinct (h.locks other hother flight hflight _ hlock (by rw [hheld, ← hid]))

theorem PoolInvariant.flight_eq (h : PoolInvariant platform world) {flight : Flight}
    (hflight : flight ∈ world.flights) : world.flight flight.id = some flight := by
  match hfind : world.flight flight.id with
  | none => simpa using List.find?_eq_none.mp hfind flight hflight
  | some found =>
    obtain ⟨hfound, hid⟩ := World.flight_spec hfind
    rw [Table.eq_of_key h.ids hfound hflight hid]

/-- An answered flight keeps its identifier, its target and its lock. -/
theorem mem_answered {flight other : Flight} (hflight : flight ∈ world.flights) {effect : Ask}
    {next : Reply effect → BrokerProgram (Except BrokerError Outcome)} {reply : Reply effect}
    (hother : other ∈ Table.replace Flight.id (flight.answered next reply) world.flights) :
    ∃ old ∈ world.flights, old.id = other.id ∧ old.target = other.target ∧
      old.lock = other.lock := by
  rcases Table.mem_replace hother with rfl | ⟨hold, -⟩
  · exact ⟨flight, hflight, rfl, rfl, rfl⟩
  · exact ⟨other, hold, rfl, rfl, rfl⟩

theorem mem_remove {id : Nat} {flight : Flight} :
    flight ∈ world.remove id ↔ flight ∈ world.flights ∧ flight.id ≠ id := by
  simp only [World.remove, List.mem_filter, bne_iff_ne]

theorem PoolMove.invariant (hmove : PoolMove platform world action output after)
    (h : PoolInvariant platform world) : PoolInvariant platform after := by
  have hremoved (id : Nat) : ((world.remove id).map Flight.id).Nodup :=
    h.ids.sublist (List.filter_sublist.map Flight.id)
  have hlocks (id : Nat) : ∀ first ∈ world.remove id, ∀ second ∈ world.remove id, ∀ row,
      first.lock = some row → second.lock = some row → first.id = second.id :=
    fun first hfirst second hsecond ↦
      h.locks first (mem_remove.mp hfirst).1 second (mem_remove.mp hsecond).1
  cases hmove with
  | idle => exact h
  | registry op changed =>
    obtain ⟨hids, hattempts, hresults, hfiled, hsafe⟩ := h.ledger
    exact ⟨⟨hids, hattempts, hresults, hfiled, hsafe⟩, h.ids, h.locks, fun flight hflight ↦
      (h.sound flight hflight).of_kept fun target htarget hstored ↦
        ((h.sound flight hflight).locked target htarget hstored).1⟩
  | start id call hid hlock =>
    refine ⟨h.ledger, Table.nodup_keys_append h.ids fun old hold ↦ (hid old hold).symm, ?_, ?_⟩
    · exact Table.pairs_append
        (fun _ _ hpair row hheld₁ hheld₂ ↦ (hpair row hheld₂ hheld₁).symm) h.locks
        (fun old hold row hheld hnew ↦ absurd hnew (hlock old hold row hheld)) fun _ _ _ ↦ rfl
    · intro flight hflight
      rcases List.mem_append.mp hflight with hold | hnew
      · exact h.sound flight hold
      · rw [List.mem_singleton.mp hnew]
        exact takeOff_sound platform world.db id call
  | proceed oracle flight effect next reply hflight hprogram =>
    refine ⟨h.ledger, ?_, ?_, ?_⟩
    · simpa only [Table.map_key_replace] using h.ids
    · intro first hfirst second hsecond row hheld₁ hheld₂
      obtain ⟨old₁, hold₁, hid₁, -, hlock₁⟩ := mem_answered hflight hfirst
      obtain ⟨old₂, hold₂, hid₂, -, hlock₂⟩ := mem_answered hflight hsecond
      rw [← hid₁, ← hid₂]
      exact h.locks old₁ hold₁ old₂ hold₂ row (hlock₁.trans hheld₁) (hlock₂.trans hheld₂)
    · intro other hother
      rcases Table.mem_replace hother with rfl | ⟨hold, -⟩
      · exact (h.sound flight hflight).answered hprogram reply
      · exact h.sound other hold
  | finish flight outcome hflight _ hprogram =>
    rcases (h.sound flight hflight).close hprogram with
      hclose | ⟨target, writes, htarget, hinserted, hcall, hplaced, hfiled, hclose⟩
    · rw [hclose]
      exact ⟨h.ledger, hremoved _, hlocks _, fun other hother ↦ h.sound other (mem_remove.mp hother).1⟩
    · rw [hclose]
      refine ⟨h.ledger.apply hplaced hfiled, hremoved _, hlocks _, fun other hother ↦ ?_⟩
      obtain ⟨hmem, hdistinct⟩ := mem_remove.mp hother
      exact (h.sound other hmem).of_kept fun otherTarget hotherTarget hstored ↦
        h.kept hflight hmem hdistinct htarget hinserted hcall hplaced hotherTarget hstored
  | crash id =>
    exact ⟨h.ledger, hremoved _, hlocks _, fun other hother ↦ h.sound other (mem_remove.mp hother).1⟩

end Invariant

/-! ## Calls one after the other -/

section Sequential

variable (platform : BrokerPlatform) (oracle : Program.Oracle Ask Reply) (db : ToolDb)

/-- A flight that is alone asks everything that its program asks. -/
theorem brokerPool_proceeds (flight : Flight) (program : BrokerProgram (Except BrokerError Outcome))
    (trace : List BrokerEvent) :
    ∃ count,
      let start : World := ⟨db, [{ flight with program := program, trace := trace }]⟩
      let actions := List.replicate count (.proceed flight.id oracle)
      (brokerPool platform).run start actions =
        ⟨db, [{ flight with
          program := .ret (program.exec oracle trace).1
          trace := (program.exec oracle trace).2 }]⟩ ∧
      (trace.filterMap fun event ↦ event.effect.invocation) ++
          ((brokerPool platform).log start actions).flatMap Entry.output =
        (program.exec oracle trace).2.filterMap fun event ↦ event.effect.invocation := by
  induction program generalizing trace with
  | ret outcome => exact ⟨0, rfl, List.append_nil _⟩
  | ask effect next ih =>
    obtain ⟨count, hrun, hlog⟩ := ih (oracle trace effect) (trace ++ [⟨effect, oracle trace effect⟩])
    have hstep : (brokerPool platform).step
        ⟨db, [{ flight with program := .ask effect next, trace := trace }]⟩
          (.proceed flight.id oracle) =
        (effect.invocation.toList, ⟨db, [{ flight with
          program := next (oracle trace effect)
          trace := trace ++ [⟨effect, oracle trace effect⟩] }]⟩) := by
      simp [brokerPool, World.flight, Table.replace, Table.update, Flight.answered]
    have hasked : ([⟨effect, oracle trace effect⟩] : List BrokerEvent).filterMap
        (fun event ↦ event.effect.invocation) = effect.invocation.toList := by
      cases hinvocation : effect.invocation <;> simp [hinvocation]
    refine ⟨count + 1, ?_, ?_⟩
    · simp only [List.replicate_succ, Machine.run, hstep]
      exact hrun
    · simp only [List.replicate_succ, Machine.log, Machine.entry, hstep, List.flatMap_cons]
      rw [Program.exec, ← hlog, List.filterMap_append, hasked, List.append_assoc]

/-- A call that meets no other call does in the pool what it does on the platform: it leaves the same
tables and makes the same invocations. -/
theorem brokerPool_serves (id : Nat) (call : BrokerCall) :
    ∃ count,
      let actions := .start id call :: (List.replicate count (.proceed id oracle) ++ [.finish id])
      let served := (toolPlatform platform).step db (.broker call oracle)
      (brokerPool platform).run ⟨db, []⟩ actions = ⟨served.2, []⟩ ∧
        ((brokerPool platform).log ⟨db, []⟩ actions).flatMap Entry.output = served.1.invocations := by
  obtain ⟨count, hrun, hlog⟩ := brokerPool_proceeds platform oracle db
    (call.takeOff platform db id) (serveBroker platform db call) []
  have hstart : (brokerPool platform).step ⟨db, []⟩ (.start id call) =
      ([], ⟨db, [call.takeOff platform db id]⟩) := rfl
  have hproceeded : (brokerPool platform).run ⟨db, [call.takeOff platform db id]⟩
      (List.replicate count (.proceed id oracle)) = _ := hrun
  refine ⟨count, ?_, ?_⟩
  · simp only [Machine.run, hstart]
    rw [Machine.run_snoc, hproceeded]
    simp [brokerPool, World.flight, World.remove, BrokerCall.takeOff, toolPlatform]
  · simp only [Machine.log, Machine.entry, hstart, List.flatMap_cons, List.nil_append]
    rw [Machine.log_snoc, hproceeded, List.flatMap_append]
    refine Eq.trans ?_ hlog
    simp [brokerPool, World.flight, Machine.entry, BrokerCall.takeOff]

end Sequential

end Xyena.Tools
