import Xyena.Funder.Invariant

/-!
# The capacity of the programs

A program counts its reserved and its committed capacity, and its reservations
are active, released or committed. Every call moves the two counters of a
program together with its reservations, so that what a counter holds beyond the
reservations never changes, as long as the columns keep a counter together with
the amounts that are added to it. The capacity is never exceeded, and none of the
subtractions that are cut at zero is ever cut.
-/

namespace Xyena.Funder

open Xyena.Foundation Xyena.Foundation.Session

/-! ## Reservations of a program -/

/-- The sum of the reservations of a program that have a status. -/
def heldFor (db : FunderDb) (programId : String) (status : ReservationStatus) : Int :=
  Table.sum OfferReservation.reservedAmount
    (db.reservations.filter fun row ↦ row.programId == programId && row.status == status)

/-- What a reservation adds to that sum. -/
def OfferReservation.share (programId : String) (status : ReservationStatus) (row : OfferReservation) :
    Int :=
  if row.programId == programId && row.status == status then row.reservedAmount else 0

theorem OfferReservation.share_of_status {row : OfferReservation} {status : ReservationStatus}
    (programId : String) (h : row.status = status) :
    row.share programId status = if row.programId = programId then row.reservedAmount else 0 := by
  simp [share, h]

theorem OfferReservation.share_of_other {row : OfferReservation} {status : ReservationStatus}
    (programId : String) (h : row.status ≠ status) : row.share programId status = 0 := by
  simp [share, h]

theorem OfferReservation.share_commit (row : OfferReservation) (reference programId : String) :
    (row.commit reference).share programId .committed =
      if row.programId = programId then row.reservedAmount else 0 :=
  share_of_status programId rfl

theorem heldFor_eq (db : FunderDb) (programId : String) (status : ReservationStatus) :
    heldFor db programId status = Table.sum (OfferReservation.share programId status) db.reservations :=
  Table.sum_filter _ _ _

/-- One reservation of a program is at most the sum of them. -/
theorem share_le_heldFor {db : FunderDb} {row : OfferReservation} (programId : String)
    (status : ReservationStatus) (hamounts : ∀ row ∈ db.reservations, 0 ≤ row.reservedAmount)
    (hrow : row ∈ db.reservations) : row.share programId status ≤ heldFor db programId status := by
  rw [heldFor_eq]
  refine Table.le_sum (fun other hother ↦ ?_) hrow
  unfold OfferReservation.share
  split
  · exact hamounts other hother
  · exact Int.le_refl 0

section Writes

variable {writes : Writes} {db : FunderDb} (row changed : OfferReservation) (programId : String)
  (status : ReservationStatus)

/-- A new reservation adds its share. -/
theorem heldFor_insert (hwrites : writes.reservations = [.insert row]) :
    heldFor (writes.apply db) programId status = heldFor db programId status +
      row.share programId status := by
  rw [heldFor_eq, heldFor_eq, Writes.apply, hwrites]
  simp [RowWrite.apply]

/-- A changed reservation moves the sum by the change of its share. -/
theorem heldFor_update (hkeyed : reservationConstraints.Meets db.reservations)
    (hwrites : writes.reservations = [.update changed]) (hrow : row ∈ db.reservations)
    (hid : changed.id = row.id) :
    heldFor (writes.apply db) programId status =
      heldFor db programId status - row.share programId status + changed.share programId status := by
  rw [heldFor_eq, heldFor_eq, Writes.apply, hwrites]
  exact Table.sum_replace _ hkeyed.keys hrow hid

end Writes

/-! ## What a call does to the counters -/

/-- One program and its reservations move by the same amounts, and all others stay. -/
structure Shifts (db after : FunderDb) (program : FundingProgram) (reserved committed : Int) : Prop where
  programs : ∀ row ∈ after.programs,
    row.id = program.id ∧ row.totalCapacity = program.totalCapacity ∧
      row.reservedCapacity = program.reservedCapacity + reserved ∧
      row.committedCapacity = program.committedCapacity + committed ∨
    row ∈ db.programs ∧ row.id ≠ program.id
  active : ∀ programId, heldFor after programId .active =
    heldFor db programId .active + if program.id = programId then reserved else 0
  committed : ∀ programId, heldFor after programId .committed =
    heldFor db programId .committed + if program.id = programId then committed else 0

/-- No program has more reserved and committed than its capacity, and its active reservations are
reserved. -/
structure Solvent (db : FunderDb) : Prop where
  covered : ∀ row ∈ db.programs, heldFor db row.id .active ≤ row.reservedCapacity
  within : ∀ row ∈ db.programs, row.reservedCapacity + row.committedCapacity ≤ row.totalCapacity

theorem atLeastZero_of_nonneg {amount : Int} (h : 0 ≤ amount) : atLeastZero amount = amount :=
  max_eq_right h

theorem Solvent.available_eq {db : FunderDb} (h : Solvent db) {program : FundingProgram}
    (hprogram : program ∈ db.programs) :
    available program = program.totalCapacity - program.reservedCapacity - program.committedCapacity := by
  refine atLeastZero_of_nonneg ?_
  have hwithin := h.within program hprogram
  omega

/-- An active reservation of a program is part of its reserved capacity. -/
theorem Solvent.reserved_ge {db : FunderDb} (h : Solvent db) (hregular : Regular db)
    {program : FundingProgram} {reservation : OfferReservation} (hprogram : program ∈ db.programs)
    (hreservation : reservation ∈ db.reservations) (hid : program.id = reservation.programId)
    (hactive : reservation.status = .active) : 0 ≤ program.reservedCapacity - reservation.reservedAmount := by
  have hshare := share_le_heldFor program.id .active hregular.amounts hreservation
  have hcovered := h.covered program hprogram
  have hown : reservation.share program.id .active = reservation.reservedAmount := by
    simp [OfferReservation.share, hid, hactive]
  omega

section Step

variable {rounding : Rounding} {sha256 : String → String} {db : FunderDb} {call : FunderCall}
    {answer : FunderAnswer}
  {writes : Writes}

/-- The programs of a marketplace after one of them was stored. -/
theorem programs_update {program changed : FundingProgram} {reserved committed : Int}
    (haccepted : RowWrite.acceptedAll programConstraints db.programs [.update changed] = true)
    (hid : changed.id = program.id) (htotal : changed.totalCapacity = program.totalCapacity)
    (hreserved : changed.reservedCapacity = program.reservedCapacity + reserved)
    (hcommitted : changed.committedCapacity = program.committedCapacity + committed) :
    ∀ row ∈ RowWrite.applyAll programConstraints db.programs [.update changed],
      row.id = program.id ∧ row.totalCapacity = program.totalCapacity ∧
        row.reservedCapacity = program.reservedCapacity + reserved ∧
        row.committedCapacity = program.committedCapacity + committed ∨
      row ∈ db.programs ∧ row.id ≠ program.id := by
  intro row hrow
  rcases RowWrite.mem_written haccepted hrow with rfl | ⟨hold, hne⟩
  · exact Or.inl ⟨hid, htotal, hreserved, hcommitted⟩
  · exact Or.inr ⟨hold, fun hsame ↦ hne (hsame.trans hid.symm)⟩

/-- A counter is kept together with the amount that a call reserves, as it is for amounts of at most two
decimals and, where the columns round half up, for all amounts. -/
def Additive (rounding : Rounding) (call : FunderCall) : Prop :=
  ∀ tenantId offerId body, call.request = .reserveOffer tenantId offerId body →
    rounding.Adds body.amount

theorem additive_halfUp (call : FunderCall) : Additive .halfUp call :=
  fun _ _ body _ ↦ Rounding.halfUp_adds body.amount

theorem additive_of_whole (rounding : Rounding) {call : FunderCall}
    (h : ∀ tenantId offerId body, call.request = .reserveOffer tenantId offerId body →
      ∃ amount : Int, body.amount = amount) : Additive rounding call := by
  intro tenantId offerId body hrequest
  obtain ⟨amount, hamount⟩ := h tenantId offerId body hrequest
  rw [hamount]
  exact rounding.adds_whole amount

/-- A move leaves programs and reservations alone, or it shifts one program within its capacity. -/
theorem Move.shifts (hmove : Move rounding sha256 db call answer writes) (hregular : Regular db)
    (hsolvent : Solvent db) (hadditive : Additive rounding call) (haccepted : writes.Accepted db) :
    (writes.apply db).programs = db.programs ∧ (writes.apply db).reservations = db.reservations ∨
      ∃ program ∈ db.programs, ∃ reserved committed,
        Shifts db (writes.apply db) program reserved committed ∧
          program.reservedCapacity + reserved + (program.committedCapacity + committed) ≤
            program.totalCapacity := by
  cases hmove with
  | applicationCreated => exact Or.inl ⟨rfl, rfl⟩
  | applicationReviewed => exact Or.inl ⟨rfl, rfl⟩
  | offerIssued => exact Or.inl ⟨rfl, rfl⟩
  | prepared => exact Or.inl ⟨rfl, rfl⟩
  | eventIgnored => exact Or.inl ⟨rfl, rfl⟩
  | eventFollowed => exact Or.inl ⟨rfl, rfl⟩
  | reserved tenantId offer application program body h =>
    have hprogram := h.heldProgram.stored
    have hcapacity := rounding.round_le h.withinCapacity
    rw [hsolvent.available_eq hprogram] at hcapacity
    obtain ⟨offerId, hrequest⟩ := h.request
    have hadds := hadditive tenantId offerId body hrequest program.reservedCapacity
    refine Or.inr ⟨program, hprogram, rounding.round body.amount, 0,
      ⟨?_, fun programId ↦ ?_, fun programId ↦ ?_⟩, ?_⟩
    · exact programs_update haccepted.programs rfl rfl hadds (Int.add_zero _).symm
    · rw [heldFor_insert _ programId .active rfl]
      exact congrArg _ (OfferReservation.share_of_status programId rfl)
    · rw [heldFor_insert _ programId .committed rfl,
        OfferReservation.share_of_other programId (by simp [newReservation]), ite_self]
    · omega
  | released tenantId reference now value program offer h =>
    have hprogram := h.heldProgram.stored
    have hvalue := h.heldValue.stored
    have hid := h.heldProgram.id
    have hcovered := hsolvent.reserved_ge hregular hprogram hvalue hid h.active
    have hamount := hregular.amounts value hvalue
    have hwithin := hsolvent.within program hprogram
    have hkeyed := hregular.keyed.reservations
    refine Or.inr ⟨program, hprogram, -value.reservedAmount, 0,
      ⟨?_, fun programId ↦ ?_, fun programId ↦ ?_⟩, by omega⟩
    · exact programs_update haccepted.programs rfl rfl (atLeastZero_of_nonneg hcovered)
        (Int.add_zero _).symm
    · rw [heldFor_update value (value.release reference) programId .active hkeyed rfl hvalue rfl,
        OfferReservation.share_of_status programId h.active,
        OfferReservation.share_of_other programId (by simp [OfferReservation.release]), hid]
      split <;> omega
    · rw [heldFor_update value (value.release reference) programId .committed hkeyed rfl hvalue rfl,
        OfferReservation.share_of_other programId (by simp [h.active]),
        OfferReservation.share_of_other programId (by simp [OfferReservation.release]), ite_self]
      omega
  | confirmed tenantId value reservation program body h =>
    have hprogram := h.heldProgram.stored
    have hreservation := h.heldReservation.stored
    have hid := h.heldProgram.id
    have hcovered := hsolvent.reserved_ge hregular hprogram hreservation hid h.active
    have hsame := hregular.backed_by h.heldValue.stored hreservation h.heldReservation.id
    have hwithin := hsolvent.within program hprogram
    have hkeyed := hregular.keyed.reservations
    rw [hsame] at hcovered
    refine Or.inr ⟨program, hprogram, -value.committedAmount, value.committedAmount,
      ⟨?_, fun programId ↦ ?_, fun programId ↦ ?_⟩, by omega⟩
    · exact programs_update haccepted.programs rfl rfl (atLeastZero_of_nonneg hcovered) rfl
    · rw [heldFor_update reservation (reservation.commit value.id) programId .active hkeyed rfl
          hreservation rfl, OfferReservation.share_of_status programId h.active,
        OfferReservation.share_of_other programId (by simp [OfferReservation.commit]), hid, hsame]
      split <;> omega
    · rw [heldFor_update reservation (reservation.commit value.id) programId .committed hkeyed rfl
          hreservation rfl, OfferReservation.share_of_other programId (by simp [h.active]),
        OfferReservation.share_commit, hid, ← hsame]
      exact congrArg (· + _) (Int.sub_zero _)
  | programMoved value target hstored =>
    have hwithin := hsolvent.within value hstored
    refine Or.inr ⟨value, hstored, 0, 0, ⟨?_, fun programId ↦ ?_, fun programId ↦ ?_⟩, by omega⟩
    · exact programs_update haccepted.programs rfl rfl (Int.add_zero _).symm (Int.add_zero _).symm
    · rw [ite_self, Int.add_zero]
      rfl
    · rw [ite_self, Int.add_zero]
      rfl

end Step

/-! ## Openings and runs -/

/-- A marketplace before its first call: its counters are not negative, stay within the capacity, and
cover the active reservations that it opens with. -/
structure Opening where
  db : FunderDb
  regular : Regular db
  reserved_nonneg : ∀ row ∈ db.programs, 0 ≤ row.reservedCapacity
  committed_nonneg : ∀ row ∈ db.programs, 0 ≤ row.committedCapacity
  within : ∀ row ∈ db.programs, row.reservedCapacity + row.committedCapacity ≤ row.totalCapacity
  covered : ∀ row ∈ db.programs, heldFor db row.id .active ≤ row.reservedCapacity

/-- Every set of programs within their capacity opens a marketplace. -/
def Opening.ofPrograms (programs : List FundingProgram) (hkeys : programConstraints.Meets programs)
    (hreserved : ∀ row ∈ programs, 0 ≤ row.reservedCapacity)
    (hcommitted : ∀ row ∈ programs, 0 ≤ row.committedCapacity)
    (hwithin : ∀ row ∈ programs, row.reservedCapacity + row.committedCapacity ≤ row.totalCapacity) :
    Opening where
  db := { programs := programs }
  regular := Regular.of_programs hkeys
  reserved_nonneg := hreserved
  committed_nonneg := hcommitted
  within := hwithin
  covered := hreserved

/-- The counters of a program hold beyond its reservations what they held in another state. -/
structure SameSurplus (first db : FunderDb) (initial program : FundingProgram) : Prop where
  id : initial.id = program.id
  total : program.totalCapacity = initial.totalCapacity
  reserved : program.reservedCapacity - heldFor db program.id .active =
    initial.reservedCapacity - heldFor first initial.id .active
  committed : program.committedCapacity - heldFor db program.id .committed =
    initial.committedCapacity - heldFor first initial.id .committed

/-- Every program has kept its surplus since another state. -/
def Accounted (first db : FunderDb) : Prop :=
  ∀ program ∈ db.programs, ∃ initial ∈ first.programs, SameSurplus first db initial program

theorem Accounted.refl (db : FunderDb) : Accounted db db :=
  fun program hprogram ↦ ⟨program, hprogram, rfl, rfl, rfl, rfl⟩

theorem Accounted.trans {first second third : FunderDb} (h : Accounted first second)
    (h' : Accounted second third) : Accounted first third := by
  intro program hprogram
  obtain ⟨middle, hmiddle, hlater⟩ := h' program hprogram
  obtain ⟨initial, hinitial, hearlier⟩ := h middle hmiddle
  exact ⟨initial, hinitial, hearlier.id.trans hlater.id, hlater.total.trans hearlier.total,
    hlater.reserved.trans hearlier.reserved, hlater.committed.trans hearlier.committed⟩

section Shift

variable {db after : FunderDb} {program : FundingProgram} {reserved committed : Int}

/-- A shift moves each counter with its reservations. -/
theorem Shifts.accounted (h : Shifts db after program reserved committed)
    (hprogram : program ∈ db.programs) : Accounted db after := by
  intro row hrow
  rcases h.programs row hrow with ⟨hid, htotal, hreserved, hcommitted⟩ | ⟨hold, hne⟩
  · refine ⟨program, hprogram, hid.symm, htotal, ?_, ?_⟩
    · rw [h.active, if_pos hid.symm, hid, hreserved]
      omega
    · rw [h.committed, if_pos hid.symm, hid, hcommitted]
      omega
  · refine ⟨row, hold, rfl, rfl, ?_, ?_⟩
    · rw [h.active, if_neg (Ne.symm hne), Int.add_zero]
    · rw [h.committed, if_neg (Ne.symm hne), Int.add_zero]

/-- A shift within the capacity of its program leaves the marketplace solvent. -/
theorem Shifts.solvent (h : Shifts db after program reserved committed) (hsolvent : Solvent db)
    (hprogram : program ∈ db.programs) (hwithin : program.reservedCapacity + reserved +
      (program.committedCapacity + committed) ≤ program.totalCapacity) : Solvent after where
  covered row hrow := by
    obtain ⟨initial, hinitial, hsame⟩ := h.accounted hprogram row hrow
    have hcovered := hsolvent.covered initial hinitial
    have hreserved := hsame.reserved
    omega
  within row hrow := by
    rcases h.programs row hrow with ⟨-, htotal, hreserved, hcommitted⟩ | ⟨hold, -⟩
    · rw [htotal, hreserved, hcommitted]
      exact hwithin
    · exact hsolvent.within row hold

end Shift

/-- What a run keeps of the capacities since its opening. -/
structure Sound (first db : FunderDb) : Prop where
  regular : Regular db
  solvent : Solvent db
  accounted : Accounted first db

theorem Sound.apply {rounding : Rounding} {sha256 : String → String} {first db : FunderDb} {call : FunderCall}
    {answer : FunderAnswer} {writes : Writes} (h : Sound first db)
    (hmove : Move rounding sha256 db call answer writes) (hadditive : Additive rounding call)
    (haccepted : writes.Accepted db) : Sound first (writes.apply db) := by
  have hregular := h.regular.apply hmove haccepted
  rcases hmove.shifts h.regular h.solvent hadditive haccepted with
    ⟨hprograms, hreservations⟩ | ⟨program, hprogram, reserved, committed, hshift, hwithin⟩
  · have hheld (programId : String) (status : ReservationStatus) :
        heldFor (writes.apply db) programId status = heldFor db programId status := by
      rw [heldFor, hreservations, heldFor]
    refine ⟨hregular, ⟨fun row hrow ↦ ?_, fun row hrow ↦ ?_⟩, h.accounted.trans fun row hrow ↦ ?_⟩
    · rw [hheld]
      exact h.solvent.covered row (hprograms ▸ hrow)
    · exact h.solvent.within row (hprograms ▸ hrow)
    · exact ⟨row, hprograms ▸ hrow, rfl, rfl, by rw [hheld], by rw [hheld]⟩
  · exact ⟨hregular, hshift.solvent h.solvent hprogram hwithin,
      h.accounted.trans (hshift.accounted hprogram)⟩

theorem Opening.sound (opening : Opening) : Sound opening.db opening.db :=
  ⟨opening.regular, ⟨opening.covered, opening.within⟩, Accounted.refl _⟩

/-- The state after every run is sound. -/
theorem Opening.run_sound (rounding : Rounding) (sha256 : String → String) (opening : Opening)
    (calls : List FunderCall) (hadditive : ∀ call ∈ calls, Additive rounding call) :
    Sound opening.db ((marketplace rounding sha256).run opening.db calls) :=
  (sessions rounding sha256).commit_invariant (Sound opening.db) (fun _ call ↦ Additive rounding call)
    opening.sound
    (fun _ _ _ _ h hadditive hserve haccepted ↦
      h.apply (move_of_serve hserve) hadditive (Writes.accepted_iff.mp haccepted))
    calls (fun _ he ↦ hadditive _ ((marketplace rounding sha256).input_mem he))

/-- The amounts that the marketplace subtracts and cuts at zero are never cut. -/
structure Unclamped (db : FunderDb) : Prop where
  available : ∀ program ∈ db.programs, available program =
    program.totalCapacity - program.reservedCapacity - program.committedCapacity
  release : ∀ program ∈ db.programs, ∀ value ∈ db.reservations, program.id = value.programId →
    value.status = .active → (program.release value.reservedAmount).reservedCapacity =
      program.reservedCapacity - value.reservedAmount
  commit : ∀ program ∈ db.programs, ∀ reservation ∈ db.reservations, ∀ value ∈ db.commitments,
    program.id = reservation.programId → reservation.status = .active →
      reservation.id = value.reservationId →
        (program.commit value.committedAmount).reservedCapacity =
          program.reservedCapacity - value.committedAmount

theorem Sound.unclamped {first db : FunderDb} (h : Sound first db) : Unclamped db where
  available _ hprogram := h.solvent.available_eq hprogram
  release _ hprogram _ hvalue hid hactive :=
    atLeastZero_of_nonneg (h.solvent.reserved_ge h.regular hprogram hvalue hid hactive)
  commit _ hprogram _ hreservation _ hvalue hid hactive hbacks := by
    have hcovered := h.solvent.reserved_ge h.regular hprogram hreservation hid hactive
    rw [h.regular.backed_by hvalue hreservation hbacks] at hcovered
    exact atLeastZero_of_nonneg hcovered

/-- From every opening, after every sequence of calls, the counters of every program have moved with
its active and its committed reservations, they stay within its capacity, and no subtraction has been
cut at zero. -/
theorem capacity_accounted (rounding : Rounding) (sha256 : String → String) (opening : Opening)
    (calls : List FunderCall) (hadditive : ∀ call ∈ calls, Additive rounding call) :
    Accounted opening.db ((marketplace rounding sha256).run opening.db calls) ∧
      (∀ program ∈ ((marketplace rounding sha256).run opening.db calls).programs,
        program.reservedCapacity + program.committedCapacity ≤ program.totalCapacity) ∧
      Unclamped ((marketplace rounding sha256).run opening.db calls) := by
  have hsound := opening.run_sound rounding sha256 calls hadditive
  exact ⟨hsound.accounted, hsound.solvent.within, hsound.unclamped⟩

/-- A marketplace that opens with one program. -/
def aurumOpening : Opening :=
  .ofPrograms [aurum] aurum_meets (by simp [aurum]) (by simp [aurum]) (by simp [aurum])

theorem loom_accounted :
    Accounted aurumOpening.db ((marketplace .halfUp fun text ↦ text).run aurumOpening.db loomReserved) ∧
      Unclamped ((marketplace .halfUp fun text ↦ text).run aurumOpening.db loomReserved) := by
  have haccounted := capacity_accounted .halfUp (fun text ↦ text) aurumOpening loomReserved
    fun call _ ↦ additive_halfUp call
  exact ⟨haccounted.1, haccounted.2.2⟩

end Xyena.Funder
