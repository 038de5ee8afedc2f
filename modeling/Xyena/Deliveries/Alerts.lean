import Xyena.Deliveries.AuditTrail

/-!
# Alerts from the sources of a delivery

An event marks the open deliveries of a cancelled purchase order or invoice in
the same column that transit events and delivery attempts use for exceptions of
their own. An alert therefore stays until the delivery ends exactly as long as
no transit event and no attempt of the delivery is recorded.
-/

namespace Xyena.Deliveries

open Xyena.Foundation Xyena.Foundation.Session

/-- An open delivery that an event has marked. -/
structure Alerted (delivery : Delivery) : Prop where
  opened : delivery.status ∉ terminalStatuses
  code : delivery.exceptionCode = some .sourcePoCancelled ∨
    delivery.exceptionCode = some .sourceInvoiceCancelled

/-- The alerts of all deliveries are still there, or their deliveries have ended. -/
def KeepsAlerts (before after : DeliveryDb) : Prop :=
  ∀ old ∈ before.deliveries, Alerted old → ∀ current ∈ after.deliveries, current.id = old.id →
    current.status ∈ terminalStatuses ∨ current.exceptionCode = old.exceptionCode

def IsEvent (call : DeliveryCall) : Prop := ∃ envelope, call.request = .consumeExternalEvent envelope

/-! ## Transit events and attempts -/

section Travels

variable (platform : DeliveryPlatform) (db : DeliveryDb) (call : DeliveryCall)

/-- The call records a transit event or an attempt of the delivery by these rows. -/
inductive Travels (delivery : Delivery) : Writes → Prop
  | transited (actor : ActorScope) (body : TransitEventRequest) (target : DeliveryStatus)
      (h : Transits db call actor body delivery target) :
      Travels delivery (recordWrites platform call actor
        [⟨delivery, delivery.transit target, "delivery." ++ body.eventType.value.toLower⟩])
  | succeeded (actor : ActorScope) (body : DeliveryAttemptRequest) (taken : List (DeliveryItem × Int))
      (h : Succeeds db call actor body delivery taken) :
      Travels delivery
        { recordWrites platform call actor [successChange delivery taken] with
          items := taken.map fun item ↦ .update (item.1.deliver item.2) }
  | failed (actor : ActorScope) (body : DeliveryAttemptRequest)
      (h : Attempts db call actor body delivery) (hfailure : body.success = false) :
      Travels delivery
        (recordWrites platform call actor [⟨delivery, delivery.fail, "delivery.attempt_failed"⟩])

/-- The call records no transit event and no attempt of a delivery with an alert. -/
def SparesAlerts : Prop :=
  ∀ delivery writes, Travels platform db call delivery writes → call.refused = false → writes.Accepted db →
    ¬Alerted delivery

variable {platform db call} {delivery : Delivery} {writes : Writes}

theorem Travels.serve (h : Travels platform db call delivery writes) :
    ∃ answer, serve platform db call = .ok (answer, some writes) := by
  cases h with
  | transited actor body target h => exact ⟨_, serve_of_transits h⟩
  | succeeded actor body taken h => exact ⟨_, serve_of_succeeds h⟩
  | failed actor body h hfailure => exact ⟨_, serve_of_fails h hfailure⟩

theorem Travels.stored (h : Travels platform db call delivery writes) : delivery ∈ db.deliveries := by
  cases h with
  | transited actor body target h => exact lockedDelivery_mem h.request.choose_spec.choose_spec.2
  | succeeded actor body taken h => exact lockedDelivery_mem h.request.choose_spec.choose_spec.2
  | failed actor body h => exact lockedDelivery_mem h.request.choose_spec.choose_spec.2

theorem Travels.not_event (h : Travels platform db call delivery writes) : ¬IsEvent call := by
  rintro ⟨envelope, hevent⟩
  cases h with
  | transited actor body target h =>
    obtain ⟨_, _, hrequest, -⟩ := h.request
    exact Request.noConfusion (hrequest.symm.trans hevent)
  | succeeded actor body taken h =>
    obtain ⟨_, _, hrequest, -⟩ := h.request
    exact Request.noConfusion (hrequest.symm.trans hevent)
  | failed actor body h =>
    obtain ⟨_, _, hrequest, -⟩ := h.request
    exact Request.noConfusion (hrequest.symm.trans hevent)

theorem transitions_open {status target : DeliveryStatus} {eventType : TransitEventType}
    (h : transitions status eventType = some target) : target ∉ terminalStatuses := by
  cases status <;> cases eventType <;> simp only [transitions, reduceCtorEq, Option.some.injEq] at h <;>
    subst h <;> decide

/-- The delivery goes on with an exception code that is no alert. -/
theorem Travels.written (h : Travels platform db call delivery writes) :
    ∃ new : Delivery, writes.deliveries = [.update new] ∧ new.id = delivery.id ∧
      new.status ∉ terminalStatuses ∧ ¬Alerted new := by
  cases h with
  | transited actor body target h =>
    refine ⟨delivery.transit target, rfl, rfl, transitions_open h.target, fun halert ↦ ?_⟩
    have hcode := halert.code
    unfold Delivery.transit at hcode
    split at hcode <;> simp at hcode
  | succeeded actor body taken h =>
    refine ⟨(successChange delivery taken).new, rfl, rfl, ?_, fun halert ↦ ?_⟩
    · unfold successChange Delivery.succeed
      dsimp only
      split <;> decide
    · have hcode := halert.code
      unfold successChange Delivery.succeed at hcode
      dsimp only at hcode
      split at hcode <;> simp at hcode
  | failed actor body h =>
    refine ⟨delivery.fail, rfl, rfl, by simp [Delivery.fail, terminalStatuses], fun halert ↦ ?_⟩
    have hcode := halert.code
    simp [Delivery.fail] at hcode

/-- A changed row of any other call has ended or has kept its code, unless an event has marked it. -/
theorem Move.written (hmove : Move platform db call writes) {new : Delivery}
    (hnew : RowWrite.update new ∈ writes.deliveries) :
    ∃ old ∈ db.deliveries, new.id = old.id ∧ (Travels platform db call old writes ∨ IsEvent call ∨
      new.status ∈ terminalStatuses ∨ new.exceptionCode = old.exceptionCode) := by
  cases hmove with
  | created => cases List.mem_singleton.mp hnew
  | readied actor delivery tracking hstored =>
    obtain rfl := RowWrite.update.inj (List.mem_singleton.mp hnew)
    exact ⟨delivery, hstored, rfl, Or.inr (Or.inr (Or.inr rfl))⟩
  | dispatched actor body delivery taken hstored =>
    obtain rfl := RowWrite.update.inj (List.mem_singleton.mp hnew)
    exact ⟨delivery, hstored, rfl, Or.inr (Or.inr (Or.inr rfl))⟩
  | transited actor body delivery target h =>
    obtain rfl := RowWrite.update.inj (List.mem_singleton.mp hnew)
    have htravels : Travels platform db call delivery _ := .transited actor body target h
    exact ⟨delivery, htravels.stored, rfl, Or.inl htravels⟩
  | succeeded actor body delivery taken h =>
    obtain rfl := RowWrite.update.inj (List.mem_singleton.mp hnew)
    have htravels : Travels platform db call delivery _ := .succeeded actor body taken h
    exact ⟨delivery, htravels.stored, rfl, Or.inl htravels⟩
  | failed actor body delivery h hfailure =>
    obtain rfl := RowWrite.update.inj (List.mem_singleton.mp hnew)
    have htravels : Travels platform db call delivery _ := .failed actor body h hfailure
    exact ⟨delivery, htravels.stored, rfl, Or.inl htravels⟩
  | captured actor delivery proof hstored =>
    obtain rfl := RowWrite.update.inj (List.mem_singleton.mp hnew)
    exact ⟨delivery, hstored, rfl, Or.inr (Or.inr (Or.inr rfl))⟩
  | reviewed actor delivery proof verified eventType hstored =>
    obtain rfl := RowWrite.update.inj (List.mem_singleton.mp hnew)
    exact ⟨delivery, hstored, rfl, Or.inr (Or.inr (Or.inr rfl))⟩
  | accepted actor body delivery settled h =>
    obtain rfl := RowWrite.update.inj (List.mem_singleton.mp hnew)
    exact ⟨delivery, h.stored, rfl, Or.inr (Or.inr (Or.inr rfl))⟩
  | cancelled actor delivery hstored =>
    obtain rfl := RowWrite.update.inj (List.mem_singleton.mp hnew)
    exact ⟨delivery, hstored, rfl, Or.inr (Or.inr (Or.inl (by simp [Delivery.cancel, terminalStatuses])))⟩
  | noted actor delivery eventType corrections hstored =>
    obtain rfl := RowWrite.update.inj (List.mem_singleton.mp hnew)
    exact ⟨delivery, hstored, rfl, Or.inr (Or.inr (Or.inr rfl))⟩
  | corrected actor delivery corrected changes corrections hstored hassigned =>
    obtain rfl := RowWrite.update.inj (List.mem_singleton.mp hnew)
    have hsame := assignAll_sameStanding hassigned
    exact ⟨delivery, hstored, hsame.id, Or.inr (Or.inr (Or.inr hsame.exceptionCode))⟩
  | staled => cases hnew
  | consumed envelope aggregates hrequest =>
    obtain ⟨change, hchange, heq⟩ := List.mem_map.mp hnew
    obtain rfl := RowWrite.update.inj heq
    obtain ⟨row, hrow, rfl⟩ := List.mem_map.mp hchange
    exact ⟨row, (List.mem_filter.mp hrow).1, rfl, Or.inr (Or.inl ⟨envelope, hrequest⟩)⟩

end Travels

/-! ## The exact condition -/

section Condition

variable {platform : DeliveryPlatform} {db : DeliveryDb} {call : DeliveryCall}

theorem KeepsAlerts.refl (hkeyed : db.WellKeyed) : KeepsAlerts db db := by
  intro old hold _ current hcurrent hid
  obtain rfl := Table.eq_of_key hkeyed.deliveries.keys hcurrent hold hid
  exact Or.inr rfl

/-- A call that is no event keeps all alerts when it records no transit event and no attempt of a
delivery with one. -/
theorem keepsAlerts_of_spares (hregular : Regular db) (hevent : ¬IsEvent call)
    (hspares : SparesAlerts platform db call) :
    KeepsAlerts db ((deliveryService platform).step db call).2 := by
  refine (sessions platform).step_kept (KeepsAlerts db) (KeepsAlerts.refl hregular.keyed) ?_
  intro answer writes hserve hrefused haccepted old hold halert current hcurrent hid
  have hmove := move_of_serve hserve
  have hcurrent : current ∈ RowWrite.applyAll deliveryConstraints db.deliveries writes.deliveries := hcurrent
  rcases RowWrite.mem_applyAll hcurrent with
    ⟨write, hwrite, rfl⟩ | ⟨hstored, -⟩
  · cases write with
    | insert new =>
      have hfresh : new.id ≠ old.id :=
        RowWrite.key_ne_of_insert (Writes.accepted_iff.mp haccepted).deliveries hwrite old hold
      exact absurd hid hfresh
    | update new =>
      obtain ⟨stored, hstored, hsame, hcases⟩ := hmove.written hwrite
      obtain rfl := Table.eq_of_key hregular.keyed.deliveries.keys hstored hold (hsame.symm.trans hid)
      rcases hcases with htravels | hevent' | hended | hcode
      · exact absurd halert (hspares _ _ htravels hrefused (Writes.accepted_iff.mp haccepted))
      · exact absurd hevent' hevent
      · exact Or.inl hended
      · exact Or.inr hcode
  · obtain rfl := Table.eq_of_key hregular.keyed.deliveries.keys hstored hold hid
    exact Or.inr rfl

theorem spares_of_keepsAlerts
    (hkeeps : KeepsAlerts db ((deliveryService platform).step db call).2) :
    SparesAlerts platform db call := by
  intro delivery writes htravels hrefused haccepted halert
  obtain ⟨answer, hserve⟩ := htravels.serve
  obtain ⟨new, hwrites, hid, hopen, hnone⟩ := htravels.written
  have hstep := (sessions platform).step_commit hserve hrefused (Writes.accepted_iff.mpr haccepted)
  have hstored : new ∈ (writes.apply db).deliveries := by
    rw [Writes.apply, hwrites]
    exact Table.changed_mem_replace htravels.stored hid.symm
  have hnew : new ∈ ((deliveryService platform).step db call).2.deliveries := by
    rw [deliveryService, hstep]
    exact hstored
  rcases hkeeps delivery htravels.stored halert new hnew hid with hended | hcode
  · exact hopen hended
  · exact hnone ⟨hopen, hcode ▸ halert.code⟩

end Condition

/-- Alerts stay until their deliveries end exactly in the runs that record no transit event and no attempt
of a delivery with an alert. -/
theorem alerts_survive_iff (platform : DeliveryPlatform) (calls : List DeliveryCall) :
    (∀ e ∈ (deliveryService platform).log {} calls, ¬IsEvent e.input → KeepsAlerts e.before e.after) ↔
      ∀ e ∈ (deliveryService platform).log {} calls, SparesAlerts platform e.before e.input := by
  refine (deliveryService platform).forall_log_iff Regular Regular.empty
    (fun _ call h ↦ h.step platform call) (fun db call hregular ↦ ⟨fun hkeeps ↦ ?_, fun hspares hevent ↦ ?_⟩)
    calls
  · by_cases hevent : IsEvent call
    · intro delivery writes htravels
      exact absurd hevent htravels.not_event
    · exact spares_of_keepsAlerts (hkeeps hevent)
  · exact keepsAlerts_of_spares hregular hevent hspares

/-! ## An alert that is lost -/

def carrier : ActorScope := ⟨"tenant", "carrier", .carrierOperator⟩

/-- The purchase order of the pumps is cancelled. -/
def orderCancelled : ExternalEventEnvelope where
  eventId := "po_1_cancelled"
  eventType := .purchaseOrderCancelled
  sourceApplication := "xyena-demo-erp"
  tenantId := "tenant"
  aggregateType := .purchaseOrder
  aggregateId := "po_1"
  aggregateVersion := 2
  aggregateVersion_pos := by decide

/-- The pumps are on their way when their purchase order is cancelled. -/
def pumpsAlerted : List DeliveryCall :=
  pumpsReady ++
    [drawing "dispatch" (.dispatchDelivery seller "pumps-0" 2
        ⟨"carrier_1", [("PUMP", 2000)], by decide, by decide⟩),
      drawing "event" (.consumeExternalEvent orderCancelled)]

def pumpsMove : DeliveryCall :=
  drawing "transit" (.recordTransitEvent carrier "pumps-0" 4 { eventType := .inTransit })

/-- The next transit event of the pumps removes the alert. -/
theorem pumps_alert_lost : ¬ ∀ e ∈ (deliveryService pumpPlatform).log {} (pumpsAlerted ++ [pumpsMove]),
    ¬IsEvent e.input → KeepsAlerts e.before e.after := by
  have hlost : ∃ old ∈ ((deliveryService pumpPlatform).run {} pumpsAlerted).deliveries,
      ∃ current ∈ ((deliveryService pumpPlatform).step
        ((deliveryService pumpPlatform).run {} pumpsAlerted) pumpsMove).2.deliveries,
        current.id = old.id ∧ old.status ∉ terminalStatuses ∧
          old.exceptionCode = some .sourcePoCancelled ∧ current.status ∉ terminalStatuses ∧
          current.exceptionCode = none := by
    decide +kernel
  intro hkeeps
  obtain ⟨old, hold, current, hcurrent, hid, hopen, halert, hstill, hnone⟩ := hlost
  have hentry := ((deliveryService pumpPlatform).mem_log_iff {} (pumpsAlerted ++ [pumpsMove]) _).mpr
    ⟨pumpsAlerted, pumpsMove, [], rfl, rfl⟩
  have hmove : ¬IsEvent pumpsMove := by
    rintro ⟨envelope, hrequest⟩
    cases hrequest
  rcases hkeeps _ hentry hmove old hold ⟨hopen, Or.inl halert⟩ current hcurrent hid with hended | hsame
  · exact hstill hended
  · rw [hnone, halert] at hsame
    cases hsame

end Xyena.Deliveries
