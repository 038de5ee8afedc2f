import Mathlib.Data.Finset.Image
import Mathlib.Data.Finset.Sort
import Mathlib.Data.String.Basic
import Xyena.Deliveries.Fulfilment
import Xyena.Foundation.Coverage

/-!
# Fulfilment claims

`verify_fulfilment` compares line claims with the accepted items of settled
deliveries. Each claim is compared alone with all that it selects, by an order
line, an invoice line or a SKU. The matched lines of one call are covered by
the accepted quantities behind them exactly when no two supported claims
select the same accepted goods.
-/

namespace Xyena.Deliveries

open Xyena.Foundation Xyena.Contracts

/-! ## The comparison -/

/-- A claim for one line of an invoice; texts are without blanks at their ends. -/
structure FulfilmentClaim where
  purchaseOrderId : String
  invoiceId : String
  poLineId : Option String := none
  invoiceLineId : Option String := none
  sku : Option String := none
  claimedQuantity : Int
  claimedUnitValue : Int
  identities_nonblank : purchaseOrderId ≠ "" ∧ invoiceId ≠ ""
  line_identity : (truthy poLineId || truthy invoiceLineId || truthy sku) = true
  claimedQuantity_digits : 0 ≤ claimedQuantity ∧ claimedQuantity < 10 ^ 18
  claimedUnitValue_digits : 0 ≤ claimedUnitValue ∧ claimedUnitValue < 10 ^ 18

inductive ClaimError where
  | quantityMismatch (supported : Int)
  | valueMismatch (supported : List String)
deriving DecidableEq, Repr

/-- A line of the report; its quantities and its claimed amount stand for their texts. -/
structure ClaimResult where
  purchaseOrderId : String
  invoiceId : String
  lineIdentity : Option String
  claimedQuantity : Int
  acceptedQuantity : Int
  claimedUnitValue : Int
  supportedUnitValues : List String
  sourceVersions : List Nat
  errors : List ClaimError := []
deriving DecidableEq, Repr

structure UnmatchedLine where
  lineIdentity : Option String
  reason : String
deriving DecidableEq, Repr

structure FulfilmentReport where
  matchedLines : List ClaimResult := []
  unmatchedLines : List UnmatchedLine := []
  contradictionLines : List ClaimResult := []
  recordVersion : Nat := 0
deriving DecidableEq, Repr

namespace FulfilmentClaim

/-- The last condition of the query: the first identity that is given decides. -/
def selects (claim : FulfilmentClaim) (item : DeliveryItem) : Bool :=
  if truthy claim.poLineId then claim.poLineId == some item.poLineId
  else if truthy claim.invoiceLineId then item.invoiceLineId == claim.invoiceLineId
  else claim.sku == some item.sku

def lineIdentity (claim : FulfilmentClaim) : Option String :=
  if truthy claim.poLineId then claim.poLineId
  else if truthy claim.invoiceLineId then claim.invoiceLineId
  else claim.sku

end FulfilmentClaim

section Verification

variable (db : DeliveryDb) (tenantId : String) (claim : FulfilmentClaim)

/-- The conditions of the query on a delivery. -/
def qualifies (delivery : Delivery) : Bool :=
  delivery.tenantId == tenantId && delivery.purchaseOrderId == claim.purchaseOrderId &&
    delivery.invoiceId == some claim.invoiceId &&
    [DeliveryStatus.delivered, .partiallyAccepted].contains delivery.status &&
    db.proofs.any fun proof ↦
      proof.deliveryId == delivery.id && proof.verificationStatus == .verified

/-- The rows of the query: items joined with their deliveries. -/
def claimRows : List (DeliveryItem × Delivery) :=
  db.items.flatMap fun item ↦
    (db.deliveries.filter fun delivery ↦
      delivery.id == item.deliveryId && (qualifies db tenantId claim delivery && claim.selects item)).map
        fun delivery ↦ (item, delivery)

/-- The set of unit values of the rows. -/
def unitValues (rows : List (DeliveryItem × Delivery)) : Finset Int :=
  (rows.map fun row ↦ row.1.supportedUnitValue).toFinset

def supportedTexts (rows : List (DeliveryItem × Delivery)) : List String :=
  ((unitValues rows).image centsText).sort

def claimErrors (claim : FulfilmentClaim) (rows : List (DeliveryItem × Delivery)) : List ClaimError :=
  let accepted := Table.sum (fun row ↦ row.1.acceptedQuantity) rows
  (if accepted ≠ claim.claimedQuantity then [.quantityMismatch accepted] else []) ++
    if unitValues rows ≠ {claim.claimedUnitValue} then [.valueMismatch (supportedTexts rows)] else []

def claimResult (claim : FulfilmentClaim) (rows : List (DeliveryItem × Delivery)) : ClaimResult where
  purchaseOrderId := claim.purchaseOrderId
  invoiceId := claim.invoiceId
  lineIdentity := claim.lineIdentity
  claimedQuantity := claim.claimedQuantity
  acceptedQuantity := Table.sum (fun row ↦ row.1.acceptedQuantity) rows
  claimedUnitValue := claim.claimedUnitValue
  supportedUnitValues := supportedTexts rows
  sourceVersions := (rows.map fun row ↦ row.2.version).toFinset.sort
  errors := claimErrors claim rows

/-- What the comparison of one claim adds to the report. -/
def FulfilmentReport.check (report : FulfilmentReport) (claim : FulfilmentClaim)
    (rows : List (DeliveryItem × Delivery)) : FulfilmentReport :=
  if rows.isEmpty then
    { report with
      unmatchedLines := report.unmatchedLines ++
        [⟨claim.lineIdentity, "No accepted delivery line matched all invoice and PO identities."⟩] }
  else
    let result := claimResult claim rows
    let recordVersion := result.sourceVersions.foldl max report.recordVersion
    if result.errors.isEmpty then
      { report with matchedLines := report.matchedLines ++ [result], recordVersion := recordVersion }
    else
      { report with
        contradictionLines := report.contradictionLines ++ [result], recordVersion := recordVersion }

def verifyFulfilment (claims : List FulfilmentClaim) : FulfilmentReport :=
  claims.foldl (fun report claim ↦ report.check claim (claimRows db tenantId claim)) {}

/-! ## What a claim rests on -/

/-- The claim rests on the item: the item is stored with a delivery that qualifies. -/
def restsOn (item : DeliveryItem) : Bool :=
  claim.selects item &&
    db.deliveries.any fun delivery ↦ delivery.id == item.deliveryId && qualifies db tenantId claim delivery

/-- The accepted goods behind a claim have its quantity and its unit value. -/
structure Supported : Prop where
  found : ∃ item ∈ db.items, restsOn db tenantId claim item = true
  quantity : Table.sum DeliveryItem.acceptedQuantity (db.items.filter (restsOn db tenantId claim)) =
    claim.claimedQuantity
  unitValue : ∀ item ∈ db.items, restsOn db tenantId claim item = true →
    item.supportedUnitValue = claim.claimedUnitValue

/-- Whether the call returns a matched line for the claim. -/
def matched : Bool := !(verifyFulfilment db tenantId [claim]).matchedLines.isEmpty

/-- The distinct items that the matched claims of a call rest on. -/
def evidence (claims : List FulfilmentClaim) : List DeliveryItem :=
  Table.covered (restsOn db tenantId) db.items (claims.filter (matched db tenantId))

/-- The matched lines of a call claim no more than was accepted of the items behind them. -/
def CountedOnce (claims : List FulfilmentClaim) : Prop :=
  Table.sum ClaimResult.claimedQuantity (verifyFulfilment db tenantId claims).matchedLines ≤
    Table.sum DeliveryItem.acceptedQuantity (evidence db tenantId claims)

/-- No accepted goods are behind both claims. -/
def Apart (first second : FulfilmentClaim) : Prop :=
  Supported db tenantId first → Supported db tenantId second → ∀ item ∈ db.items,
    restsOn db tenantId first item = true → restsOn db tenantId second item = true →
      item.acceptedQuantity = 0

end Verification

/-- Stored deliveries: the keys hold and no accepted quantity is negative. -/
structure StoredDeliveries extends DeliveryDb where
  keyed : toDeliveryDb.WellKeyed
  accepted_nonneg : ∀ item ∈ items, 0 ≤ item.acceptedQuantity

/-! ## One claim -/

section Claim

variable {db : DeliveryDb} {tenantId : String} {claim : FulfilmentClaim}

/-- An item is joined with at most one delivery. -/
theorem joined_items (hkeyed : db.WellKeyed) (item : DeliveryItem) :
    ((db.deliveries.filter fun delivery ↦ delivery.id == item.deliveryId &&
        (qualifies db tenantId claim delivery && claim.selects item)).map fun _ ↦ item) =
      if restsOn db tenantId claim item then [item] else [] := by
  cases hrests : restsOn db tenantId claim item with
  | false =>
    rw [if_neg Bool.false_ne_true, List.map_eq_nil_iff, List.filter_eq_nil_iff]
    intro delivery hstored hjoined
    simp only [Bool.and_eq_true] at hjoined
    obtain ⟨hid, hqualifies, hselects⟩ := hjoined
    rw [restsOn, hselects, Bool.true_and, List.any_eq_false] at hrests
    exact hrests delivery hstored (by rw [hid, hqualifies]; rfl)
  | true =>
    simp only [restsOn, Bool.and_eq_true, List.any_eq_true] at hrests
    obtain ⟨hselects, delivery, hstored, hid, hqualifies⟩ := hrests
    have hkeys : (db.deliveries.map Delivery.id).Nodup := hkeyed.deliveries.keys
    have hselected : (qualifies db tenantId claim delivery && claim.selects item) = true := by
      rw [hqualifies, hselects]
      rfl
    rw [← beq_iff_eq.mp hid, Table.filter_key_and hkeys hstored hselected]
    rfl

theorem claimRows_items (hkeyed : db.WellKeyed) :
    (claimRows db tenantId claim).map Prod.fst = db.items.filter (restsOn db tenantId claim) := by
  rw [claimRows, List.map_flatMap]
  simp only [List.map_map, Function.comp_def]
  calc db.items.flatMap _
    _ = db.items.flatMap fun item ↦ if restsOn db tenantId claim item then [item] else [] :=
        List.flatMap_congr fun item _ ↦ joined_items hkeyed item
    _ = db.items.filter (restsOn db tenantId claim) := Table.flatMap_selected _ _

/-- The comparison finds no fault exactly in the supported claims. -/
theorem supported_iff (hkeyed : db.WellKeyed) :
    Supported db tenantId claim ↔
      claimRows db tenantId claim ≠ [] ∧
      Table.sum (fun row ↦ row.1.acceptedQuantity) (claimRows db tenantId claim) = claim.claimedQuantity ∧
      unitValues (claimRows db tenantId claim) = {claim.claimedUnitValue} := by
  have hitems : (claimRows db tenantId claim).map Prod.fst = _ := claimRows_items hkeyed
  have hcolumn {Value : Type} (column : DeliveryItem → Value) :
      (claimRows db tenantId claim).map (fun row ↦ column row.1) =
        (db.items.filter (restsOn db tenantId claim)).map column := by
    rw [← hitems, List.map_map]
    rfl
  have hnone : claimRows db tenantId claim ≠ [] ↔ db.items.filter (restsOn db tenantId claim) ≠ [] := by
    rw [← hitems, ne_eq, ne_eq, List.map_eq_nil_iff]
  rw [hnone, unitValues, Table.sum, hcolumn DeliveryItem.acceptedQuantity,
    hcolumn DeliveryItem.supportedUnitValue, Finset.eq_singleton_iff_nonempty_unique_mem]
  simp only [List.toFinset_nonempty_iff, List.mem_toFinset, List.forall_mem_map, List.mem_filter]
  constructor
  · rintro ⟨⟨item, hitem, hrests⟩, hquantity, hvalue⟩
    have hmem : item ∈ db.items.filter (restsOn db tenantId claim) := List.mem_filter.mpr ⟨hitem, hrests⟩
    have hfound := List.ne_nil_of_mem hmem
    exact ⟨hfound, hquantity, by simpa using hfound, fun other hother ↦ hvalue other hother.1 hother.2⟩
  · rintro ⟨hfound, hquantity, -, hvalue⟩
    obtain ⟨item, hmem⟩ := List.exists_mem_of_ne_nil _ hfound
    obtain ⟨hitem, hrests⟩ := List.mem_filter.mp hmem
    exact ⟨⟨item, hitem, hrests⟩, hquantity, fun other hother hrests ↦ hvalue other ⟨hother, hrests⟩⟩

/-- The comparison of one claim adds its line to the matched ones or leaves them. -/
theorem check_matchedLines (report : FulfilmentReport) (claim : FulfilmentClaim)
    (rows : List (DeliveryItem × Delivery)) :
    (report.check claim rows).matchedLines =
      report.matchedLines ++ (FulfilmentReport.check {} claim rows).matchedLines := by
  simp only [FulfilmentReport.check]
  split
  · exact (List.append_nil _).symm
  · by_cases herrors : (claimResult claim rows).errors.isEmpty = true
    · rw [if_pos herrors, if_pos herrors]
      rfl
    · rw [if_neg herrors, if_neg herrors, List.append_nil]

theorem claimErrors_eq_nil {rows : List (DeliveryItem × Delivery)} :
    (claimErrors claim rows).isEmpty = true ↔
      Table.sum (fun row ↦ row.1.acceptedQuantity) rows = claim.claimedQuantity ∧
        unitValues rows = {claim.claimedUnitValue} := by
  rw [List.isEmpty_iff, claimErrors, List.append_eq_nil_iff]
  simp

/-- A claim has one matched line, with its quantity, when it is supported, and none otherwise. -/
theorem matchedLines_single (hkeyed : db.WellKeyed) :
    Supported db tenantId claim ∧
        (verifyFulfilment db tenantId [claim]).matchedLines =
          [claimResult claim (claimRows db tenantId claim)] ∨
      ¬Supported db tenantId claim ∧ (verifyFulfilment db tenantId [claim]).matchedLines = [] := by
  rw [supported_iff hkeyed, ← claimErrors_eq_nil]
  simp only [verifyFulfilment, List.foldl_cons, List.foldl_nil, FulfilmentReport.check, List.isEmpty_iff]
  by_cases hrows : claimRows db tenantId claim = []
  · exact Or.inr ⟨fun h ↦ h.1 hrows, by rw [if_pos hrows]⟩
  · by_cases herrors : claimErrors claim (claimRows db tenantId claim) = []
    · exact Or.inl ⟨⟨hrows, herrors⟩, by rw [if_neg hrows, claimResult, if_pos herrors]; rfl⟩
    · exact Or.inr ⟨fun h ↦ herrors h.2, by rw [if_neg hrows, claimResult, if_neg herrors]⟩

theorem matched_iff (hkeyed : db.WellKeyed) :
    matched db tenantId claim = true ↔ Supported db tenantId claim := by
  rw [matched]
  rcases matchedLines_single hkeyed with ⟨h, hlines⟩ | ⟨h, hlines⟩
  · rw [hlines]
    exact iff_of_true rfl h
  · rw [hlines]
    exact iff_of_false Bool.false_ne_true h

/-- A matched line claims what was accepted of the items behind the claim. -/
theorem claimed_single (hkeyed : db.WellKeyed) :
    Table.sum ClaimResult.claimedQuantity (verifyFulfilment db tenantId [claim]).matchedLines =
      if matched db tenantId claim then
        Table.sum DeliveryItem.acceptedQuantity (db.items.filter (restsOn db tenantId claim))
      else 0 := by
  rcases matchedLines_single hkeyed with ⟨h, hlines⟩ | ⟨h, hlines⟩
  · rw [if_pos ((matched_iff hkeyed).mpr h), hlines, Table.sum_cons, Table.sum_nil, add_zero, h.quantity]
    rfl
  · rw [if_neg (h ∘ (matched_iff hkeyed).mp), hlines]
    rfl

end Claim

/-! ## All claims of a call -/

section Call

variable {db : DeliveryDb} {tenantId : String}

/-- The claims of a call are compared one by one. -/
theorem matchedLines_flatMap (claims : List FulfilmentClaim) :
    (verifyFulfilment db tenantId claims).matchedLines =
      claims.flatMap fun claim ↦ (verifyFulfilment db tenantId [claim]).matchedLines := by
  have hfold (report : FulfilmentReport) :
      (claims.foldl (fun report claim ↦ report.check claim (claimRows db tenantId claim)) report).matchedLines =
        report.matchedLines ++
          claims.flatMap fun claim ↦ (verifyFulfilment db tenantId [claim]).matchedLines := by
    induction claims generalizing report with
    | nil => simp
    | cons claim claims ih =>
      rw [List.foldl_cons, ih, check_matchedLines, List.flatMap_cons, List.append_assoc]
      rfl
  exact hfold {}

theorem claimed_total (hkeyed : db.WellKeyed) (claims : List FulfilmentClaim) :
    Table.sum ClaimResult.claimedQuantity (verifyFulfilment db tenantId claims).matchedLines =
      Table.sum
        (fun claim ↦ Table.sum DeliveryItem.acceptedQuantity (db.items.filter (restsOn db tenantId claim)))
        (claims.filter (matched db tenantId)) := by
  rw [matchedLines_flatMap, Table.sum_filter]
  induction claims with
  | nil => rfl
  | cons claim claims ih =>
    rw [List.flatMap_cons, Table.sum_append, ih, Table.sum_cons, claimed_single hkeyed]

end Call

/-- Every reachable database stores deliveries in this sense. -/
def reached (platform : DeliveryPlatform) (calls : List DeliveryCall) : StoredDeliveries where
  toDeliveryDb := (deliveryService platform).run {} calls
  keyed := ((deliveryService platform).run_invariant Regular Regular.empty
    (fun _ call h ↦ h.step platform call) calls).keyed
  accepted_nonneg item hitem := by
    have hregular := (deliveryService platform).run_invariant Regular Regular.empty
      (fun _ call h ↦ h.step platform call) calls
    obtain ⟨delivery, hdelivery, hid⟩ := List.mem_map.mp (hregular.items item hitem)
    have hsound := dossier_invariant platform (fun dossier ↦ Sound dossier.toContents)
      (opening_sound platform) (fun _ _ h hstep _ ↦ h.step hstep) calls delivery hdelivery
    have hmem : item ∈ (dossier ((deliveryService platform).run {} calls) delivery).items :=
      List.mem_filter.mpr ⟨hitem, beq_iff_eq.mpr hid.symm⟩
    rcases hsound.standing with hopen | hsettled
    · exact (hopen.items item hmem).1.ge
    · exact (hsettled.items item hmem).1

/-- The matched lines of a call are covered by the accepted goods behind them exactly when no two supported
claims select the same accepted goods. -/
theorem counted_once_iff (stored : StoredDeliveries) (tenantId : String) (claims : List FulfilmentClaim) :
    CountedOnce stored.toDeliveryDb tenantId claims ↔
      claims.Pairwise (Apart stored.toDeliveryDb tenantId) := by
  rw [CountedOnce, claimed_total stored.keyed, evidence, Table.sum_le_covered_iff stored.accepted_nonneg,
    List.pairwise_filter]
  simp only [matched_iff stored.keyed]
  rfl

/-- Two pumps at 10.00 each, delivered with a verified proof and accepted. -/
def acceptedPumps : StoredDeliveries where
  deliveries :=
    [{ id := "del_1", tenantId := "tenant", deliveryNumber := "DLV-1", purchaseOrderId := "po_1"
       invoiceId := some "inv_1", invoiceNumber := some "INV-1", sellerBusinessId := "biz_seller"
       sellerGstin := "29ABCDE1234F1Z5", buyerId := "buyer_1", buyerGstin := "29FGHIJ5678K1Z3"
       status := .delivered, shipFrom := "\x7b\"city\":\"Pune\"\x7d"
       shipTo := "\x7b\"city\":\"Surat\"\x7d", declaredValue := 2000
       verifiedDeliveredValue := 2000, version := 7 }]
  items :=
    [{ id := "item_1", deliveryId := "del_1", poLineId := "line_1", sku := "PUMP"
       orderedQuantity := 2000, dispatchedQuantity := 2000, deliveredQuantity := 2000
       acceptedQuantity := 2000, supportedUnitValue := 1000 }]
  proofs := [{ id := "proof_1", deliveryId := "del_1", verificationStatus := .verified }]
  keyed := ⟨⟨by decide, by simp⟩, ⟨by decide, by simp⟩, ⟨by decide, by simp⟩, meets_nil _⟩
  accepted_nonneg := by simp

/-- The pumps claimed by the order line and, when `bySku`, by their SKU. -/
def pumpClaim (bySku : Bool) : FulfilmentClaim where
  purchaseOrderId := "po_1"
  invoiceId := "inv_1"
  poLineId := if bySku then none else some "line_1"
  sku := if bySku then some "PUMP" else none
  claimedQuantity := 2000
  claimedUnitValue := 1000
  identities_nonblank := by decide
  line_identity := by cases bySku <;> decide
  claimedQuantity_digits := by decide
  claimedUnitValue_digits := by decide

/-- The same two pumps support two claims for two pumps. -/
theorem pumps_counted_twice :
    ¬∀ (stored : StoredDeliveries) (tenantId : String) (claims : List FulfilmentClaim),
    CountedOnce stored.toDeliveryDb tenantId claims := by
  intro h
  have hcounted : ¬CountedOnce acceptedPumps.toDeliveryDb "tenant" [pumpClaim false, pumpClaim true] := by
    unfold CountedOnce
    decide +kernel
  exact hcounted (h acceptedPumps "tenant" [pumpClaim false, pumpClaim true])

end Xyena.Deliveries
