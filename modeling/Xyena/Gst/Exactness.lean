import Xyena.Foundation.Coverage
import Xyena.Gst.Portal

/-!
# Exact invoices

As long as the products of a line need no more digits than the decimal context
has, every amount of an invoice is exact: the tax of a line is rounded once and
then split, and the totals are the sums of the lines. A line whose rounded net
value is negative loses the whole invoice.
-/

namespace Xyena.Gst.Portal

open Xyena.Foundation Xyena.Foundation.Session DecimalNumber

/-! ## What the source promises -/

/-- The value of a line after its discount, in hundredths. -/
def netValue (line : InvoiceLineCreate) : Rat := line.quantity / 1000 * line.unitPrice - line.discount

def taxableOf (line : InvoiceLineCreate) : Int := halfAway (netValue line)

/-- The products of a line need at most 28 digits. -/
structure InContext (line : InvoiceLineCreate) : Prop where
  gross : line.quantity * line.unitPrice < 10 ^ precision
  tax : taxableOf line * line.gstRate < 10 ^ precision

structure LineExact (intraState : Bool) (line : InvoiceLineCreate) (amounts : LineAmounts) : Prop where
  taxable : amounts.taxableValue = halfAway (netValue line)
  nonneg : 0 ≤ amounts.taxableValue ∧ 0 ≤ amounts.cgstAmount ∧ 0 ≤ amounts.sgstAmount ∧
    0 ≤ amounts.igstAmount ∧ 0 ≤ amounts.totalValue
  tax : amounts.cgstAmount + amounts.sgstAmount + amounts.igstAmount =
    halfAway (amounts.taxableValue * line.gstRate / 10000)
  intra : intraState = true → 0 ≤ amounts.cgstAmount - amounts.sgstAmount ∧
    amounts.cgstAmount - amounts.sgstAmount ≤ 1 ∧ amounts.igstAmount = 0
  inter : intraState = false → amounts.cgstAmount = 0 ∧ amounts.sgstAmount = 0
  total : amounts.totalValue =
    amounts.taxableValue + (amounts.cgstAmount + amounts.sgstAmount + amounts.igstAmount)

structure TotalsExact (values : List LineAmounts) (amounts : InvoiceAmounts) : Prop where
  taxable : amounts.taxableValue = Table.sum LineAmounts.taxableValue values
  cgst : amounts.cgstAmount = Table.sum LineAmounts.cgstAmount values
  sgst : amounts.sgstAmount = Table.sum LineAmounts.sgstAmount values
  igst : amounts.igstAmount = Table.sum LineAmounts.igstAmount values
  total : amounts.totalInvoiceValue = Table.sum LineAmounts.totalValue values

/-! ## One line -/

theorem money_exact {number : DecimalNumber} {cents : Int} (h : number.toCents = some cents) :
    money number = .ok cents := by
  rw [money, h]

section Line

variable {line : LineCreate}

theorem abs_taxableOf_le (hgross : line.quantity * line.unitPrice < 10 ^ precision) :
    |taxableOf line.toInvoiceLineCreate| ≤ 10 ^ 25 := by
  refine abs_halfAway_le (abs_le.mpr ?_)
  have hgross' : (line.quantity : Rat) * line.unitPrice < 10 ^ 28 := by exact_mod_cast hgross
  have hpos : (0 : Rat) < line.quantity * line.unitPrice := by
    exact_mod_cast mul_pos line.quantity_pos line.unitPrice_pos
  have hdiscount : (0 : Rat) ≤ line.discount := by exact_mod_cast line.discount_nonneg
  have hdigits : (line.discount : Rat) < 10 ^ 18 := by exact_mod_cast line.discount_digits
  rw [netValue]
  push_cast
  constructor <;> linarith

/-- The net value is computed exactly when the gross value fits. -/
theorem money_net (hgross : line.quantity * line.unitPrice < 10 ^ precision) :
    money ((DecimalNumber.mul ⟨line.quantity, -3⟩ ⟨line.unitPrice, -2⟩).sub (.cents line.discount)) =
      .ok (taxableOf line.toInvoiceLineCreate) := by
  have hpos : 0 < line.quantity * line.unitPrice := mul_pos line.quantity_pos line.unitPrice_pos
  have hdiscount := line.discount_nonneg
  have hdigits := line.discount_digits
  have hmul : DecimalNumber.mul ⟨line.quantity, -3⟩ ⟨line.unitPrice, -2⟩ =
      ⟨line.quantity * line.unitPrice, -5⟩ := round_exact (fits_of_nonneg hpos.le hgross)
  have hfits : Fits (line.quantity * line.unitPrice - line.discount * 1000) := by
    unfold Fits precision at *
    omega
  have hsub : sub ⟨line.quantity * line.unitPrice, -5⟩ (.cents line.discount) =
      ⟨line.quantity * line.unitPrice - line.discount * 1000, -5⟩ := by
    simp only [sub, scaled, cents]
    norm_num
    exact round_exact hfits
  have hvalue : 100 * (⟨line.quantity * line.unitPrice - line.discount * 1000, -5⟩ : DecimalNumber).value =
      netValue line.toInvoiceLineCreate := by
    rw [value, netValue]
    push_cast
    norm_num
    ring
  have hrounded : Fits (halfAway (netValue line.toInvoiceLineCreate)) :=
    fits_of_abs_le (abs_taxableOf_le hgross) (by decide)
  rw [hmul, hsub]
  exact money_exact ((toCents_exact (by rwa [hvalue])).trans (by rw [hvalue]; rfl))

/-- A line whose rounded net value is negative is refused, however large its products are. -/
theorem calculateLine_negative (intraState : Bool) (h : taxableOf line.toInvoiceLineCreate < 0) :
    calculateLine line.toInvoiceLineCreate intraState =
      .error (.domain "A line discount cannot exceed its gross value.") := by
  have hgross : line.quantity * line.unitPrice < 10 ^ precision := by
    have hdigits : (line.discount : Rat) < 10 ^ 18 := by exact_mod_cast line.discount_digits
    have hnet := halfAway_neg_iff.mp h
    have hgross' : (line.quantity * line.unitPrice : Rat) < 10 ^ 28 := by
      rw [netValue] at hnet
      linarith
    exact_mod_cast hgross'
  rw [calculateLine, money_net hgross]
  change (ensure (decide (0 ≤ taxableOf line.toInvoiceLineCreate)) _ >>= _) = _
  rw [decide_eq_false (not_le.mpr h)]
  rfl

theorem money_tax {taxable rate : Int} (hnonneg : 0 ≤ taxable * rate) (h : taxable * rate < 10 ^ precision) :
    money (DecimalNumber.mul (.cents taxable) ⟨rate, -2⟩).percent =
        .ok (halfAway (taxable * rate / 10000)) ∧
      0 ≤ halfAway (taxable * rate / 10000) ∧ halfAway (taxable * rate / 10000) ≤ 10 ^ 24 := by
  have hfits := fits_of_nonneg hnonneg h
  have hmul : DecimalNumber.mul (.cents taxable) ⟨rate, -2⟩ = ⟨taxable * rate, -4⟩ := round_exact hfits
  have hpercent : percent ⟨taxable * rate, -4⟩ = ⟨taxable * rate, -6⟩ := round_exact hfits
  have hvalue : 100 * (⟨taxable * rate, -6⟩ : DecimalNumber).value = taxable * rate / 10000 := by
    rw [value]
    push_cast
    norm_num
    ring
  have hnonneg' : (0 : Rat) ≤ taxable * rate / 10000 := by
    have hcast : (0 : Rat) ≤ taxable * rate := by exact_mod_cast hnonneg
    linarith
  have hbound : (taxable * rate / 10000 : Rat) ≤ (10 ^ 24 : Int) := by
    have hcast : (taxable * rate : Rat) < 10 ^ 28 := by exact_mod_cast h
    push_cast
    linarith
  have hle := halfAway_le hnonneg' hbound
  have hrounded := fits_of_nonneg (halfAway_nonneg hnonneg') (hle.trans_lt (by decide))
  rw [hmul, hpercent]
  exact ⟨money_exact ((toCents_exact (by rwa [hvalue])).trans (by rw [hvalue])), halfAway_nonneg hnonneg', hle⟩

/-- The larger half of a tax. -/
theorem money_half {tax : Int} (hnonneg : 0 ≤ tax) (h : tax ≤ 10 ^ 24) :
    money (DecimalNumber.cents tax).half = .ok ((tax + 1) / 2) := by
  have hhalf := halfAway_half hnonneg
  have hfits : Fits (5 * tax) := fits_of_nonneg (by omega) (by unfold precision; omega)
  have hrounded : Fits (halfAway (tax / 2)) := by
    rw [hhalf]
    exact fits_of_nonneg (by omega) (by unfold precision; omega)
  exact money_exact ((toCents_half hfits hrounded).trans (by rw [hhalf]))

/-- The amounts of a line without any limit of digits. -/
def exactAmounts (line : InvoiceLineCreate) (intraState : Bool) : LineAmounts :=
  let tax := halfAway (taxableOf line * line.gstRate / 10000)
  { taxableValue := taxableOf line
    cgstAmount := if intraState then (tax + 1) / 2 else 0
    sgstAmount := if intraState then tax - (tax + 1) / 2 else 0
    igstAmount := if intraState then 0 else tax
    totalValue := taxableOf line + tax }

/-- A line in the context that is not refused has the amounts of exact arithmetic. -/
theorem calculateLine_ok (intraState : Bool) (h : InContext line.toInvoiceLineCreate)
    (hnonneg : 0 ≤ taxableOf line.toInvoiceLineCreate) :
    calculateLine line.toInvoiceLineCreate intraState =
      .ok (exactAmounts line.toInvoiceLineCreate intraState) := by
  obtain ⟨htax, htax_nonneg, htax_le⟩ := money_tax (mul_nonneg hnonneg line.gstRate_range.1) h.tax
  have hle : taxableOf line.toInvoiceLineCreate ≤ 10 ^ 25 := (le_abs_self _).trans (abs_taxableOf_le h.gross)
  rw [calculateLine, money_net h.gross, exactAmounts]
  change (ensure (decide (0 ≤ taxableOf line.toInvoiceLineCreate)) _ >>= fun _ ↦
    money (DecimalNumber.mul (.cents (taxableOf line.toInvoiceLineCreate)) ⟨line.gstRate, -2⟩).percent >>=
      _) = _
  rw [decide_eq_true hnonneg, htax]
  generalize halfAway (taxableOf line.toInvoiceLineCreate * line.gstRate / 10000) = tax at *
  have htotal : money ((DecimalNumber.cents (taxableOf line.toInvoiceLineCreate)).add (.cents tax)) =
      .ok (taxableOf line.toInvoiceLineCreate + tax) := by
    have hfits : Fits (taxableOf line.toInvoiceLineCreate + tax) :=
      fits_of_nonneg (by omega) (by unfold precision; omega)
    rw [add_cents hfits]
    exact money_exact (toCents_cents hfits)
  cases intraState with
  | false =>
    change (money ((DecimalNumber.cents (taxableOf line.toInvoiceLineCreate)).add (.cents tax)) >>= _) = _
    rw [htotal]
    rfl
  | true =>
    have hsplit : Fits (tax - (tax + 1) / 2) := fits_of_nonneg (by omega) (by unfold precision; omega)
    change (money (DecimalNumber.cents tax).half >>= _) = _
    rw [money_half htax_nonneg htax_le]
    change (money ((DecimalNumber.cents tax).sub (.cents ((tax + 1) / 2))) >>= _) = _
    rw [sub_cents hsplit, money_exact (toCents_cents hsplit)]
    change (money ((DecimalNumber.cents (taxableOf line.toInvoiceLineCreate)).add (.cents tax)) >>= _) = _
    rw [htotal]
    rfl

/-- The model of `calculate_line` without a context computes the same amounts. -/
theorem calculateLine_agrees (intraState : Bool) (h : InContext line.toInvoiceLineCreate)
    (hnonneg : 0 ≤ taxableOf line.toInvoiceLineCreate) :
    Gst.calculateLine line.toInvoiceLineCreate intraState =
      .ok (exactAmounts line.toInvoiceLineCreate intraState) := by
  obtain ⟨-, htax_nonneg, -⟩ := money_tax (mul_nonneg hnonneg line.gstRate_range.1) h.tax
  have htaxable : ¬Gst.money (line.quantity / 1000 * line.unitPrice - line.discount) < 0 := not_lt.mpr hnonneg
  have hhalf : Gst.money (halfAway (taxableOf line.toInvoiceLineCreate * line.gstRate / 10000) / 2) = _ :=
    halfAway_half htax_nonneg
  rw [Gst.calculateLine, if_neg htaxable, exactAmounts]
  cases intraState with
  | false => rfl
  | true =>
    rw [← hhalf]
    rfl

theorem exactAmounts_exact (intraState : Bool) (h : InContext line.toInvoiceLineCreate)
    (hnonneg : 0 ≤ taxableOf line.toInvoiceLineCreate) :
    LineExact intraState line.toInvoiceLineCreate (exactAmounts line.toInvoiceLineCreate intraState) ∧
      (exactAmounts line.toInvoiceLineCreate intraState).totalValue ≤ 11 * 10 ^ 24 := by
  obtain ⟨-, htax_nonneg, htax_le⟩ := money_tax (mul_nonneg hnonneg line.gstRate_range.1) h.tax
  have hle : taxableOf line.toInvoiceLineCreate ≤ 10 ^ 25 := (le_abs_self _).trans (abs_taxableOf_le h.gross)
  have htaxable : taxableOf line.toInvoiceLineCreate = halfAway (netValue line.toInvoiceLineCreate) := rfl
  simp only [exactAmounts]
  generalize hdef : halfAway (taxableOf line.toInvoiceLineCreate * line.gstRate / 10000) = tax at *
  cases intraState with
  | false =>
    exact ⟨⟨htaxable, by simp; omega, by simp [hdef], by simp, by simp, by simp⟩, by omega⟩
  | true =>
    exact ⟨⟨htaxable, by simp; omega, by simp [hdef], by simp; omega, by simp, by simp⟩, by omega⟩

end Line

/-! ## All lines of an invoice -/

section Lines

variable {lines : List LineCreate} {values : List LineAmounts}

/-- The amounts of all lines without any limit of digits. -/
def exactValues (lines : List LineCreate) (intraState : Bool) : List LineAmounts :=
  (lines.map LineCreate.toInvoiceLineCreate).map fun line ↦ exactAmounts line intraState

/-- Lines in the context that are not refused have the amounts of exact arithmetic. -/
theorem exactValues_exact (intraState : Bool) (hcontext : ∀ line ∈ lines, InContext line.toInvoiceLineCreate)
    (hnonneg : ∀ line ∈ lines, 0 ≤ taxableOf line.toInvoiceLineCreate) :
    List.Forall₂ (LineExact intraState) (lines.map LineCreate.toInvoiceLineCreate)
        (exactValues lines intraState) ∧
      ∀ amounts ∈ exactValues lines intraState, amounts.totalValue ≤ 11 * 10 ^ 24 := by
  have hexact : ∀ line ∈ lines.map LineCreate.toInvoiceLineCreate,
      LineExact intraState line (exactAmounts line intraState) ∧
        (exactAmounts line intraState).totalValue ≤ 11 * 10 ^ 24 :=
    List.forall_mem_map.mpr fun line hline ↦
      exactAmounts_exact intraState (hcontext line hline) (hnonneg line hline)
  constructor
  · exact List.forall₂_map_right_iff.mpr (List.forall₂_same.mpr fun line hline ↦ (hexact line hline).1)
  · exact List.forall_mem_map.mpr fun line hline ↦ (hexact line hline).2

/-- The lines of an invoice are computed one by one. -/
theorem mapM_exact (intraState : Bool) (hcontext : ∀ line ∈ lines, InContext line.toInvoiceLineCreate)
    (hnonneg : ∀ line ∈ lines, 0 ≤ taxableOf line.toInvoiceLineCreate) :
    (lines.map LineCreate.toInvoiceLineCreate).mapM (fun line ↦ calculateLine line intraState) =
      .ok (exactValues lines intraState) :=
  mapM_ok (List.forall_mem_map.mpr fun line hline ↦
    calculateLine_ok intraState (hcontext line hline) (hnonneg line hline))

theorem mapM_agrees (intraState : Bool) (hcontext : ∀ line ∈ lines, InContext line.toInvoiceLineCreate)
    (hnonneg : ∀ line ∈ lines, 0 ≤ taxableOf line.toInvoiceLineCreate) :
    (lines.map LineCreate.toInvoiceLineCreate).mapM (fun line ↦ Gst.calculateLine line intraState) =
      .ok (exactValues lines intraState) :=
  mapM_ok (List.forall_mem_map.mpr fun line hline ↦
    calculateLine_agrees intraState (hcontext line hline) (hnonneg line hline))

theorem mapM_negative (intraState : Bool) (h : ∃ line ∈ lines, taxableOf line.toInvoiceLineCreate < 0) :
    ∃ failure, (lines.map LineCreate.toInvoiceLineCreate).mapM (fun line ↦ calculateLine line intraState) =
      .error failure := by
  induction lines with
  | nil => simp at h
  | cons line rest ih =>
    rw [List.map_cons, List.mapM_cons]
    cases hline : calculateLine line.toInvoiceLineCreate intraState with
    | error failure => exact ⟨failure, rfl⟩
    | ok amounts =>
      obtain ⟨other, hother, hnegative⟩ := h
      rcases List.mem_cons.mp hother with rfl | hrest
      · rw [calculateLine_negative intraState hnegative] at hline
        cases hline
      · obtain ⟨failure, hfailure⟩ := ih ⟨other, hrest, hnegative⟩
        exact ⟨failure, by rw [hfailure]; rfl⟩

/-- A column that stays within the totals of the lines is added up exactly. -/
theorem total_exact {column : LineAmounts → Int} (hnonneg : ∀ amounts ∈ values, 0 ≤ column amounts)
    (hfits : Fits (Table.sum column values)) : total column values = .ok (Table.sum column values) := by
  have hamounts : ∀ amount ∈ values.map column, 0 ≤ amount := List.forall_mem_map.mpr hnonneg
  have hcents := toCents_sum hamounts hfits
  rw [List.map_map] at hcents
  exact money_exact hcents

theorem sum_le_bound {column : LineAmounts → Int} (hlength : values.length ≤ 100)
    (h : ∀ amounts ∈ values, column amounts ≤ 11 * 10 ^ 24) : Table.sum column values ≤ 11 * 10 ^ 26 := by
  have hsum : (values.map column).sum ≤ (values.map column).length • (11 * 10 ^ 24 : Int) :=
    List.sum_le_card_nsmul _ _ (List.forall_mem_map.mpr h)
  rw [List.length_map, nsmul_eq_mul] at hsum
  have hcount : (values.length : Int) ≤ 100 := by exact_mod_cast hlength
  rw [Table.sum]
  omega

/-- An exact line has parts without negative ones that make up its total. -/
structure Consistent (amounts : LineAmounts) : Prop where
  nonneg : 0 ≤ amounts.taxableValue ∧ 0 ≤ amounts.cgstAmount ∧ 0 ≤ amounts.sgstAmount ∧
    0 ≤ amounts.igstAmount
  total : amounts.totalValue =
    amounts.taxableValue + amounts.cgstAmount + amounts.sgstAmount + amounts.igstAmount
  le : amounts.totalValue ≤ 11 * 10 ^ 24

theorem consistent_of_exact {intraState : Bool} {exactLines : List InvoiceLineCreate}
    (h : List.Forall₂ (LineExact intraState) exactLines values)
    (hle : ∀ amounts ∈ values, amounts.totalValue ≤ 11 * 10 ^ 24) :
    ∀ amounts ∈ values, Consistent amounts := by
  induction h with
  | nil => simp
  | cons hline _ ih =>
    obtain ⟨hfirst, hrest⟩ := List.forall_mem_cons.mp hle
    obtain ⟨htaxable, hcgst, hsgst, higst, -⟩ := hline.nonneg
    refine List.forall_mem_cons.mpr ⟨⟨⟨htaxable, hcgst, hsgst, higst⟩, ?_, hfirst⟩, ih hrest⟩
    rw [hline.total]
    ring

theorem sum_totalValue (h : ∀ amounts ∈ values, Consistent amounts) :
    Table.sum LineAmounts.taxableValue values + Table.sum LineAmounts.cgstAmount values +
        Table.sum LineAmounts.sgstAmount values + Table.sum LineAmounts.igstAmount values =
      Table.sum LineAmounts.totalValue values := by
  induction values with
  | nil => rfl
  | cons amounts rest ih =>
    obtain ⟨hfirst, hrest⟩ := List.forall_mem_cons.mp h
    have hsum := ih hrest
    have htotal := hfirst.total
    simp only [Table.sum_cons]
    omega

/-- The totals of an invoice are the sums of its lines. -/
theorem calculateInvoice_exact (intraState : Bool) (hlength : lines.length ≤ 100)
    (hcontext : ∀ line ∈ lines, InContext line.toInvoiceLineCreate)
    (hnonneg : ∀ line ∈ lines, 0 ≤ taxableOf line.toInvoiceLineCreate) :
    ∃ amounts, calculateInvoice (lines.map LineCreate.toInvoiceLineCreate) intraState =
        .ok (exactValues lines intraState, amounts) ∧
      TotalsExact (exactValues lines intraState) amounts := by
  have hvalues := mapM_exact intraState hcontext hnonneg
  obtain ⟨hexact, hle⟩ := exactValues_exact intraState hcontext hnonneg
  generalize exactValues lines intraState = values at *
  have hconsistent := consistent_of_exact hexact hle
  have hcount : values.length ≤ 100 := by
    rw [← hexact.length_eq, List.length_map]
    exact hlength
  have hparts := sum_totalValue hconsistent
  have hbound := sum_le_bound hcount hle
  have htaxable : 0 ≤ Table.sum LineAmounts.taxableValue values :=
    Table.sum_nonneg fun amounts hmem ↦ (hconsistent amounts hmem).nonneg.1
  have hcgst : 0 ≤ Table.sum LineAmounts.cgstAmount values :=
    Table.sum_nonneg fun amounts hmem ↦ (hconsistent amounts hmem).nonneg.2.1
  have hsgst : 0 ≤ Table.sum LineAmounts.sgstAmount values :=
    Table.sum_nonneg fun amounts hmem ↦ (hconsistent amounts hmem).nonneg.2.2.1
  have higst : 0 ≤ Table.sum LineAmounts.igstAmount values :=
    Table.sum_nonneg fun amounts hmem ↦ (hconsistent amounts hmem).nonneg.2.2.2
  have hfits {amount : Int} (hamount : 0 ≤ amount) (h : amount ≤ Table.sum LineAmounts.totalValue values) :
      Fits amount := fits_of_nonneg hamount (by unfold precision; omega)
  have hinvoice : money ((((DecimalNumber.cents (Table.sum LineAmounts.taxableValue values)).add
      (.cents (Table.sum LineAmounts.cgstAmount values))).add
      (.cents (Table.sum LineAmounts.sgstAmount values))).add
      (.cents (Table.sum LineAmounts.igstAmount values))) = .ok (Table.sum LineAmounts.totalValue values) := by
    rw [add_cents (hfits (by omega) (by omega)), add_cents (hfits (by omega) (by omega)),
      add_cents (hfits (by omega) (by omega)), hparts]
    exact money_exact (toCents_cents (hfits (by omega) le_rfl))
  refine ⟨⟨Table.sum LineAmounts.taxableValue values, Table.sum LineAmounts.cgstAmount values,
    Table.sum LineAmounts.sgstAmount values, Table.sum LineAmounts.igstAmount values,
    Table.sum LineAmounts.totalValue values⟩, ?_, ⟨rfl, rfl, rfl, rfl, rfl⟩⟩
  rw [calculateInvoice, hvalues]
  change (total LineAmounts.taxableValue values >>= _) = _
  rw [total_exact (fun amounts hmem ↦ (hconsistent amounts hmem).nonneg.1) (hfits htaxable (by omega))]
  change (total LineAmounts.cgstAmount values >>= _) = _
  rw [total_exact (fun amounts hmem ↦ (hconsistent amounts hmem).nonneg.2.1) (hfits hcgst (by omega))]
  change (total LineAmounts.sgstAmount values >>= _) = _
  rw [total_exact (fun amounts hmem ↦ (hconsistent amounts hmem).nonneg.2.2.1) (hfits hsgst (by omega))]
  change (total LineAmounts.igstAmount values >>= _) = _
  rw [total_exact (fun amounts hmem ↦ (hconsistent amounts hmem).nonneg.2.2.2) (hfits higst (by omega))]
  change (money _ >>= _) = _
  rw [hinvoice]
  rfl

/-- The model of `create_invoice` without a context computes the same invoice. -/
theorem createInvoice_agrees {intraState : Bool} {amounts : InvoiceAmounts} (hlength : lines.length ≤ 100)
    (hcontext : ∀ line ∈ lines, InContext line.toInvoiceLineCreate)
    (hnonneg : ∀ line ∈ lines, 0 ≤ taxableOf line.toInvoiceLineCreate)
    (h : calculateInvoice (lines.map LineCreate.toInvoiceLineCreate) intraState = .ok (values, amounts)) :
    Gst.createInvoice (lines.map LineCreate.toInvoiceLineCreate) intraState = .ok amounts := by
  obtain ⟨found, hfound, htotals⟩ := calculateInvoice_exact intraState hlength hcontext hnonneg
  obtain rfl : found = amounts := congrArg Prod.snd (Except.ok.inj (hfound.symm.trans h))
  obtain ⟨hexact, hle⟩ := exactValues_exact intraState hcontext hnonneg
  have hparts := sum_totalValue (consistent_of_exact hexact hle)
  rw [Gst.createInvoice, mapM_agrees intraState hcontext hnonneg]
  refine congrArg Except.ok ?_
  obtain ⟨taxable, cgst, sgst, igst, total⟩ := found
  obtain ⟨htaxable, hcgst, hsgst, higst, htotal⟩ := htotals
  simp only at htaxable hcgst hsgst higst htotal
  rw [hparts, htaxable, hcgst, hsgst, higst, htotal]

theorem calculateInvoice_negative (intraState : Bool)
    (h : ∃ line ∈ lines, taxableOf line.toInvoiceLineCreate < 0) :
    ∃ failure, calculateInvoice (lines.map LineCreate.toInvoiceLineCreate) intraState = .error failure := by
  obtain ⟨failure, hfailure⟩ := mapM_negative intraState h
  exact ⟨failure, by rw [calculateInvoice, hfailure]; rfl⟩

end Lines

/-! ## A call of the portal -/

/-- The checks of a call that are not about amounts: the user is an operator, the date has come, the number
is new in its financial year, the drawn identifiers are new and distinct, and the database takes the rows. -/
structure LetThrough (db : GstDb) (call : GstCall) : Prop where
  operator : call.scope.roles.contains "GST_OPERATOR" = true
  date : call.request.invoiceDate ≤ call.today
  number : ∀ row ∈ db.invoices, (row.enterpriseId, row.financialYear, row.invoiceNumber) ≠
    (call.scope.enterprise.id, financialYear call.request.invoiceDate, call.request.invoiceNumber)
  drawn : Function.Injective call.uuid
  invoices : ∀ index, ∀ row ∈ db.invoices, call.uuid index ≠ row.id
  lines : ∀ index, ∀ row ∈ db.lines, call.uuid index ≠ row.id ∧ call.uuid index ≠ row.invoiceId
  history : ∀ index, ∀ row ∈ db.history, call.uuid index ≠ row.id
  audits : ∀ index, ∀ row ∈ db.audits, call.uuid index ≠ row.id
  outbox : ∀ index, ∀ row ∈ db.outbox, call.uuid index ≠ row.id
  stored : call.refused = false

/-- The lines of the request are stored with exact amounts, and the invoice with their sums. -/
structure ExactInvoice (call : GstCall) (after : GstDb) (invoice : Invoice) (rows : List InvoiceLine) :
    Prop where
  invoice_stored : invoice ∈ after.invoices
  rows_stored : ∀ row ∈ rows, row ∈ after.lines ∧ row.invoiceId = invoice.id
  lines : List.Forall₂ (fun line row ↦
    LineExact (intraState call.scope call.request) line.toInvoiceLineCreate row.amounts) call.request.lines rows
  taxable : invoice.taxableValue = Table.sum (fun row ↦ row.amounts.taxableValue) rows
  cgst : invoice.cgstAmount = Table.sum (fun row ↦ row.amounts.cgstAmount) rows
  sgst : invoice.sgstAmount = Table.sum (fun row ↦ row.amounts.sgstAmount) rows
  igst : invoice.igstAmount = Table.sum (fun row ↦ row.amounts.igstAmount) rows
  total : invoice.totalInvoiceValue = Table.sum (fun row ↦ row.amounts.totalValue) rows

/-- A line with a negative net value loses the call, and nothing is stored. -/
def RefusesNegative (db : GstDb) (call : GstCall) : Prop :=
  (∃ line ∈ call.request.lines, taxableOf line.toInvoiceLineCreate < 0) →
    ∃ failure, sessions.machine.step db call = (.error failure, db)

/-- Without a negative net value a call that is let through creates an exact invoice. -/
def CreatesExactly (db : GstDb) (call : GstCall) : Prop :=
  LetThrough db call → (∀ line ∈ call.request.lines, 0 ≤ taxableOf line.toInvoiceLineCreate) →
    ∃ invoice rows, (sessions.machine.step db call).1 = .ok (invoice, rows) ∧
      ExactInvoice call (sessions.machine.step db call).2 invoice rows

section Call

variable {db : GstDb} {call : GstCall} {values : List LineAmounts}

theorem newLines_amounts (hlength : values.length = call.request.lines.length) :
    (newLines call values).map InvoiceLine.amounts = values := by
  have hzip : ((call.request.lines.zip values).zipIdx 1).map Prod.fst = call.request.lines.zip values :=
    List.zipIdx_map_fst _ _
  calc (newLines call values).map InvoiceLine.amounts
    _ = (((call.request.lines.zip values).zipIdx 1).map Prod.fst).map Prod.snd := by
        rw [newLines, List.map_map, List.map_map]
        rfl
    _ = values := by rw [hzip, List.map_snd_zip hlength.le]

theorem newLines_drawn : ∀ row ∈ newLines call values, ∃ index, row.id = call.uuid index ∧
    row.invoiceId = call.uuid 0 := by
  intro row hrow
  obtain ⟨entry, -, rfl⟩ := List.mem_map.mp hrow
  exact ⟨entry.2, rfl, rfl⟩

theorem newLines_numbers :
    (newLines call values).Pairwise fun first second ↦
      first.lineNumber ≠ second.lineNumber ∧ first.id = call.uuid first.lineNumber ∧
        second.id = call.uuid second.lineNumber := by
  have hnumbers : ((call.request.lines.zip values).zipIdx 1).Pairwise
      fun first second ↦ first.2 ≠ second.2 := by
    rw [← List.pairwise_map (f := Prod.snd) (R := fun first second ↦ first ≠ second), List.zipIdx_map_snd]
    exact List.nodup_range'
  exact List.pairwise_map.mpr (hnumbers.imp fun hne ↦ ⟨hne, rfl, rfl⟩)

/-- The rows of a new invoice meet the keys and the unique columns. -/
theorem creation_accepted (h : LetThrough db call) (amounts : InvoiceAmounts) :
    (creationWrites call values amounts).accepted db = true := by
  simp only [Writes.accepted, Bool.and_eq_true, RowWrite.acceptedAll_insert]
  refine ⟨⟨⟨⟨⟨?_, List.pairwise_singleton ..⟩, ?_, ?_⟩, ?_, List.pairwise_singleton ..⟩, ?_,
    List.pairwise_singleton ..⟩, ?_, List.pairwise_singleton ..⟩
  · refine List.forall_mem_singleton.mpr fun old hold ↦ ⟨h.invoices 0 old hold, ?_⟩
    exact beq_eq_false_iff_ne.mpr fun hsame ↦ h.number old hold hsame.symm
  · intro row hrow old hold
    obtain ⟨index, hid, hinvoice⟩ := newLines_drawn row hrow
    refine ⟨hid.trans_ne (h.lines index old hold).1, beq_eq_false_iff_ne.mpr fun hsame ↦ ?_⟩
    exact (h.lines 0 old hold).2 (hinvoice.symm.trans (congrArg Prod.fst hsame))
  · refine newLines_numbers.imp fun {first second} hpair ↦ ?_
    obtain ⟨hne, hfirst, hsecond⟩ := hpair
    refine ⟨fun hsame ↦ hne (h.drawn (hfirst.symm.trans (hsame.symm.trans hsecond))), ?_⟩
    exact beq_eq_false_iff_ne.mpr fun hsame ↦ hne (congrArg Prod.snd hsame).symm
  · exact List.forall_mem_singleton.mpr fun old hold ↦ ⟨h.history _ old hold, rfl⟩
  · exact List.forall_mem_singleton.mpr fun old hold ↦ ⟨h.audits _ old hold, rfl⟩
  · exact List.forall_mem_singleton.mpr fun old hold ↦ ⟨h.outbox _ old hold, rfl⟩

theorem createInvoice_ok (h : LetThrough db call) {amounts : InvoiceAmounts}
    (hcalculated : calculateInvoice (call.request.lines.map LineCreate.toInvoiceLineCreate)
      (intraState call.scope call.request) = .ok (values, amounts)) :
    createInvoice call db = .ok ((newInvoice call amounts, newLines call values),
      some (creationWrites call values amounts)) := by
  have hnumber : (!db.invoices.any fun row ↦ row.enterpriseId == call.scope.enterprise.id &&
      row.financialYear == financialYear call.request.invoiceDate &&
        row.invoiceNumber == call.request.invoiceNumber) = true := by
    rw [Bool.not_eq_true', List.any_eq_false]
    intro row hrow hsame
    simp only [Bool.and_eq_true, beq_iff_eq] at hsame
    exact h.number row hrow (by rw [hsame.1.1, hsame.1.2, hsame.2])
  rw [createInvoice]
  refine ensure_bind_ok.mpr ⟨h.operator, ensure_bind_ok.mpr ⟨decide_eq_true h.date, ensure_bind_ok.mpr
    ⟨hnumber, ?_⟩⟩⟩
  rw [hcalculated]
  rfl

/-- A call that stores an invoice has computed its amounts. -/
theorem calculated_of_ok {outcome : (Invoice × List InvoiceLine) × Option Writes}
    (h : createInvoice call db = .ok outcome) :
    ∃ calculated, calculateInvoice (call.request.lines.map LineCreate.toInvoiceLineCreate)
      (intraState call.scope call.request) = .ok calculated := by
  rw [createInvoice] at h
  obtain ⟨-, hoperator⟩ := ensure_bind_ok.mp h
  obtain ⟨-, hdate⟩ := ensure_bind_ok.mp hoperator
  obtain ⟨-, hnumber⟩ := ensure_bind_ok.mp hdate
  obtain ⟨calculated, hcalculated, -⟩ := bind_ok.mp hnumber
  exact ⟨calculated, hcalculated⟩

theorem refuses_negative (db : GstDb) (call : GstCall) : RefusesNegative db call := by
  intro hnegative
  obtain ⟨failure, hfailure⟩ := calculateInvoice_negative (intraState call.scope call.request) hnegative
  have hnone (outcome : (Invoice × List InvoiceLine) × Option Writes) :
      sessions.serve db call ≠ .ok outcome := by
    intro hserve
    obtain ⟨calculated, hcalculated⟩ := calculated_of_ok hserve
    rw [hfailure] at hcalculated
    cases hcalculated
  rcases sessions.step_cases db call with hfails | ⟨answer, hserve, -⟩ | ⟨answer, writes, hserve, -⟩
  · exact hfails
  · exact absurd hserve (hnone _)
  · exact absurd hserve (hnone _)

/-- The amounts of a call in the context are those of an exact invoice. -/
theorem creates_exactly (hcontext : ∀ line ∈ call.request.lines, InContext line.toInvoiceLineCreate) :
    CreatesExactly db call := by
  intro hlet hnonneg
  obtain ⟨amounts, hcalculated, htotals⟩ := calculateInvoice_exact
    (intraState call.scope call.request) call.request.lines_given.2 hcontext hnonneg
  obtain ⟨hexact, -⟩ := exactValues_exact (intraState call.scope call.request) hcontext hnonneg
  generalize exactValues call.request.lines (intraState call.scope call.request) = values at *
  have hlines := List.forall₂_map_left_iff.mp hexact
  have hamounts : (newLines call values).map InvoiceLine.amounts = values :=
    newLines_amounts hlines.length_eq.symm
  have hserve : sessions.serve db call = .ok ((newInvoice call amounts, newLines call values),
      some (creationWrites call values amounts)) := createInvoice_ok hlet hcalculated
  have hstep : sessions.machine.step db call = _ :=
    sessions.step_commit hserve hlet.stored (creation_accepted hlet amounts)
  have hsum (column : LineAmounts → Int) :
      Table.sum column values = Table.sum (fun row ↦ column row.amounts) (newLines call values) := by
    rw [← hamounts, Table.sum, List.map_map, hamounts]
    rfl
  refine ⟨newInvoice call amounts, newLines call values, by rw [hstep], ?_⟩
  rw [hstep]
  exact {
    invoice_stored := List.mem_append_right _ (List.mem_singleton.mpr rfl)
    rows_stored := fun row hrow ↦ by
      obtain ⟨_, -, hinvoice⟩ := newLines_drawn row hrow
      exact ⟨List.mem_append_right _ hrow, hinvoice⟩
    lines := by
      rw [← hamounts] at hlines
      exact List.forall₂_map_right_iff.mp hlines
    taxable := htotals.taxable.trans (hsum _)
    cgst := htotals.cgst.trans (hsum _)
    sgst := htotals.sgst.trans (hsum _)
    igst := htotals.igst.trans (hsum _)
    total := htotals.total.trans (hsum _) }

end Call

/-- Every call refuses negative net values, and one whose products fit the decimal context creates an exact
invoice. -/
theorem invoice_arithmetic (db : GstDb) (call : GstCall) :
    RefusesNegative db call ∧
      ((∀ line ∈ call.request.lines, InContext line.toInvoiceLineCreate) → CreatesExactly db call) :=
  ⟨refuses_negative db call, creates_exactly⟩

/-! ## Sample calls -/

/-- An operator of an enterprise of Karnataka. -/
def operator : BrowserScope where
  userId := "user_1"
  enterprise := ⟨"ent_1", "tenant", "29ABCDE1234F1Z5"⟩
  roles := ["GST_OPERATOR"]

/-- The first invoice of the operator, for a buyer of the same state. -/
def billing (lines : List LineCreate) (hlines : 0 < lines.length ∧ lines.length ≤ 100) : GstCall where
  scope := operator
  request :=
    { invoiceNumber := "INV-1", invoiceDate := 738944, buyerGstin := "29FGHIJ5678K1Z3"
      buyerName := "Buyer", placeOfSupply := "29", lines := lines, lines_given := hlines }
  uuid index := String.ofList (List.replicate index 'u')
  today := 738944

theorem billing_letThrough (lines : List LineCreate) (hlines : 0 < lines.length ∧ lines.length ≤ 100) :
    LetThrough {} (billing lines hlines) where
  operator := by simp [billing, operator]
  date := le_rfl
  number := by simp
  drawn first second h := by
    have hlength := congrArg String.length h
    simpa [billing] using hlength
  invoices := by simp
  lines := by simp
  history := by simp
  audits := by simp
  outbox := by simp
  stored := rfl

theorem valve_quantity : (0 : Int) < 1000 := by decide

theorem valve_price : (0 : Int) < 1010 := by decide

theorem valve_discount : (0 : Int) ≤ 0 := Int.le_refl 0

theorem valve_rate : (0 : Int) ≤ 500 ∧ (500 : Int) ≤ 2800 := by decide

/-- One valve for 10.10 with a tax of 5 percent, which cannot be halved in whole paise. -/
def valve : LineCreate where
  quantity := 1000
  unitPrice := 1010
  gstRate := 500
  quantity_pos := valve_quantity
  unitPrice_pos := valve_price
  discount_nonneg := valve_discount
  gstRate_range := valve_rate
  description := "Valve"
  hsnSac := "8481"
  unit := "NOS"

/-- 10^14 valves for 10^15 each. -/
def manyValves : LineCreate where
  quantity := 10 ^ 17
  unitPrice := 10 ^ 17
  gstRate := 500
  quantity_pos := by decide
  unitPrice_pos := by decide
  discount_nonneg := valve_discount
  gstRate_range := valve_rate
  description := "Valve"
  hsnSac := "8481"
  unit := "NOS"

theorem valve_inContext : InContext valve.toInvoiceLineCreate where
  gross := by decide
  tax := by decide +kernel

/-- The valve is billed exactly. -/
theorem valve_exact : ∃ invoice rows,
    (sessions.machine.step {} (billing [valve] (by decide))).1 = .ok (invoice, rows) ∧
      ExactInvoice (billing [valve] (by decide)) (sessions.machine.step {} (billing [valve] (by decide))).2
        invoice rows :=
  (invoice_arithmetic {} (billing [valve] (by decide))).2
    (List.forall_mem_singleton.mpr valve_inContext) (billing_letThrough _ _)
    (List.forall_mem_singleton.mpr (by decide +kernel))

/-- Too many digits: the value of the valves cannot be rounded to paise. -/
theorem many_valves_refused : ¬∀ (db : GstDb) (call : GstCall),
    RefusesNegative db call ∧ CreatesExactly db call := by
  intro h
  have hnet : 0 ≤ taxableOf manyValves.toInvoiceLineCreate := by decide +kernel
  obtain ⟨invoice, rows, hok, -⟩ := (h {} (billing [manyValves] (by decide))).2 (billing_letThrough _ _)
    (List.forall_mem_singleton.mpr hnet)
  have hraises : (sessions.machine.step {} (billing [manyValves] (by decide))).1.isOk = false := by
    decide +kernel
  rw [hok] at hraises
  cases hraises

end Xyena.Gst.Portal
