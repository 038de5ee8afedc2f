import Xyena.Foundation.RowWrite
import Mathlib.Data.Rat.Floor

/-!
# The amounts of a GST invoice

`calculate_line` of `demos/gst-portal/gst_portal/domain.py` and the totals that
`create_invoice` of `service.py` puts together from its lines. The request keeps
to the digits of the columns, so that amounts count hundredths, quantities count
thousandths and rates count hundredths of a percent.
-/

namespace Xyena.Gst

open Xyena.Foundation

/-- `money`: the nearest integer, and of two nearest the one away from zero. -/
def money (value : Rat) : Int :=
  if 0 ≤ value then ⌊value + 1 / 2⌋ else -⌊-value + 1 / 2⌋

structure InvoiceLineCreate where
  quantity : Int
  unitPrice : Int
  discount : Int := 0
  gstRate : Int
  quantity_pos : 0 < quantity
  unitPrice_pos : 0 < unitPrice
  discount_nonneg : 0 ≤ discount := by decide
  gstRate_range : 0 ≤ gstRate ∧ gstRate ≤ 2800

structure LineAmounts where
  taxableValue : Int
  cgstAmount : Int
  sgstAmount : Int
  igstAmount : Int
  totalValue : Int
deriving DecidableEq, Repr

def calculateLine (line : InvoiceLineCreate) (intraState : Bool) : Except String LineAmounts :=
  let taxable := money (line.quantity / 1000 * line.unitPrice - line.discount)
  if taxable < 0 then .error "A line discount cannot exceed its gross value."
  else
    let tax := money (taxable * line.gstRate / 10000)
    let cgst := if intraState then money (tax / 2) else 0
    .ok {
      taxableValue := taxable
      cgstAmount := cgst
      sgstAmount := if intraState then tax - cgst else 0
      igstAmount := if intraState then 0 else tax
      totalValue := taxable + tax }

structure InvoiceAmounts where
  taxableValue : Int
  cgstAmount : Int
  sgstAmount : Int
  igstAmount : Int
  totalInvoiceValue : Int
deriving DecidableEq, Repr

/-- The amounts that `create_invoice` stores. -/
def createInvoice (lines : List InvoiceLineCreate) (intraState : Bool) : Except String InvoiceAmounts := do
  let values ← lines.mapM fun line ↦ calculateLine line intraState
  let taxable := Table.sum LineAmounts.taxableValue values
  let cgst := Table.sum LineAmounts.cgstAmount values
  let sgst := Table.sum LineAmounts.sgstAmount values
  let igst := Table.sum LineAmounts.igstAmount values
  return {
    taxableValue := taxable
    cgstAmount := cgst
    sgstAmount := sgst
    igstAmount := igst
    totalInvoiceValue := taxable + cgst + sgst + igst }

/-! ## Lines without a discount -/

/-- What a line without a discount is billed at: its value and its tax are rounded, one after the other. -/
def billed (line : InvoiceLineCreate) : Int :=
  money (line.quantity / 1000 * line.unitPrice) +
    money (money (line.quantity / 1000 * line.unitPrice) * line.gstRate / 10000)

theorem money_nonneg {value : Rat} (h : 0 ≤ value) : 0 ≤ money value := by
  rw [money, if_pos h]
  exact Int.floor_nonneg.mpr (by linarith)

section Billed

variable {line : InvoiceLineCreate} {lines : List InvoiceLineCreate} (intraState : Bool)

/-- The tax is billed in full, in one part or in two. -/
theorem calculateLine_billed (hdiscount : line.discount = 0) :
    ∃ amounts, calculateLine line intraState = .ok amounts ∧
      amounts.taxableValue + amounts.cgstAmount + amounts.sgstAmount + amounts.igstAmount = billed line := by
  have hquantity : (0 : Rat) ≤ line.quantity := by exact_mod_cast line.quantity_pos.le
  have hprice : (0 : Rat) ≤ line.unitPrice := by exact_mod_cast line.unitPrice_pos.le
  have htaxable : ¬money (line.quantity / 1000 * line.unitPrice - line.discount) < 0 := by
    rw [hdiscount, Int.cast_zero, sub_zero]
    exact Int.not_lt.mpr (money_nonneg (by positivity))
  refine ⟨_, by rw [calculateLine, if_neg htaxable], ?_⟩
  simp only [hdiscount, Int.cast_zero, sub_zero, billed]
  cases intraState with
  | false => simp
  | true =>
    simp only [if_true]
    omega

/-- An invoice without discounts is created with the sum of what its lines are billed at. -/
theorem createInvoice_total (hdiscount : ∀ line ∈ lines, line.discount = 0) :
    ∃ amounts, createInvoice lines intraState = .ok amounts ∧
      amounts.totalInvoiceValue = Table.sum billed lines := by
  have hvalues : ∃ values, lines.mapM (fun line ↦ calculateLine line intraState) = .ok values ∧
      Table.sum LineAmounts.taxableValue values + Table.sum LineAmounts.cgstAmount values +
        Table.sum LineAmounts.sgstAmount values + Table.sum LineAmounts.igstAmount values =
          Table.sum billed lines := by
    induction lines with
    | nil => exact ⟨[], rfl, rfl⟩
    | cons line rest ih =>
      obtain ⟨hline, hrest⟩ := List.forall_mem_cons.mp hdiscount
      obtain ⟨first, hfirst, hbilled⟩ := calculateLine_billed intraState hline
      obtain ⟨others, hothers, hsum⟩ := ih hrest
      refine ⟨first :: others, ?_, ?_⟩
      · rw [List.mapM_cons, hfirst, hothers]
        rfl
      · simp only [Table.sum_cons]
        omega
  obtain ⟨values, hok, hsum⟩ := hvalues
  refine ⟨_, by rw [createInvoice, hok]; rfl, hsum⟩

end Billed

end Xyena.Gst
