import Xyena.Foundation.RowWrite

/-!
# Double entry

A posting books an amount on one of two sides of an account. An account grows by
postings on its normal side and shrinks by postings on the other one. Counted
with the debit side as positive, a posting has the same effect whatever the
normal side of its account is, postings with equal sums on both sides have no
effect in total, and mirrored postings take the effect of their originals back.
-/

namespace Xyena.Foundation.DoubleEntry

inductive Side where
  | debit
  | credit
deriving DecidableEq, Repr

def Side.other : Side → Side
  | .debit => .credit
  | .credit => .debit

/-- What an amount on `side` adds to an account with the normal side `normal`. -/
def signed (normal side : Side) (amount : Int) : Int :=
  if side = normal then amount else -amount

@[simp] theorem signed_other (normal side : Side) (amount : Int) :
    signed normal side.other amount = -signed normal side amount := by
  cases normal <;> cases side <;> simp [signed, Side.other]

/-- A balance with the debit side as positive. -/
def net (normal : Side) (balance : Int) : Int := signed .debit normal balance

/-- The normal side of an account does not matter to the effect of a posting. -/
theorem net_add_signed (normal side : Side) (balance amount : Int) :
    net normal (balance + signed normal side amount) =
      net normal balance + signed .debit side amount := by
  cases normal <;> cases side <;> simp [net, signed] <;> omega

structure Posting (Account : Type*) where
  account : Account
  side : Side
  amount : Int

namespace Posting

variable {Account : Type*}

/-- The posting that takes a posting back. -/
def mirror (posting : Posting Account) : Posting Account :=
  { posting with side := posting.side.other }

/-- The sum of the postings on one side. -/
def sideSum (which : Side) (postings : List (Posting Account)) : Int :=
  Table.sum amount (postings.filter fun posting ↦ posting.side == which)

/-- What postings add in total, with the debit side as positive. -/
def effect (postings : List (Posting Account)) : Int :=
  Table.sum (fun posting ↦ signed .debit posting.side posting.amount) postings

/-- What postings add to one account with the normal side `normal`. -/
def effectOn [DecidableEq Account] (normal : Side) (account : Account)
    (postings : List (Posting Account)) : Int :=
  Table.sum (fun posting ↦ signed normal posting.side posting.amount)
    (postings.filter fun posting ↦ posting.account == account)

/-- Postings add the difference of their two sums. -/
theorem effect_eq (postings : List (Posting Account)) :
    effect postings = sideSum .debit postings - sideSum .credit postings := by
  induction postings with
  | nil => rfl
  | cons posting rest ih =>
    simp only [effect, sideSum, Table.sum_cons, List.filter_cons] at ih ⊢
    rw [ih]
    cases hside : posting.side <;> simp [signed] <;> omega

/-- Balanced postings have no effect in total. -/
theorem effect_eq_zero {postings : List (Posting Account)}
    (h : sideSum .debit postings = sideSum .credit postings) : effect postings = 0 := by
  rw [effect_eq, h, Int.sub_self]

/-- Mirrored postings swap the two sums. -/
theorem sideSum_mirror (which : Side) (postings : List (Posting Account)) :
    sideSum which (postings.map mirror) = sideSum which.other postings := by
  induction postings with
  | nil => rfl
  | cons posting rest ih =>
    simp only [sideSum, List.map_cons, List.filter_cons, mirror] at ih ⊢
    cases which <;> cases hside : posting.side <;> simp_all [Side.other]

/-- Mirrored postings take the effect of their originals on every account back. -/
theorem effectOn_mirror [DecidableEq Account] (normal : Side) (account : Account)
    (postings : List (Posting Account)) :
    effectOn normal account (postings.map mirror) = -effectOn normal account postings := by
  induction postings with
  | nil => rfl
  | cons posting rest ih =>
    simp only [effectOn, List.map_cons, List.filter_cons, mirror] at ih ⊢
    split
    · simp only [Table.sum_cons, signed_other, ih, Int.neg_add]
    · exact ih

end Posting

end Xyena.Foundation.DoubleEntry
