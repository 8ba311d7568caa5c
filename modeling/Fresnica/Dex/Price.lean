import Fresnica.Transaction.Stroops
import Fresnica.Xdr

/-!
# The price of an offer

A decimal price is encoded as a fraction of two positive integers of 32 bits. The
search goes through the convergents of the price while they fit, and falls back on the
largest fraction between the last two when the last one has a part that is zero. The
parts stay in the range of 32 bits, so the checked operations on 64 bits never fail.

## Main definitions

* `PriceSearch` — the variables of the search
* `searchPrice`, `recoverPrice`, `stellarPrice` — the loop, the fallback, and the price

## Main results

* `PriceSearch.Bounded` — the invariant of the loop
* `checkedMulAdd_of_bounded` — under it, the checked operations are exact
-/

namespace Fresnica

open Foundation

def int32Max : ℤ := 2147483647

theorem stroopsPerXlm_pos : 0 < stroopsPerXlm.val := by decide

def noPriceApproximation : String := "Offer price has no Stellar int32 rational approximation"

/-- The variables of the search. Those of the division are not negative, so both ways to
round a quotient agree. -/
structure PriceSearch where
  numerator : ℤ
  denominator : ℤ
  previousN : ℤ
  previousD : ℤ
  currentN : ℤ
  currentD : ℤ
  bestN : ℤ
  bestD : ℤ
  numerator_nonneg : 0 ≤ numerator
  denominator_pos : 0 < denominator

namespace PriceSearch

/-- The search for a price in stroops. -/
def start (price : ℤ) (hprice : 0 < price) : PriceSearch where
  numerator := price
  denominator := stroopsPerXlm.val
  previousN := 0
  previousD := 1
  currentN := 1
  currentD := 0
  bestN := 1
  bestD := 0
  numerator_nonneg := hprice.le
  denominator_pos := stroopsPerXlm_pos

/-- The next convergent is the best so far. -/
def take (s : PriceSearch) (nextN nextD : ℤ) : PriceSearch :=
  { s with
    bestN := nextN, bestD := nextD
    previousN := s.currentN, previousD := s.currentD
    currentN := nextN, currentD := nextD }

/-- The division goes on with the remainder, where there is one. -/
def reduce (s : PriceSearch) (h : s.numerator % s.denominator ≠ 0) : PriceSearch :=
  { s with
    numerator := s.denominator, denominator := s.numerator % s.denominator
    numerator_nonneg := s.denominator_pos.le
    denominator_pos := lt_of_le_of_ne (Int.emod_nonneg _ s.denominator_pos.ne') h.symm }

theorem denominator_reduce_lt (s : PriceSearch) (h : s.numerator % s.denominator ≠ 0) :
    (s.reduce h).denominator.toNat < s.denominator.toNat := by
  have hlt : s.numerator % s.denominator < s.denominator :=
    Int.emod_lt_of_pos _ s.denominator_pos
  have hpos := s.denominator_pos
  show (s.numerator % s.denominator).toNat < s.denominator.toNat
  omega

end PriceSearch

/-- `a * b + c`, where no operation on 64 bits overflows. -/
def checkedMulAdd (a b c : ℤ) : Option ℤ := do
  let product : I64 ← BoundedInt.ofInt? (a * b)
  let sum : I64 ← BoundedInt.ofInt? (product.val + c)
  return sum.val

/-- The loop over the convergents. -/
def searchPrice (s : PriceSearch) : Except String PriceSearch :=
  if s.numerator > s.denominator * int32Max then .ok s
  else do
    let a := s.numerator / s.denominator
    let nextN ← okOr (checkedMulAdd a s.currentN s.previousN) noPriceApproximation
    let nextD ← okOr (checkedMulAdd a s.currentD s.previousD) noPriceApproximation
    if nextN > int32Max ∨ nextD > int32Max then .ok s
    else if h : s.numerator % s.denominator = 0 then .ok (s.take nextN nextD)
    else searchPrice ((s.take nextN nextD).reduce h)
termination_by s.denominator.toNat
decreasing_by exact PriceSearch.denominator_reduce_lt _ h

/-- The most times that the current convergent is added to the one before it. -/
def recoveryCoefficient (s : PriceSearch) : ℤ :=
  let coefficient := int32Max
  let coefficient :=
    if s.currentN > 0 then min coefficient ((int32Max - s.previousN) / s.currentN) else coefficient
  if s.currentD > 0 then min coefficient ((int32Max - s.previousD) / s.currentD) else coefficient

/-- The best fraction, once one with a part that is zero is replaced. -/
def recoverPrice (s : PriceSearch) : Except String (ℤ × ℤ) :=
  if s.bestN ≤ 0 ∨ s.bestD ≤ 0 then
    let coefficient := recoveryCoefficient s
    if coefficient ≥ 1 then do
      let recoveredN ← okOr (checkedMulAdd coefficient s.currentN s.previousN)
        noPriceApproximation
      let recoveredD ← okOr (checkedMulAdd coefficient s.currentD s.previousD)
        noPriceApproximation
      if recoveredN > 0 ∧ recoveredD > 0 ∧ recoveredN ≤ int32Max ∧ recoveredD ≤ int32Max then
        return (recoveredN, recoveredD)
      else return (s.bestN, s.bestD)
    else .ok (s.bestN, s.bestD)
  else .ok (s.bestN, s.bestD)

/-- The price of an offer; the callers only read positive prices. -/
def stellarPrice (priceStroops : I64) (hprice : 0 < priceStroops.val) : Except String Price := do
  let found ← searchPrice (.start priceStroops.val hprice)
  let (bestN, bestD) ← recoverPrice found
  ensure (¬ (bestN ≤ 0 ∨ bestD ≤ 0)) noPriceApproximation
  let n ← okOr (BoundedInt.ofInt? bestN) "Offer price numerator exceeds int32"
  let d ← okOr (BoundedInt.ofInt? bestD) "Offer price denominator exceeds int32"
  return ⟨n, d⟩

example : (stellarPrice (.lit 3333333) (by decide)).map (fun price => (price.n.val, price.d.val)) =
    .ok (3333333, 10000000) := by decide +kernel

/-! ### No overflow -/

variable {a b c : ℤ} {s : PriceSearch}

/-- Within the range of 32 bits the checked operations are exact. -/
theorem checkedMulAdd_of_bounded (ha : 0 ≤ a ∧ a ≤ int32Max) (hb : 0 ≤ b ∧ b ≤ int32Max)
    (hc : 0 ≤ c ∧ c ≤ int32Max) : checkedMulAdd a b c = some (a * b + c) := by
  have hproduct : 0 ≤ a * b := mul_nonneg ha.1 hb.1
  have hproduct_le : a * b ≤ int32Max * int32Max := mul_le_mul ha.2 hb.2 hb.1 (ha.1.trans ha.2)
  have hc_le := hc.2
  norm_num [int32Max] at hproduct_le hc_le
  obtain ⟨product, hofProduct, hval⟩ : ∃ product : I64,
      BoundedInt.ofInt? (a * b) = some product ∧ product.val = a * b :=
    BoundedInt.exists_ofInt? (by omega)
  obtain ⟨sum, hofSum, hsum⟩ : ∃ sum : I64,
      BoundedInt.ofInt? (a * b + c) = some sum ∧ sum.val = a * b + c :=
    BoundedInt.exists_ofInt? (by omega)
  simp only [checkedMulAdd, hofProduct, hval, hofSum, Option.bind_eq_bind, Option.bind_some,
    Option.pure_def, hsum]

namespace PriceSearch

/-- The parts of the last two convergents are not negative and fit, and the last one is
the best. -/
structure Bounded (s : PriceSearch) : Prop where
  previousN : 0 ≤ s.previousN ∧ s.previousN ≤ int32Max
  previousD : 0 ≤ s.previousD ∧ s.previousD ≤ int32Max
  currentN : 0 ≤ s.currentN ∧ s.currentN ≤ int32Max
  currentD : 0 ≤ s.currentD ∧ s.currentD ≤ int32Max
  best : s.bestN = s.currentN ∧ s.bestD = s.currentD

theorem bounded_start {price : ℤ} (hprice : 0 < price) : (start price hprice).Bounded := by
  constructor <;> simp [start, int32Max]

theorem bounded_reduce {h : s.numerator % s.denominator ≠ 0} : (s.reduce h).Bounded ↔ s.Bounded :=
  ⟨fun hs => ⟨hs.1, hs.2, hs.3, hs.4, hs.5⟩, fun hs => ⟨hs.1, hs.2, hs.3, hs.4, hs.5⟩⟩

/-- The quotient, of a ratio that fits. -/
theorem quotient_bounds (s : PriceSearch) (h : ¬ s.numerator > s.denominator * int32Max) :
    0 ≤ s.numerator / s.denominator ∧ s.numerator / s.denominator ≤ int32Max := by
  refine ⟨Int.ediv_nonneg s.numerator_nonneg s.denominator_pos.le, ?_⟩
  apply Int.ediv_le_of_le_mul s.denominator_pos
  rw [mul_comm]
  exact not_lt.mp h

/-- A convergent that fits keeps the bounds. -/
theorem Bounded.take (hs : s.Bounded) {quotient : ℤ} (hquotient : 0 ≤ quotient)
    (hfits : ¬ (quotient * s.currentN + s.previousN > int32Max ∨
      quotient * s.currentD + s.previousD > int32Max)) :
    (s.take (quotient * s.currentN + s.previousN)
      (quotient * s.currentD + s.previousD)).Bounded := by
  rw [not_or, not_lt, not_lt] at hfits
  refine ⟨hs.currentN, hs.currentD, ⟨?_, hfits.1⟩, ⟨?_, hfits.2⟩, rfl, rfl⟩
  · exact add_nonneg (mul_nonneg hquotient hs.currentN.1) hs.previousN.1
  · exact add_nonneg (mul_nonneg hquotient hs.currentD.1) hs.previousD.1

end PriceSearch

/-- Under the bounds a turn of the loop never overflows. -/
theorem searchPrice_of_bounded (hs : s.Bounded) : searchPrice s =
    if s.numerator > s.denominator * int32Max then .ok s
    else
      let a := s.numerator / s.denominator
      let nextN := a * s.currentN + s.previousN
      let nextD := a * s.currentD + s.previousD
      if nextN > int32Max ∨ nextD > int32Max then .ok s
      else if h : s.numerator % s.denominator = 0 then .ok (s.take nextN nextD)
      else searchPrice ((s.take nextN nextD).reduce h) := by
  rw [searchPrice]
  by_cases hlarge : s.numerator > s.denominator * int32Max
  · rw [if_pos hlarge, if_pos hlarge]
  · have ha := s.quotient_bounds hlarge
    simp only [if_neg hlarge, checkedMulAdd_of_bounded ha hs.currentN hs.previousN,
      checkedMulAdd_of_bounded ha hs.currentD hs.previousD, okOr, ok_bind]

/-- So does the fallback. -/
theorem recoverPrice_of_bounded (hs : s.Bounded) : recoverPrice s = .ok (
    if s.bestN ≤ 0 ∨ s.bestD ≤ 0 then
      let coefficient := recoveryCoefficient s
      if coefficient ≥ 1 then
        let recoveredN := coefficient * s.currentN + s.previousN
        let recoveredD := coefficient * s.currentD + s.previousD
        if recoveredN > 0 ∧ recoveredD > 0 ∧ recoveredN ≤ int32Max ∧ recoveredD ≤ int32Max then
          (recoveredN, recoveredD)
        else (s.bestN, s.bestD)
      else (s.bestN, s.bestD)
    else (s.bestN, s.bestD)) := by
  -- the coefficient is within the range, so that no product overflows
  have hle : recoveryCoefficient s ≤ int32Max := by
    unfold recoveryCoefficient
    dsimp only
    split_ifs
    · exact (min_le_left _ _).trans (min_le_left _ _)
    · exact min_le_left _ _
    · exact min_le_left _ _
    · exact le_rfl
  rw [recoverPrice]
  by_cases hbest : s.bestN ≤ 0 ∨ s.bestD ≤ 0
  · by_cases hcoefficient : recoveryCoefficient s ≥ 1
    · have ha : 0 ≤ recoveryCoefficient s ∧ recoveryCoefficient s ≤ int32Max :=
        ⟨le_trans zero_le_one hcoefficient, hle⟩
      simp only [if_pos hbest, if_pos hcoefficient, okOr, ok_bind,
        checkedMulAdd_of_bounded ha hs.currentN hs.previousN,
        checkedMulAdd_of_bounded ha hs.currentD hs.previousD, pure_eq_ok]
      split_ifs <;> rfl
    · simp only [if_pos hbest, if_neg hcoefficient]
  · simp only [if_neg hbest]

end Fresnica
