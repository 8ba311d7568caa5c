import Fresnica.Foundation.Outcome
import Fresnica.Xdr
import Mathlib.Data.Int.DivMod

/-!
# Liabilities of an offer

An offer promises to sell and to buy as much as the ledger would exchange if it
were taken in full against an unlimited counterpart. One of the two amounts is the
quotient of the offer's value by its price, and the other is computed back from
it, rounded in favour of the cheaper side. Neither amount can leave the range of
stroops, so the computation never fails.

## Main definitions

* `OfferSide`, `OfferLiabilities`
* `exchangeV10NormalLiabilities`, `offerLiabilities`

## Main results

* `offerLiabilities_total` — an offer of a positive price has liabilities, none negative
* `offerLiabilities_nonneg` — and only such an offer has any
-/

namespace Fresnica

open Foundation

inductive OfferSide
  | buy
  | sell
  deriving DecidableEq, Repr

structure OfferLiabilities where
  selling : I64
  buying : I64
  deriving DecidableEq, Repr

/-- Division rounded up. -/
def ceilDiv (numerator denominator : ℤ) : Except String ℤ := do
  ensure (¬ (numerator < 0 ∨ denominator ≤ 0)) "invalid offer liability division"
  let value : I128 ← okOr (BoundedInt.ofInt? (numerator + (denominator - 1)))
    "offer liability overflow"
  return value.val / denominator

/-- The amounts exchanged at a price `n / d` when the offer has one value and its
counterpart another. Products of a stroop amount and a price part are far from the
range of 128 bits. -/
def exchangedAmounts (n d wheatValue sheepValue : ℤ) : Except String (ℤ × ℤ) :=
  let wheatStays := wheatValue > sheepValue
  if wheatStays then
    if n > d then do
      let wheat := sheepValue / n
      let sheep ← ceilDiv (wheat * n) d
      return (wheat, sheep)
    else
      let sheep := sheepValue / d
      let wheat := sheep * d / n
      .ok (wheat, sheep)
  else if n > d then
    let wheat := wheatValue / n
    let sheep := wheat * n / d
    .ok (wheat, sheep)
  else do
    let sheep := wheatValue / d
    let wheat ← ceilDiv (sheep * d) n
    return (wheat, sheep)

def exchangeV10NormalLiabilities (priceN priceD : I32) (maxWheatSend maxSheepReceive : I64) :
    Except String (I64 × I64) := do
  ensure (¬ (priceN.val ≤ 0 ∨ priceD.val ≤ 0 ∨ maxWheatSend.val < 0 ∨ maxSheepReceive.val < 0))
    "invalid offer liability inputs"
  let max := 9223372036854775807
  let n := priceN.val
  let d := priceD.val
  let wheatValue := min (maxWheatSend.val * n) (maxSheepReceive.val * d)
  let sheepValue := min (max * d) (max * n)
  let (wheatReceive, sheepSend) ← exchangedAmounts n d wheatValue sheepValue
  let selling ← okOr (BoundedInt.ofInt? wheatReceive) "offer selling liability overflow"
  let buying ← okOr (BoundedInt.ofInt? sheepSend) "offer buying liability overflow"
  return (selling, buying)

def offerLiabilities (side : OfferSide) (amount : I64) (price : Price) :
    Except String OfferLiabilities := do
  let max : I64 := .lit 9223372036854775807
  let (selling, buying) ← match side with
    | .sell => exchangeV10NormalLiabilities price.n price.d amount max
    | .buy => exchangeV10NormalLiabilities price.d price.n max amount
  return ⟨selling, buying⟩

/-! ### Totality -/

variable {a b c n d value wheatValue sheepValue : ℤ} {priceN priceD : I32}
variable {maxWheatSend maxSheepReceive : I64}
variable {side : OfferSide} {amount : I64} {price : Price}

theorem ceilDiv_eq_ok (ha : 0 ≤ a) (hb : 0 < b)
    (h : a + (b - 1) ≤ 170141183460469231731687303715884105727) :
    ceilDiv a b = .ok ((a + (b - 1)) / b) := by
  obtain ⟨sum, hsum, hval⟩ : ∃ sum : I128, BoundedInt.ofInt? (a + (b - 1)) = some sum ∧
      sum.val = a + (b - 1) := BoundedInt.exists_ofInt? (by omega)
  rw [ceilDiv, ensure_bind_eq_ok, hsum, ← hval]
  exact ⟨by omega, rfl⟩

/-- Rounding up stays below a bound that the exact quotient meets. -/
theorem ceilDiv_le (hb : 0 < b) (h : a ≤ c * b) : (a + (b - 1)) / b ≤ c := by
  rw [← Int.lt_add_one_iff, Int.ediv_lt_iff_lt_mul hb, add_mul]
  omega

/-- The quotient of a value by one price part, and the way back through the other,
rounded down or up, stay below a bound that the value meets for either part. -/
theorem exchange_bounds {x y max : ℤ} (hx : 0 < x) (hy : 0 < y) (hvalue : 0 ≤ value)
    (hvalue_x : value ≤ max * x) (hvalue_y : value ≤ max * y) :
    (0 ≤ value / x ∧ value / x ≤ max) ∧ (0 ≤ value / x * x ∧ value / x * x ≤ value) ∧
      (0 ≤ value / x * x / y ∧ value / x * x / y ≤ max) ∧
      0 ≤ (value / x * x + (y - 1)) / y ∧ (value / x * x + (y - 1)) / y ≤ max := by
  have hquotient : 0 ≤ value / x := Int.ediv_nonneg hvalue hx.le
  have hback : 0 ≤ value / x * x := Int.mul_nonneg hquotient hx.le
  have hback_le : value / x * x ≤ value := Int.ediv_mul_le value hx.ne'
  refine ⟨⟨hquotient, ?_⟩, ⟨hback, hback_le⟩, ⟨Int.ediv_nonneg hback hy.le, ?_⟩, ?_, ?_⟩
  · exact Int.ediv_le_of_le_mul hx hvalue_x
  · exact Int.ediv_le_of_le_mul hy (hback_le.trans hvalue_y)
  · exact Int.ediv_nonneg (by omega) hy.le
  · exact ceilDiv_le hy (hback_le.trans hvalue_y)

/-- When neither price part takes the smaller value out of the range, both amounts
are in range. -/
theorem exchangedAmounts_total (hn : 0 < n ∧ n ≤ 2147483647) (hd : 0 < d ∧ d ≤ 2147483647)
    (hwheatValue : 0 ≤ wheatValue) (hsheepValue : 0 ≤ sheepValue)
    (hn_le : sheepValue ≤ 9223372036854775807 * n) (hd_le : sheepValue ≤ 9223372036854775807 * d) :
    ∃ wheat sheep, exchangedAmounts n d wheatValue sheepValue = .ok (wheat, sheep) ∧
      (0 ≤ wheat ∧ wheat ≤ 9223372036854775807) ∧ 0 ≤ sheep ∧ sheep ≤ 9223372036854775807 := by
  unfold exchangedAmounts
  -- whichever side stays in the book, the quotients are within the range
  by_cases hstays : wheatValue > sheepValue
  · obtain ⟨hwheat, hback, -, hsheep_ceil⟩ := exchange_bounds hn.1 hd.1 hsheepValue hn_le hd_le
    obtain ⟨hsheep, -, hwheat_floor, -⟩ := exchange_bounds hd.1 hn.1 hsheepValue hd_le hn_le
    rw [if_pos hstays]
    split_ifs
    · exact ⟨_, _, bind_eq_ok.mpr ⟨_, ceilDiv_eq_ok hback.1 hd.1 (by omega), rfl⟩, hwheat,
        hsheep_ceil⟩
    · exact ⟨_, _, rfl, hwheat_floor, hsheep⟩
  · rw [if_neg hstays]
    rw [not_lt] at hstays
    obtain ⟨hwheat, -, hsheep_floor, -⟩ :=
      exchange_bounds hn.1 hd.1 hwheatValue (hstays.trans hn_le) (hstays.trans hd_le)
    obtain ⟨hsheep, hback, -, hwheat_ceil⟩ :=
      exchange_bounds hd.1 hn.1 hwheatValue (hstays.trans hd_le) (hstays.trans hn_le)
    split_ifs
    · exact ⟨_, _, rfl, hwheat, hsheep_floor⟩
    · exact ⟨_, _, bind_eq_ok.mpr ⟨_, ceilDiv_eq_ok hback.1 hn.1 (by omega), rfl⟩, hwheat_ceil,
        hsheep⟩

theorem exchangeV10NormalLiabilities_total (hn : 0 < priceN.val) (hd : 0 < priceD.val)
    (hsend : 0 ≤ maxWheatSend.val) (hreceive : 0 ≤ maxSheepReceive.val) :
    ∃ selling buying, exchangeV10NormalLiabilities priceN priceD maxWheatSend maxSheepReceive =
      .ok (selling, buying) ∧ 0 ≤ selling.val ∧ 0 ≤ buying.val := by
  have hwheatValue : 0 ≤ min (maxWheatSend.val * priceN.val) (maxSheepReceive.val * priceD.val) :=
    le_min (Int.mul_nonneg hsend hn.le) (Int.mul_nonneg hreceive hd.le)
  obtain ⟨wheat, sheep, hexchange, hwheat, hsheep⟩ := exchangedAmounts_total ⟨hn, priceN.le_hi⟩
    ⟨hd, priceD.le_hi⟩ hwheatValue (by omega) (min_le_right _ _) (min_le_left _ _)
  obtain ⟨selling, hselling, rfl⟩ : ∃ selling : I64, BoundedInt.ofInt? wheat = some selling ∧
      selling.val = wheat := BoundedInt.exists_ofInt? (by omega)
  obtain ⟨buying, hbuying, rfl⟩ : ∃ buying : I64, BoundedInt.ofInt? sheep = some buying ∧
      buying.val = sheep := BoundedInt.exists_ofInt? (by omega)
  refine ⟨selling, buying, ensure_bind_eq_ok.mpr ⟨by omega, bind_eq_ok.mpr ⟨_, hexchange, ?_⟩⟩,
    hwheat.1, hsheep.1⟩
  exact bind_eq_ok.mpr ⟨_, okOr_eq_ok.mpr hselling, bind_eq_ok.mpr ⟨_, okOr_eq_ok.mpr hbuying, rfl⟩⟩

/-- An offer of a positive price has liabilities, and they are not negative. -/
theorem offerLiabilities_total (hamount : 0 ≤ amount.val) (hn : 0 < price.n.val)
    (hd : 0 < price.d.val) : ∃ liabilities, offerLiabilities side amount price = .ok liabilities ∧
      0 ≤ liabilities.selling.val ∧ 0 ≤ liabilities.buying.val := by
  have hmax : (0 : ℤ) ≤ (.lit 9223372036854775807 : I64).val := by decide
  cases side with
  | sell =>
    obtain ⟨selling, buying, heq, hselling, hbuying⟩ :=
      exchangeV10NormalLiabilities_total hn hd hamount hmax
    exact ⟨⟨selling, buying⟩, bind_eq_ok.mpr ⟨_, heq, rfl⟩, hselling, hbuying⟩
  | buy =>
    obtain ⟨selling, buying, heq, hselling, hbuying⟩ :=
      exchangeV10NormalLiabilities_total hd hn hmax hamount
    exact ⟨⟨selling, buying⟩, bind_eq_ok.mpr ⟨_, heq, rfl⟩, hselling, hbuying⟩

/-- An offer has liabilities only at a positive price, so they are not negative. -/
theorem offerLiabilities_nonneg {liabilities : OfferLiabilities}
    (h : offerLiabilities side amount price = .ok liabilities) :
    0 ≤ liabilities.selling.val ∧ 0 ≤ liabilities.buying.val := by
  have hinputs : 0 ≤ amount.val ∧ 0 < price.n.val ∧ 0 < price.d.val := by
    cases side <;>
    · obtain ⟨_, hexchange, -⟩ := bind_eq_ok.mp h
      obtain ⟨hvalid, -⟩ := ensure_bind_eq_ok.mp hexchange
      omega
  obtain ⟨same, hsame, hnonneg⟩ :
      ∃ same, offerLiabilities side amount price = .ok same ∧ _ :=
    offerLiabilities_total hinputs.1 hinputs.2.1 hinputs.2.2
  obtain rfl := Except.ok.inj (hsame.symm.trans h)
  exact hnonneg

end Fresnica
