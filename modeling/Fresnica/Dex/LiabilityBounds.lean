import Fresnica.Dex.Liabilities
import Mathlib.Data.Rat.Floor
import Mathlib.Tactic.FieldSimp

/-!
# What the liabilities of an offer promise

The liabilities are what the ledger exchanges when the offer meets a counterpart without
a limit of its own. The offer is then the side that runs out, so the amount of the
dearer asset is rounded down first, and the offer gives away less than one unit of it.

## Main definitions

* `exchangeV10` — what two offers exchange, over all integers
* `exchanged` — the amounts of an offer that runs out
* `exchangeInputs` — how the side of an offer orders its price and its limits
* `FaithfulLiabilities` — the promises that liabilities keep to their offer

## Main results

* `exchangedAmounts_eq_exchangeV10` — the computation is the exchange of the ledger
* `offerLiabilities_faithful` — an offer has liabilities, they keep the promises, and
  grow with its amount
-/

namespace Fresnica

open Foundation

/-- The limit of a counterpart without a limit of its own. -/
def unlimited : I64 := .lit 9223372036854775807

/-- What an offer of wheat and a counterpart exchange at the price `n / d`, each within
its own limits. The side that stays is the one of the larger value; the dearer asset is
rounded down, and the other one in favour of the side that stays. -/
def exchangeV10 (n d maxWheatSend maxWheatReceive maxSheepSend maxSheepReceive : ℤ) : ℤ × ℤ :=
  let wheatValue := min (maxWheatSend * n) (maxSheepReceive * d)
  let sheepValue := min (maxSheepSend * d) (maxWheatReceive * n)
  if wheatValue > sheepValue then
    if n > d then
      let wheatReceive := ⌊(sheepValue : ℚ) / n⌋
      (wheatReceive, ⌈((wheatReceive * n : ℤ) : ℚ) / d⌉)
    else
      let sheepSend := ⌊(sheepValue : ℚ) / d⌋
      (⌊((sheepSend * d : ℤ) : ℚ) / n⌋, sheepSend)
  else if n > d then
    let wheatReceive := ⌊(wheatValue : ℚ) / n⌋
    (wheatReceive, ⌊((wheatReceive * n : ℤ) : ℚ) / d⌋)
  else
    let sheepSend := ⌊(wheatValue : ℚ) / d⌋
    (⌈((sheepSend * d : ℤ) : ℚ) / n⌉, sheepSend)

/-! ### Rounding -/

variable {a b n d value : ℤ}

theorem floor_intCast_div (hb : 0 < b) : ⌊(a : ℚ) / b⌋ = a / b := by
  have hbQ : (0 : ℚ) < b := by exact_mod_cast hb
  rw [Int.floor_eq_iff, le_div_iff₀ hbQ, div_lt_iff₀ hbQ]
  constructor
  · exact_mod_cast Int.ediv_mul_le a hb.ne'
  · exact_mod_cast Int.lt_ediv_add_one_mul_self a hb

theorem ceil_intCast_div (hb : 0 < b) : ⌈(a : ℚ) / b⌉ = (a + (b - 1)) / b := by
  have hbQ : (0 : ℚ) < b := by exact_mod_cast hb
  have hle := Int.ediv_mul_le (a + (b - 1)) hb.ne'
  have hlt := Int.lt_ediv_add_one_mul_self (a + (b - 1)) hb
  rw [add_mul, one_mul] at hlt
  rw [Int.ceil_eq_iff, lt_div_iff₀ hbQ, div_le_iff₀ hbQ]
  constructor
  · have hbelow : ((a + (b - 1)) / b - 1) * b < a := by
      rw [sub_mul, one_mul]
      omega
    exact_mod_cast hbelow
  · have habove : a ≤ (a + (b - 1)) / b * b := by omega
    exact_mod_cast habove

/-- The computation is the exchange of the ledger, for values that fit. -/
theorem exchangedAmounts_eq_exchangeV10 {maxWheatSend maxWheatReceive maxSheepSend
    maxSheepReceive : ℤ} (hn : 0 < n ∧ n ≤ 2147483647) (hd : 0 < d ∧ d ≤ 2147483647)
    (hwheat : 0 ≤ min (maxWheatSend * n) (maxSheepReceive * d))
    (hsheep : 0 ≤ min (maxSheepSend * d) (maxWheatReceive * n))
    (hn_le : min (maxSheepSend * d) (maxWheatReceive * n) ≤ 9223372036854775807 * n)
    (hd_le : min (maxSheepSend * d) (maxWheatReceive * n) ≤ 9223372036854775807 * d) :
    exchangedAmounts n d (min (maxWheatSend * n) (maxSheepReceive * d))
        (min (maxSheepSend * d) (maxWheatReceive * n)) =
      .ok (exchangeV10 n d maxWheatSend maxWheatReceive maxSheepSend maxSheepReceive) := by
  unfold exchangedAmounts exchangeV10
  generalize min (maxWheatSend * n) (maxSheepReceive * d) = wheatValue at *
  generalize min (maxSheepSend * d) (maxWheatReceive * n) = sheepValue at *
  simp only [floor_intCast_div hn.1, floor_intCast_div hd.1, ceil_intCast_div hn.1,
    ceil_intCast_div hd.1]
  -- the side with the larger value stays in the book
  by_cases hstays : wheatValue > sheepValue
  · obtain ⟨-, hback, -, -⟩ := exchange_bounds hn.1 hd.1 hsheep hn_le hd_le
    rw [if_pos hstays, if_pos hstays]
    by_cases hdear : n > d
    · rw [if_pos hdear, if_pos hdear, ceilDiv_eq_ok hback.1 hd.1 (by omega)]
      rfl
    · rw [if_neg hdear, if_neg hdear]
  · rw [if_neg hstays, if_neg hstays]
    rw [not_lt] at hstays
    obtain ⟨-, hback, -, -⟩ := exchange_bounds hd.1 hn.1 hwheat (hstays.trans hd_le)
      (hstays.trans hn_le)
    by_cases hdear : n > d
    · rw [if_pos hdear, if_pos hdear]
    · rw [if_neg hdear, if_neg hdear, ceilDiv_eq_ok hback.1 hn.1 (by omega)]
      rfl

/-! ### An offer that runs out -/

/-- What is sold and bought for a value that runs out. -/
def exchanged (n d value : ℤ) : ℤ × ℤ :=
  if n > d then (value / n, value / n * n / d)
  else ((value / d * d + (n - 1)) / n, value / d)

/-- The offer gives away less than one unit of the dearer asset. -/
theorem exchanged_rounding (value : ℤ) (hn : 0 < n) (hd : 0 < d) :
    0 ≤ (exchanged n d value).1 * n - (exchanged n d value).2 * d ∧
      (exchanged n d value).1 * n - (exchanged n d value).2 * d < min n d := by
  unfold exchanged
  by_cases hdear : n > d
  · have hle := Int.ediv_mul_le (value / n * n) hd.ne'
    have hlt := Int.lt_ediv_add_one_mul_self (value / n * n) hd
    rw [add_mul, one_mul] at hlt
    simp only [if_pos hdear, min_eq_right hdear.le]
    constructor <;> omega
  · have hle := Int.ediv_mul_le (value / d * d + (n - 1)) hn.ne'
    have hlt := Int.lt_ediv_add_one_mul_self (value / d * d + (n - 1)) hn
    rw [add_mul, one_mul] at hlt
    simp only [if_neg hdear, min_eq_left (not_lt.mp hdear)]
    constructor <;> omega

/-- A value that two limits bound never takes the amounts over them. -/
theorem exchanged_le {sellLimit buyLimit : ℤ} (hn : 0 < n) (hd : 0 < d)
    (hsell : value ≤ sellLimit * n) (hbuy : value ≤ buyLimit * d) :
    (exchanged n d value).1 ≤ sellLimit ∧ (exchanged n d value).2 ≤ buyLimit := by
  unfold exchanged
  by_cases hdear : n > d
  · rw [if_pos hdear]
    constructor
    · exact Int.ediv_le_of_le_mul hn hsell
    · exact Int.ediv_le_of_le_mul hd ((Int.ediv_mul_le value hn.ne').trans hbuy)
  · rw [if_neg hdear]
    constructor
    · exact ceilDiv_le hn ((Int.ediv_mul_le value hd.ne').trans hsell)
    · exact Int.ediv_le_of_le_mul hd hbuy

/-- A larger value exchanges no less of either asset. -/
theorem exchanged_mono {larger : ℤ} (hn : 0 < n) (hd : 0 < d) (hle : value ≤ larger) :
    (exchanged n d value).1 ≤ (exchanged n d larger).1 ∧
      (exchanged n d value).2 ≤ (exchanged n d larger).2 := by
  unfold exchanged
  by_cases hdear : n > d
  · have hwheat : value / n ≤ larger / n := Int.ediv_le_ediv hn hle
    rw [if_pos hdear, if_pos hdear]
    refine ⟨hwheat, ?_⟩
    apply Int.ediv_le_ediv hd
    exact mul_le_mul_of_nonneg_right hwheat hn.le
  · have hsheep : value / d ≤ larger / d := Int.ediv_le_ediv hd hle
    rw [if_neg hdear, if_neg hdear]
    refine ⟨?_, hsheep⟩
    apply Int.ediv_le_ediv hn
    apply add_le_add_left
    exact mul_le_mul_of_nonneg_right hsheep hd.le

theorem exchanged_nonneg (hn : 0 < n) (hd : 0 < d) (hvalue : 0 ≤ value) :
    0 ≤ (exchanged n d value).1 ∧ 0 ≤ (exchanged n d value).2 := by
  have hzero : exchanged n d 0 = (0, 0) := by
    unfold exchanged
    split_ifs
    · simp
    · have hrest : (n - 1) / n = 0 := Int.ediv_eq_zero_of_lt (by omega) (by omega)
      simp [hrest]
  have hmono := exchanged_mono hn hd hvalue
  rwa [hzero] at hmono

/-- Where the offer runs out, what it exchanges depends on its own value only. -/
theorem exchangeV10_of_le {maxWheatSend maxWheatReceive maxSheepSend maxSheepReceive : ℤ}
    (hn : 0 < n) (hd : 0 < d) (hle : min (maxWheatSend * n) (maxSheepReceive * d) ≤
      min (maxSheepSend * d) (maxWheatReceive * n)) :
    exchangeV10 n d maxWheatSend maxWheatReceive maxSheepSend maxSheepReceive =
      exchanged n d (min (maxWheatSend * n) (maxSheepReceive * d)) := by
  unfold exchangeV10 exchanged
  simp only [floor_intCast_div hn, floor_intCast_div hd, ceil_intCast_div hn,
    if_neg (not_lt.mpr hle)]

/-! ### The liabilities of an offer -/

/-- The price of the side, and the limits of what is sent and received. -/
structure ExchangeInputs where
  priceN : I32
  priceD : I32
  maxWheatSend : I64
  maxSheepReceive : I64

def exchangeInputs (side : OfferSide) (amount : I64) (price : Price) : ExchangeInputs :=
  match side with
  | .sell => ⟨price.n, price.d, amount, unlimited⟩
  | .buy => ⟨price.d, price.n, unlimited, amount⟩

namespace ExchangeInputs

variable (i : ExchangeInputs)

/-- The value of the offer, which its counterpart compares with its own. -/
def wheatValue : ℤ :=
  min (i.maxWheatSend.val * i.priceN.val) (i.maxSheepReceive.val * i.priceD.val)

def sheepValue : ℤ := min (unlimited.val * i.priceD.val) (unlimited.val * i.priceN.val)

/-- The offer never stays: its counterpart has no limit of its own. -/
theorem wheatValue_le (hn : 0 < i.priceN.val) (hd : 0 < i.priceD.val) :
    i.wheatValue ≤ i.sheepValue := by
  have hsend : i.maxWheatSend.val * i.priceN.val ≤ unlimited.val * i.priceN.val :=
    mul_le_mul_of_nonneg_right i.maxWheatSend.le_hi hn.le
  have hreceive : i.maxSheepReceive.val * i.priceD.val ≤ unlimited.val * i.priceD.val :=
    mul_le_mul_of_nonneg_right i.maxSheepReceive.le_hi hd.le
  apply le_min
  · exact (min_le_right _ _).trans hreceive
  · exact (min_le_left _ _).trans hsend

theorem wheatValue_nonneg (hn : 0 < i.priceN.val) (hd : 0 < i.priceD.val)
    (hsend : 0 ≤ i.maxWheatSend.val) (hreceive : 0 ≤ i.maxSheepReceive.val) :
    0 ≤ i.wheatValue :=
  le_min (Int.mul_nonneg hsend hn.le) (Int.mul_nonneg hreceive hd.le)

/-- What the offer exchanges with a counterpart without limits. -/
theorem exchangeV10_eq (hn : 0 < i.priceN.val) (hd : 0 < i.priceD.val) :
    exchangeV10 i.priceN.val i.priceD.val i.maxWheatSend.val unlimited.val unlimited.val
      i.maxSheepReceive.val = exchanged i.priceN.val i.priceD.val i.wheatValue :=
  exchangeV10_of_le hn hd (i.wheatValue_le hn hd)

/-- The computation succeeds with what the offer exchanges. -/
theorem exchangeV10NormalLiabilities_eq (hn : 0 < i.priceN.val) (hd : 0 < i.priceD.val)
    (hsend : 0 ≤ i.maxWheatSend.val) (hreceive : 0 ≤ i.maxSheepReceive.val) :
    ∃ selling buying, exchangeV10NormalLiabilities i.priceN i.priceD i.maxWheatSend
        i.maxSheepReceive = .ok (selling, buying) ∧
      (selling.val, buying.val) = exchanged i.priceN.val i.priceD.val i.wheatValue := by
  have hvalue := i.wheatValue_nonneg hn hd hsend hreceive
  have hamounts := exchangedAmounts_eq_exchangeV10 ⟨hn, i.priceN.le_hi⟩ ⟨hd, i.priceD.le_hi⟩
    hvalue (hvalue.trans (i.wheatValue_le hn hd)) (min_le_right _ _) (min_le_left _ _)
  have heq := i.exchangeV10_eq hn hd
  -- both amounts are within the two maxima, so that the conversions succeed
  have hbounds : (exchanged i.priceN.val i.priceD.val i.wheatValue).1 ≤ i.maxWheatSend.val ∧
      (exchanged i.priceN.val i.priceD.val i.wheatValue).2 ≤ i.maxSheepReceive.val :=
    exchanged_le hn hd (min_le_left _ _) (min_le_right _ _)
  have hnonneg := exchanged_nonneg hn hd hvalue
  rw [heq] at hamounts
  generalize exchanged i.priceN.val i.priceD.val i.wheatValue = amounts at *
  have hsend_le := i.maxWheatSend.le_hi
  have hreceive_le := i.maxSheepReceive.le_hi
  obtain ⟨selling, hselling, hsold⟩ : ∃ selling : I64,
      BoundedInt.ofInt? amounts.1 = some selling ∧ selling.val = amounts.1 :=
    BoundedInt.exists_ofInt? (by omega)
  obtain ⟨buying, hbuying, hbought⟩ : ∃ buying : I64,
      BoundedInt.ofInt? amounts.2 = some buying ∧ buying.val = amounts.2 :=
    BoundedInt.exists_ofInt? (by omega)
  refine ⟨selling, buying, ?_, by rw [hsold, hbought]⟩
  apply ensure_bind_eq_ok.mpr
  refine ⟨by omega, bind_eq_ok.mpr ⟨_, hamounts, ?_⟩⟩
  apply bind_eq_ok.mpr
  exact ⟨_, okOr_eq_ok.mpr hselling, bind_eq_ok.mpr ⟨_, okOr_eq_ok.mpr hbuying, rfl⟩⟩

/-- The products that are computed on 128 bits. -/
def products (liabilities : OfferLiabilities) : List ℤ :=
  [i.maxWheatSend.val * i.priceN.val, i.maxSheepReceive.val * i.priceD.val,
    unlimited.val * i.priceD.val, unlimited.val * i.priceN.val,
    liabilities.selling.val * i.priceN.val, liabilities.buying.val * i.priceD.val]

/-- A product of a stroop amount and a price part has 128 bits. -/
theorem isSome_product (amount : I64) (part : I32) :
    (BoundedInt.ofInt? (amount.val * part.val) : Option I128).isSome := by
  have hsize : |amount.val * part.val| ≤ 9223372036854775808 * 2147483648 := by
    rw [abs_mul]
    apply mul_le_mul _ _ (abs_nonneg _) (by decide)
    · exact abs_le.mpr ⟨amount.lo_le, amount.le_hi.trans (by decide)⟩
    · exact abs_le.mpr ⟨part.lo_le, part.le_hi.trans (by decide)⟩
  obtain ⟨product, hproduct, -⟩ : ∃ product : I128,
      BoundedInt.ofInt? (amount.val * part.val) = some product ∧ _ := by
    apply BoundedInt.exists_ofInt?
    rw [abs_le] at hsize
    omega
  rw [hproduct]
  rfl

theorem isSome_products (liabilities : OfferLiabilities) :
    ∀ product ∈ i.products liabilities, (BoundedInt.ofInt? product : Option I128).isSome := by
  intro product hmem
  simp only [products, List.mem_cons, List.not_mem_nil, or_false] at hmem
  rcases hmem with h | h | h | h | h | h <;> rw [h] <;> exact isSome_product _ _

end ExchangeInputs

/-- The amount in the asset that the offer is stated in. -/
def OfferLiabilities.own (liabilities : OfferLiabilities) : OfferSide → I64
  | .sell => liabilities.selling
  | .buy => liabilities.buying

/-- What liabilities owe to their offer. -/
structure FaithfulLiabilities (side : OfferSide) (amount : I64) (price : Price)
    (liabilities : OfferLiabilities) : Prop where
  own_le : (liabilities.own side).val ≤ amount.val
  rounding : 0 ≤ liabilities.selling.val * (exchangeInputs side amount price).priceN.val -
      liabilities.buying.val * (exchangeInputs side amount price).priceD.val ∧
    liabilities.selling.val * (exchangeInputs side amount price).priceN.val -
        liabilities.buying.val * (exchangeInputs side amount price).priceD.val <
      min price.n.val price.d.val
  not_stays : ¬ (exchangeInputs side amount price).wheatValue >
    (exchangeInputs side amount price).sheepValue
  exchange : (liabilities.selling.val, liabilities.buying.val) =
    exchangeV10 (exchangeInputs side amount price).priceN.val
      (exchangeInputs side amount price).priceD.val
      (exchangeInputs side amount price).maxWheatSend.val unlimited.val unlimited.val
      (exchangeInputs side amount price).maxSheepReceive.val
  products : ∀ product ∈ (exchangeInputs side amount price).products liabilities,
    (BoundedInt.ofInt? product : Option I128).isSome

variable {amount larger : I64} {price : Price}

theorem exchangeInputs_pos (side : OfferSide) (hamount : 0 ≤ amount.val) (hn : 0 < price.n.val)
    (hd : 0 < price.d.val) :
    (0 < (exchangeInputs side amount price).priceN.val ∧
      0 < (exchangeInputs side amount price).priceD.val) ∧
    0 ≤ (exchangeInputs side amount price).maxWheatSend.val ∧
      0 ≤ (exchangeInputs side amount price).maxSheepReceive.val := by
  have hmax : 0 ≤ unlimited.val := by decide
  cases side with
  | sell => exact ⟨⟨hn, hd⟩, hamount, hmax⟩
  | buy => exact ⟨⟨hd, hn⟩, hmax, hamount⟩

/-- The liabilities are what the offer exchanges. -/
theorem offerLiabilities_eq (side : OfferSide) (hamount : 0 ≤ amount.val) (hn : 0 < price.n.val)
    (hd : 0 < price.d.val) :
    ∃ liabilities, offerLiabilities side amount price = .ok liabilities ∧
      (liabilities.selling.val, liabilities.buying.val) =
        exchanged (exchangeInputs side amount price).priceN.val
          (exchangeInputs side amount price).priceD.val
          (exchangeInputs side amount price).wheatValue := by
  have hinputs := exchangeInputs_pos side hamount hn hd
  obtain ⟨selling, buying, hok, heq⟩ :=
    (exchangeInputs side amount price).exchangeV10NormalLiabilities_eq hinputs.1.1 hinputs.1.2
      hinputs.2.1 hinputs.2.2
  refine ⟨⟨selling, buying⟩, ?_, heq⟩
  cases side with
  | sell => exact bind_eq_ok.mpr ⟨_, hok, rfl⟩
  | buy => exact bind_eq_ok.mpr ⟨_, hok, rfl⟩

/-- What the offer exchanges keeps the promises. -/
theorem faithful_of_exchanged {side : OfferSide} (hamount : 0 ≤ amount.val) (hn : 0 < price.n.val)
    (hd : 0 < price.d.val) {liabilities : OfferLiabilities}
    (heq : (liabilities.selling.val, liabilities.buying.val) =
      exchanged (exchangeInputs side amount price).priceN.val
        (exchangeInputs side amount price).priceD.val
        (exchangeInputs side amount price).wheatValue) :
    FaithfulLiabilities side amount price liabilities := by
  have hinputs := exchangeInputs_pos side hamount hn hd
  have hle : (exchanged _ _ (exchangeInputs side amount price).wheatValue).1 ≤ _ ∧
      (exchanged _ _ (exchangeInputs side amount price).wheatValue).2 ≤ _ :=
    exchanged_le hinputs.1.1 hinputs.1.2 (min_le_left _ _) (min_le_right _ _)
  have hrounding := exchanged_rounding (exchangeInputs side amount price).wheatValue hinputs.1.1
    hinputs.1.2
  rw [← heq] at hle hrounding
  refine ⟨?_, ⟨hrounding.1, hrounding.2.trans_eq ?_⟩, ?_, ?_, ?_⟩
  · cases side with
    | sell => exact hle.1
    | buy => exact hle.2
  · cases side with
    | sell => rfl
    | buy => exact min_comm _ _
  · exact not_lt.mpr ((exchangeInputs side amount price).wheatValue_le hinputs.1.1 hinputs.1.2)
  · rw [(exchangeInputs side amount price).exchangeV10_eq hinputs.1.1 hinputs.1.2]
    exact heq
  · exact (exchangeInputs side amount price).isSome_products liabilities

/-- A larger amount has no smaller a value. -/
theorem wheatValue_mono (side : OfferSide) (hn : 0 < price.n.val) (hle : amount.val ≤ larger.val) :
    (exchangeInputs side amount price).wheatValue ≤
      (exchangeInputs side larger price).wheatValue := by
  cases side with
  | sell => exact min_le_min_right _ (mul_le_mul_of_nonneg_right hle hn.le)
  | buy => exact min_le_min_left _ (mul_le_mul_of_nonneg_right hle hn.le)

/-- An offer of a positive price has liabilities. They are what the ledger exchanges, and
a larger offer has no smaller ones. -/
theorem offerLiabilities_faithful (side : OfferSide) (amount : I64) (price : Price)
    (hamount : 0 ≤ amount.val) (hn : 1 ≤ price.n.val) (hd : 1 ≤ price.d.val) :
    ∃ liabilities, offerLiabilities side amount price = .ok liabilities ∧
      FaithfulLiabilities side amount price liabilities ∧
      ∀ larger : I64, amount.val ≤ larger.val → ∃ others,
        offerLiabilities side larger price = .ok others ∧
          liabilities.selling.val ≤ others.selling.val ∧
          liabilities.buying.val ≤ others.buying.val := by
  obtain ⟨liabilities, hok, heq⟩ := offerLiabilities_eq side hamount hn hd
  refine ⟨liabilities, hok, faithful_of_exchanged hamount hn hd heq, ?_⟩
  intro larger hle
  obtain ⟨others, hothers, hsame⟩ := offerLiabilities_eq side (hamount.trans hle) hn hd
  have hinputs := exchangeInputs_pos side hamount hn hd
  have hmono := exchanged_mono hinputs.1.1 hinputs.1.2 (wheatValue_mono side hn hle)
  refine ⟨others, hothers, ?_⟩
  -- the price of the side does not depend on the amount
  have hprice : (exchangeInputs side larger price).priceN =
        (exchangeInputs side amount price).priceN ∧
      (exchangeInputs side larger price).priceD = (exchangeInputs side amount price).priceD := by
    cases side <;> exact ⟨rfl, rfl⟩
  rw [hprice.1, hprice.2] at hsame
  rw [← heq, ← hsame] at hmono
  exact hmono

/-- An offer at the limits, at the price of one unit for a third. -/
theorem offerLiabilities_faithful_thirds :
    ((0 : ℤ) ≤ unlimited.val ∧ (1 : ℤ) ≤ (.lit 1 : I32).val ∧ (1 : ℤ) ≤ (.lit 3 : I32).val) ∧
      ∃ liabilities, offerLiabilities .buy unlimited ⟨.lit 1, .lit 3⟩ = .ok liabilities ∧
        FaithfulLiabilities .buy unlimited ⟨.lit 1, .lit 3⟩ liabilities ∧
        ∀ larger : I64, unlimited.val ≤ larger.val → ∃ others,
          offerLiabilities .buy larger ⟨.lit 1, .lit 3⟩ = .ok others ∧
            liabilities.selling.val ≤ others.selling.val ∧
            liabilities.buying.val ≤ others.buying.val :=
  ⟨by decide, offerLiabilities_faithful .buy unlimited ⟨.lit 1, .lit 3⟩ (by decide) (by decide)
    (by decide)⟩

end Fresnica
