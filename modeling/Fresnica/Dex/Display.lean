import Fresnica.Horizon
import Fresnica.Transaction.StroopCodec
import Mathlib.Algebra.Order.Field.Basic
import Mathlib.Algebra.Order.Field.Rat

/-!
# Prices and amounts on display

A ratio is shown as a decimal with seven places, rounded to the nearest. A positive
ratio that would be rounded to zero has a marker of its own. The price of a level and
the price of a trade use it; the amount of a bid, and the total of an offer, are rounded
without a look at the marker, so a small one is shown as zero.

## Main definitions

* `roundRatio`, `formatScaled7`, `formatPriceRatio`, `formatPriceProduct`
* `orderBookBid`, `orderBookAsk`, `tradePriceParts`
* `IsNearest` — what rounding promises
* `ShowsPositive` — what the text of a positive number owes to it
* `ShownHonestly` — so do all the texts of one amount and one price

## Main results

* `roundRatio_isNearest` — rounding keeps its promise
* `shownHonestly_iff` — the texts are honest iff neither the bid nor the total is less
  than half a stroop
-/

namespace Fresnica

open Foundation

def i128Max : ℤ := 170141183460469231731687303715884105727

def belowPrecision : String := "<0.0000001"

/-! ### Rounding and printing -/

/-- The nearest integer to a ratio that is not negative, and the larger one of two. -/
def roundRatio (numerator denominator : ℤ) : Except String ℤ := do
  ensure (¬ (numerator < 0 ∨ denominator ≤ 0)) "invalid non-negative decimal ratio"
  let quotient := numerator / denominator
  let remainder := numerator % denominator
  -- the doubled remainder is clamped to 128 bits
  return if min (remainder * 2) i128Max ≥ denominator then quotient + 1 else quotient

/-- An integer with zeros up to a width, which counts the sign. -/
def zeroPadded (width : ℕ) (value : ℤ) : List Char :=
  let sign := if value < 0 then ['-'] else []
  let digits := Nat.toDigits 10 value.natAbs
  sign ++ List.replicate (width - sign.length - digits.length) '0' ++ digits

def formatScaled7 (value : ℤ) : String :=
  let scale := stroopsPerXlm.val
  let whole := value.tdiv scale
  let fraction := value.tmod scale
  s!"{whole}.{String.ofList (zeroPadded 7 fraction)}"

def formatPriceRatio (n d : I32) : Except String String := do
  let numerator : I128 ← okOr (BoundedInt.ofInt? (n.val * stroopsPerXlm.val))
    "price display overflow"
  let doubled : I128 ← okOr (BoundedInt.ofInt? (numerator.val * 2)) "price display overflow"
  if doubled.val < d.val then return belowPrecision
  else
    let rounded ← roundRatio numerator.val d.val
    return formatScaled7 rounded

/-- The total of an offer, in stroops of the other asset. -/
def formatPriceProduct (amount : I64) (price : Price) : Except String String := do
  let numerator : I128 ← okOr (BoundedInt.ofInt? (amount.val * price.n.val)) "offer total overflow"
  let rounded ← roundRatio numerator.val price.d.val
  let stroops ← okOr (BoundedInt.ofInt? rounded) "offer total overflow"
  return formatStroops stroops

/-! ### The levels of an order book -/

structure OrderBookLevel where
  amount : String
  price : String
  priceN : I32
  priceD : I32
  deriving DecidableEq, Repr

/-- A positive part of a price ratio. -/
def pricePart (ratio : List (String × Json)) (key : String) : Option I32 :=
  (integer (ratio.lookup key) >>= BoundedInt.tryFrom).filter fun value => value.val > 0

def horizonPrice (offer : Json) : Except String Price := do
  let ratio ← okOr (offer.get? "price_r" >>= Json.asObject?)
    "Horizon returned malformed offer price ratio"
  let n ← okOr (pricePart ratio "n") "Horizon returned invalid offer price numerator"
  let d ← okOr (pricePart ratio "d") "Horizon returned invalid offer price denominator"
  return ⟨n, d⟩

def levelAmount (value : Json) : Except String I64 :=
  okOr (parseStroops ((text value "amount").getD "") true)
    "Horizon returned invalid order book amount"

/-- A bid is stated in the counter asset, and shown in the base asset. -/
def orderBookBid (value : Json) : Except String OrderBookLevel := do
  let amount ← levelAmount value
  let price ← horizonPrice value
  let numerator : I128 ← okOr (BoundedInt.ofInt? (amount.val * price.d.val))
    "order book bid amount overflow"
  let baseStroops ← roundRatio numerator.val price.n.val
  let shownPrice ← formatPriceRatio price.n price.d
  return {
    amount := formatScaled7 baseStroops
    price := shownPrice
    priceN := price.n
    priceD := price.d }

def orderBookAsk (value : Json) : Except String OrderBookLevel := do
  let amount ← levelAmount value
  let price ← horizonPrice value
  let shownPrice ← formatPriceRatio price.n price.d
  return {
    amount := formatScaled7 amount.val
    price := shownPrice
    priceN := price.n
    priceD := price.d }

/-! ### The price of a trade -/

def parseTradeAmount (raw : Json) (key : String) : Except String I64 := do
  let value ← okOr (text raw key) s!"Invalid Horizon trade record: {key}"
  okOr (parseStroops value false) s!"Invalid Horizon trade record amount: {value}"

/-- The price ratio of a trade, if both parts can be read and are positive. -/
def tradeRatio (raw : Json) : Option Price := do
  let price ← raw.get? "price" >>= Json.asObject?
  let n : I32 ← integer (price.lookup "n") >>= BoundedInt.tryFrom
  let d : I32 ← integer (price.lookup "d") >>= BoundedInt.tryFrom
  guard (n.val > 0 ∧ d.val > 0)
  return ⟨n, d⟩

/-- The price of a trade, from its ratio or else from its amounts. -/
def tradePriceParts (raw : Json) : Except String (String × Option I32 × Option I32) :=
  match tradeRatio raw with
  | some price => do
    let shownPrice ← formatPriceRatio price.n price.d
    return (shownPrice, some price.n, some price.d)
  | none => do
    let base ← parseTradeAmount raw "base_amount"
    let counter ← parseTradeAmount raw "counter_amount"
    ensure (¬ base.val ≤ 0) "Horizon returned invalid zero trade base amount"
    let numerator : I128 ← okOr (BoundedInt.ofInt? (counter.val * stroopsPerXlm.val))
      "trade price overflow"
    let doubled : I128 ← okOr (BoundedInt.ofInt? (numerator.val * 2)) "trade price overflow"
    -- a price below half a unit of the last place would be shown as zero
    if doubled.val < base.val then return (belowPrecision, none, none)
    else
      let rounded ← roundRatio numerator.val base.val
      return (formatScaled7 rounded, none, none)

/-! ### What rounding promises -/

/-- The nearest integer to a ratio that is not negative: it is zero only for a ratio under
one half. -/
structure IsNearest (rounded numerator denominator : ℤ) : Prop where
  nonneg : 0 ≤ rounded
  near : 2 * |rounded * denominator - numerator| ≤ denominator
  zero_iff : rounded = 0 ↔ 2 * numerator < denominator

variable {numerator denominator rounded : ℤ} {exact : ℚ}

theorem isNearest_one (h : 0 ≤ numerator) : IsNearest numerator numerator 1 where
  nonneg := h
  near := by simp
  zero_iff := by omega

/-- Rounding fails for no ratio of a positive denominator. -/
theorem roundRatio_isNearest (hnumerator : 0 ≤ numerator) (hdenominator : 0 < denominator)
    (hle : denominator ≤ i128Max) :
    ∃ rounded, roundRatio numerator denominator = .ok rounded ∧
      IsNearest rounded numerator denominator := by
  have hdivides := Int.mul_ediv_add_emod numerator denominator
  have hremainder := Int.emod_nonneg numerator hdenominator.ne'
  have hlt := Int.emod_lt_of_pos numerator hdenominator
  have hquotient : 0 ≤ numerator / denominator := Int.ediv_nonneg hnumerator hdenominator.le
  refine ⟨_, ensure_bind_eq_ok.mpr ⟨by omega, rfl⟩, ?_⟩
  rw [mul_comm] at hdivides
  -- the remainder is doubled with saturation, which does not change the comparison
  by_cases hup : min (numerator % denominator * 2) i128Max ≥ denominator
  · have hdoubled : denominator ≤ numerator % denominator * 2 := hup.trans (min_le_left _ _)
    rw [if_pos hup]
    refine ⟨by omega, ?_, ?_⟩
    · rw [add_mul, one_mul, abs_of_nonneg (by omega)]
      omega
    · constructor
      · omega
      · intro hsmall
        have hproduct := mul_nonneg hquotient hdenominator.le
        omega
  · have hdoubled : numerator % denominator * 2 < denominator := by
      by_contra hlarge
      exact hup (le_min (not_lt.mp hlarge) hle)
    rw [if_neg hup]
    refine ⟨hquotient, ?_, ?_⟩
    · rw [abs_of_nonpos (by omega)]
      omega
    · constructor
      · intro hzero
        rw [hzero, zero_mul] at hdivides
        omega
      · intro hsmall
        exact Int.ediv_eq_zero_of_lt hnumerator (by omega)

/-! ### What is printed -/

namespace AmountText

/-- A text denotes one number. -/
theorem decimal_congr {t u : AmountText} (h : t.chars = u.chars) : t.decimal = u.decimal := by
  have hsplit := splitPoint_chars t
  rw [h, splitPoint_chars, Option.some_inj, Prod.mk.injEq] at hsplit
  rw [decimal, decimal, hsplit.1, hsplit.2]

theorem decimal_eq_zero_iff {t : AmountText} : t.decimal = 0 ↔ t.stroops = 0 := by
  have hscale : (10 : ℚ) ^ 7 ≠ 0 := by norm_num
  rw [← mul_eq_zero_iff_right hscale, decimal_mul, Nat.cast_eq_zero]

/-- The marker is not the text of a number. -/
theorem chars_ne_belowPrecision (t : AmountText) : t.chars ≠ belowPrecision.toList := by
  intro h
  obtain ⟨c, rest, hchars, hdigit⟩ := t.exists_head
  rw [hchars, show belowPrecision.toList = '<' :: "0.0000001".toList from rfl] at h
  rw [(List.cons.inj h).1] at hdigit
  exact absurd hdigit (by decide)

end AmountText

theorem length_padded_mod (n : ℕ) : (padded (n % 10000000)).length = 7 :=
  length_padded (Nat.mod_lt n (by decide))

theorem length_padded_mod_le (n : ℕ) : (padded (n % 10000000)).length ≤ 7 :=
  Nat.le_of_eq (length_padded_mod n)

theorem wholePart_ne_nil (n : ℕ) : Nat.toDigits 10 (n / 10000000) ≠ [] := Nat.toDigits_ne_nil

theorem wholePart_digits (n : ℕ) : (Nat.toDigits 10 (n / 10000000)).all Char.isDigit = true :=
  Decimal.all_isDigit_toDigits

theorem padded_mod_digits (n : ℕ) : (padded (n % 10000000)).all Char.isDigit = true :=
  padded_digits

/-- The text of a number of stroops with all its places. -/
def scaled (n : ℕ) : AmountText where
  whole := Nat.toDigits 10 (n / 10000000)
  fraction := some (padded (n % 10000000))
  whole_ne := wholePart_ne_nil n
  whole_digits := wholePart_digits n
  fraction_digits := padded_mod_digits n
  places := length_padded_mod_le n

theorem stroops_scaled {n : ℕ} : (scaled n).stroops = n := by
  rw [AmountText.stroops, AmountText.fractionStroops]
  unfold scaled
  rw [Option.getD_some, length_padded_mod, Decimal.value_toDigits, value_padded, Nat.sub_self,
    pow_zero, mul_one]
  omega

theorem toList_formatScaled7 {value : ℤ} (h : 0 ≤ value) :
    (formatScaled7 value).toList = (scaled value.natAbs).chars := by
  obtain ⟨n, rfl⟩ := Int.eq_ofNat_of_zero_le h
  have hwhole : (n : ℤ).tdiv stroopsPerXlm.val = ((n / 10000000 : ℕ) : ℤ) := rfl
  have hfraction : (n : ℤ).tmod stroopsPerXlm.val = ((n % 10000000 : ℕ) : ℤ) := rfl
  have hpadded : ∀ m : ℕ, zeroPadded 7 m = padded m := by
    intro m
    rw [zeroPadded, if_neg (by omega)]
    rfl
  have hdigits : (toString ((n / 10000000 : ℕ) : ℤ)).toList = Nat.toDigits 10 (n / 10000000) := by
    rw [toList_toString_int, if_neg (by omega)]
    rfl
  have hplaces : ∀ places : List Char, (toString (String.ofList places)).toList = places :=
    fun _ => String.toList_ofList
  simp only [formatScaled7, hwhole, hfraction, hpadded, String.toList_append, hdigits, hplaces]
  show Nat.toDigits 10 (n / 10000000) ++ ['.'] ++ padded (n % 10000000) = _
  rw [List.append_assoc]
  rfl

/-! ### What a text owes to a positive number -/

/-- The text of a positive number never denotes zero. It is the marker exactly for a number
under half of a place, and otherwise denotes one within half of a place. -/
structure ShowsPositive (shown : String) (exact : ℚ) : Prop where
  nonzero : ∀ t : AmountText, t.chars = shown.toList → t.decimal ≠ 0
  marked : shown = belowPrecision ↔ exact < 1 / (2 * 10 ^ 7)
  near : shown ≠ belowPrecision →
    ∃ t : AmountText, t.chars = shown.toList ∧ |t.decimal - exact| ≤ 1 / (2 * 10 ^ 7)

/-- The marker is right for a number under half of a place. -/
theorem showsPositive_belowPrecision (h : exact < 1 / (2 * 10 ^ 7)) :
    ShowsPositive belowPrecision exact where
  nonzero t htext := absurd htext t.chars_ne_belowPrecision
  marked := iff_of_true rfl h
  near hne := absurd rfl hne

theorem lt_half_iff (hdenominator : 0 < denominator) :
    (numerator : ℚ) / denominator / 10 ^ 7 < 1 / (2 * 10 ^ 7) ↔ 2 * numerator < denominator := by
  have hdenominatorQ : (0 : ℚ) < denominator := by exact_mod_cast hdenominator
  rw [div_div, div_lt_div_iff₀ (by positivity) (by norm_num)]
  have hscale : (numerator : ℚ) * (2 * 10 ^ 7) < 1 * (denominator * 10 ^ 7) ↔
      (2 * numerator : ℚ) < denominator := by
    constructor <;> intro h <;> linarith
  rw [hscale]
  exact_mod_cast Iff.rfl

/-- The text of a rounded ratio is right iff the ratio is not under one half. -/
theorem showsPositive_iff {shown : String} (hdenominator : 0 < denominator)
    (hnearest : IsNearest rounded numerator denominator) (t : AmountText)
    (htext : t.chars = shown.toList) (hstroops : (t.stroops : ℤ) = rounded) :
    ShowsPositive shown ((numerator : ℚ) / denominator / 10 ^ 7) ↔ denominator ≤ 2 * numerator := by
  have hmarker : shown ≠ belowPrecision := by
    intro h
    exact t.chars_ne_belowPrecision (htext.trans (congrArg String.toList h))
  have hdenominatorQ : (0 : ℚ) < denominator := by exact_mod_cast hdenominator
  constructor
  · intro hshows
    by_contra hsmall
    exact hmarker (hshows.marked.mpr ((lt_half_iff hdenominator).mpr (not_le.mp hsmall)))
  · intro hle
    refine ⟨?_, ?_, fun _ => ⟨t, htext, ?_⟩⟩
    -- shown as zero, the value is rounded to zero
    · intro u hu hzero
      rw [AmountText.decimal_congr (hu.trans htext.symm), AmountText.decimal_eq_zero_iff] at hzero
      have hrounded := hnearest.zero_iff.mp (by omega)
      omega
    · rw [lt_half_iff hdenominator]
      exact iff_of_false hmarker (not_lt.mpr hle)
    -- the text is off by half a stroop at most
    · have hdecimal : t.decimal = (rounded : ℚ) / 10 ^ 7 := by
        rw [eq_div_iff (by norm_num), AmountText.decimal_mul, ← hstroops, Int.cast_natCast]
      have hnear : 2 * |(rounded : ℚ) * denominator - numerator| ≤ denominator := by
        exact_mod_cast hnearest.near
      have hdistance : (rounded : ℚ) / 10 ^ 7 - (numerator : ℚ) / denominator / 10 ^ 7 =
          ((rounded : ℚ) * denominator - numerator) / (denominator * 10 ^ 7) := by
        field_simp
      rw [hdecimal, hdistance, abs_div, abs_of_pos (mul_pos hdenominatorQ (by norm_num)),
        div_le_div_iff₀ (mul_pos hdenominatorQ (by norm_num)) (by norm_num)]
      linarith

/-- So is the decimal with all its places. -/
theorem showsPositive_formatScaled7 (hdenominator : 0 < denominator)
    (hnearest : IsNearest rounded numerator denominator) :
    ShowsPositive (formatScaled7 rounded) ((numerator : ℚ) / denominator / 10 ^ 7) ↔
      denominator ≤ 2 * numerator := by
  apply showsPositive_iff hdenominator hnearest (scaled rounded.natAbs)
  · exact (toList_formatScaled7 hnearest.nonneg).symm
  · rw [stroops_scaled]
    exact Int.natAbs_of_nonneg hnearest.nonneg

/-! ### The texts of an amount and a price -/

variable {amount : I64} {price : Price} {value raw : Json}

/-- A product of a stroop amount and a part of 32 bits has 128 bits, also when it is
doubled. -/
theorem exists_product {a b : ℤ} (ha : 0 < a ∧ a ≤ 9223372036854775807)
    (hb : 0 < b ∧ b ≤ 2147483647) :
    ∃ product doubled : I128, BoundedInt.ofInt? (a * b) = some product ∧
      BoundedInt.ofInt? (a * b * 2) = some doubled ∧ product.val = a * b ∧
      doubled.val = a * b * 2 ∧ 0 < a * b := by
  have hpos : 0 < a * b := mul_pos ha.1 hb.1
  have hle : a * b ≤ 9223372036854775807 * 2147483647 := mul_le_mul ha.2 hb.2 hb.1.le (by decide)
  obtain ⟨product, hproduct, hval⟩ : ∃ product : I128,
      BoundedInt.ofInt? (a * b) = some product ∧ product.val = a * b :=
    BoundedInt.exists_ofInt? (by omega)
  obtain ⟨doubled, hdoubled, htwice⟩ : ∃ doubled : I128,
      BoundedInt.ofInt? (a * b * 2) = some doubled ∧ doubled.val = a * b * 2 :=
    BoundedInt.exists_ofInt? (by omega)
  exact ⟨product, doubled, hproduct, hdoubled, hval, htwice, hpos⟩

/-- The scale of the places is a part of 32 bits. -/
theorem stroopsPerXlm_part : 0 < stroopsPerXlm.val ∧ stroopsPerXlm.val ≤ 2147483647 := by decide

/-- A ratio is shown honestly. -/
theorem formatPriceRatio_shows {n d : I32} (hn : 0 < n.val) (hd : 0 < d.val) :
    ∃ shown, formatPriceRatio n d = .ok shown ∧ ShowsPositive shown ((n.val : ℚ) / d.val) := by
  have hwide : 0 < n.val ∧ n.val ≤ 9223372036854775807 := ⟨hn, n.le_hi.trans (by decide)⟩
  obtain ⟨product, doubled, hproduct, hdoubled, hval, htwice, hpos⟩ :=
    exists_product hwide stroopsPerXlm_part
  -- the fraction is scaled to stroops and back
  have hratio : (n.val : ℚ) / d.val =
      ((n.val * stroopsPerXlm.val : ℤ) : ℚ) / d.val / 10 ^ 7 := by
    have hscale : ((n.val * stroopsPerXlm.val : ℤ) : ℚ) = n.val * 10 ^ 7 := by
      norm_num [stroopsPerXlm]
    rw [hscale]
    field_simp
  have hle : d.val ≤ i128Max := d.le_hi.trans (by decide)
  rw [hratio]
  simp only [formatPriceRatio, hproduct, okOr, ok_bind, hval, hdoubled, htwice]
  by_cases hsmall : n.val * stroopsPerXlm.val * 2 < d.val
  · refine ⟨belowPrecision, if_pos hsmall, showsPositive_belowPrecision ?_⟩
    rw [lt_half_iff hd]
    omega
  · obtain ⟨rounded, hrounded, hnearest⟩ := roundRatio_isNearest hpos.le hd hle
    refine ⟨formatScaled7 rounded, ?_, (showsPositive_formatScaled7 hd hnearest).mpr (by omega)⟩
    rw [if_neg hsmall, hrounded]
    rfl

/-- So is the price that the amounts of a trade imply. -/
theorem tradePriceParts_shows {base counter : I64} (hratio : tradeRatio raw = none)
    (hbase : parseTradeAmount raw "base_amount" = .ok base)
    (hcounter : parseTradeAmount raw "counter_amount" = .ok counter)
    (hbase_pos : 0 < base.val) (hcounter_pos : 0 < counter.val) :
    ∃ shown, tradePriceParts raw = .ok (shown, none, none) ∧
      ShowsPositive shown ((counter.val : ℚ) / base.val) := by
  obtain ⟨product, doubled, hproduct, hdoubled, hval, htwice, hpos⟩ :=
    exists_product ⟨hcounter_pos, counter.le_hi⟩ stroopsPerXlm_part
  have hexact : (counter.val : ℚ) / base.val =
      ((counter.val * stroopsPerXlm.val : ℤ) : ℚ) / base.val / 10 ^ 7 := by
    have hscale : ((counter.val * stroopsPerXlm.val : ℤ) : ℚ) = counter.val * 10 ^ 7 := by
      norm_num [stroopsPerXlm]
    rw [hscale]
    field_simp
  have hle : base.val ≤ i128Max := base.le_hi.trans (by decide)
  have hensure : ¬ base.val ≤ 0 := not_le.mpr hbase_pos
  rw [hexact]
  simp only [tradePriceParts, hratio, hbase, hcounter, ok_bind, ensure, if_pos hensure, hproduct,
    okOr, hval, hdoubled, htwice]
  by_cases hsmall : counter.val * stroopsPerXlm.val * 2 < base.val
  · refine ⟨belowPrecision, if_pos hsmall, showsPositive_belowPrecision ?_⟩
    rw [lt_half_iff hbase_pos]
    omega
  · obtain ⟨rounded, hrounded, hnearest⟩ := roundRatio_isNearest hpos.le hbase_pos hle
    refine ⟨formatScaled7 rounded, ?_,
      (showsPositive_formatScaled7 hbase_pos hnearest).mpr (by omega)⟩
    rw [if_neg hsmall, hrounded]
    rfl

theorem pricePart_pos {ratio : List (String × Json)} {key : String} {part : I32}
    (h : pricePart ratio key = some part) : 0 < part.val :=
  of_decide_eq_true (Option.filter_eq_some_iff.mp h).2

/-- The price of a row has positive parts. -/
theorem horizonPrice_pos (h : horizonPrice value = .ok price) :
    0 < price.n.val ∧ 0 < price.d.val := by
  obtain ⟨ratio, -, h⟩ := bind_eq_ok.mp h
  obtain ⟨n, hn, h⟩ := bind_eq_ok.mp h
  obtain ⟨d, hd, h⟩ := bind_eq_ok.mp h
  rw [← Except.ok.inj h]
  exact ⟨pricePart_pos (okOr_eq_ok.mp hn), pricePart_pos (okOr_eq_ok.mp hd)⟩

/-- An ask is shown honestly. -/
theorem orderBookAsk_shows (hamount : levelAmount value = .ok amount)
    (hpos : 0 < amount.val) (hprice : horizonPrice value = .ok price) :
    ∃ level, orderBookAsk value = .ok level ∧
      ShowsPositive level.amount (amount.val / 10 ^ 7) ∧
      ShowsPositive level.price ((price.n.val : ℚ) / price.d.val) := by
  obtain ⟨hn, hd⟩ := horizonPrice_pos hprice
  obtain ⟨shown, hshown, hshows⟩ := formatPriceRatio_shows hn hd
  refine ⟨⟨formatScaled7 amount.val, shown, price.n, price.d⟩, ?_, ?_, hshows⟩
  · rw [orderBookAsk, hamount, ok_bind, hprice, ok_bind, hshown]
    rfl
  · have hscaled := showsPositive_formatScaled7 one_pos (isNearest_one hpos.le)
    rw [Int.cast_one, div_one] at hscaled
    exact hscaled.mpr (by omega)

/-- A bid is shown with an honest price; its amount is honest iff it is not under half a
stroop. -/
theorem orderBookBid_shows (hamount : levelAmount value = .ok amount)
    (hpos : 0 < amount.val) (hprice : horizonPrice value = .ok price) :
    ∃ level, orderBookBid value = .ok level ∧
      (ShowsPositive level.amount
        (((amount.val * price.d.val : ℤ) : ℚ) / price.n.val / 10 ^ 7) ↔
          price.n.val ≤ 2 * (amount.val * price.d.val)) ∧
      ShowsPositive level.price ((price.n.val : ℚ) / price.d.val) := by
  obtain ⟨hn, hd⟩ := horizonPrice_pos hprice
  obtain ⟨shown, hshown, hshows⟩ := formatPriceRatio_shows hn hd
  obtain ⟨product, -, hproduct, -, hval, -, hproduct_pos⟩ :=
    exists_product ⟨hpos, amount.le_hi⟩ ⟨hd, price.d.le_hi⟩
  obtain ⟨rounded, hrounded, hnearest⟩ :=
    roundRatio_isNearest hproduct_pos.le hn (price.n.le_hi.trans (by decide))
  refine ⟨⟨formatScaled7 rounded, shown, price.n, price.d⟩, ?_,
    showsPositive_formatScaled7 hn hnearest, hshows⟩
  simp only [orderBookBid, hamount, ok_bind, hprice, hproduct, okOr, hval, hrounded, hshown]
  rfl

/-- A total is shown unless it overflows, and is honest iff it is not under half a
stroop. -/
theorem formatPriceProduct_shows (hpos : 0 < amount.val) (hn : 0 < price.n.val)
    (hd : 0 < price.d.val) :
    (formatPriceProduct amount price = .error "offer total overflow" ∧
        price.d.val ≤ 2 * (amount.val * price.n.val)) ∨
      ∃ shown, formatPriceProduct amount price = .ok shown ∧
        (ShowsPositive shown (((amount.val * price.n.val : ℤ) : ℚ) / price.d.val / 10 ^ 7) ↔
          price.d.val ≤ 2 * (amount.val * price.n.val)) := by
  obtain ⟨product, -, hproduct, -, hval, -, hproduct_pos⟩ :=
    exists_product ⟨hpos, amount.le_hi⟩ ⟨hn, price.n.le_hi⟩
  obtain ⟨rounded, hrounded, hnearest⟩ :=
    roundRatio_isNearest hproduct_pos.le hd (price.d.le_hi.trans (by decide))
  simp only [formatPriceProduct, hproduct, okOr, ok_bind, hval, hrounded]
  cases hstroops : (BoundedInt.ofInt? rounded : Option I64) with
  | none =>
    left
    refine ⟨rfl, ?_⟩
    -- what overflows is not rounded to zero
    by_contra hsmall
    have hzero := hnearest.zero_iff.mpr (not_le.mp hsmall)
    rw [BoundedInt.ofInt?_eq_none_iff, hzero] at hstroops
    omega
  | some stroops =>
    right
    have hsame := BoundedInt.ofInt?_eq_some_iff.mp hstroops
    have hnonneg : 0 ≤ stroops.val := hsame ▸ hnearest.nonneg
    refine ⟨formatStroops stroops, rfl, ?_⟩
    apply showsPositive_iff hd hnearest (printed stroops.val.natAbs)
    · exact (toList_formatStroops_of_nonneg hnonneg).symm
    · rw [stroops_printed, ← hsame]
      exact Int.natAbs_of_nonneg hnonneg

/-! ### Honest texts -/

/-- The texts of a row with an amount and a price, of an offer with them, and of any trade
that has no price, are honest. -/
structure ShownHonestly (value : Json) (amount : I64) (price : Price) : Prop where
  bid : ∃ level, orderBookBid value = .ok level ∧
    ShowsPositive level.amount (((amount.val * price.d.val : ℤ) : ℚ) / price.n.val / 10 ^ 7) ∧
    ShowsPositive level.price ((price.n.val : ℚ) / price.d.val)
  ask : ∃ level, orderBookAsk value = .ok level ∧
    ShowsPositive level.amount (amount.val / 10 ^ 7) ∧
    ShowsPositive level.price ((price.n.val : ℚ) / price.d.val)
  total : ∀ shown, formatPriceProduct amount price = .ok shown →
    ShowsPositive shown (((amount.val * price.n.val : ℤ) : ℚ) / price.d.val / 10 ^ 7)
  ratio : ∃ shown, formatPriceRatio price.n price.d = .ok shown ∧
    ShowsPositive shown ((price.n.val : ℚ) / price.d.val)
  trade : ∀ raw base counter, tradeRatio raw = none →
    parseTradeAmount raw "base_amount" = .ok base →
    parseTradeAmount raw "counter_amount" = .ok counter → 0 < base.val → 0 < counter.val →
    ∃ shown, tradePriceParts raw = .ok (shown, none, none) ∧
      ShowsPositive shown ((counter.val : ℚ) / base.val)

/-- The texts are honest exactly when neither the bid in the base asset nor the total of the
offer is under half a stroop. -/
theorem shownHonestly_iff (value : Json) (amount : I64) (price : Price)
    (hamount : levelAmount value = .ok amount) (hprice : horizonPrice value = .ok price) :
    ShownHonestly value amount price ↔
      price.n.val ≤ 2 * (amount.val * price.d.val) ∧
        price.d.val ≤ 2 * (amount.val * price.n.val) := by
  have hpos : 0 < amount.val := (parseStroops_positive.mp (okOr_eq_ok.mp hamount)).2
  obtain ⟨hn, hd⟩ := horizonPrice_pos hprice
  obtain ⟨level, hlevel, hbid, hlevelPrice⟩ := orderBookBid_shows hamount hpos hprice
  have htotal := formatPriceProduct_shows hpos hn hd
  constructor
  · intro hhonest
    constructor
    · obtain ⟨same, hsame, hshows, -⟩ := hhonest.bid
      rw [hlevel] at hsame
      rw [← Except.ok.inj hsame] at hshows
      exact hbid.mp hshows
    · rcases htotal with ⟨-, hle⟩ | ⟨shown, hshown, hiff⟩
      · exact hle
      · exact hiff.mp (hhonest.total shown hshown)
  · intro hlarge
    -- the bid and the total need the two bounds, the other members hold of every level
    exact
      { bid := ⟨level, hlevel, hbid.mpr hlarge.1, hlevelPrice⟩
        ask := orderBookAsk_shows hamount hpos hprice
        total := by
          intro shown hok
          rcases htotal with ⟨herror, -⟩ | ⟨same, hsame, hiff⟩
          · rw [herror] at hok
            exact absurd hok (by simp)
          · rw [hsame] at hok
            rw [← Except.ok.inj hok]
            exact hiff.mpr hlarge.2
        ratio := formatPriceRatio_shows hn hd
        trade := fun _ _ _ => tradePriceParts_shows }

/-- A row of one stroop at a price that is large for it. -/
def dustRow : Json := .object [("amount", .string "0.0000001"),
  ("price_r", .object [("d", .number (.posInt (.lit 1))), ("n", .number (.posInt (.lit 3)))])]

/-- Its bid of a third of a stroop would be shown as zero. -/
theorem shownHonestly_iff_dust :
    (levelAmount dustRow = .ok (.lit 1) ∧ horizonPrice dustRow = .ok ⟨.lit 3, .lit 1⟩) ∧
      (ShownHonestly dustRow (.lit 1) ⟨.lit 3, .lit 1⟩ ↔
        (3 : ℤ) ≤ 2 * (1 * 1) ∧ (1 : ℤ) ≤ 2 * (1 * 3)) :=
  ⟨by decide +kernel, shownHonestly_iff dustRow (.lit 1) ⟨.lit 3, .lit 1⟩ (by decide +kernel)
    (by decide +kernel)⟩

/-- The bid of a positive amount at a positive price denotes zero, and so does the total of
an offer at the inverse price. -/
theorem dust_shown_as_zero :
    (∃ level, orderBookBid dustRow = .ok level ∧ level.amount = "0.0000000") ∧
      formatPriceProduct (.lit 1) ⟨.lit 1, .lit 3⟩ = .ok "0" ∧
      ∃ (value : Json) (amount : I64) (price : Price), levelAmount value = .ok amount ∧
        horizonPrice value = .ok price ∧ ¬ ShownHonestly value amount price := by
  refine ⟨⟨⟨"0.0000000", "3.0000000", .lit 3, .lit 1⟩, by decide +kernel, rfl⟩,
    by decide +kernel, dustRow, .lit 1, ⟨.lit 3, .lit 1⟩, by decide +kernel, by decide +kernel, ?_⟩
  intro hhonest
  obtain ⟨level, hlevel, hshows, -⟩ := hhonest.bid
  have hok : orderBookBid dustRow = .ok ⟨"0.0000000", "3.0000000", .lit 3, .lit 1⟩ := by
    decide +kernel
  rw [hok] at hlevel
  rw [← Except.ok.inj hlevel] at hshows
  apply hshows.nonzero (scaled 0) rfl
  rw [AmountText.decimal_eq_zero_iff, stroops_scaled]

end Fresnica
