import Fresnica.Dex.PriceBest
import Fresnica.Transaction.StroopCodec
import Mathlib.RingTheory.Coprime.Lemmas

/-!
# What the price of an offer promises

The search never fails on a positive price. Its fraction is in lowest terms, is the
price itself where that has 32 bits, and otherwise is off by at most one part in the
largest integer of 32 bits. The review of an offer shows the price that was asked for
when it is not the encoded one.

## Main definitions

* `requestedPrice` — the price that was asked for, as a number
* `requestedPriceIfApproximated` — what the review shows of it
* `FaithfulPrice` — the promises that a fraction keeps to the price that was asked for

## Main results

* `stellarPrice_faithful` — every positive price is encoded, and the promises are kept
-/

namespace Fresnica

open Foundation

/-- The price that was asked for. -/
def requestedPrice (priceStroops : I64) : ℚ := priceStroops.val / stroopsPerXlm.val

/-- The products of a stroop amount and a price part are far from the range of 128 bits. -/
def requestedPriceIfApproximated (priceStroops : I64) (price : Price) : Option String :=
  let requestedN := priceStroops.val
  let requestedD := stroopsPerXlm.val
  let encodedN := price.n.val
  let encodedD := price.d.val
  if requestedN * encodedD ≠ encodedN * requestedD then some (formatStroops priceStroops) else none

/-- What a fraction owes to the price that was asked for. -/
structure FaithfulPrice (priceStroops : I64) (price : Price) : Prop where
  numerator : 1 ≤ price.n.val ∧ price.n.val ≤ int32Max
  denominator : 1 ≤ price.d.val ∧ price.d.val ≤ int32Max
  lowest : Int.gcd price.n.val price.d.val = 1
  exact : (requestedPrice priceStroops).num ≤ int32Max →
    ((requestedPrice priceStroops).den : ℤ) ≤ int32Max →
      price.n.val = (requestedPrice priceStroops).num ∧
        price.d.val = (requestedPrice priceStroops).den
  error : priceStroops.val ≤ int32Max * stroopsPerXlm.val →
    |priceStroops.val * price.d.val - price.n.val * stroopsPerXlm.val| * int32Max ≤
      priceStroops.val
  capped : int32Max * stroopsPerXlm.val < priceStroops.val →
    price.n.val = int32Max ∧ price.d.val = 1
  disclosed : (requestedPriceIfApproximated priceStroops price).isSome ↔
    (price.n.val : ℚ) / price.d.val ≠ requestedPrice priceStroops
  shown : ∀ text, requestedPriceIfApproximated priceStroops price = some text →
    ∃ t : AmountText, t.chars = text.toList ∧ t.decimal = requestedPrice priceStroops

variable {priceStroops : I64} {price : Price}

/-! ### The review -/

theorem stroopsPerXlm_posQ : (0 : ℚ) < stroopsPerXlm.val := by exact_mod_cast stroopsPerXlm_pos

/-- The requested price is shown iff the fraction is another one. -/
theorem requestedPriceIfApproximated_isSome (hd : 0 < price.d.val) :
    (requestedPriceIfApproximated priceStroops price).isSome ↔
      (price.n.val : ℚ) / price.d.val ≠ requestedPrice priceStroops := by
  have hdQ : (0 : ℚ) < price.d.val := by exact_mod_cast hd
  have heq : (price.n.val : ℚ) / price.d.val = requestedPrice priceStroops ↔
      priceStroops.val * price.d.val = price.n.val * stroopsPerXlm.val := by
    rw [requestedPrice, div_eq_div_iff hdQ.ne' stroopsPerXlm_posQ.ne', eq_comm]
    exact_mod_cast Iff.rfl
  rw [ne_eq, heq]
  unfold requestedPriceIfApproximated
  dsimp only
  split_ifs with hne
  · exact iff_of_true rfl hne
  · exact iff_of_false Bool.false_ne_true hne

/-- What is shown denotes the requested price. -/
theorem requestedPriceIfApproximated_shown (hprice : 0 ≤ priceStroops.val) {text : String}
    (h : requestedPriceIfApproximated priceStroops price = some text) :
    ∃ t : AmountText, t.chars = text.toList ∧ t.decimal = requestedPrice priceStroops := by
  unfold requestedPriceIfApproximated at h
  dsimp only at h
  split_ifs at h
  refine ⟨printed priceStroops.val.natAbs, ?_, ?_⟩
  · rw [← Option.some_inj.mp h, toList_formatStroops_of_nonneg hprice]
  · have hstroops : ((priceStroops.val.natAbs : ℕ) : ℚ) = priceStroops.val := by
      rw [← Int.cast_natCast, Int.natAbs_of_nonneg hprice]
    have hscale : (10 : ℚ) ^ 7 = stroopsPerXlm.val := by norm_num [stroopsPerXlm]
    rw [requestedPrice, eq_div_iff stroopsPerXlm_posQ.ne', ← hscale, AmountText.decimal_mul,
      stroops_printed, hstroops]

/-! ### Lowest terms -/

namespace PriceSearch

/-- The last two convergents have determinant one. -/
def Unimodular (s : PriceSearch) : Prop :=
  s.currentN * s.previousD - s.currentD * s.previousN = 1 ∨
    s.currentN * s.previousD - s.currentD * s.previousN = -1

variable {s found : PriceSearch}

theorem unimodular_start {price : ℤ} (hprice : 0 < price) : (start price hprice).Unimodular :=
  .inl rfl

/-- The sign changes at each convergent. -/
theorem Unimodular.take (hs : s.Unimodular) (quotient : ℤ) :
    (s.take (quotient * s.currentN + s.previousN)
      (quotient * s.currentD + s.previousD)).Unimodular := by
  show (quotient * s.currentN + s.previousN) * s.currentD -
      (quotient * s.currentD + s.previousD) * s.currentN = 1 ∨
    (quotient * s.currentN + s.previousN) * s.currentD -
      (quotient * s.currentD + s.previousD) * s.currentN = -1
  rcases hs with hone | hone
  · right
    linear_combination -hone
  · left
    linear_combination -hone

theorem Unimodular.gcd_eq_one (hs : s.Unimodular) : Int.gcd s.currentN s.currentD = 1 := by
  apply Int.isCoprime_iff_gcd_eq_one.mp
  rcases hs with hone | hone
  · exact ⟨s.previousD, -s.previousN, by linear_combination hone⟩
  · exact ⟨-s.previousD, s.previousN, by linear_combination -hone⟩

end PriceSearch

open PriceSearch

/-- The search ends with convergents of determinant one. -/
theorem searchPrice_unimodular {s found : PriceSearch} (hs : s.Bounded) (hdet : s.Unimodular)
    (h : searchPrice s = .ok found) : found.Unimodular := by
  induction s using searchPrice.induct with
  | case1 s hlarge =>
    rw [searchPrice, if_pos hlarge] at h
    exact Except.ok.inj h ▸ hdet
  | case2 s hlarge ih =>
    have hquotient := s.quotient_bounds hlarge
    rw [searchPrice_of_bounded hs, if_neg hlarge] at h
    dsimp only at h
    split_ifs at h with hout hdivides
    · exact Except.ok.inj h ▸ hdet
    · exact Except.ok.inj h ▸ hdet.take _
    · have htake := hs.take hquotient.1 hout
      exact ih _ _ hdivides (bounded_reduce.mpr htake) (hdet.take _) h

/-! ### The promises -/

/-- A fraction in lowest terms is the one of its ratio. -/
theorem lowest_eq {n d x y : ℤ} (hd : 0 < d) (hy : 0 < y) (hlowest : Int.gcd n d = 1)
    (heq : n * y = d * x) : n = ((x : ℚ) / y).num ∧ d = ((x : ℚ) / y).den := by
  have hratio : (x : ℚ) / y = (n : ℚ) / d := by
    have hyQ : (y : ℚ) ≠ 0 := by exact_mod_cast hy.ne'
    have hdQ : (d : ℚ) ≠ 0 := by exact_mod_cast hd.ne'
    rw [div_eq_div_iff hyQ hdQ, mul_comm (x : ℚ)]
    exact_mod_cast heq.symm
  rw [hratio]
  exact ⟨(Rat.num_div_eq_of_coprime hd hlowest).symm, (Rat.den_div_eq_of_coprime hd hlowest).symm⟩

/-- A price over the largest fraction is encoded as that fraction. -/
theorem faithful_of_large (hlarge : int32Max * stroopsPerXlm.val < priceStroops.val) :
    FaithfulPrice priceStroops ⟨.lit int32Max, .lit 1⟩ where
  numerator := by decide
  denominator := by decide
  lowest := rfl
  exact hnum _ := by
    -- the ratio is over the bound, and so is its numerator
    exfalso
    have hbound : (int32Max : ℚ) < requestedPrice priceStroops := by
      rw [requestedPrice, lt_div_iff₀ stroopsPerXlm_posQ]
      exact_mod_cast hlarge
    have hle : requestedPrice priceStroops ≤ (requestedPrice priceStroops).num := by
      have hden : (1 : ℚ) ≤ (requestedPrice priceStroops).den := by
        exact_mod_cast (requestedPrice priceStroops).den_pos
      have hnonneg : 0 ≤ requestedPrice priceStroops :=
        le_trans (by norm_num [int32Max]) hbound.le
      rw [← Rat.mul_den_eq_num]
      exact le_mul_of_one_le_right hnonneg hden
    have hnumQ : ((requestedPrice priceStroops).num : ℚ) ≤ int32Max := by exact_mod_cast hnum
    linarith
  error hle := absurd hlarge (not_lt.mpr hle)
  capped _ := ⟨rfl, rfl⟩
  disclosed := requestedPriceIfApproximated_isSome one_pos
  shown _ h := requestedPriceIfApproximated_shown ((by decide : (0 : ℤ) ≤ _).trans hlarge.le) h

/-- The price that the search ends with, for one under it. -/
theorem faithful_of_ended (hprice : 0 < priceStroops.val)
    (hle : priceStroops.val ≤ int32Max * stroopsPerXlm.val) {found : PriceSearch}
    (hbounded : found.Bounded) (hdet : found.Unimodular)
    (hended : Ended priceStroops.val stroopsPerXlm.val (.start priceStroops.val hprice) found)
    (hn : price.n.val = found.bestN) (hd : price.d.val = found.bestD)
    (hnpos : 0 < price.n.val) (hdpos : 0 < price.d.val) : FaithfulPrice priceStroops price := by
  have hy := stroopsPerXlm_pos
  have hlowest : Int.gcd price.n.val price.d.val = 1 := by
    rw [hn, hd, hbounded.best.1, hbounded.best.2]
    exact hdet.gcd_eq_one
  have hexact : ((requestedPrice priceStroops).num ≤ int32Max ∧
      ((requestedPrice priceStroops).den : ℤ) ≤ int32Max →
        price.n.val * stroopsPerXlm.val = price.d.val * priceStroops.val) ∧
      |priceStroops.val * price.d.val - price.n.val * stroopsPerXlm.val| * int32Max ≤
        priceStroops.val := by
    cases hended with
    | exact heq _ _ =>
      rw [← hn, ← hd] at heq
      refine ⟨fun _ => heq, ?_⟩
      rw [heq, mul_comm priceStroops.val, sub_self, abs_zero, zero_mul]
      exact hprice.le
    | last hreaches hnot _ =>
      have hsound : found.stage.Sound priceStroops.val stroopsPerXlm.val :=
        (Stage.sound_start hprice.le hy).reaches hreaches
      constructor
      · intro hfits
        -- the ratio in lowest terms would be a later convergent that fits
        obtain ⟨factor, hx, hy'⟩ := Rat.exists_eq_mul_div_num_and_eq_mul_div_den
          priceStroops.val hy.ne'
        have hfactor : 0 < factor := by
          have hprod : 0 < factor * (((priceStroops.val : ℚ) / stroopsPerXlm.val).den : ℤ) :=
            hy' ▸ hy
          exact pos_of_mul_pos_left hprod (Int.natCast_nonneg _)
        exact absurd (hsound.nextFits_of_factor hfactor hx hy' hfits.1 hfits.2) hnot
      · rw [hn, hd, hbounded.best.1, hbounded.best.2]
        exact hsound.error_le (by decide) hnot
  exact
    { numerator := ⟨hnpos, price.n.le_hi⟩
      denominator := ⟨hdpos, price.d.le_hi⟩
      lowest := hlowest
      exact := fun hnum hden => lowest_eq hdpos hy hlowest (hexact.1 ⟨hnum, hden⟩)
      error := fun _ => hexact.2
      capped := fun hlarge => absurd hlarge (not_lt.mpr hle)
      disclosed := requestedPriceIfApproximated_isSome hdpos
      shown := fun _ h => requestedPriceIfApproximated_shown hprice.le h }

/-- Every positive price is encoded, and the fraction keeps its promises. -/
theorem stellarPrice_faithful (priceStroops : I64) (hprice : 0 < priceStroops.val) :
    ∃ price, stellarPrice priceStroops hprice = .ok price ∧ FaithfulPrice priceStroops price := by
  have hy := stroopsPerXlm_pos
  rcases le_or_gt priceStroops.val (int32Max * stroopsPerXlm.val) with hle | hlarge
  · have hsound : (PriceSearch.start priceStroops.val hprice).stage.Sound priceStroops.val
        stroopsPerXlm.val := Stage.sound_start hprice.le hy
    have hle' : priceStroops.val ≤ stroopsPerXlm.val * int32Max := by rwa [mul_comm] at hle
    obtain ⟨found, hfound, hbounded, hended⟩ := searchPrice_ended (bounded_start hprice) hsound
      hle' (by decide)
    have hdet := searchPrice_unimodular (bounded_start hprice) (unimodular_start hprice) hfound
    have hpos : 0 < found.bestN ∧ 0 < found.bestD := hended.best_pos hprice hsound hle' hbounded
    obtain ⟨price, hok, hn, hd⟩ := stellarPrice_of_search hprice hfound hbounded hpos.1 hpos.2
    refine ⟨price, hok, faithful_of_ended hprice hle hbounded hdet hended hn hd ?_ ?_⟩
    · rw [hn]
      exact hpos.1
    · rw [hd]
      exact hpos.2
  · refine ⟨_, stellarPrice_of_large hprice ?_, faithful_of_large hlarge⟩
    rwa [mul_comm] at hlarge

/-- A price that no fraction of 32 bits equals. -/
theorem stellarPrice_faithful_approximated :
    (0 : ℤ) < (.lit 21474836471 : I64).val ∧ ∃ price,
      stellarPrice (.lit 21474836471) (by decide) = .ok price ∧
        FaithfulPrice (.lit 21474836471) price :=
  ⟨by decide, stellarPrice_faithful (.lit 21474836471) (by decide)⟩

end Fresnica
