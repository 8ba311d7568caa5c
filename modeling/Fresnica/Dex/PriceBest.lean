import Fresnica.Dex.Price
import Fresnica.Foundation.Convergents

/-!
# The best price

The price of an offer should be the closest fraction of 32 bits to the one that was
asked for. The search ends at the last convergent that fits, and never tries the sums
between it and the next one, so the price is the closest fraction exactly when no such
sum that fits is closer.

## Main definitions

* `BestPrice` — no other fraction of 32 bits is closer
* `SumsFar` — the sums after the last convergent are no closer than it

## Main results

* `exists_stellarPrice` — every positive price is encoded
* `stellarPrice_best_iff` — as the closest fraction iff the sums are no closer
* `stellarPrice_not_best` — a price where one is closer
-/

namespace Fresnica

open Foundation

/-- No fraction of 32 bits is closer to the price that was asked for. -/
def BestPrice (priceStroops : I64) (price : Price) : Prop :=
  ∀ p q : ℤ, 1 ≤ p → p ≤ int32Max → 1 ≤ q → q ≤ int32Max →
    ¬ Closer priceStroops.val stroopsPerXlm.val p q price.n.val price.d.val

/-- Where the continued fraction of the price has a last convergent of 32 bits, the
largest sum with the convergent before it that still has 32 bits is no closer. -/
def SumsFar (priceStroops : I64) : Prop :=
  ∀ stage, Stage.Reached priceStroops.val stroopsPerXlm.val stage → stage.IsLast int32Max →
    stage.Far int32Max

namespace PriceSearch

/-- The stage of the division. -/
def stage (s : PriceSearch) : Stage where
  dividend := s.numerator
  divisor := s.denominator
  previousN := s.previousN
  previousD := s.previousD
  currentN := s.currentN
  currentD := s.currentD

variable {x y : ℤ} {s : PriceSearch}

/-- How the search ends: with the ratio itself, and then all convergents fit, or at the
last convergent. -/
inductive Ended (x y : ℤ) (s found : PriceSearch) : Prop
  | exact (heq : found.bestN * y = found.bestD * x) (hpos : 0 < found.bestD)
      (hnone : ∀ t, Relation.ReflTransGen Stage.Step s.stage t → ¬ t.IsLast int32Max)
  | last (hreaches : Relation.ReflTransGen Stage.Step s.stage found.stage)
      (hnot : ¬ found.stage.NextFits int32Max)
      (hunique : ∀ t, Relation.ReflTransGen Stage.Step s.stage t → t.IsLast int32Max →
        t = found.stage)

theorem ended_self (hs : s.stage.Sound x y) (hnot : ¬ s.stage.NextFits int32Max) :
    Ended x y s s :=
  .last .refl hnot fun _ hreaches hlast => hlast.eq_of_reaches hs hnot hreaches

/-- The convergent that divides the ratio is the ratio. -/
theorem ended_take (hs : s.stage.Sound x y) (hfits : s.stage.NextFits int32Max)
    (hdivides : s.numerator % s.denominator = 0) :
    Ended x y s (s.take s.stage.nextN s.stage.nextD) := by
  apply Ended.exact
  · have hremainder := hs.divides
    rw [show s.stage.dividend % s.stage.divisor = 0 from hdivides, add_zero] at hremainder
    have hN : s.stage.divisor * s.stage.nextN = x := by
      rw [← hs.numerator, ← hremainder, Stage.nextN]
      ring
    have hD : s.stage.divisor * s.stage.nextD = y := by
      rw [← hs.denominator, ← hremainder, Stage.nextD]
      ring
    show s.stage.nextN * y = s.stage.nextD * x
    rw [← hN, ← hD]
    ring
  · exact hs.nextD_order.1
  · intro t hreaches hlast
    rcases hreaches.cases_head with rfl | ⟨u, hstep, -⟩
    · exact hlast.not_nextFits hfits
    · exact hstep.1 hdivides

/-- What comes after a step that fits. -/
theorem Ended.step {h : s.numerator % s.denominator ≠ 0} {found : PriceSearch}
    (hfits : s.stage.NextFits int32Max)
    (hended : Ended x y ((s.take s.stage.nextN s.stage.nextD).reduce h) found) :
    Ended x y s found := by
  have hstep : Stage.Step s.stage ((s.take s.stage.nextN s.stage.nextD).reduce h).stage :=
    ⟨h, rfl⟩
  have hafter : ∀ t, Relation.ReflTransGen Stage.Step s.stage t → t.IsLast int32Max →
      Relation.ReflTransGen Stage.Step
        ((s.take s.stage.nextN s.stage.nextD).reduce h).stage t := by
    intro t hreaches hlast
    rcases hreaches.cases_head with rfl | ⟨u, hstep', htail⟩
    · exact absurd hfits hlast.not_nextFits
    · rw [hstep'.2] at htail
      exact htail
  cases hended with
  | exact heq hpos hnone =>
    exact .exact heq hpos fun t hreaches hlast => hnone t (hafter t hreaches hlast) hlast
  | last hreaches hnot hunique =>
    exact .last (hreaches.head hstep) hnot
      fun t hreaches hlast => hunique t (hafter t hreaches hlast) hlast

end PriceSearch

open PriceSearch

variable {x y : ℤ} {s : PriceSearch}

/-- A ratio that is not over the bound is searched down to its last convergent. -/
theorem searchPrice_ended (hs : s.Bounded) (hsound : s.stage.Sound x y)
    (hx : x ≤ y * int32Max) (hy : y ≤ int32Max) :
    ∃ found, searchPrice s = .ok found ∧ found.Bounded ∧ Ended x y s found := by
  induction s using searchPrice.induct with
  | case1 s hlarge =>
    refine ⟨s, ?_, hs, ended_self hsound ?_⟩
    · rw [searchPrice, if_pos hlarge]
    · intro hfits
      exact absurd (hsound.le_of_nextFits hx hy hfits) (not_le.mpr hlarge)
  | case2 s hlarge ih =>
    have hquotient := s.quotient_bounds hlarge
    rw [searchPrice_of_bounded hs, if_neg hlarge]
    -- the next convergent is out of range, or it is taken
    by_cases hout : s.numerator / s.denominator * s.currentN + s.previousN > int32Max ∨
        s.numerator / s.denominator * s.currentD + s.previousD > int32Max
    · refine ⟨s, if_pos hout, hs, ended_self hsound ?_⟩
      intro hfits
      rcases hout with hout | hout
      · exact absurd hfits.1 (not_le.mpr hout)
      · exact absurd hfits.2 (not_le.mpr hout)
    · have htake := hs.take hquotient.1 hout
      have hfits : s.stage.NextFits int32Max :=
        ⟨not_lt.mp fun h => hout (.inl h), not_lt.mp fun h => hout (.inr h)⟩
      by_cases hdivides : s.numerator % s.denominator = 0
      · refine ⟨_, ?_, htake, ended_take hsound hfits hdivides⟩
        simp only [if_neg hout, dif_pos hdivides]
      · have hsound' : ((s.take s.stage.nextN s.stage.nextD).reduce hdivides).stage.Sound x y :=
          hsound.next hdivides
        obtain ⟨found, hfound, hbounded, hended⟩ :=
          ih _ _ hdivides (bounded_reduce.mpr htake) hsound'
        refine ⟨found, ?_, hbounded, hended.step hfits⟩
        simp only [if_neg hout, dif_neg hdivides]
        exact hfound

/-- Where both parts are positive there is nothing to recover. -/
theorem recoverPrice_of_pos (hN : 0 < s.bestN) (hD : 0 < s.bestD) :
    recoverPrice s = .ok (s.bestN, s.bestD) := by
  rw [recoverPrice, if_neg]
  omega

/-! ### A price over the largest fraction -/

variable {priceStroops : I64}

/-- The largest fraction is the recovered price. -/
theorem stellarPrice_of_large (hprice : 0 < priceStroops.val)
    (hlarge : stroopsPerXlm.val * int32Max < priceStroops.val) :
    stellarPrice priceStroops hprice = .ok ⟨.lit int32Max, .lit 1⟩ := by
  have hsearch : searchPrice (.start priceStroops.val hprice) =
      .ok (.start priceStroops.val hprice) := by
    rw [searchPrice]
    exact if_pos hlarge
  have hrecover : recoverPrice (.start priceStroops.val hprice) = .ok (int32Max, 1) := by
    rw [recoverPrice_of_bounded (bounded_start hprice)]
    rfl
  rw [stellarPrice, hsearch, ok_bind, hrecover]
  rfl

/-- No fraction of 32 bits is closer than the largest one. -/
theorem bestPrice_of_large (hlarge : stroopsPerXlm.val * int32Max < priceStroops.val) :
    BestPrice priceStroops ⟨.lit int32Max, .lit 1⟩ := by
  intro p q hp hple hq hqle
  have hy := stroopsPerXlm_pos
  show ¬ Closer priceStroops.val stroopsPerXlm.val p q int32Max 1
  rw [closer_iff hy hq one_pos, mul_one, one_mul, not_lt]
  have hpy : p * stroopsPerXlm.val ≤ int32Max * stroopsPerXlm.val :=
    mul_le_mul_of_nonneg_right hple hy.le
  have hqx : priceStroops.val ≤ q * priceStroops.val :=
    le_mul_of_one_le_left ((mul_nonneg hy.le (by decide)).trans hlarge.le) hq
  have hqM : int32Max * stroopsPerXlm.val ≤ q * (int32Max * stroopsPerXlm.val) :=
    le_mul_of_one_le_left (mul_nonneg (by decide) hy.le) hq
  rw [mul_comm stroopsPerXlm.val] at hlarge
  rw [abs_of_nonpos (by omega), abs_of_nonpos (by omega)]
  linarith

/-- The division goes past it in one step, which leaves no room for a sum. -/
theorem sumsFar_of_large (hlarge : stroopsPerXlm.val * int32Max < priceStroops.val) :
    SumsFar priceStroops := by
  intro t hreaches hlast
  have hy := stroopsPerXlm_pos
  have hx : 0 ≤ priceStroops.val := (mul_nonneg hy.le (by decide)).trans hlarge.le
  have hstart := Stage.sound_start hx hy
  -- the whole part alone is out of range, so the search ends at the first convergent
  have hquotient : int32Max ≤ priceStroops.val / stroopsPerXlm.val := by
    apply (Int.le_ediv_iff_mul_le hy).mpr
    rw [mul_comm]
    exact hlarge.le
  rcases hreaches.cases_head with rfl | ⟨u, hstep, htail⟩
  · exact absurd hlast.currentD_pos (lt_irrefl _)
  have hfirst : u.currentN = priceStroops.val / stroopsPerXlm.val := by
    rw [hstep.2]
    show priceStroops.val / stroopsPerXlm.val * 1 + 0 = _
    ring
  have hprevious : u.previousN = 1 := by rw [hstep.2]; rfl
  rcases htail.cases_head with rfl | ⟨v, hstep', htail'⟩
  · have hroom : u.room int32Max ≤ 0 := by
      apply (min_le_left _ _).trans
      rw [hfirst, hprevious, Int.ediv_eq_zero_of_lt (by decide) (by omega)]
    have hsound := hstart.step hstep
    have hweight := mul_nonneg hsound.divisor_pos.le hsound.currentD_nonneg
    have hsum : 2 * u.room int32Max * (u.divisor * u.currentD) ≤ 0 :=
      mul_nonpos_of_nonpos_of_nonneg (by omega) hweight
    exact hsum.trans (hlast.gap_nonneg hsound)
  · -- a second convergent is larger still
    have hsound := hstart.step hstep
    have hlt : u.divisor < u.dividend := by
      rw [hstep.2]
      exact Int.emod_lt_of_pos _ hy
    rw [hstep'.2] at htail'
    have hfits := (hsound.nextFits_of_reaches hstep'.1 htail' hlast.currentN_le
      hlast.currentD_le).1
    rw [Stage.nextN, hprevious] at hfits
    have hgrows : 1 * u.currentN ≤ u.quotient * u.currentN :=
      mul_le_mul_of_nonneg_right (hsound.quotient_pos hlt) hsound.currentN_nonneg
    omega

/-! ### A price under it -/

/-- A positive fraction that was found is the price. -/
theorem stellarPrice_of_search (hprice : 0 < priceStroops.val) {found : PriceSearch}
    (hfound : searchPrice (.start priceStroops.val hprice) = .ok found)
    (hbounded : found.Bounded) (hN : 0 < found.bestN) (hD : 0 < found.bestD) :
    ∃ price : Price, stellarPrice priceStroops hprice = .ok price ∧
      price.n.val = found.bestN ∧ price.d.val = found.bestD := by
  have hN_le : found.bestN ≤ 2147483647 := hbounded.best.1 ▸ hbounded.currentN.2
  have hD_le : found.bestD ≤ 2147483647 := hbounded.best.2 ▸ hbounded.currentD.2
  obtain ⟨n, hofN, hn⟩ : ∃ n : I32, BoundedInt.ofInt? found.bestN = some n ∧ _ :=
    BoundedInt.exists_ofInt? (by omega)
  obtain ⟨d, hofD, hd⟩ : ∃ d : I32, BoundedInt.ofInt? found.bestD = some d ∧ _ :=
    BoundedInt.exists_ofInt? (by omega)
  have hensure : ¬ (found.bestN ≤ 0 ∨ found.bestD ≤ 0) := by omega
  refine ⟨⟨n, d⟩, ?_, hn, hd⟩
  simp only [stellarPrice, hfound, ok_bind, recoverPrice_of_pos hN hD, ensure, if_pos hensure,
    hofN, hofD, okOr, pure_eq_ok]

/-- The search under the largest fraction ends with a positive one. -/
theorem PriceSearch.Ended.best_pos {found : PriceSearch} (hprice : 0 < x)
    (hsound : s.stage.Sound x stroopsPerXlm.val) (hle : x ≤ stroopsPerXlm.val * int32Max)
    (hbounded : found.Bounded) (hended : Ended x stroopsPerXlm.val s found) :
    0 < found.bestN ∧ 0 < found.bestD := by
  have hy := stroopsPerXlm_pos
  cases hended with
  | exact heq hpos _ =>
    have hprod : 0 < found.bestN * stroopsPerXlm.val := by
      rw [heq]
      exact mul_pos hpos hprice
    exact ⟨(mul_pos_iff_of_pos_right hy).mp hprod, hpos⟩
  | last hreaches hnot _ =>
    have hlast : found.stage.IsLast int32Max := (hsound.reaches hreaches).isLast hle
      ⟨hy, by decide⟩ hbounded.currentN.2 hbounded.currentD.2 hnot
    exact ⟨hbounded.best.1 ▸ hlast.currentN_pos, hbounded.best.2 ▸ hlast.currentD_pos⟩

theorem stellarPrice_of_le (hprice : 0 < priceStroops.val)
    (hle : priceStroops.val ≤ stroopsPerXlm.val * int32Max) :
    ∃ price, stellarPrice priceStroops hprice = .ok price ∧
      (BestPrice priceStroops price ↔ SumsFar priceStroops) := by
  have hy := stroopsPerXlm_pos
  have hsound : (PriceSearch.start priceStroops.val hprice).stage.Sound priceStroops.val
      stroopsPerXlm.val := Stage.sound_start hprice.le hy
  obtain ⟨found, hfound, hbounded, hended⟩ := searchPrice_ended (bounded_start hprice) hsound hle
    (by decide)
  have hbest := hended.best_pos hprice hsound hle hbounded
  obtain ⟨price, hok, hn, hd⟩ := stellarPrice_of_search hprice hfound hbounded hbest.1 hbest.2
  refine ⟨price, hok, ?_⟩
  -- the search ends at the price itself, or at the last convergent within the range
  cases hended with
  | exact heq hpos hnone =>
    refine iff_of_true ?_ ?_
    · intro p q _ _ _ _
      apply not_closer_of_eq hy
      · rw [hd]
        exact hpos
      · rw [hn, hd]
        exact heq
    · intro t hreaches hlast
      exact absurd hlast (hnone t hreaches)
  | last hreaches hnot hunique =>
    have hsoundFound := hsound.reaches hreaches
    have hlast : found.stage.IsLast int32Max :=
      hsoundFound.isLast hle ⟨hy, by decide⟩ hbounded.currentN.2 hbounded.currentD.2 hnot
    have hbest : BestPrice priceStroops price ↔ found.stage.Far int32Max := by
      rw [← hlast.best_iff hsoundFound hy, BestPrice, hn, hd, hbounded.best.1, hbounded.best.2]
      rfl
    rw [hbest]
    constructor
    · intro hfar t hreached hlast'
      rw [hunique t hreached hlast']
      exact hfar
    · intro hfar
      exact hfar _ hreaches hlast

/-- Every positive price is encoded, as the best fraction iff the sums are no closer. -/
theorem exists_stellarPrice (priceStroops : I64) (hprice : 0 < priceStroops.val) :
    ∃ price, stellarPrice priceStroops hprice = .ok price ∧
      (BestPrice priceStroops price ↔ SumsFar priceStroops) := by
  rcases le_or_gt priceStroops.val (stroopsPerXlm.val * int32Max) with hle | hlarge
  · exact stellarPrice_of_le hprice hle
  · exact ⟨_, stellarPrice_of_large hprice hlarge,
      iff_of_true (bestPrice_of_large hlarge) (sumsFar_of_large hlarge)⟩

/-- The price is the best fraction exactly when no sum after the last convergent that fits
is closer. -/
theorem stellarPrice_best_iff (priceStroops : I64) (hprice : 0 < priceStroops.val) :
    (∃ price, stellarPrice priceStroops hprice = .ok price ∧ BestPrice priceStroops price) ↔
      SumsFar priceStroops := by
  obtain ⟨price, hok, hiff⟩ := exists_stellarPrice priceStroops hprice
  rw [← hiff, hok]
  constructor
  · rintro ⟨other, hother, hbest⟩
    rw [Except.ok.inj hother]
    exact hbest
  · intro hbest
    exact ⟨price, rfl, hbest⟩

/-- The sums of a price are no closer if those after one last convergent are not. -/
theorem sumsFar_of_isLast (hprice : 0 ≤ priceStroops.val) {last : Stage}
    (hreached : Stage.Reached priceStroops.val stroopsPerXlm.val last)
    (hlast : last.IsLast int32Max) (hfar : last.Far int32Max) : SumsFar priceStroops := by
  intro stage hstage hlast'
  rw [hlast.unique hprice stroopsPerXlm_pos hreached hstage hlast']
  exact hfar

/-- The fourteenth stage of the price 1234.5678901 is the last one that fits. -/
theorem sumsFar_approximated : SumsFar (.lit 12345678901) := by
  apply sumsFar_of_isLast (by decide)
    (Stage.reaches_iterate (k := 13) (by decide +kernel))
  · exact ⟨by decide +kernel, by decide +kernel, by decide +kernel, by decide +kernel,
      by rw [Stage.NextFits]; decide +kernel⟩
  · rw [Stage.Far]
    decide +kernel

/-- The price is approximated, and by the closest fraction. -/
theorem stellarPrice_best_iff_approximated :
    stellarPrice (.lit 12345678901) (by decide) = .ok ⟨.lit 655680241, .lit 531101⟩ ∧
      655680241 * stroopsPerXlm.val ≠ 531101 * 12345678901 ∧
      BestPrice (.lit 12345678901) ⟨.lit 655680241, .lit 531101⟩ := by
  have hok : stellarPrice (.lit 12345678901) (by decide) =
      .ok ⟨.lit 655680241, .lit 531101⟩ := by decide +kernel
  obtain ⟨price, hprice, hbest⟩ :=
    (stellarPrice_best_iff (.lit 12345678901) (by decide)).mpr sumsFar_approximated
  rw [hok] at hprice
  obtain rfl := Except.ok.inj hprice
  exact ⟨hok, by decide, hbest⟩

/-- The search ends at 927465761/4318849, and the sum 1220017888/5681151 is closer. -/
theorem stellarPrice_not_best : ¬ ∀ (priceStroops : I64) (hprice : 0 < priceStroops.val)
    (price : Price), stellarPrice priceStroops hprice = .ok price →
      BestPrice priceStroops price := by
  intro hall
  have hok : stellarPrice (.lit 2147483649) (by decide) =
      .ok ⟨.lit 927465761, .lit 4318849⟩ := by decide +kernel
  apply hall _ _ _ hok 1220017888 5681151 (by decide) (by decide) (by decide) (by decide)
  rw [closer_iff stroopsPerXlm_pos (by decide) (by decide)]
  decide +kernel

end Fresnica
