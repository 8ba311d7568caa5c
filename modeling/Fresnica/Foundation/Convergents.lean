import Mathlib.Algebra.Order.Field.Basic
import Mathlib.Algebra.Order.Field.Rat
import Mathlib.Data.Int.Order.Lemmas
import Mathlib.Logic.Relation
import Mathlib.Tactic.Linarith
import Mathlib.Tactic.LinearCombination
import Mathlib.Tactic.Ring

/-!
# The convergents of a ratio, under a bound

Euclid's division of `x` by `y` goes through stages, and each one keeps the last two
convergents of `x / y`. Both parts of a convergent grow, so under a bound there is a last
one that fits. Between it and the one that does not fit lie the sums of the last
convergent and the one before it; the best fraction under the bound is the last
convergent, or the largest of these sums.

## Main definitions

* `Stage`, `Stage.next`, `Stage.Step` — a stage of the division, and the one after it
* `Stage.room` — how often the last convergent can be added to the one before it
* `Stage.Far` — the largest such sum is no closer
* `Stage.IsLast` — the last convergent under a bound
* `Closer` — a fraction is strictly closer to the ratio

## Main results

* `Stage.Sound.nextFits_of_factor` — a ratio that fits in lowest terms is reached
* `Stage.Sound.error_le` — how far the last convergent is off
* `Stage.IsLast.eq_of_reaches` — there is only one last convergent
* `Stage.IsLast.best_iff` — the last convergent is the best fraction iff the largest sum
  is not closer
-/

namespace Foundation

/-- The distance of `p / q` to `x / y` is less than that of `p' / q'`. -/
def Closer (x y p q p' q' : ℤ) : Prop :=
  |(p : ℚ) / q - (x : ℚ) / y| < |(p' : ℚ) / q' - (x : ℚ) / y|

/-- The distance of a fraction, as a fraction. -/
private theorem distance_eq {x y p q : ℤ} (hy : 0 < y) (hq : 0 < q) :
    |(p : ℚ) / q - (x : ℚ) / y| = (|p * y - q * x| : ℤ) / ((q : ℚ) * y) := by
  have hyQ : (0 : ℚ) < y := by exact_mod_cast hy
  have hqQ : (0 : ℚ) < q := by exact_mod_cast hq
  rw [div_sub_div _ _ hqQ.ne' hyQ.ne', abs_div, abs_of_pos (mul_pos hqQ hyQ)]
  push_cast
  rfl

/-- Fractions with positive denominators are compared in integers. -/
theorem closer_iff {x y p q p' q' : ℤ} (hy : 0 < y) (hq : 0 < q) (hq' : 0 < q') :
    Closer x y p q p' q' ↔ |p * y - q * x| * q' < |p' * y - q' * x| * q := by
  have hyQ : (0 : ℚ) < y := by exact_mod_cast hy
  have hqQ : (0 : ℚ) < q := by exact_mod_cast hq
  have hqQ' : (0 : ℚ) < q' := by exact_mod_cast hq'
  rw [Closer, distance_eq hy hq, distance_eq hy hq',
    div_lt_div_iff₀ (mul_pos hqQ hyQ) (mul_pos hqQ' hyQ), ← mul_assoc, ← mul_assoc,
    mul_lt_mul_iff_left₀ hyQ]
  exact_mod_cast Iff.rfl

/-- Nothing is closer than the ratio itself. -/
theorem not_closer_of_eq {x y p q p' q' : ℤ} (hy : 0 < y) (hq' : 0 < q')
    (heq : p' * y = q' * x) : ¬ Closer x y p q p' q' := by
  intro hcloser
  rw [Closer, distance_eq hy hq', heq, sub_self, abs_zero, Int.cast_zero, zero_div] at hcloser
  exact absurd hcloser (not_lt.mpr (abs_nonneg _))

/-- The ratio that is left, and the last two convergents. -/
@[ext]
structure Stage where
  dividend : ℤ
  divisor : ℤ
  previousN : ℤ
  previousD : ℤ
  currentN : ℤ
  currentD : ℤ
deriving DecidableEq, Repr

namespace Stage

variable {x y bound : ℤ} {s t : Stage}

/-- The division of `x` by `y`, before the first convergent. -/
def start (x y : ℤ) : Stage where
  dividend := x
  divisor := y
  previousN := 0
  previousD := 1
  currentN := 1
  currentD := 0

def quotient (s : Stage) : ℤ := s.dividend / s.divisor

def nextN (s : Stage) : ℤ := s.quotient * s.currentN + s.previousN

def nextD (s : Stage) : ℤ := s.quotient * s.currentD + s.previousD

def next (s : Stage) : Stage where
  dividend := s.divisor
  divisor := s.dividend % s.divisor
  previousN := s.currentN
  previousD := s.currentD
  currentN := s.nextN
  currentD := s.nextD

/-- The division goes on with the remainder, where there is one. -/
def Step (s t : Stage) : Prop := s.dividend % s.divisor ≠ 0 ∧ t = s.next

/-- The stages of the division of `x` by `y`. -/
abbrev Reached (x y : ℤ) : Stage → Prop := Relation.ReflTransGen Step (start x y)

def NextFits (bound : ℤ) (s : Stage) : Prop := s.nextN ≤ bound ∧ s.nextD ≤ bound

/-- How often the last convergent can be added to the one before it. -/
def room (bound : ℤ) (s : Stage) : ℤ :=
  min ((bound - s.previousN) / s.currentN) ((bound - s.previousD) / s.currentD)

/-- Twice the room is at most the ratio that is left, less the ratio of the last two
denominators: the largest sum is then no closer than the last convergent. -/
def Far (bound : ℤ) (s : Stage) : Prop :=
  2 * s.room bound * (s.divisor * s.currentD) ≤
    s.dividend * s.currentD - s.divisor * s.previousD

/-- The last convergent that fits. -/
structure IsLast (bound : ℤ) (s : Stage) : Prop where
  currentN_pos : 0 < s.currentN
  currentD_pos : 0 < s.currentD
  currentN_le : s.currentN ≤ bound
  currentD_le : s.currentD ≤ bound
  not_nextFits : ¬ s.NextFits bound

/-! ### The identities of the division -/

/-- What holds at each stage: the ratio is the one of the last two convergents, weighted
by what is left, and the two have determinant one. -/
structure Sound (x y : ℤ) (s : Stage) : Prop where
  dividend_nonneg : 0 ≤ s.dividend
  divisor_pos : 0 < s.divisor
  previousN_nonneg : 0 ≤ s.previousN
  previousD_nonneg : 0 ≤ s.previousD
  currentN_nonneg : 0 ≤ s.currentN
  currentD_nonneg : 0 ≤ s.currentD
  numerator : s.dividend * s.currentN + s.divisor * s.previousN = x
  denominator : s.dividend * s.currentD + s.divisor * s.previousD = y
  determinant : s.currentN * s.previousD - s.currentD * s.previousN = 1 ∨
    s.currentN * s.previousD - s.currentD * s.previousN = -1
  order : s = start x y ∨
    s.divisor < s.dividend ∧ 0 < s.currentD ∧ s.previousD ≤ s.currentD

theorem sound_start (hx : 0 ≤ x) (hy : 0 < y) : (start x y).Sound x y where
  dividend_nonneg := hx
  divisor_pos := hy
  previousN_nonneg := le_rfl
  previousD_nonneg := zero_le_one
  currentN_nonneg := zero_le_one
  currentD_nonneg := le_rfl
  numerator := by simp [start]
  denominator := by simp [start]
  determinant := .inl (by simp [start])
  order := .inl rfl

namespace Sound

theorem quotient_nonneg (hs : s.Sound x y) : 0 ≤ s.quotient :=
  Int.ediv_nonneg hs.dividend_nonneg hs.divisor_pos.le

theorem quotient_pos (hs : s.Sound x y) (hlt : s.divisor < s.dividend) : 1 ≤ s.quotient :=
  (Int.le_ediv_iff_mul_le hs.divisor_pos).mpr (by omega)

theorem nextN_nonneg (hs : s.Sound x y) : 0 ≤ s.nextN :=
  add_nonneg (mul_nonneg hs.quotient_nonneg hs.currentN_nonneg) hs.previousN_nonneg

theorem nextD_nonneg (hs : s.Sound x y) : 0 ≤ s.nextD :=
  add_nonneg (mul_nonneg hs.quotient_nonneg hs.currentD_nonneg) hs.previousD_nonneg

/-- The division with its remainder. -/
theorem divides (_hs : s.Sound x y) :
    s.divisor * s.quotient + s.dividend % s.divisor = s.dividend :=
  Int.mul_ediv_add_emod _ _

/-- The next denominator is positive and at least the last one. -/
theorem nextD_order (hs : s.Sound x y) : 0 < s.nextD ∧ s.currentD ≤ s.nextD := by
  rcases hs.order with hstart | ⟨hlt, hpos, -⟩
  · rw [hstart]
    simp [start, nextD]
  · have hge : 1 * s.currentD ≤ s.quotient * s.currentD :=
      mul_le_mul_of_nonneg_right (hs.quotient_pos hlt) hpos.le
    have hprevious := hs.previousD_nonneg
    rw [nextD]
    constructor <;> omega

/-- A step keeps the identities. -/
theorem next (hs : s.Sound x y) (h : s.dividend % s.divisor ≠ 0) : s.next.Sound x y where
  dividend_nonneg := hs.divisor_pos.le
  divisor_pos := lt_of_le_of_ne (Int.emod_nonneg _ hs.divisor_pos.ne') h.symm
  previousN_nonneg := hs.currentN_nonneg
  previousD_nonneg := hs.currentD_nonneg
  currentN_nonneg := hs.nextN_nonneg
  currentD_nonneg := hs.nextD_nonneg
  numerator := by
    have hnumerator := hs.numerator
    simp only [Stage.next, nextN]
    linear_combination hnumerator + s.currentN * hs.divides
  denominator := by
    have hdenominator := hs.denominator
    simp only [Stage.next, nextD]
    linear_combination hdenominator + s.currentD * hs.divides
  determinant := by
    -- the sign changes at each step
    simp only [Stage.next, nextN, nextD]
    rcases hs.determinant with hone | hone
    · right
      linear_combination -hone
    · left
      linear_combination -hone
  order := .inr ⟨Int.emod_lt_of_pos _ hs.divisor_pos, hs.nextD_order.1, hs.nextD_order.2⟩

theorem step (hs : s.Sound x y) (h : Step s t) : t.Sound x y := by
  rw [h.2]
  exact hs.next h.1

theorem reaches (hs : s.Sound x y) (h : Relation.ReflTransGen Step s t) : t.Sound x y := by
  induction h with
  | refl => exact hs
  | tail _ hstep ih => exact ih.step hstep

/-- Both parts of the convergents grow, from the first one on. -/
theorem mono (hs : s.Sound x y) (hlt : s.divisor < s.dividend)
    (h : Relation.ReflTransGen Step s t) :
    s.currentN ≤ t.currentN ∧ s.currentD ≤ t.currentD := by
  have hgrows : ∀ t, Relation.ReflTransGen Step s t →
      t.divisor < t.dividend ∧ s.currentN ≤ t.currentN ∧ s.currentD ≤ t.currentD := by
    intro t h
    induction h with
    | refl => exact ⟨hlt, le_rfl, le_rfl⟩
    | @tail t u hreaches hstep ih =>
      have ht := hs.reaches hreaches
      have hquotient := ht.quotient_pos ih.1
      have hN : 1 * t.currentN ≤ t.quotient * t.currentN :=
        mul_le_mul_of_nonneg_right hquotient ht.currentN_nonneg
      have hD : 1 * t.currentD ≤ t.quotient * t.currentD :=
        mul_le_mul_of_nonneg_right hquotient ht.currentD_nonneg
      have hpreviousN := ht.previousN_nonneg
      have hpreviousD := ht.previousD_nonneg
      rw [hstep.2]
      refine ⟨Int.emod_lt_of_pos _ ht.divisor_pos, ?_, ?_⟩
      · show s.currentN ≤ t.quotient * t.currentN + t.previousN
        omega
      · show s.currentD ≤ t.quotient * t.currentD + t.previousD
        omega
  exact (hgrows t h).2

/-- A convergent that is passed fits under any bound that a later one fits under. -/
theorem nextFits_of_reaches (hs : s.Sound x y) (h : s.dividend % s.divisor ≠ 0)
    (hreaches : Relation.ReflTransGen Step s.next t) (hN : t.currentN ≤ bound)
    (hD : t.currentD ≤ bound) : s.NextFits bound := by
  have hmono := (hs.next h).mono (Int.emod_lt_of_pos _ hs.divisor_pos) hreaches
  exact ⟨hmono.1.trans hN, hmono.2.trans hD⟩

end Sound

/-- What is left holds the next convergent as often as it divides the ratio. -/
theorem Sound.divisor_mul_next_le (hs : s.Sound x y) :
    s.divisor * s.nextN ≤ x ∧ s.divisor * s.nextD ≤ y := by
  have hremainder : 0 ≤ s.dividend % s.divisor := Int.emod_nonneg _ hs.divisor_pos.ne'
  have hN : s.divisor * s.nextN + s.dividend % s.divisor * s.currentN = x := by
    rw [nextN]
    linear_combination hs.numerator + s.currentN * hs.divides
  have hD : s.divisor * s.nextD + s.dividend % s.divisor * s.currentD = y := by
    rw [nextD]
    linear_combination hs.denominator + s.currentD * hs.divides
  have hrestN := mul_nonneg hremainder hs.currentN_nonneg
  have hrestD := mul_nonneg hremainder hs.currentD_nonneg
  constructor <;> omega

/-- A common factor of the ratio divides what is left. -/
theorem Sound.dvd_divisor (hs : s.Sound x y) {factor : ℤ} (hx : factor ∣ x) (hy : factor ∣ y) :
    factor ∣ s.divisor := by
  have hcross : s.currentN * y - s.currentD * x =
      s.divisor * (s.currentN * s.previousD - s.currentD * s.previousN) := by
    rw [← hs.numerator, ← hs.denominator]
    ring
  have hdvd : factor ∣ s.currentN * y - s.currentD * x :=
    dvd_sub (hy.mul_left _) (hx.mul_left _)
  rw [hcross] at hdvd
  rcases hs.determinant with hone | hone
  · rwa [hone, mul_one] at hdvd
  · rwa [hone, mul_neg_one, dvd_neg] at hdvd

/-- While the ratio itself fits, once a common factor is taken out, the next convergent
fits. -/
theorem Sound.nextFits_of_factor (hs : s.Sound x y) {factor p q : ℤ} (hfactor : 0 < factor)
    (hx : x = factor * p) (hy : y = factor * q) (hp : p ≤ bound) (hq : q ≤ bound) :
    s.NextFits bound := by
  have hle : factor ≤ s.divisor :=
    Int.le_of_dvd hs.divisor_pos (hs.dvd_divisor ⟨p, hx⟩ ⟨q, hy⟩)
  have hnext := hs.divisor_mul_next_le
  constructor
  · have hweight := mul_le_mul_of_nonneg_right hle hs.nextN_nonneg
    apply le_trans _ hp
    apply le_of_mul_le_mul_left _ hfactor
    exact (hweight.trans hnext.1).trans_eq hx
  · have hweight := mul_le_mul_of_nonneg_right hle hs.nextD_nonneg
    apply le_trans _ hq
    apply le_of_mul_le_mul_left _ hfactor
    exact (hweight.trans hnext.2).trans_eq hy

/-! ### The last convergent -/

/-- A ratio under the bound never leaves a quotient over it, once the next convergent fits. -/
theorem Sound.le_of_nextFits (hs : s.Sound x y) (hx : x ≤ y * bound) (hy : y ≤ bound)
    (hfits : s.NextFits bound) : s.dividend ≤ s.divisor * bound := by
  rcases hs.order with hstart | ⟨-, hpos, -⟩
  · rw [hstart]
    exact hx
  · by_contra hlarge
    have hdivisor := hs.divisor_pos
    have hquotient : bound ≤ s.quotient := by
      apply (Int.le_ediv_iff_mul_le hdivisor).mpr
      rw [mul_comm]
      omega
    have hbound : 0 < bound := hpos.trans_le (hs.nextD_order.2.trans hfits.2)
    -- the denominators leave no choice but one and zero
    have hle : bound * s.currentD ≤ s.quotient * s.currentD :=
      mul_le_mul_of_nonneg_right hquotient hpos.le
    have hnext := hfits.2
    unfold nextD at hnext
    have hpreviousD := hs.previousD_nonneg
    have hone : s.currentD = 1 := by
      by_contra hone
      have htwo : bound * 2 ≤ bound * s.currentD :=
        mul_le_mul_of_nonneg_left (by omega) hbound.le
      omega
    rw [hone, mul_one] at hle hnext
    have hzero : s.previousD = 0 := by omega
    have hdenominator := hs.denominator
    rw [hone, hzero, mul_one, mul_zero, add_zero] at hdenominator
    have hself : 1 * bound ≤ s.divisor * bound := mul_le_mul_of_nonneg_right hdivisor hbound.le
    omega

/-- Where the next convergent does not fit, the last one has positive parts. -/
theorem Sound.isLast (hs : s.Sound x y) (hx : x ≤ y * bound) (hy : 0 < y ∧ y ≤ bound)
    (hN : s.currentN ≤ bound) (hD : s.currentD ≤ bound) (hnot : ¬ s.NextFits bound) :
    s.IsLast bound := by
  rcases hs.order with hstart | ⟨-, hpos, hle⟩
  · exfalso
    apply hnot
    rw [hstart]
    have hquotient : x / y ≤ bound := Int.ediv_le_of_le_mul hy.1 (by rw [mul_comm]; exact hx)
    constructor
    · simpa [nextN, quotient, start] using hquotient
    · show x / y * 0 + 1 ≤ bound
      omega
  · refine ⟨lt_of_le_of_ne hs.currentN_nonneg ?_, hpos, hN, hD, hnot⟩
    intro hzero
    -- only zero, the first convergent of a proper fraction, has the numerator zero
    apply hnot
    have hdeterminant := hs.determinant
    rw [← hzero, zero_mul, zero_sub] at hdeterminant
    have hunit : s.currentD * s.previousN = 1 := by
      have hnonneg := mul_nonneg hpos.le hs.previousN_nonneg
      omega
    have hone : s.currentD = 1 :=
      (Int.eq_one_or_neg_one_of_mul_eq_one hunit).resolve_right (by omega)
    rw [hone, one_mul] at hunit
    have hdenominator := hs.denominator
    rw [hone, mul_one] at hdenominator
    have hquotient : s.quotient ≤ s.dividend := Int.ediv_le_self _ hs.dividend_nonneg
    have hprevious : s.previousD ≤ s.divisor * s.previousD :=
      le_mul_of_one_le_left hs.previousD_nonneg hs.divisor_pos
    constructor
    · rw [nextN, ← hzero, hunit]
      omega
    · rw [nextD, hone]
      omega

/-- No later stage has the last convergent. -/
theorem IsLast.eq_of_reaches (hs : s.Sound x y) (hnot : ¬ s.NextFits bound)
    (hreaches : Relation.ReflTransGen Step s t) (hlast : t.IsLast bound) : t = s := by
  rcases hreaches.cases_head with heq | ⟨u, hstep, htail⟩
  · exact heq.symm
  · rw [hstep.2] at htail
    exact absurd (hs.nextFits_of_reaches hstep.1 htail hlast.currentN_le hlast.currentD_le) hnot

theorem step_rightUnique : Relator.RightUnique Step := by
  rintro s t u ⟨-, rfl⟩ ⟨-, rfl⟩
  rfl

/-- A division has at most one. -/
theorem IsLast.unique (hx : 0 ≤ x) (hy : 0 < y) (hs : Reached x y s) (ht : Reached x y t)
    (hlast : s.IsLast bound) (hlast' : t.IsLast bound) : t = s := by
  have hstart := sound_start hx hy
  rcases Relation.ReflTransGen.total_of_right_unique step_rightUnique hs ht with hreaches | hreaches
  · exact hlast'.eq_of_reaches (hstart.reaches hs) hlast.not_nextFits hreaches
  · exact (hlast.eq_of_reaches (hstart.reaches ht) hlast'.not_nextFits hreaches).symm

/-- The stages one after the other, while there are remainders. -/
theorem reaches_iterate {k : ℕ}
    (h : ∀ i < k, (next^[i] s).dividend % (next^[i] s).divisor ≠ 0) :
    Relation.ReflTransGen Step s (next^[k] s) := by
  induction k with
  | zero => exact .refl
  | succ k ih =>
    rw [Function.iterate_succ_apply']
    exact (ih fun i hi => h i (hi.trans (Nat.lt_succ_self k))).tail ⟨h k (Nat.lt_succ_self k), rfl⟩

/-! ### The best fraction -/

/-- The distance of a sum of the last two convergents. -/
theorem Sound.cross (hs : s.Sound x y) (u w : ℤ) :
    |(u * s.currentN + w * s.previousN) * y - (u * s.currentD + w * s.previousD) * x| =
      |u * s.divisor - w * s.dividend| := by
  have hcross : (u * s.currentN + w * s.previousN) * y -
      (u * s.currentD + w * s.previousD) * x =
        (u * s.divisor - w * s.dividend) *
          (s.currentN * s.previousD - s.currentD * s.previousN) := by
    rw [← hs.numerator, ← hs.denominator]
    ring
  rw [hcross, abs_mul]
  rcases hs.determinant with hone | hone <;> rw [hone] <;> simp

/-- Where the next convergent does not fit, the last one is off by less than one part in
the bound. -/
theorem Sound.error_le (hs : s.Sound x y) (hy : y ≤ bound) (hnot : ¬ s.NextFits bound) :
    |x * s.currentD - s.currentN * y| * bound ≤ x := by
  have herror : |x * s.currentD - s.currentN * y| = s.divisor := by
    have hself := hs.cross 1 0
    simp only [one_mul, zero_mul, add_zero, sub_zero, abs_of_pos hs.divisor_pos] at hself
    rw [abs_sub_comm, mul_comm x]
    exact hself
  have hnext := hs.divisor_mul_next_le
  -- the next denominator fits, as it is at most the denominator of the ratio
  have hD : s.nextD ≤ bound :=
    (le_mul_of_one_le_left hs.nextD_nonneg hs.divisor_pos).trans (hnext.2.trans hy)
  have hN : bound ≤ s.nextN := by
    by_contra hlt
    apply hnot
    exact ⟨(not_le.mp hlt).le, hD⟩
  rw [herror]
  exact (mul_le_mul_of_nonneg_left hN hs.divisor_pos.le).trans hnext.1

/-- Every fraction is a sum of the last two convergents. -/
theorem Sound.exists_sum (hs : s.Sound x y) (p q : ℤ) : ∃ u w : ℤ,
    p = u * s.currentN + w * s.previousN ∧ q = u * s.currentD + w * s.previousD := by
  let det := s.currentN * s.previousD - s.currentD * s.previousN
  refine ⟨det * (p * s.previousD - q * s.previousN), det * (s.currentN * q - s.currentD * p),
    ?_, ?_⟩
  · have hsquare : det * det = 1 := by
      rcases hs.determinant with hone | hone <;> simp only [det, hone] <;> norm_num
    linear_combination -p * hsquare
  · have hsquare : det * det = 1 := by
      rcases hs.determinant with hone | hone <;> simp only [det, hone] <;> norm_num
    linear_combination -q * hsquare

namespace IsLast

/-- The room leaves both parts of the sum under the bound. -/
theorem room_fits (hlast : s.IsLast bound) :
    s.room bound * s.currentN + s.previousN ≤ bound ∧
      s.room bound * s.currentD + s.previousD ≤ bound := by
  constructor
  · have h := (Int.le_ediv_iff_mul_le hlast.currentN_pos).mp
      (min_le_left ((bound - s.previousN) / s.currentN) ((bound - s.previousD) / s.currentD))
    unfold room
    omega
  · have h := (Int.le_ediv_iff_mul_le hlast.currentD_pos).mp
      (min_le_right ((bound - s.previousN) / s.currentN) ((bound - s.previousD) / s.currentD))
    unfold room
    omega

/-- A sum that fits takes the last convergent no more often than there is room. -/
theorem le_room (hlast : s.IsLast bound) {u : ℤ} (hN : u * s.currentN + s.previousN ≤ bound)
    (hD : u * s.currentD + s.previousD ≤ bound) : u ≤ s.room bound := by
  apply le_min
  · exact (Int.le_ediv_iff_mul_le hlast.currentN_pos).mpr (by omega)
  · exact (Int.le_ediv_iff_mul_le hlast.currentD_pos).mpr (by omega)

/-- What is left exceeds the ratio of the last two denominators. -/
theorem gap_nonneg (hs : s.Sound x y) (hlast : s.IsLast bound) :
    0 ≤ s.dividend * s.currentD - s.divisor * s.previousD := by
  rcases hs.order with hstart | ⟨hlt, -, hle⟩
  · have hpos := hlast.currentD_pos
    rw [hstart] at hpos
    exact absurd hpos (lt_irrefl _)
  · have hprod : s.divisor * s.previousD ≤ s.dividend * s.currentD :=
      mul_le_mul hlt.le hle hs.previousD_nonneg hs.dividend_nonneg
    omega

/-- Where the sum is closer it is a fraction under the bound. -/
theorem closer_of_not_far (hs : s.Sound x y) (hy : 0 < y) (hlast : s.IsLast bound)
    (hfar : ¬ s.Far bound) :
    0 < s.room bound ∧ Closer x y (s.room bound * s.currentN + s.previousN)
      (s.room bound * s.currentD + s.previousD) s.currentN s.currentD := by
  rw [Far, not_le] at hfar
  have hgap := hlast.gap_nonneg hs
  have hweight : 0 < s.divisor * s.currentD := mul_pos hs.divisor_pos hlast.currentD_pos
  have hroom : 0 < s.room bound := by
    have hprod : 0 < 2 * s.room bound * (s.divisor * s.currentD) := hgap.trans_lt hfar
    have htwice := (mul_pos_iff_of_pos_right hweight).mp hprod
    omega
  have hD : 0 < s.room bound * s.currentD + s.previousD :=
    add_pos_of_pos_of_nonneg (mul_pos hroom hlast.currentD_pos) hs.previousD_nonneg
  refine ⟨hroom, (closer_iff hy hD hlast.currentD_pos).mpr ?_⟩
  have hsum := hs.cross (s.room bound) 1
  have hself := hs.cross 1 0
  simp only [one_mul, zero_mul, add_zero, sub_zero, abs_of_pos hs.divisor_pos] at hsum hself
  rw [hsum, hself]
  -- the sum lies on the other side of the ratio, or on the same one
  rcases abs_cases (s.room bound * s.divisor - s.dividend) with ⟨habs, -⟩ | ⟨habs, -⟩
  · rw [habs, ← sub_pos]
    have hdifference : s.divisor * (s.room bound * s.currentD + s.previousD) -
        (s.room bound * s.divisor - s.dividend) * s.currentD = y := by
      rw [← hs.denominator]
      ring
    rw [hdifference]
    exact hy
  · rw [habs]
    linarith

/-- A fraction under the bound that is closer shows that the sum is. -/
theorem not_far_of_closer (hs : s.Sound x y) (hy : 0 < y) (hlast : s.IsLast bound) {p q : ℤ}
    (hp : p ≤ bound) (hq : 0 < q) (hqle : q ≤ bound)
    (hcloser : Closer x y p q s.currentN s.currentD) : ¬ s.Far bound := by
  rw [closer_iff hy hq hlast.currentD_pos] at hcloser
  obtain ⟨u, w, rfl, rfl⟩ := hs.exists_sum p q
  have hself := hs.cross 1 0
  simp only [one_mul, zero_mul, add_zero, sub_zero, abs_of_pos hs.divisor_pos] at hself
  rw [hs.cross, hself] at hcloser
  have hgap := hlast.gap_nonneg hs
  have hweight : 0 < s.divisor * s.currentD := mul_pos hs.divisor_pos hlast.currentD_pos
  -- a sum without the convergent before the last one is no closer
  have hw : 0 < w := by
    by_contra hw
    have hle : (u * s.divisor - w * s.dividend) * s.currentD ≤
        |u * s.divisor - w * s.dividend| * s.currentD :=
      mul_le_mul_of_nonneg_right (le_abs_self _) hlast.currentD_pos.le
    have hlt : -w * y < 0 := by
      rw [← hs.denominator]
      linarith
    exact absurd hlt (not_lt.mpr (mul_nonneg (by omega) hy.le))
  have hsumN : s.previousN ≤ w * s.previousN :=
    le_mul_of_one_le_left hs.previousN_nonneg hw
  have hsumD : s.previousD ≤ w * s.previousD :=
    le_mul_of_one_le_left hs.previousD_nonneg hw
  -- between the last convergent and the ratio there is no fraction that fits
  have hbefore : u * s.divisor < w * s.dividend := by
    by_contra hbeyond
    have hdividend : s.dividend ≤ w * s.dividend :=
      le_mul_of_one_le_left hs.dividend_nonneg hw
    have hquotient : s.quotient ≤ u := by
      apply Int.ediv_le_of_le_mul hs.divisor_pos
      omega
    have hN := mul_le_mul_of_nonneg_right hquotient hlast.currentN_pos.le
    have hD := mul_le_mul_of_nonneg_right hquotient hlast.currentD_pos.le
    apply hlast.not_nextFits
    unfold NextFits nextN nextD
    constructor <;> omega
  rw [abs_of_neg (by omega)] at hcloser
  have htwice : w * (s.dividend * s.currentD - s.divisor * s.previousD) <
      2 * u * (s.divisor * s.currentD) := by linarith
  have hroom : u ≤ s.room bound := hlast.le_room (by omega) (by omega)
  rw [Far, not_le]
  calc s.dividend * s.currentD - s.divisor * s.previousD
      ≤ w * (s.dividend * s.currentD - s.divisor * s.previousD) :=
        le_mul_of_one_le_left hgap hw
    _ < 2 * u * (s.divisor * s.currentD) := htwice
    _ ≤ 2 * s.room bound * (s.divisor * s.currentD) :=
        mul_le_mul_of_nonneg_right (by omega) hweight.le

/-- The last convergent under a bound is the best fraction under it iff the largest sum
is not closer. -/
theorem best_iff (hs : s.Sound x y) (hy : 0 < y) (hlast : s.IsLast bound) :
    (∀ p q, 1 ≤ p → p ≤ bound → 1 ≤ q → q ≤ bound →
      ¬ Closer x y p q s.currentN s.currentD) ↔ s.Far bound := by
  constructor
  · intro hbest
    by_contra hfar
    obtain ⟨hroom, hcloser⟩ := hlast.closer_of_not_far hs hy hfar
    have hN := mul_pos hroom hlast.currentN_pos
    have hD := mul_pos hroom hlast.currentD_pos
    have hpreviousN := hs.previousN_nonneg
    have hpreviousD := hs.previousD_nonneg
    exact hbest _ _ (by omega) hlast.room_fits.1 (by omega) hlast.room_fits.2 hcloser
  · intro hfar p q _ hp hq hqle hcloser
    exact hlast.not_far_of_closer hs hy hp hq hqle hcloser hfar

end IsLast

end Stage

end Foundation
