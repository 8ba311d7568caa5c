import Mathlib.Algebra.Order.Ring.Int
import Mathlib.Data.Int.Order.Basic
import Mathlib.Tactic.Linarith

/-!
# Rounding to significant digits

Decimal arithmetic with a fixed precision rounds each result to so many significant
digits, half to even. Numbers with no more digits than that are kept, and rounding
never moves another number past one of them, so a comparison with a small number can
be made before the rounding.

## Main definitions

* `Significant.round` — an integer, rounded to significant digits

## Main results

* `Significant.round_of_lt` — small numbers are kept
* `Significant.le_round_iff`, `Significant.round_le_iff` — comparisons with small numbers
-/

namespace Foundation.Significant

/-- The multiple of `m` next to `n`, or the even one of two. -/
def roundTo (m n : ℕ) : ℕ :=
  let q := n / m
  let r := n % m
  (if m < 2 * r ∨ m = 2 * r ∧ q % 2 = 1 then q + 1 else q) * m

/-- An integer, rounded to so many significant digits. -/
def round (digits : ℕ) (x : ℤ) : ℤ :=
  x.sign * roundTo (10 ^ ((Nat.toDigits 10 x.natAbs).length - digits)) x.natAbs

variable {digits : ℕ} {x y : ℤ}

theorem roundTo_one {n : ℕ} : roundTo 1 n = n := by
  unfold roundTo
  rw [Nat.div_one, Nat.mod_one]
  simp

/-- Numbers with no more digits are kept. -/
theorem round_of_lt (hdigits : 0 < digits) (h : x.natAbs < 10 ^ digits) : round digits x = x := by
  have hlength : (Nat.toDigits 10 x.natAbs).length ≤ digits :=
    (Nat.length_toDigits_le_iff (by decide) hdigits).mpr h
  rw [round, Nat.sub_eq_zero_of_le hlength, pow_zero, roundTo_one, Int.sign_mul_natAbs]

/-- Rounding to a multiple does not go below a multiple. -/
theorem le_roundTo {m n k : ℕ} (hm : 0 < m) (h : k * m ≤ n) : k * m ≤ roundTo m n := by
  unfold roundTo
  have hq : k ≤ n / m := (Nat.le_div_iff_mul_le hm).mpr h
  refine Nat.mul_le_mul_right m ?_
  split_ifs <;> omega

/-- Numbers with more digits stay as large. -/
theorem le_natAbs_round (hdigits : 0 < digits) (h : 10 ^ digits ≤ x.natAbs) :
    10 ^ digits ≤ roundTo (10 ^ ((Nat.toDigits 10 x.natAbs).length - digits)) x.natAbs := by
  have hlong : ¬ (Nat.toDigits 10 x.natAbs).length ≤ digits := by
    rw [Nat.length_toDigits_le_iff (by decide) hdigits]
    exact not_lt.mpr h
  obtain ⟨k, hk⟩ : ∃ k, (Nat.toDigits 10 x.natAbs).length = digits + k + 1 :=
    ⟨(Nat.toDigits 10 x.natAbs).length - digits - 1, by omega⟩
  -- the leading digit is at the place of the length
  have hsize : 10 ^ (digits + k) ≤ x.natAbs := by
    by_contra hlt
    have := (Nat.length_toDigits_le_iff  (by decide) (by omega : 0 < digits + k)).mpr
      (not_le.mp hlt)
    omega
  have hmultiple : 10 ^ (digits - 1) * 10 ^ (k + 1) = 10 ^ (digits + k) := by
    rw [← pow_add]
    congr 1
    omega
  have hle := le_roundTo  (by positivity) (hmultiple ▸ hsize)
  rw [hmultiple] at hle
  have hexcess : (Nat.toDigits 10 x.natAbs).length - digits = k + 1 := by omega
  rw [hexcess]
  exact (Nat.pow_le_pow_right (by decide) (by omega)).trans hle

/-- A number with no more digits is below the rounded number when it is below the
number. -/
theorem le_round_iff (hdigits : 0 < digits) (hy : y.natAbs < 10 ^ digits) :
    y ≤ round digits x ↔ y ≤ x := by
  by_cases hx : x.natAbs < 10 ^ digits
  · rw [round_of_lt hdigits hx]
  · have hround := le_natAbs_round hdigits (not_lt.mp hx)
    rw [not_lt] at hx
    have hlarge : (x.natAbs : ℤ) ≥ (10 ^ digits : ℕ) := by exact_mod_cast hx
    have hlarge' : ((roundTo (10 ^ ((Nat.toDigits 10 x.natAbs).length - digits)) x.natAbs : ℕ) : ℤ)
        ≥ (10 ^ digits : ℕ) := by exact_mod_cast hround
    unfold round
    rcases lt_trichotomy x 0 with hneg | rfl | hpos
    · rw [Int.sign_eq_neg_one_of_neg hneg]
      omega
    · simp only [Int.natAbs_zero, nonpos_iff_eq_zero] at hx
      exact absurd hx (pow_ne_zero digits (by decide))
    · rw [Int.sign_eq_one_of_pos hpos]
      omega

/-- And the rounded number is below it when the number is. -/
theorem round_le_iff (hdigits : 0 < digits) (hy : (y + 1).natAbs < 10 ^ digits) :
    round digits x ≤ y ↔ x ≤ y := by
  rw [← not_lt, ← not_lt, ← Int.add_one_le_iff, ← Int.add_one_le_iff,
    le_round_iff hdigits hy]

end Foundation.Significant
