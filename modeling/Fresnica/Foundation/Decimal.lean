import Fresnica.Foundation.BoundedInt
import Mathlib.Data.List.Induction
import Mathlib.Tactic.Linarith

/-!
# Decimal integers in texts

A text of ASCII digits is the integer it spells, and a sign may stand before it.
An integer of a bounded type is parsed when the spelled one is in range.

## Main definitions

* `Decimal.value` — the number that digits spell
* `Decimal.parseInt?` — an optionally signed integer
* `BoundedInt.parse?` — the same, confined to a range

## Main results

* `Decimal.value_injective` — digits of one length that spell the same number are equal
* `Decimal.toDigits_shortest` — the usual digits of a number are the shortest
* `Decimal.parseInt?_nonneg` — digits alone do not spell a negative integer
* `BoundedInt.parse?_digits` — digits are parsed to what they spell
-/

namespace Foundation

namespace Decimal

/-- The number that digits spell. -/
def value (digits : List Char) : ℕ := Nat.ofDigitChars 10 digits 0

def parseNat? (digits : List Char) : Option ℕ :=
  if digits ≠ [] ∧ digits.all Char.isDigit then some (value digits) else none

/-- An integer with at most one sign before its digits. -/
def parseInt? : List Char → Option ℤ
  | '-' :: digits => (parseNat? digits).map fun n => -(n : ℤ)
  | '+' :: digits => (parseNat? digits).map Int.ofNat
  | digits => (parseNat? digits).map Int.ofNat

/-! ### What digits spell -/

variable {digits more : List Char} {n k : ℕ}

@[simp] theorem value_nil : value [] = 0 := Nat.ofDigitChars_nil

theorem value_singleton {c : Char} : value [c] = c.toNat - '0'.toNat := by
  rw [value, Nat.ofDigitChars_cons, Nat.ofDigitChars_nil, mul_zero, zero_add]

/-- The usual digits of a number spell it. -/
@[simp] theorem value_toDigits : value (Nat.toDigits 10 n) = n := by
  rw [value, Nat.ofDigitChars_ten_toDigits]

theorem value_append : value (digits ++ more) = value digits * 10 ^ more.length +
    value more := by
  rw [value, Nat.ofDigitChars_append, Nat.ofDigitChars_eq_ofDigitChars_zero, mul_comm]
  rfl

@[simp] theorem value_replicate_zero : value (List.replicate k '0') = 0 := by
  rw [value, Nat.ofDigitChars_replicate_zero, mul_zero]

/-- A digit is the character of a number below ten. -/
theorem digit_lt {c : Char} (h : c.isDigit = true) : c.toNat - '0'.toNat < 10 ∧
    '0'.toNat ≤ c.toNat := by
  rw [Char.isDigit, Bool.and_eq_true, decide_eq_true_eq, decide_eq_true_eq] at h
  have hlo : '0'.toNat ≤ c.toNat := h.1
  have hhi : c.toNat ≤ '9'.toNat := h.2
  have hzero : '0'.toNat = 48 := rfl
  have hnine : '9'.toNat = 57 := rfl
  omega

/-- Digits spell less than the power of ten of their length. -/
theorem value_lt (h : digits.all Char.isDigit = true) : value digits < 10 ^ digits.length := by
  induction digits using List.reverseRecOn with
  | nil => simp
  | append_singleton digits c ih =>
    rw [List.all_append, Bool.and_eq_true, List.all_cons, Bool.and_eq_true] at h
    have hdigits := ih h.1
    have hc := (digit_lt h.2.1).1
    rw [value_append, value_singleton, List.length_append, List.length_singleton, pow_one, pow_succ]
    omega

/-- Digits of one length that spell the same number are equal. -/
theorem value_injective (hlength : digits.length = more.length)
    (hdigits : digits.all Char.isDigit = true) (hmore : more.all Char.isDigit = true)
    (h : value digits = value more) : digits = more := by
  induction digits using List.reverseRecOn generalizing more with
  | nil => exact (List.length_eq_zero_iff.mp hlength.symm).symm
  | append_singleton digits c ih =>
    obtain ⟨others, d, rfl⟩ : ∃ others d, more = others ++ [d] := by
      rcases List.eq_nil_or_concat more with rfl | ⟨others, d, hmore⟩
      · simp at hlength
      · exact ⟨others, d, hmore.trans List.concat_eq_append⟩
    simp only [List.all_append, Bool.and_eq_true, List.all_cons, List.all_nil, and_true]
      at hdigits hmore
    simp only [List.length_append, List.length_singleton, Nat.add_right_cancel_iff] at hlength
    have hc := digit_lt hdigits.2
    have hd := digit_lt hmore.2
    rw [value_append, value_append, value_singleton, value_singleton, List.length_singleton,
      List.length_singleton, pow_one] at h
    have hvalue : value digits = value others := by omega
    have hchar : c.toNat = d.toNat := by omega
    rw [ih hlength hdigits.1 hmore.1 hvalue, Char.toNat_inj.mp hchar]

theorem all_isDigit_toDigits : (Nat.toDigits 10 n).all Char.isDigit = true :=
  List.all_eq_true.mpr fun _ h => Nat.isDigit_of_mem_toDigits (by decide) (by decide) h

/-- The usual digits of a number are the shortest that spell it, and the only ones of
their length. -/
theorem toDigits_shortest (hne : digits ≠ []) (hdigits : digits.all Char.isDigit = true) :
    (Nat.toDigits 10 (value digits)).length ≤ digits.length ∧
      ((Nat.toDigits 10 (value digits)).length = digits.length →
        Nat.toDigits 10 (value digits) = digits) :=
  ⟨(Nat.length_toDigits_le_iff (by decide) (List.length_pos_iff.mpr hne)).mpr (value_lt hdigits),
    fun hlength => value_injective hlength all_isDigit_toDigits hdigits value_toDigits⟩

/-! ### Integers -/

/-- Without a sign, the integer is not negative. -/
theorem parseInt?_nonneg {digits : List Char} {n : ℤ} (hdigits : digits.all Char.isDigit = true)
    (h : parseInt? digits = some n) : 0 ≤ n := by
  unfold parseInt? at h
  split at h
  · exact absurd hdigits (by simp)
  · exact absurd hdigits (by simp)
  · obtain ⟨m, -, rfl⟩ := Option.map_eq_some_iff.mp h
    exact Int.natCast_nonneg m

/-- Digits alone spell their number. -/
theorem parseInt?_digits (hne : digits ≠ []) (hdigits : digits.all Char.isDigit = true) :
    parseInt? digits = some (value digits : ℤ) := by
  unfold parseInt?
  split
  · exact absurd hdigits (by simp)
  · exact absurd hdigits (by simp)
  · rw [parseNat?, if_pos ⟨hne, hdigits⟩]
    rfl

end Decimal

/-- The bounded integer that a text spells, if it is in range. -/
def BoundedInt.parse? {lo hi : ℤ} (text : List Char) : Option (BoundedInt lo hi) :=
  Decimal.parseInt? text >>= BoundedInt.ofInt?

/-- The same for a type without negative numbers, which takes no sign but a plus. -/
def BoundedInt.parseUnsigned? {lo hi : ℤ} (text : List Char) : Option (BoundedInt lo hi) :=
  if text.head? = some '-' then none else BoundedInt.parse? text

theorem BoundedInt.parse?_nonneg {lo hi : ℤ} {digits : List Char} {n : BoundedInt lo hi}
    (hdigits : digits.all Char.isDigit = true) (h : BoundedInt.parse? digits = some n) :
    0 ≤ n.val := by
  obtain ⟨m, hm, hn⟩ := Option.bind_eq_some_iff.mp h
  rw [BoundedInt.ofInt?_eq_some_iff.mp hn]
  exact Decimal.parseInt?_nonneg hdigits hm

/-- Digits are parsed to what they spell, if that is in range. -/
theorem BoundedInt.parse?_digits {lo hi : ℤ} {digits : List Char} {n : BoundedInt lo hi}
    (hne : digits ≠ []) (hdigits : digits.all Char.isDigit = true) :
    BoundedInt.parse? digits = some n ↔ n.val = Decimal.value digits := by
  rw [BoundedInt.parse?, Decimal.parseInt?_digits hne hdigits, Option.bind_eq_bind,
    Option.bind_some, BoundedInt.ofInt?_eq_some_iff]

example : (BoundedInt.parse? "-42".toList : Option I64) = some (.lit (-42)) := by decide

end Foundation
