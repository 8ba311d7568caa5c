import Fresnica.Foundation.Decimal
import Fresnica.Foundation.Text
import Mathlib.Data.List.DropRight
import Mathlib.Data.Rat.Cast.Order
import Mathlib.Tactic.FieldSimp

/-!
# Fixed-point numbers in texts

A number with places behind a point is a text of digits with at most one point in it. Moved by
so many places it is an integer exactly when that many places hold what is left of the fraction
without the zeros at its end. A number of units is printed by splitting its digits at the point.

## Main definitions

* `PointText` — digits, and others behind a point if there is one
* `PointText.decimal` — the number that a text denotes
* `PointText.significant` — the places that count
* `PointText.fixed` — the text of a number of units

## Main results

* `PointText.decimal_mul_pow_eq_iff` — when a moved number is an integer, and which
* `PointText.decimal_fixed` — a text denotes the units it is printed for
-/

namespace Foundation

theorem not_mem_point {digits : List Char} (h : digits.all Char.isDigit = true) :
    '.' ∉ digits := fun hmem => absurd (List.all_eq_true.mp h '.' hmem) (by decide)

theorem isSpace_of_isDigit {c : Char} (h : c.isDigit = true) : Text.isSpace c = false := by
  obtain ⟨hlt, hle⟩ := Decimal.digit_lt h
  have hzero : '0'.toNat = 48 := rfl
  rw [hzero] at hlt hle
  simp only [Text.isSpace, Text.isWhitespace, Bool.or_eq_false_iff, Bool.and_eq_false_iff,
    decide_eq_false_iff_not, beq_eq_false_iff_ne]
  omega

namespace Decimal

/-! ### Zeros at either end -/

/-- The digits without the zeros at their end. -/
def trimZeros (digits : List Char) : List Char := digits.rdropWhile (· = '0')

variable {digits rest : List Char} {c : Char}

theorem trimZeros_begins : trimZeros digits <+: digits := List.rdropWhile_prefix _ _

theorem all_isDigit_trimZeros (h : digits.all Char.isDigit = true) :
    (trimZeros digits).all Char.isDigit = true :=
  List.all_eq_true.mpr fun c hc => List.all_eq_true.mp h c (trimZeros_begins.subset hc)

/-- What is trimmed are zeros. -/
theorem trimZeros_append (digits : List Char) :
    trimZeros digits ++ List.replicate (digits.length - (trimZeros digits).length) '0' =
      digits := by
  have happend : trimZeros digits ++ digits.rtakeWhile (· = '0') = digits :=
    List.rdropWhile_append_rtakeWhile
  have hzeros : digits.rtakeWhile (· = '0') =
      List.replicate (digits.rtakeWhile (· = '0')).length '0' :=
    List.eq_replicate_iff.mpr ⟨rfl, fun c hc => by simpa using List.mem_rtakeWhile_imp hc⟩
  have hlength := congrArg List.length happend
  rw [List.length_append] at hlength
  rw [← hlength, Nat.add_sub_cancel_left, ← hzeros, happend]

theorem all_isDigit_of_trimZeros (h : (trimZeros digits).all Char.isDigit = true) :
    digits.all Char.isDigit = true := by
  rw [← trimZeros_append digits, List.all_append, h, Bool.true_and, List.all_eq_true]
  intro c hc
  rw [List.eq_of_mem_replicate hc]
  decide

theorem value_trimZeros (digits : List Char) :
    value digits = value (trimZeros digits) *
      10 ^ (digits.length - (trimZeros digits).length) := by
  conv_lhs => rw [← trimZeros_append digits]
  rw [value_append, value_replicate_zero, List.length_replicate, add_zero]

/-- A number that ends in a digit other than zero is not a multiple of ten. -/
theorem not_dvd_value (hc : c.isDigit = true) (hne : c ≠ '0') : ¬ 10 ∣ value (digits ++ [c]) := by
  obtain ⟨hlt, hle⟩ := digit_lt hc
  have hpos : c.toNat - '0'.toNat ≠ 0 := fun h =>
    hne (Char.toNat_inj.mp (Nat.le_antisymm (Nat.sub_eq_zero_iff_le.mp h) hle))
  rw [value_append, value_singleton, List.length_singleton, pow_one]
  omega

/-- Zeros before a number change nothing. -/
theorem value_dropWhile_zero (digits : List Char) :
    value (digits.dropWhile (· = '0')) = value digits := by
  induction digits with
  | nil => rfl
  | cons c digits ih =>
    by_cases hc : c = '0'
    · rw [List.dropWhile_cons_of_pos (by simpa using hc), ih, ← List.singleton_append, value_append,
        hc]
      simp [value_singleton]
    · rw [List.dropWhile_cons_of_neg (by simpa using hc)]

/-- A number that starts with a digit other than zero has all its places. -/
theorem pow_le_value (hc : c.isDigit = true) (hne : c ≠ '0') :
    10 ^ rest.length ≤ value (c :: rest) := by
  obtain ⟨-, hle⟩ := digit_lt hc
  have hpos : 1 ≤ c.toNat - '0'.toNat :=
    Nat.pos_of_ne_zero fun h =>
      hne (Char.toNat_inj.mp (Nat.le_antisymm (Nat.sub_eq_zero_iff_le.mp h) hle))
  rw [← List.singleton_append, value_append, value_singleton]
  exact (Nat.le_mul_of_pos_left _ hpos).trans (Nat.le_add_right _ _)

end Decimal

/-- Digits, and others behind a point if there is one. -/
structure PointText where
  whole : List Char
  fraction : Option (List Char)
  whole_ne : whole ≠ []
  whole_digits : whole.all Char.isDigit = true
  fraction_digits : (fraction.getD []).all Char.isDigit = true

namespace PointText

variable {t : PointText} {k n : ℕ}

def chars (t : PointText) : List Char := t.whole ++ t.fraction.elim [] ('.' :: ·)

def places (t : PointText) : List Char := t.fraction.getD []

/-- The number that the text denotes. -/
def decimal (t : PointText) : ℚ :=
  Decimal.value t.whole + Decimal.value t.places / 10 ^ t.places.length

/-- The places that count. -/
def significant (t : PointText) : List Char := Decimal.trimZeros t.places

/-- The digits of the text, without the zeros at the end of its places. -/
def digits (t : PointText) : List Char := t.whole ++ t.significant

theorem all_isDigit_digits (t : PointText) : t.digits.all Char.isDigit = true := by
  rw [digits, List.all_append, t.whole_digits, Bool.true_and]
  exact Decimal.all_isDigit_trimZeros t.fraction_digits

/-! ### The number moved by places -/

theorem decimal_mul_pow_significant (t : PointText) :
    t.decimal * 10 ^ t.significant.length = Decimal.value t.digits := by
  have hle : t.significant.length ≤ t.places.length := Decimal.trimZeros_begins.length_le
  have hplaces : (10 : ℚ) ^ t.places.length =
      10 ^ t.significant.length * 10 ^ (t.places.length - t.significant.length) := by
    rw [← pow_add, Nat.add_sub_cancel' hle]
  have hvalue : (Decimal.value t.places : ℚ) =
      Decimal.value t.significant * 10 ^ (t.places.length - t.significant.length) := by
    rw [Decimal.value_trimZeros t.places]
    push_cast
    rfl
  have hpow : (10 : ℚ) ^ (t.places.length - t.significant.length) ≠ 0 := by positivity
  rw [decimal, digits, Decimal.value_append, hvalue, hplaces, mul_div_mul_right _ _ hpow, add_mul,
    div_mul_cancel₀ _ (by positivity)]
  push_cast
  rfl

/-- A number is moved to an integer when all places that count are moved. -/
theorem decimal_mul_pow_eq_iff : t.decimal * 10 ^ k = n ↔
    t.significant.length ≤ k ∧ n = Decimal.value t.digits * 10 ^ (k - t.significant.length) := by
  have hmoved := decimal_mul_pow_significant t
  constructor
  · intro h
    have hle : t.significant.length ≤ k := by
      by_contra hlt
      rw [not_le] at hlt
      have hsplit : (10 : ℚ) ^ t.significant.length =
          10 ^ k * 10 ^ (t.significant.length - k) := by
        rw [← pow_add, Nat.add_sub_cancel' hlt.le]
      rw [hsplit, ← mul_assoc, h] at hmoved
      have hvalue : n * 10 ^ (t.significant.length - k) = Decimal.value t.digits := by
        exact_mod_cast hmoved
      -- the last place that counts is not zero, so no ten can be taken out of the digits
      have hne : t.significant ≠ [] := List.ne_nil_of_length_pos (Nat.zero_lt_of_lt hlt)
      have hlast := List.rdropWhile_last_not (p := (decide <| · = '0')) t.places hne
      have hdigit := List.all_eq_true.mp (Decimal.all_isDigit_trimZeros t.fraction_digits) _
        (List.getLast_mem hne)
      have hsplitDigits : t.digits =
          (t.whole ++ t.significant.dropLast) ++ [t.significant.getLast hne] := by
        rw [List.append_assoc, List.dropLast_append_getLast hne]
        rfl
      have hdvd : 10 ∣ Decimal.value t.digits := by
        rw [← hvalue]
        exact (dvd_pow_self 10 (Nat.sub_ne_zero_of_lt hlt)).mul_left n
      rw [hsplitDigits] at hdvd
      exact Decimal.not_dvd_value hdigit (fun hzero => hlast (decide_eq_true hzero)) hdvd
    refine ⟨hle, ?_⟩
    rw [← Nat.add_sub_cancel' hle, pow_add, ← mul_assoc, hmoved] at h
    exact_mod_cast h.symm
  · intro h
    obtain ⟨hle, rfl⟩ := h
    rw [← Nat.add_sub_cancel' hle, pow_add, ← mul_assoc, hmoved, Nat.add_sub_cancel_left]
    push_cast
    rfl

/-! ### The point -/

/-- A text is split at its only point. -/
theorem splitOn_chars (t : PointText) : t.chars.splitOn '.' = t.whole :: t.fraction.toList := by
  obtain ⟨whole, fraction, hne, hwhole, hfraction⟩ := t
  unfold chars
  cases fraction with
  | none =>
    rw [Option.elim_none, List.append_nil, List.splitOn_eq_singleton (not_mem_point hwhole)]
    rfl
  | some fraction =>
    rw [Option.getD_some] at hfraction
    rw [Option.elim_some, List.splitOn_append_cons_self_of_not_mem (not_mem_point hwhole),
      List.splitOn_eq_singleton (not_mem_point hfraction)]
    rfl

/-- What is split is put together again around the point. -/
theorem chars_of_splitOn {value : List Char}
    (h : value.splitOn '.' = t.whole :: t.fraction.toList) : t.chars = value := by
  calc t.chars = ['.'].intercalate (t.chars.splitOn '.') := (List.intercalate_splitOn '.').symm
    _ = ['.'].intercalate (value.splitOn '.') := by rw [splitOn_chars, h]
    _ = value := List.intercalate_splitOn '.'

/-- The characters of a text are digits and points. -/
theorem mem_chars {c : Char} (h : c ∈ t.chars) : c.isDigit = true ∨ c = '.' := by
  rcases List.mem_append.mp h with hwhole | hfraction
  · exact Or.inl (List.all_eq_true.mp t.whole_digits c hwhole)
  · cases hf : t.fraction with
    | none => simp [hf] at hfraction
    | some fraction =>
      have hdigits := t.fraction_digits
      rw [hf, Option.getD_some] at hdigits
      rw [hf, Option.elim_some] at hfraction
      rcases List.mem_cons.mp hfraction with rfl | hmem
      · exact Or.inr rfl
      · exact Or.inl (List.all_eq_true.mp hdigits c hmem)

theorem chars_ne_nil (t : PointText) : t.chars ≠ [] :=
  List.append_ne_nil_of_left_ne_nil t.whole_ne _

/-- A text has no white space. -/
theorem strip_chars (t : PointText) :
    Text.strip (String.ofList t.chars) = String.ofList t.chars := by
  refine Text.trimBy_of_forall_not fun c hc => ?_
  rw [String.toList_ofList] at hc
  rcases mem_chars hc with hdigit | rfl
  · exact isSpace_of_isDigit hdigit
  · decide

theorem trim_chars (t : PointText) : Text.trim (String.ofList t.chars) = String.ofList t.chars := by
  rw [← t.strip_chars, Text.trim_strip]

/-! ### Printing -/

/-- The digits of a number, at least one before the last `k`. -/
def paddedDigits (n k : ℕ) : List Char :=
  List.replicate (k + 1 - (Nat.toDigits 10 n).length) '0' ++ Nat.toDigits 10 n

theorem lt_length_paddedDigits : k < (paddedDigits n k).length := by
  rw [paddedDigits, List.length_append, List.length_replicate]
  omega

theorem all_isDigit_paddedDigits : (paddedDigits n k).all Char.isDigit = true := by
  rw [paddedDigits, List.all_append, Decimal.all_isDigit_toDigits, Bool.and_true, List.all_eq_true]
  intro c hc
  rw [List.eq_of_mem_replicate hc]
  decide

theorem value_paddedDigits : Decimal.value (paddedDigits n k) = n := by
  rw [paddedDigits, Decimal.value_append, Decimal.value_replicate_zero, Decimal.value_toDigits,
    zero_mul, zero_add]

/-- The digits before the point. -/
def wholeDigits (n k : ℕ) : List Char :=
  (paddedDigits n k).take ((paddedDigits n k).length - k)

/-- The digits behind the point, without the zeros at their end. -/
def fractionDigits (n k : ℕ) : List Char :=
  Decimal.trimZeros ((paddedDigits n k).drop ((paddedDigits n k).length - k))

theorem all_isDigit_fractionDigits : (fractionDigits n k).all Char.isDigit = true :=
  Decimal.all_isDigit_trimZeros
    (List.all_eq_true.mpr fun c hc =>
      List.all_eq_true.mp all_isDigit_paddedDigits c (List.mem_of_mem_drop hc))

theorem wholeDigits_ne_nil : wholeDigits n k ≠ [] := by
  have hlt := lt_length_paddedDigits (n := n) (k := k)
  apply List.ne_nil_of_length_pos
  rw [wholeDigits, List.length_take]
  omega

theorem all_isDigit_wholeDigits : (wholeDigits n k).all Char.isDigit = true :=
  List.all_eq_true.mpr fun c hc =>
    List.all_eq_true.mp all_isDigit_paddedDigits c (List.mem_of_mem_take hc)

/-- The text of a number of units, of which a whole has `10 ^ k`. -/
def fixed (n k : ℕ) : PointText where
  whole := wholeDigits n k
  fraction := if fractionDigits n k = [] then none else some (fractionDigits n k)
  whole_ne := wholeDigits_ne_nil
  whole_digits := all_isDigit_wholeDigits
  fraction_digits := by
    split_ifs
    · rfl
    · exact all_isDigit_fractionDigits

theorem places_fixed : (fixed n k).places = fractionDigits n k := by
  unfold places fixed
  dsimp only
  split_ifs with h
  · exact h.symm
  · rfl

theorem significant_fixed : (fixed n k).significant = fractionDigits n k := by
  rw [significant, places_fixed]
  exact List.rdropWhile_idempotent _ _

/-- A text denotes the units it is printed for. -/
theorem decimal_fixed (n k : ℕ) : (fixed n k).decimal * 10 ^ k = n := by
  have hlt := lt_length_paddedDigits (n := n) (k := k)
  have hlength : ((paddedDigits n k).drop ((paddedDigits n k).length - k)).length = k := by
    rw [List.length_drop]
    omega
  have hle : (fractionDigits n k).length ≤ k :=
    Decimal.trimZeros_begins.length_le.trans hlength.le
  have hfraction := Decimal.value_trimZeros
    ((paddedDigits n k).drop ((paddedDigits n k).length - k))
  rw [hlength] at hfraction
  rw [decimal_mul_pow_eq_iff, significant_fixed, digits, significant_fixed, Decimal.value_append,
    add_mul, mul_assoc, ← pow_add, Nat.add_sub_cancel' hle]
  refine ⟨hle, ?_⟩
  calc n = Decimal.value (paddedDigits n k) := value_paddedDigits.symm
    _ = Decimal.value ((paddedDigits n k).take ((paddedDigits n k).length - k) ++
          (paddedDigits n k).drop ((paddedDigits n k).length - k)) := by
        rw [List.take_append_drop]
    _ = _ := by rw [Decimal.value_append, hlength, hfraction]; rfl

end PointText

end Foundation
