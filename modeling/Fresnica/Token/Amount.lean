import Fresnica.Foundation.FixedPoint
import Fresnica.Foundation.Outcome

/-!
# Token amounts

A token counts in units, and its contract says how many decimals are shown: an amount of
`raw` units is written with so many places behind a point. The number of decimals is the
contract's own choice, so an amount is parsed without building more digits than an integer of
128 bits can have.

## Main definitions

* `parseTokenAmount` — the units of a text
* `TokenDigits` — the digits that are left to parse, after the range check
* `formatFixedPoint` — the text of a number of units

## Main results

* `parseTokenAmount_eq_ok_iff` — the texts that are accepted, and their units
* `formatFixedPoint_eq` — what is printed, with its sign
* `tokenAmounts_exact` — parsing and printing are exact
-/

namespace Fresnica

open Foundation

/-- A refusal, or the end of the program on a subtraction below zero. -/
inductive TokenAmountError
  | refused (message : String)
  | underflow
  deriving DecidableEq, Repr

/-- `usize` subtraction. -/
def usizeSub (a b : ℕ) : Except TokenAmountError ℕ :=
  if b ≤ a then .ok (a - b) else .error .underflow

/-- `usize` addition that stays at the greatest value. -/
def usizeSaturatingAdd (a b : ℕ) : ℕ := min (a + b) (2 ^ 64 - 1)

def notPositiveDecimal : TokenAmountError :=
  .refused "token transfer amount must be a positive decimal number"

def outsideI128 : TokenAmountError :=
  .refused "token transfer amount is outside the i128 range"

def notPositive : TokenAmountError :=
  .refused "token transfer amount must be greater than zero"

/-- Digits and the zeros that are to be appended to them, once their number is checked. -/
structure TokenDigits where
  significant : List Char
  trailingZeros : ℕ
  length_le : significant.length + trailingZeros ≤ 39

def TokenDigits.extended (digits : TokenDigits) : List Char :=
  digits.significant ++ List.replicate digits.trailingZeros '0'

theorem TokenDigits.length_extended (digits : TokenDigits) : digits.extended.length ≤ 39 := by
  rw [extended, List.length_append, List.length_replicate]
  exact digits.length_le

theorem le_of_not_saturated {a b : ℕ} (h : ¬ 39 < usizeSaturatingAdd a b) : a + b ≤ 39 := by
  rw [usizeSaturatingAdd] at h
  omega

/-- The digits before the first point, and those behind it without the zeros at their end. -/
def tokenParts (value : List Char) : Except TokenAmountError (List Char × List Char) := do
  ensure (¬ (value = [] ∨ value.head? = some '-' ∨ value.head? = some '+')) notPositiveDecimal
  let parts := value.splitOn '.'
  let whole := parts.head?.getD []
  let fraction := Decimal.trimZeros (parts[1]?.getD [])
  ensure (¬ (parts[2]?.isSome = true ∨ whole = [] ∨ whole.all Char.isDigit = false ∨
    fraction.all Char.isDigit = false)) notPositiveDecimal
  return (whole, fraction)

/-- The checks up to the one that bounds the digits. -/
def tokenDigits (value : List Char) (decimals : U32) : Except TokenAmountError TokenDigits := do
  let (whole, fraction) ← tokenParts value
  ensure (fraction.length ≤ decimals.val.toNat)
    (.refused s!"token transfer amount has more than {decimals.val} decimal places")
  let significant := (whole ++ fraction).dropWhile (· = '0')
  ensure (significant ≠ []) notPositive
  let trailingZeros ← usizeSub decimals.val.toNat fraction.length
  if h : 39 < usizeSaturatingAdd significant.length trailingZeros then .error outsideI128
  else return ⟨significant, trailingZeros, le_of_not_saturated h⟩

def parseTokenAmount (value : String) (decimals : U32) : Except TokenAmountError I128 := do
  let digits ← tokenDigits (Text.trim value).toList decimals
  let raw ← okOr (BoundedInt.parse? digits.extended) outsideI128
  ensure (0 < raw.val) notPositive
  return raw

/-- The digits of a magnitude, split at the point. -/
def splitDigits (digits : List Char) (decimals : ℕ) : List Char × List Char :=
  if digits.length ≤ decimals then
    (['0'], List.replicate (decimals - digits.length) '0' ++ digits)
  else
    let split := digits.length - decimals
    (digits.take split, digits.drop split)

/-- The text of a magnitude. -/
def magnitudeChars (magnitude decimals : ℕ) : List Char :=
  let digits := Nat.toDigits 10 magnitude
  if decimals = 0 then digits
  else
    let (whole, fraction) := splitDigits digits decimals
    let fraction := Decimal.trimZeros fraction
    if fraction = [] then whole else whole ++ '.' :: fraction

def formatFixedPoint (raw : I128) (decimals : U32) : Option String :=
  if 38 < decimals.val.toNat then none
  else
    let value := magnitudeChars raw.val.natAbs decimals.val.toNat
    some (String.ofList (if raw.val < 0 then '-' :: value else value))

/-! ### Reading -/

variable {value : List Char} {text : String} {decimals : U32} {raw : I128}
variable {whole fraction : List Char} {digits : TokenDigits}

theorem usizeSub_eq_ok {a b c : ℕ} (h : b ≤ a) : usizeSub a b = .ok c ↔ c = a - b := by
  rw [usizeSub, if_pos h, Except.ok.injEq, eq_comm]

/-- Only a text of digits with at most one point has parts. -/
theorem exists_chars_of_tokenParts (h : tokenParts value = .ok (whole, fraction)) :
    ∃ t : PointText, t.chars = value ∧ t.whole = whole ∧ t.significant = fraction := by
  obtain ⟨-, h⟩ := ensure_bind_eq_ok.mp h
  obtain ⟨hparts, h⟩ := ensure_bind_eq_ok.mp h
  obtain ⟨rfl, rfl⟩ := Prod.mk.inj (Except.ok.inj h)
  simp only [not_or, Bool.not_eq_true, Bool.not_eq_false] at hparts
  obtain ⟨hthird, hne, hwhole, hfraction⟩ := hparts
  have hplaces := Decimal.all_isDigit_of_trimZeros hfraction
  cases hsplit : value.splitOn '.' with
  | nil =>
    rw [hsplit] at hne
    exact absurd rfl hne
  | cons first rest =>
    rw [hsplit] at hthird hne hwhole hplaces
    -- a third part was refused, so there is at most one point
    obtain ⟨fraction, rfl⟩ : ∃ fraction : Option (List Char), rest = fraction.toList := by
      cases rest with
      | nil => exact ⟨none, rfl⟩
      | cons second others =>
        cases others with
        | nil => exact ⟨some second, rfl⟩
        | cons third others => exact absurd hthird (by simp)
    have hsecond : (first :: fraction.toList)[1]?.getD [] = fraction.getD [] := by
      cases fraction <;> rfl
    rw [hsecond] at hplaces ⊢
    have hfirst : first ≠ [] := hne
    exact ⟨⟨first, fraction, hfirst, hwhole, hplaces⟩, PointText.chars_of_splitOn hsplit, rfl,
      rfl⟩

theorem tokenParts_chars (t : PointText) : tokenParts t.chars = .ok (t.whole, t.significant) := by
  obtain ⟨c, rest, hwhole⟩ := List.exists_cons_of_ne_nil t.whole_ne
  have hdigit : c.isDigit = true :=
    List.all_eq_true.mp t.whole_digits c (hwhole ▸ List.mem_cons_self)
  have hhead : t.chars.head? = some c := by
    rw [PointText.chars, hwhole, List.cons_append, List.head?_cons]
  have hparts : t.chars.splitOn '.' = t.whole :: t.fraction.toList := t.splitOn_chars
  have hsecond : (t.chars.splitOn '.')[1]?.getD [] = t.places := by
    -- there is one point at most, so the third part is missing
    rw [hparts, PointText.places]
    cases t.fraction <;> rfl
  have hthird : (t.chars.splitOn '.')[2]?.isSome = false := by
    rw [hparts]
    cases t.fraction <;> rfl
  rw [tokenParts]
  refine ensure_bind_eq_ok.mpr ⟨?_, ensure_bind_eq_ok.mpr ⟨?_, ?_⟩⟩
  · rw [hhead]
    rintro (hnil | hminus | hplus)
    · exact t.chars_ne_nil hnil
    · exact absurd (Option.some.inj hminus ▸ hdigit) (by decide)
    · exact absurd (Option.some.inj hplus ▸ hdigit) (by decide)
  · rw [hsecond, hthird, hparts]
    rintro (hsome | hnil | hwhole | hfraction)
    · cases hsome
    · exact t.whole_ne hnil
    · exact absurd (t.whole_digits.symm.trans hwhole) (by simp)
    · have hplaces := Decimal.all_isDigit_trimZeros t.fraction_digits
      exact absurd (hplaces.symm.trans hfraction) (by simp)
  · rw [hsecond, hparts]
    rfl

variable {t : PointText}

/-- What is left to parse of a text, when its digits fit. -/
theorem tokenDigits_eq_ok : tokenDigits t.chars decimals = .ok digits ↔
    t.significant.length ≤ decimals.val.toNat ∧
      digits.significant = t.digits.dropWhile (· = '0') ∧ digits.significant ≠ [] ∧
      digits.trailingZeros = decimals.val.toNat - t.significant.length := by
  rw [tokenDigits, tokenParts_chars, ok_bind]
  constructor
  · intro h
    obtain ⟨hplaces, h⟩ := ensure_bind_eq_ok.mp h
    obtain ⟨hne, h⟩ := ensure_bind_eq_ok.mp h
    obtain ⟨zeros, hzeros, h⟩ := bind_eq_ok.mp h
    split_ifs at h with hlong
    obtain rfl := Except.ok.inj h
    exact ⟨hplaces, rfl, hne, (usizeSub_eq_ok hplaces).mp hzeros⟩
  · intro h
    obtain ⟨significant, zeros, hlength⟩ := digits
    obtain ⟨hplaces, rfl, hne, rfl⟩ := h
    refine ensure_bind_eq_ok.mpr ⟨hplaces, ensure_bind_eq_ok.mpr ⟨hne, ?_⟩⟩
    rw [(usizeSub_eq_ok hplaces).mpr rfl, ok_bind, dif_neg]
    · rfl
    · rw [usizeSaturatingAdd]
      exact not_lt.mpr ((min_le_left _ _).trans hlength)

/-- Only a text of digits with at most one point has digits to parse. -/
theorem exists_chars_of_tokenDigits (h : tokenDigits value decimals = .ok digits) :
    ∃ t : PointText, t.chars = value := by
  obtain ⟨⟨whole, fraction⟩, hparts, -⟩ := bind_eq_ok.mp h
  obtain ⟨t, ht, -, -⟩ := exists_chars_of_tokenParts hparts
  exact ⟨t, ht⟩

theorem TokenDigits.value_extended (digits : TokenDigits) : Decimal.value digits.extended =
    Decimal.value digits.significant * 10 ^ digits.trailingZeros := by
  rw [extended, Decimal.value_append, Decimal.value_replicate_zero, List.length_replicate, add_zero]

theorem all_isDigit_extended (h : tokenDigits t.chars decimals = .ok digits) :
    digits.extended.all Char.isDigit = true := by
  obtain ⟨-, hsignificant, -, -⟩ := tokenDigits_eq_ok.mp h
  rw [TokenDigits.extended, hsignificant, List.all_append, Bool.and_eq_true, List.all_eq_true,
    List.all_eq_true]
  constructor
  · intro c hc
    exact List.all_eq_true.mp t.all_isDigit_digits c ((List.dropWhile_suffix _).subset hc)
  · intro c hc
    rw [List.eq_of_mem_replicate hc]
    decide

/-- The digits that are left are parsed to the number of the text, moved by the decimals. -/
theorem parse?_extended (h : tokenDigits t.chars decimals = .ok digits) :
    BoundedInt.parse? digits.extended = some raw ↔ raw.val =
      (Decimal.value t.digits * 10 ^ (decimals.val.toNat - t.significant.length) : ℕ) := by
  obtain ⟨-, hsignificant, hne, hzeros⟩ := tokenDigits_eq_ok.mp h
  have hextended : digits.extended ≠ [] := List.append_ne_nil_of_left_ne_nil hne _
  rw [BoundedInt.parse?_digits hextended (all_isDigit_extended h), digits.value_extended,
    hsignificant, Decimal.value_dropWhile_zero, hzeros]

/-- Positive digits that spell an integer of 128 bits are not too many. -/
theorem exists_tokenDigits (hplaces : t.significant.length ≤ decimals.val.toNat)
    (hpos : 0 < Decimal.value t.digits)
    (hmax : Decimal.value t.digits * 10 ^ (decimals.val.toNat - t.significant.length) <
      10 ^ 39) : ∃ digits, tokenDigits t.chars decimals = .ok digits := by
  have hvalue := Decimal.value_dropWhile_zero t.digits
  cases hsignificant : t.digits.dropWhile (· = '0') with
  | nil =>
    rw [hsignificant, Decimal.value_nil] at hvalue
    exact absurd hvalue hpos.ne
  | cons c rest =>
    -- the first digit that is left is not zero, so as many digits spell at least a power of ten
    have hzero : c ≠ '0' := by
      have hne : t.digits.dropWhile (· = '0') ≠ [] := hsignificant ▸ List.cons_ne_nil c rest
      have hhead := List.head_dropWhile_not _ hne
      simpa [hsignificant] using hhead
    have hdigit : c.isDigit = true :=
      List.all_eq_true.mp t.all_isDigit_digits c
        ((List.dropWhile_suffix _).subset (hsignificant ▸ List.mem_cons_self))
    have hpow : 10 ^ (rest.length + (decimals.val.toNat - t.significant.length)) < 10 ^ 39 := by
      refine lt_of_le_of_lt ?_ hmax
      rw [pow_add, ← hvalue, hsignificant]
      exact Nat.mul_le_mul_right _ (Decimal.pow_le_value hdigit hzero)
    have hlength := (Nat.pow_lt_pow_iff_right (by decide)).mp hpow
    refine ⟨⟨c :: rest, decimals.val.toNat - t.significant.length, ?_⟩,
      tokenDigits_eq_ok.mpr ⟨hplaces, hsignificant.symm, List.cons_ne_nil c rest, rfl⟩⟩
    rw [List.length_cons]
    omega

/-- The accepted texts are those of a positive number that the decimals move to an integer of
128 bits, and it is parsed to that integer. -/
theorem parseTokenAmount_eq_ok_iff : parseTokenAmount text decimals = .ok raw ↔
    ∃ t : PointText, t.chars = (Text.trim text).toList ∧ 0 < t.decimal ∧
      t.decimal * 10 ^ decimals.val.toNat = raw.val := by
  have hten : (0 : ℚ) < 10 ^ decimals.val.toNat := by positivity
  constructor
  · intro h
    obtain ⟨digits, hdigits, h⟩ := bind_eq_ok.mp h
    obtain ⟨raw', hraw, h⟩ := bind_eq_ok.mp h
    obtain ⟨hpos, h⟩ := ensure_bind_eq_ok.mp h
    obtain rfl := Except.ok.inj h
    obtain ⟨t, ht⟩ := exists_chars_of_tokenDigits hdigits
    rw [← ht] at hdigits
    have hplaces := (tokenDigits_eq_ok.mp hdigits).1
    have hvalue := (parse?_extended hdigits).mp (okOr_eq_ok.mp hraw)
    have hmoved : t.decimal * 10 ^ decimals.val.toNat = raw'.val := by
      rw [hvalue, Int.cast_natCast]
      exact PointText.decimal_mul_pow_eq_iff.mpr ⟨hplaces, rfl⟩
    refine ⟨t, ht, (mul_pos_iff_of_pos_right hten).mp ?_, hmoved⟩
    rw [hmoved]
    exact_mod_cast hpos
  · intro h
    obtain ⟨t, ht, hpos, hmoved⟩ := h
    have hraw : 0 < raw.val := by
      have hproduct := mul_pos hpos hten
      rw [hmoved] at hproduct
      exact_mod_cast hproduct
    have hnat : t.decimal * 10 ^ decimals.val.toNat = raw.val.toNat := by
      rw [hmoved, ← Int.cast_natCast, Int.toNat_of_nonneg hraw.le]
    obtain ⟨hplaces, hvalue⟩ := PointText.decimal_mul_pow_eq_iff.mp hnat
    -- an integer of 128 bits has at most 39 digits, so the length check passes
    have hmax : raw.val.toNat < 10 ^ 39 := by
      have hle := raw.le_hi
      have hbound : (170141183460469231731687303715884105727 : ℤ) < ((10 ^ 39 : ℕ) : ℤ) := by
        norm_num
      omega
    have hdigitsPos : 0 < Decimal.value t.digits := by
      apply Nat.pos_of_ne_zero
      intro hzero
      rw [hzero, zero_mul] at hvalue
      omega
    obtain ⟨digits, hdigits⟩ := exists_tokenDigits hplaces hdigitsPos (hvalue ▸ hmax)
    have hparse : BoundedInt.parse? digits.extended = some raw := by
      rw [parse?_extended hdigits, ← hvalue]
      exact (Int.toNat_of_nonneg hraw.le).symm
    rw [parseTokenAmount, ← ht, hdigits, ok_bind, hparse]
    exact ensure_bind_eq_ok.mpr ⟨hraw, rfl⟩

/-- No number of decimals makes the length of the fraction be taken from less. -/
theorem tokenDigits_failsIn : FailsIn (· ≠ .underflow) (tokenDigits value decimals) := by
  unfold tokenDigits tokenParts
  refine FailsIn.bind ?_ fun parts _ => ?_
  · refine FailsIn.bind (FailsIn.ensure (by simp [notPositiveDecimal])) fun _ _ => ?_
    exact FailsIn.bind (FailsIn.ensure (by simp [notPositiveDecimal])) fun _ _ => FailsIn.ok
  · refine FailsIn.bind (FailsIn.ensure (by simp)) fun _ hplaces => ?_
    refine FailsIn.bind (FailsIn.ensure (by simp [notPositive])) fun _ _ => ?_
    refine FailsIn.bind ?_ fun zeros _ => ?_
    · rw [usizeSub, if_pos (ensure_eq_ok.mp hplaces)]
      exact FailsIn.ok
    · split_ifs
      · exact FailsIn.error (by simp [outsideI128])
      · exact FailsIn.ok

theorem parseTokenAmount_failsIn : FailsIn (· ≠ .underflow) (parseTokenAmount text decimals) := by
  refine FailsIn.bind tokenDigits_failsIn fun digits _ => ?_
  refine FailsIn.bind (FailsIn.okOr (by simp [outsideI128])) fun raw _ => ?_
  exact FailsIn.bind (FailsIn.ensure (by simp [notPositive])) fun _ _ => FailsIn.ok

/-- The digits that are put together before the range check are no more than the text has. -/
theorem length_tokenParts (h : tokenParts value = .ok (whole, fraction)) :
    (whole ++ fraction).length ≤ value.length := by
  obtain ⟨t, rfl, rfl, rfl⟩ := exists_chars_of_tokenParts h
  have hplaces : t.significant.length ≤ t.places.length := Decimal.trimZeros_begins.length_le
  have hfraction : t.places.length ≤ (t.fraction.elim [] ('.' :: ·)).length := by
    rw [PointText.places]
    cases t.fraction with
    | none => exact le_rfl
    | some fraction => exact Nat.le_succ _
  rw [PointText.chars, List.length_append, List.length_append]
  omega

/-! ### Printing -/

variable {magnitude k : ℕ}

/-- The digits behind the point, with the zeros at their end. -/
def pointDigits (magnitude k : ℕ) : List Char :=
  (PointText.paddedDigits magnitude k).drop ((PointText.paddedDigits magnitude k).length - k)

/-- Either way to pad splits the padded digits. -/
theorem splitDigits_toDigits : splitDigits (Nat.toDigits 10 magnitude) k =
    (PointText.wholeDigits magnitude k, pointDigits magnitude k) := by
  rw [splitDigits, PointText.wholeDigits, pointDigits]
  by_cases hshort : (Nat.toDigits 10 magnitude).length ≤ k
  · have hpadded : PointText.paddedDigits magnitude k =
        '0' :: (List.replicate (k - (Nat.toDigits 10 magnitude).length) '0' ++
          Nat.toDigits 10 magnitude) := by
      rw [PointText.paddedDigits, Nat.succ_sub hshort, List.replicate_succ, List.cons_append]
    have hlength : (PointText.paddedDigits magnitude k).length - k = 1 := by
      rw [hpadded, List.length_cons, List.length_append, List.length_replicate]
      omega
    rw [if_pos hshort, hlength, hpadded]
    rfl
  · have hpadded : PointText.paddedDigits magnitude k = Nat.toDigits 10 magnitude := by
      rw [PointText.paddedDigits, Nat.sub_eq_zero_of_le (not_le.mp hshort), List.replicate_zero,
        List.nil_append]
    rw [if_neg hshort, hpadded]

/-- A magnitude is printed as the text of its units. -/
theorem magnitudeChars_eq : magnitudeChars magnitude k = (PointText.fixed magnitude k).chars := by
  have hfraction : Decimal.trimZeros (pointDigits magnitude k) =
      PointText.fractionDigits magnitude k := rfl
  unfold magnitudeChars PointText.chars PointText.fixed
  by_cases hk : k = 0
  · have hpadded : PointText.paddedDigits magnitude 0 = Nat.toDigits 10 magnitude := by
      rw [PointText.paddedDigits, Nat.sub_eq_zero_of_le Nat.length_toDigits_pos,
        List.replicate_zero, List.nil_append]
    subst hk
    simp [PointText.wholeDigits, PointText.fractionDigits, hpadded, Decimal.trimZeros]
  · rw [if_neg hk, splitDigits_toDigits]
    dsimp only
    rw [hfraction]
    by_cases hnone : PointText.fractionDigits magnitude k = []
    · rw [if_pos hnone, if_pos hnone, Option.elim_none, List.append_nil]
    · rw [if_neg hnone, if_neg hnone, Option.elim_some]

/-- What is printed is the text of the units of the magnitude, with the sign before it. -/
theorem formatFixedPoint_eq (h : decimals.val.toNat ≤ 38) : formatFixedPoint raw decimals =
    some ((if raw.val < 0 then "-" else "") ++
      String.ofList (PointText.fixed raw.val.natAbs decimals.val.toNat).chars) := by
  rw [formatFixedPoint, if_neg (not_lt.mpr h), magnitudeChars_eq, Option.some.injEq]
  by_cases hneg : raw.val < 0
  · rw [if_pos hneg, if_pos hneg, ← String.toList_inj]
    simp
  · rw [if_neg hneg, if_neg hneg, String.empty_append]

/-- What is printed for a positive number of units is parsed to it. -/
theorem parseTokenAmount_formatFixedPoint (hpos : 0 < raw.val) :
    parseTokenAmount
      (String.ofList (PointText.fixed raw.val.natAbs decimals.val.toNat).chars) decimals =
        .ok raw := by
  have hunits := PointText.decimal_fixed raw.val.natAbs decimals.val.toNat
  have hraw : ((raw.val.natAbs : ℕ) : ℚ) = raw.val := by
    rw [← Int.cast_natCast, Int.natAbs_of_nonneg hpos.le]
  rw [parseTokenAmount_eq_ok_iff]
  refine ⟨_, ?_, ?_, hunits.trans hraw⟩
  · rw [PointText.trim_chars, String.toList_ofList]
  · rw [← mul_pos_iff_of_pos_right (show (0 : ℚ) < 10 ^ decimals.val.toNat by positivity), hunits,
      hraw]
    exact_mod_cast hpos

/-- Amounts are parsed and printed exactly. A text is accepted for the units that it denotes, no
subtraction goes below zero, and no more digits are put together than the text has, or an integer
of 128 bits can have. What is printed for units is parsed to them, and a sign stands before the
text of a magnitude. -/
theorem tokenAmounts_exact (text : String) (decimals : U32) :
    (∀ raw, parseTokenAmount text decimals = .ok raw ↔
      ∃ t : PointText, t.chars = (Text.trim text).toList ∧ 0 < t.decimal ∧
        t.decimal * 10 ^ decimals.val.toNat = raw.val) ∧
    parseTokenAmount text decimals ≠ .error .underflow ∧
    (∀ whole fraction, tokenParts (Text.trim text).toList = .ok (whole, fraction) →
      (whole ++ fraction).length ≤ (Text.trim text).toList.length) ∧
    (∀ digits, tokenDigits (Text.trim text).toList decimals = .ok digits →
      digits.extended.length ≤ 39) ∧
    (decimals.val.toNat ≤ 38 → ∀ raw : I128, 0 < raw.val →
      ∃ printed, formatFixedPoint raw decimals = some printed ∧
        parseTokenAmount printed decimals = .ok raw ∧
        ∀ negated : I128, negated.val = -raw.val →
          formatFixedPoint negated decimals = some ("-" ++ printed)) ∧
    (decimals.val.toNat ≤ 38 → ∀ raw : I128, raw.val < 0 →
      ∃ t : PointText, t = PointText.fixed raw.val.natAbs decimals.val.toNat ∧
        t.decimal * 10 ^ decimals.val.toNat = raw.val.natAbs ∧
        formatFixedPoint raw decimals = some ("-" ++ String.ofList t.chars)) := by
  refine ⟨fun raw => parseTokenAmount_eq_ok_iff, ?_, fun whole fraction => length_tokenParts,
    fun digits _ => digits.length_extended, ?_, ?_⟩
  · intro h
    exact parseTokenAmount_failsIn _ h rfl
  · intro hdecimals raw hpos
    refine ⟨_, ?_, parseTokenAmount_formatFixedPoint hpos, ?_⟩
    · rw [formatFixedPoint_eq hdecimals, if_neg (not_lt.mpr hpos.le), String.empty_append]
    · intro negated hnegated
      rw [formatFixedPoint_eq hdecimals, hnegated, Int.natAbs_neg, if_pos (by omega)]
  · intro hdecimals raw hneg
    refine ⟨_, rfl, PointText.decimal_fixed _ _, ?_⟩
    rw [formatFixedPoint_eq hdecimals, if_pos hneg]

/-- With seven decimals, an amount with zeros at its end is parsed, and printed without them. -/
theorem tokenAmounts_exact_seven :
    (∃ t : PointText, t.chars = (Text.trim " 1.2300000").toList ∧ 0 < t.decimal ∧
      t.decimal * 10 ^ (BoundedInt.lit 7 : U32).val.toNat = (BoundedInt.lit 12300000 : I128).val) ∧
    ∃ printed, formatFixedPoint (.lit 12300000) (.lit 7) = some printed ∧
      parseTokenAmount printed (.lit 7) = .ok (.lit 12300000) ∧
      ∀ negated : I128, negated.val = -12300000 →
        formatFixedPoint negated (.lit 7) = some ("-" ++ printed) := by
  have h := tokenAmounts_exact " 1.2300000" (.lit 7)
  exact ⟨(h.1 (.lit 12300000)).mp (by decide +kernel),
    h.2.2.2.2.1 (by decide) (.lit 12300000) (by decide)⟩

example : formatFixedPoint (.lit (-170141183460469231731687303715884105728)) (.lit 38) =
    some "-1.70141183460469231731687303715884105728" := by decide +kernel

end Fresnica
