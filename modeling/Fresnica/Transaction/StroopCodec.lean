import Fresnica.Asset
import Fresnica.Foundation.FixedPoint
import Fresnica.Transaction.Stroops

/-!
# The texts of amounts

The accepted texts, without white space around them, are digits with at most one
point after the first of them and at most seven places behind it; what is read is the
exact number of stroops. What is printed for an amount is the shortest of its texts,
and reads back as the amount. A negative amount of less than a unit is printed
without its sign.

## Main definitions

* `AmountText` — whole digits, and at most seven places
* `AmountText.decimal`, `AmountText.stroops` — its value
* `printed` — what is printed of an amount, except for the sign

## Main results

* `parseStroops_eq_some_iff` — the accepted texts, and what they are read as
* `parseStroops_formatStroops` — a printed amount reads back
* `formatStroops_shortest` — and is the shortest text of it
* `stroopCodec_exact` — the codec, with the amounts that are printed alike
-/

namespace Fresnica

open Foundation

/-- Whole digits, and at most seven places behind a point. -/
structure AmountText where
  whole : List Char
  fraction : Option (List Char)
  whole_ne : whole ≠ []
  whole_digits : whole.all Char.isDigit = true
  fraction_digits : (fraction.getD []).all Char.isDigit = true
  places : (fraction.getD []).length ≤ 7

namespace AmountText

variable {t : AmountText}

def chars (t : AmountText) : List Char := t.whole ++ t.fraction.elim [] ('.' :: ·)

/-- The number that the text denotes. -/
def decimal (t : AmountText) : ℚ :=
  Decimal.value t.whole + Decimal.value (t.fraction.getD []) / 10 ^ (t.fraction.getD []).length

/-- The places behind the point, in stroops. -/
def fractionStroops (t : AmountText) : ℕ :=
  Decimal.value (t.fraction.getD []) * 10 ^ (7 - (t.fraction.getD []).length)

def stroops (t : AmountText) : ℕ := Decimal.value t.whole * 10000000 + t.fractionStroops

theorem decimal_mul : t.decimal * 10 ^ 7 = t.stroops := by
  have hplaces : (10 : ℚ) ^ 7 =
      10 ^ (t.fraction.getD []).length * 10 ^ (7 - (t.fraction.getD []).length) := by
    rw [← pow_add, Nat.add_sub_cancel' t.places]
  have hpow : (10 : ℚ) ^ (t.fraction.getD []).length ≠ 0 := pow_ne_zero _ (by norm_num)
  rw [decimal, stroops, fractionStroops, add_mul, hplaces, ← mul_assoc (_ / _),
    div_mul_cancel₀ _ hpow, ← hplaces]
  push_cast
  norm_num

theorem fractionStroops_lt : t.fractionStroops < 10000000 := by
  have hlt := Decimal.value_lt t.fraction_digits
  have hpow : 10 ^ (t.fraction.getD []).length * 10 ^ (7 - (t.fraction.getD []).length) =
      10000000 := by
    rw [← pow_add, Nat.add_sub_cancel' t.places]
    rfl
  rw [fractionStroops, ← hpow]
  exact Nat.mul_lt_mul_of_pos_right hlt (Nat.pow_pos (by decide))

/-- A text starts with a digit. -/
theorem exists_head : ∃ c rest, t.chars = c :: rest ∧ c.isDigit = true := by
  obtain ⟨c, rest, hwhole⟩ := List.exists_cons_of_ne_nil t.whole_ne
  have hdigits := t.whole_digits
  rw [hwhole, List.all_cons, Bool.and_eq_true] at hdigits
  exact ⟨c, rest ++ t.fraction.elim [] ('.' :: ·), by rw [chars, hwhole, List.cons_append],
    hdigits.1⟩

/-- A text of an amount has no white space. -/
theorem strip_chars : Text.strip (String.ofList t.chars) = String.ofList t.chars :=
  PointText.strip_chars ⟨t.whole, t.fraction, t.whole_ne, t.whole_digits, t.fraction_digits⟩

theorem trim_chars : Text.trim (String.ofList t.chars) = String.ofList t.chars := by
  rw [← strip_chars, Text.trim_strip]

end AmountText

/-! ### Reading -/

variable {value : List Char} {amount v w : I64} {source : String}

/-- A text without a second point is split at the only one. -/
theorem splitPoint_chars (t : AmountText) : splitPoint t.chars = some (t.whole, t.fraction) := by
  obtain ⟨whole, fraction, hne, hwhole, hfraction, hplaces⟩ := t
  unfold splitPoint AmountText.chars
  cases fraction with
  | none => rw [Option.elim_none, List.append_nil, List.splitOn_eq_singleton (not_mem_point hwhole)]
  | some fraction =>
    rw [Option.getD_some] at hfraction
    rw [Option.elim_some, List.splitOn_append_cons_self_of_not_mem (not_mem_point hwhole),
      List.splitOn_eq_singleton (not_mem_point hfraction)]

/-- What is split is put together again around the point. -/
theorem eq_of_splitPoint {whole : List Char} {fraction : Option (List Char)}
    (h : splitPoint value = some (whole, fraction)) :
    value = whole ++ fraction.elim [] ('.' :: ·) := by
  have hjoin : ['.'].intercalate (value.splitOn '.') = value := List.intercalate_splitOn '.'
  unfold splitPoint at h
  split at h
  · rename_i only heq
    obtain ⟨rfl, rfl⟩ := Prod.mk.inj (Option.some_inj.mp h)
    rw [heq] at hjoin
    simpa using hjoin.symm
  · rename_i before after heq
    obtain ⟨rfl, rfl⟩ := Prod.mk.inj (Option.some_inj.mp h)
    rw [heq] at hjoin
    simpa [List.intercalate] using hjoin.symm
  · exact absurd h (by simp)

/-- Tens are multiplied up as long as the product is in range. -/
theorem foldlM_checkedMul_ten {k : ℕ} {n result : I64} (hn : 0 ≤ n.val) :
    (List.replicate k (.lit 10 : I64)).foldlM BoundedInt.checkedMul n = some result ↔
      result.val = n.val * 10 ^ k := by
  have hten : (.lit 10 : I64).val = 10 := rfl
  induction k generalizing n with
  | zero =>
    rw [List.replicate_zero, List.foldlM_nil, pow_zero, mul_one]
    exact Option.some_inj.trans (eq_comm.trans BoundedInt.val_inj.symm)
  | succ k ih =>
    rw [List.replicate_succ, List.foldlM_cons, pow_succ']
    have hpow : (1 : ℤ) ≤ 10 ^ k := one_le_pow₀ (by norm_num)
    constructor
    · intro h
      obtain ⟨product, hproduct, hrest⟩ := Option.bind_eq_some_iff.mp h
      rw [BoundedInt.checkedMul_eq_some_iff, hten] at hproduct
      rw [(ih (by omega)).mp hrest, hproduct]
      ring
    · intro h
      -- the result bounds every product on the way to it
      have hle := result.le_hi
      have hbound : n.val * 10 ≤ result.val := by
        rw [h]
        nlinarith
      obtain ⟨product, hof, hproduct⟩ : ∃ product : I64,
          BoundedInt.ofInt? (n.val * 10) = some product ∧ product.val = n.val * 10 :=
        BoundedInt.exists_ofInt? (by omega)
      refine Option.bind_eq_some_iff.mpr ⟨product, ?_, (ih (by omega)).mpr ?_⟩
      · rw [BoundedInt.checkedMul, hten, hof]
      · rw [hproduct, h]
        ring

/-- Places are digits, at most seven of them, counted in stroops. -/
theorem parseFraction_eq_some_iff {fraction : List Char} :
    parseFraction fraction = some amount ↔
      (fraction.length ≤ 7 ∧ fraction.all Char.isDigit = true) ∧
        amount.val = (Decimal.value fraction * 10 ^ (7 - fraction.length) : ℕ) := by
  unfold parseFraction
  by_cases hplaces : fraction.length ≤ 7 ∧ fraction.all Char.isDigit = true
  · rw [if_neg (by simpa using hplaces), and_iff_right hplaces]
    -- an empty fraction is zero, and no digits to parse
    by_cases hempty : fraction = []
    · subst hempty
      rw [if_pos rfl, Option.some_inj, ← BoundedInt.val_inj]
      simp [eq_comm]
    · rw [if_neg hempty, Option.bind_eq_bind, Option.bind_eq_some_iff]
      push_cast
      have hlt := Decimal.value_lt hplaces.2
      have hpow : 10 ^ fraction.length ≤ 10 ^ 7 := Nat.pow_le_pow_right (by decide) hplaces.1
      constructor
      · rintro ⟨first, hfirst, hrest⟩
        rw [BoundedInt.parse?_digits hempty hplaces.2] at hfirst
        rw [(foldlM_checkedMul_ten (by omega)).mp hrest, hfirst]
      · intro hamount
        obtain ⟨first, -, hfirst⟩ : ∃ first : I64,
            BoundedInt.ofInt? (Decimal.value fraction : ℤ) = some first ∧ _ :=
          BoundedInt.exists_ofInt? (by omega)
        refine ⟨first, (BoundedInt.parse?_digits hempty hplaces.2).mpr hfirst,
          (foldlM_checkedMul_ten (by omega)).mpr ?_⟩
        rw [hamount, hfirst]
  · rw [if_pos (by simpa [or_iff_not_imp_left] using hplaces)]
    exact iff_of_false (by simp) fun h => hplaces h.1

/-- The texts that are read, and what they are read as. -/
theorem parseUnsignedStroops_eq_some_iff : parseUnsignedStroops value = some amount ↔
    ∃ t : AmountText, value = t.chars ∧ amount.val = t.stroops := by
  have hxlm : stroopsPerXlm.val = 10000000 := rfl
  constructor
  · intro h
    obtain ⟨_, -, h⟩ := Option.bind_eq_some_iff.mp h
    obtain ⟨⟨whole, fraction⟩, hsplit, h⟩ := Option.bind_eq_some_iff.mp h
    obtain ⟨_, hdigits, h⟩ := Option.bind_eq_some_iff.mp h
    obtain ⟨n, hn, h⟩ := Option.bind_eq_some_iff.mp h
    obtain ⟨m, hm, h⟩ := Option.bind_eq_some_iff.mp h
    obtain ⟨product, hproduct, h⟩ := Option.bind_eq_some_iff.mp h
    have hdigits : whole ≠ [] ∧ whole.all Char.isDigit = true := by simpa using hdigits
    rw [BoundedInt.parse?_digits hdigits.1 hdigits.2] at hn
    rw [BoundedInt.checkedMul_eq_some_iff, hxlm] at hproduct
    have hsum := BoundedInt.checkedAdd_eq_some_iff.mp h
    cases fraction with
    | none =>
      refine ⟨⟨whole, none, hdigits.1, hdigits.2, rfl, Nat.zero_le _⟩, eq_of_splitPoint hsplit, ?_⟩
      obtain rfl := Option.some_inj.mp hm
      rw [hsum, hproduct, hn, AmountText.stroops, AmountText.fractionStroops]
      simp
    | some fraction =>
      obtain ⟨hplaces, hfraction⟩ := parseFraction_eq_some_iff.mp hm
      refine ⟨⟨whole, some fraction, hdigits.1, hdigits.2, hplaces.2, hplaces.1⟩,
        eq_of_splitPoint hsplit, ?_⟩
      rw [hsum, hproduct, hn, hfraction, AmountText.stroops, AmountText.fractionStroops]
      push_cast
      rfl
  · rintro ⟨t, rfl, hamount⟩
    have hle := amount.le_hi
    rw [AmountText.stroops] at hamount
    push_cast at hamount
    -- each part of the sum is in range when the sum is
    obtain ⟨n, -, hn⟩ : ∃ n : I64, BoundedInt.ofInt? (Decimal.value t.whole : ℤ) = some n ∧ _ :=
      BoundedInt.exists_ofInt? (by omega)
    obtain ⟨m, -, hm⟩ : ∃ m : I64, BoundedInt.ofInt? (t.fractionStroops : ℤ) = some m ∧ _ :=
      BoundedInt.exists_ofInt? (by omega)
    obtain ⟨product, -, hproduct⟩ : ∃ product : I64,
        BoundedInt.ofInt? (n.val * 10000000) = some product ∧ _ :=
      BoundedInt.exists_ofInt? (by omega)
    -- a digit comes first, so the guard against signs lets the text through
    obtain ⟨c, rest, hhead, hc⟩ := t.exists_head
    have hguard : t.chars ≠ [] ∧ t.chars.head? ≠ some '-' ∧ t.chars.head? ≠ some '+' := by
      rw [hhead]
      refine ⟨by simp, ?_, ?_⟩ <;>
      · rintro h
        obtain rfl := Option.some_inj.mp h
        exact absurd hc (by decide)
    have hfraction : t.fraction.elim (some (.lit 0)) parseFraction = some m := by
      cases hf : t.fraction with
      | none =>
        rw [AmountText.fractionStroops, hf] at hm
        rw [Option.elim_none, Option.some_inj, ← BoundedInt.val_inj, hm]
        rfl
      | some fraction =>
        have hdigits := t.fraction_digits
        have hplaces := t.places
        rw [AmountText.fractionStroops, hf] at hm
        rw [hf] at hdigits hplaces
        exact parseFraction_eq_some_iff.mpr ⟨⟨hplaces, hdigits⟩, hm⟩
    have hparse := (BoundedInt.parse?_digits t.whole_ne t.whole_digits).mpr hn
    have hmul : n.checkedMul stroopsPerXlm = some product :=
      BoundedInt.checkedMul_eq_some_iff.mpr hproduct
    have hadd : product.checkedAdd m = some amount :=
      BoundedInt.checkedAdd_eq_some_iff.mpr (by omega)
    simp only [parseUnsignedStroops, guard, if_pos hguard, splitPoint_chars,
      if_pos (And.intro t.whole_ne t.whole_digits), Option.bind_eq_bind, Option.bind_some,
      Option.pure_def, hparse, hfraction, hmul, hadd]

/-- The texts that are read as amounts, and what they are read as. -/
theorem parseStroops_eq_some_iff : parseStroops source false = some amount ↔
    ∃ t : AmountText, (Text.trim source).toList = t.chars ∧ amount.val = t.stroops := by
  rw [← parseUnsignedStroops_eq_some_iff, parseStroops]
  simp [guard]

/-- A positive amount is an amount that is positive. -/
theorem parseStroops_positive : parseStroops source true = some amount ↔
    parseStroops source false = some amount ∧ 0 < amount.val := by
  rw [parseStroops, parseStroops]
  cases parseUnsignedStroops (Text.trim source).toList with
  | none => simp
  | some stroops =>
    by_cases hpos : stroops.val ≤ 0
    · simp only [Option.bind_eq_bind, Option.bind_some, guard, hpos, and_self, not_true_eq_false,
        if_false, Option.failure_eq_none, Option.bind_none, Bool.false_eq_true, false_and,
        not_false_eq_true, if_true, Option.pure_def, Option.some.injEq, reduceCtorEq, false_iff]
      rintro ⟨rfl, hlt⟩
      omega
    · simp only [Option.bind_eq_bind, Option.bind_some, guard, hpos, and_false, not_false_eq_true,
        if_true, Option.pure_def, Option.some.injEq]
      refine ⟨?_, And.left⟩
      rintro rfl
      exact ⟨rfl, by omega⟩

/-! ### Printing -/

/-- Seven places of a number of stroops. -/
def padded (n : ℕ) : List Char :=
  List.replicate (7 - (Nat.toDigits 10 n).length) '0' ++ Nat.toDigits 10 n

/-- The places without the zeros at their end. -/
def trimmedPlaces (n : ℕ) : List Char := (padded n).rdropWhile (· = '0')

theorem length_padded {n : ℕ} (h : n < 10000000) : (padded n).length = 7 := by
  have hle : (Nat.toDigits 10 n).length ≤ 7 :=
    (Nat.length_toDigits_le_iff (by decide) (by decide)).mpr h
  rw [padded, List.length_append, List.length_replicate]
  omega

theorem padded_digits {n : ℕ} : (padded n).all Char.isDigit = true := by
  rw [padded, List.all_append, Decimal.all_isDigit_toDigits, Bool.and_true, List.all_eq_true]
  intro c hc
  rw [List.eq_of_mem_replicate hc]
  decide

theorem value_padded {n : ℕ} : Decimal.value (padded n) = n := by
  rw [padded, Decimal.value_append, Decimal.value_replicate_zero, Decimal.value_toDigits, zero_mul,
    zero_add]

/-- The trimmed places are filled up with zeros. -/
theorem trimmedPlaces_append {n : ℕ} (h : n < 10000000) :
    trimmedPlaces n ++ List.replicate (7 - (trimmedPlaces n).length) '0' = padded n := by
  have happend : trimmedPlaces n ++ (padded n).rtakeWhile (· = '0') = padded n :=
    List.rdropWhile_append_rtakeWhile
  have hzeros : (padded n).rtakeWhile (· = '0') =
      List.replicate ((padded n).rtakeWhile (· = '0')).length '0' :=
    List.eq_replicate_iff.mpr ⟨rfl, fun c hc => by simpa using List.mem_rtakeWhile_imp hc⟩
  have hlength := congrArg List.length happend
  rw [List.length_append, length_padded h] at hlength
  rw [← hlength, Nat.add_sub_cancel_left, ← hzeros, happend]

theorem trimmedPlaces_digits {n : ℕ} : (trimmedPlaces n).all Char.isDigit = true :=
  List.all_eq_true.mpr fun c hc =>
    List.all_eq_true.mp padded_digits c ((List.rdropWhile_prefix _ _).subset hc)

theorem length_trimmedPlaces {n : ℕ} (h : n < 10000000) : (trimmedPlaces n).length ≤ 7 := by
  rw [← length_padded h]
  exact (List.rdropWhile_prefix _ _).length_le

theorem value_trimmedPlaces {n : ℕ} (h : n < 10000000) :
    Decimal.value (trimmedPlaces n) * 10 ^ (7 - (trimmedPlaces n).length) = n := by
  have hvalue := congrArg Decimal.value (trimmedPlaces_append h)
  rw [Decimal.value_append, Decimal.value_replicate_zero, List.length_replicate, add_zero,
    value_padded] at hvalue
  exact hvalue

/-- The text that is printed for a number of stroops. -/
def printed (n : ℕ) : AmountText where
  whole := Nat.toDigits 10 (n / 10000000)
  fraction := if n % 10000000 = 0 then none else some (trimmedPlaces (n % 10000000))
  whole_ne := Nat.toDigits_ne_nil
  whole_digits := Decimal.all_isDigit_toDigits
  fraction_digits := by
    split_ifs
    · rfl
    · exact trimmedPlaces_digits
  places := by
    split_ifs
    · exact Nat.zero_le _
    · exact length_trimmedPlaces (Nat.mod_lt _ (by decide))

theorem chars_printed {n : ℕ} : (printed n).chars = Nat.toDigits 10 (n / 10000000) ++
    (if n % 10000000 = 0 then none else some (trimmedPlaces (n % 10000000))).elim []
      ('.' :: ·) :=
  rfl

theorem stroops_printed {n : ℕ} : (printed n).stroops = n := by
  have hfraction : (printed n).fractionStroops = n % 10000000 := by
    unfold AmountText.fractionStroops printed
    dsimp only
    split_ifs with hzero
    · rw [hzero]
      rfl
    · exact value_trimmedPlaces (Nat.mod_lt _ (by decide))
  rw [AmountText.stroops, hfraction]
  unfold printed
  rw [Decimal.value_toDigits]
  omega

/-- An integer is printed with the digits of its magnitude. -/
theorem toList_toString_int (z : ℤ) : (toString z).toList =
    (if z < 0 then ['-'] else []) ++ Nat.toDigits 10 z.natAbs := by
  cases z with
  | ofNat n =>
    rw [if_neg (by simp)]
    exact Nat.toList_repr
  | negSucc n =>
    rw [if_pos (Int.negSucc_lt_zero n)]
    exact (String.toList_append).trans (congrArg _ Nat.toList_repr)

/-- What is printed is the text of the magnitude, with a sign only from a unit on. -/
theorem toList_formatStroops (v : I64) : (formatStroops v).toList =
    (if v.val ≤ -10000000 then ['-'] else []) ++ (printed v.val.natAbs).chars := by
  have hxlm : stroopsPerXlm.val = 10000000 := rfl
  have hwhole : (v.val.tdiv 10000000).natAbs = v.val.natAbs / 10000000 := by
    rw [Int.natAbs_tdiv]
    rfl
  have hfraction : (v.val.tmod 10000000).natAbs = v.val.natAbs % 10000000 := by
    rw [Int.natAbs_tmod]
    rfl
  -- the sign is printed with the whole units, and zero has none
  have hsign : v.val.tdiv 10000000 < 0 ↔ v.val ≤ -10000000 := by
    have hunit : (10000000 : ℤ) = ((10000000 : ℕ) : ℤ) := rfl
    obtain ⟨n, hn | hn⟩ := Int.eq_nat_or_neg v.val
    · rw [hn, hunit, ← Int.ofNat_tdiv]
      omega
    · rw [hn, Int.neg_tdiv, hunit, ← Int.ofNat_tdiv]
      omega
  have hzero : v.val.tmod 10000000 = 0 ↔ v.val.natAbs % 10000000 = 0 := by
    rw [← hfraction, Int.natAbs_eq_zero]
  have hdigits : (toString (v.val.natAbs % 10000000)).toList =
      Nat.toDigits 10 (v.val.natAbs % 10000000) := Nat.toList_repr
  unfold formatStroops
  simp only [hxlm, hzero, hfraction, AmountText.chars, printed]
  by_cases hplain : v.val.natAbs % 10000000 = 0
  · rw [if_pos hplain, if_pos hplain, toList_toString_int, hwhole, if_congr hsign rfl rfl]
    simp
  · rw [if_neg hplain, if_neg hplain]
    simp only [Option.elim_some, String.toList_append, hdigits]
    have htrimmed : ∀ places : List Char,
        (toString (String.ofList places)).toList = places := fun _ => String.toList_ofList
    rw [htrimmed, htrimmed, toList_toString_int, hwhole, if_congr hsign rfl rfl, List.append_assoc,
      List.append_assoc]
    rfl

/-- Amounts that are not negative are printed as the text of their magnitude. -/
theorem toList_formatStroops_of_nonneg (h : 0 ≤ v.val) :
    (formatStroops v).toList = (printed v.val.natAbs).chars := by
  rw [toList_formatStroops, if_neg (by omega), List.nil_append]

/-- A printed amount reads back. -/
theorem parseStroops_formatStroops (h : 0 ≤ v.val) :
    parseStroops (formatStroops v) false = some v := by
  have htext : formatStroops v = String.ofList (printed v.val.natAbs).chars := by
    rw [← toList_formatStroops_of_nonneg h, String.ofList_toList]
  rw [parseStroops_eq_some_iff, htext, AmountText.trim_chars, String.toList_ofList]
  exact ⟨_, rfl, by rw [stroops_printed]; omega⟩

/-- Numbers of stroops are printed alike only if they are equal. -/
theorem chars_printed_injective {m n : ℕ} (h : (printed m).chars = (printed n).chars) :
    m = n := by
  have hsplit := splitPoint_chars (printed m)
  rw [h, splitPoint_chars, Option.some_inj, Prod.mk.injEq] at hsplit
  have hstroops : (printed n).stroops = (printed m).stroops := by
    rw [AmountText.stroops, AmountText.stroops, AmountText.fractionStroops,
      AmountText.fractionStroops, hsplit.1, hsplit.2]
  rw [stroops_printed, stroops_printed] at hstroops
  exact hstroops.symm

/-- Two amounts are printed alike when they have one magnitude and the same sign is
printed for both. -/
theorem formatStroops_eq_iff : formatStroops v = formatStroops w ↔
    v.val.natAbs = w.val.natAbs ∧ (v.val ≤ -10000000 ↔ w.val ≤ -10000000) := by
  rw [← String.toList_inj, toList_formatStroops, toList_formatStroops]
  obtain ⟨c, rest, hc, hcdigit⟩ := (printed v.val.natAbs).exists_head
  obtain ⟨d, rest', hd, hddigit⟩ := (printed w.val.natAbs).exists_head
  have hcsign : c ≠ '-' := fun h => absurd (h ▸ hcdigit) (by decide)
  have hdsign : d ≠ '-' := fun h => absurd (h ▸ hddigit) (by decide)
  constructor
  · intro h
    by_cases hv : v.val ≤ -10000000 <;> by_cases hw : w.val ≤ -10000000
    · rw [if_pos hv, if_pos hw] at h
      exact ⟨chars_printed_injective (List.append_cancel_left h), iff_of_true hv hw⟩
    · rw [if_pos hv, if_neg hw, hd] at h
      exact absurd (List.cons.inj h).1.symm hdsign
    · rw [if_neg hv, if_pos hw, hc] at h
      exact absurd (List.cons.inj h).1 hcsign
    · rw [if_neg hv, if_neg hw] at h
      exact ⟨chars_printed_injective h, iff_of_false hv hw⟩
  · rintro ⟨hmagnitude, hsign⟩
    rw [hmagnitude, if_congr hsign rfl rfl]

/-! ### The shortest text -/

/-- The trimmed places of a number of stroops are the shortest places of it. -/
theorem trimmedPlaces_shortest {places : List Char} {n : ℕ} (hn : n < 10000000)
    (hdigits : places.all Char.isDigit = true) (hle : places.length ≤ 7)
    (hvalue : Decimal.value places * 10 ^ (7 - places.length) = n) :
    (trimmedPlaces n).length ≤ places.length ∧
      ((trimmedPlaces n).length = places.length → trimmedPlaces n = places) := by
  -- filled up with zeros, the places are the seven places of the number
  have hfilled : places ++ List.replicate (7 - places.length) '0' = padded n := by
    refine Decimal.value_injective ?_ ?_ padded_digits ?_
    · rw [List.length_append, List.length_replicate, length_padded hn]
      omega
    · rw [List.all_append, hdigits, Bool.true_and, List.all_eq_true]
      intro c hc
      rw [List.eq_of_mem_replicate hc]
      decide
    · rw [Decimal.value_append, Decimal.value_replicate_zero, List.length_replicate, value_padded,
        add_zero, hvalue]
  have htrimmed : trimmedPlaces n = places.rdropWhile (· = '0') := by
    rw [trimmedPlaces, ← hfilled, List.rdropWhile, List.rdropWhile, List.reverse_append,
      List.reverse_replicate, List.dropWhile_append_of_pos]
    intro c hc
    rw [List.eq_of_mem_replicate hc]
    decide
  rw [htrimmed]
  exact ⟨(List.rdropWhile_prefix _ _).length_le,
    fun hlength => (List.rdropWhile_prefix _ _).eq_of_length hlength⟩

/-- The printed text is the shortest text of its number, and the only one of its length. -/
theorem printed_shortest (t : AmountText) : (printed t.stroops).chars.length ≤ t.chars.length ∧
    ((printed t.stroops).chars.length = t.chars.length → (printed t.stroops).chars = t.chars) := by
  have hlt := t.fractionStroops_lt
  have hdiv : t.stroops / 10000000 = Decimal.value t.whole := by
    rw [AmountText.stroops]
    omega
  have hmod : t.stroops % 10000000 = t.fractionStroops := by
    rw [AmountText.stroops]
    omega
  obtain ⟨hwhole, hwhole_eq⟩ := Decimal.toDigits_shortest t.whole_ne t.whole_digits
  by_cases hzero : t.fractionStroops = 0
  -- without places, the point is left out
  · have hchars : (printed t.stroops).chars = Nat.toDigits 10 (Decimal.value t.whole) := by
      rw [chars_printed, hdiv, hmod, if_pos hzero, Option.elim_none, List.append_nil]
    rw [hchars, AmountText.chars, List.length_append]
    refine ⟨by omega, fun hlength => ?_⟩
    have hnone : t.fraction.elim [] ('.' :: ·) = [] := List.length_eq_zero_iff.mp (by omega)
    rw [hnone, List.append_nil]
    exact hwhole_eq (by omega)
  · -- places that count stroops stand behind a point
    obtain ⟨places, hplaces⟩ : ∃ places, t.fraction = some places := by
      cases hf : t.fraction with
      | none => exact absurd (by rw [AmountText.fractionStroops, hf]; simp) hzero
      | some places => exact ⟨places, rfl⟩
    have hdigits := t.fraction_digits
    have hle := t.places
    have hvalue : Decimal.value (t.fraction.getD []) * 10 ^ (7 - (t.fraction.getD []).length) =
        t.fractionStroops := rfl
    rw [hplaces, Option.getD_some] at hdigits hle hvalue
    obtain ⟨hshort, hshort_eq⟩ := trimmedPlaces_shortest hlt hdigits hle hvalue
    have hchars : (printed t.stroops).chars =
        Nat.toDigits 10 (Decimal.value t.whole) ++ '.' :: trimmedPlaces t.fractionStroops := by
      rw [chars_printed, hdiv, hmod, if_neg hzero, Option.elim_some]
    rw [hchars, AmountText.chars, hplaces, Option.elim_some]
    simp only [List.length_append, List.length_cons]
    refine ⟨by omega, fun hlength => ?_⟩
    rw [hwhole_eq (by omega), hshort_eq (by omega)]

/-- What is printed for an amount that was read is the shortest text of it, and the
only one of its length. -/
theorem formatStroops_shortest (h : parseStroops source false = some v) :
    (formatStroops v).length ≤ source.length ∧
      ((formatStroops v).length = source.length → formatStroops v = source) := by
  obtain ⟨t, htext, hstroops⟩ := parseStroops_eq_some_iff.mp h
  obtain ⟨hle, heq⟩ := printed_shortest t
  have hchars : (formatStroops v).toList = (printed t.stroops).chars := by
    rw [toList_formatStroops_of_nonneg (parseStroops_nonneg h)]
    congr 2
    omega
  rw [← htext, ← hchars] at hle heq
  obtain ⟨htrim, htrim_eq⟩ := Text.length_trim source
  rw [← String.length_toList, ← String.length_toList]
  rw [← String.length_toList, ← String.length_toList] at htrim htrim_eq
  refine ⟨hle.trans htrim, fun hlength => ?_⟩
  have hsame := htrim_eq (by omega)
  rw [hsame] at heq
  exact String.toList_inj.mp (heq hlength)

/-! ### The codec -/

/-- An amount of a balance row, normalized. -/
def horizonAmount (value : Json) (field : String) (required : Bool) : Except String String :=
  match text value field with
  | some raw => do
    let units ← okOr (parseStroops raw false) s!"Horizon balance has invalid {field}: {raw}"
    return formatStroops units
  | none => if required then .error s!"Horizon balance is missing {field}" else .ok "0"

/-- A normalized amount is normalized to itself. -/
theorem horizonAmount_idempotent {value other : Json} {field normal : String} {required : Bool}
    (h : horizonAmount value field required = .ok normal)
    (hother : text other field = some normal) :
    horizonAmount other field required = .ok normal := by
  have hreads : ∃ units : I64, parseStroops normal false = some units ∧
      formatStroops units = normal := by
    unfold horizonAmount at h
    split at h
    · obtain ⟨units, hunits, hnormal⟩ := bind_eq_ok.mp h
      obtain rfl := Except.ok.inj hnormal
      exact ⟨units, parseStroops_formatStroops (parseStroops_nonneg (okOr_eq_ok.mp hunits)), rfl⟩
    · split_ifs at h
      obtain rfl := Except.ok.inj h
      exact ⟨.lit 0, by decide, by decide⟩
  obtain ⟨units, hunits, hformat⟩ := hreads
  rw [horizonAmount, hother]
  dsimp only
  rw [hunits, okOr, ok_bind, hformat]
  rfl

/-- Exactly the texts of amounts in range are read, as what they denote; a printed
amount reads back and is the shortest of its texts, and a normalized amount stays as it
is. Two amounts are printed alike when they are equal, or of opposite sign and less than
a unit. -/
theorem stroopCodec_exact (source : String) (amount v w : I64) (value other : Json)
    (field normal : String) (required : Bool) :
    (parseStroops source false = some amount ↔ ∃ t : AmountText,
      (Text.trim source).toList = t.chars ∧ t.decimal * 10 ^ 7 ≤ 9223372036854775807 ∧
        (amount.val : ℚ) = t.decimal * 10 ^ 7) ∧
    ((∃ amount, parseStroops source false = some amount) ↔ ∃ t : AmountText,
      (Text.trim source).toList = t.chars ∧ t.decimal * 10 ^ 7 ≤ 9223372036854775807) ∧
    (parseStroops source true = some amount ↔
      parseStroops source false = some amount ∧ 0 < amount.val) ∧
    (0 ≤ v.val → parseStroops (formatStroops v) false = some v) ∧
    (parseStroops source false = some v → (formatStroops v).length ≤ source.length ∧
      ((formatStroops v).length = source.length → formatStroops v = source)) ∧
    (horizonAmount value field required = .ok normal →
      text other field = some normal → horizonAmount other field required = .ok normal) ∧
    ((formatStroops v = formatStroops w → v = w) ↔
      ¬ (v ≠ w ∧ v.val = -w.val ∧ v.val.natAbs < 10000000)) := by
  -- the decimal of a text, moved by seven places, is its number of units
  have hvalue : ∀ t : AmountText,
      (amount.val : ℚ) = t.decimal * 10 ^ 7 ↔ amount.val = t.stroops := by
    intro t
    rw [AmountText.decimal_mul]
    exact_mod_cast Iff.rfl
  have hrange : ∀ t : AmountText,
      t.decimal * 10 ^ 7 ≤ 9223372036854775807 ↔ t.stroops ≤ 9223372036854775807 := by
    intro t
    rw [AmountText.decimal_mul]
    exact_mod_cast Iff.rfl
  refine ⟨?_, ?_, parseStroops_positive, parseStroops_formatStroops, formatStroops_shortest,
    horizonAmount_idempotent, ?_⟩
  · rw [parseStroops_eq_some_iff]
    constructor
    · rintro ⟨t, htext, hstroops⟩
      have hle := amount.le_hi
      exact ⟨t, htext, (hrange t).mpr (by omega), (hvalue t).mpr hstroops⟩
    · rintro ⟨t, htext, -, hstroops⟩
      exact ⟨t, htext, (hvalue t).mp hstroops⟩
  · constructor
    · rintro ⟨amount, hparse⟩
      obtain ⟨t, htext, hstroops⟩ := parseStroops_eq_some_iff.mp hparse
      have hle := amount.le_hi
      exact ⟨t, htext, (hrange t).mpr (by omega)⟩
    · rintro ⟨t, htext, hle⟩
      rw [hrange] at hle
      obtain ⟨amount, -, hamount⟩ : ∃ amount : I64,
          BoundedInt.ofInt? (t.stroops : ℤ) = some amount ∧ _ :=
        BoundedInt.exists_ofInt? (by omega)
      exact ⟨amount, parseStroops_eq_some_iff.mpr ⟨t, htext, hamount⟩⟩
  · rw [formatStroops_eq_iff, ← BoundedInt.val_inj, ne_eq, ← BoundedInt.val_inj]
    omega

/-- Half a unit and its negative are printed alike. -/
theorem formatStroops_loses_sign :
    formatStroops (.lit 5000000) = formatStroops (.lit (-5000000)) ∧
      (.lit 5000000 : I64) ≠ .lit (-5000000) := by
  decide

end Fresnica
