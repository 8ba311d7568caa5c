import Fresnica.Foundation.Significant
import Fresnica.Horizon
import Fresnica.Transaction.StroopCodec

/-!
# Account snapshots in the Python reference

The Python reference reads the same Horizon accounts as the Rust client, with
unbounded integers and with decimals of 28 significant digits. Decimals are kept here
in stroops. They are read from texts in plain notation with at most seven places, as
Horizon writes amounts, or from integers; counters are read as JSON integers.

## Main definitions

* `ServiceError` — the exceptions of the services
* `Asset`, `Asset.ofId` — assets, and those of the client among them
* `amount?`, `int?`, `unitSum?` — amounts, counters and reserve units
* `rounded` — the result of a decimal operation
* `IntegerCounters`, `CountersInRange` — the counters are integers, and the client adds them
  up exactly

## Main results

* `amount?_of_balanceStroops` — amounts of the client are read alike
* `CountersInRange.minimumBalanceStroops_eq` — the client's minimum balance
-/

namespace Fresnica.Python

open Foundation

/-- The exceptions of the services; amounts in stroops. -/
inductive ServiceError
  | invalidAmount (message : String)
  | insufficientBalance (asset : String) (requested available : ℤ)
  | noFeeBalance
  | transaction (message : String)
  | malformed
  deriving DecidableEq, Repr

structure Asset where
  code : String
  issuer : Option String
  liquidityPoolId : Option String
  deriving DecidableEq, Repr

namespace Asset

def xlm : Asset := ⟨"XLM", none, none⟩

def isNative (asset : Asset) : Bool :=
  asset.code.toList.map Char.toUpper = "XLM".toList ∧ asset.issuer = none ∧
    asset.liquidityPoolId = none

def display (asset : Asset) : String :=
  if asset.isNative then "XLM"
  else match asset.liquidityPoolId with
    | some poolId => if poolId.isEmpty then "LP" else s!"LP:{String.ofList (poolId.toList.take 8)}"
    | none => asset.code

/-- The asset that the client identifies. -/
def ofId (strKey : StrKey) (asset : AssetId) : Asset :=
  ⟨asset.code.getD "XLM", asset.issuer strKey, none⟩

end Asset

/-- The decimal of a text in plain notation, in stroops. -/
def decimalStroops? (value : String) : Option ℤ := do
  let (whole, fraction) ← splitPoint (Text.strip value).toList
  let places := fraction.getD []
  guard (whole ≠ [] ∧ whole.all Char.isDigit ∧ places.all Char.isDigit ∧ places.length ≤ 7)
  return Decimal.value whole * 10000000 + Decimal.value places * 10 ^ (7 - places.length)

/-- The text of an amount, which may also be an integer, or zero if there is none. -/
def amountText : Option Json → Option String
  | none => some "0"
  | some (.string value) => some value
  | some (.number (.posInt value)) => some (toString value.val)
  | some (.number (.negInt value)) => some (toString value.val)
  | some _ => none

/-- An amount of a row, in stroops. -/
def amount? (raw : Json) (field : String) : Option ℤ :=
  amountText (raw.get? field) >>= decimalStroops?

/-- An integer member, or zero if there is none. -/
def int? : Option Json → Option ℤ
  | none => some 0
  | some (.number (.posInt value)) => some value.val
  | some (.number (.negInt value)) => some value.val
  | some _ => none

/-- The sum of the reserve units, before it is kept from being negative. -/
def unitSum? (account : Json) : Option ℤ := do
  let subentries ← int? (account.get? "subentry_count")
  let sponsoring ← int? (account.get? "num_sponsoring")
  let sponsored ← int? (account.get? "num_sponsored")
  return 2 + subentries + sponsoring - sponsored

/-- The significant digits of decimal arithmetic. -/
def precision : ℕ := 28

/-- The result of a decimal operation. -/
def rounded (x : ℤ) : ℤ := Significant.round precision x

/-- The largest amount of the ledger. -/
def maxStellarAmount : ℤ := 9223372036854775807

/-! ### What the client reads -/

variable {strKey : StrKey} {account raw : Json} {asset : AssetId} {source field : String}
variable {amount baseReserve : I64} {x y : ℤ}

theorem rounded_of_lt (h : x.natAbs < 10 ^ 28) : rounded x = x :=
  Significant.round_of_lt (by decide) h

theorem le_rounded_iff (hy : y.natAbs < 10 ^ 28) : y ≤ rounded x ↔ y ≤ x :=
  Significant.le_round_iff (by decide) hy

theorem rounded_le_iff (hy : (y + 1).natAbs < 10 ^ 28) : rounded x ≤ y ↔ x ≤ y :=
  Significant.round_le_iff (by decide) hy

/-- An amount of the client is the decimal of its text. -/
theorem decimalStroops?_of_parseStroops (h : parseStroops source false = some amount) :
    decimalStroops? source = some amount.val := by
  obtain ⟨t, htext, hstroops⟩ := parseStroops_eq_some_iff.mp h
  have hguard : t.whole ≠ [] ∧ t.whole.all Char.isDigit ∧ (t.fraction.getD []).all Char.isDigit ∧
      (t.fraction.getD []).length ≤ 7 := ⟨t.whole_ne, t.whole_digits, t.fraction_digits, t.places⟩
  have hstrip : (Text.strip source).toList = t.chars := by
    rw [← Text.strip_trim, ← String.ofList_toList (s := Text.trim source), htext, t.strip_chars,
      String.toList_ofList]
  simp only [decimalStroops?, hstrip, splitPoint_chars, Option.bind_eq_bind, Option.bind_some,
    guard, if_pos hguard, Option.pure_def, hstroops]
  rw [AmountText.stroops, AmountText.fractionStroops]
  push_cast
  rfl

/-- A member is a text, or missing. -/
def TextMember (raw : Json) (field : String) : Prop :=
  ∀ value, raw.get? field = some value → ∃ source, value = .string source

/-- An amount of a row that is a text is read alike. -/
theorem amount?_of_balanceStroops (h : balanceStroops raw field = .ok amount)
    (htext : TextMember raw field) : amount? raw field = some amount.val := by
  rw [balanceStroops, okOr_eq_ok] at h
  rw [← decimalStroops?_of_parseStroops h, amount?, text]
  cases hvalue : raw.get? field with
  | none => rfl
  | some value =>
    obtain ⟨source, rfl⟩ := htext value hvalue
    simp only [amountText, Option.bind_eq_bind, Option.bind_some, Json.asStr?, Option.getD_some]

theorem Asset.isNative_xlm : Asset.xlm.isNative = true := by decide +kernel

/-- An asset of the client is native for both. -/
theorem Asset.isNative_ofId : (Asset.ofId strKey asset).isNative = asset.isNative := by
  obtain ⟨xdr, wellFormed⟩ := asset
  cases xdr with
  | native => exact Asset.isNative_xlm
  | creditAlphanum4 assetCode issuer | creditAlphanum12 assetCode issuer =>
    simp [Asset.ofId, Asset.isNative, AssetId.issuer, AssetId.isNative]

theorem Asset.ofId_native : Asset.ofId strKey .native = Asset.xlm := rfl

/-- The issuer of an asset is the same for both. -/
theorem Asset.issuer_ofId {accountId : String} :
    (Asset.ofId strKey asset).issuer = some accountId ↔ asset.issuerIs strKey accountId = true := by
  rw [AssetId.issuerIs, decide_eq_true_eq]
  rfl

/-- The counters are integers of 64 bits, or missing. -/
def IntegerCounters (account : Json) : Prop :=
  ∀ field ∈ ["subentry_count", "num_sponsoring", "num_sponsored"],
    int? (account.get? field) = some (counter account field).val

/-- A counter that is an integer of 64 bits is read alike. -/
theorem int?_posInt {value : U64} (h : account.get? field = some (.number (.posInt value)))
    (hle : value.val ≤ 9223372036854775807) :
    int? (account.get? field) = some (counter account field).val := by
  obtain ⟨read, hread, hval⟩ : ∃ read : I64, value.tryFrom = some read ∧ read.val = value.val :=
    BoundedInt.exists_ofInt? ⟨le_trans (by decide) value.lo_le, hle⟩
  rw [counter, h, integer, JsonNumber.asI64?, hread, Option.getD_some, hval]
  rfl

/-- So is one that is missing. -/
theorem int?_missing (h : account.get? field = none) :
    int? (account.get? field) = some (counter account field).val := by
  rw [counter, h]
  rfl

theorem unitSum?_eq (h : IntegerCounters account) :
    unitSum? account = some (ledgerAccount strKey account).units := by
  have hsubentries := h "subentry_count" (by simp)
  have hsponsoring := h "num_sponsoring" (by simp)
  have hsponsored := h "num_sponsored" (by simp)
  simp only [unitSum?, hsubentries, hsponsoring, hsponsored, Option.bind_eq_bind, Option.bind_some,
    Option.pure_def, ledgerAccount]

/-- The client adds the counters up without leaving the range. -/
structure CountersInRange (account : Json) : Prop where
  subentries_le : 2 + (counter account "subentry_count").val ≤ 9223372036854775807
  sponsoring_ge : -9223372036854775808 ≤
    2 + (counter account "subentry_count").val + (counter account "num_sponsoring").val
  sponsoring_le : 2 + (counter account "subentry_count").val +
    (counter account "num_sponsoring").val ≤ 9223372036854775807
  units_ge : -9223372036854775808 ≤ 2 + (counter account "subentry_count").val +
    (counter account "num_sponsoring").val - (counter account "num_sponsored").val
  units_le : 2 + (counter account "subentry_count").val +
    (counter account "num_sponsoring").val - (counter account "num_sponsored").val ≤
      9223372036854775807

/-- Then the client's minimum balance is the reserve of the units, unless it overflows. -/
theorem CountersInRange.minimumBalanceStroops_eq (h : CountersInRange account) (strKey : StrKey) :
    minimumBalanceStroops account baseReserve = okOr
      (BoundedInt.ofInt? (max (ledgerAccount strKey account).units 0 * baseReserve.val))
      "minimum balance overflow" := by
  obtain ⟨hsubentries, hsponsoring_ge, hsponsoring_le, hunits_ge, hunits_le⟩ := h
  have hsubentries_ge := (counter account "subentry_count").lo_le
  simp only [minimumBalanceStroops, BoundedInt.checkedMul, ledgerAccount]
  congr 3
  simp (disch := decide) only [BoundedInt.val_max, BoundedInt.val_saturatingSub,
    BoundedInt.val_saturatingAdd, BoundedInt.val_lit]
  omega

end Fresnica.Python
