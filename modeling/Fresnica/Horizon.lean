import Fresnica.Asset
import Fresnica.Foundation.Ledger
import Fresnica.Transaction.Stroops

/-!
# Accounts as Horizon reports them

An account is a JSON value with a row for each balance and three counters of
reserve units. Amounts are texts, and a missing one is zero. What a snapshot says
about the ledger is the account `ledgerAccount` reads out of it; the readers of
the client are described by it as long as the snapshot is one of a ledger account.

## Main definitions

* `minimumBalanceStroops`, `balanceStroops`, `accountSequence` — the readers
* `ledgerAccount` — the ledger account a snapshot describes
* `LedgerSnapshot` — the snapshot is of a ledger account whose lines are sound

## Main results

* `LedgerSnapshot.minimumBalanceStroops_eq` — the minimum balance is the exact reserve,
  unless it overflows
* `LedgerSnapshot.balances_eq` — the rows are there, and are those of the lines
-/

namespace Fresnica

open Foundation

structure LedgerParameters where
  baseFeeInStroops : U32
  baseReserveInStroops : I64

/-! ### Readers -/

def integer : Option Json → Option I64
  | some (.number value) => value.asI64?
  | some (.string value) => BoundedInt.parse? value.toList
  | _ => none

def accountSequence (account : Json) : Except String I64 :=
  okOr (text account "sequence" >>= fun value => BoundedInt.parse? value.toList)
    "Horizon returned invalid account sequence"

/-- The reserve units of a counter; one that cannot be read counts none. -/
def counter (account : Json) (field : String) : I64 := (integer (account.get? field)).getD (.lit 0)

def minimumBalanceStroops (account : Json) (baseReserve : I64) : Except String I64 :=
  let subentries := counter account "subentry_count"
  let sponsoring := counter account "num_sponsoring"
  let sponsored := counter account "num_sponsored"
  let two : I64 := .lit 2
  let units := (((two.saturatingAdd subentries).saturatingAdd sponsoring).saturatingSub
    sponsored).max (.lit 0)
  okOr (units.checkedMul baseReserve) "minimum balance overflow"

def balanceStroops (balance : Json) (field : String) : Except String I64 :=
  let value := (text balance field).getD "0"
  okOr (parseStroops value false) s!"Horizon returned invalid {field}: {value}"

def accountBalances (account : Json) : Option (List Json) :=
  account.get? "balances" >>= Json.asArray?

/-! ### The ledger account -/

variable (strKey : StrKey)

/-- The first row of the asset. -/
def balanceRow (account : Json) (asset : AssetId) : Option Json :=
  accountBalances account >>= fun balances => balances.find? (asset.matchesBalance strKey)

/-- The most a line can hold; a native line has no limit of its own. -/
def lineLimit (asset : AssetId) (raw : Json) : Except String I64 :=
  if asset.isNative then .ok (.lit 9223372036854775807) else balanceStroops raw "limit"

def ledgerLine (asset : AssetId) (raw : Json) : Except String Line := do
  let balance ← balanceStroops raw "balance"
  let selling ← balanceStroops raw "selling_liabilities"
  let buying ← balanceStroops raw "buying_liabilities"
  let limit ← lineLimit asset raw
  return ⟨balance.val, selling.val, buying.val, limit.val⟩

def ledgerAccount (account : Json) : LedgerAccount AssetId where
  lines asset := balanceRow strKey account asset >>= fun raw => (ledgerLine asset raw).toOption
  units := 2 + (counter account "subentry_count").val + (counter account "num_sponsoring").val -
    (counter account "num_sponsored").val

/-- The snapshot is of an account of the ledger: its rows can be read and are sound,
and the counters add up, within the range of 64 bits, to no negative number of units. -/
structure LedgerSnapshot (account : Json) : Prop where
  balances : ∃ rows, accountBalances account = some rows
  readable : ∀ asset raw, balanceRow strKey account asset = some raw →
    ∃ line, ledgerLine asset raw = .ok line
  sound : ∀ asset line, (ledgerAccount strKey account).lines asset = some line → line.Sound
  subentries_le : 2 + (counter account "subentry_count").val ≤ 9223372036854775807
  sponsoring_ge : -9223372036854775808 ≤
    2 + (counter account "subentry_count").val + (counter account "num_sponsoring").val
  sponsoring_le : 2 + (counter account "subentry_count").val +
    (counter account "num_sponsoring").val ≤ 9223372036854775807
  units_nonneg : 0 ≤ (ledgerAccount strKey account).units
  units_le : (ledgerAccount strKey account).units ≤ 9223372036854775807

variable {strKey} {account raw : Json} {asset : AssetId} {line : Line} {baseReserve amount : I64}
variable {field : String}

theorem balanceStroops_nonneg (h : balanceStroops raw field = .ok amount) : 0 ≤ amount.val := by
  rw [balanceStroops, okOr_eq_ok] at h
  exact parseStroops_nonneg h

/-- The row reads as these amounts. -/
structure Reads (asset : AssetId) (raw : Json) (balance selling buying limit : I64) : Prop where
  balance : balanceStroops raw "balance" = .ok balance
  selling : balanceStroops raw "selling_liabilities" = .ok selling
  buying : balanceStroops raw "buying_liabilities" = .ok buying
  limit : lineLimit asset raw = .ok limit

theorem ledgerLine_eq_ok : ledgerLine asset raw = .ok line ↔
    ∃ balance selling buying limit, Reads asset raw balance selling buying limit ∧
      line = ⟨balance.val, selling.val, buying.val, limit.val⟩ := by
  simp only [ledgerLine, bind_eq_ok, pure_eq_ok, Except.ok.injEq]
  constructor
  · rintro ⟨balance, hbalance, selling, hselling, buying, hbuying, limit, hlimit, rfl⟩
    exact ⟨balance, selling, buying, limit, ⟨hbalance, hselling, hbuying, hlimit⟩, rfl⟩
  · rintro ⟨balance, selling, buying, limit, ⟨hbalance, hselling, hbuying, hlimit⟩, rfl⟩
    exact ⟨balance, hbalance, selling, hselling, buying, hbuying, limit, hlimit, rfl⟩

theorem reads_of_line (hline : (ledgerAccount strKey account).lines asset = some line) :
    ∃ raw balance selling buying limit, balanceRow strKey account asset = some raw ∧
      Reads asset raw balance selling buying limit ∧
      line = ⟨balance.val, selling.val, buying.val, limit.val⟩ := by
  obtain ⟨raw, hrow, hread⟩ := Option.bind_eq_some_iff.mp hline
  cases hok : ledgerLine asset raw with
  | error e => simp [hok, Except.toOption] at hread
  | ok read =>
    obtain rfl : read = line := by simpa [hok, Except.toOption] using hread
    obtain ⟨balance, selling, buying, limit, hreads, rfl⟩ := ledgerLine_eq_ok.mp hok
    exact ⟨raw, balance, selling, buying, limit, hrow, hreads, rfl⟩

namespace LedgerSnapshot

variable (h : LedgerSnapshot strKey account)
include h

/-- An asset without a line has no row. -/
theorem balanceRow_eq_none (hline : (ledgerAccount strKey account).lines asset = none) :
    balanceRow strKey account asset = none := by
  cases hrow : balanceRow strKey account asset with
  | none => rfl
  | some raw =>
    obtain ⟨line, hread⟩ := h.readable asset raw hrow
    simp [ledgerAccount, hrow, hread, Except.toOption] at hline

/-- The rows are there, and the row of the asset is found among them. -/
theorem balances_eq (asset : AssetId) : ∃ balances, accountBalances account = some balances ∧
    balances.find? (asset.matchesBalance strKey) = balanceRow strKey account asset := by
  obtain ⟨balances, hbalances⟩ := h.balances
  exact ⟨balances, hbalances, by rw [balanceRow, hbalances, Option.bind_eq_bind, Option.bind_some]⟩

/-- The minimum balance is the reserve of all units, unless that overflows. -/
theorem minimumBalanceStroops_eq :
    minimumBalanceStroops account baseReserve = okOr
      (BoundedInt.ofInt? ((ledgerAccount strKey account).minimum baseReserve.val))
      "minimum balance overflow" := by
  have hsubentries := h.subentries_le
  have hsponsoring_ge := h.sponsoring_ge
  have hsponsoring_le := h.sponsoring_le
  have hunits := h.units_nonneg
  have hunits_le := h.units_le
  have hsubentries_ge := (counter account "subentry_count").lo_le
  simp only [ledgerAccount] at hunits hunits_le
  simp only [minimumBalanceStroops, BoundedInt.checkedMul, LedgerAccount.minimum, ledgerAccount]
  congr 3
  simp (disch := decide) only [BoundedInt.val_max, BoundedInt.val_saturatingSub,
    BoundedInt.val_saturatingAdd, BoundedInt.val_lit]
  omega

/-- A reserve in range is the minimum balance. -/
theorem minimumBalanceStroops_eq_ok (hreserve : 0 ≤ baseReserve.val)
    (hle : (ledgerAccount strKey account).minimum baseReserve.val ≤ 9223372036854775807) :
    ∃ minimum, minimumBalanceStroops account baseReserve = .ok minimum ∧
      minimum.val = (ledgerAccount strKey account).minimum baseReserve.val ∧ 0 ≤ minimum.val := by
  have hminimum : 0 ≤ (ledgerAccount strKey account).minimum baseReserve.val :=
    mul_nonneg h.units_nonneg hreserve
  obtain ⟨minimum, hof, hval⟩ : ∃ minimum : I64, BoundedInt.ofInt?
      ((ledgerAccount strKey account).minimum baseReserve.val) = some minimum ∧ _ :=
    BoundedInt.exists_ofInt? (by omega)
  refine ⟨minimum, ?_, hval, hval ▸ hminimum⟩
  rw [h.minimumBalanceStroops_eq, hof]
  rfl

end LedgerSnapshot

/-! ### Accounts from their rows -/

/-- An issued asset is only found in a row with a code. -/
theorem matchesBalance_eq_false (hasset : asset.isNative = false)
    (hcode : text raw "asset_code" = none) : asset.matchesBalance strKey raw = false := by
  obtain ⟨xdr, wellFormed⟩ := asset
  cases xdr with
  | native => exact absurd hasset (by simp [AssetId.isNative])
  | creditAlphanum4 assetCode issuer | creditAlphanum12 assetCode issuer =>
    simp [AssetId.matchesBalance, hcode, AssetId.code]

/-- A row reads as a sound line: as a native one where it is native, and as an issued
one where it has a code. -/
structure SoundRow (raw : Json) : Prop where
  native : text raw "asset_type" = some "native" →
    ∃ line, ledgerLine .native raw = .ok line ∧ line.Sound
  issued : text raw "asset_code" ≠ none → ∃ line, ledgerLine .usdc raw = .ok line ∧ line.Sound

/-- An issued row reads the same for every issued asset. -/
theorem ledgerLine_issued (hasset : asset.isNative = false) :
    ledgerLine asset raw = ledgerLine .usdc raw := by
  have hlimit : lineLimit asset raw = lineLimit .usdc raw := by
    rw [lineLimit, lineLimit, if_neg (by simp [hasset]), if_neg (by decide)]
  rw [ledgerLine, ledgerLine, hlimit]

/-- A row that an asset is found in reads as a sound line of it. -/
theorem SoundRow.exists_line (h : SoundRow raw) (hfound : asset.matchesBalance strKey raw = true) :
    ∃ line, ledgerLine asset raw = .ok line ∧ line.Sound := by
  by_cases hasset : asset.isNative = true
  · rw [AssetId.isNative_iff.mp hasset] at hfound ⊢
    exact h.native (by simpa [AssetId.matchesBalance, AssetId.native] using hfound)
  · rw [Bool.not_eq_true] at hasset
    rw [ledgerLine_issued hasset]
    refine h.issued fun hcode => ?_
    rw [matchesBalance_eq_false hasset hcode] at hfound
    exact absurd hfound Bool.false_ne_true

/-- An account is of the ledger when its rows are sound and its counters small. -/
theorem LedgerSnapshot.of_rows {rows : List Json} (hbalances : accountBalances account = some rows)
    (hrows : ∀ raw ∈ rows, SoundRow raw)
    (hcounters : ∀ field ∈ ["subentry_count", "num_sponsoring", "num_sponsored"],
      0 ≤ (counter account field).val)
    (hle : 2 + (counter account "subentry_count").val + (counter account "num_sponsoring").val ≤
      9223372036854775807)
    (hunits : 0 ≤ (ledgerAccount strKey account).units) : LedgerSnapshot strKey account := by
  have hsubentries := hcounters "subentry_count" (by simp)
  have hsponsoring := hcounters "num_sponsoring" (by simp)
  have hsponsored := hcounters "num_sponsored" (by simp)
  have hunits_le : (ledgerAccount strKey account).units ≤ 9223372036854775807 := by
    simp only [ledgerAccount]
    omega
  -- every row that is found is a sound line
  have hfound : ∀ asset raw, balanceRow strKey account asset = some raw →
      ∃ line, ledgerLine asset raw = .ok line ∧ line.Sound := by
    intro asset raw hrow
    rw [balanceRow, hbalances, Option.bind_eq_bind, Option.bind_some] at hrow
    exact (hrows raw (List.mem_of_find?_eq_some hrow)).exists_line (List.find?_some hrow)
  refine ⟨⟨_, hbalances⟩, ?_, ?_, by omega, by omega, hle, hunits, hunits_le⟩
  · intro asset raw hrow
    obtain ⟨line, hread, -⟩ := hfound asset raw hrow
    exact ⟨line, hread⟩
  · intro asset line hline
    obtain ⟨raw, hrow, hread⟩ := Option.bind_eq_some_iff.mp hline
    obtain ⟨found, hok, hsound⟩ := hfound asset raw hrow
    rw [hok] at hread
    obtain rfl := Option.some_inj.mp hread
    exact hsound

/-- A snapshot with one entry and these rows. -/
def accountWithRows (rows : List Json) : Json :=
  .object [("sequence", .string "7"), ("subentry_count", .number (.posInt (.lit 1))),
    ("num_sponsoring", .number (.posInt (.lit 0))), ("num_sponsored", .number (.posInt (.lit 0))),
    ("balances", .array rows)]

theorem LedgerSnapshot.accountWithRows {rows : List Json} (hrows : ∀ raw ∈ rows, SoundRow raw) :
    LedgerSnapshot strKey (accountWithRows rows) := by
  have hsubentries : counter (Fresnica.accountWithRows rows) "subentry_count" = .lit 1 := rfl
  have hsponsoring : counter (Fresnica.accountWithRows rows) "num_sponsoring" = .lit 0 := rfl
  have hsponsored : counter (Fresnica.accountWithRows rows) "num_sponsored" = .lit 0 := rfl
  refine LedgerSnapshot.of_rows rfl hrows ?_ ?_ ?_
  · intro field hfield
    simp only [List.mem_cons, List.not_mem_nil, or_false] at hfield
    rcases hfield with rfl | rfl | rfl
    · rw [hsubentries]
      decide
    · rw [hsponsoring]
      decide
    · rw [hsponsored]
      decide
  · rw [hsubentries, hsponsoring]
    decide
  · simp only [ledgerAccount, hsubentries, hsponsoring, hsponsored]
    decide

/-- A snapshot with one native row. -/
def nativeAccount (balance selling : String) : Json :=
  accountWithRows [.object [("asset_type", .string "native"), ("balance", .string balance),
    ("selling_liabilities", .string selling), ("buying_liabilities", .string "0.0000000")]]

theorem LedgerSnapshot.nativeAccount {balance selling : String} {line : Line}
    (hline : ledgerLine .native (.object [("asset_type", .string "native"),
      ("balance", .string balance), ("selling_liabilities", .string selling),
      ("buying_liabilities", .string "0.0000000")]) = .ok line) (hsound : line.Sound) :
    LedgerSnapshot strKey (nativeAccount balance selling) := by
  refine LedgerSnapshot.accountWithRows fun raw hraw => ?_
  obtain rfl := List.mem_singleton.mp hraw
  exact ⟨fun _ => ⟨line, hline, hsound⟩, fun hcode => absurd rfl hcode⟩

/-- An account with 100 units, of which an offer promises one, is of the ledger. -/
theorem LedgerSnapshot.nativeAccount_hundred (strKey : StrKey) :
    LedgerSnapshot strKey (Fresnica.nativeAccount "100.0000000" "1.0000000") := by
  have hline : ledgerLine .native (.object [("asset_type", .string "native"),
      ("balance", .string "100.0000000"), ("selling_liabilities", .string "1.0000000"),
      ("buying_liabilities", .string "0.0000000")]) =
        .ok ⟨1000000000, 10000000, 0, 9223372036854775807⟩ := by decide +kernel
  exact LedgerSnapshot.nativeAccount hline ⟨by decide, by decide⟩

end Fresnica
