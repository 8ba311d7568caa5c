import Fresnica.Asset.Identity
import Fresnica.Payment.Accepted
import Fresnica.Transaction.StroopCodec
import Fresnica.Trustline.Change
import Mathlib.Data.List.Find

/-!
# Trustlines that the ledger accepts

The ledger opens a line when its issuer exists and the account can afford the reserve of one
more entry, gives it another limit as long as that leaves room for what is held and promised,
and removes it when it is empty and no pool of the account uses the asset. In any case the fee
is charged first.

The checks of a trustline accept exactly what the ledger does, as far as Horizon answers every
request about the issuer and the pools.

## Main definitions

* `ChangesTrust` — how the ledger changes a line
* `Asked` — what an action asks for, and what is shown of it
* `Answers` — Horizon answers, and answers with the ledger's state

## Main results

* `ensureNativeCapacity_eq_ok` — the check of the reserve
* `trustlineChange_eq_ok` — the checks accept what the ledger does
* `prepareTrustlineWithWallet_changes` — the ledger changes the line as the review shows
-/

namespace Fresnica

open Foundation

/-- How the ledger changes the line of an asset: by opening it, by giving it another limit, or
by closing it. The account pays for its own entries; how many it may have at most is left out,
as it is in the checks. -/
inductive ChangesTrust (reserve : ℤ) (issuerExists pooled : Prop) (a : LedgerAccount AssetId)
    (asset : AssetId) (limit : ℤ) : LedgerAccount AssetId → Prop
  | opens (hnone : a.lines asset = none) (hlimit : 0 < limit) (hissuer : issuerExists)
      (hsolvent : (a.addUnits 1).Solvent .native reserve) :
      ChangesTrust reserve issuerExists pooled a asset limit ((a.addUnits 1).openLine asset limit)
  | limits {line : Line} (hline : a.lines asset = some line) (hlimit : 0 < limit)
      (hroom : line.balance + line.buying ≤ limit) (hissuer : issuerExists) :
      ChangesTrust reserve issuerExists pooled a asset limit (a.setLimit asset limit)
  | closes {line : Line} (hline : a.lines asset = some line) (hlimit : limit = 0)
      (hroom : line.balance + line.buying ≤ limit) (hunused : ¬ pooled) :
      ChangesTrust reserve issuerExists pooled a asset limit ((a.addUnits (-1)).closeLine asset)

/-- The account with the fee charged. -/
def charged (a : LedgerAccount AssetId) (fee : ℤ) : LedgerAccount AssetId :=
  a.credit .native (-fee)

variable {strKey : StrKey} {gateway : TrustlineGateway} {account : Json} {asset : AssetId}
variable {ledger : LedgerParameters} {issuer : String} {action : TrustlineAction}
variable {change : TrustlineChange} {a : LedgerAccount AssetId}

/-! ### The account -/

/-- The rows of pool shares are not rows of the asset. -/
def SharesApart (strKey : StrKey) (account : Json) (asset : AssetId) : Prop :=
  ∀ rows, accountBalances account = some rows → ∀ raw ∈ rows,
    asset.matchesBalance strKey raw = true → text raw "asset_type" ≠ some "liquidity_pool_shares"

theorem findTrustline_eq (h : SharesApart strKey account asset) :
    findTrustline strKey account asset = balanceRow strKey account asset := by
  rw [findTrustline, balanceRow]
  cases hrows : accountBalances account with
  | none => rfl
  | some rows =>
    simp only [Option.bind_eq_bind, Option.bind_some]
    refine List.find?_congr fun raw hraw => ?_
    have hapart := h rows hrows raw hraw
    by_cases hmatches : asset.matchesBalance strKey raw = true <;> simp_all

/-- The check of the reserve is that of the fee, with what is added to it. -/
theorem ensureNativeCapacity_eq_ok {baseReserve additional : I64} {fee : U32}
    (h : LedgerSnapshot strKey account) (hreserve : 0 ≤ baseReserve.val)
    (hadditional : 0 ≤ additional.val) :
    ensureNativeCapacity account baseReserve fee additional = .ok () ↔
      FeeReady (ledgerAccount strKey account) baseReserve.val (fee.val + additional.val) := by
  obtain ⟨balances, hbalances, hfind⟩ := h.balances_eq .native
  have hfee := fee.lo_le
  rw [ensureNativeCapacity, hbalances, Option.bind_eq_bind, Option.bind_some, find_native, hfind]
  -- without a native line there is nothing to pay with
  cases hline : (ledgerAccount strKey account).lines .native with
  | none =>
    rw [h.balanceRow_eq_none hline]
    simp [FeeReady, hline, okOr]
  | some line =>
    obtain ⟨raw, balance, selling, buying, limit, hraw, hreads, rfl⟩ := reads_of_line hline
    have hsound := (h.sound _ _ hline).covered
    have hselling := balanceStroops_nonneg hreads.selling
    have hbalance := balance.le_hi
    have hminimum : 0 ≤ (ledgerAccount strKey account).minimum baseReserve.val :=
      mul_nonneg h.units_nonneg hreserve
    dsimp only at hsound
    simp only [hraw, okOr, ok_bind, hreads.balance, hreads.selling, FeeReady, hline,
      Option.some.injEq, exists_eq_left', Line.available]
    obtain ⟨required, hrequired⟩ | hoverflow :
        (∃ required, (feeStroops fee).checkedAdd additional = some required) ∨
          (feeStroops fee).checkedAdd additional = none := by
      cases (feeStroops fee).checkedAdd additional <;> simp
    · have hval := BoundedInt.checkedAdd_eq_some_iff.mp hrequired
      rw [val_feeStroops] at hval
      by_cases hin : (ledgerAccount strKey account).minimum baseReserve.val ≤ 9223372036854775807
      · obtain ⟨minimum, hok, hminimum, -⟩ := h.minimumBalanceStroops_eq_ok hreserve hin
        rw [hok, ok_bind, hrequired, ok_bind, ensure_eq_ok, BoundedInt.lt_iff, not_lt]
        simp (disch := decide) only [BoundedInt.val_max, BoundedInt.val_saturatingSub,
          BoundedInt.val_lit]
        omega
      · -- a minimum balance out of range is an error, and more than any balance
        rw [h.minimumBalanceStroops_eq, BoundedInt.ofInt?_eq_none_iff.mpr (by omega), okOr]
        simp only [error_bind, reduceCtorEq, false_iff]
        omega
    · -- so is a reserve out of range
      have hover := BoundedInt.checkedAdd_eq_none_iff.mp hoverflow
      rw [val_feeStroops] at hover
      rw [hoverflow]
      simp only [error_bind, bind_eq_ok, reduceCtorEq, exists_false, false_iff, and_false]
      omega

/-! ### Horizon's answers -/

/-- The account has shares of a pool that uses the asset. -/
def Pooled (strKey : StrKey) (gateway : TrustlineGateway) (account : Json) (asset : AssetId) :
    Prop :=
  ∃ rows raw poolId pool, accountBalances account = some rows ∧ raw ∈ rows ∧
    text raw "asset_type" = some "liquidity_pool_shares" ∧
    text raw "liquidity_pool_id" = some poolId ∧ gateway.getLiquidityPool poolId = .ok pool ∧
    liquidityPoolUsesAsset strKey pool asset = .ok true

/-- Horizon answers the requests about the issuer and the pools, and has a row of its own for
each of the account's assets. -/
structure Answers (strKey : StrKey) (gateway : TrustlineGateway) (account : Json) (asset : AssetId)
    (issuer : String) (issuerExists : Prop) : Prop where
  apart : SharesApart strKey account asset
  optional : (∃ found, gateway.getAccountOptional issuer = .ok (some found)) ↔ issuerExists
  known : gateway.accountExists issuer = .ok true ↔ issuerExists
  pools : ∀ rows, accountBalances account = some rows → ∀ raw ∈ rows,
    text raw "asset_type" = some "liquidity_pool_shares" → ∃ poolId pool uses,
      text raw "liquidity_pool_id" = some poolId ∧ gateway.getLiquidityPool poolId = .ok pool ∧
        liquidityPoolUsesAsset strKey pool asset = .ok uses

variable {issuerExists : Prop}

theorem ensureNotUsedByLiquidityPool_eq_ok (h : LedgerSnapshot strKey account)
    (hanswers : Answers strKey gateway account asset issuer issuerExists) :
    ensureNotUsedByLiquidityPool strKey gateway.getLiquidityPool account asset = .ok () ↔
      ¬ Pooled strKey gateway account asset := by
  obtain ⟨rows, hrows⟩ := h.balances
  rw [ensureNotUsedByLiquidityPool, hrows, okOr, ok_bind, forM_eq_ok]
  constructor
  · rintro hall ⟨rows', raw, poolId, pool, hrows', hraw, htype, hid, hpool, huses⟩
    obtain rfl := Option.some.inj (hrows.symm.trans hrows')
    have hrow := hall raw hraw
    rw [ensureShareUnrelated, if_neg (not_not.mpr htype), hid, okOr, ok_bind, hpool, ok_bind,
      huses, ok_bind, ensure_eq_ok] at hrow
    exact hrow rfl
  · intro hunused raw hraw
    rw [ensureShareUnrelated]
    split_ifs with htype
    · rfl
    rw [not_not] at htype
    obtain ⟨poolId, pool, uses, hid, hpool, huses⟩ := hanswers.pools rows hrows raw hraw htype
    rw [hid, okOr, ok_bind, hpool, ok_bind, huses, ok_bind, ensure_eq_ok]
    rintro rfl
    exact hunused ⟨rows, raw, poolId, pool, hrows, hraw, htype, hid, hpool, huses⟩

/-! ### The three actions -/

/-- What an action asks for: a line that is there or not, a limit, and what is shown of how the
line is authorized. -/
inductive Asked (strKey : StrKey) (gateway : TrustlineGateway) (account : Json) (asset : AssetId)
    (issuer : String) : TrustlineAction → TrustlineChange → Prop
  | add {limit : Option String} {amount : I64} {found : Json}
      {state : TrustlineAuthorization × Bool}
      (hnone : (ledgerAccount strKey account).lines asset = none)
      (hamount : parseLimit (limit.getD defaultTrustlineLimit) = .ok amount)
      (hfound : gateway.getAccountOptional issuer = .ok (some found))
      (hstate : initialTrustlineState found = .ok state) :
      Asked strKey gateway account asset issuer (.add limit)
        ⟨.add, amount, some state.1, some state.2⟩
  | setLimit {limit : String} {amount : I64} {raw : Json} {state : TrustlineAuthorization × Bool}
      (hraw : balanceRow strKey account asset = some raw)
      (hamount : parseLimit limit = .ok amount)
      (hstate : existingTrustlineState raw = .ok state) :
      Asked strKey gateway account asset issuer (.setLimit limit)
        ⟨.setLimit, amount, some state.1, some state.2⟩
  | remove {raw : Json} (hraw : balanceRow strKey account asset = some raw) :
      Asked strKey gateway account asset issuer .remove ⟨.remove, .lit 0, none, none⟩

theorem parseLimit_pos {value : String} {amount : I64} (h : parseLimit value = .ok amount) :
    0 < amount.val :=
  parsePositiveStroops_pos (okOr_eq_ok.mpr (okOr_eq_ok.mp h))

theorem lines_charged {other : AssetId} {fee : ℤ} (h : other.isNative = false) :
    (charged a fee).lines other = a.lines other := by
  have hne : other ≠ .native := by
    rintro rfl
    exact absurd h (by decide)
  rw [charged, LedgerAccount.lines_credit]
  simp only [hne, if_false, Option.map_id']

theorem minimum_addUnits {reserve : ℤ} :
    (a.addUnits 1).minimum reserve = a.minimum reserve + reserve := by
  rw [LedgerAccount.minimum, LedgerAccount.minimum, LedgerAccount.units_addUnits]
  ring

/-- The reserve of one more entry can be paid beside the fee. -/
theorem feeReady_add_iff {reserve fee : ℤ} (h : LedgerSnapshot strKey account)
    (hreserve : 0 ≤ reserve) (hfee : 0 ≤ fee) :
    FeeReady (ledgerAccount strKey account) reserve (fee + reserve) ↔
      FeeReady (ledgerAccount strKey account) reserve fee ∧
        ((charged (ledgerAccount strKey account) fee).addUnits 1).Solvent .native reserve := by
  have hlines (line : Line) (hline : (ledgerAccount strKey account).lines .native = some line) :
      (charged (ledgerAccount strKey account) fee).lines .native = some (line.credit (-fee)) := by
    rw [charged, LedgerAccount.lines_credit, hline]
    rfl
  have hminimum : (charged (ledgerAccount strKey account) fee).minimum reserve =
      (ledgerAccount strKey account).minimum reserve := rfl
  constructor
  · rintro ⟨line, hline, hle⟩
    have hsound := (Line.sound_iff.mp (h.sound _ _ hline)).1
    -- without a reserve and a fee, the minimum is zero
    have hzero : reserve = 0 → (ledgerAccount strKey account).minimum reserve = 0 := by
      rintro rfl
      exact mul_zero _
    have hpaid : (ledgerAccount strKey account).minimum reserve + (fee + reserve) ≤
        line.available := by
      rcases hle with hle | ⟨hnothing, -⟩
      · exact hle
      · have := hzero (by omega)
        omega
    refine ⟨⟨line, hline, Or.inl (by omega)⟩, line.credit (-fee), hlines line hline, ?_⟩
    rw [minimum_addUnits, hminimum, Line.available_credit]
    omega
  · rintro ⟨-, paid, hpaid, hle⟩
    rw [LedgerAccount.lines_addUnits] at hpaid
    cases hline : (ledgerAccount strKey account).lines .native with
    | none =>
      rw [charged, LedgerAccount.lines_credit, hline] at hpaid
      cases hpaid
    | some line =>
      obtain rfl := Option.some.inj ((hlines line hline).symm.trans hpaid)
      rw [minimum_addUnits, hminimum, Line.available_credit] at hle
      exact ⟨line, hline, Or.inl (by omega)⟩

theorem lines_eq_none_iff (h : LedgerSnapshot strKey account) :
    (ledgerAccount strKey account).lines asset = none ↔ balanceRow strKey account asset = none := by
  refine ⟨h.balanceRow_eq_none, fun hrow => ?_⟩
  simp only [ledgerAccount, hrow, Option.bind_eq_bind, Option.bind_none]

/-- The line that a row reads as. -/
theorem line_of_row {raw : Json} (h : LedgerSnapshot strKey account)
    (hraw : balanceRow strKey account asset = some raw) :
    ∃ balance selling buying limit, Reads asset raw balance selling buying limit ∧
      (ledgerAccount strKey account).lines asset =
        some ⟨balance.val, selling.val, buying.val, limit.val⟩ := by
  obtain ⟨line, hread⟩ := h.readable asset raw hraw
  have hline : (ledgerAccount strKey account).lines asset = some line := by
    simp only [ledgerAccount, hraw, Option.bind_eq_bind, Option.bind_some, hread, Except.toOption]
  obtain ⟨balance, selling, buying, limit, hreads, rfl⟩ := ledgerLine_eq_ok.mp hread
  exact ⟨balance, selling, buying, limit, hreads, hline⟩

/-- The check of the fee alone. -/
theorem ensureFee_eq_ok (h : LedgerSnapshot strKey account)
    (hreserve : 0 ≤ ledger.baseReserveInStroops.val) :
    ensureNativeCapacity account ledger.baseReserveInStroops ledger.baseFeeInStroops (.lit 0) =
        .ok () ↔
      FeeReady (ledgerAccount strKey account) ledger.baseReserveInStroops.val
        ledger.baseFeeInStroops.val := by
  have hzero : ledger.baseFeeInStroops.val + (.lit 0 : I64).val = ledger.baseFeeInStroops.val :=
    add_zero _
  rw [ensureNativeCapacity_eq_ok h hreserve (by decide), hzero]

/-- The ledger accepts what is asked for, with the fee charged first. -/
structure Accepted (strKey : StrKey) (gateway : TrustlineGateway) (account : Json)
    (ledger : LedgerParameters) (asset : AssetId) (issuerExists : Prop) (limit : ℤ) : Prop where
  fee : FeeReady (ledgerAccount strKey account) ledger.baseReserveInStroops.val
    ledger.baseFeeInStroops.val
  changes : ∃ a', ChangesTrust ledger.baseReserveInStroops.val issuerExists
    (Pooled strKey gateway account asset)
    (charged (ledgerAccount strKey account) ledger.baseFeeInStroops.val) asset limit a'

/-! ### An account without a line -/

def trustingAddress : String := Sep23.strKey.publicKey (Vector.replicate 32 1)

/-- An account with 100 units and one signer. -/
def trustingAccount : Json :=
  .object [("account_id", .string trustingAddress), ("sequence", .string "7"),
    ("subentry_count", .number (.posInt (.lit 0))), ("num_sponsoring", .number (.posInt (.lit 0))),
    ("num_sponsored", .number (.posInt (.lit 0))),
    ("thresholds", .object [("low_threshold", .number (.posInt (.lit 0))),
      ("med_threshold", .number (.posInt (.lit 0))),
      ("high_threshold", .number (.posInt (.lit 0)))]),
    ("signers", .array [.object [("key", .string trustingAddress),
      ("type", .string "ed25519_public_key"), ("weight", .number (.posInt (.lit 1)))]]),
    ("balances", .array [.object [("asset_type", .string "native"),
      ("balance", .string "100.0000000"), ("selling_liabilities", .string "1.0000000"),
      ("buying_liabilities", .string "0.0000000")]])]

/-- An issuer that authorizes every line. -/
def openIssuer : Json :=
  .object [("flags", .object [("auth_required", .bool false),
    ("auth_clawback_enabled", .bool false)])]

def usdcGateway : TrustlineGateway where
  getAccount _ := .ok trustingAccount
  getLedgerParameters := .ok ⟨.lit 100, .lit 5000000⟩
  getAccountOptional _ := .ok (some openIssuer)
  accountExists _ := .ok true
  getLiquidityPool poolId := .error s!"Liquidity pool not found: {poolId}"

theorem trustingAccount_snapshot : LedgerSnapshot Sep23.strKey trustingAccount := by
  -- the one row of the account is read as a line
  have hline : ledgerLine .native (.object [("asset_type", .string "native"),
      ("balance", .string "100.0000000"), ("selling_liabilities", .string "1.0000000"),
      ("buying_liabilities", .string "0.0000000")]) =
        .ok ⟨1000000000, 10000000, 0, 9223372036854775807⟩ := by decide +kernel
  have hcounter (field : String)
      (hfield : field ∈ ["subentry_count", "num_sponsoring", "num_sponsored"]) :
      counter trustingAccount field = .lit 0 := by
    simp only [List.mem_cons, List.not_mem_nil, or_false] at hfield
    rcases hfield with rfl | rfl | rfl <;> rfl
  refine LedgerSnapshot.of_rows rfl (fun raw hraw => ?_) (fun field hfield => ?_) ?_ ?_
  · obtain rfl := List.mem_singleton.mp hraw
    exact ⟨fun _ => ⟨_, hline, by decide, by decide⟩, fun hcode => absurd rfl hcode⟩
  · rw [hcounter field hfield]
    decide
  · rw [hcounter _ (by simp), hcounter _ (by simp)]
    decide
  · simp only [ledgerAccount]
    rw [hcounter _ (by simp), hcounter _ (by simp), hcounter _ (by simp)]
    decide

/-- The account has no shares of a pool. -/
theorem usdcGateway_answers (asset : AssetId) (issuer : String) :
    Answers Sep23.strKey usdcGateway trustingAccount asset issuer True := by
  have hshares (rows : List Json) (hrows : accountBalances trustingAccount = some rows)
      (raw : Json) (hraw : raw ∈ rows) :
      text raw "asset_type" ≠ some "liquidity_pool_shares" := by
    obtain rfl := Option.some.inj hrows
    obtain rfl := List.mem_singleton.mp hraw
    decide
  exact {
    apart := fun rows hrows raw hraw _ => hshares rows hrows raw hraw
    optional := iff_true_intro ⟨openIssuer, rfl⟩
    known := iff_true_intro rfl
    pools := fun rows hrows raw hraw htype => absurd htype (hshares rows hrows raw hraw) }

/-! ### What is accepted -/

section Actions

variable (h : LedgerSnapshot strKey account) (hreserve : 0 ≤ ledger.baseReserveInStroops.val)
variable (hnative : asset.isNative = false)
variable (hanswers : Answers strKey gateway account asset issuer issuerExists)
include h hreserve hnative hanswers

theorem addTrustline_eq_ok {limit : Option String} :
    addTrustline strKey gateway account ledger asset issuer (balanceRow strKey account asset)
        limit = .ok change ↔
      Asked strKey gateway account asset issuer (.add limit) change ∧
        Accepted strKey gateway account ledger asset issuerExists change.limit.val := by
  have hfee := ledger.baseFeeInStroops.lo_le
  have hcapacity : ensureNativeCapacity account ledger.baseReserveInStroops
      ledger.baseFeeInStroops ledger.baseReserveInStroops = .ok () ↔ _ :=
    (ensureNativeCapacity_eq_ok h hreserve hreserve).trans (feeReady_add_iff h hreserve hfee)
  simp only [addTrustline, bind_eq_ok, ensure_eq_ok, okOr_eq_ok, pure_eq_ok, Except.ok.injEq,
    exists_const]
  constructor
  · rintro ⟨hnone, issuerAccount, hissuer, found, rfl, state, hstate, _, hready, amount, hamount,
      rfl⟩
    rw [← lines_eq_none_iff h] at hnone
    obtain ⟨hpaid, hsolvent⟩ := hcapacity.mp hready
    exact ⟨.add hnone hamount hissuer hstate, hpaid, _, .opens ((lines_charged hnative).trans hnone)
      (parseLimit_pos hamount) (hanswers.optional.mp ⟨found, hissuer⟩) hsolvent⟩
  · rintro ⟨hasked, hpaid, a', hchanges⟩
    cases hasked with
    | add hnone hamount hfound hstate =>
      cases hchanges with
      | opens _ _ _ hsolvent =>
        exact ⟨(lines_eq_none_iff h).mp hnone, _, hfound, _, rfl, _, hstate, (),
          hcapacity.mpr ⟨hpaid, hsolvent⟩, _, hamount, rfl⟩
      -- the other changes are those of a line that exists
      | limits hline | closes hline =>
        rw [lines_charged hnative, hnone] at hline
        cases hline

theorem setTrustlineLimit_eq_ok {limit : String} :
    setTrustlineLimit strKey gateway account ledger asset issuer (balanceRow strKey account asset)
        limit = .ok change ↔
      Asked strKey gateway account asset issuer (.setLimit limit) change ∧
        Accepted strKey gateway account ledger asset issuerExists change.limit.val := by
  have hready : ensureNativeCapacity account ledger.baseReserveInStroops
      ledger.baseFeeInStroops (.lit 0) = .ok () ↔ _ :=
    ensureFee_eq_ok h hreserve
  simp only [setTrustlineLimit, bind_eq_ok, ensure_eq_ok, okOr_eq_ok, pure_eq_ok,
    Except.ok.injEq, exists_const, BoundedInt.checkedAdd_eq_some_iff, BoundedInt.lt_iff, not_lt]
  constructor
  · rintro ⟨raw, hraw, amount, hamount, balance, hbalance, buying, hbuying, committed, hcommitted,
      hroom, exists', hexists, rfl, state, hstate, _, hfee, rfl⟩
    obtain ⟨balance', selling, buying', limit', hreads, hline⟩ := line_of_row h hraw
    obtain rfl := Except.ok.inj (hreads.balance.symm.trans hbalance)
    obtain rfl := Except.ok.inj (hreads.buying.symm.trans hbuying)
    refine ⟨.setLimit hraw hamount hstate, hready.mp hfee, _, .limits
      ((lines_charged hnative).trans hline) (parseLimit_pos hamount) ?_
      (hanswers.known.mp hexists)⟩
    dsimp only
    omega
  · rintro ⟨hasked, hpaid, a', hchanges⟩
    cases hasked with
    | @setLimit _ amount _ _ hraw hamount hstate =>
      have hpositive := parseLimit_pos hamount
      cases hchanges with
      | opens hnone =>
        rw [lines_charged hnative, lines_eq_none_iff h, hraw] at hnone
        cases hnone
      | closes _ hzero => exact absurd hzero hpositive.ne'
      | limits hline _ hroom hissuer =>
        rw [lines_charged hnative] at hline
        obtain ⟨raw, balance, selling, buying, limit', hrow, hreads, rfl⟩ := reads_of_line hline
        obtain rfl := Option.some.inj (hraw.symm.trans hrow)
        have hbalance := balanceStroops_nonneg hreads.balance
        have hbuying := balanceStroops_nonneg hreads.buying
        dsimp only at hroom
        -- what is committed is within the limit, so it does not overflow
        have hrange := amount.le_hi
        obtain ⟨committed, -, hcommitted⟩ : ∃ committed : I64,
            BoundedInt.ofInt? (balance.val + buying.val) = some committed ∧
              committed.val = balance.val + buying.val :=
          BoundedInt.exists_ofInt? (by omega)
        exact ⟨_, hraw, _, hamount, _, hreads.balance, _, hreads.buying, committed, hcommitted,
          by omega, _, hanswers.known.mpr hissuer, rfl, _, hstate, (), hready.mpr hpaid, rfl⟩

theorem removeTrustline_eq_ok :
    removeTrustline strKey gateway account ledger asset (balanceRow strKey account asset) =
        .ok change ↔
      Asked strKey gateway account asset issuer .remove change ∧
        Accepted strKey gateway account ledger asset issuerExists change.limit.val := by
  have hready : ensureNativeCapacity account ledger.baseReserveInStroops
      ledger.baseFeeInStroops (.lit 0) = .ok () ↔ _ :=
    ensureFee_eq_ok h hreserve
  have hunused : ensureNotUsedByLiquidityPool strKey gateway.getLiquidityPool account asset =
      .ok () ↔ _ := ensureNotUsedByLiquidityPool_eq_ok h hanswers
  simp only [removeTrustline, bind_eq_ok, ensure_eq_ok, okOr_eq_ok, pure_eq_ok,
    Except.ok.injEq, exists_const]
  constructor
  · rintro ⟨raw, hraw, balance, hbalance, selling, hselling, buying, hbuying, hempty, _, hpools, _,
      hfee, rfl⟩
    obtain ⟨balance', selling', buying', limit', hreads, hline⟩ := line_of_row h hraw
    obtain rfl := Except.ok.inj (hreads.balance.symm.trans hbalance)
    obtain rfl := Except.ok.inj (hreads.buying.symm.trans hbuying)
    push Not at hempty
    obtain ⟨rfl, -, rfl⟩ := hempty
    exact ⟨.remove hraw, hready.mp hfee, _, .closes ((lines_charged hnative).trans hline) rfl
      le_rfl (hunused.mp hpools)⟩
  · rintro ⟨hasked, hpaid, a', hchanges⟩
    cases hasked with
    | remove hraw =>
      cases hchanges with
      | opens _ hpositive | limits _ hpositive => exact absurd hpositive (by decide)
      | closes hline _ hroom hfree =>
        rw [lines_charged hnative] at hline
        have hsound := (h.sound _ _ hline).covered
        obtain ⟨raw, balance, selling, buying, limit', hrow, hreads, rfl⟩ := reads_of_line hline
        obtain rfl := Option.some.inj (hraw.symm.trans hrow)
        have hbalance := balanceStroops_nonneg hreads.balance
        have hselling := balanceStroops_nonneg hreads.selling
        have hbuying := balanceStroops_nonneg hreads.buying
        have hzero : (.lit 0 : I64).val = 0 := rfl
        dsimp only at hsound hroom
        -- the balance covers what is sold, and the limit of zero what is bought
        have hempty : ¬ (balance ≠ .lit 0 ∨ selling ≠ .lit 0 ∨ buying ≠ .lit 0) := by
          push Not
          refine ⟨BoundedInt.ext ?_, BoundedInt.ext ?_, BoundedInt.ext ?_⟩ <;> omega
        exact ⟨_, hraw, _, hreads.balance, _, hreads.selling, _, hreads.buying, hempty, (),
          hunused.mpr hfree, (), hready.mpr hpaid, rfl⟩

/-- The checks of an action accept exactly what it asks for and the ledger accepts. -/
theorem trustlineChange_eq_ok :
    trustlineChange strKey gateway account ledger asset issuer action = .ok change ↔
      Asked strKey gateway account asset issuer action change ∧
        Accepted strKey gateway account ledger asset issuerExists change.limit.val := by
  unfold trustlineChange
  rw [findTrustline_eq hanswers.apart]
  cases action with
  | add limit => exact addTrustline_eq_ok h hreserve hnative hanswers
  | setLimit limit => exact setTrustlineLimit_eq_ok h hreserve hnative hanswers
  | remove => exact removeTrustline_eq_ok h hreserve hnative hanswers

omit h hreserve hnative hanswers in
theorem trustlineChange_eq_ok_usdc :
    Asked Sep23.strKey usdcGateway trustingAccount .usdc usdcIssuer (.add none)
        ⟨.add, .lit 7082698378736765000, some .full, some false⟩ ∧
      Accepted Sep23.strKey usdcGateway trustingAccount ⟨.lit 100, .lit 5000000⟩ .usdc True
        7082698378736765000 :=
  (trustlineChange_eq_ok trustingAccount_snapshot (by decide) (by decide)
    (usdcGateway_answers .usdc usdcIssuer)).mp (by decide +kernel)

omit hreserve hanswers in
/-- The line is left with the limit that is shown. -/
theorem shownLimit_eq {reserve fee : ℤ} {pooled : Prop} {a' : LedgerAccount AssetId}
    (hasked : Asked strKey gateway account asset issuer action change)
    (hchanges : ChangesTrust reserve issuerExists pooled
      (charged (ledgerAccount strKey account) fee) asset change.limit.val a') :
    (a'.lines asset).map Line.limit =
      (if change.operation ≠ .remove then some (formatStroops change.limit) else none).bind
        fun text => (parseStroops text false).map (·.val) := by
  have hread (hlimit : 0 < change.limit.val) (hkept : change.operation ≠ .remove) :
      (if change.operation ≠ .remove then some (formatStroops change.limit) else none).bind
        (fun text => (parseStroops text false).map (·.val)) = some change.limit.val := by
    rw [if_pos hkept, Option.bind_some, parseStroops_formatStroops hlimit.le, Option.map_some]
  cases hchanges with
  -- a line that is opened or limited is shown with its limit, and a removal shows none
  | opens hnone hlimit _ _ =>
    have hkept : change.operation ≠ .remove := by
      cases hasked with
      | add | setLimit => simp
      | remove hraw =>
        rw [lines_charged hnative, lines_eq_none_iff h, hraw] at hnone
        cases hnone
    rw [hread hlimit hkept, LedgerAccount.lines_openLine_self, LedgerAccount.lines_addUnits, hnone]
    rfl
  | limits hline hlimit _ _ =>
    have hkept : change.operation ≠ .remove := by
      cases hasked with
      | add | setLimit => simp
      | remove _ => exact absurd hlimit (by decide)
    rw [hread hlimit hkept, LedgerAccount.lines_setLimit_self, hline]
    rfl
  | closes _ hzero _ _ =>
    cases hasked with
    | add _ hamount | setLimit _ hamount => exact absurd hzero (parseLimit_pos hamount).ne'
    | remove _ =>
      rw [LedgerAccount.lines_closeLine_self]
      rfl

end Actions

/-! ### The transaction -/

section Transaction

variable {Bytes Digest : Type} {p : Primitives Bytes Digest} {wallets : WalletList}
variable {network : String} {timeoutSeconds : U64} {now : Instant} {request : TrustlineRequest}
variable {wallet : WalletRecord} {prepared : PreparedTrustline}

/-- The fee that is shown is that of the transaction. -/
theorem parseStroops_shownFee {fee shown : U32} (h : fee.val = shown.val) :
    parseStroops (formatStroops (feeStroops shown)) false = some (feeStroops fee) := by
  obtain rfl : fee = shown := BoundedInt.ext h
  refine parseStroops_formatStroops ?_
  rw [val_feeStroops]
  exact fee.lo_le

/-- What the review says that the ledger does. -/
inductive Named (a : LedgerAccount AssetId) (asset : AssetId) (limit : ℤ) :
    TrustlineOperation → Prop
  | add (hnone : a.lines asset = none) : Named a asset limit .add
  | setLimit (hline : a.lines asset ≠ none) (hlimit : 0 < limit) : Named a asset limit .setLimit
  | remove (hline : a.lines asset ≠ none) (hlimit : limit = 0) : Named a asset limit .remove

/-- What the ledger does with a prepared trustline: it charges the fee of the transaction, and
changes the line with its one operation, to the limit that the review shows. The review shows the
account, the asset and the fee of that transaction, and how the line is changed. -/
structure Changes (p : Primitives Bytes Digest) (gateway : TrustlineGateway) (account : Json)
    (ledger : LedgerParameters) (asset : AssetId) (issuerExists : Prop)
    (prepared : PreparedTrustline) : Prop where
  fee : FeeReady (ledgerAccount p.strKey account) ledger.baseReserveInStroops.val
    ledger.baseFeeInStroops.val
  shownAsset : AssetId.parseIssued p.strKey prepared.review.asset = .ok asset
  changes : ∃ tx limit a' key, prepared.envelope = .tx tx [] ∧
    tx.fee = ledger.baseFeeInStroops ∧
    parseStroops prepared.review.feeXlm false = some (feeStroops tx.fee) ∧
    p.strKey.publicKeyOf? prepared.review.source = some key ∧ tx.sourceAccount = .ed25519 key ∧
    tx.operations = [⟨none, .changeTrust asset.toXdr limit⟩] ∧
    Named (ledgerAccount p.strKey account) asset limit.val prepared.review.operation ∧
    ChangesTrust ledger.baseReserveInStroops.val issuerExists
      (Pooled p.strKey gateway account asset)
      (charged (ledgerAccount p.strKey account) tx.fee.val) asset limit.val a' ∧
    (a'.lines asset).map Line.limit =
      prepared.review.limit.bind fun text => (parseStroops text false).map (·.val)

/-- The action that is asked for is what the ledger does. -/
theorem Asked.named {change : TrustlineChange} (h : LedgerSnapshot p.strKey account)
    (hasked : Asked p.strKey gateway account asset issuer action change) :
    Named (ledgerAccount p.strKey account) asset change.limit.val change.operation := by
  have hline {raw : Json} (hraw : balanceRow p.strKey account asset = some raw) :
      (ledgerAccount p.strKey account).lines asset ≠ none := by
    rw [ne_eq, lines_eq_none_iff h, hraw]
    exact Option.some_ne_none raw
  cases hasked with
  | add hnone => exact .add hnone
  | setLimit hraw hamount => exact .setLimit (hline hraw) (parseLimit_pos hamount)
  | remove hraw => exact .remove (hline hraw) rfl

/-- A trustline that is prepared against the ledger's state is changed as its review shows. -/
theorem prepareTrustlineWithWallet_changes (ledgerHas : String → Prop)
    (hsnapshot : ∀ account, gateway.getAccount wallet.address = .ok account →
      LedgerSnapshot p.strKey account)
    (hledger : ∀ ledger, gateway.getLedgerParameters = .ok ledger →
      0 ≤ ledger.baseReserveInStroops.val)
    (hanswers : ∀ account asset issuer, gateway.getAccount wallet.address = .ok account →
      asset.issuer p.strKey = some issuer →
      Answers p.strKey gateway account asset issuer (ledgerHas issuer))
    (h : prepareTrustlineWithWallet p gateway wallets network timeoutSeconds now request wallet =
      .ok prepared) :
    ∃ account ledger asset issuer, gateway.getAccount wallet.address = .ok account ∧
      gateway.getLedgerParameters = .ok ledger ∧
      AssetId.parseIssued p.strKey request.asset = .ok asset ∧
      asset.issuer p.strKey = some issuer ∧ issuer ≠ wallet.address ∧
      Changes p gateway account ledger asset (ledgerHas issuer) prepared := by
  simp only [prepareTrustlineWithWallet, bind_eq_ok, okOr_eq_ok, ensure_eq_ok, exists_const] at h
  obtain ⟨asset, hasset, issuer, hissuer, hother, account, haccount, ledger, hparameters, change,
    hchange, body, hbody, sequence, -, envelope, henvelope, authorization, -, hprepared⟩ := h
  obtain rfl := Except.ok.inj hprepared
  -- only an issued asset has a change of trust
  have hnative : asset.isNative = false := by
    by_contra htrue
    rw [changeTrustBody, if_pos (by simpa using htrue)] at hbody
    cases hbody
  rw [changeTrustBody, if_neg (by simp [hnative])] at hbody
  obtain rfl := Except.ok.inj hbody
  obtain ⟨hasked, haccepted⟩ := (trustlineChange_eq_ok (hsnapshot account haccount)
    (hledger ledger hparameters) hnative
      (hanswers account asset issuer haccount hissuer)).mp hchange
  obtain ⟨tx, key, rfl, hkey, hsource, hoperations, hcharged⟩ :=
    buildOperationEnvelope_eq_ok henvelope
  rw [List.length_singleton, Nat.cast_one, mul_one] at hcharged
  have hfee : tx.fee = ledger.baseFeeInStroops := BoundedInt.ext hcharged
  obtain ⟨a', hchanges⟩ := haccepted.changes
  refine ⟨account, ledger, asset, issuer, haccount, hparameters, hasset, hissuer, hother,
    haccepted.fee, AssetId.parseIssued_eq_ok.mpr ⟨hnative, rfl⟩, tx, change.limit, a', key, rfl,
    hfee, parseStroops_shownFee hcharged, hkey, hsource, hoperations,
    hasked.named (hsnapshot account haccount), hfee ▸ hchanges, ?_⟩
  exact shownLimit_eq (hsnapshot account haccount) hnative hasked hchanges

def trustingWallet : WalletRecord where
  name := "main"
  address := trustingAddress
  walletType := "standard"
  network := "testnet"
  secret := none

def addUsdc : TrustlineRequest := ⟨none, s!"USDC:{usdcIssuer}", .add none⟩

def usdcPrepared : Except String PreparedTrustline :=
  prepareTrustlineWithWallet Primitives.ideal usdcGateway (.ok []) "testnet" (.lit 300)
    (1700000000 * nanosPerSecond) addUsdc trustingWallet

theorem prepareTrustlineWithWallet_changes_usdc :
    ∃ prepared account ledger, usdcPrepared = .ok prepared ∧
      Changes Primitives.ideal usdcGateway account ledger .usdc True prepared := by
  have hok : usdcPrepared.isOk = true := by decide +kernel
  cases hprepared : usdcPrepared with
  | error error =>
    rw [hprepared] at hok
    cases hok
  | ok prepared =>
    -- the gateway answers with the one account, for which the hypotheses hold
    have hsnapshot (account : Json)
        (haccount : usdcGateway.getAccount trustingWallet.address = .ok account) :
        LedgerSnapshot Sep23.strKey account := by
      obtain rfl := Except.ok.inj haccount
      exact trustingAccount_snapshot
    have hledger (ledger : LedgerParameters)
        (hparameters : usdcGateway.getLedgerParameters = .ok ledger) :
        0 ≤ ledger.baseReserveInStroops.val := by
      obtain rfl := Except.ok.inj hparameters
      decide
    have hanswers (account : Json) (asset : AssetId) (issuer : String)
        (haccount : usdcGateway.getAccount trustingWallet.address = .ok account)
        (_ : asset.issuer Sep23.strKey = some issuer) :
        Answers Sep23.strKey usdcGateway account asset issuer True := by
      obtain rfl := Except.ok.inj haccount
      exact usdcGateway_answers asset issuer
    obtain ⟨account, ledger, asset, issuer, -, -, hasset, -, -, hchanges⟩ :=
      prepareTrustlineWithWallet_changes (fun _ => True) hsnapshot hledger hanswers hprepared
    have husdc : AssetId.parseIssued Sep23.strKey addUsdc.asset = .ok .usdc := by decide +kernel
    obtain rfl := Except.ok.inj (hasset.symm.trans husdc)
    exact ⟨prepared, account, ledger, rfl, hchanges⟩

end Transaction

end Fresnica
