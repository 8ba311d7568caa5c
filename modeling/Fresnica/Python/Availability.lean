import Fresnica.Payment.Accepted
import Fresnica.Python.Snapshot
import Mathlib.Data.List.Find

/-!
# Availability in the Python reference

The availability service decides what an account can send and receive with decimals,
and the Rust client decides the same with integers of 64 bits. On the snapshots that
Horizon writes they accept the same payments, as long as a fee is charged, or the
reserve is covered without one: the client clamps what is free at zero before it
compares it with the fee, and the service does not.

## Main definitions

* `availableForTransfer`, `validateTransfer`, `receivingCapacity`, `validateReceive` — the service
* `HorizonRow`, `HorizonSnapshot` — rows and snapshots as Horizon writes them

## Main results

* `findBalance_ofId` — both find the same row
* `validateTransfer_agrees`, `validateReceive_agrees` — each side of a payment
* `payment_agrees` — both accept the same payments
-/

namespace Fresnica.Python.Availability

open Foundation

def assetFromBalance (raw : Json) : Asset :=
  if text raw "asset_type" = some "native" then .xlm
  else if text raw "asset_type" = some "liquidity_pool_shares" then
    ⟨"LP", none, text raw "liquidity_pool_id"⟩
  else ⟨(text raw "asset_code").getD "", text raw "asset_issuer", none⟩

def findBalance (account : Json) (asset : Asset) : Option Json :=
  ((accountBalances account).getD []).find? fun raw => assetFromBalance raw = asset

def decimal (raw : Json) (field : String) : Except ServiceError ℤ :=
  okOr (amount? raw field) .malformed

/-- The minimum balance, in stroops. -/
def minimumBalanceXlm (account : Json) (baseReserveStroops : ℤ) : Except ServiceError ℤ := do
  let units ← okOr (unitSum? account) .malformed
  return rounded (max units 0 * rounded baseReserveStroops)

def availableForTransfer (account : Json) (asset : Asset) (baseReserveStroops feeStroops : ℤ) :
    Except ServiceError ℤ :=
  if ¬ asset.isNative ∧ asset.issuer = text account "account_id" then .ok maxStellarAmount
  else
    match findBalance account asset with
    | none => .ok 0
    | some raw => do
      let balance ← decimal raw "balance"
      let selling ← decimal raw "selling_liabilities"
      if ¬ asset.isNative then return max (rounded (balance - selling)) 0
      let fee := rounded feeStroops
      let minimum ← minimumBalanceXlm account baseReserveStroops
      return max (rounded (rounded (rounded (balance - selling) - minimum) - fee)) 0

def ensureFullAuthorization (raw : Option Json) (asset : Asset) (role : String) :
    Except ServiceError Unit :=
  match raw with
  | none => .error (.transaction s!"{role} trustline is missing for {asset.display}")
  | some raw =>
    match raw.get? "is_authorized" with
    | some (.bool true) => .ok ⟨⟩
    | some (.bool false) =>
      .error (.transaction s!"{role} trustline for {asset.display} is not fully authorized")
    | _ => .error (.transaction
        s!"Horizon returned malformed authorization state for {asset.display}")

def positiveAmount (value : ℤ) : Except ServiceError ℤ := do
  ensure (0 < value) (.invalidAmount "Amount must be greater than zero")
  return value

/-- Issued-asset payments still need enough free XLM for the transaction fee. -/
def ensureFee (account : Json) (baseReserveStroops feeStroops : ℤ) : Except ServiceError Unit := do
  let native ← okOr (findBalance account .xlm) .noFeeBalance
  let fee := rounded feeStroops
  let nativeBalance ← decimal native "balance"
  let nativeSelling ← decimal native "selling_liabilities"
  let minimum ← minimumBalanceXlm account baseReserveStroops
  let freeBeforeFee := rounded (rounded (nativeBalance - nativeSelling) - minimum)
  ensure (¬ freeBeforeFee < fee) (.insufficientBalance "XLM" fee (max freeBeforeFee 0))

def validateTransfer (account : Json) (asset : Asset) (amount baseReserveStroops feeStroops : ℤ) :
    Except ServiceError ℤ := do
  let requested ← positiveAmount amount
  if ¬ asset.isNative ∧ asset.issuer ≠ text account "account_id" then
    ensureFullAuthorization (findBalance account asset) asset "Source"
  let available ← availableForTransfer account asset baseReserveStroops feeStroops
  ensure (¬ requested > available) (.insufficientBalance asset.display requested available)
  if ¬ asset.isNative then ensureFee account baseReserveStroops feeStroops
  return requested

def receivingCapacity (account : Json) (asset : Asset) : Except ServiceError ℤ :=
  if ¬ asset.isNative ∧ asset.issuer = text account "account_id" then .ok maxStellarAmount
  else
    match findBalance account asset with
    | none => .ok 0
    | some raw => do
      let balance ← decimal raw "balance"
      let buying ← decimal raw "buying_liabilities"
      if asset.isNative then
        return max (rounded (rounded (maxStellarAmount - balance) - buying)) 0
      let limit ← decimal raw "limit"
      return max (rounded (rounded (limit - balance) - buying)) 0

def validateReceive (account : Json) (asset : Asset) (amount : ℤ) : Except ServiceError ℤ := do
  let requested ← positiveAmount amount
  if ¬ asset.isNative ∧ asset.issuer ≠ text account "account_id" then
    ensureFullAuthorization (findBalance account asset) asset "Destination"
  let capacity ← receivingCapacity account asset
  ensure (¬ requested > capacity) (.insufficientBalance asset.display requested capacity)
  return requested

/-! ### Snapshots as Horizon writes them -/

/-- A row names a native balance, pool shares, or an issued asset with its issuer, and
its amounts are decimal texts in range. -/
structure HorizonRow (raw : Json) : Prop where
  kind : (text raw "asset_type" = some "native" ∧ text raw "asset_code" = none) ∨
    (text raw "asset_type" = some "liquidity_pool_shares" ∧ text raw "asset_code" = none ∧
      text raw "liquidity_pool_id" ≠ none) ∨
    (text raw "asset_type" ≠ some "native" ∧ text raw "asset_type" ≠ some "liquidity_pool_shares" ∧
      text raw "asset_code" ≠ none ∧ text raw "asset_issuer" ≠ none)
  amounts : ∀ field ∈ ["balance", "selling_liabilities", "buying_liabilities", "limit"],
    TextMember raw field ∧ ∃ amount, balanceStroops raw field = .ok amount

/-- A snapshot of an account, with a native row and integer counters. -/
structure HorizonSnapshot (strKey : StrKey) (account : Json) (accountId : String) : Prop where
  rows : ∃ rows, accountBalances account = some rows ∧ ∀ raw ∈ rows, HorizonRow raw
  native : balanceRow strKey account .native ≠ none
  account_id : text account "account_id" = some accountId
  integers : IntegerCounters account

variable {strKey : StrKey} {account raw : Json} {accountId : String} {asset : AssetId}

/-- Both recognize the rows of an asset alike. -/
theorem HorizonRow.assetFromBalance_eq_iff (h : HorizonRow raw) :
    assetFromBalance raw = Asset.ofId strKey asset ↔ asset.matchesBalance strKey raw = true := by
  obtain ⟨xdr, wellFormed⟩ := asset
  unfold assetFromBalance
  -- a row is native, of a liquidity pool, or of a code and an issuer
  rcases h.kind with ⟨htype, hcode⟩ | ⟨htype, hcode, hpool⟩ | ⟨hnative, hshares, hcode, hissuer⟩
  · rw [if_pos htype]
    cases xdr with
    | native =>
      simp [AssetId.matchesBalance, htype, Asset.ofId, Asset.xlm, AssetId.code, AssetId.issuer]
    | creditAlphanum4 assetCode issuer | creditAlphanum12 assetCode issuer =>
      simp [AssetId.matchesBalance, hcode, Asset.ofId, Asset.xlm, AssetId.code, AssetId.issuer]
  · rw [if_neg (by simp [htype]), if_pos htype]
    cases xdr with
    | native => simp [AssetId.matchesBalance, htype, Asset.ofId, hpool]
    | creditAlphanum4 assetCode issuer | creditAlphanum12 assetCode issuer =>
      simp [AssetId.matchesBalance, hcode, Asset.ofId, hpool, AssetId.code]
  · rw [if_neg hnative, if_neg hshares]
    obtain ⟨code, hcode⟩ := Option.ne_none_iff_exists'.mp hcode
    obtain ⟨issuer, hissuer⟩ := Option.ne_none_iff_exists'.mp hissuer
    cases xdr with
    | native => simp [AssetId.matchesBalance, hnative, Asset.ofId, hissuer, AssetId.issuer]
    | creditAlphanum4 assetCode key | creditAlphanum12 assetCode key =>
      simp [AssetId.matchesBalance, hcode, hissuer, Asset.ofId, AssetId.code, AssetId.issuer]

/-- Both find the same row. -/
theorem HorizonSnapshot.findBalance_ofId (h : HorizonSnapshot strKey account accountId) :
    findBalance account (Asset.ofId strKey asset) = balanceRow strKey account asset := by
  obtain ⟨rows, hrows, hkinds⟩ := h.rows
  rw [findBalance, balanceRow, hrows, Option.getD_some, Option.bind_eq_bind, Option.bind_some]
  refine List.find?_congr fun raw hraw => ?_
  rw [Bool.eq_iff_iff, decide_eq_true_eq]
  exact (hkinds raw hraw).assetFromBalance_eq_iff

/-- A row that is found has amounts, which both read. -/
theorem HorizonSnapshot.exists_reads (h : HorizonSnapshot strKey account accountId)
    (hraw : balanceRow strKey account asset = some raw) :
    ∃ balance selling buying limit : I64, Reads asset raw balance selling buying limit ∧
      (decimal raw "balance" = .ok balance.val ∧ decimal raw "selling_liabilities" =
        .ok selling.val ∧ decimal raw "buying_liabilities" = .ok buying.val ∧
        (asset.isNative = false → decimal raw "limit" = .ok limit.val)) ∧
      (ledgerAccount strKey account).lines asset =
        some ⟨balance.val, selling.val, buying.val, limit.val⟩ := by
  obtain ⟨rows, hrows, hkinds⟩ := h.rows
  have hmem : raw ∈ rows := by
    rw [balanceRow, hrows, Option.bind_eq_bind, Option.bind_some] at hraw
    exact List.mem_of_find?_eq_some hraw
  have hread : ∀ {field : String} {amount : I64}, TextMember raw field →
      balanceStroops raw field = .ok amount → decimal raw field = .ok amount.val := by
    intro field amount htext hamount
    rw [decimal, amount?_of_balanceStroops hamount htext]
    rfl
  obtain ⟨hbalanceText, balance, hbalance⟩ := (hkinds raw hmem).amounts "balance" (by simp)
  obtain ⟨hsellingText, selling, hselling⟩ :=
    (hkinds raw hmem).amounts "selling_liabilities" (by simp)
  obtain ⟨hbuyingText, buying, hbuying⟩ := (hkinds raw hmem).amounts "buying_liabilities" (by simp)
  obtain ⟨hlimitText, limit, hlimit⟩ := (hkinds raw hmem).amounts "limit" (by simp)
  -- only an issued asset has its limit in the row
  obtain ⟨most, hmost, hmost_eq⟩ : ∃ most, lineLimit asset raw = .ok most ∧
      (asset.isNative = false → most = limit) := by
    by_cases hnative : asset.isNative = true
    · exact ⟨_, if_pos hnative, fun hnot => absurd (hnative.symm.trans hnot) (by simp)⟩
    · exact ⟨limit, (if_neg hnative).trans hlimit, fun _ => rfl⟩
  refine ⟨balance, selling, buying, most, ⟨hbalance, hselling, hbuying, hmost⟩,
    ⟨hread hbalanceText hbalance, hread hsellingText hselling, hread hbuyingText hbuying,
      fun hnative => ?_⟩, ?_⟩
  · rw [hmost_eq hnative]
    exact hread hlimitText hlimit
  · simp only [ledgerAccount, hraw, Option.bind_eq_bind, Option.bind_some, ledgerLine, hbalance,
      hselling, hbuying, hmost, ok_bind, pure_eq_ok, Except.toOption]

/-! ### What can be sent -/

/-- The reserve of the units, where there are any. -/
def reserve (strKey : StrKey) (account : Json) (baseReserve : I64) : ℤ :=
  max (ledgerAccount strKey account).units 0 * baseReserve.val

variable {baseReserve amount : I64} {fee : U32}

theorem reserve_nonneg (hreserve : 0 ≤ baseReserve.val) :
    0 ≤ reserve strKey account baseReserve :=
  mul_nonneg (le_max_right _ _) hreserve

theorem HorizonSnapshot.minimumBalanceXlm_eq (h : HorizonSnapshot strKey account accountId) :
    minimumBalanceXlm account baseReserve.val =
      .ok (rounded (reserve strKey account baseReserve)) := by
  have hlo := baseReserve.lo_le
  have hhi := baseReserve.le_hi
  rw [minimumBalanceXlm, unitSum?_eq h.integers,
    (rounded_of_lt (by omega) : rounded baseReserve.val = _)]
  rfl

/-- Rounding on the way does not matter for what is left beside the reserve and the fee. -/
theorem le_rounded_free_iff {requested difference : ℤ} (hrequested : 0 ≤ requested)
    (hrequested_le : requested ≤ 9223372036854775807)
    (hdifference : -9223372036854775807 ≤ difference ∧ difference ≤ 9223372036854775807)
    {minimum : ℤ} :
    requested ≤ rounded (rounded (rounded difference - rounded minimum) - rounded fee.val) ↔
      minimum + fee.val + requested ≤ difference := by
  have hfee := fee.lo_le
  have hfee_le := fee.le_hi
  rw [(rounded_of_lt (by omega) : rounded difference = _),
    (rounded_of_lt (by omega) : rounded fee.val = _), le_rounded_iff (by omega),
    le_sub_iff_add_le, le_rounded_iff (by omega), le_sub_comm, rounded_le_iff (by omega)]
  omega

/-- The amounts of a line are in range. -/
theorem available_bounds {line : Line}
    (hline : (ledgerAccount strKey account).lines asset = some line) :
    -9223372036854775807 ≤ line.available ∧ line.available ≤ 9223372036854775807 := by
  obtain ⟨_, balance, selling, _, _, _, hreads, rfl⟩ := reads_of_line hline
  have hbalance := balanceStroops_nonneg hreads.balance
  have hselling := balanceStroops_nonneg hreads.selling
  have hbalance_le := balance.le_hi
  have hselling_le := selling.le_hi
  rw [Line.available]
  constructor <;> dsimp only <;> omega

/-- An asset has a line when it has a row. -/
theorem HorizonSnapshot.balanceRow_eq_none_iff (h : HorizonSnapshot strKey account accountId) :
    balanceRow strKey account asset = none ↔ (ledgerAccount strKey account).lines asset = none := by
  cases hraw : balanceRow strKey account asset with
  | none => simp [ledgerAccount, hraw]
  | some raw =>
    obtain ⟨_, _, _, _, _, _, hline⟩ := h.exists_reads hraw
    simp [hline]

theorem HorizonSnapshot.exists_native (h : HorizonSnapshot strKey account accountId) :
    ∃ line, (ledgerAccount strKey account).lines .native = some line :=
  Option.ne_none_iff_exists'.mp fun hnone => h.native (h.balanceRow_eq_none_iff.mpr hnone)

/-- The service asks for the reserve and the fee. -/
theorem ensureFee_eq_ok (h : HorizonSnapshot strKey account accountId) :
    ensureFee account baseReserve.val fee.val = .ok () ↔
      reserve strKey account baseReserve + fee.val ≤
        (ledgerAccount strKey account).availableOf .native := by
  have hfee := fee.lo_le
  have hfee_le := fee.le_hi
  obtain ⟨raw, hraw⟩ := Option.ne_none_iff_exists'.mp h.native
  obtain ⟨balance, selling, _, _, _, ⟨hbalance, hselling, -, -⟩, hline⟩ := h.exists_reads hraw
  have hbounds := available_bounds hline
  have hfind : findBalance account .xlm = some raw := by
    rw [← Asset.ofId_native, h.findBalance_ofId, hraw]
  have hexact : rounded fee.val = fee.val := rounded_of_lt (by omega)
  rw [LedgerAccount.availableOf_of_line hline]
  simp only [Line.available] at hbounds ⊢
  simp only [ensureFee, hfind, okOr, ok_bind, hbalance, hselling, h.minimumBalanceXlm_eq,
    ensure_eq_ok, not_lt, hexact]
  rw [(rounded_of_lt (by omega) : rounded (balance.val - selling.val) = _),
    le_rounded_iff (by omega), le_sub_comm, rounded_le_iff (by omega)]
  omega

/-- What the service accepts to be sent of a native asset. -/
theorem availableForTransfer_native (h : HorizonSnapshot strKey account accountId)
    (hamount : 0 < amount.val) (hnative : asset.isNative = true) :
    (∃ available, availableForTransfer account (Asset.ofId strKey asset) baseReserve.val fee.val =
        .ok available ∧ amount.val ≤ available) ↔
      reserve strKey account baseReserve + fee.val + amount.val ≤
        (ledgerAccount strKey account).availableOf asset := by
  have hamount_le := amount.le_hi
  have hnative' : (Asset.ofId strKey asset).isNative = true := Asset.isNative_ofId.trans hnative
  obtain rfl := AssetId.isNative_iff.mp hnative
  obtain ⟨raw, hraw⟩ := Option.ne_none_iff_exists'.mp h.native
  obtain ⟨balance, selling, _, _, _, ⟨hbalance, hselling, -, -⟩, hline⟩ := h.exists_reads hraw
  have hbounds := available_bounds hline
  rw [LedgerAccount.availableOf_of_line hline]
  simp only [Line.available] at hbounds ⊢
  simp only [availableForTransfer, hnative', not_true_eq_false, false_and, if_false,
    h.findBalance_ofId, hraw, hbalance, hselling, h.minimumBalanceXlm_eq, ok_bind, pure_eq_ok,
    Except.ok.injEq, exists_eq_left']
  rw [← le_rounded_free_iff hamount.le hamount_le hbounds]
  omega

/-- What the service accepts to be sent of an issued asset. -/
theorem availableForTransfer_issued (h : HorizonSnapshot strKey account accountId)
    (baseReserve : I64) (fee : U32)
    (hamount : 0 < amount.val) (hnative : asset.isNative = false)
    (hissuer : asset.issuerIs strKey accountId = false) :
    (∃ available, availableForTransfer account (Asset.ofId strKey asset) baseReserve.val fee.val =
        .ok available ∧ amount.val ≤ available) ↔
      ∃ line, (ledgerAccount strKey account).lines asset = some line ∧
        amount.val ≤ line.available := by
  have hnative' : (Asset.ofId strKey asset).isNative = false := Asset.isNative_ofId.trans hnative
  have hholder : ¬ (Asset.ofId strKey asset).issuer = text account "account_id" := by
    rw [h.account_id, Asset.issuer_ofId, hissuer]
    exact Bool.false_ne_true
  cases hraw : balanceRow strKey account asset with
  | none =>
    simp only [availableForTransfer, hnative', hholder, and_false, if_false, h.findBalance_ofId,
      hraw, Except.ok.injEq, exists_eq_left', h.balanceRow_eq_none_iff.mp hraw, reduceCtorEq,
      false_and, exists_false, iff_false, not_le]
    exact hamount
  | some raw =>
    obtain ⟨balance, selling, _, _, _, ⟨hbalance, hselling, -, -⟩, hline⟩ := h.exists_reads hraw
    have hbounds := available_bounds hline
    simp only [Line.available] at hbounds
    simp only [availableForTransfer, hnative', hholder, and_false, if_false, h.findBalance_ofId,
      hraw, hbalance, hselling, ok_bind, Bool.false_eq_true, not_false_eq_true, if_true, pure_eq_ok,
      Except.ok.injEq, exists_eq_left', hline, Option.some.injEq, Line.available]
    rw [(rounded_of_lt (by omega) : rounded (balance.val - selling.val) = _)]
    omega

theorem ensureFullAuthorization_eq_ok {role : String}
    (h : HorizonSnapshot strKey account accountId) :
    ensureFullAuthorization (findBalance account (Asset.ofId strKey asset))
        (Asset.ofId strKey asset) role = .ok () ↔ trustlineAuthorized strKey account asset := by
  rw [h.findBalance_ofId, trustlineAuthorized]
  unfold ensureFullAuthorization
  cases balanceRow strKey account asset with
  | none => simp
  | some raw =>
    simp only [Option.bind_eq_bind, Option.bind_some]
    cases raw.get? "is_authorized" with
    | none => simp
    | some flag =>
      cases flag with
      | bool value => cases value <;> simp [Json.asBool?]
      | null | number _ | string _ | array _ | object _ => simp [Json.asBool?]

/-- What the service accepts of the source. -/
theorem validateTransfer_eq_ok (h : HorizonSnapshot strKey account accountId)
    (hamount : 0 < amount.val) :
    (∃ requested, validateTransfer account (Asset.ofId strKey asset) amount.val baseReserve.val
        fee.val = .ok requested) ↔
      if asset.isNative then reserve strKey account baseReserve + fee.val + amount.val ≤
        (ledgerAccount strKey account).availableOf asset
      else reserve strKey account baseReserve + fee.val ≤
          (ledgerAccount strKey account).availableOf .native ∧
        (asset.issuerIs strKey accountId = false → trustlineAuthorized strKey account asset ∧
          ∃ line, (ledgerAccount strKey account).lines asset = some line ∧
            amount.val ≤ line.available) := by
  have hpositive : positiveAmount amount.val = .ok amount.val := by
    rw [positiveAmount, ensure, if_pos hamount]
    rfl
  have hholder : (Asset.ofId strKey asset).issuer = text account "account_id" ↔
      asset.issuerIs strKey accountId = true := by
    rw [h.account_id, Asset.issuer_ofId]
  have hamount_le := amount.le_hi
  simp only [validateTransfer, hpositive, ok_bind, Asset.isNative_ofId]
  by_cases hnative : asset.isNative = true
  · rw [if_neg (by simp [hnative]), if_pos hnative, ← availableForTransfer_native h hamount hnative]
    simp only [hnative, not_true_eq_false, if_false, pure_eq_ok, bind_eq_ok, ensure_eq_ok,
      gt_iff_lt, not_lt, Except.ok.injEq]
    constructor
    · rintro ⟨_, available, havailable, _, hle, -⟩
      exact ⟨available, havailable, hle⟩
    · rintro ⟨available, havailable, hle⟩
      exact ⟨_, available, havailable, (), hle, rfl⟩
  · rw [if_neg hnative, ← ensureFee_eq_ok h]
    -- an issuer has any amount of its own asset
    by_cases hissuer : asset.issuerIs strKey accountId = true
    · have hmost : availableForTransfer account (Asset.ofId strKey asset) baseReserve.val fee.val =
          .ok maxStellarAmount := by
        rw [availableForTransfer, if_pos ⟨by rw [Asset.isNative_ofId]; exact hnative,
          hholder.mpr hissuer⟩]
      rw [if_neg (by simp [hholder.mpr hissuer])]
      simp only [hmost, hissuer, hnative, ok_bind, bind_eq_ok, ensure_eq_ok, Bool.true_eq_false,
        false_implies, and_true, pure_eq_ok, maxStellarAmount, gt_iff_lt, not_lt,
        Bool.false_eq_true, not_false_eq_true, if_true, exists_const]
      constructor
      · rintro ⟨_, _, _, hfee, -⟩
        exact hfee
      · exact fun hfee => ⟨_, hamount_le, (), hfee, rfl⟩
    · rw [Bool.not_eq_true] at hnative hissuer
      have hnot : ¬ (Asset.ofId strKey asset).issuer = text account "account_id" := by
        rw [hholder, hissuer]
        exact Bool.false_ne_true
      rw [if_pos ⟨by rw [hnative]; exact Bool.false_ne_true, hnot⟩,
        ← availableForTransfer_issued h baseReserve fee hamount hnative hissuer]
      simp only [hnative, hissuer, bind_eq_ok, ensureFullAuthorization_eq_ok h, ensure_eq_ok,
        gt_iff_lt, not_lt, Bool.false_eq_true, not_false_eq_true, if_true, pure_eq_ok, forall_const,
        exists_const]
      constructor
      · rintro ⟨_, hauthorized, available, havailable, hle, _, hfee, -⟩
        exact ⟨hfee, hauthorized, available, havailable, hle⟩
      · rintro ⟨hfee, hauthorized, available, havailable, hle⟩
        exact ⟨_, hauthorized, available, havailable, hle, (), hfee, rfl⟩

/-! ### What the client accepts to be sent -/

variable {ledger : LedgerParameters}

/-- The client's minimum balance is in range, or more than any balance. -/
theorem minimumBalanceStroops_cases (hcounters : CountersInRange account) (strKey : StrKey)
    (hreserve : 0 ≤ baseReserve.val) :
    (∃ minimum, minimumBalanceStroops account baseReserve = .ok minimum ∧
      minimum.val = reserve strKey account baseReserve) ∨
    (∃ message, minimumBalanceStroops account baseReserve = .error message) ∧
      9223372036854775807 < reserve strKey account baseReserve := by
  have hnonneg : 0 ≤ reserve strKey account baseReserve := reserve_nonneg hreserve
  rw [hcounters.minimumBalanceStroops_eq strKey]
  by_cases hin : reserve strKey account baseReserve ≤ 9223372036854775807
  · obtain ⟨minimum, hof, hval⟩ : ∃ minimum : I64,
        BoundedInt.ofInt? (reserve strKey account baseReserve) = some minimum ∧ _ :=
      BoundedInt.exists_ofInt? (by omega)
    rw [reserve] at hof
    rw [hof]
    exact Or.inl ⟨minimum, rfl, hval⟩
  · have hnone : (BoundedInt.ofInt? (reserve strKey account baseReserve) : Option I64) = none :=
      BoundedInt.ofInt?_eq_none_iff.mpr (by omega)
    rw [reserve] at hnone
    rw [hnone]
    exact Or.inr ⟨⟨_, rfl⟩, by omega⟩

/-- The client asks for the reserve and the fee, and only that the reserve is in range
where there is no fee. -/
theorem ensurePaymentFeeCapacity_eq_ok (h : HorizonSnapshot strKey account accountId)
    (hcounters : CountersInRange account) (hreserve : 0 ≤ ledger.baseReserveInStroops.val) :
    ensurePaymentFeeCapacity account ledger = .ok () ↔
      reserve strKey account ledger.baseReserveInStroops ≤ 9223372036854775807 ∧
        (reserve strKey account ledger.baseReserveInStroops + ledger.baseFeeInStroops.val ≤
          (ledgerAccount strKey account).availableOf .native ∨
        ledger.baseFeeInStroops.val = 0) := by
  obtain ⟨rows, hrows, -⟩ := h.rows
  obtain ⟨raw, hraw⟩ := Option.ne_none_iff_exists'.mp h.native
  obtain ⟨balance, selling, _, _, hreads, -, hline⟩ := h.exists_reads hraw
  have hbounds := available_bounds hline
  have hfee := ledger.baseFeeInStroops.lo_le
  have hreserve_nonneg : 0 ≤ reserve strKey account ledger.baseReserveInStroops :=
    reserve_nonneg hreserve
  have hfind :
      (rows.find? fun balance => text balance "asset_type" = some "native") = some raw := by
    rw [balanceRow, hrows, Option.bind_eq_bind, Option.bind_some] at hraw
    exact (find_native rows).trans hraw
  rw [LedgerAccount.availableOf_of_line hline]
  simp only [Line.available] at hbounds ⊢
  rw [ensurePaymentFeeCapacity, hrows, okOr, ok_bind, hfind]
  simp only [okOr, ok_bind, hreads.balance, hreads.selling]
  -- a minimum balance that overflows is more than any balance
  rcases minimumBalanceStroops_cases hcounters strKey hreserve with
    ⟨minimum, hminimum, hval⟩ | ⟨⟨message, hminimum⟩, hlarge⟩
  · have hminimum_le := minimum.le_hi
    rw [hminimum, ok_bind, ensure_eq_ok, BoundedInt.lt_iff, not_lt, val_feeStroops]
    simp (disch := decide) only [BoundedInt.val_max, BoundedInt.val_saturatingSub,
      BoundedInt.val_lit]
    omega
  · rw [hminimum]
    simp only [error_bind, reduceCtorEq, false_iff]
    omega

/-- What the client accepts to be sent of a native asset. -/
theorem transferAvailable_native (h : HorizonSnapshot strKey account accountId)
    (hcounters : CountersInRange account) (hreserve : 0 ≤ ledger.baseReserveInStroops.val)
    (hamount : 0 < amount.val) (hnative : asset.isNative = true) :
    (∃ available, transferAvailable strKey account asset ledger
        (balanceRow strKey account asset) = .ok available ∧ amount.val ≤ available.val) ↔
      reserve strKey account ledger.baseReserveInStroops + ledger.baseFeeInStroops.val +
        amount.val ≤ (ledgerAccount strKey account).availableOf asset := by
  have hfee := ledger.baseFeeInStroops.lo_le
  have hfee_le := ledger.baseFeeInStroops.le_hi
  have hreserve_nonneg : 0 ≤ reserve strKey account ledger.baseReserveInStroops :=
    reserve_nonneg hreserve
  obtain ⟨raw, hraw⟩ := Option.ne_none_iff_exists'.mp h.native
  rw [← AssetId.isNative_iff.mp hnative] at hraw
  obtain ⟨balance, selling, _, _, hreads, -, hline⟩ := h.exists_reads hraw
  have hbounds := available_bounds hline
  rw [LedgerAccount.availableOf_of_line hline]
  simp only [Line.available] at hbounds ⊢
  simp only [hraw, transferAvailable, if_pos hnative, ok_bind, hreads.balance, hreads.selling]
  rcases minimumBalanceStroops_cases hcounters strKey hreserve with
    ⟨minimum, hminimum, hval⟩ | ⟨⟨message, hminimum⟩, hlarge⟩
  · have hminimum_le := minimum.le_hi
    simp only [hminimum, ok_bind, pure_eq_ok, Except.ok.injEq, exists_eq_left']
    simp (disch := decide) only [BoundedInt.val_max, BoundedInt.val_saturatingSub,
      BoundedInt.val_lit, val_feeStroops]
    omega
  · simp only [hminimum, error_bind, reduceCtorEq, false_and, exists_false, false_iff]
    omega

/-- What the client accepts to be sent of an issued asset. -/
theorem transferAvailable_issued (h : HorizonSnapshot strKey account accountId)
    (hamount : 0 < amount.val) (hnative : asset.isNative = false) :
    (∃ available, transferAvailable strKey account asset ledger
        (balanceRow strKey account asset) = .ok available ∧ amount.val ≤ available.val) ↔
      ensurePaymentFeeCapacity account ledger = .ok () ∧ trustlineAuthorized strKey account asset ∧
        ∃ line, (ledgerAccount strKey account).lines asset = some line ∧
          amount.val ≤ line.available := by
  cases hraw : balanceRow strKey account asset with
  | none =>
    simp only [transferAvailable_none, Except.ok.injEq, exists_eq_left',
      h.balanceRow_eq_none_iff.mp hraw, reduceCtorEq, false_and, exists_false, and_false, iff_false,
      not_le]
    exact hamount
  | some raw =>
    obtain ⟨balance, selling, _, _, hreads, -, hline⟩ := h.exists_reads hraw
    have hbounds := available_bounds hline
    simp only [Line.available] at hbounds
    -- the subtraction and the bound at zero lose nothing of a positive amount
    have havailable : amount.val ≤ ((balance.saturatingSub selling).max (.lit 0)).val ↔
        amount.val ≤ balance.val - selling.val := by
      simp (disch := decide) only [BoundedInt.val_max, BoundedInt.val_saturatingSub,
        BoundedInt.val_lit]
      omega
    simp only [transferAvailable, hnative, Bool.false_eq_true, if_false, bind_eq_ok,
      hreads.balance, hreads.selling, pure_eq_ok, Except.ok.injEq, exists_eq_left', exists_const,
      ensurePaymentTrustlineAuthorized_eq_ok hraw, hline, Option.some.injEq, Line.available]
    constructor
    · rintro ⟨_, ⟨hauthorized, _, hready, rfl⟩, hle⟩
      exact ⟨hready, hauthorized, havailable.mp hle⟩
    · rintro ⟨hready, hauthorized, hle⟩
      exact ⟨_, ⟨hauthorized, (), hready, rfl⟩, havailable.mpr hle⟩

/-- Where the reserve is covered without a fee, both accept the same of the source. -/
theorem validateTransfer_agrees (h : HorizonSnapshot strKey account accountId)
    (hcounters : CountersInRange account) (hreserve : 0 ≤ ledger.baseReserveInStroops.val)
    (hamount : 0 < amount.val)
    (hcovered : asset.isNative = false → ledger.baseFeeInStroops.val = 0 →
      reserve strKey account ledger.baseReserveInStroops ≤ 9223372036854775807 →
        reserve strKey account ledger.baseReserveInStroops ≤
          (ledgerAccount strKey account).availableOf .native) :
    Fresnica.validateTransfer strKey account accountId asset amount ledger = .ok () ↔
      ∃ requested, validateTransfer account (Asset.ofId strKey asset) amount.val
        ledger.baseReserveInStroops.val ledger.baseFeeInStroops.val = .ok requested := by
  obtain ⟨rows, hrows, -⟩ := h.rows
  have hfind : rows.find? (asset.matchesBalance strKey) = balanceRow strKey account asset := by
    rw [balanceRow, hrows, Option.bind_eq_bind, Option.bind_some]
  rw [validateTransfer_eq_ok h hamount, Fresnica.validateTransfer, hrows, okOr, ok_bind, hfind]
  dsimp only
  by_cases hnative : asset.isNative = true
  · rw [if_neg (by simp [hnative]), if_pos hnative, transferAvailable_bind_eq_ok]
    exact transferAvailable_native h hcounters hreserve hamount hnative
  · rw [if_neg hnative]
    rw [Bool.not_eq_true] at hnative
    -- with the reserve covered, both check the fee alike
    have hready : ensurePaymentFeeCapacity account ledger = .ok () ↔
        reserve strKey account ledger.baseReserveInStroops + ledger.baseFeeInStroops.val ≤
          (ledgerAccount strKey account).availableOf .native := by
      obtain ⟨line, hline⟩ := h.exists_native
      have hbounds := available_bounds hline
      have hfee := ledger.baseFeeInStroops.lo_le
      have hcovered := hcovered hnative
      rw [ensurePaymentFeeCapacity_eq_ok h hcounters hreserve]
      rw [LedgerAccount.availableOf_of_line hline] at hcovered ⊢
      omega
    by_cases hissuer : asset.issuerIs strKey accountId = true
    · rw [if_pos ⟨by rw [hnative]; exact Bool.false_ne_true, hissuer⟩, hready]
      simp [hissuer]
    · rw [if_neg (by simp [hissuer]), transferAvailable_bind_eq_ok,
        transferAvailable_issued h hamount hnative, hready]
      rw [Bool.not_eq_true] at hissuer
      simp only [hissuer, forall_const]

/-! ### What can be received -/

/-- The capacity of a row is an exact number that may be negative. -/
theorem le_receivingCapacity_iff (h : HorizonSnapshot strKey account accountId)
    (hamount : 0 < amount.val)
    (hnot : (Asset.ofId strKey asset).issuer ≠ text account "account_id") :
    (∃ capacity, receivingCapacity account (Asset.ofId strKey asset) = .ok capacity ∧
        amount.val ≤ capacity) ↔
      ∃ line, (ledgerAccount strKey account).lines asset = some line ∧
        amount.val ≤ line.capacity := by
  have hamount_le := amount.le_hi
  rw [receivingCapacity, if_neg (by simp [hnot]), h.findBalance_ofId]
  cases hraw : balanceRow strKey account asset with
  | none =>
    simp only [Except.ok.injEq, exists_eq_left', h.balanceRow_eq_none_iff.mp hraw,
      reduceCtorEq, false_and, exists_false, iff_false, not_le]
    exact hamount
  | some raw =>
    obtain ⟨balance, selling, buying, limit, hreads, ⟨hbalance, -, hbuying, hlimit⟩, hline⟩ :=
      h.exists_reads hraw
    have hbalance_nonneg := balanceStroops_nonneg hreads.balance
    have hbuying_nonneg := balanceStroops_nonneg hreads.buying
    have hbalance_le := balance.le_hi
    have hbuying_le := buying.le_hi
    have hlimit_le := limit.le_hi
    have hlimit_ge := limit.lo_le
    -- numbers of this size are not rounded
    have hexact : ∀ most : ℤ, -9223372036854775808 ≤ most → most ≤ 9223372036854775807 →
        rounded (rounded (most - balance.val) - buying.val) =
          most - balance.val - buying.val := by
      intro most hge hle
      rw [(rounded_of_lt (by omega) : rounded (most - balance.val) = _),
        rounded_of_lt (by omega)]
    simp only [hbalance, hbuying, ok_bind, Asset.isNative_ofId, hline, Option.some.injEq,
      exists_eq_left', Line.capacity, maxStellarAmount]
    by_cases hnative : asset.isNative = true
    · have hreadLimit := hreads.limit
      rw [lineLimit, if_pos hnative] at hreadLimit
      obtain rfl := Except.ok.inj hreadLimit
      rw [if_pos hnative, hexact _ (by omega) le_rfl]
      simp (disch := decide) only [pure_eq_ok, Except.ok.injEq, exists_eq_left',
        BoundedInt.val_lit]
      omega
    · rw [Bool.not_eq_true] at hnative
      simp only [hnative, Bool.false_eq_true, if_false, hlimit hnative, ok_bind, pure_eq_ok,
        Except.ok.injEq, exists_eq_left', hexact _ hlimit_ge hlimit_le]
      omega

/-- What the service accepts of the destination. -/
theorem validateReceive_eq_ok (h : HorizonSnapshot strKey account accountId)
    (hamount : 0 < amount.val) :
    (∃ requested, validateReceive account (Asset.ofId strKey asset) amount.val = .ok requested) ↔
      (asset.issuerIs strKey accountId = false →
        (asset.isNative = false → trustlineAuthorized strKey account asset) ∧
          ∃ line, (ledgerAccount strKey account).lines asset = some line ∧
            amount.val ≤ line.capacity) := by
  have hpositive : positiveAmount amount.val = .ok amount.val := by
    rw [positiveAmount, ensure, if_pos hamount]
    rfl
  have hholder : (Asset.ofId strKey asset).issuer = text account "account_id" ↔
      asset.issuerIs strKey accountId = true := by
    rw [h.account_id, Asset.issuer_ofId]
  have hamount_le := amount.le_hi
  simp only [validateReceive, hpositive, ok_bind, Asset.isNative_ofId]
  -- an issuer takes any amount of its own asset
  by_cases hissuer : asset.issuerIs strKey accountId = true
  · have hnative := AssetId.not_isNative_of_issuerIs hissuer
    have hmost : receivingCapacity account (Asset.ofId strKey asset) = .ok maxStellarAmount := by
      rw [receivingCapacity, if_pos ⟨by rw [Asset.isNative_ofId, hnative]; exact Bool.false_ne_true,
        hholder.mpr hissuer⟩]
    rw [if_neg (by simp [hholder.mpr hissuer])]
    simp only [hmost, hissuer, ok_bind, bind_eq_ok, ensure_eq_ok, Bool.true_eq_false,
      false_implies, iff_true, pure_eq_ok, maxStellarAmount, gt_iff_lt, not_lt]
    exact ⟨_, (), hamount_le, rfl⟩
  · have hnot : ¬ (Asset.ofId strKey asset).issuer = text account "account_id" := by
      rw [hholder]
      exact hissuer
    rw [Bool.not_eq_true] at hissuer
    simp only [hissuer, true_imp_iff]
    rw [← le_receivingCapacity_iff h hamount hnot]
    by_cases hnative : asset.isNative = true
    · rw [if_neg (by simp [hnative])]
      simp only [hnative, Bool.true_eq_false, false_implies, true_and, pure_eq_ok, bind_eq_ok,
        ensure_eq_ok, gt_iff_lt, not_lt]
      constructor
      · rintro ⟨_, capacity, hcapacity, _, hle, -⟩
        exact ⟨capacity, hcapacity, hle⟩
      · rintro ⟨capacity, hcapacity, hle⟩
        exact ⟨_, capacity, hcapacity, (), hle, rfl⟩
    · rw [if_pos ⟨hnative, hnot⟩]
      rw [Bool.not_eq_true] at hnative
      simp only [hnative, forall_const, bind_eq_ok, ensureFullAuthorization_eq_ok h, ensure_eq_ok,
        gt_iff_lt, not_lt, pure_eq_ok]
      constructor
      · rintro ⟨_, _, hauthorized, capacity, hcapacity, _, hle, -⟩
        exact ⟨hauthorized, capacity, hcapacity, hle⟩
      · rintro ⟨hauthorized, capacity, hcapacity, hle⟩
        exact ⟨_, (), hauthorized, capacity, hcapacity, (), hle, rfl⟩

/-- The client accepts the same of the destination: a committed balance that overflows
leaves no room either. -/
theorem validateReceive_agrees (h : HorizonSnapshot strKey account accountId)
    (hamount : 0 < amount.val) :
    validateDestinationReceive strKey account accountId asset amount = .ok () ↔
      ∃ requested,
        validateReceive account (Asset.ofId strKey asset) amount.val = .ok requested := by
  obtain ⟨rows, hrows, -⟩ := h.rows
  have hfind : rows.find? (asset.matchesBalance strKey) = balanceRow strKey account asset := by
    rw [balanceRow, hrows, Option.bind_eq_bind, Option.bind_some]
  rw [validateReceive_eq_ok h hamount, validateDestinationReceive]
  by_cases hissuer : asset.issuerIs strKey accountId = true
  · rw [if_pos ⟨by simp [AssetId.not_isNative_of_issuerIs hissuer], hissuer⟩]
    simp [hissuer]
  rw [if_neg (by simp [hissuer]), hrows, okOr, ok_bind, hfind]
  rw [Bool.not_eq_true] at hissuer
  simp only [hissuer, forall_const]
  cases hraw : balanceRow strKey account asset with
  | none =>
    rw [h.balanceRow_eq_none_iff.mp hraw]
    simp [okOr]
  | some raw =>
    obtain ⟨balance, selling, buying, limit, hreads, -, hline⟩ := h.exists_reads hraw
    have hbalance := balanceStroops_nonneg hreads.balance
    have hbuying := balanceStroops_nonneg hreads.buying
    have hlimit := limit.le_hi
    have hreadLimit := hreads.limit
    simp only [okOr, ok_bind, receiveCapacity, hreads.balance, hreads.buying, hline,
      Option.some.injEq, exists_eq_left', Line.capacity]
    cases hcommitted : balance.checkedAdd buying with
    | none =>
      -- the sum is above every limit
      have hlarge := BoundedInt.checkedAdd_eq_none_iff.mp hcommitted
      have hroom : ¬ amount.val ≤ limit.val - (balance.val + buying.val) := by omega
      simp only [hroom, and_false, iff_false]
      by_cases hnative : asset.isNative = true
      · simp [hnative]
      · simp [hnative, bind_eq_ok]
    | some committed =>
      have hval := BoundedInt.checkedAdd_eq_some_iff.mp hcommitted
      by_cases hnative : asset.isNative = true
      · rw [lineLimit, if_pos hnative] at hreadLimit
        obtain rfl := Except.ok.inj hreadLimit
        rw [if_pos hnative, ok_bind, pure_eq_ok, ok_bind, ensure_eq_ok, gt_iff_lt,
          BoundedInt.lt_iff, not_lt]
        simp (disch := decide) only [BoundedInt.val_saturatingSub, BoundedInt.val_lit, hval,
          hnative, Bool.true_eq_false, false_implies, true_and]
        omega
      · rw [lineLimit, if_neg hnative] at hreadLimit
        have hcapacity : amount.val ≤ ((limit.saturatingSub committed).max (.lit 0)).val ↔
            amount.val ≤ limit.val - (balance.val + buying.val) := by
          simp (disch := decide) only [BoundedInt.val_max, BoundedInt.val_saturatingSub,
            BoundedInt.val_lit, hval]
          omega
        rw [Bool.not_eq_true] at hnative
        simp only [hnative, Bool.false_eq_true, if_false, bind_eq_ok, hreadLimit, Except.ok.injEq,
          exists_eq_left', ensurePaymentTrustlineAuthorized_eq_ok hraw, exists_const, ensure_eq_ok,
          gt_iff_lt, BoundedInt.lt_iff, not_lt, forall_const, pure_eq_ok]
        constructor
        · rintro ⟨_, ⟨hauthorized, rfl⟩, hle⟩
          exact ⟨hauthorized, hcapacity.mp hle⟩
        · rintro ⟨hauthorized, hle⟩
          exact ⟨_, ⟨hauthorized, rfl⟩, hcapacity.mpr hle⟩

/-! ### Payments -/

variable {source destination : Json} {sourceId destinationId : String}

/-- Where the counters add up in range, and the reserve of an account that pays an issued
asset without a fee is covered, both accept the same payments. -/
theorem payment_agrees (hsource : HorizonSnapshot strKey source sourceId)
    (hdestination : HorizonSnapshot strKey destination destinationId)
    (hcounters : CountersInRange source) (hreserve : 0 ≤ ledger.baseReserveInStroops.val)
    (hamount : 0 < amount.val)
    (hcovered : asset.isNative = false → ledger.baseFeeInStroops.val = 0 →
      reserve strKey source ledger.baseReserveInStroops ≤ 9223372036854775807 →
        reserve strKey source ledger.baseReserveInStroops ≤
          (ledgerAccount strKey source).availableOf .native) :
    (Fresnica.validateTransfer strKey source sourceId asset amount ledger >>= fun _ =>
        validateDestinationReceive strKey destination destinationId asset amount) = .ok () ↔
      ∃ requested, (validateTransfer source (Asset.ofId strKey asset) amount.val
          ledger.baseReserveInStroops.val ledger.baseFeeInStroops.val >>= fun _ =>
        validateReceive destination (Asset.ofId strKey asset) amount.val) = .ok requested := by
  have htransfer := validateTransfer_agrees hsource hcounters hreserve hamount hcovered
  have hreceive : validateDestinationReceive strKey destination destinationId asset amount =
      .ok () ↔ _ := validateReceive_agrees hdestination hamount
  simp only [bind_eq_ok]
  constructor
  · rintro ⟨_, hsent, hreceived⟩
    obtain ⟨sent, hsent⟩ := htransfer.mp hsent
    obtain ⟨received, hreceived⟩ := hreceive.mp hreceived
    exact ⟨received, sent, hsent, hreceived⟩
  · rintro ⟨received, sent, hsent, hreceived⟩
    exact ⟨(), htransfer.mpr ⟨sent, hsent⟩, hreceive.mpr ⟨received, hreceived⟩⟩

/-- An account with a native row and an authorized line of USDC. -/
def usdcAccount (accountId balance : String) (subentries sponsored : U64) : Json :=
  .object [("account_id", .string accountId), ("subentry_count", .number (.posInt subentries)),
    ("num_sponsored", .number (.posInt sponsored)), ("balances", .array [
      .object [("asset_type", .string "native"), ("balance", .string balance)],
      .object [("asset_type", .string "credit_alphanum4"), ("asset_code", .string "USDC"),
        ("asset_issuer", .string usdcIssuer), ("balance", .string "0.0000000"),
        ("limit", .string "1000.0000000"), ("is_authorized", .bool true)]])]

/-- An amount that is missing is read as zero. -/
theorem balanceStroops_missing {field : String} (h : raw.get? field = none) :
    TextMember raw field ∧ balanceStroops raw field = .ok (.lit 0) := by
  have hzero : parseStroops "0" false = some (.lit 0) := by decide +kernel
  refine ⟨fun value hvalue => absurd (h.symm.trans hvalue) (by simp), ?_⟩
  rw [balanceStroops, text, h, okOr_eq_ok]
  exact hzero

/-- An amount that is a text is read from it. -/
theorem balanceStroops_string {field source : String} {amount : I64}
    (h : raw.get? field = some (.string source))
    (hsource : parseStroops source false = some amount) :
    TextMember raw field ∧ ∃ amount, balanceStroops raw field = .ok amount := by
  refine ⟨fun value hvalue => ⟨source, (Option.some_inj.mp (h.symm.trans hvalue)).symm⟩, amount, ?_⟩
  rw [balanceStroops, text, h, okOr_eq_ok]
  exact hsource

/-- It is a snapshot as Horizon writes them. -/
theorem HorizonSnapshot.usdcAccount {balance : String} {subentries sponsored : U64} {stroops : I64}
    (hbalance : parseStroops balance false = some stroops)
    (hsubentries : subentries.val ≤ 9223372036854775807)
    (hsponsored : sponsored.val ≤ 9223372036854775807) :
    HorizonSnapshot strKey (usdcAccount accountId balance subentries sponsored) accountId := by
  refine ⟨⟨_, rfl, fun raw hraw => ?_⟩, ?_, rfl, fun field hfield => ?_⟩
  -- the native row and the trustline
  · simp only [List.mem_cons, List.not_mem_nil, or_false] at hraw
    rcases hraw with rfl | rfl
    · refine ⟨Or.inl ⟨rfl, rfl⟩, fun field hfield => ?_⟩
      simp only [List.mem_cons, List.not_mem_nil, or_false] at hfield
      rcases hfield with rfl | rfl | rfl | rfl
      · exact balanceStroops_string rfl hbalance
      all_goals exact (balanceStroops_missing rfl).imp_right fun hzero => ⟨_, hzero⟩
    · refine ⟨Or.inr (Or.inr ⟨by decide, by decide, by decide, by decide⟩), fun field hfield => ?_⟩
      simp only [List.mem_cons, List.not_mem_nil, or_false] at hfield
      have hzero : parseStroops "0.0000000" false = some (.lit 0) := by decide +kernel
      have hmost : parseStroops "1000.0000000" false = some (.lit 10000000000) := by decide +kernel
      rcases hfield with rfl | rfl | rfl | rfl
      · exact balanceStroops_string rfl hzero
      · exact (balanceStroops_missing rfl).imp_right fun hzero => ⟨_, hzero⟩
      · exact (balanceStroops_missing rfl).imp_right fun hzero => ⟨_, hzero⟩
      · exact balanceStroops_string rfl hmost
  · exact fun hnone => absurd (congrArg Option.isSome hnone) Bool.true_eq_false_eq_False
  · simp only [List.mem_cons, List.not_mem_nil, or_false] at hfield
    rcases hfield with rfl | rfl | rfl
    · exact int?_posInt rfl hsubentries
    · exact int?_missing rfl
    · exact int?_posInt rfl hsponsored

/-- A holder of 100 units pays the issuer of USDC with what it can send. -/
theorem payment_agrees_hundred :
    (Fresnica.validateTransfer Sep23.strKey (usdcAccount "GHOLDER" "100.0000000" (.lit 1) (.lit 0))
        "GHOLDER" .native (.lit 984999900) ⟨.lit 100, .lit 5000000⟩ >>= fun _ =>
      validateDestinationReceive Sep23.strKey
        (usdcAccount usdcIssuer "1.0000000" (.lit 1) (.lit 0)) usdcIssuer .native
        (.lit 984999900)) = .ok () ↔
      ∃ requested, (validateTransfer (usdcAccount "GHOLDER" "100.0000000" (.lit 1) (.lit 0))
          (Asset.ofId Sep23.strKey .native) (.lit 984999900 : I64).val 5000000 100 >>= fun _ =>
        validateReceive (usdcAccount usdcIssuer "1.0000000" (.lit 1) (.lit 0))
          (Asset.ofId Sep23.strKey .native) (.lit 984999900 : I64).val) = .ok requested := by
  have hsource : HorizonSnapshot Sep23.strKey
      (usdcAccount "GHOLDER" "100.0000000" (.lit 1) (.lit 0)) "GHOLDER" :=
    HorizonSnapshot.usdcAccount
      (by decide +kernel : parseStroops "100.0000000" false = some (.lit 1000000000)) (by decide)
      (by decide)
  have hdestination : HorizonSnapshot Sep23.strKey
      (usdcAccount usdcIssuer "1.0000000" (.lit 1) (.lit 0)) usdcIssuer :=
    HorizonSnapshot.usdcAccount
      (by decide +kernel : parseStroops "1.0000000" false = some (.lit 10000000)) (by decide)
      (by decide)
  have hreserve : 0 ≤ (⟨.lit 100, .lit 5000000⟩ : LedgerParameters).baseReserveInStroops.val := by
    decide
  exact payment_agrees hsource hdestination ⟨by decide, by decide, by decide, by decide, by decide⟩
    hreserve (by decide) fun hissued => absurd hissued (by decide)

/-- Without a fee the client lets an issuer below its reserve pay, and the service does
not; and where the counters leave the range, the client asks for no reserve. -/
theorem payment_disagrees :
    (HorizonSnapshot Sep23.strKey (usdcAccount usdcIssuer "0.5000000" (.lit 1) (.lit 0))
        usdcIssuer ∧
      HorizonSnapshot Sep23.strKey (usdcAccount "GHOLDER" "1.0000000" (.lit 1) (.lit 0)) "GHOLDER" ∧
      (Fresnica.validateTransfer Sep23.strKey (usdcAccount usdcIssuer "0.5000000" (.lit 1) (.lit 0))
          usdcIssuer .usdc (.lit 5) ⟨.lit 0, .lit 5000000⟩ >>= fun _ =>
        validateDestinationReceive Sep23.strKey
          (usdcAccount "GHOLDER" "1.0000000" (.lit 1) (.lit 0)) "GHOLDER" .usdc (.lit 5)) = .ok () ∧
      (validateTransfer (usdcAccount usdcIssuer "0.5000000" (.lit 1) (.lit 0))
          (Asset.ofId Sep23.strKey .usdc) 5 5000000 0 >>= fun _ =>
        validateReceive (usdcAccount "GHOLDER" "1.0000000" (.lit 1) (.lit 0))
          (Asset.ofId Sep23.strKey .usdc) 5) = .error (.insufficientBalance "XLM" 0 0)) ∧
    (HorizonSnapshot Sep23.strKey
        (usdcAccount usdcIssuer "0.5000000" (.lit 9223372036854775807) (.lit 9223372036854775807))
        usdcIssuer ∧
      (Fresnica.validateTransfer Sep23.strKey (usdcAccount usdcIssuer "0.5000000"
            (.lit 9223372036854775807) (.lit 9223372036854775807)) usdcIssuer .native (.lit 4000000)
          ⟨.lit 100, .lit 5000000⟩ >>= fun _ =>
        validateDestinationReceive Sep23.strKey
          (usdcAccount "GHOLDER" "1.0000000" (.lit 1) (.lit 0)) "GHOLDER" .native
          (.lit 4000000)) = .ok () ∧
      (validateTransfer (usdcAccount usdcIssuer "0.5000000"
            (.lit 9223372036854775807) (.lit 9223372036854775807))
          (Asset.ofId Sep23.strKey .native) 4000000 5000000 100 >>= fun _ =>
        validateReceive (usdcAccount "GHOLDER" "1.0000000" (.lit 1) (.lit 0))
          (Asset.ofId Sep23.strKey .native) 4000000) =
            .error (.insufficientBalance "XLM" 4000000 0)) := by
  have hhalf : parseStroops "0.5000000" false = some (.lit 5000000) := by decide +kernel
  have hone : parseStroops "1.0000000" false = some (.lit 10000000) := by decide +kernel
  refine ⟨⟨HorizonSnapshot.usdcAccount hhalf (by decide) (by decide),
    HorizonSnapshot.usdcAccount hone (by decide) (by decide), ?_, ?_⟩,
    HorizonSnapshot.usdcAccount hhalf (by decide) (by decide), ?_, ?_⟩
  all_goals decide +kernel

end Fresnica.Python.Availability
