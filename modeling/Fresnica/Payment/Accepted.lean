import Fresnica.Payment.Transfer

/-!
# Payments that the ledger accepts

The checks of a payment accept exactly what leaves both accounts in order: with the
fee charged and the amount moved, the source keeps its reserve and covers what its
offers promise, and the destination has room for what it is promised. Lines of issued
assets have to be authorized, a destination that does not exist has to be created
with its reserve, and one that asks for a memo gets one.

A fee of zero is not held against an issued payment of an account that is below its
reserve, so the reserve is only asked for where something native is charged.

## Main definitions

* `amountSent`, `SourceFits` — the source after the payment
* `DestinationFits`, `MemoFits`, `PaymentAccepted`

## Main results

* `validateTransfer_eq_ok`, `validateDestinationReceive_eq_ok` — the two sides
* `checkPayment_iff` — the checks accept what the ledger does
-/

namespace Fresnica

open Foundation

/-- The source once the fee is charged and the amount is sent. -/
def amountSent (a : LedgerAccount AssetId) (asset : AssetId) (fee amount : ℤ) :
    LedgerAccount AssetId :=
  (a.credit .native (-fee)).credit asset (-amount)

/-- The row of the asset is marked as authorized. -/
def trustlineAuthorized (strKey : StrKey) (account : Json) (asset : AssetId) : Prop :=
  (balanceRow strKey account asset >>= (·.get? "is_authorized") >>= Json.asBool?) = some true

/-- With the payment made, the native line keeps the reserve, unless nothing native is
charged; and a line of the asset that the account does not issue covers its offers. -/
structure SourceFits (strKey : StrKey) (account : Json) (accountId : String)
    (a : LedgerAccount AssetId) (reserve fee : ℤ) (asset : AssetId) : Prop where
  solvent : ∃ line, a.lines .native = some line ∧ (a.minimum reserve ≤ line.available ∨
    fee = 0 ∧ asset.isNative = false ∧ a.minimum reserve ≤ 9223372036854775807)
  covered : asset.issuerIs strKey accountId = false → ∃ line, a.lines asset = some line ∧
    line.selling ≤ line.balance
  authorized : asset.isNative = false → asset.issuerIs strKey accountId = false →
    trustlineAuthorized strKey account asset

/-- With the payment made, a line of the asset that the account does not issue is
within its limit. -/
structure DestinationFits (strKey : StrKey) (account : Json) (accountId : String)
    (a : LedgerAccount AssetId) (asset : AssetId) : Prop where
  within : asset.issuerIs strKey accountId = false → ∃ line, a.lines asset = some line ∧
    line.balance + line.buying ≤ line.limit
  authorized : asset.isNative = false → asset.issuerIs strKey accountId = false →
    trustlineAuthorized strKey account asset

/-- The memo agrees with the id of the address, and a plain address that requires a
memo has one. -/
structure MemoFits (base64 : String → Option (List UInt8)) (destination : PaymentDestination)
    (memo : PaymentMemo) (account : Json) : Prop where
  agrees : ∀ muxedId memoId, destination.muxedId = some muxedId → memo = .id memoId →
    muxedId = memoId
  given : destination.muxedId = none → memo = .none → ∀ encoded,
    memoRequiredText account = some encoded → base64 encoded ≠ some [49]

variable {strKey : StrKey} {account : Json} {accountId : String} {asset : AssetId}
variable {amount : I64} {ledger : LedgerParameters} {a : LedgerAccount AssetId}
variable {base64 : String → Option (List UInt8)} {destination : PaymentDestination}
variable {memo : PaymentMemo} {destinationAddress : String}

/-! ### The source -/

/-- The native row is the row of the native asset. -/
theorem find_native (balances : List Json) :
    (balances.find? fun balance => text balance "asset_type" = some "native") =
      balances.find? (AssetId.native.matchesBalance strKey) :=
  rfl

/-- What the fee check accepts: a minimum balance in range, and the fee beside it. -/
def FeeReady (a : LedgerAccount AssetId) (reserve fee : ℤ) : Prop :=
  ∃ line, a.lines .native = some line ∧ (a.minimum reserve + fee ≤ line.available ∨
    fee = 0 ∧ a.minimum reserve ≤ 9223372036854775807)

theorem ensurePaymentFeeCapacity_eq_ok (h : LedgerSnapshot strKey account)
    (hreserve : 0 ≤ ledger.baseReserveInStroops.val) :
    ensurePaymentFeeCapacity account ledger = .ok () ↔
      FeeReady (ledgerAccount strKey account) ledger.baseReserveInStroops.val
        ledger.baseFeeInStroops.val := by
  obtain ⟨balances, hbalances, hfind⟩ := h.balances_eq .native
  have hfee := ledger.baseFeeInStroops.lo_le
  rw [ensurePaymentFeeCapacity, hbalances, okOr, ok_bind, find_native, hfind]
  -- without a native line there is nothing to pay with
  cases hline : (ledgerAccount strKey account).lines .native with
  | none =>
    rw [h.balanceRow_eq_none hline]
    simp [FeeReady, hline, okOr]
  | some line =>
    obtain ⟨raw, balance, selling, buying, limit, hraw, hreads, rfl⟩ := reads_of_line hline
    have hsound := (h.sound _ _ hline).covered
    have hselling := balanceStroops_nonneg hreads.selling
    have hbalance := balance.le_hi
    have hminimum : 0 ≤ (ledgerAccount strKey account).minimum
        ledger.baseReserveInStroops.val := mul_nonneg h.units_nonneg hreserve
    dsimp only at hsound
    simp only [hraw, okOr, ok_bind, hreads.balance, hreads.selling, FeeReady, hline,
      Option.some.injEq, exists_eq_left', Line.available]
    by_cases hin : (ledgerAccount strKey account).minimum ledger.baseReserveInStroops.val ≤
        9223372036854775807
    · obtain ⟨minimum, hok, hval, -⟩ := h.minimumBalanceStroops_eq_ok hreserve hin
      rw [hok, ok_bind, ensure_eq_ok, BoundedInt.lt_iff, not_lt, val_feeStroops]
      simp (disch := decide) only [BoundedInt.val_max, BoundedInt.val_saturatingSub,
        BoundedInt.val_lit]
      omega
    · -- a minimum balance out of range is an error, and more than any balance
      have herror : minimumBalanceStroops account ledger.baseReserveInStroops =
          .error "minimum balance overflow" := by
        rw [h.minimumBalanceStroops_eq, BoundedInt.ofInt?_eq_none_iff.mpr (by omega)]
        rfl
      rw [herror]
      simp only [error_bind, reduceCtorEq, false_iff]
      omega

theorem ensurePaymentTrustlineAuthorized_eq_ok {raw : Json}
    (hraw : balanceRow strKey account asset = some raw) :
    ensurePaymentTrustlineAuthorized strKey raw asset = .ok () ↔
      trustlineAuthorized strKey account asset := by
  have hread : (balanceRow strKey account asset >>= (·.get? "is_authorized") >>= Json.asBool?) =
      (raw.get? "is_authorized" >>= Json.asBool?) := by
    rw [hraw]
    rfl
  rw [ensurePaymentTrustlineAuthorized, trustlineAuthorized, hread]
  generalize (raw.get? "is_authorized" >>= Json.asBool?) = flag
  rcases flag with _ | _ | _ <;> simp

/-- Nothing can be sent of an asset without a row. -/
theorem transferAvailable_none :
    transferAvailable strKey account asset ledger none = .ok (.lit 0) :=
  rfl

/-- The amount is compared with what can be sent. -/
theorem transferAvailable_bind_eq_ok {raw : Option Json} {message : I64 → String} :
    (transferAvailable strKey account asset ledger raw >>= fun available =>
        ensure (¬ amount > available) (message available)) = .ok () ↔
      ∃ available, transferAvailable strKey account asset ledger raw = .ok available ∧
        amount.val ≤ available.val := by
  simp only [bind_eq_ok, ensure_eq_ok, gt_iff_lt, BoundedInt.lt_iff, not_lt]

/-- A native amount can be sent when it is there beside the reserve and the fee. -/
theorem transferAvailable_native (h : LedgerSnapshot strKey account)
    (hreserve : 0 ≤ ledger.baseReserveInStroops.val) (hamount : 0 < amount.val)
    (hnative : asset.isNative = true) :
    (∃ available, transferAvailable strKey account asset ledger
        (balanceRow strKey account asset) = .ok available ∧ amount.val ≤ available.val) ↔
      ∃ line, (ledgerAccount strKey account).lines asset = some line ∧
        (ledgerAccount strKey account).minimum ledger.baseReserveInStroops.val +
          ledger.baseFeeInStroops.val + amount.val ≤ line.available := by
  have hfee := ledger.baseFeeInStroops.lo_le
  cases hline : (ledgerAccount strKey account).lines asset with
  | none =>
    simp only [h.balanceRow_eq_none hline, transferAvailable_none, Except.ok.injEq,
      exists_eq_left', reduceCtorEq, false_and, exists_false, iff_false, not_le]
    exact hamount
  | some line =>
    -- the line is read from a row, whose texts are amounts
    obtain ⟨raw, balance, selling, buying, limit, hraw, hreads, rfl⟩ := reads_of_line hline
    have hsound := (h.sound _ _ hline).covered
    have hselling := balanceStroops_nonneg hreads.selling
    have hbalance := balance.le_hi
    have hminimum : 0 ≤ (ledgerAccount strKey account).minimum
        ledger.baseReserveInStroops.val := mul_nonneg h.units_nonneg hreserve
    dsimp only at hsound
    simp only [hraw, transferAvailable, if_pos hnative, ok_bind, hreads.balance, hreads.selling,
      Option.some.injEq, exists_eq_left', Line.available]
    by_cases hin : (ledgerAccount strKey account).minimum ledger.baseReserveInStroops.val ≤
        9223372036854775807
    · obtain ⟨minimum, hok, hval, -⟩ := h.minimumBalanceStroops_eq_ok hreserve hin
      simp only [hok, ok_bind, pure_eq_ok, Except.ok.injEq, exists_eq_left']
      simp (disch := decide) only [BoundedInt.val_max, BoundedInt.val_saturatingSub,
        BoundedInt.val_lit, val_feeStroops]
      omega
    · -- a minimum balance out of range is an error, and more than any balance
      rw [h.minimumBalanceStroops_eq, BoundedInt.ofInt?_eq_none_iff.mpr (by omega), okOr]
      simp only [error_bind, reduceCtorEq, false_and, exists_false, false_iff]
      omega

/-- An issued amount can be sent when it is there on an authorized line, and the fee
check passes. -/
theorem transferAvailable_issued (h : LedgerSnapshot strKey account)
    (hreserve : 0 ≤ ledger.baseReserveInStroops.val) (hamount : 0 < amount.val)
    (hnative : ¬ asset.isNative = true) :
    (∃ available, transferAvailable strKey account asset ledger
        (balanceRow strKey account asset) = .ok available ∧ amount.val ≤ available.val) ↔
      FeeReady (ledgerAccount strKey account) ledger.baseReserveInStroops.val
          ledger.baseFeeInStroops.val ∧ trustlineAuthorized strKey account asset ∧
        ∃ line, (ledgerAccount strKey account).lines asset = some line ∧
          amount.val ≤ line.available := by
  -- without a line nothing is available, which is less than any amount
  cases hline : (ledgerAccount strKey account).lines asset with
  | none =>
    simp only [h.balanceRow_eq_none hline, transferAvailable_none, Except.ok.injEq,
      exists_eq_left', reduceCtorEq, false_and, exists_false, and_false, iff_false, not_le]
    exact hamount
  | some line =>
    obtain ⟨raw, balance, selling, buying, limit, hraw, hreads, rfl⟩ := reads_of_line hline
    have hsound := (h.sound _ _ hline).covered
    have hselling := balanceStroops_nonneg hreads.selling
    have hbalance := balance.le_hi
    dsimp only at hsound
    have havailable : amount.val ≤ ((balance.saturatingSub selling).max (.lit 0)).val ↔
        amount.val ≤ balance.val - selling.val := by
      simp (disch := decide) only [BoundedInt.val_max, BoundedInt.val_saturatingSub,
        BoundedInt.val_lit]
      omega
    simp only [hraw, transferAvailable, if_neg hnative, bind_eq_ok, hreads.balance,
      hreads.selling, pure_eq_ok, Except.ok.injEq, exists_eq_left', exists_const,
      ensurePaymentTrustlineAuthorized_eq_ok hraw, ensurePaymentFeeCapacity_eq_ok h hreserve,
      Option.some.injEq, Line.available]
    constructor
    · rintro ⟨_, ⟨hauthorized, hready, rfl⟩, hle⟩
      exact ⟨hready, hauthorized, havailable.mp hle⟩
    · rintro ⟨hready, hauthorized, hle⟩
      exact ⟨_, ⟨hauthorized, hready, rfl⟩, havailable.mpr hle⟩

/-- The source is accepted when the amount is available, and what is charged is beside
the reserve. -/
theorem validateTransfer_eq_ok (h : LedgerSnapshot strKey account)
    (hreserve : 0 ≤ ledger.baseReserveInStroops.val) (hamount : 0 < amount.val) :
    validateTransfer strKey account accountId asset amount ledger = .ok () ↔
      if asset.isNative then ∃ line, (ledgerAccount strKey account).lines asset = some line ∧
        (ledgerAccount strKey account).minimum ledger.baseReserveInStroops.val +
          ledger.baseFeeInStroops.val + amount.val ≤ line.available
      else FeeReady (ledgerAccount strKey account) ledger.baseReserveInStroops.val
          ledger.baseFeeInStroops.val ∧
        (asset.issuerIs strKey accountId = false → trustlineAuthorized strKey account asset ∧
          ∃ line, (ledgerAccount strKey account).lines asset = some line ∧
            amount.val ≤ line.available) := by
  obtain ⟨balances, hbalances, hfind⟩ := h.balances_eq asset
  rw [validateTransfer, hbalances, okOr, ok_bind, hfind]
  dsimp only
  by_cases hnative : asset.isNative = true
  · rw [if_neg (by simp [hnative]), if_pos hnative, transferAvailable_bind_eq_ok]
    exact transferAvailable_native h hreserve hamount hnative
  · rw [if_neg hnative]
    by_cases hissuer : asset.issuerIs strKey accountId = true
    · rw [if_pos ⟨hnative, hissuer⟩, ensurePaymentFeeCapacity_eq_ok h hreserve]
      simp [hissuer]
    · rw [if_neg (by simp [hissuer]), transferAvailable_bind_eq_ok,
        transferAvailable_issued h hreserve hamount hnative]
      rw [Bool.not_eq_true] at hissuer
      simp only [hissuer, forall_const]

theorem lines_amountSent {other : AssetId} {fee sent : ℤ} :
    (amountSent a asset fee sent).lines other = (a.lines other).map fun line =>
      let charged := if other = .native then line.credit (-fee) else line
      if other = asset then charged.credit (-sent) else charged := by
  rw [amountSent, LedgerAccount.lines_credit, LedgerAccount.lines_credit, Option.map_map]
  rfl

/-- The source is in order after the payment exactly under what the check accepts. -/
theorem sourceFits_iff {reserve fee sent : ℤ} (hminimum : 0 ≤ a.minimum reserve) :
    SourceFits strKey account accountId (amountSent a asset fee sent) reserve fee asset ↔
      if asset.isNative then ∃ line, a.lines asset = some line ∧
        a.minimum reserve + fee + sent ≤ line.available
      else FeeReady a reserve fee ∧
        (asset.issuerIs strKey accountId = false → trustlineAuthorized strKey account asset ∧
          ∃ line, a.lines asset = some line ∧ sent ≤ line.available) := by
  have hreserve : (amountSent a asset fee sent).minimum reserve = a.minimum reserve := rfl
  by_cases hnative : asset.isNative = true
  -- the fee and the amount are paid from one line, so only their sum counts
  · obtain rfl := AssetId.isNative_iff.mp hnative
    rw [if_pos hnative]
    constructor
    · rintro ⟨⟨line, hline, hle⟩, -, -⟩
      obtain ⟨own, hown, rfl⟩ := Option.map_eq_some_iff.mp (lines_amountSent ▸ hline)
      refine ⟨own, hown, ?_⟩
      simp only [if_true, Line.available_credit, hnative, Bool.true_eq_false, false_and, and_false,
        or_false, hreserve] at hle
      omega
    · rintro ⟨own, hown, hle⟩
      have hline : (amountSent a .native fee sent).lines .native =
          some ((own.credit (-fee)).credit (-sent)) := by
        rw [lines_amountSent, hown]
        rfl
      refine ⟨⟨_, hline, Or.inl ?_⟩, fun _ => ⟨_, hline, ?_⟩, fun hnot => ?_⟩
      · rw [Line.available_credit, Line.available_credit, hreserve]
        omega
      · simp only [Line.credit, Line.available] at hle ⊢
        omega
      · exact absurd (hnative.symm.trans hnot) (by simp)
  · have hne : AssetId.native ≠ asset := fun h => hnative (AssetId.isNative_iff.mpr h.symm)
    rw [if_neg hnative]
    rw [Bool.not_eq_true] at hnative
    -- the native line pays the fee, and the asset's own line the amount
    have hpaid : ∀ line, a.lines .native = some line →
        (amountSent a asset fee sent).lines .native = some (line.credit (-fee)) := by
      intro line hline
      rw [lines_amountSent, hline, Option.map_some, if_neg hne, if_pos rfl]
    have hsent : ∀ line, a.lines asset = some line →
        (amountSent a asset fee sent).lines asset = some (line.credit (-sent)) := by
      intro line hline
      rw [lines_amountSent, hline, Option.map_some, if_pos rfl, if_neg hne.symm]
    constructor
    · rintro ⟨⟨line, hline, hle⟩, hcovered, hauthorized⟩
      obtain ⟨own, hown, -⟩ := Option.map_eq_some_iff.mp (lines_amountSent ▸ hline)
      obtain rfl := Option.some_inj.mp ((hpaid own hown).symm.trans hline)
      rw [hreserve, Line.available_credit] at hle
      refine ⟨⟨own, hown, by omega⟩, fun hissuer => ⟨hauthorized hnative hissuer, ?_⟩⟩
      obtain ⟨moved, hmoved, hcovers⟩ := hcovered hissuer
      obtain ⟨held, hheld, -⟩ := Option.map_eq_some_iff.mp (lines_amountSent ▸ hmoved)
      obtain rfl := Option.some_inj.mp ((hsent held hheld).symm.trans hmoved)
      simp only [Line.credit] at hcovers
      exact ⟨held, hheld, by rw [Line.available]; omega⟩
    · rintro ⟨⟨own, hown, hle⟩, hholder⟩
      refine ⟨⟨_, hpaid own hown, ?_⟩, fun hissuer => ?_, fun _ hissuer => (hholder hissuer).1⟩
      · rw [hreserve, Line.available_credit]
        simp only [hnative, true_and]
        omega
      · obtain ⟨-, held, hheld, hcovers⟩ := hholder hissuer
        rw [Line.available] at hcovers
        exact ⟨_, hsent held hheld, by simp only [Line.credit]; omega⟩

/-! ### The destination -/

/-- The destination is accepted when its line has room for the amount. -/
theorem validateDestinationReceive_eq_ok (h : LedgerSnapshot strKey account) :
    validateDestinationReceive strKey account accountId asset amount = .ok () ↔
      (asset.issuerIs strKey accountId = false →
        (asset.isNative = false → trustlineAuthorized strKey account asset) ∧
          ∃ line, (ledgerAccount strKey account).lines asset = some line ∧
            amount.val ≤ line.capacity) := by
  obtain ⟨balances, hbalances, hfind⟩ := h.balances_eq asset
  rw [validateDestinationReceive]
  by_cases hissuer : asset.issuerIs strKey accountId = true
  · rw [if_pos ⟨by simp [AssetId.not_isNative_of_issuerIs hissuer], hissuer⟩]
    simp [hissuer]
  rw [if_neg (by simp [hissuer]), hbalances, okOr, ok_bind, hfind]
  rw [Bool.not_eq_true] at hissuer
  simp only [hissuer, forall_const]
  cases hline : (ledgerAccount strKey account).lines asset with
  -- no line receives nothing, and no row of the account is of the asset
  | none =>
    rw [h.balanceRow_eq_none hline]
    simp [okOr]
  | some line =>
    obtain ⟨raw, balance, selling, buying, limit, hraw, hreads, rfl⟩ := reads_of_line hline
    have hwithin := (h.sound _ _ hline).within
    have hbalance := balanceStroops_nonneg hreads.balance
    have hbuying := balanceStroops_nonneg hreads.buying
    have hlimit := limit.le_hi
    dsimp only at hwithin
    -- the committed amount is within the limit, so it does not overflow
    obtain ⟨committed, hcommitted, hval⟩ : ∃ committed : I64,
        BoundedInt.ofInt? (balance.val + buying.val) = some committed ∧
          committed.val = balance.val + buying.val := BoundedInt.exists_ofInt? (by omega)
    have hreadLimit := hreads.limit
    simp only [hraw, okOr, ok_bind, receiveCapacity, hreads.balance, hreads.buying,
      BoundedInt.checkedAdd, hcommitted, pure_eq_ok, Option.some.injEq, exists_eq_left',
      Line.capacity]
    by_cases hnative : asset.isNative = true
    · rw [lineLimit, if_pos hnative] at hreadLimit
      obtain rfl := Except.ok.inj hreadLimit
      rw [if_pos hnative, ok_bind, ensure_eq_ok, gt_iff_lt, BoundedInt.lt_iff, not_lt]
      simp (disch := decide) only [BoundedInt.val_saturatingSub, BoundedInt.val_lit, hval,
        hnative, Bool.true_eq_false, false_implies, true_and] at hwithin ⊢
      omega
    · rw [lineLimit, if_neg hnative] at hreadLimit
      have hcapacity : amount.val ≤ ((limit.saturatingSub committed).max (.lit 0)).val ↔
          amount.val ≤ limit.val - (balance.val + buying.val) ∨ amount.val ≤ 0 := by
        simp (disch := decide) only [BoundedInt.val_max, BoundedInt.val_saturatingSub,
          BoundedInt.val_lit, hval]
        omega
      rw [Bool.not_eq_true] at hnative
      simp only [hnative, Bool.false_eq_true, if_false, bind_eq_ok, hreadLimit, Except.ok.injEq,
        exists_eq_left', ensurePaymentTrustlineAuthorized_eq_ok hraw, exists_const, ensure_eq_ok,
        gt_iff_lt, BoundedInt.lt_iff, not_lt, forall_const]
      constructor
      · rintro ⟨_, ⟨hauthorized, rfl⟩, hle⟩
        exact ⟨hauthorized, by have := hcapacity.mp hle; omega⟩
      · rintro ⟨hauthorized, hle⟩
        exact ⟨_, ⟨hauthorized, rfl⟩, hcapacity.mpr (Or.inl hle)⟩

theorem destinationFits_iff {received : ℤ} :
    DestinationFits strKey account accountId (a.credit asset received) asset ↔
      (asset.issuerIs strKey accountId = false →
        (asset.isNative = false → trustlineAuthorized strKey account asset) ∧
          ∃ line, a.lines asset = some line ∧ received ≤ line.capacity) := by
  have hlines : (a.credit asset received).lines asset =
      (a.lines asset).map (Line.credit received) := by
    rw [LedgerAccount.lines_credit]
    simp only [if_true]
  constructor
  · rintro ⟨hwithin, hauthorized⟩ hissuer
    obtain ⟨line, hline, hle⟩ := hwithin hissuer
    obtain ⟨own, hown, rfl⟩ := Option.map_eq_some_iff.mp (hlines ▸ hline)
    refine ⟨fun hnative => hauthorized hnative hissuer, own, hown, ?_⟩
    simp only [Line.credit] at hle
    rw [Line.capacity]
    omega
  · intro h
    refine ⟨fun hissuer => ?_, fun hnative hissuer => (h hissuer).1 hnative⟩
    obtain ⟨-, own, hown, hle⟩ := h hissuer
    refine ⟨own.credit received, by rw [hlines, hown, Option.map_some], ?_⟩
    simp only [Line.credit, Line.capacity] at hle ⊢
    omega

theorem accountRequiresMemo_eq_ok {requires : Bool} (hbase64 : ∀ encoded,
      memoRequiredText account = some encoded → ∃ bytes, base64 encoded = some bytes) :
    accountRequiresMemo base64 account = .ok requires ↔
      (requires = true ↔
        ∃ encoded, memoRequiredText account = some encoded ∧ base64 encoded = some [49]) := by
  unfold accountRequiresMemo
  cases hencoded : memoRequiredText account with
  | none => cases requires <;> simp
  | some encoded =>
    obtain ⟨bytes, hbytes⟩ := hbase64 encoded hencoded
    simp only [hbytes, okOr, ok_bind, pure_eq_ok, Except.ok.injEq, Option.some.injEq,
      exists_eq_left']
    by_cases hone : bytes = [49] <;> cases requires <;> simp [hone]

/-- The memo is accepted when it fits the address and the account. -/
theorem validateDestinationMemo_eq_ok (hbase64 : ∀ encoded,
      memoRequiredText account = some encoded → ∃ bytes, base64 encoded = some bytes) :
    validateDestinationMemo base64 destinationAddress destination memo account = .ok () ↔
      MemoFits base64 destination memo account := by
  unfold validateDestinationMemo
  cases hmuxed : destination.muxedId with
  | some muxedId =>
    -- a muxed destination is not asked whether it wants a memo
    have hismuxed : destination.isMuxed = true := by rw [PaymentDestination.isMuxed, hmuxed]; rfl
    cases memo with
    | id memoId =>
      rw [if_pos hismuxed, ensure_bind_eq_ok, not_not]
      constructor
      · rintro ⟨rfl, -⟩
        refine ⟨fun _ _ hid hmemo => ?_, fun hnone => absurd (hmuxed.symm.trans hnone) (by simp)⟩
        exact (Option.some_inj.mp (hmuxed.symm.trans hid)).symm.trans (PaymentMemo.id.inj hmemo)
      · exact fun h => ⟨h.agrees muxedId memoId hmuxed rfl, rfl⟩
    | none | text _ | hash _ =>
      rw [if_pos hismuxed]
      refine iff_of_true rfl ⟨fun _ _ _ hmemo => PaymentMemo.noConfusion hmemo, fun hnone => ?_⟩
      exact absurd (hmuxed.symm.trans hnone) (by simp)
  | none =>
    have hismuxed : ¬ destination.isMuxed = true := by simp [PaymentDestination.isMuxed, hmuxed]
    -- without an id of its own, only the account's entry decides
    have hagrees : ∀ muxedId memoId, destination.muxedId = some muxedId → memo = .id memoId →
        muxedId = memoId := fun _ _ hsome => absurd (hmuxed.symm.trans hsome) (by simp)
    rw [if_neg hismuxed]
    by_cases hmemo : memo = .none
    · subst hmemo
      simp only [pure_eq_ok, if_true, bind_eq_ok, accountRequiresMemo_eq_ok hbase64,
        ensure_eq_ok]
      constructor
      · rintro ⟨requires, hrequires, hnot⟩
        exact ⟨hagrees, fun _ _ encoded hencoded hone =>
          hnot (hrequires.mpr ⟨encoded, hencoded, hone⟩)⟩
      · rintro ⟨-, hgiven⟩
        refine ⟨false, ?_, by simp⟩
        simp only [Bool.false_eq_true, false_iff]
        rintro ⟨encoded, hencoded, hone⟩
        exact hgiven hmuxed rfl encoded hencoded hone
    · simp only [pure_eq_ok, if_neg hmemo, true_iff]
      exact ⟨hagrees, fun _ hnone => absurd hnone hmemo⟩

/-! ### The payment -/

/-- The ledger accepts the payment: with the fee charged and the amount moved both
sides are in order, or the destination is created with its reserve. -/
structure PaymentAccepted (strKey : StrKey) (base64 : String → Option (List UInt8))
    (accountId : String) (asset : AssetId) (amount : ℤ) (destination : PaymentDestination)
    (memo : PaymentMemo) (account : Json) (destinationAccount : Option Json)
    (reserve fee : ℤ) : Prop where
  source : SourceFits strKey account accountId
    (amountSent (ledgerAccount strKey account) asset fee amount) reserve fee asset
  existing : ∀ existing, destinationAccount = some existing →
    DestinationFits strKey existing (strKey.publicKey destination.ledgerAccount)
      ((ledgerAccount strKey existing).credit asset amount) asset ∧
        MemoFits base64 destination memo existing
  missing : destinationAccount = none →
    asset.isNative = true ∧ destination.muxedId = none ∧ 2 * reserve ≤ amount

theorem ensureStartingBalance_eq_ok (hreserve : 0 ≤ ledger.baseReserveInStroops.val) :
    ensureStartingBalance amount ledger = .ok () ↔
      2 * ledger.baseReserveInStroops.val ≤ amount.val := by
  have htwo : (.lit 2 : I64).val = 2 := rfl
  have hlo : -9223372036854775808 ≤ 2 * ledger.baseReserveInStroops.val := by omega
  simp only [ensureStartingBalance, bind_eq_ok, okOr_eq_ok, BoundedInt.checkedMul_eq_some_iff,
    ensure_eq_ok, BoundedInt.lt_iff, not_lt, htwo, BoundedInt.exists_val_eq_le_iff hlo]

/-- The checks of a payment accept exactly what the ledger does. -/
theorem checkPayment_iff (h : LedgerSnapshot strKey account) {destinationAccount : Option Json}
    (hdestination : ∀ existing, destinationAccount = some existing →
      LedgerSnapshot strKey existing ∧ ∀ encoded, memoRequiredText existing = some encoded →
        ∃ bytes, base64 encoded = some bytes)
    (hamount : 0 < amount.val) (hreserve : 0 ≤ ledger.baseReserveInStroops.val)
    (destinationAddress : String) (destination : PaymentDestination) (memo : PaymentMemo) :
    checkPayment strKey base64 accountId asset amount destinationAddress destination memo account
        destinationAccount ledger = .ok () ↔
      PaymentAccepted strKey base64 accountId asset amount.val destination memo account
        destinationAccount ledger.baseReserveInStroops.val ledger.baseFeeInStroops.val := by
  have hminimum : 0 ≤ (ledgerAccount strKey account).minimum ledger.baseReserveInStroops.val :=
    mul_nonneg h.units_nonneg hreserve
  simp only [checkPayment, checkMissingDestination, checkSides, bind_eq_ok, ensure_eq_ok,
    validateTransfer_eq_ok h hreserve hamount, exists_const]
  rw [← sourceFits_iff hminimum]
  cases hexists : destinationAccount with
  -- an account that is to be created has no line and no memo to ask for
  | none =>
    simp only [true_and, ensureStartingBalance_eq_ok hreserve, not_not]
    constructor
    · rintro ⟨⟨hmuxed, hnative⟩, hsource, hle⟩
      refine ⟨hsource, fun _ hsome => absurd hsome (by simp), fun _ => ⟨hnative, ?_, hle⟩⟩
      simpa [PaymentDestination.isMuxed] using hmuxed
    · rintro ⟨hsource, -, hmissing⟩
      obtain ⟨hnative, hmuxed, hle⟩ := hmissing rfl
      exact ⟨⟨by simp [PaymentDestination.isMuxed, hmuxed], hnative⟩, hsource, hle⟩
  | some existing =>
    obtain ⟨hsnapshot, hbase64⟩ := hdestination existing hexists
    simp only [reduceCtorEq, false_and, not_false_eq_true, true_and, bind_eq_ok,
      validateDestinationReceive_eq_ok hsnapshot, validateDestinationMemo_eq_ok hbase64,
      exists_const]
    rw [← destinationFits_iff]
    constructor
    · rintro ⟨hsource, hfits, hmemo⟩
      refine ⟨hsource, fun other hother => ?_, fun hnone => absurd hnone (by simp)⟩
      obtain rfl := Option.some_inj.mp hother
      exact ⟨hfits, hmemo⟩
    · rintro ⟨hsource, hexisting, -⟩
      exact ⟨hsource, hexisting existing rfl⟩

/-- An account with an empty, authorized line of USDC. -/
def usdcHolder : Json :=
  accountWithRows [.object [("asset_type", .string "credit_alphanum4"),
    ("asset_code", .string "USDC"),
    ("asset_issuer", .string "GAAAAAAAAAAAAAAAAAAAAAAAAAAAAAAAAAAAAAAAAAAAAAAAAAAAAWHF"),
    ("balance", .string "0.0000000"), ("limit", .string "1000.0000000"),
    ("is_authorized", .bool true)]]

theorem LedgerSnapshot.usdcHolder (strKey : StrKey) : LedgerSnapshot strKey usdcHolder := by
  refine LedgerSnapshot.accountWithRows fun raw hraw => ?_
  obtain rfl := List.mem_singleton.mp hraw
  refine ⟨fun hnative => absurd hnative (by decide), fun _ => ?_⟩
  exact ⟨⟨0, 0, 0, 10000000000⟩, by decide +kernel, by decide, by decide⟩

/-- The holder's address, plain. -/
def holderDestination : PaymentDestination :=
  .ofMuxed (.ed25519 (Vector.replicate 32 1))

/-- An issuer pays its asset to a holder. -/
theorem checkPayment_iff_usdc :
    PaymentAccepted Sep23.strKey (fun _ => some [])
      "GAAAAAAAAAAAAAAAAAAAAAAAAAAAAAAAAAAAAAAAAAAAAAAAAAAAAWHF" .usdc 5 holderDestination .none
      (nativeAccount "100.0000000" "1.0000000") (some usdcHolder) 5000000 100 := by
  refine (checkPayment_iff (LedgerSnapshot.nativeAccount_hundred Sep23.strKey)
    (fun existing hexisting => ?_) (by decide : 0 < (.lit 5 : I64).val)
    (by decide : 0 ≤ (⟨.lit 100, .lit 5000000⟩ : LedgerParameters).baseReserveInStroops.val) ""
    holderDestination .none).mp (by decide +kernel)
  obtain rfl := Option.some_inj.mp hexisting
  exact ⟨LedgerSnapshot.usdcHolder Sep23.strKey, fun _ _ => ⟨[], rfl⟩⟩

/-- Without a fee, an account below its reserve may pay an issued asset. -/
theorem checkPayment_below_reserve :
    LedgerSnapshot Sep23.strKey (nativeAccount "0.5000000" "0.0000000") ∧
      LedgerSnapshot Sep23.strKey usdcHolder ∧
      checkPayment Sep23.strKey (fun _ => some [])
        "GAAAAAAAAAAAAAAAAAAAAAAAAAAAAAAAAAAAAAAAAAAAAAAAAAAAAWHF" .usdc (.lit 5) ""
        holderDestination .none (nativeAccount "0.5000000" "0.0000000") (some usdcHolder)
        ⟨.lit 0, .lit 5000000⟩ = .ok () ∧
      ¬ (amountSent (ledgerAccount Sep23.strKey (nativeAccount "0.5000000" "0.0000000")) .usdc 0
        5).Solvent .native 5000000 := by
  have hline : ledgerLine .native (.object [("asset_type", .string "native"),
      ("balance", .string "0.5000000"), ("selling_liabilities", .string "0.0000000"),
      ("buying_liabilities", .string "0.0000000")]) =
        .ok ⟨5000000, 0, 0, 9223372036854775807⟩ := by decide +kernel
  refine ⟨LedgerSnapshot.nativeAccount hline ⟨by decide, by decide⟩,
    LedgerSnapshot.usdcHolder Sep23.strKey, by decide +kernel, ?_⟩
  rintro ⟨line, hsome, hle⟩
  have havailable : ((amountSent (ledgerAccount Sep23.strKey (nativeAccount "0.5000000"
      "0.0000000")) .usdc 0 5).lines .native).map Line.available = some 5000000 := by
    decide +kernel
  have hminimum : (amountSent (ledgerAccount Sep23.strKey (nativeAccount "0.5000000" "0.0000000"))
      .usdc 0 5).minimum 5000000 = 15000000 := by decide +kernel
  rw [hsome, Option.map_some, Option.some_inj] at havailable
  omega

end Fresnica
