import Fresnica.Dex.Create

/-!
# Updating an offer

The preflight of an update treats the stored offer as released: it accepts exactly
the offers that could take its place. What is released is part of what the lines
promise, so nothing that is computed on the way leaves the range of stroops, except
the sum of the reserve, the fee and the amount of a native asset sold.

## Main definitions

* `offerReplaced` — the account once the new offer has the place of the stored one
* `IncludesOffer` — the lines promise what the stored offer does
* `UpdateFits` — the account is in order
* `UpdateRefusal` — the messages of a refusal

## Main results

* `ensureUpdateSelling_decides`, `updateReceiving_decides` — the two sides
* `preflightUpdate_decides` — the preflight accepts what may replace the stored offer
-/

namespace Fresnica

open Foundation

/-- The account once the new offer has the place of the stored one, and before the fee
is charged. -/
def offerReplaced (a : LedgerAccount AssetId) (selling buying : AssetId)
    (old new : OfferLiabilities) : LedgerAccount AssetId :=
  (a.addSelling selling (new.selling.val - old.selling.val)).addBuying buying
    (new.buying.val - old.buying.val)

/-- On each side that the account does not issue, the line promises what the stored
offer does. -/
structure IncludesOffer (strKey : StrKey) (accountId : String) (a : LedgerAccount AssetId)
    (selling buying : AssetId) (old : OfferLiabilities) : Prop where
  selling : selling.issuerIs strKey accountId = false →
    ∃ line, a.lines selling = some line ∧ old.selling.val ≤ line.selling
  buying : buying.issuerIs strKey accountId = false →
    ∃ line, a.lines buying = some line ∧ old.buying.val ≤ line.buying

/-- The fee can be paid beside the reserve. -/
def FeePayable (a : LedgerAccount AssetId) (reserve fee : ℤ) : Prop :=
  ∃ line, a.lines .native = some line ∧ a.minimum reserve + fee ≤ line.available

/-- A native asset sold leaves the reserve and the fee, any other is covered, and what
is bought has room. -/
structure UpdateFits (strKey : StrKey) (accountId : String) (a : LedgerAccount AssetId)
    (reserve fee : ℤ) (selling buying : AssetId) : Prop where
  payable : selling.isNative = true → FeePayable a reserve fee
  covered : selling.isNative = false → selling.issuerIs strKey accountId = false →
    ∀ line, a.lines selling = some line → line.selling ≤ line.balance
  within : buying.issuerIs strKey accountId = false →
    ∀ line, a.lines buying = some line → line.balance + line.buying ≤ line.limit

/-- The message is that something is short. -/
def IsShortfall (message : String) : Prop := ∃ rest, message = "Insufficient " ++ rest

/-- Something is short, or, where a sum overflows, the message is that it does. -/
def UpdateRefusal (overflows : Prop) (message : String) : Prop :=
  IsShortfall message ∨ overflows ∧ message = "offer requirement overflow"

variable {strKey : StrKey} {account : Json} {accountId : String}
variable {selling buying : AssetId}
variable {amount oldAmount baseReserve fee : I64} {price oldPrice : Price} {side : OfferSide}
variable {old new : OfferLiabilities} {a : LedgerAccount AssetId} {overflows : Prop}

theorem IsShortfall.append {message : String} (h : IsShortfall message) (more : String) :
    IsShortfall (message ++ more) := by
  obtain ⟨rest, rfl⟩ := h
  exact ⟨rest ++ more, String.append_assoc⟩

/-- A check of a shortfall. -/
theorem IsShortfall.decides {c p : Prop} [Decidable c] {message : String}
    (h : IsShortfall message) (hiff : c ↔ p) :
    Decides (ensure c message) p (UpdateRefusal overflows) := by
  have hrefusal : UpdateRefusal overflows message := Or.inl h
  exact (Decides.ensure hrefusal).congr hiff

/-! ### The account once the offer is replaced -/

/-- The line of an asset after the update. -/
theorem lines_offerReplaced {asset : AssetId} {line : Line} (hline : a.lines asset = some line) :
    ∃ replaced, (offerReplaced a selling buying old new).lines asset = some replaced ∧
      replaced.available =
        line.available - (if asset = selling then new.selling.val - old.selling.val else 0) ∧
      replaced.capacity =
        line.capacity - if asset = buying then new.buying.val - old.buying.val else 0 := by
  let sold := if asset = selling then line.addSelling (new.selling.val - old.selling.val) else line
  let replaced :=
    if asset = buying then sold.addBuying (new.buying.val - old.buying.val) else sold
  have hreplaced : (offerReplaced a selling buying old new).lines asset = some replaced := by
    rw [offerReplaced, LedgerAccount.lines_addBuying, LedgerAccount.lines_addSelling, hline]
    rfl
  refine ⟨replaced, hreplaced, ?_, ?_⟩
  · unfold replaced sold
    split_ifs <;> simp
  · unfold replaced sold
    split_ifs <;> simp

/-- The account is in order after the update exactly when the released amounts make
room for the new ones. -/
theorem updateFits_offerReplaced_iff {reserve charge : ℤ}
    (hincludes : IncludesOffer strKey accountId a selling buying old) :
    UpdateFits strKey accountId (offerReplaced a selling buying old new) reserve charge selling
        buying ↔
      (selling.issuerIs strKey accountId = false → new.selling.val +
          (if selling.isNative then a.minimum reserve + charge else 0) ≤
            a.availableOf selling + old.selling.val) ∧
        (buying.issuerIs strKey accountId = false →
          new.buying.val ≤ a.capacityOf buying 0 + old.buying.val) := by
  -- a side that the account does not issue has a line, since it promises the old amounts
  have hselling : selling.issuerIs strKey accountId = false → ∃ line replaced,
      a.lines selling = some line ∧
        (offerReplaced a selling buying old new).lines selling = some replaced ∧
          replaced.available = line.available - (new.selling.val - old.selling.val) := by
    intro hissuer
    obtain ⟨line, hline, -⟩ := hincludes.selling hissuer
    obtain ⟨replaced, hreplaced, havailable, -⟩ := lines_offerReplaced hline
    rw [if_pos rfl] at havailable
    exact ⟨line, replaced, hline, hreplaced, havailable⟩
  have hminimum :
      (offerReplaced a selling buying old new).minimum reserve = a.minimum reserve := rfl
  constructor
  · intro hfits
    constructor
    · intro hissuer
      obtain ⟨line, replaced, hline, hreplaced, havailable⟩ := hselling hissuer
      rw [LedgerAccount.availableOf_of_line hline]
      by_cases hsold : selling.isNative = true
      · obtain ⟨paid, hpaid, hle⟩ := hfits.payable hsold
        rw [← AssetId.isNative_iff.mp hsold] at hpaid
        obtain rfl := Option.some_inj.mp (hpaid.symm.trans hreplaced)
        rw [hminimum] at hle
        rw [if_pos hsold]
        omega
      · rw [Bool.not_eq_true] at hsold
        have hcovered := hfits.covered hsold hissuer replaced hreplaced
        rw [Line.available] at havailable
        rw [hsold, if_neg Bool.false_ne_true]
        omega
    · intro hissuer
      obtain ⟨line, hline, -⟩ := hincludes.buying hissuer
      obtain ⟨replaced, hreplaced, -, hcapacity⟩ := lines_offerReplaced hline
      have hwithin := hfits.within hissuer replaced hreplaced
      rw [if_pos rfl, Line.capacity] at hcapacity
      rw [LedgerAccount.capacityOf_of_line hline]
      omega
  · rintro ⟨hsold, hbought⟩
    refine ⟨?_, ?_, ?_⟩
    · intro hnativeSold
      obtain rfl := AssetId.isNative_iff.mp hnativeSold
      obtain ⟨line, replaced, hline, hreplaced, havailable⟩ := hselling AssetId.issuerIs_native
      have hle := hsold AssetId.issuerIs_native
      rw [if_pos hnativeSold, LedgerAccount.availableOf_of_line hline] at hle
      exact ⟨replaced, hreplaced, by omega⟩
    · intro hnotNative hissuer replaced hreplaced
      obtain ⟨line, own, hline, hown, havailable⟩ := hselling hissuer
      obtain rfl := Option.some_inj.mp (hown.symm.trans hreplaced)
      have hle := hsold hissuer
      rw [hnotNative, if_neg Bool.false_ne_true, LedgerAccount.availableOf_of_line hline] at hle
      rw [Line.available] at havailable
      omega
    · intro hissuer replaced hreplaced
      obtain ⟨line, hline, -⟩ := hincludes.buying hissuer
      obtain ⟨own, hown, -, hcapacity⟩ := lines_offerReplaced hline
      obtain rfl := Option.some_inj.mp (hown.symm.trans hreplaced)
      have hle := hbought hissuer
      rw [LedgerAccount.capacityOf_of_line hline] at hle
      rw [if_pos rfl, Line.capacity] at hcapacity
      omega

/-! ### The checks -/

/-- A fee that can be paid passes its check. -/
theorem ensureOfferFeeCapacity_eq_ok (h : LedgerSnapshot strKey account)
    (hreserve : 0 ≤ baseReserve.val) (hfee : 0 ≤ fee.val)
    (hpayable : FeePayable (ledgerAccount strKey account) baseReserve.val fee.val) :
    ensureOfferFeeCapacity strKey account baseReserve fee = .ok () := by
  obtain ⟨line, hline, hle⟩ := hpayable
  obtain ⟨available, havailable, hval⟩ := availableBalance_eq h .native
  rw [LedgerAccount.availableOf_of_line hline] at hval
  have havailable_le := available.le_hi
  obtain ⟨minimum, hminimum, hminimumVal, hminimum_nonneg⟩ :=
    h.minimumBalanceStroops_eq_ok hreserve (by omega)
  simp only [ensureOfferFeeCapacity, havailable, hminimum, ok_bind, ensure_eq_ok, not_lt,
    BoundedInt.lt_iff]
  simp (disch := decide) only [BoundedInt.val_max, BoundedInt.val_saturatingSub,
    BoundedInt.val_lit]
  omega

/-- The selling side is accepted when what is released makes room for what is sold. -/
theorem ensureUpdateSelling_decides (h : LedgerSnapshot strKey account)
    (hreserve : 0 ≤ baseReserve.val) (hfee : 0 ≤ fee.val)
    (hpayable : FeePayable (ledgerAccount strKey account) baseReserve.val fee.val)
    (hincludes : IncludesOffer strKey accountId (ledgerAccount strKey account) selling buying old)
    (hold : 0 ≤ old.selling.val) (hnew : 0 ≤ new.selling.val) :
    Decides
      (ensureUpdateSelling strKey account accountId selling new.selling old.selling baseReserve fee)
      (selling.issuerIs strKey accountId = false → new.selling.val + (if selling.isNative then
          (ledgerAccount strKey account).minimum baseReserve.val + fee.val else 0) ≤
            (ledgerAccount strKey account).availableOf selling + old.selling.val)
      (UpdateRefusal (selling.isNative = true ∧ 9223372036854775807 <
        new.selling.val + (ledgerAccount strKey account).minimum baseReserve.val + fee.val)) := by
  unfold ensureUpdateSelling
  by_cases hissuer : selling.issuerIs strKey accountId = true
  · rw [if_pos hissuer]
    exact Decides.ok fun hnot => absurd (hissuer.symm.trans hnot) (by simp)
  rw [if_neg hissuer]
  rw [Bool.not_eq_true] at hissuer
  obtain ⟨line, hline, hold_le⟩ := hincludes.selling hissuer
  obtain ⟨available, havailable, hval⟩ := availableBalance_eq h selling
  simp only [hissuer, forall_const]
  rw [LedgerAccount.availableOf_of_line hline] at hval ⊢
  -- what is released is part of what the line promises, so the sum is at most its balance
  have hreleased : line.available + old.selling.val ≤ 9223372036854775807 := by
    obtain ⟨_, balance, _, _, _, _, _, rfl⟩ := reads_of_line hline
    have hbalance := balance.le_hi
    simp only [Line.available] at hold_le ⊢
    omega
  obtain ⟨released, hof, hreleasedVal⟩ : ∃ released : I64,
      BoundedInt.ofInt? (available.val + old.selling.val) = some released ∧
        released.val = available.val + old.selling.val :=
    BoundedInt.exists_ofInt? (by have := available.lo_le; have := (h.sound _ _ hline).covered
                                 rw [Line.available] at hval hreleased; omega)
  simp only [havailable, ok_bind, BoundedInt.checkedAdd, hof, okOr]
  by_cases hnative : selling.isNative = true
  · obtain ⟨native, hnativeLine, hle⟩ := hpayable
    obtain rfl := AssetId.isNative_iff.mp hnative
    obtain rfl := Option.some_inj.mp (hline.symm.trans hnativeLine)
    have havailable_le := available.le_hi
    obtain ⟨minimum, hminimum, hminimumVal, hminimum_nonneg⟩ :=
      h.minimumBalanceStroops_eq_ok hreserve (by omega)
    rw [if_pos hnative, if_pos hnative, hminimum, ok_bind, ← hminimumVal]
    cases hsum : (BoundedInt.ofInt? (new.selling.val + minimum.val) >>= fun sum : I64 =>
        (BoundedInt.ofInt? (sum.val + fee.val) : Option I64)) with
    | none =>
      have hoverflow : 9223372036854775807 < new.selling.val + minimum.val + fee.val := by
        by_contra hin
        obtain ⟨sum, -, hsumVal⟩ : ∃ sum : I64, BoundedInt.ofInt?
            (new.selling.val + minimum.val + fee.val) = some sum ∧ _ :=
          BoundedInt.exists_ofInt? (by omega)
        have hsome : (new.selling.checkedAdd minimum >>= (·.checkedAdd fee)) = some sum :=
          (BoundedInt.checkedAdd_bind_eq_some_iff (by omega) hfee).mpr hsumVal
        rw [BoundedInt.checkedAdd] at hsome
        exact absurd (hsum.symm.trans hsome) (by simp)
      exact Decides.error (fun hfits => by omega) (Or.inr ⟨⟨hnative, hoverflow⟩, rfl⟩)
    | some required =>
      have hrequired : required.val = new.selling.val + minimum.val + fee.val :=
        (BoundedInt.checkedAdd_bind_eq_some_iff (by omega) hfee).mp hsum
      refine IsShortfall.decides ?_ ?_
      · exact .append (.append (.append ⟨"XLM for offer update: need ", rfl⟩ _) _) _
      · rw [gt_iff_lt, BoundedInt.lt_iff]
        omega
  · rw [if_neg hnative, if_neg hnative]
    refine IsShortfall.decides ?_ ?_
    · exact .append (.append (.append (.append (.append ⟨"", rfl⟩ _) _) _) _) _
    · rw [gt_iff_lt, BoundedInt.lt_iff]
      omega

/-- The buying side is accepted when what is released makes room for what is bought. -/
theorem updateReceiving_decides (h : LedgerSnapshot strKey account)
    (hincludes : IncludesOffer strKey accountId (ledgerAccount strKey account) selling buying old)
    (hold : 0 ≤ old.buying.val) :
    Decides (do
        let receivingAfterRelease ← if buying.issuerIs strKey accountId then .ok i64Max
          else do
            let capacity ← receivingCapacity strKey account accountId buying none
            okOr (capacity.checkedAdd old.buying) "offer receiving capacity overflow"
        ensure (¬ new.buying > receivingAfterRelease)
          s!"Insufficient receiving capacity for {buying.display strKey} offer update: need {
            formatStroops new.buying}, available {formatStroops receivingAfterRelease}")
      (buying.issuerIs strKey accountId = false →
        new.buying.val ≤ (ledgerAccount strKey account).capacityOf buying 0 + old.buying.val)
      (UpdateRefusal overflows) := by
  have hmessage : ∀ released : I64, IsShortfall
      s!"Insufficient receiving capacity for {buying.display strKey} offer update: need {
        formatStroops new.buying}, available {formatStroops released}" := fun released =>
    .append (.append (.append (.append (.append ⟨"receiving capacity for ", rfl⟩ _) _) _) _) _
  by_cases hissuer : buying.issuerIs strKey accountId = true
  · have hmax : new.buying.val ≤ i64Max.val := new.buying.le_hi
    rw [if_pos hissuer]
    refine (hmessage i64Max).decides ?_
    rw [gt_iff_lt, BoundedInt.lt_iff]
    simp only [hissuer, Bool.true_eq_false, false_implies, iff_true]
    omega
  · rw [Bool.not_eq_true] at hissuer
    obtain ⟨line, hline, hold_le⟩ := hincludes.buying hissuer
    obtain ⟨capacity, hcapacity, hval⟩ := receivingCapacity_of_line none h hissuer hline
    have hsound := Line.sound_iff.mp (h.sound _ _ hline)
    -- what is released is part of what the line has promised to hold
    have hreleased : line.capacity + old.buying.val ≤ 9223372036854775807 := by
      obtain ⟨_, balance, _, _, limit, _, hreads, rfl⟩ := reads_of_line hline
      have hlimit := limit.le_hi
      have hbalance := balanceStroops_nonneg hreads.balance
      simp only [Line.capacity] at hold_le ⊢
      omega
    obtain ⟨released, hof, hreleasedVal⟩ : ∃ released : I64,
        BoundedInt.ofInt? (capacity.val + old.buying.val) = some released ∧
          released.val = capacity.val + old.buying.val := BoundedInt.exists_ofInt? (by omega)
    rw [if_neg (by simp [hissuer]), hcapacity, LedgerAccount.capacityOf_of_line hline]
    simp only [ok_bind, BoundedInt.checkedAdd, hof, okOr, hissuer, forall_const]
    refine (hmessage released).decides ?_
    rw [gt_iff_lt, BoundedInt.lt_iff]
    omega

/-! ### What is accepted, with or without a fee -/

/-- What is released is part of what the lines promise, where there are any. -/
structure ReleasesOffer (a : LedgerAccount AssetId) (selling buying : AssetId)
    (old : OfferLiabilities) : Prop where
  selling : ∀ line, a.lines selling = some line → old.selling.val ≤ line.selling
  buying : ∀ line, a.lines buying = some line → old.buying.val ≤ line.buying

/-- With what is released there is at most a balance to sell. -/
theorem ReleasesOffer.availableOf_add_le
    (hreleases : ReleasesOffer (ledgerAccount strKey account) selling buying old) :
    (ledgerAccount strKey account).availableOf selling + old.selling.val ≤
      9223372036854775807 := by
  cases hline : (ledgerAccount strKey account).lines selling with
  | none =>
    have hold_le := old.selling.le_hi
    rw [LedgerAccount.availableOf_of_none hline]
    omega
  | some line =>
    have hold_le := hreleases.selling line hline
    obtain ⟨_, balance, _, _, _, _, _, rfl⟩ := reads_of_line hline
    have hbalance := balance.le_hi
    rw [LedgerAccount.availableOf_of_line hline, Line.available]
    dsimp only at hold_le ⊢
    omega

/-- The fee check asks for the fee beside the reserve, if there is a fee, and for a
reserve in range. -/
theorem ensureOfferFeeCapacity_accepts (h : LedgerSnapshot strKey account)
    (hreserve : 0 ≤ baseReserve.val) (hfee : 0 ≤ fee.val) :
    ensureOfferFeeCapacity strKey account baseReserve fee = .ok () ↔
      (ledgerAccount strKey account).minimum baseReserve.val ≤ 9223372036854775807 ∧
        ((ledgerAccount strKey account).minimum baseReserve.val + fee.val ≤
          (ledgerAccount strKey account).availableOf .native ∨ fee.val = 0) := by
  obtain ⟨available, havailable, hval⟩ := availableBalance_eq h .native
  have havailable_ge := LedgerAccount.availableOf_nonneg h.sound .native
  have havailable_le := available.le_hi
  have hminimum_nonneg : 0 ≤ (ledgerAccount strKey account).minimum baseReserve.val :=
    mul_nonneg h.units_nonneg hreserve
  rw [← hval] at havailable_ge ⊢
  by_cases hin : (ledgerAccount strKey account).minimum baseReserve.val ≤ 9223372036854775807
  · obtain ⟨minimum, hminimum, hminimumVal, -⟩ := h.minimumBalanceStroops_eq_ok hreserve hin
    simp only [ensureOfferFeeCapacity, havailable, hminimum, ok_bind, ensure_eq_ok, not_lt,
      BoundedInt.lt_iff]
    simp (disch := decide) only [BoundedInt.val_max, BoundedInt.val_saturatingSub,
      BoundedInt.val_lit]
    omega
  · rw [ensureOfferFeeCapacity, havailable, ok_bind, h.minimumBalanceStroops_eq,
      BoundedInt.ofInt?_eq_none_iff.mpr (by omega), okOr, error_bind]
    simp only [reduceCtorEq, false_iff]
    omega

theorem ensureUpdateSelling_accepts (h : LedgerSnapshot strKey account)
    (hreserve : 0 ≤ baseReserve.val) (hfee : 0 ≤ fee.val)
    (hreleases : ReleasesOffer (ledgerAccount strKey account) selling buying old)
    (hold : 0 ≤ old.selling.val) (hnew : 0 ≤ new.selling.val) :
    ensureUpdateSelling strKey account accountId selling new.selling old.selling baseReserve fee =
        .ok () ↔
      (selling.issuerIs strKey accountId = false → new.selling.val + (if selling.isNative then
          (ledgerAccount strKey account).minimum baseReserve.val + fee.val else 0) ≤
            (ledgerAccount strKey account).availableOf selling + old.selling.val) := by
  unfold ensureUpdateSelling
  by_cases hissuer : selling.issuerIs strKey accountId = true
  · simp [hissuer]
  rw [if_neg hissuer]
  rw [Bool.not_eq_true] at hissuer
  obtain ⟨available, havailable, hval⟩ := availableBalance_eq h selling
  have havailable_ge := LedgerAccount.availableOf_nonneg h.sound selling
  have hreleased_le := hreleases.availableOf_add_le
  rw [← hval] at hreleased_le
  obtain ⟨released, hsum, hreleasedVal⟩ : ∃ released : I64,
      available.checkedAdd old.selling = some released ∧
        released.val = available.val + old.selling.val := BoundedInt.exists_ofInt? (by omega)
  rw [havailable, ok_bind, hsum, okOr, ok_bind, ← hval, ← hreleasedVal]
  simp only [hissuer, forall_const]
  by_cases hnative : selling.isNative = true
  · have hminimum_nonneg : 0 ≤ (ledgerAccount strKey account).minimum baseReserve.val :=
      mul_nonneg h.units_nonneg hreserve
    have hreleased_hi := released.le_hi
    rw [if_pos hnative, if_pos hnative]
    by_cases hin : (ledgerAccount strKey account).minimum baseReserve.val ≤ 9223372036854775807
    · obtain ⟨minimum, hminimum, hminimumVal, -⟩ := h.minimumBalanceStroops_eq_ok hreserve hin
      rw [hminimum, ok_bind, ← hminimumVal]
      -- the sum is compared where it does not overflow, and too large where it does
      have hexact : ∀ sum : I64,
          (new.selling.checkedAdd minimum >>= (·.checkedAdd fee)) = some sum ↔
          sum.val = new.selling.val + minimum.val + fee.val := fun sum =>
        BoundedInt.checkedAdd_bind_eq_some_iff (by omega) hfee
      have hlo : -9223372036854775808 ≤ new.selling.val + minimum.val + fee.val := by omega
      have hrequired : (∃ required : I64, (new.selling.checkedAdd minimum >>= (·.checkedAdd fee)) =
          some required ∧ required.val ≤ released.val) ↔
            new.selling.val + (minimum.val + fee.val) ≤ released.val := by
        simp only [hexact]
        rw [BoundedInt.exists_val_eq_le_iff hlo, add_assoc]
      rw [← hrequired]
      simp only [bind_eq_ok, ensure_eq_ok, gt_iff_lt, BoundedInt.lt_iff, not_lt]
      exact exists_congr fun required => and_congr_left' okOr_eq_ok
    · rw [h.minimumBalanceStroops_eq, BoundedInt.ofInt?_eq_none_iff.mpr (by omega), okOr,
        error_bind]
      simp only [reduceCtorEq, false_iff]
      omega
  · rw [if_neg hnative, if_neg hnative, ensure_eq_ok, gt_iff_lt, BoundedInt.lt_iff, not_lt,
      add_zero]

/-- What is bought has a line, or its issuer, with room beside what is released. -/
theorem updateReceiving_accepts (accountId : String) (new : OfferLiabilities)
    (h : LedgerSnapshot strKey account)
    (hreleases : ReleasesOffer (ledgerAccount strKey account) selling buying old)
    (hold : 0 ≤ old.buying.val) (message : I64 → String) :
    (do
        let receivingAfterRelease ← if buying.issuerIs strKey accountId then .ok i64Max
          else do
            let capacity ← receivingCapacity strKey account accountId buying none
            okOr (capacity.checkedAdd old.buying) "offer receiving capacity overflow"
        ensure (¬ new.buying > receivingAfterRelease)
          (message receivingAfterRelease) : Except String Unit) = .ok () ↔
      (buying.issuerIs strKey accountId = false →
        (buying.isNative = true → (ledgerAccount strKey account).lines buying ≠ none) ∧
          new.buying.val ≤
            (ledgerAccount strKey account).capacityOf buying 0 + old.buying.val) := by
  by_cases hissuer : buying.issuerIs strKey accountId = true
  · have hmax : new.buying.val ≤ i64Max.val := new.buying.le_hi
    rw [if_pos hissuer, ok_bind, ensure_eq_ok, gt_iff_lt, BoundedInt.lt_iff, not_lt]
    simp [hissuer, hmax]
  rw [if_neg hissuer]
  rw [Bool.not_eq_true] at hissuer
  simp only [hissuer, forall_const]
  cases hline : (ledgerAccount strKey account).lines buying with
  | none =>
    rw [receivingCapacity_of_none h hissuer hline, LedgerAccount.capacityOf_of_none hline]
    by_cases hnative : buying.isNative = true
    · simp [hnative]
    · have hzero : (.lit 0 : I64).val = 0 := by decide
      have hold_le := old.buying.le_hi
      obtain ⟨released, hsum, hval⟩ : ∃ released : I64,
          (.lit 0 : I64).checkedAdd old.buying = some released ∧
            released.val = (.lit 0 : I64).val + old.buying.val :=
        BoundedInt.exists_ofInt? (by omega)
      rw [if_neg hnative, ok_bind, Option.getD_none, hsum, okOr, ok_bind, ensure_eq_ok, gt_iff_lt,
        BoundedInt.lt_iff, not_lt, hval, hzero]
      simp [hnative]
  | some line =>
    obtain ⟨capacity, hcapacity, hval⟩ := receivingCapacity_of_line none h hissuer hline
    have hold_le := hreleases.buying line hline
    have hcapacity_ge := (Line.sound_iff.mp (h.sound _ _ hline)).2
    -- what is released is part of what the line has promised to hold
    have hreleased : line.capacity + old.buying.val ≤ 9223372036854775807 := by
      obtain ⟨_, balance, _, _, limit, _, hreads, rfl⟩ := reads_of_line hline
      have hlimit := limit.le_hi
      have hbalance := balanceStroops_nonneg hreads.balance
      simp only [Line.capacity] at hold_le ⊢
      omega
    obtain ⟨released, hsum, hreleasedVal⟩ : ∃ released : I64,
        capacity.checkedAdd old.buying = some released ∧
          released.val = capacity.val + old.buying.val := BoundedInt.exists_ofInt? (by omega)
    rw [hcapacity, LedgerAccount.capacityOf_of_line hline, ← hval, ← hreleasedVal, ok_bind, hsum,
      okOr, ok_bind, ensure_eq_ok, gt_iff_lt, BoundedInt.lt_iff, not_lt]
    simp

/-- The preflight of an update, as its three checks. -/
theorem preflightUpdate_accepts (h : LedgerSnapshot strKey account)
    (hold : offerLiabilities .sell oldAmount oldPrice = .ok old)
    (hnew : offerLiabilities side amount price = .ok new) (hreserve : 0 ≤ baseReserve.val)
    (hfee : 0 ≤ fee.val)
    (hreleases : ReleasesOffer (ledgerAccount strKey account) selling buying old) :
    preflightUpdate strKey account accountId side selling buying amount price oldAmount oldPrice
        baseReserve fee = .ok () ↔
      ((ledgerAccount strKey account).minimum baseReserve.val ≤ 9223372036854775807 ∧
        ((ledgerAccount strKey account).minimum baseReserve.val + fee.val ≤
          (ledgerAccount strKey account).availableOf .native ∨ fee.val = 0)) ∧
      (selling.issuerIs strKey accountId = false → new.selling.val + (if selling.isNative then
          (ledgerAccount strKey account).minimum baseReserve.val + fee.val else 0) ≤
            (ledgerAccount strKey account).availableOf selling + old.selling.val) ∧
      (buying.issuerIs strKey accountId = false →
        (buying.isNative = true → (ledgerAccount strKey account).lines buying ≠ none) ∧
          new.buying.val ≤
            (ledgerAccount strKey account).capacityOf buying 0 + old.buying.val) := by
  obtain ⟨hselling, hbuying⟩ := offerLiabilities_nonneg hold
  have hnewSelling := (offerLiabilities_nonneg hnew).1
  have hreceiving := updateReceiving_accepts accountId new h hreleases hbuying fun released =>
    s!"Insufficient receiving capacity for {buying.display strKey} offer update: need {
      formatStroops new.buying}, available {formatStroops released}"
  rw [← ensureOfferFeeCapacity_accepts h hreserve hfee, ← hreceiving,
    ← ensureUpdateSelling_accepts h hreserve hfee hreleases hselling hnewSelling, preflightUpdate]
  simp only [hnew, hold, ok_bind]
  constructor
  · intro haccepted
    obtain ⟨_, hfeeReady, hrest⟩ := bind_eq_ok.mp haccepted
    obtain ⟨_, hsold, hbought⟩ := bind_eq_ok.mp hrest
    exact ⟨hfeeReady, hsold, hbought⟩
  · rintro ⟨hfeeReady, hsold, hbought⟩
    exact bind_eq_ok.mpr ⟨(), hfeeReady, bind_eq_ok.mpr ⟨(), hsold, hbought⟩⟩

/-! ### The preflight -/

/-- The preflight accepts an update exactly when the new offer can take the place of
the stored one. It refuses for what is short; only where a native amount is sold that
the reserve and the fee take out of the range does it refuse for the overflow. -/
theorem preflightUpdate_decides (h : LedgerSnapshot strKey account)
    (hold : offerLiabilities .sell oldAmount oldPrice = .ok old) (hamount : 0 < amount.val)
    (hn : 0 < price.n.val) (hd : 0 < price.d.val) (hreserve : 0 ≤ baseReserve.val)
    (hfee : 0 ≤ fee.val)
    (hincludes : IncludesOffer strKey accountId (ledgerAccount strKey account) selling buying old)
    (hpayable : FeePayable (ledgerAccount strKey account) baseReserve.val fee.val) :
    ∃ new, offerLiabilities side amount price = .ok new ∧
      Decides (preflightUpdate strKey account accountId side selling buying amount price oldAmount
          oldPrice baseReserve fee)
        (UpdateFits strKey accountId
          (offerReplaced (ledgerAccount strKey account) selling buying old new) baseReserve.val
          fee.val selling buying)
        (UpdateRefusal (selling.isNative = true ∧ 9223372036854775807 <
          new.selling.val + (ledgerAccount strKey account).minimum baseReserve.val + fee.val)) := by
  obtain ⟨new, hnew, hnewSelling, -⟩ :
      ∃ new, offerLiabilities side amount price = .ok new ∧ _ :=
    offerLiabilities_total hamount.le hn hd
  obtain ⟨hselling, hbuying⟩ := offerLiabilities_nonneg hold
  refine ⟨new, hnew, ?_⟩
  simp only [preflightUpdate, ensureOfferFeeCapacity_eq_ok h hreserve hfee hpayable, hnew, hold,
    ok_bind]
  exact Decides.congr (Decides.bind
    (ensureUpdateSelling_decides h hreserve hfee hpayable hincludes hselling hnewSelling)
    fun _ => updateReceiving_decides h hincludes hbuying)
    (updateFits_offerReplaced_iff hincludes).symm

/-- The line of an account that sells one unit includes the offer that does. -/
theorem includesOffer_nativeAccount : IncludesOffer Sep23.strKey usdcIssuer
    (ledgerAccount Sep23.strKey (nativeAccount "100.0000000" "1.0000000")) .native .usdc
    ⟨.lit 10000000, .lit 10000000⟩ := by
  have hline : ((ledgerAccount Sep23.strKey (nativeAccount "100.0000000" "1.0000000")).lines
      .native).map Line.selling = some 10000000 := by decide +kernel
  refine ⟨fun _ => ?_, fun hissuer => absurd hissuer (by decide +kernel)⟩
  obtain ⟨line, hline, hselling⟩ := Option.map_eq_some_iff.mp hline
  exact ⟨line, hline, hselling.ge⟩

theorem feePayable_nativeAccount : FeePayable
    (ledgerAccount Sep23.strKey (nativeAccount "100.0000000" "1.0000000")) 5000000 100 := by
  have hline : ((ledgerAccount Sep23.strKey (nativeAccount "100.0000000" "1.0000000")).lines
      .native).map Line.available = some 990000000 := by decide +kernel
  obtain ⟨line, hline, havailable⟩ := Option.map_eq_some_iff.mp hline
  refine ⟨line, hline, ?_⟩
  rw [havailable]
  decide

/-- An issuer sells two units for its own asset instead of one. -/
theorem preflightUpdate_decides_nativeAccount : ∃ new,
    offerLiabilities .sell (.lit 20000000) ⟨.lit 1, .lit 1⟩ = .ok new ∧
      UpdateFits Sep23.strKey usdcIssuer (offerReplaced (ledgerAccount Sep23.strKey
          (nativeAccount "100.0000000" "1.0000000")) .native .usdc
            ⟨.lit 10000000, .lit 10000000⟩ new) 5000000 100 .native .usdc := by
  obtain ⟨new, hnew, hdecides⟩ := preflightUpdate_decides
    (LedgerSnapshot.nativeAccount_hundred Sep23.strKey)
    (by decide : offerLiabilities .sell (.lit 10000000) ⟨.lit 1, .lit 1⟩ =
      .ok ⟨.lit 10000000, .lit 10000000⟩)
    (by decide : 0 < (.lit 20000000 : I64).val)
    (by decide : 0 < (⟨.lit 1, .lit 1⟩ : Price).n.val) (by decide)
    (by decide : 0 ≤ (.lit 5000000 : I64).val) (by decide : 0 ≤ (.lit 100 : I64).val)
    includesOffer_nativeAccount feePayable_nativeAccount
  exact ⟨new, hnew, hdecides.eq_ok_iff.mp (by decide +kernel)⟩

/-- All native units there can be are too many to sell: with the reserve and the fee
their sum overflows. -/
theorem preflightUpdate_overflows :
    LedgerSnapshot Sep23.strKey (nativeAccount "100.0000000" "1.0000000") ∧
      inferSide .native .usdc .native .usdc = .ok .sell ∧
      offerLiabilities .sell (.lit 10000000) ⟨.lit 1, .lit 1⟩ =
        .ok ⟨.lit 10000000, .lit 10000000⟩ ∧
      IncludesOffer Sep23.strKey usdcIssuer
        (ledgerAccount Sep23.strKey (nativeAccount "100.0000000" "1.0000000")) .native .usdc
        ⟨.lit 10000000, .lit 10000000⟩ ∧
      FeePayable (ledgerAccount Sep23.strKey (nativeAccount "100.0000000" "1.0000000"))
        5000000 100 ∧
      preflightUpdate Sep23.strKey (nativeAccount "100.0000000" "1.0000000") usdcIssuer .sell
        .native .usdc i64Max ⟨.lit 1, .lit 1⟩ (.lit 10000000) ⟨.lit 1, .lit 1⟩ (.lit 5000000)
        (.lit 100) = .error "offer requirement overflow" :=
  ⟨LedgerSnapshot.nativeAccount_hundred Sep23.strKey, by decide +kernel, by decide,
    includesOffer_nativeAccount, feePayable_nativeAccount, by decide +kernel⟩

end Fresnica
