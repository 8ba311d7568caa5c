import Fresnica.Dex.Preflight

/-!
# Creating an offer

The preflight of a new offer accepts exactly the offers that leave the account in
order: with the fee paid and the offer entered the native line still has the
reserve available, and the lines of both sides, unless the account issues the
asset, cover what they promise and have room for what they are promised.

## Main definitions

* `offerCreated` — the account once the offer is entered
* `OfferFits` — the account is in order
* `NeedsNoLine` — nothing is promised on a side without a line

## Main results

* `ensureCreateSelling_eq_ok`, `preflightCreate_eq_ok` — the checks, as inequalities
* `offerFits_iff` — the order of the account, as the same inequalities
* `preflightCreate_iff` — the checks accept what leaves the account in order
-/

namespace Fresnica

open Foundation

/-- The limit of a trustline that is added with an offer. -/
def defaultTrustlineStroops : I64 := .lit 7082698378736765000

/-- The account once the offer is entered, and before the fee is charged. -/
def offerCreated (a : LedgerAccount AssetId) (selling buying : AssetId)
    (liabilities : OfferLiabilities) (addsTrustline : Bool) : LedgerAccount AssetId :=
  let a := a.addUnits 1
  let a := if addsTrustline then
      (a.addUnits 1).openLine buying defaultTrustlineStroops.val
    else a
  (a.addSelling selling liabilities.selling.val).addBuying buying liabilities.buying.val

/-- The reserve is there once the fee is paid, and each side that the account does
not issue covers what it promises and has room for what it is promised. The limit
is compared with the balance before the fee. -/
structure OfferFits (strKey : StrKey) (accountId : String) (a : LedgerAccount AssetId)
    (reserve fee : ℤ) (selling buying : AssetId) : Prop where
  solvent : (a.credit .native (-fee)).Solvent .native reserve
  covered : ∀ asset ∈ [selling, buying], asset.issuerIs strKey accountId = false →
    ∀ line, (a.credit .native (-fee)).lines asset = some line → line.selling ≤ line.balance
  within : ∀ asset ∈ [selling, buying], asset.issuerIs strKey accountId = false →
    ∀ line, a.lines asset = some line → line.balance + line.buying ≤ line.limit

/-- On a side without a line nothing is promised. -/
structure NeedsNoLine (strKey : StrKey) (accountId : String) (a : LedgerAccount AssetId)
    (liabilities : OfferLiabilities) (selling buying : AssetId) : Prop where
  selling : selling.issuerIs strKey accountId = false → a.lines selling = none →
    liabilities.selling.val = 0
  buying : buying.issuerIs strKey accountId = false → a.lines buying = none →
    liabilities.buying.val = 0

variable {strKey : StrKey} {account : Json} {accountId : String} {selling buying : AssetId}
variable {amount baseReserve fee : I64} {price : Price} {side : OfferSide} {addsTrustline : Bool}
variable {liabilities : OfferLiabilities}

/-! ### The checks -/

/-- The selling side is accepted when the reserve and the fee are available beside
what is sold. -/
theorem ensureCreateSelling_eq_ok {required available minimum : I64}
    (h : LedgerSnapshot strKey account)
    (havailable : available.val = (ledgerAccount strKey account).availableOf selling)
    (hrequired : 0 ≤ required.val) (hminimum : 0 ≤ minimum.val) (hfee : 0 ≤ fee.val) :
    ensureCreateSelling strKey account accountId selling required available minimum fee = .ok () ↔
      minimum.val + (if selling.isNative then required.val else 0) + fee.val ≤
          (ledgerAccount strKey account).availableOf .native ∧
        (selling.isNative = false → selling.issuerIs strKey accountId = false →
          required.val ≤ (ledgerAccount strKey account).availableOf selling) := by
  unfold ensureCreateSelling
  by_cases hnative : selling.isNative = true
  · -- the reserve, the fee and the amount sold come out of one balance
    have hsum : ∀ sum : I64, (required.checkedAdd minimum >>= (·.checkedAdd fee)) = some sum ↔
        sum.val = required.val + minimum.val + fee.val := fun sum =>
      BoundedInt.checkedAdd_bind_eq_some_iff (by omega) hfee
    have hlo : -9223372036854775808 ≤ required.val + minimum.val + fee.val := by omega
    have hsame : available.val = (ledgerAccount strKey account).availableOf .native := by
      rw [havailable, AssetId.isNative_iff.mp hnative]
    rw [if_pos hnative, if_pos hnative, ← hsame]
    simp only [bind_eq_ok, okOr_eq_ok, hsum, ensure_eq_ok, gt_iff_lt, BoundedInt.lt_iff, not_lt,
      BoundedInt.exists_val_eq_le_iff hlo, hnative, Bool.true_eq_false, false_implies, and_true]
    rw [add_comm required.val]
  · -- the amount sold has a line of its own
    obtain ⟨native, hnativeEq, hnativeVal⟩ := availableBalance_eq h .native
    have hlo : -9223372036854775808 ≤ minimum.val + fee.val := by omega
    rw [if_neg hnative, if_neg hnative, add_zero, ← hnativeVal, ← havailable]
    simp only [bind_eq_ok, okOr_eq_ok, ensure_eq_ok, hnativeEq, Except.ok.injEq,
      BoundedInt.checkedAdd_eq_some_iff, gt_iff_lt, BoundedInt.lt_iff, not_lt, exists_eq_left',
      BoundedInt.exists_val_eq_le_iff hlo, exists_const]
    rw [Bool.not_eq_true] at hnative
    constructor
    · rintro ⟨hselling, hreserve⟩
      refine ⟨hreserve, fun _ hissuer => not_lt.mp fun hlt => hselling ⟨?_, hlt⟩⟩
      rw [hissuer]
      exact Bool.false_ne_true
    · rintro ⟨hreserve, hselling⟩
      refine ⟨?_, hreserve⟩
      rintro ⟨hissuer, hlt⟩
      refine absurd (hselling hnative ?_) (not_le.mpr hlt)
      exact Bool.not_eq_true _ ▸ hissuer

/-- The reserve units of a new offer. -/
def extraSubentries (addsTrustline : Bool) : I64 := if addsTrustline then .lit 2 else .lit 1

/-- The limit a missing line is opened with. -/
def newLineLimit (addsTrustline : Bool) : ℤ :=
  if addsTrustline then defaultTrustlineStroops.val else 0

/-- The offer is accepted when the reserve, the fee and what it sells are available and
what it buys has a line with room, or one still to be opened. -/
theorem preflightCreate_accepts (h : LedgerSnapshot strKey account) (hreserve : 0 ≤ baseReserve.val)
    (hfee : 0 ≤ fee.val) {extra : I64} (hextra : 0 ≤ extra.val)
    (hliabilities : offerLiabilities side amount price = .ok liabilities) :
    preflightCreate strKey account accountId side selling buying amount price baseReserve fee
        extra addsTrustline = .ok () ↔
      ((ledgerAccount strKey account).addUnits extra.val).minimum baseReserve.val +
            (if selling.isNative then liabilities.selling.val else 0) + fee.val ≤
          (ledgerAccount strKey account).availableOf .native ∧
        (selling.isNative = false → selling.issuerIs strKey accountId = false →
          liabilities.selling.val ≤ (ledgerAccount strKey account).availableOf selling) ∧
        (buying.issuerIs strKey accountId = false →
          (buying.isNative = true → (ledgerAccount strKey account).lines buying ≠ none) ∧
          liabilities.buying.val ≤
            (ledgerAccount strKey account).capacityOf buying (newLineLimit addsTrustline)) := by
  have hselling := (offerLiabilities_nonneg hliabilities).1
  obtain ⟨available, havailable, havailableVal⟩ := availableBalance_eq h selling
  obtain ⟨native, -, hnativeVal⟩ := availableBalance_eq h .native
  have hminimum :
      0 ≤ ((ledgerAccount strKey account).addUnits extra.val).minimum baseReserve.val := by
    rw [LedgerAccount.minimum, LedgerAccount.units_addUnits]
    exact mul_nonneg (add_nonneg h.units_nonneg hextra) hreserve
  have hlimit : newTrustlineLimit addsTrustline =
      .ok (if addsTrustline then some defaultTrustlineStroops else none) := by
    cases addsTrustline <;> decide
  have hnewLimit : ((if addsTrustline then some defaultTrustlineStroops else none).getD
      (.lit 0)).val = newLineLimit addsTrustline := by
    cases addsTrustline <;> rfl
  have hfits := le_receivingCapacity_iff h accountId buying
    (if addsTrustline then some defaultTrustlineStroops else none) liabilities.buying
  rw [hnewLimit] at hfits
  simp only [preflightCreate, hliabilities, havailable, hlimit, ok_bind, bind_eq_ok, ensure_eq_ok,
    futureMinimum_eq_ok h hreserve hextra, gt_iff_lt, BoundedInt.lt_iff, not_lt, hfits]
  constructor
  · rintro ⟨minimum, hval, _, hsell, hbuy⟩
    obtain ⟨hsolvent, hsold⟩ := (ensureCreateSelling_eq_ok h havailableVal hselling
      (hval ▸ hminimum) hfee).mp hsell
    exact ⟨hval ▸ hsolvent, hsold, hbuy⟩
  · rintro ⟨hsolvent, hsold, hbuy⟩
    have hsell : 0 ≤ if selling.isNative then liabilities.selling.val else 0 := by
      split_ifs <;> omega
    have hnative := native.le_hi
    -- what is available bounds the minimum balance, so it does not overflow
    obtain ⟨minimum, -, hval⟩ : ∃ minimum : I64, BoundedInt.ofInt?
        (((ledgerAccount strKey account).addUnits extra.val).minimum baseReserve.val) =
          some minimum ∧ _ := BoundedInt.exists_ofInt? (by omega)
    exact ⟨minimum, hval, (), (ensureCreateSelling_eq_ok h havailableVal hselling
      (hval ▸ hminimum) hfee).mpr ⟨hval ▸ hsolvent, hsold⟩, hbuy⟩

/-- Where a fee is paid, it is paid from a native line, so there is one. -/
theorem preflightCreate_eq_ok (h : LedgerSnapshot strKey account) (hreserve : 0 ≤ baseReserve.val)
    (hfee : 0 < fee.val) (hliabilities : offerLiabilities side amount price = .ok liabilities) :
    preflightCreate strKey account accountId side selling buying amount price baseReserve fee
        (extraSubentries addsTrustline) addsTrustline = .ok () ↔
      ((ledgerAccount strKey account).addUnits (extraSubentries addsTrustline).val).minimum
            baseReserve.val + (if selling.isNative then liabilities.selling.val else 0) + fee.val ≤
          (ledgerAccount strKey account).availableOf .native ∧
        (selling.isNative = false → selling.issuerIs strKey accountId = false →
          liabilities.selling.val ≤ (ledgerAccount strKey account).availableOf selling) ∧
        (buying.issuerIs strKey accountId = false → liabilities.buying.val ≤
          (ledgerAccount strKey account).capacityOf buying (newLineLimit addsTrustline)) := by
  have hunits : 0 ≤ (extraSubentries addsTrustline).val := by cases addsTrustline <;> decide
  have hminimum : 0 ≤ ((ledgerAccount strKey account).addUnits
      (extraSubentries addsTrustline).val).minimum baseReserve.val := by
    rw [LedgerAccount.minimum, LedgerAccount.units_addUnits]
    exact mul_nonneg (add_nonneg h.units_nonneg hunits) hreserve
  rw [preflightCreate_accepts h hreserve hfee.le hunits hliabilities]
  constructor
  · rintro ⟨hsolvent, hsold, hbuy⟩
    exact ⟨hsolvent, hsold, fun hissuer => (hbuy hissuer).2⟩
  · rintro ⟨hsolvent, hsold, hbuy⟩
    refine ⟨hsolvent, hsold, fun hissuer => ⟨fun hbuyingNative hline => ?_, hbuy hissuer⟩⟩
    have hsell : 0 ≤ if selling.isNative then liabilities.selling.val else 0 := by
      have := (offerLiabilities_nonneg hliabilities).1
      split_ifs <;> omega
    rw [AssetId.isNative_iff.mp hbuyingNative] at hline
    rw [LedgerAccount.availableOf_of_none hline] at hsolvent
    omega

/-! ### The account once the offer is entered -/

variable {a : LedgerAccount AssetId} {asset : AssetId} {line : Line} {reserve charge : ℤ}

/-- What the offer does to the line of an asset. -/
def offerLine (selling buying : AssetId) (liabilities : OfferLiabilities) (asset : AssetId)
    (line : Line) : Line :=
  let line := if asset = selling then line.addSelling liabilities.selling.val else line
  if asset = buying then line.addBuying liabilities.buying.val else line

theorem available_offerLine : (offerLine selling buying liabilities asset line).available =
    line.available - if asset = selling then liabilities.selling.val else 0 := by
  unfold offerLine
  split_ifs <;> simp

theorem capacity_offerLine : (offerLine selling buying liabilities asset line).capacity =
    line.capacity - if asset = buying then liabilities.buying.val else 0 := by
  unfold offerLine
  split_ifs <;> simp

theorem lines_offerCreated :
    (offerCreated a selling buying liabilities addsTrustline).lines asset =
      (if addsTrustline = true ∧ asset = buying then
          some ((a.lines asset).getD ⟨0, 0, 0, defaultTrustlineStroops.val⟩)
        else a.lines asset).map (offerLine selling buying liabilities asset) := by
  have hbefore : (if addsTrustline then
        (((a.addUnits 1).addUnits 1).openLine buying defaultTrustlineStroops.val)
      else a.addUnits 1).lines asset = if addsTrustline = true ∧ asset = buying then
          some ((a.lines asset).getD ⟨0, 0, 0, defaultTrustlineStroops.val⟩)
        else a.lines asset := by
    cases addsTrustline with
    | false => simp
    | true =>
      by_cases h : asset = buying
      · subst h
        simp [LedgerAccount.lines_openLine_self]
      · simp [LedgerAccount.lines_openLine_of_ne h, h]
  rw [← hbefore, offerCreated, LedgerAccount.lines_addBuying, LedgerAccount.lines_addSelling,
    Option.map_map]
  rfl

/-- The line of an asset after the offer, in terms of what was available before and
what could be received. -/
theorem line_offerCreated
    (hline : (offerCreated a selling buying liabilities addsTrustline).lines asset = some line) :
    line.available =
        a.availableOf asset - (if asset = selling then liabilities.selling.val else 0) ∧
      line.capacity = a.capacityOf asset (newLineLimit addsTrustline) -
        if asset = buying then liabilities.buying.val else 0 := by
  rw [lines_offerCreated, Option.map_eq_some_iff] at hline
  obtain ⟨before, hbefore, rfl⟩ := hline
  rw [available_offerLine, capacity_offerLine]
  cases hown : a.lines asset with
  | some own =>
    have hsame : before = own := by
      rw [hown, Option.getD_some] at hbefore
      split_ifs at hbefore <;> exact (Option.some_inj.mp hbefore).symm
    rw [hsame, LedgerAccount.availableOf_of_line hown, LedgerAccount.capacityOf_of_line hown]
    exact ⟨rfl, rfl⟩
  | none =>
    -- without a line of its own, the asset has one that is opened
    rw [hown, Option.getD_none] at hbefore
    split_ifs at hbefore with hopened
    obtain rfl := Option.some_inj.mp hbefore
    rw [LedgerAccount.availableOf_of_none hown, LedgerAccount.capacityOf_of_none hown,
      newLineLimit, if_pos hopened.1]
    simp [Line.available, Line.capacity]

/-- The account keeps the lines it has. -/
theorem exists_line_offerCreated (h : a.lines asset = some line) : ∃ line,
    (offerCreated a selling buying liabilities addsTrustline).lines asset = some line := by
  rw [lines_offerCreated, h]
  split_ifs <;> exact ⟨_, rfl⟩

/-- An asset without a line has none afterwards, or the one that is opened. -/
theorem lines_eq_none_of_offerCreated
    (hline : (offerCreated a selling buying liabilities addsTrustline).lines asset = none) :
    a.lines asset = none ∧ (asset = buying → addsTrustline = false) := by
  rw [lines_offerCreated, Option.map_eq_none_iff] at hline
  split_ifs at hline with hopened
  refine ⟨hline, fun hbuying => ?_⟩
  rw [not_and] at hopened
  exact Bool.not_eq_true _ ▸ fun hadds => hopened hadds hbuying

theorem minimum_offerCreated :
    (offerCreated a selling buying liabilities addsTrustline).minimum reserve =
      (a.addUnits (extraSubentries addsTrustline).val).minimum reserve := by
  have hunits : (extraSubentries addsTrustline).val = if addsTrustline then 2 else 1 := by
    cases addsTrustline <;> rfl
  rw [LedgerAccount.minimum, LedgerAccount.minimum, LedgerAccount.units_addUnits, hunits]
  congr 1
  cases addsTrustline <;> simp [offerCreated, add_assoc]

/-- Paying the fee leaves the reserve when what is available does. -/
theorem solvent_credit_iff : (a.credit .native (-charge)).Solvent .native reserve ↔
    ∃ line, a.lines .native = some line ∧ a.minimum reserve + charge ≤ line.available := by
  unfold LedgerAccount.Solvent
  constructor
  · rintro ⟨paid, hpaid, hle⟩
    obtain ⟨line, hline, rfl⟩ := Option.map_eq_some_iff.mp hpaid
    rw [if_pos rfl, Line.available_credit] at hle
    exact ⟨line, hline, le_add_neg_iff_add_le.mp hle⟩
  · rintro ⟨line, hline, hle⟩
    refine ⟨line.credit (-charge), ?_, ?_⟩
    · rw [LedgerAccount.lines_credit, hline, Option.map_some, if_pos rfl]
    · rw [Line.available_credit]
      exact le_add_neg_iff_add_le.mpr hle

/-- The reserve is left when the reserve, the fee and what the offer sells were
available before. -/
theorem solvent_offerCreated_iff (hminimum : 0 ≤ (a.addUnits
      (extraSubentries addsTrustline).val).minimum reserve) (hcharge : 0 < charge)
    (hselling : 0 ≤ liabilities.selling.val) :
    ((offerCreated a selling buying liabilities addsTrustline).credit .native
        (-charge)).Solvent .native reserve ↔
      (a.addUnits (extraSubentries addsTrustline).val).minimum reserve +
        (if selling.isNative then liabilities.selling.val else 0) + charge ≤
          a.availableOf .native := by
  have hsold : (if AssetId.native = selling then liabilities.selling.val else 0) =
      if selling.isNative then liabilities.selling.val else 0 := by
    by_cases hnative : selling.isNative = true
    · rw [if_pos hnative, if_pos (AssetId.isNative_iff.mp hnative).symm]
    · rw [if_neg hnative, if_neg fun h => hnative (AssetId.isNative_iff.mpr h.symm)]
  rw [solvent_credit_iff, minimum_offerCreated]
  constructor
  · rintro ⟨line, hline, hle⟩
    rw [(line_offerCreated hline).1, hsold] at hle
    omega
  · intro hle
    cases hnative : a.lines .native with
    | none =>
      rw [LedgerAccount.availableOf_of_none hnative] at hle
      split_ifs at hle <;> omega
    | some own =>
      obtain ⟨line, hline⟩ : ∃ line, (offerCreated a selling buying liabilities
          addsTrustline).lines .native = some line := exists_line_offerCreated hnative
      refine ⟨line, hline, ?_⟩
      rw [(line_offerCreated hline).1, hsold]
      omega

/-- An account in order has what the offer sells, whether it has a line of it or not. -/
theorem OfferFits.selling_le
    (h : OfferFits strKey accountId (offerCreated a selling buying liabilities addsTrustline)
      reserve charge selling buying)
    (hnone : NeedsNoLine strKey accountId (offerCreated a selling buying liabilities addsTrustline)
      liabilities selling buying)
    (hnative : selling.isNative = false) (hissuer : selling.issuerIs strKey accountId = false) :
    liabilities.selling.val ≤ a.availableOf selling := by
  cases hline : (offerCreated a selling buying liabilities addsTrustline).lines selling with
  | none =>
    have hzero := hnone.selling hissuer hline
    rw [LedgerAccount.availableOf_of_none (lines_eq_none_of_offerCreated hline).1]
    exact hzero.le
  | some line =>
    have hcov := h.covered selling (by simp) hissuer line (by
      rw [LedgerAccount.lines_credit, hline, Option.map_some, if_neg fun h => ?_]
      rw [AssetId.isNative_iff.mpr h] at hnative
      exact absurd hnative (by simp))
    have havailable := (line_offerCreated hline).1
    rw [if_pos rfl, Line.available] at havailable
    omega

/-- An account in order has room for what the offer buys, whether it has a line of it or not. -/
theorem OfferFits.buying_le
    (h : OfferFits strKey accountId (offerCreated a selling buying liabilities addsTrustline)
      reserve charge selling buying)
    (hnone : NeedsNoLine strKey accountId (offerCreated a selling buying liabilities addsTrustline)
      liabilities selling buying)
    (hissuer : buying.issuerIs strKey accountId = false) :
    liabilities.buying.val ≤ a.capacityOf buying (newLineLimit addsTrustline) := by
  cases hline : (offerCreated a selling buying liabilities addsTrustline).lines buying with
  | none =>
    have hzero := hnone.buying hissuer hline
    obtain ⟨hown, hadds⟩ := lines_eq_none_of_offerCreated hline
    rw [LedgerAccount.capacityOf_of_none hown, hadds rfl]
    exact hzero.le
  | some line =>
    have hroom := h.within buying (by simp) hissuer line hline
    have hcapacity := (line_offerCreated hline).2
    rw [if_pos rfl, Line.capacity] at hcapacity
    omega

/-- Every line covers what is offered of it, once the fee is paid. -/
theorem covered_offerCreated (hsound : ∀ asset line, a.lines asset = some line → line.Sound)
    (hminimum : 0 ≤ (a.addUnits (extraSubentries addsTrustline).val).minimum reserve)
    (hsolvent : ((offerCreated a selling buying liabilities addsTrustline).credit .native
      (-charge)).Solvent .native reserve)
    (hsold : selling.isNative = false → selling.issuerIs strKey accountId = false →
      liabilities.selling.val ≤ a.availableOf selling)
    (hissuer : asset.issuerIs strKey accountId = false)
    (hpaid : ((offerCreated a selling buying liabilities addsTrustline).credit .native
      (-charge)).lines asset = some line) : line.selling ≤ line.balance := by
  obtain ⟨own, hline, rfl⟩ := Option.map_eq_some_iff.mp hpaid
  have havailable := (line_offerCreated hline).1
  by_cases hnative : asset = .native
  · -- the native line covers the reserve even once the fee is paid
    subst hnative
    obtain ⟨native, hnativeLine, hle⟩ := solvent_credit_iff.mp hsolvent
    obtain rfl := Option.some_inj.mp (hline.symm.trans hnativeLine)
    rw [minimum_offerCreated] at hle
    rw [if_pos rfl]
    simp only [Line.credit, Line.available] at hle ⊢
    omega
  · rw [if_neg hnative]
    have hcovers : 0 ≤ own.available := by
      rw [havailable]
      -- only what is sold takes from a line other than the native one
      by_cases hsell : asset = selling
      · subst hsell
        have hle := hsold (Bool.eq_false_iff.mpr fun h => hnative (AssetId.isNative_iff.mp h))
          hissuer
        rw [if_pos rfl]
        omega
      · have hnonneg := LedgerAccount.availableOf_nonneg hsound asset
        rw [if_neg hsell]
        omega
    rw [Line.available] at hcovers
    omega

/-- Every line stays within its limit. -/
theorem within_offerCreated (hsound : ∀ asset line, a.lines asset = some line → line.Sound)
    (hbought : buying.issuerIs strKey accountId = false →
      liabilities.buying.val ≤ a.capacityOf buying (newLineLimit addsTrustline))
    (hissuer : asset.issuerIs strKey accountId = false)
    (hline : (offerCreated a selling buying liabilities addsTrustline).lines asset = some line) :
    line.balance + line.buying ≤ line.limit := by
  have hlimit : 0 ≤ newLineLimit addsTrustline := by cases addsTrustline <;> decide
  have hcapacity := (line_offerCreated hline).2
  have hroom : 0 ≤ line.capacity := by
    rw [hcapacity]
    by_cases hbuy : asset = buying
    · subst hbuy
      have hle := hbought hissuer
      rw [if_pos rfl]
      omega
    · have hnonneg := LedgerAccount.capacityOf_nonneg hsound hlimit asset
      rw [if_neg hbuy]
      omega
  rw [Line.capacity] at hroom
  omega

/-- Where a side has no line, nothing is available or can be received. -/
theorem needsNoLine_offerCreated
    (hminimum : 0 ≤ (a.addUnits (extraSubentries addsTrustline).val).minimum reserve)
    (hcharge : 0 < charge) (hselling : 0 ≤ liabilities.selling.val)
    (hbuying : 0 ≤ liabilities.buying.val)
    (hsolvent : (a.addUnits (extraSubentries addsTrustline).val).minimum reserve +
      (if selling.isNative then liabilities.selling.val else 0) + charge ≤ a.availableOf .native)
    (hsold : selling.isNative = false → selling.issuerIs strKey accountId = false →
      liabilities.selling.val ≤ a.availableOf selling)
    (hbought : buying.issuerIs strKey accountId = false →
      liabilities.buying.val ≤ a.capacityOf buying (newLineLimit addsTrustline)) :
    NeedsNoLine strKey accountId (offerCreated a selling buying liabilities addsTrustline)
      liabilities selling buying := by
  refine ⟨?_, ?_⟩
  · intro hissuer hline
    have hown := (lines_eq_none_of_offerCreated hline).1
    have hle : liabilities.selling.val ≤ a.availableOf selling := by
      by_cases hnative : selling.isNative = true
      · rw [AssetId.isNative_iff.mp hnative] at hown ⊢
        rw [LedgerAccount.availableOf_of_none hown] at hsolvent
        omega
      · exact hsold (Bool.eq_false_iff.mpr hnative) hissuer
    rw [LedgerAccount.availableOf_of_none hown] at hle
    omega
  · intro hissuer hline
    obtain ⟨hown, hadds⟩ := lines_eq_none_of_offerCreated hline
    have hle := hbought hissuer
    rw [LedgerAccount.capacityOf_of_none hown, hadds rfl] at hle
    exact le_antisymm hle hbuying

/-- The account is in order after the offer exactly under the inequalities that the
preflight checks. -/
theorem offerFits_iff (hsound : ∀ asset line, a.lines asset = some line → line.Sound)
    (hminimum : 0 ≤ (a.addUnits (extraSubentries addsTrustline).val).minimum reserve)
    (hcharge : 0 < charge) (hselling : 0 ≤ liabilities.selling.val)
    (hbuying : 0 ≤ liabilities.buying.val) :
    OfferFits strKey accountId (offerCreated a selling buying liabilities addsTrustline) reserve
          charge selling buying ∧
        NeedsNoLine strKey accountId (offerCreated a selling buying liabilities addsTrustline)
          liabilities selling buying ↔
      (a.addUnits (extraSubentries addsTrustline).val).minimum reserve +
          (if selling.isNative then liabilities.selling.val else 0) + charge ≤
            a.availableOf .native ∧
        (selling.isNative = false → selling.issuerIs strKey accountId = false →
          liabilities.selling.val ≤ a.availableOf selling) ∧
        (buying.issuerIs strKey accountId = false →
          liabilities.buying.val ≤ a.capacityOf buying (newLineLimit addsTrustline)) := by
  constructor
  · rintro ⟨hfits, hnone⟩
    have hsolvent := (solvent_offerCreated_iff hminimum hcharge hselling).mp hfits.solvent
    exact ⟨hsolvent, hfits.selling_le hnone, hfits.buying_le hnone⟩
  · rintro ⟨hsolvent, hsold, hbought⟩
    have hpaid : ((offerCreated a selling buying liabilities addsTrustline).credit .native
        (-charge)).Solvent .native reserve :=
      (solvent_offerCreated_iff hminimum hcharge hselling).mpr hsolvent
    refine ⟨⟨hpaid, ?_, ?_⟩, ?_⟩
    · intro asset _ hissuer line hline
      exact covered_offerCreated hsound hminimum hpaid hsold hissuer hline
    · intro asset _ hissuer line hline
      exact within_offerCreated hsound hbought hissuer hline
    · exact needsNoLine_offerCreated hminimum hcharge hselling hbuying hsolvent hsold hbought

/-! ### The preflight -/

/-- The preflight accepts a new offer exactly when it leaves the account in order and
promises nothing on a side without a line; where each side that the account does not
issue has a line, only the first matters. -/
theorem preflightCreate_iff (h : LedgerSnapshot strKey account) (hamount : 0 < amount.val)
    (hn : 0 < price.n.val) (hd : 0 < price.d.val) (hreserve : 0 ≤ baseReserve.val)
    (hfee : 0 < fee.val) (side : OfferSide) (selling buying : AssetId) (addsTrustline : Bool) :
    ∃ liabilities, offerLiabilities side amount price = .ok liabilities ∧
      (preflightCreate strKey account accountId side selling buying amount price baseReserve fee
          (extraSubentries addsTrustline) addsTrustline = .ok () ↔
        OfferFits strKey accountId (offerCreated (ledgerAccount strKey account) selling buying
          liabilities addsTrustline) baseReserve.val fee.val selling buying ∧
        NeedsNoLine strKey accountId (offerCreated (ledgerAccount strKey account) selling buying
          liabilities addsTrustline) liabilities selling buying) ∧
      ((∀ asset ∈ [selling, buying], asset.issuerIs strKey accountId = false →
          (offerCreated (ledgerAccount strKey account) selling buying liabilities
            addsTrustline).lines asset ≠ none) →
        (preflightCreate strKey account accountId side selling buying amount price baseReserve fee
            (extraSubentries addsTrustline) addsTrustline = .ok () ↔
          OfferFits strKey accountId (offerCreated (ledgerAccount strKey account) selling buying
            liabilities addsTrustline) baseReserve.val fee.val selling buying)) := by
  obtain ⟨liabilities, hliabilities, hselling, hbuying⟩ :=
    (offerLiabilities_total hamount.le hn hd : ∃ liabilities,
      offerLiabilities side amount price = .ok liabilities ∧ _)
  have hunits : 0 ≤ (extraSubentries addsTrustline).val := by cases addsTrustline <;> decide
  have hminimum : 0 ≤ ((ledgerAccount strKey account).addUnits
      (extraSubentries addsTrustline).val).minimum baseReserve.val :=
    mul_nonneg (add_nonneg h.units_nonneg hunits) hreserve
  have hiff : preflightCreate strKey account accountId side selling buying amount price baseReserve
      fee (extraSubentries addsTrustline) addsTrustline = .ok () ↔ _ :=
    (preflightCreate_eq_ok h hreserve hfee hliabilities).trans
      (offerFits_iff h.sound hminimum hfee hselling hbuying).symm
  refine ⟨liabilities, hliabilities, hiff, fun hlines => hiff.trans (and_iff_left ?_)⟩
  exact ⟨fun hissuer hnone => absurd hnone (hlines selling (by simp) hissuer),
    fun hissuer hnone => absurd hnone (hlines buying (by simp) hissuer)⟩

/-- Ten units are sold for an asset whose line is opened. -/
theorem preflightCreate_iff_opened : ∃ liabilities,
    offerLiabilities .sell (.lit 100000000) ⟨.lit 1, .lit 2⟩ = .ok liabilities ∧
      OfferFits Sep23.strKey "" (offerCreated (ledgerAccount Sep23.strKey
          (nativeAccount "100.0000000" "1.0000000")) .native .usdc liabilities true)
        5000000 200 .native .usdc := by
  obtain ⟨liabilities, hliabilities, hiff, -⟩ := preflightCreate_iff
    (LedgerSnapshot.nativeAccount_hundred Sep23.strKey) (by decide : 0 < (.lit 100000000 : I64).val)
    (by decide : 0 < (⟨.lit 1, .lit 2⟩ : Price).n.val) (by decide)
    (by decide : 0 ≤ (.lit 5000000 : I64).val) (by decide : 0 < (.lit 200 : I64).val) .sell .native
    .usdc true
  exact ⟨liabilities, hliabilities, (hiff.mp (by decide +kernel)).1⟩

def sponsoredRow : Json :=
  .object [("asset_type", .string "native"), ("balance", .string "2.0000000"),
    ("selling_liabilities", .string "0.0000000"), ("buying_liabilities", .string "0.0000000")]

/-- An account with as many entries as a counter can say, all of them sponsored. -/
def sponsoredAccount : Json :=
  .object [("subentry_count", .number (.posInt (.lit 9223372036854775807))),
    ("num_sponsored", .number (.posInt (.lit 9223372036854775807))),
    ("balances", .array [sponsoredRow])]

theorem soundRow_sponsoredRow : SoundRow sponsoredRow := by
  have hline : ledgerLine .native sponsoredRow = .ok ⟨20000000, 0, 0, 9223372036854775807⟩ := by
    decide +kernel
  exact ⟨fun _ => ⟨_, hline, by decide, by decide⟩, fun hcode => absurd rfl hcode⟩

/-- The ledger counts two units, and four once the offer and the line are there; the client
stops counting at the end of the range, takes the sponsored ones off, and accepts an offer
that leaves too little for the reserve. -/
theorem preflightCreate_below_reserve :
    accountBalances sponsoredAccount = some [sponsoredRow] ∧ SoundRow sponsoredRow ∧
      (ledgerAccount Sep23.strKey sponsoredAccount).units = 2 ∧
      preflightCreate Sep23.strKey sponsoredAccount "" .sell .native .usdc (.lit 9000000)
        ⟨.lit 1, .lit 1⟩ (.lit 5000000) (.lit 100) (extraSubentries true) true = .ok () ∧
      ∃ liabilities,
        offerLiabilities .sell (.lit 9000000) ⟨.lit 1, .lit 1⟩ = .ok liabilities ∧
        ¬ OfferFits Sep23.strKey "" (offerCreated (ledgerAccount Sep23.strKey sponsoredAccount)
          .native .usdc liabilities true) 5000000 100 .native .usdc := by
  refine ⟨rfl, soundRow_sponsoredRow, by decide +kernel, by decide +kernel,
    ⟨.lit 9000000, .lit 9000000⟩, by decide, fun hfits => ?_⟩
  -- a reserve of 20000000 for four units, an offer of 9000000 and the fee, out of 20000000
  have hneeds := (solvent_offerCreated_iff (by decide +kernel) (by decide) (by decide)).mp
    hfits.solvent
  exact absurd hneeds (by decide +kernel)

end Fresnica
