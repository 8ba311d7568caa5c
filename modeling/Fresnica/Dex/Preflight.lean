import Fresnica.Dex.Liabilities
import Fresnica.Horizon

/-!
# Preflight of offers

An offer is checked against a snapshot of the account before it is built. A new
offer takes a reserve unit, and another one if a trustline is added; an updated
one takes the place of the stored offer, whose liabilities are released first.

## Main definitions

* `availableBalance`, `receivingCapacity` — what the account can sell and receive
* `preflightCreate`, `preflightUpdate` — the checks

## Main results

* `availableBalance_eq`, `receivingCapacity_of_line` — both are read off the ledger account
* `futureMinimum_eq_ok` — the minimum balance with the units of the offer
-/

namespace Fresnica

open Foundation

namespace OfferSide

/-- The assets sold and bought, of a pair. -/
def assets (side : OfferSide) (base counter : AssetId) : AssetId × AssetId :=
  match side with
  | .buy => (counter, base)
  | .sell => (base, counter)

end OfferSide

def inferSide (selling buying base counter : AssetId) : Except String OfferSide :=
  if selling = base ∧ buying = counter then .ok .sell
  else if selling = counter ∧ buying = base then .ok .buy
  else .error "Offer update must keep the current market pair and BUY/SELL side"

def i64Max : I64 := .lit 9223372036854775807

def defaultTrustlineLimit : String := "708269837873.6765"

variable (strKey : StrKey) (account : Json) (accountId : String)

def availableBalance (asset : AssetId) : Except String I64 := do
  let balances ← okOr (accountBalances account) "Horizon returned malformed balance data"
  match balances.find? (asset.matchesBalance strKey) with
  | none => return .lit 0
  | some raw =>
    let balance ← balanceStroops raw "balance"
    let selling ← balanceStroops raw "selling_liabilities"
    return (balance.saturatingSub selling).max (.lit 0)

def receivingCapacity (asset : AssetId) (newTrustlineLimit : Option I64) : Except String I64 :=
  if asset.issuerIs strKey accountId then .ok i64Max
  else do
    let balances ← okOr (accountBalances account) "Horizon returned malformed balance data"
    let raw := balances.find? (asset.matchesBalance strKey)
    if asset.isNative then
      let raw ← okOr raw "Horizon returned no native balance"
      let balance ← balanceStroops raw "balance"
      let buying ← balanceStroops raw "buying_liabilities"
      let committed ← okOr (balance.checkedAdd buying) "native receiving capacity overflow"
      return i64Max.saturatingSub committed
    else
      match raw with
      | none => return newTrustlineLimit.getD (.lit 0)
      | some raw =>
        let limit ← balanceStroops raw "limit"
        let balance ← balanceStroops raw "balance"
        let buying ← balanceStroops raw "buying_liabilities"
        let committed ← okOr (balance.checkedAdd buying) "trustline receiving capacity overflow"
        return (limit.saturatingSub committed).max (.lit 0)

/-- The minimum balance with some more reserve units. -/
def futureMinimum (baseReserve extraSubentries : I64) : Except String I64 := do
  let extraReserve ← okOr (baseReserve.checkedMul extraSubentries) "offer reserve overflow"
  let minimum ← minimumBalanceStroops account baseReserve
  okOr (minimum.checkedAdd extraReserve) "offer reserve overflow"

/-- The selling side of a new offer, and the reserve and fee. -/
def ensureCreateSelling (selling : AssetId)
    (requiredSelling availableSelling futureMinimum fee : I64) :
    Except String Unit :=
  -- the native line pays for the sale, the reserve and the fee together
  if selling.isNative then do
    let required ← okOr (requiredSelling.checkedAdd futureMinimum >>= (·.checkedAdd fee))
      "offer requirement overflow"
    ensure (¬ required > availableSelling)
      s!"Insufficient XLM for offer: need {formatStroops required}, available {
        formatStroops availableSelling}"
  else do
    ensure (¬ (¬ selling.issuerIs strKey accountId ∧ requiredSelling > availableSelling))
      s!"Insufficient {selling.display strKey} for offer: need {
        formatStroops requiredSelling}, available {formatStroops availableSelling}"
    let availableNative ← availableBalance strKey account AssetId.native
    let requiredNative ← okOr (futureMinimum.checkedAdd fee) "offer XLM requirement overflow"
    ensure (¬ requiredNative > availableNative)
      s!"Insufficient XLM for offer reserve and fee: need {
        formatStroops requiredNative}, available {formatStroops availableNative}"

/-- The limit of the trustline that is added with the offer, if one is. -/
def newTrustlineLimit (addsTrustline : Bool) : Except String (Option I64) :=
  if addsTrustline then
    (okOr (parseStroops defaultTrustlineLimit true)
      "invalid Fresnica trustline policy limit").map some
  else .ok none

def preflightCreate (side : OfferSide) (selling buying : AssetId) (amount : I64) (price : Price)
    (baseReserve fee extraSubentries : I64) (addsTrustline : Bool) : Except String Unit := do
  let liabilities ← offerLiabilities side amount price
  let availableSelling ← availableBalance strKey account selling
  let futureMinimum ← futureMinimum account baseReserve extraSubentries
  ensureCreateSelling strKey account accountId selling liabilities.selling availableSelling
    futureMinimum fee
  let newTrustlineLimit ← newTrustlineLimit addsTrustline
  let receivingCapacity ← receivingCapacity strKey account accountId buying newTrustlineLimit
  ensure (¬ liabilities.buying > receivingCapacity)
    s!"Insufficient receiving capacity for {buying.display strKey}: need {
      formatStroops liabilities.buying}, available {formatStroops receivingCapacity}"

def ensureOfferFeeCapacity (baseReserve fee : I64) : Except String Unit := do
  let available ← availableBalance strKey account AssetId.native
  let minimum ← minimumBalanceStroops account baseReserve
  let free := (available.saturatingSub minimum).max (.lit 0)
  ensure (¬ free < fee)
    s!"Insufficient XLM for transaction fee: need {formatStroops fee}, available {
      formatStroops free}"

/-- The selling side of an updated offer. -/
def ensureUpdateSelling (selling : AssetId) (newSelling oldSelling baseReserve fee : I64) :
    Except String Unit :=
  if selling.issuerIs strKey accountId then .ok ⟨⟩
  else do
    -- the line still promises what the old offer sells, and the update releases it first
    let availableAfterRelease ← okOr
      ((← availableBalance strKey account selling).checkedAdd oldSelling)
      "offer selling capacity overflow"
    if selling.isNative then
      let minimum ← minimumBalanceStroops account baseReserve
      let required ← okOr (newSelling.checkedAdd minimum >>= (·.checkedAdd fee))
        "offer requirement overflow"
      ensure (¬ required > availableAfterRelease)
        s!"Insufficient XLM for offer update: need {formatStroops required}, available {
          formatStroops availableAfterRelease}"
    else
      ensure (¬ newSelling > availableAfterRelease)
        s!"Insufficient {selling.display strKey} for offer update: need {
          formatStroops newSelling}, available {formatStroops availableAfterRelease}"

def preflightUpdate (side : OfferSide) (selling buying : AssetId) (amount : I64) (price : Price)
    (oldAmount : I64) (oldPrice : Price) (baseReserve fee : I64) : Except String Unit := do
  ensureOfferFeeCapacity strKey account baseReserve fee
  let newLiabilities ← offerLiabilities side amount price
  let oldLiabilities ← offerLiabilities .sell oldAmount oldPrice
  ensureUpdateSelling strKey account accountId selling newLiabilities.selling
    oldLiabilities.selling baseReserve fee
  let receivingAfterRelease ← if buying.issuerIs strKey accountId then .ok i64Max
    else do
      let capacity ← receivingCapacity strKey account accountId buying none
      okOr (capacity.checkedAdd oldLiabilities.buying) "offer receiving capacity overflow"
  ensure (¬ newLiabilities.buying > receivingAfterRelease)
    s!"Insufficient receiving capacity for {buying.display strKey} offer update: need {
      formatStroops newLiabilities.buying}, available {formatStroops receivingAfterRelease}"

/-! ### What the account can sell and receive -/

variable {strKey} {account} {accountId} {asset : AssetId} {baseReserve : I64}

/-- What can be sold of an asset is what its line has available. -/
theorem availableBalance_eq (h : LedgerSnapshot strKey account) (asset : AssetId) :
    ∃ available, availableBalance strKey account asset = .ok available ∧
      available.val = (ledgerAccount strKey account).availableOf asset := by
  obtain ⟨balances, hbalances, hfind⟩ := h.balances_eq asset
  have hrow : availableBalance strKey account asset =
      match balanceRow strKey account asset with
      | none => .ok (.lit 0)
      | some raw => do
        let balance ← balanceStroops raw "balance"
        let selling ← balanceStroops raw "selling_liabilities"
        return (balance.saturatingSub selling).max (.lit 0) := by
    rw [availableBalance, hbalances, okOr, ok_bind, hfind]
    rfl
  cases hline : (ledgerAccount strKey account).lines asset with
  | none =>
    rw [hrow, h.balanceRow_eq_none hline, LedgerAccount.availableOf_of_none hline]
    exact ⟨_, rfl, rfl⟩
  | some line =>
    obtain ⟨raw, balance, selling, buying, limit, hraw, hreads, rfl⟩ := reads_of_line hline
    -- the balance covers the selling liabilities, so that nothing is clamped
    have hcovered := (h.sound asset _ hline).covered
    have hselling := balanceStroops_nonneg hreads.selling
    have hbalance := balance.le_hi
    rw [hrow, hraw, LedgerAccount.availableOf_of_line hline]
    refine ⟨(balance.saturatingSub selling).max (.lit 0), ?_, ?_⟩
    · simp only [hreads.balance, hreads.selling, ok_bind, pure_eq_ok]
    · simp (disch := decide) only [BoundedInt.val_max, BoundedInt.val_saturatingSub,
        BoundedInt.val_lit, Line.available]
      dsimp only at hcovered
      omega

variable {newTrustlineLimit : Option I64} {line : Line}

/-- An issuer receives its own asset without limit. -/
theorem receivingCapacity_of_issuer (hissuer : asset.issuerIs strKey accountId = true) :
    receivingCapacity strKey account accountId asset newTrustlineLimit = .ok i64Max :=
  if_pos hissuer

/-- What can be received on a line is its capacity. -/
theorem receivingCapacity_of_line (newTrustlineLimit : Option I64)
    (h : LedgerSnapshot strKey account) (hissuer : asset.issuerIs strKey accountId = false)
    (hline : (ledgerAccount strKey account).lines asset = some line) :
    ∃ capacity, receivingCapacity strKey account accountId asset newTrustlineLimit =
      .ok capacity ∧ capacity.val = line.capacity := by
  obtain ⟨balances, hbalances, hfind⟩ := h.balances_eq asset
  obtain ⟨raw, balance, selling, buying, limit, hraw, hreads, rfl⟩ := reads_of_line hline
  have hwithin := (h.sound asset _ hline).within
  dsimp only at hwithin
  have hbalance := balanceStroops_nonneg hreads.balance
  have hbuying := balanceStroops_nonneg hreads.buying
  have hlimit := limit.le_hi
  -- the committed amount is within the limit, so it does not overflow
  obtain ⟨committed, hcommitted, hval⟩ : ∃ committed : I64,
      BoundedInt.ofInt? (balance.val + buying.val) = some committed ∧
        committed.val = balance.val + buying.val := BoundedInt.exists_ofInt? (by omega)
  rw [receivingCapacity, if_neg (by simp [hissuer]), hbalances, okOr, ok_bind, hfind, hraw]
  have hreadLimit := hreads.limit
  by_cases hnative : asset.isNative = true
  · rw [if_pos hnative]
    rw [lineLimit, if_pos hnative] at hreadLimit
    obtain rfl := Except.ok.inj hreadLimit
    refine ⟨i64Max.saturatingSub committed, ?_, ?_⟩
    · simp only [okOr, ok_bind, hreads.balance, hreads.buying, BoundedInt.checkedAdd, hcommitted,
        pure_eq_ok]
    · simp (disch := decide) only [BoundedInt.val_saturatingSub, i64Max, BoundedInt.val_lit, hval,
        Line.capacity]
      omega
  · rw [if_neg hnative]
    rw [lineLimit, if_neg hnative] at hreadLimit
    refine ⟨(limit.saturatingSub committed).max (.lit 0), ?_, ?_⟩
    · simp only [okOr, ok_bind, hreadLimit, hreads.balance, hreads.buying, BoundedInt.checkedAdd,
        hcommitted, pure_eq_ok]
    · simp (disch := decide) only [BoundedInt.val_max, BoundedInt.val_saturatingSub,
        BoundedInt.val_lit, hval, Line.capacity]
      omega

/-- Without a line, only a line still to be opened can receive. -/
theorem receivingCapacity_of_none (h : LedgerSnapshot strKey account)
    (hissuer : asset.issuerIs strKey accountId = false)
    (hline : (ledgerAccount strKey account).lines asset = none) :
    receivingCapacity strKey account accountId asset newTrustlineLimit =
      if asset.isNative then .error "Horizon returned no native balance"
      else .ok (newTrustlineLimit.getD (.lit 0)) := by
  obtain ⟨balances, hbalances, hfind⟩ := h.balances_eq asset
  rw [receivingCapacity, if_neg (by simp [hissuer]), hbalances, okOr, ok_bind, hfind,
    h.balanceRow_eq_none hline]
  rfl

/-- An amount fits what can be received when the capacity of the line, or of the line
still to be opened, has room for it. -/
theorem le_receivingCapacity_iff (h : LedgerSnapshot strKey account) (accountId : String)
    (asset : AssetId) (newTrustlineLimit : Option I64) (amount : I64) :
    (∃ capacity, receivingCapacity strKey account accountId asset newTrustlineLimit =
        .ok capacity ∧ amount.val ≤ capacity.val) ↔
      (asset.issuerIs strKey accountId = false →
        (asset.isNative = true → (ledgerAccount strKey account).lines asset ≠ none) ∧
          amount.val ≤ (ledgerAccount strKey account).capacityOf asset
            (newTrustlineLimit.getD (.lit 0)).val) := by
  by_cases hissuer : asset.issuerIs strKey accountId = true
  · have hmax : amount.val ≤ i64Max.val := amount.le_hi
    simp [receivingCapacity_of_issuer hissuer, hissuer, hmax]
  rw [Bool.not_eq_true] at hissuer
  cases hline : (ledgerAccount strKey account).lines asset with
  | none =>
    rw [receivingCapacity_of_none h hissuer hline, LedgerAccount.capacityOf_of_none hline]
    by_cases hnative : asset.isNative = true <;> simp [hissuer, hnative]
  | some line =>
    obtain ⟨capacity, hcapacity, hval⟩ :=
      receivingCapacity_of_line newTrustlineLimit h hissuer hline
    simp only [hcapacity, Except.ok.injEq, exists_eq_left', hissuer, true_implies, ne_eq,
      reduceCtorEq, not_false_eq_true, implies_true, true_and,
      LedgerAccount.capacityOf_of_line hline, hval]

/-- The minimum balance with more units is the exact reserve of them, unless it
overflows. -/
theorem futureMinimum_eq_ok {minimum : I64} {extraSubentries : I64}
    (h : LedgerSnapshot strKey account) (hreserve : 0 ≤ baseReserve.val)
    (hextra : 0 ≤ extraSubentries.val) :
    futureMinimum account baseReserve extraSubentries = .ok minimum ↔
      minimum.val =
        ((ledgerAccount strKey account).addUnits extraSubentries.val).minimum baseReserve.val := by
  have hunits := mul_nonneg h.units_nonneg hreserve
  have hmul := mul_nonneg hreserve hextra
  simp only [futureMinimum, bind_eq_ok, okOr_eq_ok, BoundedInt.checkedMul, BoundedInt.checkedAdd,
    h.minimumBalanceStroops_eq, BoundedInt.ofInt?_eq_some_iff, LedgerAccount.minimum,
    LedgerAccount.units_addUnits, add_mul]
  rw [mul_comm extraSubentries.val]
  constructor
  · rintro ⟨extra, hextraVal, current, hcurrent, hsum⟩
    rw [hsum, hcurrent, hextraVal]
  · intro hsum
    have hle := minimum.le_hi
    obtain ⟨extra, -, hextraVal⟩ : ∃ extra : I64, BoundedInt.ofInt? (baseReserve.val *
        extraSubentries.val) = some extra ∧ _ := BoundedInt.exists_ofInt? (by omega)
    obtain ⟨current, -, hcurrent⟩ : ∃ current : I64, BoundedInt.ofInt?
        ((ledgerAccount strKey account).units * baseReserve.val) = some current ∧ _ :=
      BoundedInt.exists_ofInt? (by omega)
    exact ⟨extra, hextraVal, current, hcurrent, by omega⟩

end Fresnica
