import Fresnica.Dex.Create
import Fresnica.Dex.Price
import Fresnica.Dex.Update
import Fresnica.Python.Snapshot

/-!
# Offers in the Python reference

The offer service computes with unbounded integers what the Rust client computes with
integers of 32, 64 and 128 bits. On accounts of the ledger both encode the same prices,
promise the same amounts, and accept the same new and updated offers, except that the
client refuses an update without a fee where the reserve is out of range.

## Main definitions

* `PriceRatio`, `stellarPriceRatio` — the price
* `offerLiabilities` — what an offer promises
* `preflightNewOffer`, `preflightUpdateOffer` — the checks
* `OfferSnapshot` — an account of the ledger, as Horizon writes it

## Main results

* `stellarPriceRatio_agrees`, `offerLiabilities_agrees` — the same numbers
* `preflightNewOffer_agrees`, `preflightUpdateOffer_agrees` — the same offers are accepted
-/

namespace Fresnica.Python.OfferService

open Foundation

/-- An exact price fraction. -/
structure PriceRatio where
  n : ℤ
  d : ℤ
  n_pos : 0 < n
  d_pos : 0 < d

def PriceRatio.new (n d : ℤ) : Except ServiceError PriceRatio :=
  if h : 0 < n ∧ 0 < d then .ok ⟨n, d, h.1, h.2⟩ else .error .malformed

/-- A user-facing market orientation. -/
structure MarketPair where
  base : Asset
  counter : Asset

/-- The amount is in stroops of the base asset. -/
structure OfferIntent where
  pair : MarketPair
  side : OfferSide
  amount : ℤ

/-- A stored offer; the amount is in stroops. -/
structure OpenOffer where
  sellingAmount : ℤ
  priceR : PriceRatio

def sellingAsset (intent : OfferIntent) : Asset :=
  match intent.side with
  | .buy => intent.pair.counter
  | .sell => intent.pair.base

def buyingAsset (intent : OfferIntent) : Asset :=
  match intent.side with
  | .buy => intent.pair.base
  | .sell => intent.pair.counter

/-! ### The service -/

/-- The loop over the convergents. -/
def searchPriceRatio (s : PriceSearch) : PriceSearch :=
  if s.numerator > s.denominator * int32Max then s
  else
    let coefficient := s.numerator / s.denominator
    let nextN := coefficient * s.currentN + s.previousN
    let nextD := coefficient * s.currentD + s.previousD
    if nextN > int32Max ∨ nextD > int32Max then s
    else if h : s.numerator % s.denominator = 0 then s.take nextN nextD
    else searchPriceRatio ((s.take nextN nextD).reduce h)
termination_by s.denominator.toNat
decreasing_by exact PriceSearch.denominator_reduce_lt _ h

/-- The best fraction, once one with a part that is zero is replaced. -/
def recoverPriceRatio (s : PriceSearch) : ℤ × ℤ :=
  if s.bestN ≤ 0 ∨ s.bestD ≤ 0 then
    let coefficient := recoveryCoefficient s
    if coefficient ≥ 1 then
      let recoveredN := coefficient * s.currentN + s.previousN
      let recoveredD := coefficient * s.currentD + s.previousD
      if (0 < recoveredN ∧ recoveredN ≤ int32Max) ∧ 0 < recoveredD ∧ recoveredD ≤ int32Max then
        (recoveredN, recoveredD)
      else (s.bestN, s.bestD)
    else (s.bestN, s.bestD)
  else (s.bestN, s.bestD)

/-- The fraction of a price in stroops. -/
def stellarPriceRatio (price : ℤ) (hprice : 0 < price) : Except ServiceError PriceRatio := do
  let (bestN, bestD) := recoverPriceRatio (searchPriceRatio (.start price hprice))
  ensure (¬ (bestN ≤ 0 ∨ bestD ≤ 0)) (.invalidAmount noPriceApproximation)
  PriceRatio.new bestN bestD

def ceilDiv (numerator denominator : ℤ) : Except ServiceError ℤ := do
  ensure (¬ (numerator < 0 ∨ denominator ≤ 0)) (.transaction "Invalid offer liability division")
  return (numerator + denominator - 1) / denominator

def int64Max : ℤ := 9223372036854775807

def exchangeV10NormalLiabilities (priceN priceD maxWheatSend maxSheepReceive : ℤ) :
    Except ServiceError (ℤ × ℤ) := do
  ensure (¬ (priceN ≤ 0 ∨ priceD ≤ 0 ∨ maxWheatSend < 0 ∨ maxSheepReceive < 0))
    (.transaction "Invalid offer liability inputs")
  let wheatValue := min (maxWheatSend * priceN) (maxSheepReceive * priceD)
  let sheepValue := min (int64Max * priceD) (int64Max * priceN)
  if wheatValue > sheepValue then
    if priceN > priceD then
      let wheatReceive := sheepValue / priceN
      let sheepSend ← ceilDiv (wheatReceive * priceN) priceD
      return (wheatReceive, sheepSend)
    else
      let sheepSend := sheepValue / priceD
      return (sheepSend * priceD / priceN, sheepSend)
  else if priceN > priceD then
    let wheatReceive := wheatValue / priceN
    return (wheatReceive, wheatReceive * priceN / priceD)
  else
    let sheepSend := wheatValue / priceD
    let wheatReceive ← ceilDiv (sheepSend * priceD) priceN
    return (wheatReceive, sheepSend)

def offerLiabilities (side : OfferSide) (amount : ℤ) (priceR : PriceRatio) :
    Except ServiceError (ℤ × ℤ) :=
  match side with
  | .sell => exchangeV10NormalLiabilities priceR.n priceR.d amount int64Max
  | .buy => exchangeV10NormalLiabilities priceR.d priceR.n int64Max amount

def findBalance (account : Json) (asset : Asset) : Option Json :=
  ((accountBalances account).getD []).find? fun raw =>
    if asset.isNative then text raw "asset_type" = some "native"
    else text raw "asset_code" = some asset.code ∧ text raw "asset_issuer" = asset.issuer

/-- An amount of a row; one that cannot be read is zero. -/
def decimalStroops (raw : Json) (field : String) : ℤ := (amount? raw field).getD 0

def availableBalanceStroops (raw : Option Json) : ℤ :=
  match raw with
  | none => 0
  | some raw => max (decimalStroops raw "balance" - decimalStroops raw "selling_liabilities") 0

def receivingCapacityStroops (account : Json) (asset : Asset) (accountId : String)
    (newTrustlineLimit : Option ℤ) : Except ServiceError ℤ :=
  if ¬ asset.isNative ∧ asset.issuer = some accountId then .ok int64Max
  else
    let raw := findBalance account asset
    if asset.isNative then do
      let raw ← okOr raw (.transaction "Horizon returned no native balance")
      return max (int64Max - decimalStroops raw "balance" -
        decimalStroops raw "buying_liabilities") 0
    else
      match raw with
      | none => .ok (newTrustlineLimit.getD 0)
      | some raw => .ok (max (decimalStroops raw "limit" - decimalStroops raw "balance" -
          decimalStroops raw "buying_liabilities") 0)

/-- The reserve of the units of an account and some more. -/
def reserveStroops (account : Json) (extraSubentries baseReserveStroops : ℤ) :
    Except ServiceError ℤ := do
  let units ← okOr (unitSum? account) .malformed
  return max (units + extraSubentries) 0 * baseReserveStroops

/-- What is required of a native balance beside the amount sold. -/
def nativeRequirement (account : Json) (selling : Asset)
    (extraSubentries baseReserveStroops feeStroops : ℤ) : Except ServiceError ℤ :=
  if selling.isNative then do
    let reserve ← reserveStroops account extraSubentries baseReserveStroops
    return reserve + feeStroops
  else .ok 0

def accountIdOf (account : Json) : String := (text account "account_id").getD ""

/-- The limit of trustlines that are added with an offer, in stroops. -/
def fresnicaTrustlineLimit : ℤ := 7082698378736765000

/-- The selling side of an offer, unless the account issues the asset. -/
def ensureSelling (account : Json) (accountId : String) (selling : Asset)
    (sold available extraSubentries baseReserveStroops feeStroops : ℤ) :
    Except ServiceError Unit :=
  if selling.isNative ∨ selling.issuer ≠ some accountId then do
    let reserve ←
      nativeRequirement account selling extraSubentries baseReserveStroops feeStroops
    let requiredSelling := sold + reserve
    ensure (¬ requiredSelling > available)
      (.insufficientBalance selling.display requiredSelling available)
  else .ok ⟨⟩

/-- The reserve and the fee of an offer that sells an issued asset. -/
def ensureNativeReserve (account : Json) (selling : Asset)
    (extraSubentries baseReserveStroops feeStroops : ℤ) : Except ServiceError Unit :=
  if ¬ selling.isNative then do
    let availableNative := availableBalanceStroops (findBalance account .xlm)
    let reserve ← reserveStroops account extraSubentries baseReserveStroops
    let requiredNative := reserve + feeStroops
    ensure (¬ requiredNative > availableNative)
      (.insufficientBalance "XLM" requiredNative availableNative)
  else .ok ⟨⟩

def preflightNewOffer (account : Json) (intent : OfferIntent) (priceR : PriceRatio)
    (baseReserveStroops feeStroops extraSubentries : ℤ) (addsTrustline : Bool) :
    Except ServiceError Unit := do
  let selling := sellingAsset intent
  let buying := buyingAsset intent
  let liabilities ← offerLiabilities intent.side intent.amount priceR
  let accountId := accountIdOf account
  let availableSelling := availableBalanceStroops (findBalance account selling)
  ensureSelling account accountId selling liabilities.1 availableSelling extraSubentries
    baseReserveStroops feeStroops
  ensureNativeReserve account selling extraSubentries baseReserveStroops feeStroops
  let newLimit := if addsTrustline then some fresnicaTrustlineLimit else none
  let receiveCapacity ← receivingCapacityStroops account buying accountId newLimit
  ensure (¬ liabilities.2 > receiveCapacity)
    (.insufficientBalance buying.display liabilities.2 receiveCapacity)

def ensureOfferFeeCapacity (account : Json) (baseReserveStroops feeStroops : ℤ) :
    Except ServiceError Unit := do
  let native := findBalance account .xlm
  let reserve ← reserveStroops account 0 baseReserveStroops
  let free := max (availableBalanceStroops native - reserve) 0
  ensure (¬ free < feeStroops) (.insufficientBalance "XLM" feeStroops free)

/-- What can be received once the stored offer is released. -/
def receiveAfterRelease (account : Json) (buying : Asset) (accountId : String) (released : ℤ) :
    Except ServiceError ℤ :=
  if buying.issuer = some accountId then .ok int64Max
  else do
    let capacity ← receivingCapacityStroops account buying accountId none
    return capacity + released

def preflightUpdateOffer (account : Json) (intent : OfferIntent) (priceR : PriceRatio)
    (offer : OpenOffer) (baseReserveStroops feeStroops : ℤ) : Except ServiceError Unit := do
  let selling := sellingAsset intent
  let buying := buyingAsset intent
  let accountId := accountIdOf account
  ensureOfferFeeCapacity account baseReserveStroops feeStroops
  let newLiabilities ← offerLiabilities intent.side intent.amount priceR
  let oldLiabilities ← offerLiabilities .sell offer.sellingAmount offer.priceR
  let availableAfterRelease :=
    availableBalanceStroops (findBalance account selling) + oldLiabilities.1
  ensureSelling account accountId selling newLiabilities.1 availableAfterRelease 0
    baseReserveStroops feeStroops
  let receiveAfterRelease ← receiveAfterRelease account buying accountId oldLiabilities.2
  ensure (¬ newLiabilities.2 > receiveAfterRelease)
    (.insufficientBalance buying.display newLiabilities.2 receiveAfterRelease)

/-! ### The price -/

variable {price : ℤ} {s : PriceSearch}

/-- Both loops find the same fraction. -/
theorem searchPrice_eq_searchPriceRatio (hs : s.Bounded) :
    searchPrice s = .ok (searchPriceRatio s) ∧ (searchPriceRatio s).Bounded := by
  -- one case for each exit of the search, and one for its next step
  induction s using searchPriceRatio.induct with
  | case1 s hlarge =>
    rw [searchPrice_of_bounded hs, searchPriceRatio, if_pos hlarge, if_pos hlarge]
    exact ⟨rfl, hs⟩
  | case2 s hlarge coefficient nextN nextD hout =>
    rw [searchPrice_of_bounded hs, searchPriceRatio, if_neg hlarge, if_neg hlarge]
    simp only
    rw [if_pos hout, if_pos hout]
    exact ⟨rfl, hs⟩
  | case3 s hlarge coefficient nextN nextD hin hdivides =>
    rw [searchPrice_of_bounded hs, searchPriceRatio, if_neg hlarge, if_neg hlarge]
    simp only
    rw [if_neg hin, if_neg hin, dif_pos hdivides, dif_pos hdivides]
    exact ⟨rfl, hs.take (s.quotient_bounds hlarge).1 hin⟩
  | case4 s hlarge coefficient nextN nextD hin hrest ih =>
    have htake := hs.take (s.quotient_bounds hlarge).1 hin
    obtain ⟨hsame, hbounded⟩ := ih (PriceSearch.bounded_reduce.mpr htake)
    rw [searchPrice_of_bounded hs, searchPriceRatio, if_neg hlarge, if_neg hlarge]
    simp only
    rw [if_neg hin, if_neg hin, dif_neg hrest, dif_neg hrest]
    exact ⟨hsame, hbounded⟩

/-- Both fall back on the same fraction. -/
theorem recoverPrice_eq_recoverPriceRatio (hs : s.Bounded) :
    recoverPrice s = .ok (recoverPriceRatio s) := by
  rw [recoverPrice_of_bounded hs, recoverPriceRatio]
  have hparts : ∀ n d : ℤ, (n > 0 ∧ d > 0 ∧ n ≤ int32Max ∧ d ≤ int32Max) ↔
      (0 < n ∧ n ≤ int32Max) ∧ 0 < d ∧ d ≤ int32Max := fun n d =>
    ⟨fun ⟨hn, hd, hn_le, hd_le⟩ => ⟨⟨hn, hn_le⟩, hd, hd_le⟩,
      fun ⟨⟨hn, hn_le⟩, hd, hd_le⟩ => ⟨hn, hd, hn_le, hd_le⟩⟩
  simp only [hparts]

/-- The fraction that is found fits. -/
theorem recoverPriceRatio_le (hs : s.Bounded) :
    (recoverPriceRatio s).1 ≤ int32Max ∧ (recoverPriceRatio s).2 ≤ int32Max := by
  have hbest : s.bestN ≤ int32Max ∧ s.bestD ≤ int32Max := by
    rw [hs.best.1, hs.best.2]
    exact ⟨hs.currentN.2, hs.currentD.2⟩
  unfold recoverPriceRatio
  dsimp only
  split_ifs with _ _ hfits
  · exact ⟨hfits.1.2, hfits.2.2⟩
  · exact hbest
  · exact hbest
  · exact hbest

/-- Both encode a price as the same fraction, or neither encodes it. -/
theorem stellarPriceRatio_agrees {priceStroops : I64} (hprice : 0 < priceStroops.val) (n d : ℤ) :
    (∃ price, stellarPrice priceStroops hprice = .ok price ∧ price.n.val = n ∧ price.d.val = d) ↔
      ∃ ratio, stellarPriceRatio priceStroops.val hprice = .ok ratio ∧ ratio.n = n ∧
        ratio.d = d := by
  obtain ⟨hsearch, hbounded⟩ :=
    searchPrice_eq_searchPriceRatio (PriceSearch.bounded_start hprice)
  have hfits := recoverPriceRatio_le hbounded
  rw [stellarPrice, hsearch, ok_bind, recoverPrice_eq_recoverPriceRatio hbounded, ok_bind,
    stellarPriceRatio]
  generalize recoverPriceRatio (searchPriceRatio (.start priceStroops.val hprice)) = best at hfits
  obtain ⟨bestN, bestD⟩ := best
  dsimp only at hfits ⊢
  by_cases hpositive : bestN ≤ 0 ∨ bestD ≤ 0
  · simp only [ensure, if_neg (not_not.mpr hpositive), error_bind, reduceCtorEq, false_and,
      exists_false]
  · have hboth : 0 < bestN ∧ 0 < bestD := by omega
    norm_num [int32Max] at hfits
    obtain ⟨encodedN, hofN, hvalN⟩ : ∃ encoded : I32, BoundedInt.ofInt? bestN = some encoded ∧
        encoded.val = bestN := BoundedInt.exists_ofInt? (by omega)
    obtain ⟨encodedD, hofD, hvalD⟩ : ∃ encoded : I32, BoundedInt.ofInt? bestD = some encoded ∧
        encoded.val = bestD := BoundedInt.exists_ofInt? (by omega)
    simp only [ensure, if_pos hpositive, ok_bind, hofN, hofD, okOr, pure_eq_ok, Except.ok.injEq,
      exists_eq_left', hvalN, hvalD, PriceRatio.new, dif_pos hboth]

/-! ### What an offer promises -/

variable {side : OfferSide} {amount : I64} {clientPrice : Price} {priceR : PriceRatio}

theorem ceilDiv_of_client {a b c : ℤ} (h : Fresnica.ceilDiv a b = .ok c) : ceilDiv a b = .ok c := by
  simp only [Fresnica.ceilDiv, bind_eq_ok, ensure_eq_ok, okOr_eq_ok, pure_eq_ok,
    Except.ok.injEq] at h
  obtain ⟨_, hinputs, value, hvalue, rfl⟩ := h
  rw [ceilDiv, ensure, if_pos hinputs, ok_bind, BoundedInt.ofInt?_eq_some_iff.mp hvalue,
    add_sub_assoc]
  rfl

/-- The amounts that the client exchanges are those of the service. -/
theorem exchangeV10NormalLiabilities_of_client {n d : I32} {send receive selling buying : I64}
    (h : Fresnica.exchangeV10NormalLiabilities n d send receive = .ok (selling, buying)) :
    exchangeV10NormalLiabilities n.val d.val send.val receive.val =
      .ok (selling.val, buying.val) := by
  simp only [Fresnica.exchangeV10NormalLiabilities, bind_eq_ok, ensure_eq_ok, okOr_eq_ok,
    pure_eq_ok, Except.ok.injEq, Prod.mk.injEq] at h
  obtain ⟨_, hinputs, ⟨wheat, sheep⟩, hexchange, _, hselling, _, hbuying, rfl, rfl⟩ := h
  rw [BoundedInt.ofInt?_eq_some_iff.mp hselling, BoundedInt.ofInt?_eq_some_iff.mp hbuying]
  rw [exchangeV10NormalLiabilities, ensure, if_pos hinputs, ok_bind]
  unfold exchangedAmounts at hexchange
  dsimp only [int64Max] at hexchange ⊢
  split_ifs at hexchange ⊢
  · obtain ⟨sheep, hsheep, hpair⟩ := bind_eq_ok.mp hexchange
    rw [ceilDiv_of_client hsheep]
    exact congrArg Except.ok (Except.ok.inj hpair)
  · exact congrArg Except.ok (Except.ok.inj hexchange)
  · exact congrArg Except.ok (Except.ok.inj hexchange)
  · obtain ⟨wheat, hwheat, hpair⟩ := bind_eq_ok.mp hexchange
    rw [ceilDiv_of_client hwheat]
    exact congrArg Except.ok (Except.ok.inj hpair)

/-- The fraction of a client's price. -/
def PriceRatio.Of (priceR : PriceRatio) (price : Price) : Prop :=
  priceR.n = price.n.val ∧ priceR.d = price.d.val

/-- An offer promises the same for both. -/
theorem offerLiabilities_of_client (hprice : priceR.Of clientPrice) {liabilities : OfferLiabilities}
    (h : Fresnica.offerLiabilities side amount clientPrice = .ok liabilities) :
    offerLiabilities side amount.val priceR =
      .ok (liabilities.selling.val, liabilities.buying.val) := by
  have hmax : (.lit 9223372036854775807 : I64).val = int64Max := by decide
  unfold offerLiabilities
  rw [hprice.1, hprice.2, ← hmax]
  cases side with
  | sell =>
    obtain ⟨⟨selling, buying⟩, hexchange, hpair⟩ := bind_eq_ok.mp h
    obtain rfl := Except.ok.inj hpair
    exact exchangeV10NormalLiabilities_of_client hexchange
  | buy =>
    obtain ⟨⟨selling, buying⟩, hexchange, hpair⟩ := bind_eq_ok.mp h
    obtain rfl := Except.ok.inj hpair
    exact exchangeV10NormalLiabilities_of_client hexchange

/-- An amount that is not negative has liabilities for both, and any other for neither. -/
theorem offerLiabilities_agrees (hprice : priceR.Of clientPrice) (sold bought : ℤ) :
    (∃ liabilities, Fresnica.offerLiabilities side amount clientPrice = .ok liabilities ∧
        liabilities.selling.val = sold ∧ liabilities.buying.val = bought) ↔
      offerLiabilities side amount.val priceR = .ok (sold, bought) := by
  constructor
  · rintro ⟨liabilities, hliabilities, rfl, rfl⟩
    exact offerLiabilities_of_client hprice hliabilities
  · intro h
    have hamount : 0 ≤ amount.val := by
      by_contra hnegative
      cases side <;>
      · have hinputs := (ensure_bind_eq_ok.mp h).1
        omega
    obtain ⟨liabilities, hliabilities, -⟩ :
        ∃ liabilities, Fresnica.offerLiabilities side amount clientPrice = .ok liabilities ∧ _ :=
      offerLiabilities_total hamount (hprice.1 ▸ priceR.n_pos) (hprice.2 ▸ priceR.d_pos)
    have hsame := (offerLiabilities_of_client hprice hliabilities).symm.trans h
    obtain ⟨hsold, hbought⟩ := Prod.mk.injEq .. ▸ Except.ok.inj hsame
    exact ⟨liabilities, hliabilities, hsold, hbought⟩

/-- An offer without liabilities for the client has none for the service. -/
theorem offerLiabilities_error (hprice : priceR.Of clientPrice) {message : String}
    (h : Fresnica.offerLiabilities side amount clientPrice = .error message) :
    ∃ refusal, offerLiabilities side amount.val priceR = .error refusal := by
  refine ne_ok_iff_exists_error.mp ?_
  rintro ⟨sold, bought⟩ hpair
  obtain ⟨_, hok, -⟩ := (offerLiabilities_agrees hprice sold bought).mpr hpair
  exact absurd (h.symm.trans hok) (by simp)

/-! ### What an account can sell and receive -/

/-- An account of the ledger, as Horizon writes it: its amounts are texts, its counters
are integers, and it has an address. -/
structure OfferSnapshot (strKey : StrKey) (account : Json) (accountId : String) : Prop where
  ledger : LedgerSnapshot strKey account
  texts : ∀ asset raw, balanceRow strKey account asset = some raw →
    ∀ field ∈ ["balance", "selling_liabilities", "buying_liabilities", "limit"],
      TextMember raw field
  integers : IntegerCounters account
  account_id : text account "account_id" = some accountId

variable {strKey : StrKey} {account : Json} {accountId : String} {asset : AssetId}

namespace OfferSnapshot

variable (h : OfferSnapshot strKey account accountId)
include h

/-- Both find the same row. -/
theorem findBalance_ofId :
    findBalance account (Asset.ofId strKey asset) = balanceRow strKey account asset := by
  obtain ⟨rows, hrows⟩ := h.ledger.balances
  rw [findBalance, balanceRow, hrows, Option.getD_some, Option.bind_eq_bind, Option.bind_some]
  obtain ⟨xdr, wellFormed⟩ := asset
  cases xdr with
  | native =>
    simp only [Asset.isNative_ofId]
    rfl
  | creditAlphanum4 assetCode issuer | creditAlphanum12 assetCode issuer =>
    simp only [Asset.isNative_ofId]
    rfl

/-- The amounts of a row that is found are read alike. -/
theorem decimalStroops_eq {raw : Json} {field : String} {amount : I64}
    (hraw : balanceRow strKey account asset = some raw)
    (hfield : field ∈ ["balance", "selling_liabilities", "buying_liabilities", "limit"])
    (hamount : balanceStroops raw field = .ok amount) :
    decimalStroops raw field = amount.val := by
  rw [decimalStroops, amount?_of_balanceStroops hamount (h.texts asset raw hraw field hfield),
    Option.getD_some]

theorem availableBalanceStroops_eq :
    availableBalanceStroops (findBalance account (Asset.ofId strKey asset)) =
      (ledgerAccount strKey account).availableOf asset := by
  rw [h.findBalance_ofId]
  cases hline : (ledgerAccount strKey account).lines asset with
  | none =>
    rw [h.ledger.balanceRow_eq_none hline, LedgerAccount.availableOf_of_none hline,
      availableBalanceStroops]
  | some line =>
    obtain ⟨raw, balance, selling, buying, limit, hraw, hreads, rfl⟩ := reads_of_line hline
    have hcovered := (h.ledger.sound asset _ hline).covered
    dsimp only at hcovered
    simp only [hraw, LedgerAccount.availableOf_of_line hline, availableBalanceStroops,
      Line.available, h.decimalStroops_eq hraw (by simp) hreads.balance,
      h.decimalStroops_eq hraw (by simp) hreads.selling]
    omega

/-- What can be received of an asset, where a native asset has a row. -/
theorem receivingCapacityStroops_eq (hissuer : asset.issuerIs strKey accountId = false)
    (hnative : asset.isNative = true → (ledgerAccount strKey account).lines asset ≠ none)
    (newTrustlineLimit : Option ℤ) :
    receivingCapacityStroops account (Asset.ofId strKey asset) accountId newTrustlineLimit =
      .ok ((ledgerAccount strKey account).capacityOf asset (newTrustlineLimit.getD 0)) := by
  unfold receivingCapacityStroops
  simp only [Asset.isNative_ofId, Asset.issuer_ofId, h.findBalance_ofId]
  rw [if_neg (by simp [hissuer])]
  cases hline : (ledgerAccount strKey account).lines asset with
  | none =>
    have hissued : ¬ asset.isNative = true := fun htrue => hnative htrue hline
    rw [h.ledger.balanceRow_eq_none hline, LedgerAccount.capacityOf_of_none hline, if_neg hissued]
  | some line =>
    obtain ⟨raw, balance, selling, buying, limit, hraw, hreads, rfl⟩ := reads_of_line hline
    -- within the limit the difference is not negative, so that nothing is clamped
    have hwithin := (h.ledger.sound asset _ hline).within
    have hreadLimit := hreads.limit
    have hbalance := h.decimalStroops_eq hraw (by simp) hreads.balance
    have hbuying := h.decimalStroops_eq hraw (by simp) hreads.buying
    dsimp only at hwithin
    rw [hraw, LedgerAccount.capacityOf_of_line hline, Line.capacity]
    by_cases hnative : asset.isNative = true
    · rw [lineLimit, if_pos hnative] at hreadLimit
      obtain rfl := Except.ok.inj hreadLimit
      have hmax : (.lit 9223372036854775807 : I64).val = int64Max := by decide
      rw [hmax] at hwithin ⊢
      rw [if_pos hnative, okOr, ok_bind, hbalance, hbuying, max_eq_left (by omega), sub_sub]
      rfl
    · rw [lineLimit, if_neg hnative] at hreadLimit
      rw [if_neg hnative]
      simp only [h.decimalStroops_eq hraw (by simp) hreadLimit, hbalance, hbuying]
      rw [max_eq_left (by omega), sub_sub]

/-- Without a native row nothing can be received. -/
theorem receivingCapacityStroops_native (hnative : asset.isNative = true)
    (hline : (ledgerAccount strKey account).lines asset = none) (newTrustlineLimit : Option ℤ) :
    receivingCapacityStroops account (Asset.ofId strKey asset) accountId newTrustlineLimit =
      .error (.transaction "Horizon returned no native balance") := by
  unfold receivingCapacityStroops
  rw [Asset.isNative_ofId, if_neg (by simp [hnative]), h.findBalance_ofId,
    h.ledger.balanceRow_eq_none hline]
  simp [hnative, okOr]

/-- What fits is what fits for the client. -/
theorem le_receivingCapacityStroops_iff {newTrustlineLimit : Option ℤ} {amount : ℤ}
    (hamount : amount ≤ 9223372036854775807) :
    (∃ capacity, receivingCapacityStroops account (Asset.ofId strKey asset) accountId
        newTrustlineLimit = .ok capacity ∧ amount ≤ capacity) ↔
      (asset.issuerIs strKey accountId = false →
        (asset.isNative = true → (ledgerAccount strKey account).lines asset ≠ none) ∧
          amount ≤ (ledgerAccount strKey account).capacityOf asset
            (newTrustlineLimit.getD 0)) := by
  by_cases hissuer : asset.issuerIs strKey accountId = true
  · have hnative := AssetId.not_isNative_of_issuerIs hissuer
    rw [receivingCapacityStroops, if_pos ⟨by simp [Asset.isNative_ofId, hnative],
      Asset.issuer_ofId.mpr hissuer⟩]
    simp [hissuer, int64Max, hamount]
  rw [Bool.not_eq_true] at hissuer
  simp only [hissuer, true_implies]
  by_cases hrow : asset.isNative = true → (ledgerAccount strKey account).lines asset ≠ none
  · simp only [h.receivingCapacityStroops_eq hissuer hrow, Except.ok.injEq, exists_eq_left']
    exact (and_iff_right hrow).symm
  · rw [Classical.not_imp, not_not] at hrow
    simp [h.receivingCapacityStroops_native hrow.1 hrow.2, hrow]

/-- The reserve is the minimum balance with the units of the offer. -/
theorem reserveStroops_eq {extra : ℤ} (hextra : 0 ≤ extra) (baseReserve : ℤ) :
    reserveStroops account extra baseReserve =
      .ok (((ledgerAccount strKey account).addUnits extra).minimum baseReserve) := by
  have hunits := h.ledger.units_nonneg
  have hsum : unitSum? account = some (ledgerAccount strKey account).units :=
    unitSum?_eq h.integers
  rw [reserveStroops, hsum, okOr, ok_bind, LedgerAccount.minimum,
    LedgerAccount.units_addUnits, max_eq_left (by omega)]
  rfl

theorem accountIdOf_eq : accountIdOf account = accountId := by
  rw [accountIdOf, h.account_id, Option.getD_some]

end OfferSnapshot

/-! ### New offers -/

variable {base counter selling buying : AssetId} {baseReserve fee extra : I64}
variable {addsTrustline : Bool}

/-- The intent of an offer of the client. -/
def intentOf (strKey : StrKey) (side : OfferSide) (base counter : AssetId) (amount : I64) :
    OfferIntent :=
  ⟨⟨Asset.ofId strKey base, Asset.ofId strKey counter⟩, side, amount.val⟩

theorem sellingAsset_intentOf : sellingAsset (intentOf strKey side base counter amount) =
    Asset.ofId strKey (side.assets base counter).1 := by
  cases side <;> rfl

theorem buyingAsset_intentOf : buyingAsset (intentOf strKey side base counter amount) =
    Asset.ofId strKey (side.assets base counter).2 := by
  cases side <;> rfl

/-- An asset is checked unless the account issues it. -/
theorem isNative_or_issuer_ne_iff :
    ((Asset.ofId strKey asset).isNative = true ∨
        (Asset.ofId strKey asset).issuer ≠ some accountId) ↔
      asset.issuerIs strKey accountId = false := by
  rw [Asset.isNative_ofId, Ne, Asset.issuer_ofId, Bool.not_eq_true]
  constructor
  · rintro (hnative | hissuer)
    · rw [AssetId.isNative_iff.mp hnative, AssetId.issuerIs_native]
    · exact hissuer
  · exact Or.inr

/-- A native asset sold leaves the reserve and the fee, unlike any other. -/
theorem OfferSnapshot.ensureSelling_eq_ok (h : OfferSnapshot strKey account accountId)
    {sold available extra : ℤ} (hextra : 0 ≤ extra) (baseReserve fee : ℤ) :
    ensureSelling account accountId (Asset.ofId strKey selling) sold available extra baseReserve
        fee = .ok () ↔
      (selling.issuerIs strKey accountId = false → sold + (if selling.isNative then
          ((ledgerAccount strKey account).addUnits extra).minimum baseReserve + fee else 0) ≤
            available) := by
  rw [ensureSelling]
  by_cases hissuer : selling.issuerIs strKey accountId = true
  · rw [if_neg fun hcheck => by simp [isNative_or_issuer_ne_iff.mp hcheck] at hissuer]
    simp [hissuer]
  · rw [Bool.not_eq_true] at hissuer
    rw [if_pos (isNative_or_issuer_ne_iff.mpr hissuer), nativeRequirement, Asset.isNative_ofId,
      h.reserveStroops_eq hextra]
    by_cases hnative : selling.isNative = true
    · simp [hnative, hissuer, ensure_eq_ok]
    · simp [hnative, hissuer, ensure_eq_ok]

theorem OfferSnapshot.ensureNativeReserve_eq_ok (h : OfferSnapshot strKey account accountId)
    {extra : ℤ} (hextra : 0 ≤ extra) (baseReserve fee : ℤ) :
    ensureNativeReserve account (Asset.ofId strKey selling) extra baseReserve fee = .ok () ↔
      (selling.isNative = false →
        ((ledgerAccount strKey account).addUnits extra).minimum baseReserve + fee ≤
          (ledgerAccount strKey account).availableOf .native) := by
  have hnativeAvailable : availableBalanceStroops (findBalance account .xlm) =
      (ledgerAccount strKey account).availableOf .native := by
    rw [← Asset.ofId_native, h.availableBalanceStroops_eq]
  rw [ensureNativeReserve, Asset.isNative_ofId, h.reserveStroops_eq hextra, hnativeAvailable]
  by_cases hnative : selling.isNative = true
  · simp [hnative]
  · simp [hnative, ensure_eq_ok]

/-- What the service accepts, in the terms of the ledger. -/
theorem preflightNewOffer_eq_ok (h : OfferSnapshot strKey account accountId)
    {sold bought : ℤ} {addsTrustline : Bool} {extra : ℤ} (baseReserve fee : ℤ) (hextra : 0 ≤ extra)
    (hliabilities : offerLiabilities side amount.val priceR = .ok (sold, bought))
    (hbought : bought ≤ 9223372036854775807)
    (hsides : side.assets base counter = (selling, buying)) :
    preflightNewOffer account (intentOf strKey side base counter amount) priceR baseReserve fee
        extra addsTrustline = .ok () ↔
      ((ledgerAccount strKey account).addUnits extra).minimum baseReserve +
            (if selling.isNative then sold else 0) + fee ≤
          (ledgerAccount strKey account).availableOf .native ∧
        (selling.isNative = false → selling.issuerIs strKey accountId = false →
          sold ≤ (ledgerAccount strKey account).availableOf selling) ∧
        (buying.issuerIs strKey accountId = false →
          (buying.isNative = true → (ledgerAccount strKey account).lines buying ≠ none) ∧
            bought ≤ (ledgerAccount strKey account).capacityOf buying
              (newLineLimit addsTrustline)) := by
  have hlimit : newLineLimit addsTrustline =
      (if addsTrustline then some fresnicaTrustlineLimit else none).getD 0 := by
    cases addsTrustline <;> decide
  rw [hlimit, ← h.le_receivingCapacityStroops_iff hbought, preflightNewOffer, sellingAsset_intentOf,
    buyingAsset_intentOf, hsides]
  simp only [intentOf, hliabilities, ok_bind, h.accountIdOf_eq, h.availableBalanceStroops_eq,
    bind_eq_ok, ensure_eq_ok, h.ensureSelling_eq_ok hextra, h.ensureNativeReserve_eq_ok hextra,
    gt_iff_lt, not_lt]
  by_cases hnative : selling.isNative = true
  · obtain rfl := AssetId.isNative_iff.mp hnative
    simp only [AssetId.issuerIs_native, hnative, if_true, Bool.true_eq_false, false_implies,
      true_implies, exists_const, true_and]
    rw [add_comm sold, add_right_comm]
  · simp only [hnative, Bool.false_eq_true, if_false, add_zero, exists_const, true_implies]
    exact and_left_comm

/-- Both accept the same new offers. -/
theorem preflightNewOffer_agrees (h : OfferSnapshot strKey account accountId)
    (hreserve : 0 ≤ baseReserve.val) (hfee : 0 ≤ fee.val) (hextra : 0 ≤ extra.val)
    (hprice : priceR.Of clientPrice) (hsides : side.assets base counter = (selling, buying)) :
    preflightCreate strKey account accountId side selling buying amount clientPrice baseReserve fee
        extra addsTrustline = .ok () ↔
      preflightNewOffer account (intentOf strKey side base counter amount) priceR baseReserve.val
        fee.val extra.val addsTrustline = .ok () := by
  cases hliabilities : Fresnica.offerLiabilities side amount clientPrice with
  | error message =>
    obtain ⟨refusal, hrefusal⟩ := offerLiabilities_error hprice hliabilities
    have hservice : preflightNewOffer account (intentOf strKey side base counter amount) priceR
        baseReserve.val fee.val extra.val addsTrustline = .error refusal := by
      rw [preflightNewOffer]
      simp only [intentOf, hrefusal, error_bind]
    rw [hservice, preflightCreate, hliabilities, error_bind]
    simp
  | ok liabilities =>
    rw [preflightCreate_accepts h.ledger hreserve hfee hextra hliabilities,
      preflightNewOffer_eq_ok h baseReserve.val fee.val hextra
        (offerLiabilities_of_client hprice hliabilities) liabilities.buying.le_hi hsides]

/-! ### Updated offers -/

variable {oldAmount : I64} {oldPrice : Price} {offer : OpenOffer} {old : OfferLiabilities}

theorem OfferSnapshot.ensureOfferFeeCapacity_eq_ok (h : OfferSnapshot strKey account accountId)
    (baseReserve : ℤ) {fee : ℤ} (hfee : 0 ≤ fee) :
    ensureOfferFeeCapacity account baseReserve fee = .ok () ↔
      ((ledgerAccount strKey account).minimum baseReserve + fee ≤
        (ledgerAccount strKey account).availableOf .native ∨ fee = 0) := by
  have hnativeAvailable : availableBalanceStroops (findBalance account .xlm) =
      (ledgerAccount strKey account).availableOf .native := by
    rw [← Asset.ofId_native, h.availableBalanceStroops_eq]
  have hunits : ((ledgerAccount strKey account).addUnits 0).minimum baseReserve =
      (ledgerAccount strKey account).minimum baseReserve := by
    rw [LedgerAccount.minimum, LedgerAccount.units_addUnits, add_zero, LedgerAccount.minimum]
  rw [ensureOfferFeeCapacity, h.reserveStroops_eq le_rfl, hnativeAvailable, hunits, ok_bind,
    ensure_eq_ok, not_lt]
  omega

/-- What can be received once the stored offer is released. -/
theorem OfferSnapshot.le_receiveAfterRelease_iff (h : OfferSnapshot strKey account accountId)
    {bought released : ℤ} (hbought : bought ≤ 9223372036854775807) :
    (∃ capacity, receiveAfterRelease account (Asset.ofId strKey buying) accountId released =
        .ok capacity ∧ bought ≤ capacity) ↔
      (buying.issuerIs strKey accountId = false →
        (buying.isNative = true → (ledgerAccount strKey account).lines buying ≠ none) ∧
          bought ≤ (ledgerAccount strKey account).capacityOf buying 0 + released) := by
  rw [receiveAfterRelease]
  by_cases hissuer : buying.issuerIs strKey accountId = true
  · rw [if_pos (Asset.issuer_ofId.mpr hissuer)]
    simp [hissuer, int64Max, hbought]
  rw [if_neg fun hsame => hissuer (Asset.issuer_ofId.mp hsame)]
  rw [Bool.not_eq_true] at hissuer
  simp only [hissuer, true_implies]
  by_cases hrow : buying.isNative = true → (ledgerAccount strKey account).lines buying ≠ none
  · simp only [h.receivingCapacityStroops_eq hissuer hrow, ok_bind, pure_eq_ok, Except.ok.injEq,
      exists_eq_left', Option.getD_none]
    exact (and_iff_right hrow).symm
  · rw [Classical.not_imp, not_not] at hrow
    simp [h.receivingCapacityStroops_native hrow.1 hrow.2, hrow]

/-- What the service accepts of an update, in the terms of the ledger. -/
theorem preflightUpdateOffer_eq_ok (h : OfferSnapshot strKey account accountId)
    {sold bought oldSold oldBought : ℤ} (baseReserve : ℤ) {fee : ℤ} (hfee : 0 ≤ fee)
    (hnew : offerLiabilities side amount.val priceR = .ok (sold, bought))
    (hold : offerLiabilities .sell offer.sellingAmount offer.priceR = .ok (oldSold, oldBought))
    (hbought : bought ≤ 9223372036854775807)
    (hsides : side.assets base counter = (selling, buying)) :
    preflightUpdateOffer account (intentOf strKey side base counter amount) priceR offer
        baseReserve fee = .ok () ↔
      ((ledgerAccount strKey account).minimum baseReserve + fee ≤
          (ledgerAccount strKey account).availableOf .native ∨ fee = 0) ∧
        (selling.issuerIs strKey accountId = false → sold + (if selling.isNative then
            (ledgerAccount strKey account).minimum baseReserve + fee else 0) ≤
              (ledgerAccount strKey account).availableOf selling + oldSold) ∧
        (buying.issuerIs strKey accountId = false →
          (buying.isNative = true → (ledgerAccount strKey account).lines buying ≠ none) ∧
            bought ≤ (ledgerAccount strKey account).capacityOf buying 0 + oldBought) := by
  have hunits : ((ledgerAccount strKey account).addUnits 0).minimum baseReserve =
      (ledgerAccount strKey account).minimum baseReserve := by
    rw [LedgerAccount.minimum, LedgerAccount.units_addUnits, add_zero, LedgerAccount.minimum]
  rw [← h.le_receiveAfterRelease_iff hbought, preflightUpdateOffer, sellingAsset_intentOf,
    buyingAsset_intentOf, hsides]
  simp only [intentOf, hnew, hold, ok_bind, h.accountIdOf_eq, h.availableBalanceStroops_eq,
    bind_eq_ok, ensure_eq_ok, h.ensureSelling_eq_ok le_rfl, hunits,
    h.ensureOfferFeeCapacity_eq_ok baseReserve hfee, gt_iff_lt, not_lt, exists_const]

/-- Unless there is no fee, the reserve is out of range and an issued asset is sold, both
accept the same updates. -/
theorem preflightUpdateOffer_agrees (h : OfferSnapshot strKey account accountId)
    (hreserve : 0 ≤ baseReserve.val) (hfee : 0 ≤ fee.val) (hprice : priceR.Of clientPrice)
    (hoffer : offer.sellingAmount = oldAmount.val) (hofferPrice : offer.priceR.Of oldPrice)
    (hreleases : ∀ old, Fresnica.offerLiabilities .sell oldAmount oldPrice = .ok old →
      ReleasesOffer (ledgerAccount strKey account) selling buying old)
    (hrange : fee.val = 0 → selling.isNative = false →
      (ledgerAccount strKey account).minimum baseReserve.val ≤ 9223372036854775807)
    (hsides : side.assets base counter = (selling, buying)) :
    preflightUpdate strKey account accountId side selling buying amount clientPrice oldAmount
        oldPrice baseReserve fee = .ok () ↔
      preflightUpdateOffer account (intentOf strKey side base counter amount) priceR offer
        baseReserve.val fee.val = .ok () := by
  cases hnew : Fresnica.offerLiabilities side amount clientPrice with
  | error message =>
    obtain ⟨refusal, hrefusal⟩ := offerLiabilities_error hprice hnew
    rw [preflightUpdate, preflightUpdateOffer]
    simp only [intentOf, hnew, hrefusal, error_bind, bind_eq_ok, reduceCtorEq, and_false,
      exists_false]
  | ok new =>
    have hnewService := offerLiabilities_of_client hprice hnew
    cases hold : Fresnica.offerLiabilities .sell oldAmount oldPrice with
    | error message =>
      obtain ⟨refusal, hrefusal⟩ := offerLiabilities_error hofferPrice hold
      rw [preflightUpdate, preflightUpdateOffer, hoffer]
      simp only [intentOf, hnew, hnewService, hold, hrefusal, ok_bind, error_bind, bind_eq_ok,
        reduceCtorEq, and_false, exists_false]
    | ok old =>
      have holdService : offerLiabilities .sell offer.sellingAmount offer.priceR =
          .ok (old.selling.val, old.buying.val) := by
        rw [hoffer]
        exact offerLiabilities_of_client hofferPrice hold
      have hreleases := hreleases old hold
      rw [preflightUpdate_accepts h.ledger hold hnew hreserve hfee hreleases,
        preflightUpdateOffer_eq_ok h baseReserve.val hfee hnewService holdService new.buying.le_hi
          hsides]
      -- where the service accepts, the reserve is in range
      refine and_congr_left fun hsides => and_iff_right_of_imp fun hfeeReady => ?_
      rcases hfeeReady with hpaid | hnoFee
      · obtain ⟨available, -, hval⟩ := availableBalance_eq h.ledger .native
        have hle := available.le_hi
        omega
      by_cases hnative : selling.isNative = true
      · obtain rfl := AssetId.isNative_iff.mp hnative
        have hsold := hsides.1 (AssetId.issuerIs_native ..)
        have hnewSelling := (offerLiabilities_nonneg hnew).1
        have hreleased := hreleases.availableOf_add_le
        rw [if_pos hnative] at hsold
        omega
      · exact hrange hnoFee (Bool.not_eq_true _ ▸ hnative)

/-! ### The two implementations -/

/-- On an account of the ledger both encode the same prices, promise the same amounts and
accept the same offers, new and updated. -/
theorem offerService_agrees {priceStroops : I64} (hpositive : 0 < priceStroops.val)
    (hprice : priceR.Of clientPrice) (h : OfferSnapshot strKey account accountId)
    (hreserve : 0 ≤ baseReserve.val) (hfee : 0 ≤ fee.val)
    (side : OfferSide) (base counter : AssetId) (amount : I64) :
    (∀ n d, (∃ price, stellarPrice priceStroops hpositive = .ok price ∧ price.n.val = n ∧
        price.d.val = d) ↔
      ∃ ratio, stellarPriceRatio priceStroops.val hpositive = .ok ratio ∧ ratio.n = n ∧
        ratio.d = d) ∧
    (∀ sold bought, (∃ liabilities, Fresnica.offerLiabilities side amount clientPrice =
        .ok liabilities ∧ liabilities.selling.val = sold ∧ liabilities.buying.val = bought) ↔
      offerLiabilities side amount.val priceR = .ok (sold, bought)) ∧
    (∀ addsTrustline, preflightCreate strKey account accountId side (side.assets base counter).1
        (side.assets base counter).2 amount clientPrice baseReserve fee
        (extraSubentries addsTrustline) addsTrustline = .ok () ↔
      preflightNewOffer account (intentOf strKey side base counter amount) priceR baseReserve.val
        fee.val (extraSubentries addsTrustline).val addsTrustline = .ok ()) ∧
    ∀ (offer : OpenOffer) (oldAmount : I64) (oldPrice : Price),
      offer.sellingAmount = oldAmount.val → offer.priceR.Of oldPrice →
      (∀ old, Fresnica.offerLiabilities .sell oldAmount oldPrice = .ok old →
        ReleasesOffer (ledgerAccount strKey account) (side.assets base counter).1
          (side.assets base counter).2 old) →
      (fee.val = 0 → (side.assets base counter).1.isNative = false →
        (ledgerAccount strKey account).minimum baseReserve.val ≤ 9223372036854775807) →
      (preflightUpdate strKey account accountId side (side.assets base counter).1
          (side.assets base counter).2 amount clientPrice oldAmount oldPrice baseReserve fee =
            .ok () ↔
        preflightUpdateOffer account (intentOf strKey side base counter amount) priceR offer
          baseReserve.val fee.val = .ok ()) := by
  refine ⟨stellarPriceRatio_agrees hpositive, offerLiabilities_agrees hprice,
    fun addsTrustline => ?_, fun offer oldAmount oldPrice hoffer hofferPrice hreleases hrange => ?_⟩
  · have hextra : 0 ≤ (extraSubentries addsTrustline).val := by cases addsTrustline <;> decide
    exact preflightNewOffer_agrees h hreserve hfee hextra hprice rfl
  · exact preflightUpdateOffer_agrees h hreserve hfee hprice hoffer hofferPrice hreleases hrange rfl

/-- A native row with one unit promised on each side. -/
def promisedRow : Json :=
  .object [("asset_type", .string "native"), ("balance", .string "100.0000000"),
    ("selling_liabilities", .string "1.0000000"), ("buying_liabilities", .string "1.0000000")]

/-- An issuer with that row. -/
def issuerAccount (subentries sponsored : U64) : Json :=
  .object [("account_id", .string usdcIssuer), ("subentry_count", .number (.posInt subentries)),
    ("num_sponsored", .number (.posInt sponsored)), ("balances", .array [promisedRow])]

theorem soundRow_promisedRow : SoundRow promisedRow := by
  have hline : ledgerLine .native promisedRow =
      .ok ⟨1000000000, 10000000, 10000000, 9223372036854775807⟩ := by decide +kernel
  exact ⟨fun _ => ⟨_, hline, by decide, by decide⟩, fun hcode => absurd rfl hcode⟩

theorem textMember_promisedRow {field : String}
    (hfield : field ∈ ["balance", "selling_liabilities", "buying_liabilities", "limit"]) :
    TextMember promisedRow field := by
  intro value hvalue
  simp only [List.mem_cons, List.not_mem_nil, or_false] at hfield
  rcases hfield with rfl | rfl | rfl | rfl
  · exact ⟨_, (Option.some_inj.mp hvalue).symm⟩
  · exact ⟨_, (Option.some_inj.mp hvalue).symm⟩
  · exact ⟨_, (Option.some_inj.mp hvalue).symm⟩
  · exact nomatch (hvalue : none = some value)

theorem integerCounters_issuerAccount {subentries sponsored : U64}
    (hsubentries : subentries.val ≤ 9223372036854775807)
    (hsponsored : sponsored.val ≤ 9223372036854775807) :
    IntegerCounters (issuerAccount subentries sponsored) := by
  intro field hfield
  simp only [List.mem_cons, List.not_mem_nil, or_false] at hfield
  rcases hfield with rfl | rfl | rfl
  · exact int?_posInt rfl hsubentries
  · exact int?_missing rfl
  · exact int?_posInt rfl hsponsored

/-- The issuer is of the ledger. -/
theorem offerSnapshot_issuerAccount (strKey : StrKey) :
    OfferSnapshot strKey (issuerAccount (.lit 1) (.lit 0)) usdcIssuer := by
  have hsubentries : counter (issuerAccount (.lit 1) (.lit 0)) "subentry_count" = .lit 1 := rfl
  have hsponsoring : counter (issuerAccount (.lit 1) (.lit 0)) "num_sponsoring" = .lit 0 := rfl
  have hsponsored : counter (issuerAccount (.lit 1) (.lit 0)) "num_sponsored" = .lit 0 := rfl
  refine ⟨LedgerSnapshot.of_rows rfl ?_ ?_ ?_ ?_, ?_, integerCounters_issuerAccount (by decide)
    (by decide), rfl⟩
  · intro raw hraw
    obtain rfl := List.mem_singleton.mp hraw
    exact soundRow_promisedRow
  · intro field hfield
    simp only [List.mem_cons, List.not_mem_nil, or_false] at hfield
    rcases hfield with rfl | rfl | rfl
    · rw [hsubentries]
      decide
    · rw [hsponsoring]
      decide
    · rw [hsponsored]
      decide
  · rw [hsubentries, hsponsoring]
    decide
  · simp only [ledgerAccount, hsubentries, hsponsoring, hsponsored]
    decide
  · intro asset raw hrow field hfield
    obtain rfl := List.mem_singleton.mp (List.mem_of_find?_eq_some hrow)
    exact textMember_promisedRow hfield

/-- The issuer sells its own asset, now twice as much. -/
theorem offerService_agrees_issuer :
    preflightUpdate Sep23.strKey (issuerAccount (.lit 1) (.lit 0)) usdcIssuer .buy .usdc .native
        (.lit 20000000) ⟨.lit 1, .lit 1⟩ (.lit 10000000) ⟨.lit 1, .lit 1⟩ (.lit 5000000)
        (.lit 100) = .ok () ↔
      preflightUpdateOffer (issuerAccount (.lit 1) (.lit 0))
        (intentOf Sep23.strKey .buy .native .usdc (.lit 20000000)) ⟨1, 1, by decide, by decide⟩
        ⟨10000000, ⟨1, 1, by decide, by decide⟩⟩ 5000000 100 = .ok () := by
  -- the issuer has no line of its own asset, and the native line covers the stored offer
  have hreleases : ∀ old, Fresnica.offerLiabilities .sell (.lit 10000000) ⟨.lit 1, .lit 1⟩ =
      .ok old → ReleasesOffer (ledgerAccount Sep23.strKey (issuerAccount (.lit 1) (.lit 0))) .usdc
        .native old := by
    intro old hold
    have hpair : Fresnica.offerLiabilities .sell (.lit 10000000) ⟨.lit 1, .lit 1⟩ =
      .ok ⟨.lit 10000000, .lit 10000000⟩ := by decide
    obtain rfl := Except.ok.inj (hpair.symm.trans hold)
    have hnone : ((ledgerAccount Sep23.strKey (issuerAccount (.lit 1) (.lit 0))).lines
        .usdc).isNone = true := by decide +kernel
    have hsome : ((ledgerAccount Sep23.strKey (issuerAccount (.lit 1) (.lit 0))).lines
        .native).map Line.buying = some 10000000 := by decide +kernel
    refine ⟨fun line hline => ?_, fun line hline => ?_⟩
    · rw [hline] at hnone
      exact absurd hnone (by simp)
    · rw [hline, Option.map_some, Option.some_inj] at hsome
      exact hsome.ge
  let priceR : PriceRatio := ⟨1, 1, by decide, by decide⟩
  have hprice : priceR.Of ⟨.lit 1, .lit 1⟩ := ⟨by decide, by decide⟩
  have hpositive : 0 < (.lit 10000000 : I64).val := by decide
  have hreserve : 0 ≤ (.lit 5000000 : I64).val := by decide
  have hfee : 0 ≤ (.lit 100 : I64).val := by decide
  exact (offerService_agrees hpositive hprice (offerSnapshot_issuerAccount Sep23.strKey) hreserve
    hfee .buy .native .usdc (.lit 20000000)).2.2.2 ⟨10000000, priceR⟩ (.lit 10000000)
      ⟨.lit 1, .lit 1⟩ (by decide) hprice hreleases (fun hfee => absurd hfee (by decide))

/-- Where the counters leave the range, the client asks for the reserve of too few units;
and where the reserve does, it refuses an update that costs nothing. -/
theorem offerService_disagrees :
    (accountBalances (issuerAccount (.lit 9223372036854775807) (.lit 9223372036854775807)) =
        some [promisedRow] ∧ SoundRow promisedRow ∧
      (ledgerAccount Sep23.strKey (issuerAccount (.lit 9223372036854775807)
        (.lit 9223372036854775807))).units = 2 ∧
      preflightCreate Sep23.strKey
          (issuerAccount (.lit 9223372036854775807) (.lit 9223372036854775807)) usdcIssuer .sell
          .native .usdc (.lit 985000000) ⟨.lit 1, .lit 1⟩ (.lit 4000000) (.lit 100) (.lit 1)
          false = .ok () ∧
      preflightNewOffer (issuerAccount (.lit 9223372036854775807) (.lit 9223372036854775807))
          (intentOf Sep23.strKey .sell .native .usdc (.lit 985000000))
          ⟨1, 1, by decide, by decide⟩ 4000000 100 1 false =
        .error (.insufficientBalance "XLM" 997000100 990000000)) ∧
    (OfferSnapshot Sep23.strKey (issuerAccount (.lit 1) (.lit 0)) usdcIssuer ∧
      Fresnica.offerLiabilities .sell (.lit 10000000) ⟨.lit 1, .lit 1⟩ =
        .ok ⟨.lit 10000000, .lit 10000000⟩ ∧
      preflightUpdate Sep23.strKey (issuerAccount (.lit 1) (.lit 0)) usdcIssuer .buy .usdc .native
          (.lit 20000000) ⟨.lit 1, .lit 1⟩ (.lit 10000000) ⟨.lit 1, .lit 1⟩
          (.lit 5000000000000000000) (.lit 0) = .error "minimum balance overflow" ∧
      preflightUpdateOffer (issuerAccount (.lit 1) (.lit 0))
          (intentOf Sep23.strKey .buy .native .usdc (.lit 20000000)) ⟨1, 1, by decide, by decide⟩
          ⟨10000000, ⟨1, 1, by decide, by decide⟩⟩ 5000000000000000000 0 = .ok ()) := by
  refine ⟨⟨rfl, soundRow_promisedRow, ?_, ?_, ?_⟩, offerSnapshot_issuerAccount Sep23.strKey, ?_, ?_,
    ?_⟩
  all_goals decide +kernel

end Fresnica.Python.OfferService
