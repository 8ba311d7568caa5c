import Fresnica.Asset.Identity
import Fresnica.Dex.Prepare
import Fresnica.Transaction.StroopCodec
import Fresnica.Trustline.Accepted

/-!
# Offers are what their reviews show

The texts of a review denote the operations of the transaction: its pair, its amount and its
fraction are read back to the ones that are signed, and so is the line that is opened. They are
those of the request, or, of the offer that is cancelled, those that are stored.

## Main definitions

* `OfferReview.bodies?` — the operations that a review denotes
* `TradeRequested`, `StoredFor`, `Requested` — how a review relates to the request
* `ShownOffer` — the transaction is the one that is shown and requested

## Main results

* `TradeDetails.bodies?_of` — the texts of a trade are read back
* `prepareOffer_shown` — an offer that is prepared is shown as it is signed
-/

namespace Fresnica

open Foundation

/-! ### What a review denotes -/

section Definitions

variable (strKey : StrKey)

namespace TradeDetails

/-- The operation that opens the line that is shown, if one is. -/
def trustline? (details : TradeDetails) : Option (List OperationBody) :=
  match details.trustlineAsset, details.trustlineLimit with
  | some asset, some limit => do
    let asset ← (AssetId.parse strKey asset).toOption
    let limit ← parseStroops limit true
    let body ← (changeTrustBody asset limit).toOption
    return [body]
  | none, none => some []
  | _, _ => none

def bodies? (details : TradeDetails) (offerId : I64) : Option (List OperationBody) := do
  let base ← (AssetId.parse strKey details.base).toOption
  let counter ← (AssetId.parse strKey details.counter).toOption
  let amount ← parseStroops details.amount false
  let trustline ← details.trustline? strKey
  return trustline ++ [offerOperation details.side base counter amount
    ⟨details.priceN, details.priceD⟩ offerId]

end TradeDetails

def OfferOperation.of? : OperationBody → Option OfferOperation
  | .manageBuyOffer .. => some .manageBuyOffer
  | .manageSellOffer .. => some .manageSellOffer
  | _ => none

/-- The operations that the texts of a review denote. The price of an offer that is cancelled
is not shown. -/
def OfferReview.bodies? (review : OfferReview) (cancelled : Price) :
    Option (List OperationBody) :=
  match review.details with
  | .trade details => details.bodies? strKey (review.offerId.getD (.lit 0))
  | .cancel selling buying => do
    let selling ← (AssetId.parse strKey selling).toOption
    let buying ← (AssetId.parse strKey buying).toOption
    let offerId ← review.offerId
    return [.manageSellOffer selling.toXdr buying.toXdr (.lit 0) cancelled offerId]

end Definitions

/-! ### What is requested -/

/-- The trade is one of the pair and the amount of the request, at a fraction that is faithful
to its price, and the price and the total are shown honestly. -/
structure TradeRequested (strKey : StrKey) (base counter : AssetId)
    (baseText counterText amountText priceText : String) (details : TradeDetails) : Prop where
  shownBase : AssetId.parse strKey baseText = .ok base ∧ details.base = base.display strKey
  shownCounter : AssetId.parse strKey counterText = .ok counter ∧
    details.counter = counter.display strKey
  different : base ≠ counter
  price : ∃ stroops, parseStroops priceText true = some stroops ∧
    FaithfulPrice stroops ⟨details.priceN, details.priceD⟩ ∧
    details.requestedPrice =
      requestedPriceIfApproximated stroops ⟨details.priceN, details.priceD⟩
  honest : ShowsPositive details.price ((details.priceN.val : ℚ) / details.priceD.val)
  amount : ∃ stroops, parseStroops amountText true = some stroops ∧
    details.amount = formatStroops stroops ∧
    (ShowsPositive details.total
        (((stroops.val * details.priceN.val : ℤ) : ℚ) / details.priceD.val / 10 ^ 7) ↔
      details.priceD.val ≤ 2 * (stroops.val * details.priceN.val))

/-- The offer that is stored under an id sells and buys these assets, for this account. -/
structure StoredFor (strKey : StrKey) (gateway : OfferGateway) (source : String) (offerId : I64)
    (selling buying : AssetId) (offer : Json) : Prop where
  stored : gateway.getOffer offerId = .ok offer
  owner : text offer "seller" = some source
  selling : storedAsset strKey offer "selling" = .ok selling
  buying : storedAsset strKey offer "buying" = .ok buying

/-- How a review relates to the request, and to the offer that is stored. A new offer opens a
line only where the user allows it; an offer that is updated keeps its pair and its side. -/
inductive Requested (strKey : StrKey) (gateway : OfferGateway) (source : String) :
    OfferRequest → OfferReviewDetails → Option I64 → Price → Prop
  | create {wallet : Option String} {base counter : AssetId}
      {baseText counterText amountText priceText : String} {allowTrustline : Bool}
      {details : TradeDetails} {cancelled : Price}
      (hterms : TradeRequested strKey base counter baseText counterText amountText priceText
        details)
      (hallowed : details.trustlineAsset ≠ none → allowTrustline = true) :
      Requested strKey gateway source (.create wallet details.side baseText counterText amountText
        priceText allowTrustline) (.trade details) none cancelled
  | update {wallet : Option String} {offerId : I64} {base counter : AssetId}
      {baseText counterText amountText priceText : String} {details : TradeDetails}
      {offer : Json} {cancelled : Price}
      (hterms : TradeRequested strKey base counter baseText counterText amountText priceText
        details)
      (hkept : details.trustlineAsset = none)
      (hstored : StoredFor strKey gateway source offerId (details.side.assets base counter).1
        (details.side.assets base counter).2 offer) :
      Requested strKey gateway source (.update wallet offerId baseText counterText amountText
        priceText) (.trade details) (some offerId) cancelled
  | cancel {wallet : Option String} {offerId : I64} {selling buying : AssetId} {offer : Json}
      {cancelled : Price}
      (hstored : StoredFor strKey gateway source offerId selling buying offer)
      (hprice : horizonPrice offer = .ok cancelled) :
      Requested strKey gateway source (.cancel wallet offerId)
        (.cancel (selling.display strKey) (buying.display strKey)) (some offerId) cancelled

/-- The transaction of a prepared offer is the one that its review shows, and the review shows
what is requested. -/
structure ShownOffer (strKey : StrKey) (gateway : OfferGateway) (request : OfferRequest)
    (prepared : PreparedOffer) (tx : Transaction) (cancelled : Price) : Prop where
  envelope : prepared.envelope = .tx tx []
  source : ∃ key, strKey.publicKeyOf? prepared.review.source = some key ∧
    tx.sourceAccount = .ed25519 key
  fee : parseStroops prepared.review.feeXlm false = some (feeStroops tx.fee)
  own : ∀ operation ∈ tx.operations, operation.sourceAccount = none
  labelled : (tx.operations.getLast? >>= fun operation => OfferOperation.of? operation.body) =
    some prepared.review.operation
  bodies : prepared.review.bodies? strKey cancelled = some (tx.operations.map (·.body))
  requested : Requested strKey gateway prepared.review.source request prepared.review.details
    prepared.review.offerId cancelled

variable {strKey : StrKey} {gateway : OfferGateway} {source value label : String}
variable {side : OfferSide} {base counter buying : AssetId} {amount priceStroops offerId : I64}
variable {price : Price} {details : TradeDetails} {addsTrustline : Bool}
variable {trustline : List OperationBody}

/-! ### The texts of a trade -/

theorem parseOfferValue_eq_ok {positive : PositiveStroops}
    (h : parseOfferValue value label = .ok positive) :
    parseStroops value true = some positive.val := by
  unfold parseOfferValue at h
  split at h
  next amount hamount =>
    obtain rfl := Except.ok.inj h
    exact hamount
  next => cases h

theorem receivingTrustline_eq_ok :
    receivingTrustline buying addsTrustline = .ok trustline ↔
      if addsTrustline then
        buying.isNative = false ∧ trustline = [.changeTrust buying.toXdr defaultTrustlineStroops]
      else trustline = [] := by
  have hlimit : parseStroops defaultTrustlineLimit true = some defaultTrustlineStroops := by
    decide +kernel
  cases addsTrustline with
  | false => simp [receivingTrustline, eq_comm]
  | true =>
    rw [receivingTrustline, if_pos rfl, hlimit, okOr, ok_bind, if_pos rfl, changeTrustBody]
    by_cases hnative : buying.isNative = true
    · simp [hnative]
    · simp [hnative, eq_comm]

theorem TradeDetails.of_eq_ok {shown : Option AssetId} :
    TradeDetails.of strKey side base counter amount priceStroops price shown = .ok details ↔
      ∃ shownPrice total, formatPriceRatio price.n price.d = .ok shownPrice ∧
        formatPriceProduct amount price = .ok total ∧
        details = ⟨side, base.display strKey, counter.display strKey, formatStroops amount,
          shownPrice, requestedPriceIfApproximated priceStroops price, price.n, price.d, total,
          shown.map (·.display strKey), shown.map fun _ => defaultTrustlineLimit⟩ := by
  simp only [TradeDetails.of, bind_eq_ok, pure_eq_ok, Except.ok.injEq, exists_and_left,
    @eq_comm _ _ details]

/-- The line that is shown is the one that is opened. -/
theorem TradeDetails.trustline?_of {shown : Option AssetId}
    (htrustline : receivingTrustline buying addsTrustline = .ok trustline)
    (hasset : details.trustlineAsset = shown.map (·.display strKey))
    (hlimit : details.trustlineLimit = shown.map fun _ => defaultTrustlineLimit)
    (hshown : shown = if addsTrustline then some buying else none) :
    details.trustline? strKey = some trustline := by
  subst hshown
  rw [TradeDetails.trustline?, hasset, hlimit]
  cases addsTrustline with
  | false =>
    obtain rfl := receivingTrustline_eq_ok.mp htrustline
    rfl
  | true =>
    simp only [receivingTrustline, if_pos, bind_eq_ok, okOr_eq_ok, pure_eq_ok] at htrustline
    obtain ⟨limit, hlimit, body, hbody, hbodies⟩ := htrustline
    obtain rfl := Except.ok.inj hbodies
    simp [AssetId.parse_display, hlimit, hbody, Except.toOption]

/-- The texts of a trade are read back as what is signed. -/
theorem TradeDetails.bodies?_of (hamount : 0 ≤ amount.val)
    (htrustline : receivingTrustline buying addsTrustline = .ok trustline)
    (h : TradeDetails.of strKey side base counter amount priceStroops price
      (if addsTrustline then some buying else none) = .ok details) (offerId : I64) :
    details.bodies? strKey offerId =
      some (trustline ++ [offerOperation side base counter amount price offerId]) := by
  obtain ⟨shownPrice, total, -, -, hdetails⟩ := TradeDetails.of_eq_ok.mp h
  have hline : details.trustline? strKey = some trustline :=
    TradeDetails.trustline?_of htrustline (by rw [hdetails]) (by rw [hdetails]) rfl
  rw [TradeDetails.bodies?, hline, hdetails]
  simp [AssetId.parse_display, parseStroops_formatStroops hamount, Except.toOption]

/-- The trade that is shown is the one that is requested. -/
theorem TradeDetails.requested_of {baseText counterText amountText priceText : String}
    {amount priceStroops : PositiveStroops} {shown : Option AssetId}
    (hbase : AssetId.parse strKey baseText = .ok base)
    (hcounter : AssetId.parse strKey counterText = .ok counter)
    (hpair : ensurePair base counter = .ok ())
    (hamount : parseOfferValue amountText "amount" = .ok amount)
    (hpriceText : parseOfferValue priceText "price" = .ok priceStroops)
    (hprice : stellarPrice priceStroops.val priceStroops.property = .ok price)
    (h : TradeDetails.of strKey side base counter amount.val priceStroops.val price shown =
      .ok details) :
    TradeRequested strKey base counter baseText counterText amountText priceText details := by
  obtain ⟨shownPrice, total, hshownPrice, htotal, rfl⟩ := TradeDetails.of_eq_ok.mp h
  obtain ⟨price', hprice', hfaithful⟩ :=
    stellarPrice_faithful priceStroops.val priceStroops.property
  obtain rfl := Except.ok.inj (hprice.symm.trans hprice')
  have hn : 0 < price.n.val := hfaithful.numerator.1
  have hd : 0 < price.d.val := hfaithful.denominator.1
  obtain ⟨text, htext, hhonest⟩ := formatPriceRatio_shows hn hd
  obtain rfl := Except.ok.inj (hshownPrice.symm.trans htext)
  refine ⟨⟨hbase, rfl⟩, ⟨hcounter, rfl⟩, ?_, ⟨_, parseOfferValue_eq_ok hpriceText, hfaithful, rfl⟩,
    hhonest, _, parseOfferValue_eq_ok hamount, rfl, ?_⟩
  · rwa [ensurePair, ensure_eq_ok] at hpair
  · -- the total did not overflow, since it is shown
    rcases formatPriceProduct_shows amount.property hn hd with ⟨herror, -⟩ | ⟨text, htext, hhonest⟩
    · rw [htotal] at herror
      cases herror
    · obtain rfl := Except.ok.inj (htotal.symm.trans htext)
      exact hhonest

/-! ### The offer that is prepared -/

theorem ensureOfferOwner_eq_ok {offer : Json} {wallet : WalletRecord} :
    ensureOfferOwner offer wallet = .ok () ↔ text offer "seller" = some wallet.address := by
  simp only [ensureOfferOwner, bind_eq_ok, okOr_eq_ok, ensure_eq_ok, not_not]
  constructor
  · rintro ⟨seller, hseller, rfl⟩
    exact hseller
  · intro hseller
    exact ⟨_, hseller, rfl⟩

theorem inferSide_eq_ok {selling : AssetId} (h : inferSide selling buying base counter = .ok side) :
    side.assets base counter = (selling, buying) := by
  unfold inferSide at h
  split_ifs at h with hsell hbuy
  · obtain rfl := Except.ok.inj h
    obtain ⟨rfl, rfl⟩ := hsell
    rfl
  · obtain rfl := Except.ok.inj h
    obtain ⟨rfl, rfl⟩ := hbuy
    rfl

theorem labelled_offerOperation :
    OfferOperation.of? (offerOperation side base counter amount price offerId) =
      some (operationForSide side) := by
  cases side <;> rfl

section Prepared

variable {Bytes Digest : Type} {p : Primitives Bytes Digest} {wallets : WalletList}
variable {network : String} {timeoutSeconds : U64} {now : Instant} {request : OfferRequest}
variable {wallet : WalletRecord} {prepared : PreparedOffer}

theorem offerEnvelope_eq_ok {account : Json} {baseFee : U32} {bodies : List OperationBody}
    {envelope : TransactionEnvelope} {authorization : LedgerAuthorizationSnapshot}
    (h : offerEnvelope p wallets network timeoutSeconds now wallet account baseFee bodies =
      .ok (envelope, authorization)) :
    ∃ tx key, envelope = .tx tx [] ∧ p.strKey.publicKeyOf? wallet.address = some key ∧
      tx.sourceAccount = .ed25519 key ∧ tx.operations = bodies.map (⟨none, ·⟩) ∧
      tx.fee.val = baseFee.val * bodies.length := by
  simp only [offerEnvelope, bind_eq_ok, pure_eq_ok] at h
  obtain ⟨sequence, -, envelope, henvelope, _, -, hpair⟩ := h
  obtain ⟨rfl, -⟩ := Prod.mk.inj (Except.ok.inj hpair)
  exact buildOperationEnvelope_eq_ok henvelope

theorem length_receivingTrustline (h : receivingTrustline buying addsTrustline = .ok trustline) :
    ((trustline.length + 1 : ℕ) : ℤ) = (if addsTrustline then .lit 2 else .lit 1 : U32).val := by
  have htrustline := receivingTrustline_eq_ok.mp h
  cases addsTrustline with
  | false =>
    obtain rfl := htrustline
    rfl
  | true =>
    obtain ⟨-, rfl⟩ := htrustline
    rfl

/-- An offer is shown as it is signed when its review denotes the operations. -/
theorem ShownOffer.of_bodies {account : Json} {baseFee shown : U32} {bodies : List OperationBody}
    {envelope : TransactionEnvelope} {authorization : LedgerAuthorizationSnapshot}
    {review : OfferReview} {cancelled : Price}
    (henvelope : offerEnvelope p wallets network timeoutSeconds now wallet account baseFee bodies =
      .ok (envelope, authorization))
    (hsource : review.source = wallet.address)
    (hfee : review.feeXlm = formatStroops (feeStroops shown))
    (hshown : shown.val = baseFee.val * bodies.length)
    (hlabelled : (bodies.getLast? >>= OfferOperation.of?) = some review.operation)
    (hbodies : review.bodies? p.strKey cancelled = some bodies)
    (hrequested : Requested p.strKey gateway wallet.address request review.details review.offerId
      cancelled) :
    ∃ tx, ShownOffer p.strKey gateway request ⟨review, wallet, envelope⟩ tx cancelled := by
  obtain ⟨tx, key, rfl, hkey, hsigner, hoperations, htotal⟩ := offerEnvelope_eq_ok henvelope
  have hmap : tx.operations.map (·.body) = bodies := by
    rw [hoperations, List.map_map]
    exact List.map_id bodies
  refine ⟨tx, rfl, ⟨key, hsource ▸ hkey, hsigner⟩, ?_, ?_, ?_, ?_, hsource ▸ hrequested⟩
  · exact hfee ▸ parseStroops_shownFee (htotal.trans hshown.symm)
  · rw [hoperations]
    intro operation hoperation
    obtain ⟨body, -, rfl⟩ := List.mem_map.mp hoperation
    rfl
  · rw [← hlabelled, ← hmap, List.getLast?_map]
    cases tx.operations.getLast? <;> rfl
  · rw [hmap, hbodies]

/-- A new offer is shown as it is signed. -/
theorem prepareOfferCreate_shown (walletName : Option String)
    {baseText counterText amountText priceText : String} {allowTrustline : Bool}
    (cancelled : Price)
    (h : prepareOfferCreate p gateway wallets network timeoutSeconds now wallet side baseText
      counterText amountText priceText allowTrustline = .ok prepared) :
    ∃ tx, ShownOffer p.strKey gateway (.create walletName side baseText counterText amountText
      priceText allowTrustline) prepared tx cancelled := by
  simp only [prepareOfferCreate, bind_eq_ok, okOr_eq_ok, pure_eq_ok, Prod.exists] at h
  obtain ⟨base, hbase, counter, hcounter, _, hpair, amount, hamount, priceStroops, hpriceText,
    price, hprice, account, -, ledger, -, _, -, _, hreceiving, totalFee, htotal, _, -, trustline,
    htrustline, envelope, authorization, henvelope, details, hdetails, hprepared⟩ := h
  obtain rfl := Except.ok.inj hprepared
  generalize (!accountCanHold p.strKey account wallet.address (side.assets base counter).2) =
    addsTrustline at *
  have hread := TradeDetails.bodies?_of amount.property.le htrustline hdetails (.lit 0)
  have hshown := TradeDetails.requested_of hbase hcounter hpair hamount hpriceText hprice hdetails
  have hcount := length_receivingTrustline htrustline
  refine ShownOffer.of_bodies henvelope rfl rfl ?_ (by simp [labelled_offerOperation]) hread ?_
  · rw [List.length_append, List.length_singleton, hcount]
    exact BoundedInt.checkedMul_eq_some_iff.mp htotal
  · obtain ⟨_, _, -, -, rfl⟩ := TradeDetails.of_eq_ok.mp hdetails
    refine .create hshown fun hopened => ?_
    -- only a line that is missing is opened, and then the user was asked
    cases addsTrustline with
    | false => exact absurd rfl hopened
    | true =>
      simp only [ensureReceivingSide, if_pos, bind_eq_ok, ensure_eq_ok] at hreceiving
      exact hreceiving.choose_spec.1

/-- So is an offer that is updated. -/
theorem prepareOfferUpdate_shown (walletName : Option String)
    {baseText counterText amountText priceText : String} (cancelled : Price)
    (h : prepareOfferUpdate p gateway wallets network timeoutSeconds now wallet offerId baseText
      counterText amountText priceText = .ok prepared) :
    ∃ tx, ShownOffer p.strKey gateway (.update walletName offerId baseText counterText amountText
      priceText) prepared tx cancelled := by
  simp only [prepareOfferUpdate, bind_eq_ok, pure_eq_ok, Prod.exists] at h
  obtain ⟨base, hbase, counter, hcounter, _, hpair, amount, hamount, priceStroops, hpriceText,
    price, hprice, offer, hoffer, _, howner, selling, hselling, buying, hbuying, side, hside,
    account, -, ledger, -, _, -, _, -, _, -, _, -, _, -, envelope, authorization, henvelope,
    details, hdetails, hprepared⟩ := h
  obtain rfl := Except.ok.inj hprepared
  have hread := TradeDetails.bodies?_of amount.property.le
    (rfl : receivingTrustline base false = .ok []) hdetails offerId
  have hshown := TradeDetails.requested_of hbase hcounter hpair hamount hpriceText hprice hdetails
  refine ShownOffer.of_bodies henvelope rfl rfl (by simp) (by simp [labelled_offerOperation])
    hread ?_
  obtain ⟨_, _, -, -, rfl⟩ := TradeDetails.of_eq_ok.mp hdetails
  have hpairs := inferSide_eq_ok hside
  refine .update hshown rfl ⟨hoffer, ensureOfferOwner_eq_ok.mp howner, ?_, ?_⟩
  · rw [hpairs]
    exact hselling
  · rw [hpairs]
    exact hbuying

/-- And one that is cancelled, at the price that is stored. -/
theorem prepareOfferCancel_shown (walletName : Option String)
    (h : prepareOfferCancel p gateway wallets network timeoutSeconds now wallet offerId =
      .ok prepared) :
    ∃ tx cancelled, ShownOffer p.strKey gateway (.cancel walletName offerId) prepared tx
      cancelled := by
  simp only [prepareOfferCancel, bind_eq_ok, pure_eq_ok, Prod.exists] at h
  obtain ⟨offer, hoffer, _, howner, selling, hselling, buying, hbuying, price, hprice, account, -,
    ledger, -, _, -, envelope, authorization, henvelope, hprepared⟩ := h
  obtain rfl := Except.ok.inj hprepared
  have hrequested : Requested p.strKey gateway wallet.address (.cancel walletName offerId)
      (.cancel (selling.display p.strKey) (buying.display p.strKey)) (some offerId) price :=
    .cancel ⟨hoffer, ensureOfferOwner_eq_ok.mp howner, hselling, hbuying⟩ hprice
  refine exists_comm.mp ⟨price, ShownOffer.of_bodies henvelope rfl rfl ?_ rfl ?_ hrequested⟩
  · simp
  · simp [OfferReview.bodies?, AssetId.parse_display, Except.toOption]

/-- An offer that is prepared is shown as it is signed: what its review denotes are the
operations of the transaction, and what it shows is what was requested. -/
theorem prepareOffer_shown
    (h : prepareOfferWithWallet p gateway wallets network timeoutSeconds now wallet request =
      .ok prepared) :
    ∃ tx cancelled, ShownOffer p.strKey gateway request prepared tx cancelled := by
  cases request with
  | create walletName side base counter amount price allowTrustline =>
    obtain ⟨tx, hshown⟩ := prepareOfferCreate_shown walletName ⟨.lit 0, .lit 1⟩ h
    exact ⟨tx, _, hshown⟩
  | update walletName offerId base counter amount price =>
    obtain ⟨tx, hshown⟩ := prepareOfferUpdate_shown walletName ⟨.lit 0, .lit 1⟩ h
    exact ⟨tx, _, hshown⟩
  | cancel walletName offerId => exact prepareOfferCancel_shown walletName h

/-- One unit is sold for an asset that the account issues. -/
def storedOffer : Json :=
  .object [("id", .string "12"), ("seller", .string trustingAddress),
    ("selling", .object [("asset_type", .string "native")]),
    ("buying", .object [("asset_type", .string "credit_alphanum4"), ("asset_code", .string "OWN"),
      ("asset_issuer", .string trustingAddress)]),
    ("amount", .string "1.0000000"),
    ("price_r", .object [("n", .number (.posInt (.lit 1))),
      ("d", .number (.posInt (.lit 2)))])]

def offerGateway : OfferGateway where
  getAccount address := .ok (if address = trustingAddress then trustingAccount else openIssuer)
  getLedgerParameters := .ok ⟨.lit 100, .lit 5000000⟩
  getOffer offerId :=
    if offerId = .lit 12 then .ok storedOffer else .error s!"Offer not found: {offerId.val}"

/-- Ten units are sold for an asset whose line is opened. -/
def sellForUsdc : OfferRequest := .create none .sell "XLM" s!"USDC:{usdcIssuer}" "10" "0.5" true

/-- The stored offer sells more, at a lower price. -/
def sellMore : OfferRequest :=
  .update none (.lit 12) "XLM" s!"OWN:{trustingAddress}" "20" "0.3333333"

def cancelStored : OfferRequest := .cancel none (.lit 12)

def trustingOffer (request : OfferRequest) : Except String PreparedOffer :=
  prepareOfferWithWallet Primitives.ideal offerGateway (.ok []) "testnet" (.lit 300)
    (1700000000 * nanosPerSecond) trustingWallet request

theorem trustingOffer_isOk : (trustingOffer sellForUsdc).isOk = true ∧
    (trustingOffer sellMore).isOk = true ∧ (trustingOffer cancelStored).isOk = true := by
  refine ⟨?_, ?_, ?_⟩ <;> decide +kernel

/-- A request of this account is prepared, and shown. -/
def IsShown (request : OfferRequest) : Prop := ∃ prepared tx cancelled,
  trustingOffer request = .ok prepared ∧
    ShownOffer Sep23.strKey offerGateway request prepared tx cancelled

theorem prepareOffer_shown_stored :
    IsShown sellForUsdc ∧ IsShown sellMore ∧ IsShown cancelStored := by
  have hshown (request : OfferRequest) (hok : (trustingOffer request).isOk = true) :
      IsShown request := by
    cases hprepared : trustingOffer request with
    | error error =>
      rw [hprepared] at hok
      cases hok
    | ok prepared =>
      obtain ⟨tx, cancelled, hshown⟩ := prepareOffer_shown hprepared
      exact ⟨prepared, tx, cancelled, hprepared, hshown⟩
  obtain ⟨hcreate, hupdate, hcancel⟩ := trustingOffer_isOk
  exact ⟨hshown _ hcreate, hshown _ hupdate, hshown _ hcancel⟩

end Prepared

end Fresnica
