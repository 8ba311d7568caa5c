import Fresnica.Dex.Display
import Fresnica.Dex.PriceBounds
import Fresnica.Dex.Update
import Fresnica.Trustline.Change

/-!
# Preparing an offer

An offer is created, updated or cancelled by one transaction, which also opens the line of what
is bought if that is missing and the user allows it. The account and the stored offer are looked
up at Horizon, and the preflight of the offer is made, before the transaction is built.

## Main definitions

* `OfferRequest`, `OfferReview`, `PreparedOffer`
* `ensureFullOfferAuthorization`, `ensureReceivingSide` — the lines of the two sides
* `offerOperation` — the operation of a side
* `prepareOfferCreate`, `prepareOfferUpdate`, `prepareOfferCancel`, `prepareOffer` — the
  transaction and its review
-/

namespace Fresnica

open Foundation

inductive OfferAction
  | create
  | update
  | cancel
  deriving DecidableEq, Repr

inductive OfferOperation
  | manageBuyOffer
  | manageSellOffer
  deriving DecidableEq, Repr

inductive OfferRequest
  | create (wallet : Option String) (side : OfferSide) (base counter amount price : String)
      (allowTrustline : Bool)
  | update (wallet : Option String) (offerId : I64) (base counter amount price : String)
  | cancel (wallet : Option String) (offerId : I64)

/-- What the review of a trade shows. -/
structure TradeDetails where
  side : OfferSide
  base : String
  counter : String
  amount : String
  price : String
  requestedPrice : Option String
  priceN : I32
  priceD : I32
  total : String
  trustlineAsset : Option String
  trustlineLimit : Option String

inductive OfferReviewDetails
  | trade (details : TradeDetails)
  | cancel (selling buying : String)

structure OfferReview where
  action : OfferAction
  operation : OfferOperation
  walletName : String
  source : String
  offerId : Option I64
  feeXlm : String
  network : String
  transactionTimeoutSeconds : U64
  details : OfferReviewDetails
  ledgerAuthorization : LedgerAuthorizationSnapshot

structure PreparedOffer where
  review : OfferReview
  wallet : WalletRecord
  envelope : TransactionEnvelope

/-- What the client asks Horizon for while it prepares an offer. -/
structure OfferGateway where
  getAccount : String → Except String Json
  getLedgerParameters : Except String LedgerParameters
  getOffer : I64 → Except String Json

/-! ### The request -/

def ensurePair (base counter : AssetId) : Except String Unit :=
  ensure (¬ base = counter) "Offer assets must be different"

def validateOfferId (offerId : I64) : Except String Unit :=
  ensure (offerId.val > 0) "offer id must be a positive integer"

namespace OfferRequest

def wallet : OfferRequest → Option String
  | .create wallet .. | .update wallet .. | .cancel wallet _ => wallet

/-- What is checked before a wallet is resolved. -/
def validate : OfferRequest → Except String Unit
  | .create .. => .ok ⟨⟩
  | .update _ offerId .. | .cancel _ offerId => validateOfferId offerId

end OfferRequest

/-- A positive number of stroops. -/
abbrev PositiveStroops := { amount : I64 // 0 < amount.val }

def parseOfferValue (value label : String) : Except String PositiveStroops :=
  match h : parseStroops value true with
  | some amount => .ok ⟨amount, (parseStroops_positive.mp h).2⟩
  | none =>
    .error s!"Offer {label} must be greater than zero with at most 7 decimal places"

/-! ### The account -/

section Definitions

variable (strKey : StrKey) (account : Json) (accountId : String)

def ensureFullOfferAuthorization (asset : AssetId) : Except String Unit :=
  if asset.isNative ∨ asset.issuerIs strKey accountId then .ok ⟨⟩
  else do
    let balances ← okOr (accountBalances account) "Horizon returned malformed balance data"
    let raw ← okOr (balances.find? (asset.matchesBalance strKey))
      s!"Trustline is missing for {asset.display strKey}"
    let authorized ← okOr (raw.get? "is_authorized" >>= Json.asBool?)
      s!"Horizon returned malformed authorization state for {asset.display strKey}"
    ensure (authorized = true)
      s!"Trustline for {asset.display strKey} is not fully authorized for offer management"

def issuerRequiresAuthorization : Except String Bool :=
  okOr (account.get? "flags" >>= Json.asObject? >>= (·.lookup "auth_required") >>= Json.asBool?)
    "Horizon returned malformed issuer authorization flags"

def accountCanHold (asset : AssetId) : Bool :=
  asset.isNative || asset.issuerIs strKey accountId ||
    (accountBalances account).any fun balances => balances.any (asset.matchesBalance strKey)

/-- What is bought goes to an authorized line, or to one that may be opened. -/
def ensureReceivingSide (getAccount : String → Except String Json) (buying : AssetId)
    (addsTrustline allowTrustline : Bool) : Except String Unit :=
  if addsTrustline then do
    ensure (allowTrustline = true)
      s!"Receiving trustline is missing for {
        buying.display strKey}. Add it first or explicitly allow adding the trustline."
    let issuer ← okOr (buying.issuer strKey) "issued receiving asset is missing an issuer"
    let issuerAccount ← getAccount issuer
    let required ← issuerRequiresAuthorization issuerAccount
    ensure (¬ required)
      s!"Receiving trustline for {
        buying.display strKey} requires issuer authorization before an offer can be created"
  else ensureFullOfferAuthorization strKey account accountId buying

end Definitions

/-! ### The operation -/

def operationForSide : OfferSide → OfferOperation
  | .buy => .manageBuyOffer
  | .sell => .manageSellOffer

def offerOperation (side : OfferSide) (base counter : AssetId) (amount : I64) (price : Price)
    (offerId : I64) : OperationBody :=
  match side with
  | .buy => .manageBuyOffer counter.toXdr base.toXdr amount price offerId
  | .sell => .manageSellOffer base.toXdr counter.toXdr amount price offerId

/-- The operation that opens the line of what is bought, if one does. -/
def receivingTrustline (buying : AssetId) (addsTrustline : Bool) :
    Except String (List OperationBody) :=
  if addsTrustline then do
    let limit ← okOr (parseStroops defaultTrustlineLimit true)
      "invalid Fresnica trustline policy limit"
    let body ← changeTrustBody buying limit
    return [body]
  else .ok []

/-! ### The stored offer -/

def ensureOfferOwner (offer : Json) (wallet : WalletRecord) : Except String Unit := do
  let seller ← okOr (text offer "seller") "Horizon returned malformed offer seller"
  ensure (¬ seller ≠ wallet.address)
    s!"Offer is owned by {seller}, not wallet {wallet.address}"

/-- The asset of a side of a stored offer. -/
def storedAsset (strKey : StrKey) (offer : Json) (side : String) : Except String AssetId := do
  let raw ← okOr (offer.get? side) s!"Horizon returned malformed offer {side} asset"
  AssetId.fromHorizon strKey raw

/-- The amount of a stored offer. -/
def storedAmount (offer : Json) : Except String I64 :=
  okOr (text offer "amount" >>= (parseStroops · false)) "Horizon returned malformed offer amount"

/-! ### The transaction -/

section Definitions

variable {Bytes Digest : Type} (p : Primitives Bytes Digest) (gateway : OfferGateway)
variable (wallets : WalletList) (network : String) (timeoutSeconds : U64) (now : Instant)
variable (wallet : WalletRecord)

/-- The envelope of an offer, with what is needed to authorize it. -/
def offerEnvelope (account : Json) (baseFee : U32) (bodies : List OperationBody) :
    Except String (TransactionEnvelope × LedgerAuthorizationSnapshot) := do
  let sequence ← accountSequence account
  let envelope ← buildOperationEnvelopeWithMemoAndTimeout p.strKey wallet.address bodies sequence
    baseFee .none timeoutSeconds now
  let ledgerAuthorization ← preparedClassicAuthorizationSnapshot p wallets network envelope account
  return (envelope, ledgerAuthorization)

def TradeDetails.of (strKey : StrKey) (side : OfferSide) (base counter : AssetId)
    (amount priceStroops : I64) (price : Price) (trustline : Option AssetId) :
    Except String TradeDetails := do
  let shownPrice ← formatPriceRatio price.n price.d
  let total ← formatPriceProduct amount price
  return {
    side
    base := base.display strKey
    counter := counter.display strKey
    amount := formatStroops amount
    price := shownPrice
    requestedPrice := requestedPriceIfApproximated priceStroops price
    priceN := price.n
    priceD := price.d
    total
    trustlineAsset := trustline.map (·.display strKey)
    trustlineLimit := trustline.map fun _ => defaultTrustlineLimit }

def prepareOfferCreate (side : OfferSide) (baseText counterText amountText priceText : String)
    (allowTrustline : Bool) : Except String PreparedOffer := do
  let base ← AssetId.parse p.strKey baseText
  let counter ← AssetId.parse p.strKey counterText
  ensurePair base counter
  let amount ← parseOfferValue amountText "amount"
  let priceStroops ← parseOfferValue priceText "price"
  let price ← stellarPrice priceStroops.val priceStroops.property
  let account ← gateway.getAccount wallet.address
  let ledger ← gateway.getLedgerParameters
  let selling := (side.assets base counter).1
  let buying := (side.assets base counter).2
  let addsTrustline := ! accountCanHold p.strKey account wallet.address buying
  ensureFullOfferAuthorization p.strKey account wallet.address selling
  ensureReceivingSide p.strKey account wallet.address gateway.getAccount buying addsTrustline
    allowTrustline
  let operationCount : U32 := if addsTrustline then .lit 2 else .lit 1
  let totalFee ← okOr (ledger.baseFeeInStroops.checkedMul operationCount)
    "transaction fee overflow"
  preflightCreate p.strKey account wallet.address side selling buying amount.val price
    ledger.baseReserveInStroops (feeStroops totalFee) (extraSubentries addsTrustline) addsTrustline
  let trustline ← receivingTrustline buying addsTrustline
  let (envelope, ledgerAuthorization) ← offerEnvelope p wallets network timeoutSeconds now wallet
    account ledger.baseFeeInStroops
    (trustline ++ [offerOperation side base counter amount.val price (.lit 0)])
  let details ← TradeDetails.of p.strKey side base counter amount.val priceStroops.val price
    (if addsTrustline then some buying else none)
  return {
    review := {
      action := .create
      operation := operationForSide side
      walletName := wallet.name
      source := wallet.address
      offerId := none
      feeXlm := formatStroops (feeStroops totalFee)
      network := wallet.network
      transactionTimeoutSeconds := timeoutSeconds
      details := .trade details
      ledgerAuthorization }
    wallet
    envelope }

def prepareOfferUpdate (offerId : I64) (baseText counterText amountText priceText : String) :
    Except String PreparedOffer := do
  let base ← AssetId.parse p.strKey baseText
  let counter ← AssetId.parse p.strKey counterText
  ensurePair base counter
  let amount ← parseOfferValue amountText "amount"
  let priceStroops ← parseOfferValue priceText "price"
  let price ← stellarPrice priceStroops.val priceStroops.property
  let rawOffer ← gateway.getOffer offerId
  ensureOfferOwner rawOffer wallet
  let storedSelling ← storedAsset p.strKey rawOffer "selling"
  let storedBuying ← storedAsset p.strKey rawOffer "buying"
  let side ← inferSide storedSelling storedBuying base counter
  let account ← gateway.getAccount wallet.address
  let ledger ← gateway.getLedgerParameters
  let selling := (side.assets base counter).1
  let buying := (side.assets base counter).2
  ensureFullOfferAuthorization p.strKey account wallet.address selling
  ensureFullOfferAuthorization p.strKey account wallet.address buying
  let oldAmount ← storedAmount rawOffer
  let oldPrice ← horizonPrice rawOffer
  preflightUpdate p.strKey account wallet.address side selling buying amount.val price oldAmount
    oldPrice ledger.baseReserveInStroops (feeStroops ledger.baseFeeInStroops)
  let (envelope, ledgerAuthorization) ← offerEnvelope p wallets network timeoutSeconds now wallet
    account ledger.baseFeeInStroops [offerOperation side base counter amount.val price offerId]
  let details ← TradeDetails.of p.strKey side base counter amount.val priceStroops.val price none
  return {
    review := {
      action := .update
      operation := operationForSide side
      walletName := wallet.name
      source := wallet.address
      offerId := some offerId
      feeXlm := formatStroops (feeStroops ledger.baseFeeInStroops)
      network := wallet.network
      transactionTimeoutSeconds := timeoutSeconds
      details := .trade details
      ledgerAuthorization }
    wallet
    envelope }

def prepareOfferCancel (offerId : I64) : Except String PreparedOffer := do
  let rawOffer ← gateway.getOffer offerId
  ensureOfferOwner rawOffer wallet
  let selling ← storedAsset p.strKey rawOffer "selling"
  let buying ← storedAsset p.strKey rawOffer "buying"
  let price ← horizonPrice rawOffer
  let account ← gateway.getAccount wallet.address
  let ledger ← gateway.getLedgerParameters
  ensureOfferFeeCapacity p.strKey account ledger.baseReserveInStroops
    (feeStroops ledger.baseFeeInStroops)
  -- whichever operation made the offer, it is cancelled in its stored orientation
  let (envelope, ledgerAuthorization) ← offerEnvelope p wallets network timeoutSeconds now wallet
    account ledger.baseFeeInStroops
    [.manageSellOffer selling.toXdr buying.toXdr (.lit 0) price offerId]
  return {
    review := {
      action := .cancel
      operation := .manageSellOffer
      walletName := wallet.name
      source := wallet.address
      offerId := some offerId
      feeXlm := formatStroops (feeStroops ledger.baseFeeInStroops)
      network := wallet.network
      transactionTimeoutSeconds := timeoutSeconds
      details := .cancel (selling.display p.strKey) (buying.display p.strKey)
      ledgerAuthorization }
    wallet
    envelope }

/-- The offer of a request, once its wallet is resolved. -/
def prepareOfferWithWallet (request : OfferRequest) : Except String PreparedOffer :=
  match request with
  | .create _ side base counter amount price allowTrustline =>
    prepareOfferCreate p gateway wallets network timeoutSeconds now wallet side base counter amount
      price allowTrustline
  | .update _ offerId base counter amount price =>
    prepareOfferUpdate p gateway wallets network timeoutSeconds now wallet offerId base counter
      amount price
  | .cancel _ offerId =>
    prepareOfferCancel p gateway wallets network timeoutSeconds now wallet offerId

end Definitions

def prepareOffer {Bytes Digest ρ : Type} (p : Primitives Bytes Digest)
    (store : PendingTransactionStore) (rfc3339 : Rfc3339) (resolve : WalletResolver)
    (lookup : String → Except String (Option ρ)) (save : SaveOutcome) (gateway : OfferGateway)
    (wallets : WalletList) (network : String) (timeoutSeconds : U64) (now : Instant)
    (request : OfferRequest) (file : StoreFile) : Except String PreparedOffer × StoreFile :=
  match request.validate with
  | .error error => (.error error, file)
  | .ok _ =>
    let (wallet, file) :=
      resolveWriteWallet store rfc3339 resolve network request.wallet lookup now save file
    (do
      let wallet ← wallet
      prepareOfferWithWallet p gateway wallets network timeoutSeconds now wallet request, file)

end Fresnica
