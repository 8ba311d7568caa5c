import Fresnica.Dex.Preflight
import Fresnica.LedgerAuthorization.Account
import Fresnica.LedgerAuthorization.Snapshot
import Fresnica.Payment.Transfer
import Fresnica.Soroban.Prepared
import Fresnica.Transaction.Submission

/-!
# Preparing a trustline

A trustline is added with a limit, given another limit, or removed. The account, the issuer and
the liquidity pools that the account has shares of are looked up at Horizon before the
transaction is built.

## Main definitions

* `TrustlineAction`, `TrustlineReview`, `PreparedTrustline`
* `ensureNativeCapacity`, `ensureNotUsedByLiquidityPool` — checks of the account
* `initialTrustlineState`, `existingTrustlineState` — how the line is authorized
* `trustlineChange` — what an action changes, if all checks pass
* `prepareTrustlineWithWallet`, `prepareTrustline` — the transaction and its review
-/

namespace Fresnica

open Foundation

inductive TrustlineAction
  | add (limit : Option String)
  | setLimit (limit : String)
  | remove
  deriving DecidableEq, Repr

structure TrustlineRequest where
  wallet : Option String
  asset : String
  action : TrustlineAction
  deriving DecidableEq, Repr

inductive TrustlineOperation
  | add
  | setLimit
  | remove
  deriving DecidableEq, Repr

inductive TrustlineAuthorization
  | full
  | maintainLiabilities
  | unauthorized
  deriving DecidableEq, Repr

structure TrustlineReview where
  operation : TrustlineOperation
  walletName : String
  source : String
  asset : String
  limit : Option String
  authorization : Option TrustlineAuthorization
  clawbackEnabled : Option Bool
  feeXlm : String
  network : String
  transactionTimeoutSeconds : U64
  ledgerAuthorization : LedgerAuthorizationSnapshot

structure PreparedTrustline where
  review : TrustlineReview
  wallet : WalletRecord
  envelope : TransactionEnvelope

/-- What the client asks Horizon for while it prepares a trustline. -/
structure TrustlineGateway where
  getAccount : String → Except String Json
  getLedgerParameters : Except String LedgerParameters
  getAccountOptional : String → Except String (Option Json)
  accountExists : String → Except String Bool
  getLiquidityPool : String → Except String Json

/-! ### The account -/

section Definitions

variable (strKey : StrKey)

def findTrustline (account : Json) (asset : AssetId) : Option Json :=
  accountBalances account >>= fun balances => balances.find? fun raw =>
    text raw "asset_type" ≠ some "liquidity_pool_shares" ∧ asset.matchesBalance strKey raw

def ensureNativeCapacity (account : Json) (baseReserve : I64) (fee : U32)
    (additionalReserve : I64) : Except String Unit := do
  let native ← okOr (accountBalances account >>= fun balances =>
      balances.find? fun raw => text raw "asset_type" = some "native")
    "Insufficient XLM for reserve and fee: available 0"
  let balance ← balanceStroops native "balance"
  let selling ← balanceStroops native "selling_liabilities"
  let minimum ← minimumBalanceStroops account baseReserve
  let free := ((balance.saturatingSub selling).saturatingSub minimum).max (.lit 0)
  let required ← okOr ((feeStroops fee).checkedAdd additionalReserve)
    "required XLM reserve overflow"
  ensure (¬ free < required)
    s!"Insufficient XLM for reserve and fee: need {formatStroops required}, available {
      formatStroops free}"

def liquidityPoolUsesAsset (pool : Json) (asset : AssetId) : Except String Bool := do
  let reserves ← okOr (pool.get? "reserves" >>= Json.asArray?)
    "Horizon returned malformed liquidity-pool reserves"
  return reserves.any fun reserve => text reserve "asset" = some (asset.display strKey)

/-- A row of shares is of a pool that does not use the asset. -/
def ensureShareUnrelated (getLiquidityPool : String → Except String Json) (asset : AssetId)
    (raw : Json) : Except String Unit :=
  if text raw "asset_type" ≠ some "liquidity_pool_shares" then .ok ⟨⟩
  else do
    let poolId ← okOr (text raw "liquidity_pool_id")
      "Horizon returned malformed liquidity-pool balance"
    let pool ← getLiquidityPool poolId
    let uses ← liquidityPoolUsesAsset strKey pool asset
    ensure (¬ uses) s!"Trustline cannot be removed while liquidity pool {poolId} uses {
      asset.display strKey}"

def ensureNotUsedByLiquidityPool (getLiquidityPool : String → Except String Json)
    (account : Json) (asset : AssetId) : Except String Unit := do
  let balances ← okOr (accountBalances account) "Horizon returned malformed balance data"
  forM balances (ensureShareUnrelated strKey getLiquidityPool asset)

/-! ### The state of a line -/

def initialTrustlineState (issuer : Json) : Except String (TrustlineAuthorization × Bool) := do
  let flags ← okOr (issuer.get? "flags" >>= Json.asObject?)
    "Horizon returned malformed issuer flags"
  let authRequired ← okOr (flags.lookup "auth_required" >>= Json.asBool?)
    "Horizon returned malformed issuer authorization flags"
  let clawbackEnabled ← okOr (flags.lookup "auth_clawback_enabled" >>= Json.asBool?)
    "Horizon returned malformed issuer clawback flags"
  return (if authRequired then .unauthorized else .full, clawbackEnabled)

def existingTrustlineState (raw : Json) : Except String (TrustlineAuthorization × Bool) := do
  let fullyAuthorized ← okOr (raw.get? "is_authorized" >>= Json.asBool?)
    "Horizon returned malformed trustline authorization state"
  let maintainLiabilities ← okOr
    (raw.get? "is_authorized_to_maintain_liabilities" >>= Json.asBool?)
    "Horizon returned malformed trustline authorization state"
  let clawbackEnabled ← okOr (raw.get? "is_clawback_enabled" >>= Json.asBool?)
    "Horizon returned malformed trustline clawback state"
  let authorization : TrustlineAuthorization :=
    if fullyAuthorized then .full
    else if maintainLiabilities then .maintainLiabilities
    else .unauthorized
  return (authorization, clawbackEnabled)

def parseLimit (value : String) : Except String I64 :=
  okOr (parseStroops value true)
    "Trustline limit must be greater than zero with at most 7 decimal places"

/-! ### The three actions -/

/-- What an action changes, and what the line is shown with. -/
structure TrustlineChange where
  operation : TrustlineOperation
  limit : I64
  authorization : Option TrustlineAuthorization
  clawbackEnabled : Option Bool
  deriving DecidableEq, Repr

variable (gateway : TrustlineGateway) (account : Json) (ledger : LedgerParameters)
variable (asset : AssetId) (issuer : String)

def addTrustline (existing : Option Json) (limit : Option String) :
    Except String TrustlineChange := do
  ensure (existing = none)
    s!"Trustline already exists for {
      asset.display strKey}; use trust limit to change its limit"
  let issuerAccount ← gateway.getAccountOptional issuer
  let issuerAccount ← okOr issuerAccount s!"Asset issuer account does not exist: {issuer}"
  let (authorization, clawbackEnabled) ← initialTrustlineState issuerAccount
  ensureNativeCapacity account ledger.baseReserveInStroops ledger.baseFeeInStroops
    ledger.baseReserveInStroops
  let limit ← parseLimit (limit.getD defaultTrustlineLimit)
  return ⟨.add, limit, some authorization, some clawbackEnabled⟩

def setTrustlineLimit (existing : Option Json) (limit : String) :
    Except String TrustlineChange := do
  let raw ← okOr existing
    s!"Trustline does not exist for {asset.display strKey}; use trust add first"
  let limit ← parseLimit limit
  let balance ← balanceStroops raw "balance"
  let buying ← balanceStroops raw "buying_liabilities"
  let committed ← okOr (balance.checkedAdd buying) "trustline committed balance overflow"
  ensure (¬ limit < committed)
    s!"Trustline limit cannot be below current balance plus buying liabilities ({
      formatStroops committed})"
  let issuerExists ← gateway.accountExists issuer
  ensure (issuerExists = true) s!"Asset issuer account does not exist: {issuer}"
  let (authorization, clawbackEnabled) ← existingTrustlineState raw
  ensureNativeCapacity account ledger.baseReserveInStroops ledger.baseFeeInStroops (.lit 0)
  return ⟨.setLimit, limit, some authorization, some clawbackEnabled⟩

def removeTrustline (existing : Option Json) : Except String TrustlineChange := do
  let raw ← okOr existing s!"Trustline does not exist for {asset.display strKey}"
  let balance ← balanceStroops raw "balance"
  let selling ← balanceStroops raw "selling_liabilities"
  let buying ← balanceStroops raw "buying_liabilities"
  ensure (¬ (balance ≠ .lit 0 ∨ selling ≠ .lit 0 ∨ buying ≠ .lit 0))
    "Trustline cannot be removed while balance or liabilities are non-zero"
  ensureNotUsedByLiquidityPool strKey gateway.getLiquidityPool account asset
  ensureNativeCapacity account ledger.baseReserveInStroops ledger.baseFeeInStroops (.lit 0)
  return ⟨.remove, .lit 0, none, none⟩

def trustlineChange (action : TrustlineAction) : Except String TrustlineChange :=
  let existing := findTrustline strKey account asset
  match action with
  | .add limit => addTrustline strKey gateway account ledger asset issuer existing limit
  | .setLimit limit => setTrustlineLimit strKey gateway account ledger asset issuer existing limit
  | .remove => removeTrustline strKey gateway account ledger asset existing

def changeTrustBody (limit : I64) : Except String OperationBody :=
  if asset.isNative then .error "XLM does not use a trustline"
  else .ok (.changeTrust asset.toXdr limit)

end Definitions

/-! ### The transaction -/

section Definitions

variable {Bytes Digest : Type} (p : Primitives Bytes Digest)

def reviewLedgerAuthorization (wallets : WalletList) (plan : LedgerAuthorizationPlan)
    (network : String) (envelope : TransactionEnvelope) :
    Except String LedgerAuthorizationSnapshot := do
  let passphrase ← networkPassphrase network
  let satisfied ← satisfiedTransactionConditions p plan envelope passphrase
  let localRecords ← localSigningRecords wallets network
  let transactionHash ← transactionHashBytes p envelope network
  return summarizeLedgerAuthorization plan satisfied (Std.ExtTreeSet.ofList localRecords.keys)
    (hex (p.digestBytes transactionHash))

def preparedClassicAuthorizationSnapshot (wallets : WalletList) (network : String)
    (envelope : TransactionEnvelope) (sourceAccount : Json) :
    Except String LedgerAuthorizationSnapshot := do
  let account ← mapErr
    (fun error => s!"Unable to interpret prepared transaction authorization: {error}")
    (LedgerAccountAuthorization.fromHorizon p.strKey sourceAccount)
  let plan ← planClassicLedgerAuthorization p.strKey envelope [account]
  reviewLedgerAuthorization p wallets plan network envelope

def TrustlineReview.of (wallet : WalletRecord) (asset : AssetId) (change : TrustlineChange)
    (fee : U32) (timeoutSeconds : U64) (ledgerAuthorization : LedgerAuthorizationSnapshot) :
    TrustlineReview where
  operation := change.operation
  walletName := wallet.name
  source := wallet.address
  asset := asset.display p.strKey
  limit := if change.operation ≠ .remove then some (formatStroops change.limit) else none
  authorization := change.authorization
  clawbackEnabled := change.clawbackEnabled
  feeXlm := formatStroops (feeStroops fee)
  network := wallet.network
  transactionTimeoutSeconds := timeoutSeconds
  ledgerAuthorization := ledgerAuthorization

def prepareTrustlineWithWallet (gateway : TrustlineGateway) (wallets : WalletList)
    (network : String) (timeoutSeconds : U64) (now : Instant) (request : TrustlineRequest)
    (wallet : WalletRecord) : Except String PreparedTrustline := do
  let asset ← AssetId.parseIssued p.strKey request.asset
  let issuer ← okOr (asset.issuer p.strKey) "issued asset issuer"
  ensure (¬ issuer = wallet.address)
    "An asset issuer cannot create a trustline to its own asset"
  let account ← gateway.getAccount wallet.address
  let ledger ← gateway.getLedgerParameters
  let change ← trustlineChange p.strKey gateway account ledger asset issuer request.action
  let body ← changeTrustBody asset change.limit
  let sequence ← accountSequence account
  let envelope ← buildOperationEnvelopeWithMemoAndTimeout p.strKey wallet.address [body] sequence
    ledger.baseFeeInStroops .none timeoutSeconds now
  let ledgerAuthorization ← preparedClassicAuthorizationSnapshot p wallets network envelope account
  return {
    review := .of p wallet asset change ledger.baseFeeInStroops timeoutSeconds ledgerAuthorization
    wallet
    envelope }

def prepareTrustline {ρ : Type} (store : PendingTransactionStore) (rfc3339 : Rfc3339)
    (resolve : WalletResolver) (lookup : String → Except String (Option ρ)) (save : SaveOutcome)
    (gateway : TrustlineGateway) (wallets : WalletList) (network : String) (timeoutSeconds : U64)
    (now : Instant) (request : TrustlineRequest) (file : StoreFile) :
    Except String PreparedTrustline × StoreFile :=
  let (wallet, file) :=
    resolveWriteWallet store rfc3339 resolve network request.wallet lookup now save file
  (wallet >>= prepareTrustlineWithWallet p gateway wallets network timeoutSeconds now request, file)

end Definitions

end Fresnica
