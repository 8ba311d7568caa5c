import Fresnica.Horizon
import Fresnica.Transaction.Build

/-!
# Preparing a payment

A payment is checked against the accounts of both sides before it is built: the
source must be able to send the amount and to pay the fee, and the destination to
receive it. A destination that does not exist is created by the payment, with
rules of its own. The base-64 codec is a parameter.

## Main definitions

* `PaymentDestination`, `PaymentMemo`
* `validateTransfer`, `validateDestinationReceive`, `validateDestinationMemo` — the checks
* `checkPayment` — all checks of a payment, in their order
* `preparePaymentWithWallet` — the checks, and the envelope of what passes them

## Main results

* `preparePaymentWithWallet_checked` — a payment that is built passed the checks
-/

namespace Fresnica

open Foundation

inductive PaymentMemo
  | none
  | text (value : String)
  | id (value : U64)
  | hash (value : Uint256)
  deriving DecidableEq, Repr

def PaymentMemo.toXdr : PaymentMemo → Except String Memo
  | .none => .ok .none
  | .text value => do
    ensure (value.utf8ByteSize ≤ 28) "text memo must be at most 28 bytes"
    return .text value
  | .id value => .ok (.id value)
  | .hash value => .ok (.hash value)

structure PaymentDestination where
  ledgerAccount : AccountId
  operationDestination : MuxedAccount
  muxedId : Option U64
  deriving DecidableEq, Repr

namespace PaymentDestination

/-- The destination of a parsed address. -/
def ofMuxed : MuxedAccount → PaymentDestination
  | .ed25519 key => ⟨key, .ed25519 key, none⟩
  | .muxedEd25519 id key => ⟨key, .muxedEd25519 id key, some id⟩

def parse (muxedAccountOf? : String → Option MuxedAccount) (value : String) :
    Except String PaymentDestination :=
  (okOr (muxedAccountOf? value) "destination must be a Classic Stellar G or M address").map ofMuxed

def isMuxed (destination : PaymentDestination) : Bool := destination.muxedId.isSome

end PaymentDestination

def paymentBody (destination : PaymentDestination) (asset : AssetId) (amount : I64)
    (createDestination : Bool) : Except String OperationBody :=
  if createDestination then do
    ensure (¬ destination.isMuxed) "CreateAccount cannot target a muxed M address"
    return .createAccount destination.ledgerAccount amount
  else .ok (.payment destination.operationDestination asset.toXdr amount)

/-- A fee, as a signed amount. -/
def feeStroops (fee : U32) : I64 := .lit fee.val

@[simp] theorem val_feeStroops (fee : U32) : (feeStroops fee).val = fee.val := by
  have hlo := fee.lo_le
  have hhi := fee.le_hi
  exact BoundedInt.val_lit (by omega) (by omega)

variable (strKey : StrKey)

def ensurePaymentTrustlineAuthorized (raw : Json) (asset : AssetId) : Except String Unit :=
  match raw.get? "is_authorized" >>= Json.asBool? with
  | some true => .ok ⟨⟩
  | some false =>
    .error s!"Trustline for {asset.display strKey} is not fully authorized for payment"
  | none =>
    .error s!"Horizon returned malformed authorization state for {asset.display strKey}"

def ensurePaymentFeeCapacity (account : Json) (ledger : LedgerParameters) :
    Except String Unit := do
  let balances ← okOr (accountBalances account) "Horizon returned malformed balance data"
  let native ← okOr (balances.find? fun balance => text balance "asset_type" = some "native")
    "No XLM balance is available to pay the transaction fee"
  let balance ← balanceStroops native "balance"
  let selling ← balanceStroops native "selling_liabilities"
  let minimum ← minimumBalanceStroops account ledger.baseReserveInStroops
  let free := ((balance.saturatingSub selling).saturatingSub minimum).max (.lit 0)
  let fee := feeStroops ledger.baseFeeInStroops
  ensure (¬ free < fee)
    s!"Insufficient XLM for transaction fee: need {formatStroops fee}, available {
      formatStroops free}"

/-- What can be sent of an asset, out of its row. -/
def transferAvailable (account : Json) (asset : AssetId) (ledger : LedgerParameters)
    (raw : Option Json) : Except String I64 :=
  match raw with
  | some rawBalance =>
    if asset.isNative then do
      let balance ← balanceStroops rawBalance "balance"
      let selling ← balanceStroops rawBalance "selling_liabilities"
      let minimum ← minimumBalanceStroops account ledger.baseReserveInStroops
      return (((balance.saturatingSub selling).saturatingSub minimum).saturatingSub
        (feeStroops ledger.baseFeeInStroops)).max (.lit 0)
    else do
      ensurePaymentTrustlineAuthorized strKey rawBalance asset
      ensurePaymentFeeCapacity account ledger
      let balance ← balanceStroops rawBalance "balance"
      let selling ← balanceStroops rawBalance "selling_liabilities"
      return (balance.saturatingSub selling).max (.lit 0)
  | none => .ok (.lit 0)

def validateTransfer (account : Json) (accountId : String) (asset : AssetId) (requested : I64)
    (ledger : LedgerParameters) : Except String Unit := do
  let balances ← okOr (accountBalances account) "Horizon returned malformed balance data"
  if ¬ asset.isNative ∧ asset.issuerIs strKey accountId then
    ensurePaymentFeeCapacity account ledger
  else do
    let raw := balances.find? (asset.matchesBalance strKey)
    let available ← transferAvailable strKey account asset ledger raw
    ensure (¬ requested > available)
      s!"Insufficient {asset.display strKey} balance: requested {
        formatStroops requested}, available {formatStroops available}"

/-- What can be received of an asset, into its row. -/
def receiveCapacity (asset : AssetId) (raw : Json) : Except String I64 :=
  if asset.isNative then do
    let balance ← balanceStroops raw "balance"
    let buying ← balanceStroops raw "buying_liabilities"
    let committed ← okOr (balance.checkedAdd buying)
      "destination native receiving capacity overflow"
    return (.lit 9223372036854775807 : I64).saturatingSub committed
  else do
    ensurePaymentTrustlineAuthorized strKey raw asset
    let limit ← balanceStroops raw "limit"
    let balance ← balanceStroops raw "balance"
    let buying ← balanceStroops raw "buying_liabilities"
    let committed ← okOr (balance.checkedAdd buying)
      "destination trustline receiving capacity overflow"
    return (limit.saturatingSub committed).max (.lit 0)

def validateDestinationReceive (account : Json) (accountId : String) (asset : AssetId)
    (requested : I64) : Except String Unit :=
  if ¬ asset.isNative ∧ asset.issuerIs strKey accountId then .ok ⟨⟩
  else do
    let balances ← okOr (accountBalances account)
      "Horizon returned malformed destination balance data"
    let raw ← okOr (balances.find? (asset.matchesBalance strKey))
      s!"Destination has no trustline for {asset.display strKey}"
    let capacity ← receiveCapacity strKey asset raw
    ensure (¬ requested > capacity)
      s!"Insufficient receiving capacity for {asset.display strKey} at destination: need {
        formatStroops requested}, available {formatStroops capacity}"

/-- The text a destination that requires a memo has in its data. -/
def memoRequiredText (account : Json) : Option String :=
  account.get? "data" >>= Json.asObject? >>= (·.lookup "config.memo_required") >>= Json.asStr?

def accountRequiresMemo (base64 : String → Option (List UInt8)) (account : Json) :
    Except String Bool :=
  match memoRequiredText account with
  | none => .ok false
  | some encoded => do
    let decoded ← okOr (base64 encoded) "Horizon returned malformed config.memo_required data"
    return decoded = [49]

def validateDestinationMemo (base64 : String → Option (List UInt8)) (destinationAddress : String)
    (destination : PaymentDestination) (memo : PaymentMemo) (account : Json) :
    Except String Unit := do
  match destination.muxedId, memo with
  | some muxedId, .id memoId =>
    ensure (¬ muxedId ≠ memoId)
      s!"Muxed destination {destinationAddress} embeds id {
        muxedId.val}, which conflicts with memo id {memoId.val}"
  | _, _ => pure ()
  -- the id in the address stands for a memo
  if destination.isMuxed then return
  if memo = .none then
    let requiresMemo ← accountRequiresMemo base64 account
    ensure (¬ requiresMemo)
      s!"Destination {
        destinationAddress} requires a transaction memo (SEP-29). Add a memo and try again."

/-- A destination that the ledger does not have is a plain address, and the asset is
native. -/
def checkMissingDestination (destinationAddress : String) (destination : PaymentDestination)
    (asset : AssetId) (destinationAccount : Option Json) : Except String Unit := do
  let ledgerAddress := strKey.publicKey destination.ledgerAccount
  ensure (¬ (destinationAccount = none ∧ destination.isMuxed))
    s!"Muxed destination {destinationAddress} refers to missing account {
      ledgerAddress}; M addresses cannot create Stellar accounts"
  ensure (¬ (destinationAccount = none ∧ ¬ asset.isNative))
    "Destination account does not exist. Only XLM can create a new Stellar account; issued assets require an existing account and trustline."

/-- The least balance of an account that is created. -/
def ensureStartingBalance (amount : I64) (ledger : LedgerParameters) : Except String Unit := do
  let two : I64 := .lit 2
  let minimum ← okOr (two.checkedMul ledger.baseReserveInStroops) "base reserve overflow"
  ensure (¬ amount < minimum)
    s!"Creating a Stellar account requires at least {
      formatStroops minimum} XLM at the current base reserve; requested {formatStroops amount} XLM"

/-- The checks of both sides, once the ledger parameters are known. -/
def checkSides (base64 : String → Option (List UInt8)) (accountId : String) (asset : AssetId)
    (amount : I64) (destinationAddress : String) (destination : PaymentDestination)
    (memo : PaymentMemo) (account : Json) (destinationAccount : Option Json)
    (ledger : LedgerParameters) : Except String Unit := do
  validateTransfer strKey account accountId asset amount ledger
  match destinationAccount with
  | some destinationAccount => do
    validateDestinationReceive strKey destinationAccount
      (strKey.publicKey destination.ledgerAccount) asset amount
    validateDestinationMemo base64 destinationAddress destination memo destinationAccount
  | none => ensureStartingBalance amount ledger

/-- What the client asks Horizon for while it prepares a payment. -/
structure PaymentGateway where
  getAccount : String → Except String Json
  getAccountOptional : String → Except String (Option Json)
  getLedgerParameters : Except String LedgerParameters

def preparePaymentWithWallet (muxedAccountOf? : String → Option MuxedAccount)
    (base64 : String → Option (List UInt8)) (gateway : PaymentGateway) (address : String)
    (amountText assetText destinationAddress : String) (memo : PaymentMemo)
    (timeoutSeconds : U64) (now : Instant) : Except String TransactionEnvelope := do
  let asset ← AssetId.parse strKey assetText
  let amount ← parsePositiveStroops amountText
  let destination ← PaymentDestination.parse muxedAccountOf? destinationAddress
  let memoXdr ← memo.toXdr
  let account ← gateway.getAccount address
  let destinationAccount ←
    gateway.getAccountOptional (strKey.publicKey destination.ledgerAccount)
  checkMissingDestination strKey destinationAddress destination asset destinationAccount
  let ledger ← gateway.getLedgerParameters
  checkSides strKey base64 address asset amount destinationAddress destination memo account
    destinationAccount ledger
  let body ← paymentBody destination asset amount destinationAccount.isNone
  let sequence ← accountSequence account
  buildOperationEnvelopeWithMemoAndTimeout strKey address [body] sequence
    ledger.baseFeeInStroops memoXdr timeoutSeconds now

/-- All checks of a payment, in their order. -/
def checkPayment (base64 : String → Option (List UInt8)) (accountId : String) (asset : AssetId)
    (amount : I64) (destinationAddress : String) (destination : PaymentDestination)
    (memo : PaymentMemo) (account : Json) (destinationAccount : Option Json)
    (ledger : LedgerParameters) : Except String Unit := do
  checkMissingDestination strKey destinationAddress destination asset destinationAccount
  checkSides strKey base64 accountId asset amount destinationAddress destination memo account
    destinationAccount ledger

variable {strKey} {base64 : String → Option (List UInt8)} {gateway : PaymentGateway}
variable {muxedAccountOf? : String → Option MuxedAccount} {memo : PaymentMemo}
variable {address amountText assetText destinationAddress : String} {timeoutSeconds : U64}
variable {now : Instant} {envelope : TransactionEnvelope}

/-- A payment that is built is of a positive amount and passed the checks. -/
theorem preparePaymentWithWallet_checked
    (h : preparePaymentWithWallet strKey muxedAccountOf? base64 gateway address amountText assetText
      destinationAddress memo timeoutSeconds now = .ok envelope) :
    ∃ asset amount destination account destinationAccount ledger,
      0 < amount.val ∧ gateway.getAccount address = .ok account ∧
        checkPayment strKey base64 address asset amount destinationAddress destination memo
          account destinationAccount ledger = .ok () := by
  simp only [preparePaymentWithWallet, bind_eq_ok] at h
  obtain ⟨asset, -, amount, hamount, destination, -, _, -, account, haccount,
    destinationAccount, -, _, hmissing, ledger, -, _, hsides, -⟩ := h
  refine ⟨asset, amount, destination, account, destinationAccount, ledger,
    parsePositiveStroops_pos hamount, haccount, ?_⟩
  rw [checkPayment, hmissing, ok_bind, hsides]

end Fresnica
