import Fresnica.Foundation.Ordered
import Fresnica.Core.Sdk

/-!
# Wallets and their signers

A wallet record carries a protected signer, unless it only watches. A local signer
is opened with the passcode, or with an unlock key that the system releases after
it has authenticated the user; an external signer answers requests for its own
public key. The wallet directory enters as the result of listing it.

## Main definitions

* `WalletRecord`, `localSigningRecords` — records and the local signers among them
* `SystemAuthUnlockProvider`, `ExternalEd25519SigningProvider` — the other ways to
  sign
* `signTransactionXdrWithUnlockKey`, `signTransactionXdrWithPasscode` — signing with
  a record
-/

namespace Fresnica

open Foundation

def networkPassphrase : String → Except String String
  | "mainnet" => .ok "Public Global Stellar Network ; September 2015"
  | "testnet" => .ok "Test SDF Network ; September 2015"
  | other => .error s!"unknown network: {other}"

/-- A wallet; the protected signer is a JSON text. -/
structure WalletRecord where
  name : String
  address : String
  walletType : String
  network : String
  secret : Option String
  deriving DecidableEq, Repr

def WalletRecord.watchOnly (record : WalletRecord) : Bool := record.walletType = "watch-only"

/-- What listing the wallet directory returns. -/
abbrev WalletList := Except String (List WalletRecord)

/-- The records by address. -/
def recordsByAddress (records : List WalletRecord) (map : BTreeMap String WalletRecord) :
    BTreeMap String WalletRecord :=
  records.foldl (fun map record => map.insert record.address record) map

/-- The records that can sign on a network, by address. -/
def localSigningRecords (wallets : WalletList) (network : String) :
    Except String (BTreeMap String WalletRecord) := do
  let records ← wallets
  let signing := records.filter fun record =>
    record.network = network ∧ ¬ record.watchOnly ∧ record.secret.isSome
  return recordsByAddress signing ∅

def recordEnvelopeJson (record : WalletRecord) : Except String String :=
  okOr record.secret "watch-only wallet has no signing material"

/-! ### System authentication -/

/-- Two lower-case digits for each byte. -/
def hex (bytes : List UInt8) : String :=
  let digit (n : ℕ) : Char := "0123456789abcdef".toList.getD n '0'
  String.ofList (bytes.flatMap fun byte => [digit (byte.toNat / 16), digit (byte.toNat % 16)])

structure SystemAuthSlot where
  signerPublicKey : String
  envelopeFingerprint : String
  deriving DecidableEq, Repr

inductive SystemAuthRelease
  | unlockKey (key : List UInt8)
  | passphraseRequired
  | cancelled
  | failed (error : String)
  deriving DecidableEq, Repr

structure SystemAuthUnlockProvider where
  publicKey : String
  releaseUnlockKey : SystemAuthSlot → SystemAuthRelease

structure ExternalEd25519SigningProvider (Bytes Digest : Type) where
  publicKey : String
  signRequest : TransactionSigningRequest Bytes Digest → Except String (List UInt8)

def localSoftwarePassphraseRequired : String :=
  "Fresnica passphrase is required for selected local software signers"

def SystemAuthUnlockProvider.release (provider : SystemAuthUnlockProvider)
    (slot : SystemAuthSlot) : Except String SystemAuthRelease := do
  ensure (slot.signerPublicKey = provider.publicKey)
    "system-auth provider slot does not match signer identity"
  let release := provider.releaseUnlockKey slot
  match release with
  | .unlockKey key =>
    ensure (key.length = unlockKeyLength)
      s!"system-auth provider returned {key.length} bytes; expected {unlockKeyLength}"
  | .passphraseRequired | .cancelled | .failed _ => .ok ()
  return release

/-- The unlock key of a record, released by its provider. -/
def releaseUnlockKey (provider : SystemAuthUnlockProvider) (key : String)
    (slot : SystemAuthSlot) : Except String (List UInt8) := do
  match ← mapErr (fun error => s!"System authentication for {key} failed: {error}")
      (provider.release slot) with
  | .unlockKey unlockKey => return unlockKey
  | .passphraseRequired => throw localSoftwarePassphraseRequired
  | .cancelled => throw "System authentication cancelled"
  | .failed error => throw s!"System authentication for {key} failed: {error}"

/-- The system-auth providers by public key, each with its own local record. -/
def systemAuthProviderMap (records : BTreeMap String WalletRecord)
    (providers : List SystemAuthUnlockProvider) :
    Except String (BTreeMap String SystemAuthUnlockProvider) :=
  providers.foldlM (fun map provider => do
    ensure (provider.publicKey ∈ records)
      s!"system-auth provider {provider.publicKey} has no matching local protected software signer"
    ensure (provider.publicKey ∉ map) s!"duplicate system-auth provider: {provider.publicKey}"
    return map.insert provider.publicKey provider) ∅

/-! ### Signing with a record -/

section Record

variable {Bytes Digest : Type} (p : Primitives Bytes Digest) (sdk : TransactionSdk Bytes Digest)

def systemAuthSlot (record : WalletRecord) : Except String SystemAuthSlot := do
  ensure (¬ (record.watchOnly = true ∨ record.secret.isNone = true))
    "watch-only wallet has no software unlock key"
  let envelopeJson ← recordEnvelopeJson record
  return ⟨record.address, hex (p.sha256 envelopeJson.toUTF8.toList).toList⟩

def verifyPasscode (record : WalletRecord) (passcode : String) : Except String Unit := do
  let envelopeJson ← recordEnvelopeJson record
  let _ ← mapErr (fun _ => "invalid Fresnica passphrase")
    (sdk.deriveUnlockKey envelopeJson passcode record.address)
  return ()

/-- The protected signer of a record that can sign. -/
def protectedSigner (record : WalletRecord) : Except String String := do
  ensure (¬ (record.watchOnly = true ∨ record.secret.isNone = true))
    s!"wallet \"{record.name}\" is watch-only"
  okOr record.secret "wallet has no protected signing material"

def signTransactionXdrWithUnlockKey (record : WalletRecord) (network : String)
    (transactionXdr : Bytes) (unlockKey : List UInt8) : Except String Bytes := do
  let protectedJson ← protectedSigner record
  let passphrase ← networkPassphrase network
  mapErr (fun error : SdkError => match error.code with
      | .invalidUnlockKey => "Unable to unlock wallet: invalid system-auth unlock key"
      | _ => s!"Unable to sign transaction: {error.message}")
    (sdk.signTransactionXdr protectedJson unlockKey record.address transactionXdr passphrase)

def signTransactionXdrWithPasscode (record : WalletRecord) (network : String)
    (transactionXdr : Bytes) (passcode : String) : Except String Bytes := do
  let protectedJson ← protectedSigner record
  let passphrase ← networkPassphrase network
  mapErr (fun error : SdkError => match error.code with
      | .invalidPasscode => "Unable to unlock wallet: invalid Fresnica passcode"
      | _ => s!"Unable to sign transaction: {error.message}")
    (sdk.signTransactionXdrWithPasscode protectedJson passcode record.address transactionXdr
      passphrase)

end Record

/-! ### Local signers -/

variable {wallets : WalletList} {network key : String} {records : BTreeMap String WalletRecord}
variable {record : WalletRecord}

theorem address_of_recordsByAddress {items : List WalletRecord}
    {map : BTreeMap String WalletRecord}
    (hmap : ∀ key (record : WalletRecord), map[key]? = some record → record.address = key)
    (hget : (recordsByAddress items map)[key]? = some record) : record.address = key := by
  induction items generalizing map with
  | nil => exact hmap key record hget
  | cons item items ih =>
    refine ih (fun key record hkey => ?_) hget
    rw [Std.ExtTreeMap.getElem?_insert] at hkey
    split_ifs at hkey with heq
    · obtain rfl := Option.some_inj.mp hkey
      exact Std.LawfulEqCmp.compare_eq_iff_eq.mp heq
    · exact hmap key record hkey

/-- A local signer is found under its own address. -/
theorem address_of_localSigningRecords (h : localSigningRecords wallets network = .ok records)
    (hget : records[key]? = some record) : record.address = key := by
  obtain ⟨items, -, h⟩ := bind_eq_ok.mp h
  obtain rfl := Except.ok.inj h
  exact address_of_recordsByAddress (by simp) hget

end Fresnica
