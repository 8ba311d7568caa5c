import Fresnica.Core.Transaction

/-!
# The signing interface

Clients reach the core through functions over encoded envelopes. A protected
signer is opened with an unlock key, or with the passcode the key is derived from,
and must turn out to be the signer that was expected.

`TransactionSdk` lists the functions, so that a client can be studied over any
implementation of them; `fresnicaSdk` is the one of this repository, over a
`Vault` that opens protected signers.

## Main definitions

* `SdkError` — an error code and its message
* `TransactionSdk` — the interface
* `Vault`, `fresnicaSdk` — its implementation by the core

## Main results

* `applyEd25519Signature_ok`, `signTransactionXdr_ok` — both sign the envelope with
  the key they were asked for
-/

namespace Fresnica

open Foundation

inductive SdkErrorCode
  | invalidInput
  | invalidPasscode
  | invalidUnlockKey
  | invalidProtectedData
  | identityMismatch
  | invalidTransaction
  | invalidAuthorization
  | invalidMessageSignature
  | coreError
  deriving DecidableEq, Repr

structure SdkError where
  code : SdkErrorCode
  message : String
  deriving DecidableEq, Repr

namespace SdkError

def invalidInput (message : String) : SdkError := ⟨.invalidInput, message⟩

def invalidTransaction : SdkError :=
  ⟨.invalidTransaction, "invalid Stellar transaction or signature"⟩

def identityMismatch : SdkError :=
  ⟨.identityMismatch, "signer identity does not match expected signer"⟩

def core (message : String) : SdkError := ⟨.coreError, message⟩

end SdkError

/-- The signing functions a client calls. A protected signer is a JSON text, and
an unlock key is a byte string. -/
structure TransactionSdk (Bytes Digest : Type) where
  deriveUnlockKey : (protectedJson passcode expected : String) → Except SdkError (List UInt8)
  signTransactionXdr : (protectedJson : String) → (unlockKey : List UInt8) → (expected : String) →
    (transactionXdr : Bytes) → (networkPassphrase : String) → Except SdkError Bytes
  signTransactionXdrWithPasscode : (protectedJson passcode expected : String) →
    (transactionXdr : Bytes) → (networkPassphrase : String) → Except SdkError Bytes
  prepareEd25519Signing : (transactionXdr : Bytes) → (networkPassphrase : String) →
    Except SdkError (TransactionSigningRequest Bytes Digest)
  applyEd25519Signature : (transactionXdr : Bytes) → (networkPassphrase signerPublicKey : String) →
    (signature : List UInt8) → Except SdkError Bytes

/-- How protected signers are opened. -/
structure Vault (Bytes Digest : Type) where
  deriveUnlockKey : (protectedJson passcode expected : String) → Except SdkError (List UInt8)
  unprotect : (protectedJson : String) → (unlockKey : List UInt8) →
    Except SdkError (ClassicSigner Bytes Digest)

def unlockKeyLength : ℕ := 32

section Core

variable {Bytes Digest : Type} (p : Primitives Bytes Digest) (vault : Vault Bytes Digest)

/-- The signer is the one whose public key was expected. -/
def ensureExpectedIdentity (signer : ClassicSigner Bytes Digest) (expected : String) :
    Except SdkError Unit := do
  let key ← okOr (p.strKey.publicKeyOf? (Text.trim expected))
    (.invalidInput "expected_signer_public_key is invalid")
  ensure (signer.publicKey = p.strKey.publicKey key) .identityMismatch

def unlockSoftwareSigner (protectedJson : String) (unlockKey : List UInt8) (expected : String) :
    Except SdkError (ClassicSigner Bytes Digest) := do
  let signer ← vault.unprotect protectedJson unlockKey
  ensureExpectedIdentity p signer expected
  return signer

def sdkUnlockKey (unlockKey : List UInt8) : Except SdkError (List UInt8) := do
  ensure (unlockKey.length = unlockKeyLength)
    ⟨.invalidUnlockKey, "wallet unlock key must be exactly 32 bytes"⟩
  return unlockKey

def coreSignTransactionXdr (protectedJson : String) (unlockKey : List UInt8) (expected : String)
    (transactionXdr : Bytes) (networkPassphrase : String) : Except SdkError Bytes := do
  let transaction ← okOr (p.decode transactionXdr) .invalidTransaction
  let signer ← unlockSoftwareSigner p vault protectedJson unlockKey expected
  let signed ← mapErr (fun _ => .invalidTransaction)
    (signTransactionEnvelope p transaction networkPassphrase signer)
  okOr (p.encode signed) .invalidTransaction

def classifyExternalSignerError : SignerError → SdkError
  | .invalidPublicKey => .invalidInput "signer_public_key is invalid"
  | .invalidSecret => .invalidInput SignerError.invalidSecret.message
  | .externalProvider message => .core (SignerError.externalProvider message).message

def classifyExternalTransactionError : TransactionSigningError → SdkError
  | .signer error => classifyExternalSignerError error
  | .xdr | .invalidSignature | .duplicateSignature => .invalidTransaction

/-- The 64 bytes of a signature. -/
def signatureBytes (signature : List UInt8) : Except SdkError (Vector UInt8 64) :=
  if h : signature.length = 64 then .ok ⟨signature.toArray, by simpa using h⟩
  else .error (.invalidInput "signature must be 64 bytes")

def applyEd25519Signature (transactionXdr : Bytes) (networkPassphrase signerPublicKey : String)
    (signature : List UInt8) : Except SdkError Bytes := do
  let signature ← signatureBytes signature
  let key ← okOr (p.strKey.publicKeyOf? (Text.trim signerPublicKey))
    (classifyExternalSignerError .invalidPublicKey)
  let signer : ClassicSigner Bytes Digest := ⟨p.strKey.publicKey key, fun _ => .ok signature⟩
  let transaction ← okOr (p.decode transactionXdr) .invalidTransaction
  let signed ← mapErr classifyExternalTransactionError
    (signTransactionEnvelope p transaction networkPassphrase signer)
  okOr (p.encode signed) .invalidTransaction

def prepareEd25519Signing (transactionXdr : Bytes) (networkPassphrase : String) :
    Except SdkError (TransactionSigningRequest Bytes Digest) := do
  let transaction ← okOr (p.decode transactionXdr) .invalidTransaction
  let hash ← okOr (p.hash networkPassphrase transaction.body) .invalidTransaction
  let xdr ← okOr (p.encode transaction) .invalidTransaction
  return ⟨hash, xdr, networkPassphrase⟩

/-- The interface as the core implements it. -/
def fresnicaSdk : TransactionSdk Bytes Digest where
  deriveUnlockKey := vault.deriveUnlockKey
  signTransactionXdr protectedJson unlockKey expected transactionXdr networkPassphrase := do
    let unlockKey ← sdkUnlockKey unlockKey
    coreSignTransactionXdr p vault protectedJson unlockKey expected transactionXdr
      networkPassphrase
  signTransactionXdrWithPasscode protectedJson passcode expected transactionXdr
      networkPassphrase := do
    let unlockKey ← vault.deriveUnlockKey protectedJson passcode expected
    coreSignTransactionXdr p vault protectedJson unlockKey expected transactionXdr
      networkPassphrase
  prepareEd25519Signing := prepareEd25519Signing p
  applyEd25519Signature := applyEd25519Signature p

variable {p} {vault} {xdr xdr' : Bytes} {networkPassphrase expected : String}

/-- A signing step over encoded envelopes: the decoded envelope, signed for the
key. -/
def SignsFor (p : Primitives Bytes Digest) (networkPassphrase expected : String)
    (xdr xdr' : Bytes) : Prop :=
  ∃ envelope envelope' signer key, p.decode xdr = some envelope ∧
    p.encode envelope' = some xdr' ∧
    p.strKey.publicKeyOf? (Text.trim expected) = some key ∧
    signer.publicKey = p.strKey.publicKey key ∧
    signTransactionEnvelope p envelope networkPassphrase signer = .ok envelope'

theorem coreSignTransactionXdr_ok {protectedJson : String} {unlockKey : List UInt8}
    (h : coreSignTransactionXdr p vault protectedJson unlockKey expected xdr networkPassphrase =
      .ok xdr') : SignsFor p networkPassphrase expected xdr xdr' := by
  simp only [coreSignTransactionXdr, unlockSoftwareSigner, ensureExpectedIdentity, bind_eq_ok,
    okOr_eq_ok, mapErr_eq_ok, ensure_eq_ok, pure_eq_ok, Except.ok.injEq] at h
  obtain ⟨envelope, hdecode, _, ⟨signer, -, _, ⟨key, hkey, hsame⟩, rfl⟩, envelope', hsign,
    hencode⟩ := h
  exact ⟨envelope, envelope', _, key, hdecode, hencode, hkey, hsame, hsign⟩

theorem signTransactionXdr_ok {protectedJson : String} {unlockKey : List UInt8}
    (h : (fresnicaSdk p vault).signTransactionXdr protectedJson unlockKey expected xdr
      networkPassphrase = .ok xdr') : SignsFor p networkPassphrase expected xdr xdr' := by
  obtain ⟨_, -, h⟩ := bind_eq_ok.mp h
  exact coreSignTransactionXdr_ok h

theorem signTransactionXdrWithPasscode_ok {protectedJson passcode : String}
    (h : (fresnicaSdk p vault).signTransactionXdrWithPasscode protectedJson passcode expected xdr
      networkPassphrase = .ok xdr') : SignsFor p networkPassphrase expected xdr xdr' := by
  obtain ⟨_, -, h⟩ := bind_eq_ok.mp h
  exact coreSignTransactionXdr_ok h

theorem applyEd25519Signature_ok {signature : List UInt8}
    (h : applyEd25519Signature p xdr networkPassphrase expected signature = .ok xdr') :
    SignsFor p networkPassphrase expected xdr xdr' := by
  unfold applyEd25519Signature at h
  obtain ⟨_, -, h⟩ := bind_eq_ok.mp h
  obtain ⟨key, hkey, h⟩ := bind_eq_ok.mp h
  obtain ⟨envelope, hdecode, h⟩ := bind_eq_ok.mp h
  obtain ⟨envelope', hsign, h⟩ := bind_eq_ok.mp h
  exact ⟨envelope, envelope', _, key, okOr_eq_ok.mp hdecode, okOr_eq_ok.mp h,
    okOr_eq_ok.mp hkey, rfl, mapErr_eq_ok.mp hsign⟩

end Core

end Fresnica
