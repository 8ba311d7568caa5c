import Fresnica.Core.Authorization
import Fresnica.Soroban.Authorization

/-!
# Local signers of authorization entries

Behind the signing functions that a client calls for an authorization entry, the core decodes the
entry, opens the protected signer, and signs. What comes back is the encoding of the entry with
one more signature, of the key that was expected, and this signature was verified.

## Main definitions

* `AuthorizationVault` — how protected signers are opened
* `coreSignSorobanAuthorizationXdr`, `fresnicaAuthorizationSdk` — the core's implementation
* `SignsEntry` — what signing makes of an encoded entry

## Main results

* `coreSignSorobanAuthorizationXdr_ok`, `signForAuthorizer_ok` — whoever signs, the entry is
  signed so
-/

namespace Fresnica

open Foundation

/-- How the protected signers of authorization entries are opened. -/
structure AuthorizationVault (EntryBytes PreimageBytes : Type) where
  deriveUnlockKey : (protectedJson passcode expected : String) → Except SdkError (List UInt8)
  unprotect : (protectedJson : String) → (unlockKey : List UInt8) →
    Except SdkError (SorobanAuthorizationSigner EntryBytes PreimageBytes)

def SdkError.invalidAuthorization : SdkError :=
  ⟨.invalidAuthorization, "invalid Soroban authorization entry or signature"⟩

def classifySorobanAuthorizationError : SorobanAuthorizationSigningError → SdkError
  | .signer error => classifyExternalSignerError error
  | .xdr | .sourceAccountCredential | .nonAccountCredential
  | .delegatedCredentialRequiresProvider | .invalidSignature | .duplicateSignature
  | .invalidSignaturePayload | .unsupportedSignaturePayload => .invalidAuthorization

section Definitions

variable {Bytes Digest EntryBytes PreimageBytes : Type}
variable (p : Primitives Bytes Digest) (xdr : AuthorizationXdr EntryBytes PreimageBytes)
variable (vault : AuthorizationVault EntryBytes PreimageBytes)

/-- The signer of a protected text, which is the one that was expected. -/
def unlockAuthorizationSigner (protectedJson : String) (unlockKey : List UInt8)
    (expected : String) :
    Except SdkError (SorobanAuthorizationSigner EntryBytes PreimageBytes) := do
  let signer ← vault.unprotect protectedJson unlockKey
  let key ← okOr (p.strKey.publicKeyOf? (Text.trim expected))
    (.invalidInput "expected_signer_public_key is invalid")
  ensure (signer.publicKey = p.strKey.publicKey key) .identityMismatch
  return signer

def coreSignSorobanAuthorizationXdr (protectedJson : String) (unlockKey : List UInt8)
    (expected : String) (entryXdr : EntryBytes) (networkPassphrase : String) :
    Except SdkError EntryBytes := do
  let entry ← mapErr classifySorobanAuthorizationError
    (parseSorobanAuthorizationEntryXdr xdr entryXdr)
  let signer ← unlockAuthorizationSigner p vault protectedJson unlockKey expected
  let signed ← mapErr classifySorobanAuthorizationError
    (finished (signSorobanAuthorizationEntry p xdr networkPassphrase signer entry))
  mapErr classifySorobanAuthorizationError (sorobanAuthorizationEntryXdr xdr signed)

/-- The interface as the core implements it. -/
def fresnicaAuthorizationSdk : AuthorizationSdk EntryBytes where
  signSorobanAuthorizationXdr protectedJson unlockKey expected entryXdr networkPassphrase := do
    let unlockKey ← sdkUnlockKey unlockKey
    coreSignSorobanAuthorizationXdr p xdr vault protectedJson unlockKey expected entryXdr
      networkPassphrase
  signSorobanAuthorizationXdrWithPasscode protectedJson passcode expected entryXdr
      networkPassphrase := do
    let unlockKey ← vault.deriveUnlockKey protectedJson passcode expected
    coreSignSorobanAuthorizationXdr p xdr vault protectedJson unlockKey expected entryXdr
      networkPassphrase

/-- What has to be signed for an encoded entry. -/
def sdkPrepareSorobanAuthorizationSigning (entryXdr : EntryBytes) (networkPassphrase : String) :
    Except SdkError (SorobanAuthorizationSigningRequest EntryBytes PreimageBytes) := do
  let entry ← mapErr classifySorobanAuthorizationError
    (parseSorobanAuthorizationEntryXdr xdr entryXdr)
  mapErr classifySorobanAuthorizationError
    (prepareSorobanAuthorizationSigning p xdr entry networkPassphrase)

/-- The codec of entries, with the depth limit of the client. -/
def authorizationCodec : AuthorizationCodec EntryBytes where
  encode := xdr.entry.toXdr xdrDecodeMaxDepth
  decode := xdr.entry.fromXdr xdrDecodeMaxDepth

/-- A signing step over encoded entries: the decoded entry, with one more signature, which is
valid for its preimage. -/
def SignsEntry (networkPassphrase expected : String) (entryXdr signedXdr : EntryBytes) : Prop :=
  ∃ entry credentials existing key signature preimage,
    xdr.entry.encoding entry = entryXdr ∧ entry.credentials.direct = .ok credentials ∧
    existingSignatures credentials.signature = .ok existing ∧
    p.strKey.publicKeyOf? (Text.trim expected) = some key ∧
    sorobanAuthorizationPreimage p entry networkPassphrase = .ok preimage ∧
    p.verifyStrict key (preimageHash p xdr preimage).toList signature.toList = true ∧
    xdr.entry.encoding (entry.withSignature (.vec (some (existing ++
      [signatureMap key signature])))) = signedXdr

end Definitions

variable {Bytes Digest EntryBytes PreimageBytes : Type}
variable {p : Primitives Bytes Digest} {xdr : AuthorizationXdr EntryBytes PreimageBytes}
variable {vault : AuthorizationVault EntryBytes PreimageBytes}
variable {protectedJson expected passphrase network authorizer : String} {unlockKey : List UInt8}
variable {entryXdr signedXdr : EntryBytes} {entry : SorobanAuthorizationEntry}
variable {request : SorobanAuthorizationSigningRequest EntryBytes PreimageBytes}
variable {signer : SorobanAuthorizationSigner EntryBytes PreimageBytes}

theorem parseSorobanAuthorizationEntryXdr_eq_ok :
    parseSorobanAuthorizationEntryXdr xdr entryXdr = .ok entry ↔
      xdr.entry.encoding entry = entryXdr ∧ xdr.entry.depth entry ≤ xdrDecodeMaxDepth := by
  rw [parseSorobanAuthorizationEntryXdr, mapErr_eq_ok, XdrCodec.fromXdr_eq_ok]

theorem unlockAuthorizationSigner_eq_ok :
    unlockAuthorizationSigner p vault protectedJson unlockKey expected = .ok signer ↔
      vault.unprotect protectedJson unlockKey = .ok signer ∧
        ∃ key, p.strKey.publicKeyOf? (Text.trim expected) = some key ∧
          signer.publicKey = p.strKey.publicKey key := by
  simp only [unlockAuthorizationSigner, bind_eq_ok, okOr_eq_ok, ensure_eq_ok, pure_eq_ok,
    Except.ok.injEq]
  constructor
  · intro h
    obtain ⟨signer', hsigner, key, hkey, _, hsame, rfl⟩ := h
    exact ⟨hsigner, key, hkey, hsame⟩
  · intro h
    obtain ⟨hsigner, key, hkey, hsame⟩ := h
    exact ⟨signer, hsigner, key, hkey, (), hsame, rfl⟩

/-- The core signs with the key that was expected, and verifies the signature. -/
theorem coreSignSorobanAuthorizationXdr_ok
    (h : coreSignSorobanAuthorizationXdr p xdr vault protectedJson unlockKey expected entryXdr
      passphrase = .ok signedXdr) : SignsEntry p xdr passphrase expected entryXdr signedXdr := by
  obtain ⟨entry, hparse, h⟩ := bind_eq_ok.mp h
  obtain ⟨signer, hsigner, h⟩ := bind_eq_ok.mp h
  obtain ⟨signed, hsigned, hencode⟩ := bind_eq_ok.mp h
  obtain ⟨hentry, -⟩ := parseSorobanAuthorizationEntryXdr_eq_ok.mp (mapErr_eq_ok.mp hparse)
  obtain ⟨-, key, hkey, hidentity⟩ := unlockAuthorizationSigner_eq_ok.mp hsigner
  obtain ⟨credentials, id, existing, request, signature, key', hdirect, -, hexisting, hrequest, -,
    hkey', hverify, rfl⟩ :=
    signSorobanAuthorizationEntry_ok (finished_eq_ok.mp (mapErr_eq_ok.mp hsigned))
  obtain ⟨preimage, hpreimage, -, hhash⟩ := prepareSorobanAuthorizationSigning_hash hrequest
  obtain ⟨key'', hkey'', -, hvalid⟩ := verifyAuthorizationSignature_eq_ok.mp hverify
  obtain rfl : key = key' := by
    rw [hidentity, p.strKey.publicKeyOf?_eq_some_iff] at hkey'
    exact p.strKey.publicKey_injective hkey'.symm
  obtain rfl := Option.some.inj (hkey'.symm.trans hkey'')
  rw [hhash] at hvalid
  have hsignedXdr := (XdrCodec.toXdr_eq_ok.mp (mapErr_eq_ok.mp (mapErr_eq_ok.mp hencode))).2
  exact ⟨entry, credentials, existing, key, signature, preimage, hentry, hdirect, hexisting, hkey,
    hpreimage, hvalid, hsignedXdr⟩

theorem signAuthorizationEntryWithUnlockKey_ok {record : WalletRecord}
    (h : signAuthorizationEntryWithUnlockKey (fresnicaAuthorizationSdk p xdr vault) record network
      authorizer entryXdr unlockKey = .ok signedXdr) :
    ∃ passphrase, networkPassphrase network = .ok passphrase ∧
      SignsEntry p xdr passphrase authorizer entryXdr signedXdr := by
  obtain ⟨_, -, h⟩ := bind_eq_ok.mp h
  obtain ⟨passphrase, hpassphrase, h⟩ := bind_eq_ok.mp h
  obtain ⟨_, -, hcore⟩ := bind_eq_ok.mp (mapErr_eq_ok.mp h)
  exact ⟨passphrase, hpassphrase, coreSignSorobanAuthorizationXdr_ok hcore⟩

theorem signAuthorizationEntry_ok {record : WalletRecord} {passcode : String}
    (h : signAuthorizationEntry (fresnicaAuthorizationSdk p xdr vault) record network authorizer
      entryXdr passcode = .ok signedXdr) :
    ∃ passphrase, networkPassphrase network = .ok passphrase ∧
      SignsEntry p xdr passphrase authorizer entryXdr signedXdr := by
  obtain ⟨_, -, h⟩ := bind_eq_ok.mp h
  obtain ⟨passphrase, hpassphrase, h⟩ := bind_eq_ok.mp h
  obtain ⟨_, -, hcore⟩ := bind_eq_ok.mp (mapErr_eq_ok.mp h)
  exact ⟨passphrase, hpassphrase, coreSignSorobanAuthorizationXdr_ok hcore⟩

/-- Whoever opens the signer of an authorizer, the entry is signed for this authorizer. -/
theorem signForAuthorizer_ok {maps : AuthorizerMaps} {passcode : Option String}
    {record : WalletRecord}
    (h : signForAuthorizer p (fresnicaAuthorizationSdk p xdr vault) maps passcode network
      authorizer entryXdr record = .ok signedXdr) :
    ∃ passphrase, networkPassphrase network = .ok passphrase ∧
      SignsEntry p xdr passphrase authorizer entryXdr signedXdr := by
  unfold signForAuthorizer at h
  split at h
  · obtain ⟨_, -, h⟩ := bind_eq_ok.mp h
    obtain ⟨_, -, h⟩ := bind_eq_ok.mp h
    exact signAuthorizationEntryWithUnlockKey_ok h
  · obtain ⟨_, -, h⟩ := bind_eq_ok.mp h
    exact signAuthorizationEntry_ok h

/-- What has to be signed is the preimage of the entry that is encoded. -/
theorem sdkPrepareSorobanAuthorizationSigning_eq_ok :
    sdkPrepareSorobanAuthorizationSigning p xdr entryXdr passphrase = .ok request ↔
      ∃ entry preimage, xdr.entry.encoding entry = entryXdr ∧
        xdr.entry.depth entry ≤ xdrDecodeMaxDepth ∧
        sorobanAuthorizationPreimage p entry passphrase = .ok preimage ∧
        xdr.preimage.depth preimage ≤ noDepthLimit ∧
        request = ⟨preimageHash p xdr preimage, entryXdr, xdr.preimage.encoding preimage,
          passphrase⟩ := by
  have hdeep : xdrDecodeMaxDepth ≤ noDepthLimit := by decide
  simp only [sdkPrepareSorobanAuthorizationSigning, prepareSorobanAuthorizationSigning,
    sorobanAuthorizationEntryXdr, bind_eq_ok, mapErr_eq_ok, pure_eq_ok, Except.ok.injEq,
    parseSorobanAuthorizationEntryXdr_eq_ok, XdrCodec.toXdr_eq_ok]
  constructor
  · intro h
    obtain ⟨entry, ⟨hentry, hdepth⟩, _, ⟨-, rfl⟩, preimage, hpreimage, _, ⟨hlimit, rfl⟩, rfl⟩ := h
    exact ⟨entry, preimage, hentry, hdepth, hpreimage, hlimit, by rw [hentry]; rfl⟩
  · intro h
    obtain ⟨entry, preimage, hentry, hdepth, hpreimage, hlimit, rfl⟩ := h
    exact ⟨entry, ⟨hentry, hdepth⟩, entryXdr, ⟨hdepth.trans hdeep, hentry⟩, preimage, hpreimage, _,
      ⟨hlimit, rfl⟩, rfl⟩

end Fresnica
