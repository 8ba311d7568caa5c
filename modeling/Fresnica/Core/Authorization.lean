import Fresnica.Core.Sdk
import Fresnica.Foundation.InPlace
import Fresnica.Foundation.Run
import Fresnica.Foundation.Utf8

/-!
# Signing Soroban authorization entries

An entry with address credentials is authorized by signing the hash of its preimage:
the network, the nonce, the expiration, the call tree and, but for the first credential
variant, the address. The core asks a signer, verifies the answer, and appends it to the
signatures of the entry. The preimage does not see the signatures, so the ones that are
there stay valid.

XDR comes from another crate. `XdrCodec` is what is relied on: a value has one encoding,
an encoding decodes to the value it is of, and values that are nested too deep are
refused both ways.

## Main definitions

* `XdrCodec`, `AuthorizationXdr` — the codecs of entries and preimages
* `sorobanAuthorizationPreimage`, `prepareSorobanAuthorizationSigning`
* `signSorobanAuthorizationEntry` — the entry is changed in place
* `SignatureOn` — a signature of an entry that is valid for its preimage

## Main results

* `signSorobanAuthorizationEntry_atomic` — a failure changes nothing
* `signSorobanAuthorizationEntry_ok` — a success appends one signature
* `signing_appends_only`
-/

namespace Fresnica

open Foundation

/-! ### Encoded values -/

/-- How the values of one type are encoded, and how deep they are nested. -/
structure XdrCodec (α Bytes : Type) where
  encoding : α → Bytes
  decode : Bytes → Except String α
  depth : α → ℕ
  decode_eq_ok_iff : ∀ {bytes value}, decode bytes = .ok value ↔ encoding value = bytes

/-- The greatest depth, where no limit is set. -/
def noDepthLimit : ℕ := 4294967295

def xdrDecodeMaxDepth : ℕ := 500

namespace XdrCodec

variable {α Bytes : Type} (codec : XdrCodec α Bytes)

def toXdr (limit : ℕ) (value : α) : Except String Bytes := do
  ensure (codec.depth value ≤ limit) "depth limit exceeded"
  return codec.encoding value

def fromXdr (limit : ℕ) (bytes : Bytes) : Except String α := do
  let value ← codec.decode bytes
  ensure (codec.depth value ≤ limit) "depth limit exceeded"
  return value

/-- Values as their own encodings. -/
def ideal : XdrCodec α α where
  encoding := id
  decode := .ok
  depth _ := 0
  decode_eq_ok_iff := by simp [eq_comm]

variable {codec} {limit : ℕ} {value : α} {bytes : Bytes}

theorem toXdr_eq_ok :
    codec.toXdr limit value = .ok bytes ↔
      codec.depth value ≤ limit ∧ codec.encoding value = bytes := by
  simp [toXdr, ensure_bind_eq_ok]

theorem fromXdr_eq_ok :
    codec.fromXdr limit bytes = .ok value ↔
      codec.encoding value = bytes ∧ codec.depth value ≤ limit := by
  simp only [fromXdr, bind_eq_ok, codec.decode_eq_ok_iff, ensure_eq_ok, pure_eq_ok, Except.ok.injEq]
  constructor
  · rintro ⟨_, hbytes, _, hdepth, rfl⟩
    exact ⟨hbytes, hdepth⟩
  · rintro ⟨hbytes, hdepth⟩
    exact ⟨value, hbytes, (), hdepth, rfl⟩

theorem encoding_injective (codec : XdrCodec α Bytes) : Function.Injective codec.encoding := by
  intro value value' h
  have hvalue := codec.decode_eq_ok_iff.mpr h
  exact Except.ok.inj (hvalue.symm.trans (codec.decode_eq_ok_iff.mpr rfl))

end XdrCodec

/-! ### Preimages -/

structure HashIdPreimageSorobanAuthorization where
  networkId : Uint256
  nonce : I64
  signatureExpirationLedger : U32
  invocation : SorobanAuthorizedInvocation
  deriving DecidableEq, Repr

structure HashIdPreimageSorobanAuthorizationWithAddress where
  networkId : Uint256
  nonce : I64
  signatureExpirationLedger : U32
  address : ScAddress
  invocation : SorobanAuthorizedInvocation
  deriving DecidableEq, Repr

/-- Preimages; `other` is every kind that authorizes no call. -/
inductive HashIdPreimage
  | sorobanAuthorization (value : HashIdPreimageSorobanAuthorization)
  | sorobanAuthorizationWithAddress (value : HashIdPreimageSorobanAuthorizationWithAddress)
  | other (encoded : List UInt8)
  deriving DecidableEq, Repr

/-- The codecs of entries and preimages, and the octets of an encoded preimage. -/
structure AuthorizationXdr (EntryBytes PreimageBytes : Type) where
  entry : XdrCodec SorobanAuthorizationEntry EntryBytes
  preimage : XdrCodec HashIdPreimage PreimageBytes
  preimageOctets : PreimageBytes → List UInt8

/-- Entries and preimages as their own encodings. -/
def idealAuthorizationXdr :
    AuthorizationXdr SorobanAuthorizationEntry HashIdPreimage where
  entry := XdrCodec.ideal
  preimage := XdrCodec.ideal
  preimageOctets _ := []

inductive SorobanAuthorizationSigningError
  | xdr
  | signer (error : SignerError)
  | sourceAccountCredential
  | nonAccountCredential
  | delegatedCredentialRequiresProvider
  | invalidSignature
  | duplicateSignature
  | invalidSignaturePayload
  | unsupportedSignaturePayload
  deriving DecidableEq, Repr

structure SorobanAuthorizationSigningRequest (EntryBytes PreimageBytes : Type) where
  authorizationHash : Uint256
  authorizationEntryXdr : EntryBytes
  authorizationPreimageXdr : PreimageBytes
  networkPassphrase : String
  deriving DecidableEq, Repr

/-- A signer that answers requests for the key it names. -/
structure SorobanAuthorizationSigner (EntryBytes PreimageBytes : Type) where
  publicKey : String
  signSorobanAuthorization : SorobanAuthorizationSigningRequest EntryBytes PreimageBytes →
    Except SignerError (Vector UInt8 64)

/-! ### Credentials -/

/-- The credentials that the account of the entry signs for itself. -/
def SorobanCredentials.direct :
    SorobanCredentials → Except SorobanAuthorizationSigningError SorobanAddressCredentials
  | .sourceAccount => .error .sourceAccountCredential
  | .address credentials | .addressV2 credentials => .ok credentials
  | .addressWithDelegates _ => .error .delegatedCredentialRequiresProvider

/-- The address credentials of every variant that has them. -/
def SorobanCredentials.addressCredentials? : SorobanCredentials → Option SorobanAddressCredentials
  | .sourceAccount => none
  | .address credentials | .addressV2 credentials => some credentials
  | .addressWithDelegates credentials => some credentials.addressCredentials

def SorobanCredentials.withSignature (signature : ScVal) : SorobanCredentials → SorobanCredentials
  | .address credentials => .address { credentials with signature }
  | .addressV2 credentials => .addressV2 { credentials with signature }
  | credentials => credentials

/-- The entry with its signature field replaced. -/
def SorobanAuthorizationEntry.withSignature (entry : SorobanAuthorizationEntry)
    (signature : ScVal) : SorobanAuthorizationEntry :=
  { entry with credentials := entry.credentials.withSignature signature }

/-- The signatures a signature field holds. -/
def existingSignatures : ScVal → Except SorobanAuthorizationSigningError (List ScVal)
  | .void => .ok []
  | .vec (some values) => .ok values
  | .vec none => .error .invalidSignaturePayload
  | _ => .error .unsupportedSignaturePayload

/-- The most values a vector can hold. -/
def maxScVecLength : ℕ := 4294967295

def ensureDirectAccountCredential (entry : SorobanAuthorizationEntry) :
    Except SorobanAuthorizationSigningError Unit := do
  let credentials ← entry.credentials.direct
  match credentials.address with
  | .account _ => .ok ()
  | .contract _ | .other _ => .error .nonAccountCredential

def appendSignature (signedValue : ScVal) :
    Mut SorobanAuthorizationEntry SorobanAuthorizationSigningError Unit := do
  let entry ← Mut.current
  let credentials ← Mut.attempt entry.credentials.direct
  let existing ← Mut.attempt (existingSignatures credentials.signature)
  Mut.attempt (ensure (signedValue ∉ existing) .duplicateSignature)
  Mut.attempt (ensure (existing.length + 1 ≤ maxScVecLength) .xdr)
  Mut.assign (entry.withSignature (.vec (some (existing ++ [signedValue]))))

section Definitions

variable {Bytes Digest EntryBytes PreimageBytes : Type}
variable (p : Primitives Bytes Digest) (xdr : AuthorizationXdr EntryBytes PreimageBytes)

def networkId (networkPassphrase : String) : Uint256 :=
  p.sha256 networkPassphrase.toUTF8.toList

def addressBoundPreimage (entry : SorobanAuthorizationEntry)
    (credentials : SorobanAddressCredentials) (networkId : Uint256) : HashIdPreimage :=
  .sorobanAuthorizationWithAddress
    { networkId
      nonce := credentials.nonce
      signatureExpirationLedger := credentials.signatureExpirationLedger
      address := credentials.address
      invocation := entry.rootInvocation }

def sorobanAuthorizationPreimage (entry : SorobanAuthorizationEntry) (networkPassphrase : String) :
    Except SorobanAuthorizationSigningError HashIdPreimage :=
  let networkId := networkId p networkPassphrase
  match entry.credentials with
  | .sourceAccount => .error .sourceAccountCredential
  | .address credentials => .ok (.sorobanAuthorization
      { networkId
        nonce := credentials.nonce
        signatureExpirationLedger := credentials.signatureExpirationLedger
        invocation := entry.rootInvocation })
  | .addressV2 credentials => .ok (addressBoundPreimage entry credentials networkId)
  | .addressWithDelegates credentials =>
    .ok (addressBoundPreimage entry credentials.addressCredentials networkId)

def parseSorobanAuthorizationEntryXdr (bytes : EntryBytes) :
    Except SorobanAuthorizationSigningError SorobanAuthorizationEntry :=
  mapErr (fun _ => .xdr) (xdr.entry.fromXdr xdrDecodeMaxDepth bytes)

def sorobanAuthorizationEntryXdr (entry : SorobanAuthorizationEntry) :
    Except SorobanAuthorizationSigningError EntryBytes :=
  mapErr (fun _ => .xdr) (xdr.entry.toXdr noDepthLimit entry)

def prepareSorobanAuthorizationSigning (entry : SorobanAuthorizationEntry)
    (networkPassphrase : String) : Except SorobanAuthorizationSigningError
      (SorobanAuthorizationSigningRequest EntryBytes PreimageBytes) := do
  let authorizationEntryXdr ← sorobanAuthorizationEntryXdr xdr entry
  let preimage ← sorobanAuthorizationPreimage p entry networkPassphrase
  let authorizationPreimageXdr ← mapErr (fun _ => .xdr) (xdr.preimage.toXdr noDepthLimit preimage)
  let authorizationHash := p.sha256 (xdr.preimageOctets authorizationPreimageXdr)
  return { authorizationHash, authorizationEntryXdr, authorizationPreimageXdr, networkPassphrase }

def verifyAuthorizationSignature (publicKey : String) (authorizationHash : Uint256)
    (signature : Vector UInt8 64) : Except SorobanAuthorizationSigningError Unit := do
  let key ← okOr (p.strKey.publicKeyOf? publicKey) (.signer .invalidPublicKey)
  ensure (p.isVerifyingKey key = true) (.signer .invalidPublicKey)
  ensure (p.verifyStrict key authorizationHash.toList signature.toList = true) .invalidSignature

/-- The value that stands for a signature of a key. -/
def signatureMap (key : Uint256) (signature : Vector UInt8 64) : ScVal :=
  .map (some
    [(.symbol (Utf8.bytes "public_key"), .bytes key.toList),
      (.symbol (Utf8.bytes "signature"), .bytes signature.toList)])

def ed25519SignatureValue (publicKey : String) (signature : Vector UInt8 64) :
    Except SorobanAuthorizationSigningError ScVal := do
  let key ← okOr (p.strKey.publicKeyOf? publicKey) (.signer .invalidPublicKey)
  return signatureMap key signature

def signSorobanAuthorizationEntry (networkPassphrase : String)
    (signer : SorobanAuthorizationSigner EntryBytes PreimageBytes) :
    Mut SorobanAuthorizationEntry SorobanAuthorizationSigningError Unit := do
  let entry ← Mut.current
  Mut.attempt (ensureDirectAccountCredential entry)
  let request ← Mut.attempt (prepareSorobanAuthorizationSigning p xdr entry networkPassphrase)
  let signature ← Mut.attempt (mapErr .signer (signer.signSorobanAuthorization request))
  Mut.attempt (verifyAuthorizationSignature p signer.publicKey request.authorizationHash signature)
  let signedValue ← Mut.attempt (ed25519SignatureValue p signer.publicKey signature)
  appendSignature signedValue

/-- The hash that is signed. -/
def preimageHash (preimage : HashIdPreimage) : Uint256 :=
  p.sha256 (xdr.preimageOctets (xdr.preimage.encoding preimage))

/-- A signature is among those of the entry, and is valid for its preimage. -/
def SignatureOn (entry : SorobanAuthorizationEntry) (networkPassphrase : String) (key : Uint256)
    (signature : Vector UInt8 64) : Prop :=
  ∃ credentials signatures preimage, entry.credentials.direct = .ok credentials ∧
    credentials.signature = .vec (some signatures) ∧ signatureMap key signature ∈ signatures ∧
    sorobanAuthorizationPreimage p entry networkPassphrase = .ok preimage ∧
    p.verifyStrict key (preimageHash p xdr preimage).toList signature.toList = true

/-- One call with a signer, whatever it returns. -/
def SigningStep (entry : SorobanAuthorizationEntry)
    (call : String × SorobanAuthorizationSigner EntryBytes PreimageBytes)
    (entry' : SorobanAuthorizationEntry) : Prop :=
  ∃ result, signSorobanAuthorizationEntry p xdr call.1 call.2 entry = (result, entry')

/-- The entry, or the signer's answer, is one that must be refused. -/
def MustRefuse (entry : SorobanAuthorizationEntry) (networkPassphrase : String)
    (signer : SorobanAuthorizationSigner EntryBytes PreimageBytes) : Prop :=
  entry.credentials = .sourceAccount ∨
  (∃ credentials, entry.credentials = .addressWithDelegates credentials) ∨
  (∃ credentials, entry.credentials.addressCredentials? = some credentials ∧
    ((∀ id, credentials.address ≠ .account id) ∨
      credentials.signature ≠ .void ∧ ∀ values, credentials.signature ≠ .vec (some values))) ∨
  ∃ request signature,
    prepareSorobanAuthorizationSigning p xdr entry networkPassphrase = .ok request ∧
    signer.signSorobanAuthorization request = .ok signature ∧
    verifyAuthorizationSignature p signer.publicKey request.authorizationHash signature ≠ .ok ()

end Definitions

/-! ### The preimage -/

section Preimage

variable {Bytes Digest EntryBytes PreimageBytes : Type}
variable {p : Primitives Bytes Digest} {xdr : AuthorizationXdr EntryBytes PreimageBytes}
variable {entry entry' : SorobanAuthorizationEntry} {networkPassphrase networkPassphrase' : String}
variable {credentials credentials' : SorobanAddressCredentials} {signature : ScVal}
variable {preimage preimage' : HashIdPreimage} {existing values : List ScVal}

theorem direct_withSignature (h : entry.credentials.direct = .ok credentials) :
    (entry.withSignature signature).credentials.direct = .ok { credentials with signature } := by
  obtain ⟨entryCredentials, invocation⟩ := entry
  cases entryCredentials with
  | address _ | addressV2 _ =>
    obtain rfl := Except.ok.inj h
    rfl
  | sourceAccount | addressWithDelegates _ => cases h

theorem addressCredentials?_of_direct (h : entry.credentials.direct = .ok credentials) :
    entry.credentials.addressCredentials? = some credentials := by
  obtain ⟨entryCredentials, invocation⟩ := entry
  cases entryCredentials with
  | address _ | addressV2 _ => exact congrArg some (Except.ok.inj h)
  | sourceAccount | addressWithDelegates _ => cases h

/-- The preimage does not see the signature field. -/
@[simp] theorem sorobanAuthorizationPreimage_withSignature :
    sorobanAuthorizationPreimage p (entry.withSignature signature) networkPassphrase =
      sorobanAuthorizationPreimage p entry networkPassphrase := by
  obtain ⟨entryCredentials, invocation⟩ := entry
  cases entryCredentials <;> rfl

/-- What a preimage is made of can be read from it. -/
theorem sorobanAuthorizationPreimage_inj
    (h : sorobanAuthorizationPreimage p entry networkPassphrase = .ok preimage)
    (h' : sorobanAuthorizationPreimage p entry' networkPassphrase' = .ok preimage)
    (hcredentials : entry.credentials.addressCredentials? = some credentials)
    (hcredentials' : entry'.credentials.addressCredentials? = some credentials') :
    networkId p networkPassphrase = networkId p networkPassphrase' ∧
      credentials.nonce = credentials'.nonce ∧
      credentials.signatureExpirationLedger = credentials'.signatureExpirationLedger ∧
      entry.rootInvocation = entry'.rootInvocation ∧
      ((∀ c, entry.credentials ≠ .address c) → credentials.address = credentials'.address) := by
  obtain ⟨entryCredentials, invocation⟩ := entry
  obtain ⟨entryCredentials', invocation'⟩ := entry'
  rw [← h'] at h
  -- the variants of the two entries agree, because those of their preimages do
  cases entryCredentials <;> cases entryCredentials' <;>
    simp_all [sorobanAuthorizationPreimage, addressBoundPreimage,
      SorobanCredentials.addressCredentials?]

theorem existingSignatures_eq_ok :
    existingSignatures signature = .ok existing ↔
      signature = .void ∧ existing = [] ∨ signature = .vec (some existing) := by
  cases signature with
  | scalar scalar => cases scalar <;> simp [existingSignatures, eq_comm]
  | vec values => cases values <;> simp [existingSignatures]
  | map entries => simp [existingSignatures]
  | contractInstance executable storage => simp [existingSignatures]

theorem ensureDirectAccountCredential_eq_ok :
    ensureDirectAccountCredential entry = .ok () ↔
      ∃ credentials id, entry.credentials.direct = .ok credentials ∧
        credentials.address = .account id := by
  simp only [ensureDirectAccountCredential, bind_eq_ok]
  constructor
  · rintro ⟨credentials, hdirect, h⟩
    split at h
    · rename_i id haddress
      exact ⟨credentials, id, hdirect, haddress⟩
    · cases h
    · cases h
  · rintro ⟨credentials, id, hdirect, haddress⟩
    exact ⟨credentials, hdirect, by simp only [haddress]⟩

theorem prepareSorobanAuthorizationSigning_hash
    {request : SorobanAuthorizationSigningRequest EntryBytes PreimageBytes}
    (h : prepareSorobanAuthorizationSigning p xdr entry networkPassphrase = .ok request) :
    ∃ preimage, sorobanAuthorizationPreimage p entry networkPassphrase = .ok preimage ∧
      request.authorizationPreimageXdr = xdr.preimage.encoding preimage ∧
      request.authorizationHash = preimageHash p xdr preimage := by
  simp only [prepareSorobanAuthorizationSigning, bind_eq_ok, mapErr_eq_ok, XdrCodec.toXdr_eq_ok,
    pure_eq_ok, Except.ok.injEq] at h
  obtain ⟨_, -, preimage, hpreimage, _, ⟨-, rfl⟩, rfl⟩ := h
  exact ⟨preimage, hpreimage, rfl, rfl⟩

end Preimage

/-! ### Signing -/

section Signing

variable {Bytes Digest EntryBytes PreimageBytes : Type}
variable {p : Primitives Bytes Digest} {xdr : AuthorizationXdr EntryBytes PreimageBytes}
variable {entry entry' final : SorobanAuthorizationEntry} {networkPassphrase : String}
variable {signer : SorobanAuthorizationSigner EntryBytes PreimageBytes}
variable {key : Uint256} {signature : Vector UInt8 64} {signedValue : ScVal}
variable {calls : List (String × SorobanAuthorizationSigner EntryBytes PreimageBytes)}
variable {result : Except SorobanAuthorizationSigningError Unit}

theorem appendSignature_atomic : (appendSignature signedValue).Atomic := by
  unfold appendSignature
  apply Mut.Atomic.bind Mut.ReadOnly.current
  intro entry
  apply Mut.Atomic.bind Mut.ReadOnly.attempt
  intro credentials
  apply Mut.Atomic.bind Mut.ReadOnly.attempt
  intro existing
  apply Mut.Atomic.bind Mut.ReadOnly.attempt
  intro _
  apply Mut.Atomic.bind Mut.ReadOnly.attempt
  intro _
  exact Mut.Atomic.assign

theorem appendSignature_eq_ok :
    appendSignature signedValue entry = (.ok (), entry') ↔
      ∃ credentials existing, entry.credentials.direct = .ok credentials ∧
        existingSignatures credentials.signature = .ok existing ∧ signedValue ∉ existing ∧
        existing.length + 1 ≤ maxScVecLength ∧
        entry' = entry.withSignature (.vec (some (existing ++ [signedValue]))) := by
  simp only [appendSignature, Mut.bind_eq_ok, Mut.current_eq_ok, Mut.attempt_eq_ok,
    Mut.assign_eq_ok, ensure_eq_ok]
  constructor
  · rintro ⟨_, _, ⟨rfl, rfl⟩, credentials, _, ⟨hdirect, rfl⟩, existing, _, ⟨hexisting, rfl⟩, _, _,
      ⟨hnew, rfl⟩, _, _, ⟨hlength, rfl⟩, rfl⟩
    exact ⟨credentials, existing, hdirect, hexisting, hnew, hlength, rfl⟩
  · rintro ⟨credentials, existing, hdirect, hexisting, hnew, hlength, rfl⟩
    exact ⟨entry, entry, ⟨rfl, rfl⟩, credentials, entry, ⟨hdirect, rfl⟩, existing, entry,
      ⟨hexisting, rfl⟩, (), entry, ⟨hnew, rfl⟩, (), entry, ⟨hlength, rfl⟩, rfl⟩

/-- A call that fails changes nothing. -/
theorem signSorobanAuthorizationEntry_atomic :
    (signSorobanAuthorizationEntry p xdr networkPassphrase signer).Atomic := by
  unfold signSorobanAuthorizationEntry
  apply Mut.Atomic.bind Mut.ReadOnly.current
  intro entry
  apply Mut.Atomic.bind Mut.ReadOnly.attempt
  intro _
  apply Mut.Atomic.bind Mut.ReadOnly.attempt
  intro request
  apply Mut.Atomic.bind Mut.ReadOnly.attempt
  intro signature
  apply Mut.Atomic.bind Mut.ReadOnly.attempt
  intro _
  apply Mut.Atomic.bind Mut.ReadOnly.attempt
  intro signedValue
  exact appendSignature_atomic

/-- A call that succeeds asked the signer, and appended a signature that is valid. -/
theorem signSorobanAuthorizationEntry_ok
    (h : signSorobanAuthorizationEntry p xdr networkPassphrase signer entry = (.ok (), entry')) :
    ∃ credentials id existing request signature key, entry.credentials.direct = .ok credentials ∧
      credentials.address = .account id ∧
      existingSignatures credentials.signature = .ok existing ∧
      prepareSorobanAuthorizationSigning p xdr entry networkPassphrase = .ok request ∧
      signer.signSorobanAuthorization request = .ok signature ∧
      p.strKey.publicKeyOf? signer.publicKey = some key ∧
      verifyAuthorizationSignature p signer.publicKey request.authorizationHash signature =
        .ok () ∧
      entry' = entry.withSignature (.vec (some (existing ++ [signatureMap key signature]))) := by
  simp only [signSorobanAuthorizationEntry, Mut.bind_eq_ok, Mut.current_eq_ok, Mut.attempt_eq_ok,
    appendSignature_eq_ok, mapErr_eq_ok, ed25519SignatureValue, bind_eq_ok, okOr_eq_ok, pure_eq_ok,
    Except.ok.injEq] at h
  obtain ⟨_, _, ⟨rfl, rfl⟩, _, _, ⟨hdirect, rfl⟩, request, _, ⟨hrequest, rfl⟩, signature, _,
    ⟨hsignature, rfl⟩, _, _, ⟨hverify, rfl⟩, _, _, ⟨⟨key, hkey, rfl⟩, rfl⟩, credentials, existing,
    hcredentials, hexisting, -, -, rfl⟩ := h
  obtain ⟨credentials', id, hcredentials', haddress⟩ :=
    ensureDirectAccountCredential_eq_ok.mp hdirect
  obtain rfl := Except.ok.inj (hcredentials.symm.trans hcredentials')
  exact ⟨credentials, id, existing, request, signature, key, hcredentials, haddress, hexisting,
    hrequest, hsignature, hkey, hverify, rfl⟩

theorem verifyAuthorizationSignature_eq_ok {hash : Uint256} :
    verifyAuthorizationSignature p signer.publicKey hash signature = .ok () ↔
      ∃ key, p.strKey.publicKeyOf? signer.publicKey = some key ∧ p.isVerifyingKey key = true ∧
        p.verifyStrict key hash.toList signature.toList = true := by
  simp only [verifyAuthorizationSignature, bind_eq_ok, okOr_eq_ok, ensure_eq_ok, exists_const]

/-- What must be refused is refused. -/
theorem signSorobanAuthorizationEntry_refuses
    (hrefuse : MustRefuse p xdr entry networkPassphrase signer) :
    signSorobanAuthorizationEntry p xdr networkPassphrase signer entry ≠ (.ok (), entry') := by
  intro h
  obtain ⟨credentials, id, existing, request, signature, key, hdirect, haddress, hexisting,
    hrequest, hsignature, -, hverify, -⟩ := signSorobanAuthorizationEntry_ok h
  -- one case for each reason to refuse
  rcases hrefuse with hsource | ⟨_, hdelegates⟩ | ⟨other, hother, hshape⟩ |
    ⟨_, _, hrequest', hsignature', hinvalid⟩
  · rw [hsource] at hdirect
    cases hdirect
  · rw [hdelegates] at hdirect
    cases hdirect
  · rw [addressCredentials?_of_direct hdirect] at hother
    obtain rfl := Option.some.inj hother
    rcases hshape with hclassic | ⟨hvoid, hvec⟩
    · exact hclassic id haddress
    · rcases existingSignatures_eq_ok.mp hexisting with ⟨h, -⟩ | h
      · exact hvoid h
      · exact hvec _ h
  · obtain rfl := Except.ok.inj (hrequest.symm.trans hrequest')
    obtain rfl := Except.ok.inj (hsignature.symm.trans hsignature')
    exact hinvalid hverify

/-- A signature stays, and stays valid, over one more call. -/
theorem SignatureOn.step {call : String × SorobanAuthorizationSigner EntryBytes PreimageBytes}
    (h : SignatureOn p xdr entry networkPassphrase key signature)
    (hstep : SigningStep p xdr entry call entry') :
    SignatureOn p xdr entry' networkPassphrase key signature := by
  obtain ⟨result, hstep⟩ := hstep
  cases result with
  | error e =>
    rw [signSorobanAuthorizationEntry_atomic _ _ _ hstep]
    exact h
  | ok _ =>
    obtain ⟨credentials, signatures, preimage, hdirect, hvalues, hmem, hpreimage, hverify⟩ := h
    obtain ⟨credentials', -, existing, -, -, -, hdirect', -, hexisting, -, -, -, -, rfl⟩ :=
      signSorobanAuthorizationEntry_ok hstep
    obtain rfl := Except.ok.inj (hdirect.symm.trans hdirect')
    rw [hvalues] at hexisting
    obtain rfl := Except.ok.inj hexisting
    refine ⟨_, _, preimage, direct_withSignature hdirect, rfl, List.mem_append_left _ hmem, ?_,
      hverify⟩
    rw [sorobanAuthorizationPreimage_withSignature]
    exact hpreimage

/-- A signature stays over any calls. -/
theorem SignatureOn.run (h : SignatureOn p xdr entry networkPassphrase key signature)
    (hrun : Run (SigningStep p xdr) entry calls final) :
    SignatureOn p xdr final networkPassphrase key signature := by
  induction hrun with
  | nil => exact h
  | snoc _ hstep ih => exact ih.step hstep

end Signing

/-- Signing an entry fails and changes nothing, also when it must fail, or appends one
valid signature, which no later call removes or invalidates. Entries that differ in what
is authorized, or that are for networks of different ids, have different preimages. -/
theorem signing_appends_only {Bytes Digest EntryBytes PreimageBytes : Type}
    (p : Primitives Bytes Digest) (xdr : AuthorizationXdr EntryBytes PreimageBytes) :
    (∀ entry entry' networkPassphrase signer result,
      signSorobanAuthorizationEntry p xdr networkPassphrase signer entry = (result, entry') →
        ((∃ e, result = .error e) → entry' = entry) ∧
        (MustRefuse p xdr entry networkPassphrase signer → ∃ e, result = .error e) ∧
        (result = .ok () → ∃ credentials existing signature key preimage,
          entry.credentials.direct = .ok credentials ∧
          (credentials.signature = .void ∧ existing = [] ∨
            credentials.signature = .vec (some existing)) ∧
          entry' = entry.withSignature (.vec (some (existing ++ [signatureMap key signature]))) ∧
          p.strKey.publicKeyOf? signer.publicKey = some key ∧
          sorobanAuthorizationPreimage p entry networkPassphrase = .ok preimage ∧
          (∀ passphrase, sorobanAuthorizationPreimage p entry' passphrase =
            sorobanAuthorizationPreimage p entry passphrase) ∧
          p.verifyStrict key (preimageHash p xdr preimage).toList signature.toList = true ∧
          ∀ calls final, Run (SigningStep p xdr) entry' calls final →
            SignatureOn p xdr final networkPassphrase key signature)) ∧
    ∀ entry entry' networkPassphrase networkPassphrase' credentials credentials' preimage preimage',
      entry.credentials.addressCredentials? = some credentials →
      entry'.credentials.addressCredentials? = some credentials' →
      sorobanAuthorizationPreimage p entry networkPassphrase = .ok preimage →
      sorobanAuthorizationPreimage p entry' networkPassphrase' = .ok preimage' →
      (networkId p networkPassphrase ≠ networkId p networkPassphrase' ∨
        credentials.nonce ≠ credentials'.nonce ∨
        credentials.signatureExpirationLedger ≠ credentials'.signatureExpirationLedger ∨
        entry.rootInvocation ≠ entry'.rootInvocation ∨
        (∀ c, entry.credentials ≠ .address c) ∧ credentials.address ≠ credentials'.address) →
      xdr.preimage.encoding preimage ≠ xdr.preimage.encoding preimage' := by
  refine ⟨?_, ?_⟩
  · intro entry entry' networkPassphrase signer result h
    refine ⟨?_, ?_, ?_⟩
    · rintro ⟨e, rfl⟩
      exact signSorobanAuthorizationEntry_atomic _ _ _ h
    · intro hrefuse
      cases result with
      | error e => exact ⟨e, rfl⟩
      | ok _ => exact absurd h (signSorobanAuthorizationEntry_refuses hrefuse)
    · rintro rfl
      obtain ⟨credentials, id, existing, request, signature, key, hdirect, -, hexisting, hrequest,
        -, hkey, hverify, rfl⟩ := signSorobanAuthorizationEntry_ok h
      obtain ⟨preimage, hpreimage, -, hhash⟩ := prepareSorobanAuthorizationSigning_hash hrequest
      obtain ⟨key', hkey', -, hvalid⟩ := verifyAuthorizationSignature_eq_ok.mp hverify
      obtain rfl := Option.some.inj (hkey.symm.trans hkey')
      rw [hhash] at hvalid
      refine ⟨credentials, existing, signature, key, preimage, hdirect,
        existingSignatures_eq_ok.mp hexisting, rfl, hkey, hpreimage,
        fun _ => sorobanAuthorizationPreimage_withSignature, hvalid, ?_⟩
      -- the signature is over what the entry authorizes, and later calls only append to it
      intro calls final hrun
      have hon : SignatureOn p xdr
          (entry.withSignature (.vec (some (existing ++ [signatureMap key signature]))))
          networkPassphrase key signature :=
        ⟨_, _, preimage, direct_withSignature hdirect, rfl,
          List.mem_append_right _ (List.mem_singleton_self _),
          sorobanAuthorizationPreimage_withSignature.trans hpreimage, hvalid⟩
      exact hon.run hrun
  · intro entry entry' networkPassphrase networkPassphrase' credentials credentials' preimage
      preimage' hcredentials hcredentials' hpreimage hpreimage' hdiffer hsame
    -- one encoding is of one preimage, and the preimage holds all that is compared
    obtain rfl := xdr.preimage.encoding_injective hsame
    obtain ⟨hnetwork, hnonce, hexpiration, hinvocation, haddress⟩ :=
      sorobanAuthorizationPreimage_inj hpreimage hpreimage' hcredentials hcredentials'
    rcases hdiffer with h | h | h | h | ⟨hvariant, h⟩
    · exact h hnetwork
    · exact h hnonce
    · exact h hexpiration
    · exact h hinvocation
    · exact h (haddress hvariant)

end Fresnica
