import Fresnica.Foundation.InPlace
import Fresnica.Foundation.Text
import Fresnica.StrKey

/-!
# Signing transaction envelopes

The core hashes an envelope, asks a signer for a signature of the hash, verifies
the answer and appends it. Whatever the signer answers, an accepted signature is
valid for the signer's own key, and no signature that was there is touched, so
every signer condition that was satisfied stays satisfied.

XDR, the hash function and Ed25519 come from other crates and are a parameter,
`Primitives`. Encodings and hashes are abstract values: two envelopes have the same
encoding only if they are equal, and two bodies on two networks have the same hash
only if they are equal.

## Main definitions

* `Primitives` — the codec, the hash, and signature verification
* `Primitives.ideal` — an instance over values, for examples
* `ClassicSigner` — a signer with arbitrary answers
* `signTransactionEnvelope`, `transactionEnvelopeSatisfiesSignerKey`
* `signTransactionEnvelopeInPlace` — the same, statement by statement

## Main results

* `signTransactionEnvelope_ok` — what a successful signing adds
* `satisfiesSignerKey_of_subset` — more signatures satisfy as much
* `satisfiesSignerKey_signTransactionEnvelope` — and the new one its own key
-/

namespace Fresnica

open Foundation

/-- What the client takes from the XDR, hashing and Ed25519 crates. -/
structure Primitives (Bytes Digest : Type) where
  strKey : StrKey
  encode : TransactionEnvelope → Option Bytes
  decode : Bytes → Option TransactionEnvelope
  hash : String → TaggedTransaction → Option Digest
  digestBytes : Digest → List UInt8
  sha256 : List UInt8 → Uint256
  isVerifyingKey : Uint256 → Bool
  verifyStrict : Uint256 → List UInt8 → List UInt8 → Bool
  encode_injective : ∀ {e e' bytes}, encode e = some bytes → encode e' = some bytes → e = e'
  decode_canonical : ∀ {e bytes}, decode bytes = some e → encode e = some bytes
  hash_injective : ∀ {network network' body body' digest}, hash network body = some digest →
    hash network' body' = some digest → network = network' ∧ body = body'

def TaggedTransaction.seqNum : TaggedTransaction → I64
  | .tx t => t.seqNum
  | .txFeeBump t => t.innerTransaction.seqNum

/-- Primitives over values in place of bytes: an envelope is its own encoding, a body
its own hash, which prints as its sequence number, and a key signs by being
repeated. -/
def Primitives.ideal : Primitives TransactionEnvelope (String × TaggedTransaction) where
  strKey := Sep23.strKey
  encode := some
  decode := some
  hash networkPassphrase body := some (networkPassphrase, body)
  digestBytes digest :=
    (Positional.digits 256 32 digest.2.seqNum.val.toNat).map UInt8.ofNat
  sha256 _ := Vector.replicate 32 0
  isVerifyingKey _ := true
  verifyStrict key _ signature := signature = key.toList ++ key.toList
  encode_injective h h' := Option.some_inj.mp (h.trans h'.symm)
  decode_canonical h := h.symm
  hash_injective h h' := Prod.mk.inj (Option.some_inj.mp (h.trans h'.symm))

inductive SignerError
  | invalidSecret
  | invalidPublicKey
  | externalProvider (message : String)
  deriving DecidableEq, Repr

def SignerError.message : SignerError → String
  | .invalidSecret => "invalid Stellar secret key"
  | .invalidPublicKey => "invalid Stellar public key"
  | .externalProvider message => s!"external signer failed: {message}"

inductive TransactionSigningError
  | xdr
  | signer (error : SignerError)
  | invalidSignature
  | duplicateSignature
  deriving DecidableEq, Repr

def TransactionSigningError.message : TransactionSigningError → String
  | .xdr => "invalid Stellar transaction XDR"
  | .signer error => error.message
  | .invalidSignature => "signer returned a signature for the wrong key or transaction hash"
  | .duplicateSignature => "signer has already signed this transaction"

structure TransactionSigningRequest (Bytes Digest : Type) where
  transactionHash : Digest
  transactionXdr : Bytes
  networkPassphrase : String
  deriving DecidableEq, Repr

/-- A signer that answers requests for the key it names. -/
structure ClassicSigner (Bytes Digest : Type) where
  publicKey : String
  signTransaction : TransactionSigningRequest Bytes Digest → Except SignerError (Vector UInt8 64)

/-- The last four bytes, with zeros after fewer. -/
def signatureHint (bytes : List UInt8) : Vector UInt8 4 :=
  let last := bytes.drop (bytes.length - 4)
  Vector.ofFn fun i => last.getD i 0

section Signing

variable {Bytes Digest : Type} (p : Primitives Bytes Digest)

def transactionHash (envelope : TransactionEnvelope) (networkPassphrase : String) :
    Except TransactionSigningError Digest :=
  okOr (p.hash networkPassphrase envelope.body) .xdr

def transactionEnvelopeXdr (envelope : TransactionEnvelope) :
    Except TransactionSigningError Bytes :=
  okOr (p.encode envelope) .xdr

def parseTransactionEnvelopeXdr (xdr : Bytes) :
    Except TransactionSigningError TransactionEnvelope :=
  okOr (p.decode xdr) .xdr

/-- A decorated signature of the key over the message. -/
def DecoratedSignature.verifies (decorated : DecoratedSignature) (hint : Vector UInt8 4)
    (key : Uint256) (message : List UInt8) : Bool :=
  decorated.hint = hint ∧ decorated.signature.length = 64 ∧
    p.verifyStrict key message decorated.signature

def transactionEnvelopeSatisfiesSignerKey (envelope : TransactionEnvelope)
    (networkPassphrase : String) (signer : SignerKey) : Except TransactionSigningError Bool :=
  match signer with
  | .ed25519 key => do
    ensure (p.isVerifyingKey key = true) (.signer .invalidPublicKey)
    let hash ← transactionHash p envelope networkPassphrase
    return envelope.signatures.any fun decorated =>
      decorated.verifies p (signatureHint key.toList) key (p.digestBytes hash)
  | .preAuthTx expected => do
    let hash ← transactionHash p envelope networkPassphrase
    return expected.toList = p.digestBytes hash
  | .hashX expected =>
    return envelope.signatures.any fun decorated =>
      decorated.hint = signatureHint expected.toList ∧ p.sha256 decorated.signature = expected
  | .ed25519SignedPayload key payload => do
    ensure (p.isVerifyingKey key = true) (.signer .invalidPublicKey)
    -- the hint of a signed payload mixes the last bytes of the key and of the payload
    let hint := Vector.zipWith (· ^^^ ·) (signatureHint key.toList) (signatureHint payload.val)
    return envelope.signatures.any fun decorated =>
      decorated.verifies p hint key payload.val

def transactionEnvelopeHasValidSignature (envelope : TransactionEnvelope)
    (networkPassphrase signerPublicKey : String) : Except TransactionSigningError Bool := do
  let key ← okOr (p.strKey.publicKeyOf? signerPublicKey) (.signer .invalidPublicKey)
  transactionEnvelopeSatisfiesSignerKey p envelope networkPassphrase (.ed25519 key)

def verifySignature (publicKey : String) (hash : Digest) (signature : Vector UInt8 64) :
    Except TransactionSigningError Unit := do
  let key ← okOr (p.strKey.publicKeyOf? publicKey) (.signer .invalidPublicKey)
  ensure (p.isVerifyingKey key = true) (.signer .invalidPublicKey)
  ensure (p.verifyStrict key (p.digestBytes hash) signature.toList = true) .invalidSignature

/-- The hint of a signer, the end of its public key. -/
def ClassicSigner.signatureHint (signer : ClassicSigner Bytes Digest) :
    Except TransactionSigningError (Vector UInt8 4) := do
  let key ← okOr (p.strKey.publicKeyOf? signer.publicKey) (.signer .invalidPublicKey)
  return Fresnica.signatureHint key.toList

def signTransactionEnvelope (envelope : TransactionEnvelope) (networkPassphrase : String)
    (signer : ClassicSigner Bytes Digest) : Except TransactionSigningError TransactionEnvelope := do
  let hash ← transactionHash p envelope networkPassphrase
  let xdr ← transactionEnvelopeXdr p envelope
  let signature ← mapErr .signer (signer.signTransaction ⟨hash, xdr, networkPassphrase⟩)
  verifySignature p signer.publicKey hash signature
  let hint ← signer.signatureHint p
  let decorated : DecoratedSignature := ⟨hint, signature.toList⟩
  ensure (decorated ∉ envelope.signatures) .duplicateSignature
  ensure (envelope.signatures.length + 1 ≤ maxSignatures) .xdr
  return envelope.withSignatures (envelope.signatures ++ [decorated])

/-- The envelope is a mutable reference, and is assigned last. -/
def signTransactionEnvelopeInPlace (networkPassphrase : String)
    (signer : ClassicSigner Bytes Digest) :
    Mut TransactionEnvelope TransactionSigningError Unit := do
  let envelope ← Mut.current
  let hash ← Mut.attempt (transactionHash p envelope networkPassphrase)
  let xdr ← Mut.attempt (transactionEnvelopeXdr p envelope)
  let signature ← Mut.attempt
    (mapErr .signer (signer.signTransaction ⟨hash, xdr, networkPassphrase⟩))
  Mut.attempt (verifySignature p signer.publicKey hash signature)
  let hint ← Mut.attempt (signer.signatureHint p)
  let decorated : DecoratedSignature := ⟨hint, signature.toList⟩
  Mut.attempt (ensure (decorated ∉ envelope.signatures) .duplicateSignature)
  Mut.attempt (ensure (envelope.signatures.length + 1 ≤ maxSignatures) .xdr)
  Mut.assign (envelope.withSignatures (envelope.signatures ++ [decorated]))

variable {p} {envelope envelope' : TransactionEnvelope} {networkPassphrase : String}
variable {signer : ClassicSigner Bytes Digest} {key : Uint256} {signerKey : SignerKey}

/-- A successful signing appends one signature, valid for the signer's key. -/
theorem signTransactionEnvelope_ok
    (h : signTransactionEnvelope p envelope networkPassphrase signer = .ok envelope') :
    ∃ key hash decorated, p.strKey.publicKeyOf? signer.publicKey = some key ∧
      p.isVerifyingKey key = true ∧
      p.hash networkPassphrase envelope.body = some hash ∧
      decorated.verifies p (signatureHint key.toList) key (p.digestBytes hash) = true ∧
      envelope' = envelope.withSignatures (envelope.signatures ++ [decorated]) := by
  simp only [signTransactionEnvelope, transactionHash, transactionEnvelopeXdr, verifySignature,
    ClassicSigner.signatureHint, bind_eq_ok, ensure_eq_ok, okOr_eq_ok, mapErr_eq_ok, pure_eq_ok,
    Except.ok.injEq] at h
  obtain ⟨hash, hhash, xdr, -, signature, -, _, ⟨key, hkey, _, hvalid, hverify⟩, hint,
    ⟨key', hkey', rfl⟩, _, -, _, -, rfl⟩ := h
  obtain rfl := Option.some_inj.mp (hkey.symm.trans hkey')
  refine ⟨key, hash, _, hkey, hvalid, hhash, ?_, rfl⟩
  simp [DecoratedSignature.verifies, hverify]

/-- More signatures on the same body satisfy every condition that was satisfied. -/
theorem satisfiesSignerKey_of_subset (hbody : envelope'.body = envelope.body)
    (hsub : ∀ s ∈ envelope.signatures, s ∈ envelope'.signatures) {b : Bool}
    (h : transactionEnvelopeSatisfiesSignerKey p envelope networkPassphrase signerKey = .ok b) :
    ∃ b', transactionEnvelopeSatisfiesSignerKey p envelope' networkPassphrase signerKey = .ok b' ∧
      (b = true → b' = true) := by
  have hany : ∀ q : DecoratedSignature → Bool,
      envelope.signatures.any q = true → envelope'.signatures.any q = true := by
    intro q hq
    obtain ⟨s, hs, hqs⟩ := List.any_eq_true.mp hq
    exact List.any_eq_true.mpr ⟨s, hsub s hs, hqs⟩
  cases signerKey with
  | ed25519 key =>
    simp only [transactionEnvelopeSatisfiesSignerKey, transactionHash, bind_eq_ok, ensure_eq_ok,
      okOr_eq_ok, pure_eq_ok, Except.ok.injEq, hbody] at h ⊢
    obtain ⟨u, hvalid, hash, hhash, rfl⟩ := h
    exact ⟨_, ⟨u, hvalid, hash, hhash, rfl⟩, hany _⟩
  | preAuthTx expected =>
    refine ⟨b, ?_, id⟩
    simpa only [transactionEnvelopeSatisfiesSignerKey, transactionHash, hbody] using h
  | hashX expected =>
    obtain rfl := Except.ok.inj h
    exact ⟨_, rfl, hany _⟩
  | ed25519SignedPayload key payload =>
    simp only [transactionEnvelopeSatisfiesSignerKey, bind_eq_ok, ensure_eq_ok, pure_eq_ok,
      Except.ok.injEq] at h ⊢
    obtain ⟨u, hvalid, rfl⟩ := h
    exact ⟨_, ⟨u, hvalid, rfl⟩, hany _⟩

/-- The signer's own condition holds after it has signed. -/
theorem satisfiesSignerKey_signTransactionEnvelope
    (h : signTransactionEnvelope p envelope networkPassphrase signer = .ok envelope')
    (hkey : p.strKey.publicKeyOf? signer.publicKey = some key) :
    transactionEnvelopeSatisfiesSignerKey p envelope' networkPassphrase (.ed25519 key) =
      .ok true := by
  obtain ⟨key', hash, decorated, hkey', hvalid, hhash, hverifies, rfl⟩ :=
    signTransactionEnvelope_ok h
  obtain rfl := Option.some_inj.mp (hkey.symm.trans hkey')
  simp [transactionEnvelopeSatisfiesSignerKey, transactionHash, ensure, hvalid, okOr, hhash,
    hverifies]

/-- A signing that fails leaves the envelope as it was. -/
theorem signTransactionEnvelopeInPlace_atomic :
    (signTransactionEnvelopeInPlace p networkPassphrase signer).Atomic := by
  -- every step before the assignment only reads
  unfold signTransactionEnvelopeInPlace
  apply Mut.Atomic.bind Mut.ReadOnly.current
  intro envelope
  apply Mut.Atomic.bind Mut.ReadOnly.attempt
  intro hash
  apply Mut.Atomic.bind Mut.ReadOnly.attempt
  intro xdr
  apply Mut.Atomic.bind Mut.ReadOnly.attempt
  intro signature
  apply Mut.Atomic.bind Mut.ReadOnly.attempt
  intro _
  apply Mut.Atomic.bind Mut.ReadOnly.attempt
  intro hint
  apply Mut.Atomic.bind Mut.ReadOnly.attempt
  intro _
  apply Mut.Atomic.bind Mut.ReadOnly.attempt
  intro _
  exact Mut.Atomic.assign

/-- What is assigned is the signed envelope. -/
theorem signTransactionEnvelopeInPlace_eq_ok :
    signTransactionEnvelopeInPlace p networkPassphrase signer envelope = (.ok (), envelope') ↔
      signTransactionEnvelope p envelope networkPassphrase signer = .ok envelope' := by
  simp only [signTransactionEnvelopeInPlace, signTransactionEnvelope, Mut.bind_eq_ok,
    Mut.current_eq_ok, Mut.attempt_eq_ok, Mut.assign_eq_ok, bind_eq_ok, pure_eq_ok,
    Except.ok.injEq]
  constructor
  · rintro ⟨_, _, ⟨rfl, rfl⟩, hash, _, ⟨hhash, rfl⟩, xdr, _, ⟨hxdr, rfl⟩, signature, _,
      ⟨hsignature, rfl⟩, _, _, ⟨hverify, rfl⟩, hint, _, ⟨hhint, rfl⟩, _, _, ⟨hnew, rfl⟩, _, _,
      ⟨hlength, rfl⟩, rfl⟩
    exact ⟨hash, hhash, xdr, hxdr, signature, hsignature, (), hverify, hint, hhint, (), hnew, (),
      hlength, rfl⟩
  · rintro ⟨hash, hhash, xdr, hxdr, signature, hsignature, _, hverify, hint, hhint, _, hnew, _,
      hlength, rfl⟩
    exact ⟨_, _, ⟨rfl, rfl⟩, hash, _, ⟨hhash, rfl⟩, xdr, _, ⟨hxdr, rfl⟩, signature, _,
      ⟨hsignature, rfl⟩, (), _, ⟨hverify, rfl⟩, hint, _, ⟨hhint, rfl⟩, (), _, ⟨hnew, rfl⟩, (), _,
      ⟨hlength, rfl⟩, rfl⟩

end Signing

end Fresnica
