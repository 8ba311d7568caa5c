import Fresnica.LedgerAuthorization.Satisfied
import Fresnica.Wallet

/-!
# Prepared Soroban transactions

A prepared transaction binds the envelope that was reviewed, and later the envelope
that was authorized. The envelope itself stays open to change, so it is compared
with a binding before it is used: byte by byte until it is signed, and by its
transaction hash from then on.

## Main definitions

* `SorobanInvokeRequest` — a call of a contract
* `PreparedSorobanTransaction` — the envelope, the review and the bindings
* `assertReviewBinding`, `assertSubmitBinding` — the two comparisons
* `bindReviewedEnvelope`, `bindAuthorizedEnvelope` — where the bindings come from

## Main results

* `assertReviewBinding_eq_ok`, `assertSubmitBinding_eq_ok` — what the comparisons accept
* `body_eq_of_transactionHashBytes` — a hash that is bound determines the body
-/

namespace Fresnica

open Foundation

/-- A call of a contract. -/
structure SorobanInvokeRequest where
  wallet : Option String
  contractId : String
  functionName : String
  args : List ScVal
  inclusionFeeStroops : Option U32
  authorizationLifetimeLedgers : U32

def SorobanInvokeRequest.new (contractId functionName : String) (args : List ScVal) :
    SorobanInvokeRequest where
  wallet := none
  contractId := contractId
  functionName := functionName
  args := args
  inclusionFeeStroops := none
  authorizationLifetimeLedgers := .lit 100

/-- What is shown for review. -/
structure SorobanReview where
  walletName : String
  feePayer : String
  operationSource : String
  contractId : String
  functionName : String
  argumentCount : ℕ
  authorizers : List String
  credentialTypes : List String
  authEntryCount : ℕ
  totalFeeStroops : U32
  resourceFeeStroops : I64
  inclusionFeeStroops : U32
  minResourceFeeStroops : U64
  simulationLedger : U32
  authorizationExpirationLedger : Option U32
  network : String
  transactionHash : String
  deriving DecidableEq, Repr

structure PreparedSorobanTransaction (Bytes Digest : Type) where
  envelope : TransactionEnvelope
  review : SorobanReview
  reviewedEnvelopeXdr : Bytes
  reviewedTransactionHash : Digest
  authorizedEnvelopeXdr : Option Bytes
  authorizedTransactionHash : Option Digest
  envelopeSigningComplete : Bool
  deriving DecidableEq, Repr

section Definitions

variable {Bytes Digest : Type} (p : Primitives Bytes Digest)

def transactionHashBytes (envelope : TransactionEnvelope) (network : String) :
    Except String Digest := do
  let passphrase ← networkPassphrase network
  mapErr (fun error => s!"Unable to hash Stellar transaction: {error.message}")
    (transactionHash p envelope passphrase)

/-- The transaction as it is handed out for review. -/
def bindReviewedEnvelope (review : SorobanReview) (envelope : TransactionEnvelope) :
    Except String (PreparedSorobanTransaction Bytes Digest) := do
  let reviewedEnvelopeXdr ← transactionXdrBytes p envelope
  let reviewedTransactionHash ← transactionHashBytes p envelope review.network
  return {
    envelope
    review
    reviewedEnvelopeXdr
    reviewedTransactionHash
    authorizedEnvelopeXdr := none
    authorizedTransactionHash := none
    envelopeSigningComplete := false }

namespace PreparedSorobanTransaction

variable (prepared : PreparedSorobanTransaction Bytes Digest)

def signingTransactionHash : Digest :=
  prepared.authorizedTransactionHash.getD prepared.reviewedTransactionHash

def signingTransactionHashHex : String := hex (p.digestBytes prepared.signingTransactionHash)

/-- The bytes the envelope has to have before it is signed. -/
def expectedEnvelopeXdr : Bytes :=
  prepared.authorizedEnvelopeXdr.getD prepared.reviewedEnvelopeXdr

def assertReviewBinding [DecidableEq Bytes] [DecidableEq Digest] : Except String Unit := do
  let currentXdr ← transactionXdrBytes p prepared.envelope
  let currentHash ← transactionHashBytes p prepared.envelope prepared.review.network
  ensure (¬ (currentXdr ≠ prepared.expectedEnvelopeXdr ∨
      currentHash ≠ prepared.signingTransactionHash))
    "Soroban transaction changed after review; prepare and review it again"

def assertSubmitBinding [DecidableEq Digest] : Except String Unit := do
  let currentHash ← transactionHashBytes p prepared.envelope prepared.review.network
  ensure (currentHash = prepared.signingTransactionHash)
    "Soroban transaction changed after signing; prepare and review it again"

/-- Bind the bytes, then the hash; a hash that fails leaves the bytes bound. -/
def bindAuthorizedEnvelope : Except String Unit × PreparedSorobanTransaction Bytes Digest :=
  match transactionXdrBytes p prepared.envelope with
  | .error error => (.error error, prepared)
  | .ok xdr =>
    let bound := { prepared with authorizedEnvelopeXdr := some xdr }
    match transactionHashBytes p bound.envelope bound.review.network with
    | .error error => (.error error, bound)
    | .ok hash => (.ok (), { bound with authorizedTransactionHash := some hash })

end PreparedSorobanTransaction

end Definitions

variable {Bytes Digest : Type} {p : Primitives Bytes Digest}
variable {prepared : PreparedSorobanTransaction Bytes Digest} {review : SorobanReview}
variable {envelope envelope' : TransactionEnvelope} {network : String} {hash : Digest}
variable {xdr : Bytes}

theorem transactionHashBytes_eq_ok :
    transactionHashBytes p envelope network = .ok hash ↔
      ∃ passphrase, networkPassphrase network = .ok passphrase ∧
        p.hash passphrase envelope.body = some hash := by
  simp only [transactionHashBytes, bind_eq_ok, mapErr_eq_ok, transactionHash, okOr_eq_ok]

/-- The hash sees the body only. -/
theorem transactionHashBytes_congr (h : envelope'.body = envelope.body) :
    transactionHashBytes p envelope' network = transactionHashBytes p envelope network := by
  simp only [transactionHashBytes, transactionHash, h]

/-- Envelopes with one hash have one body. -/
theorem body_eq_of_transactionHashBytes (h : transactionHashBytes p envelope network = .ok hash)
    (h' : transactionHashBytes p envelope' network = .ok hash) :
    envelope'.body = envelope.body := by
  obtain ⟨_, -, hhash⟩ := transactionHashBytes_eq_ok.mp h
  obtain ⟨_, -, hhash'⟩ := transactionHashBytes_eq_ok.mp h'
  exact (p.hash_injective hhash' hhash).2

theorem bindReviewedEnvelope_eq_ok :
    bindReviewedEnvelope p review envelope = .ok prepared ↔
      ∃ xdr hash, p.encode envelope = some xdr ∧
        transactionHashBytes p envelope review.network = .ok hash ∧
        prepared = ⟨envelope, review, xdr, hash, none, none, false⟩ := by
  simp only [bindReviewedEnvelope, bind_eq_ok, transactionXdrBytes_eq_ok, pure_eq_ok,
    Except.ok.injEq, eq_comm (a := prepared), exists_and_left]

namespace PreparedSorobanTransaction

theorem assertReviewBinding_eq_ok [DecidableEq Bytes] [DecidableEq Digest] {u : Unit} :
    prepared.assertReviewBinding p = .ok u ↔
      p.encode prepared.envelope = some prepared.expectedEnvelopeXdr ∧
      transactionHashBytes p prepared.envelope prepared.review.network =
        .ok prepared.signingTransactionHash := by
  simp only [assertReviewBinding, bind_eq_ok, transactionXdrBytes_eq_ok, ensure_eq_ok, not_or,
    not_not]
  constructor
  · rintro ⟨xdr, hxdr, hash, hhash, rfl, rfl⟩
    exact ⟨hxdr, hhash⟩
  · rintro ⟨hxdr, hhash⟩
    exact ⟨_, hxdr, _, hhash, rfl, rfl⟩

theorem assertSubmitBinding_eq_ok [DecidableEq Digest] {u : Unit} :
    prepared.assertSubmitBinding p = .ok u ↔
      transactionHashBytes p prepared.envelope prepared.review.network =
        .ok prepared.signingTransactionHash := by
  simp only [assertSubmitBinding, bind_eq_ok, ensure_eq_ok]
  constructor
  · rintro ⟨hash, hhash, rfl⟩
    exact hhash
  · exact fun hhash => ⟨_, hhash, rfl⟩

/-- Signing a reviewed envelope keeps the binding that a submission checks. -/
theorem assertSubmitBinding_of_body_eq [DecidableEq Bytes] [DecidableEq Digest]
    (h : prepared.assertReviewBinding p = .ok ()) (hbody : envelope.body = prepared.envelope.body) :
    { prepared with envelope }.assertSubmitBinding p = .ok () := by
  rw [assertSubmitBinding_eq_ok]
  change transactionHashBytes p envelope prepared.review.network = _
  rw [transactionHashBytes_congr hbody]
  exact (assertReviewBinding_eq_ok.mp h).2

end PreparedSorobanTransaction

end Fresnica
