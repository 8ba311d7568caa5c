import Fresnica.Foundation.BoundedInt

/-!
# Stellar XDR values

The transaction envelopes the client builds, reviews, signs and hands to the
network, as the values of the XDR crate: every field a reviewed transaction
binds is here. Parts the client only carries (the body of an operation family it
neither builds nor authorizes, the resources of a simulated contract call) are
kept as their encoded bytes, so that two transactions that differ there differ
here.

## Main definitions

* `ScVal`, `SorobanAuthorizationEntry` — contract values and authorizations
* `Transaction`, `TransactionEnvelope` — the three envelope kinds
* `TaggedTransaction` — the transaction body a transaction hash is taken of
* `TransactionEnvelope.body`, `TransactionEnvelope.signatures`
-/

namespace Fresnica

open Foundation

/-- A 32-byte value: an Ed25519 key, a contract id or a digest. -/
abbrev Uint256 := Vector UInt8 32

/-- A classic account, identified by its Ed25519 key. -/
abbrev AccountId := Uint256

/-- A transaction or operation source, with the virtual id of an `M` address. -/
inductive MuxedAccount
  | ed25519 (key : Uint256)
  | muxedEd25519 (id : U64) (key : Uint256)
  deriving DecidableEq, Repr

/-- Bytes with a length limit. -/
abbrev BytesM (max : ℕ) := {bytes : List UInt8 // bytes.length ≤ max}

/-- A condition that a signature, or the transaction itself, can satisfy. -/
inductive SignerKey
  | ed25519 (key : Uint256)
  | preAuthTx (hash : Uint256)
  | hashX (hash : Uint256)
  | ed25519SignedPayload (key : Uint256) (payload : BytesM 64)
  deriving DecidableEq, Repr

inductive Asset
  | native
  | creditAlphanum4 (assetCode : Vector UInt8 4) (issuer : AccountId)
  | creditAlphanum12 (assetCode : Vector UInt8 12) (issuer : AccountId)
  deriving DecidableEq, Repr

/-- An offer price `n / d`. -/
structure Price where
  n : I32
  d : I32
  deriving DecidableEq, Repr

inductive Memo
  | none
  | text (value : String)
  | id (value : U64)
  | hash (value : Uint256)
  | return (value : Uint256)
  deriving DecidableEq, Repr

structure TimeBounds where
  minTime : U64
  maxTime : U64
  deriving DecidableEq, Repr

structure PreconditionsV2 where
  timeBounds : Option TimeBounds
  ledgerBounds : Option (U32 × U32)
  minSeqNum : Option I64
  minSeqAge : U64
  minSeqLedgerGap : U32
  extraSigners : List SignerKey
  deriving DecidableEq, Repr

inductive Preconditions
  | none
  | time (bounds : TimeBounds)
  | v2 (value : PreconditionsV2)
  deriving DecidableEq, Repr

/-! ### Contract values -/

inductive ScAddress
  | account (id : AccountId)
  | contract (id : Uint256)
  | other (encoded : List UInt8)
  deriving DecidableEq, Repr

/-- The contract values that hold no other contract value. -/
inductive ScScalar
  | bool (value : Bool)
  | void
  | error (encoded : List UInt8)
  | u32 (value : U32)
  | i32 (value : I32)
  | u64 (value : U64)
  | i64 (value : I64)
  | timepoint (value : U64)
  | duration (value : U64)
  | u128 (hi lo : U64)
  | i128 (hi : I64) (lo : U64)
  | u256 (hiHi hiLo loHi loLo : U64)
  | i256 (hiHi : I64) (hiLo loHi loLo : U64)
  | bytes (value : List UInt8)
  | string (value : List UInt8)
  | symbol (value : List UInt8)
  | address (value : ScAddress)
  | ledgerKeyContractInstance
  | ledgerKeyNonce (value : I64)
  | executableTag (encoded : List UInt8)
  deriving DecidableEq, Repr

/-- Contract values. The scalar variants have their own names below. -/
inductive ScVal
  | scalar (value : ScScalar)
  | vec (values : Option (List ScVal))
  | map (entries : Option (List (ScVal × ScVal)))
  | contractInstance (executable : List UInt8) (storage : Option (List (ScVal × ScVal)))
  deriving Repr

namespace ScVal

@[match_pattern] abbrev void : ScVal := .scalar .void

@[match_pattern] abbrev symbol (value : List UInt8) : ScVal := .scalar (.symbol value)

@[match_pattern] abbrev bytes (value : List UInt8) : ScVal := .scalar (.bytes value)

mutual

/-- Equality of contract values, decided along the tree. -/
def decEq : (a b : ScVal) → Decidable (a = b)
  | .scalar a, b =>
    match b with
    | .scalar b => decidable_of_iff (a = b) (by simp)
    | .vec _ | .map _ | .contractInstance _ _ => isFalse (by simp)
  | .vec none, b =>
    match b with
    | .vec none => isTrue rfl
    | .vec (some _) | .scalar _ | .map _ | .contractInstance _ _ => isFalse (by simp)
  | .vec (some as), b =>
    match b with
    | .vec (some bs) =>
      have := decEqList as bs
      decidable_of_iff (as = bs) (by simp)
    | .vec none | .scalar _ | .map _ | .contractInstance _ _ => isFalse (by simp)
  | .map none, b =>
    match b with
    | .map none => isTrue rfl
    | .map (some _) | .scalar _ | .vec _ | .contractInstance _ _ => isFalse (by simp)
  | .map (some as), b =>
    match b with
    | .map (some bs) =>
      have := decEqEntries as bs
      decidable_of_iff (as = bs) (by simp)
    | .map none | .scalar _ | .vec _ | .contractInstance _ _ => isFalse (by simp)
  | .contractInstance e none, b =>
    match b with
    | .contractInstance f none => decidable_of_iff (e = f) (by simp)
    | .contractInstance _ (some _) | .scalar _ | .vec _ | .map _ => isFalse (by simp)
  | .contractInstance e (some as), b =>
    match b with
    | .contractInstance f (some bs) =>
      have := decEqEntries as bs
      decidable_of_iff (e = f ∧ as = bs) (by simp)
    | .contractInstance _ none | .scalar _ | .vec _ | .map _ => isFalse (by simp)

/-- Equality of lists of contract values. -/
def decEqList : (as bs : List ScVal) → Decidable (as = bs)
  | [], [] => isTrue rfl
  | [], _ :: _ | _ :: _, [] => isFalse (by simp)
  | a :: as, b :: bs =>
    have := decEq a b
    have := decEqList as bs
    decidable_of_iff (a = b ∧ as = bs) (by simp)

/-- Equality of map entries. -/
def decEqEntries : (as bs : List (ScVal × ScVal)) → Decidable (as = bs)
  | [], [] => isTrue rfl
  | [], _ :: _ | _ :: _, [] => isFalse (by simp)
  | (k, v) :: as, (l, w) :: bs =>
    have := decEq k l
    have := decEq v w
    have := decEqEntries as bs
    decidable_of_iff (k = l ∧ v = w ∧ as = bs) (by simp [and_assoc])

end

instance : DecidableEq ScVal := decEq

end ScVal

/-! ### Soroban authorization -/

structure InvokeContractArgs where
  contractAddress : ScAddress
  functionName : List UInt8
  args : List ScVal
  deriving DecidableEq, Repr

inductive SorobanAuthorizedFunction
  | contractFn (args : InvokeContractArgs)
  | createContract (encoded : List UInt8)
  deriving DecidableEq, Repr

/-- A call tree an authorizer agrees to. -/
inductive SorobanAuthorizedInvocation
  | mk (function : SorobanAuthorizedFunction)
      (subInvocations : List SorobanAuthorizedInvocation)
  deriving Repr

namespace SorobanAuthorizedInvocation

mutual

/-- Equality of call trees. -/
def decEq : (a b : SorobanAuthorizedInvocation) → Decidable (a = b)
  | .mk f as, .mk g bs =>
    have := decEqList as bs
    decidable_of_iff (f = g ∧ as = bs) (by simp)

/-- Equality of lists of call trees. -/
def decEqList : (as bs : List SorobanAuthorizedInvocation) → Decidable (as = bs)
  | [], [] => isTrue rfl
  | [], _ :: _ | _ :: _, [] => isFalse (by simp)
  | a :: as, b :: bs =>
    have := decEq a b
    have := decEqList as bs
    decidable_of_iff (a = b ∧ as = bs) (by simp)

end

instance : DecidableEq SorobanAuthorizedInvocation := decEq

/-- The call at the root of the tree. -/
def function : SorobanAuthorizedInvocation → SorobanAuthorizedFunction
  | .mk f _ => f

/-- The calls below the root. -/
def subInvocations : SorobanAuthorizedInvocation → List SorobanAuthorizedInvocation
  | .mk _ subs => subs

end SorobanAuthorizedInvocation

structure SorobanAddressCredentials where
  address : ScAddress
  nonce : I64
  signatureExpirationLedger : U32
  signature : ScVal
  deriving DecidableEq, Repr

/-- Credentials whose signature is collected from delegates. -/
structure SorobanAddressCredentialsWithDelegates where
  addressCredentials : SorobanAddressCredentials
  delegates : List UInt8
  deriving DecidableEq, Repr

inductive SorobanCredentials
  | sourceAccount
  | address (credentials : SorobanAddressCredentials)
  | addressV2 (credentials : SorobanAddressCredentials)
  | addressWithDelegates (credentials : SorobanAddressCredentialsWithDelegates)
  deriving DecidableEq, Repr

structure SorobanAuthorizationEntry where
  credentials : SorobanCredentials
  rootInvocation : SorobanAuthorizedInvocation
  deriving DecidableEq, Repr

/-! ### Transactions -/

inductive HostFunction
  | invokeContract (args : InvokeContractArgs)
  | other (encoded : List UInt8)
  deriving DecidableEq, Repr

structure InvokeHostFunctionOp where
  hostFunction : HostFunction
  auth : List SorobanAuthorizationEntry
  deriving DecidableEq, Repr

/-- Operation bodies; `other` is every family the client neither builds nor
authorizes, with its discriminant and encoded body. -/
inductive OperationBody
  | createAccount (destination : AccountId) (startingBalance : I64)
  | payment (destination : MuxedAccount) (asset : Asset) (amount : I64)
  | manageSellOffer (selling buying : Asset) (amount : I64) (price : Price) (offerId : I64)
  | manageBuyOffer (selling buying : Asset) (buyAmount : I64) (price : Price) (offerId : I64)
  | changeTrust (line : Asset) (limit : I64)
  | manageData (dataName : List UInt8) (dataValue : Option (List UInt8))
  | invokeHostFunction (op : InvokeHostFunctionOp)
  | bumpSequence (bumpTo : I64)
  | other (discriminant : I32) (encoded : List UInt8)
  deriving DecidableEq, Repr

structure Operation where
  sourceAccount : Option MuxedAccount
  body : OperationBody
  deriving DecidableEq, Repr

/-- The resources and fee of a simulated contract call. -/
structure SorobanTransactionData where
  resources : List UInt8
  resourceFee : I64
  deriving DecidableEq, Repr

inductive TransactionExt
  | v0
  | v1 (data : SorobanTransactionData)
  deriving DecidableEq, Repr

structure Transaction where
  sourceAccount : MuxedAccount
  fee : U32
  seqNum : I64
  cond : Preconditions
  memo : Memo
  operations : List Operation
  ext : TransactionExt
  deriving DecidableEq, Repr

/-- The first transaction format, without muxed sources or preconditions. -/
structure TransactionV0 where
  sourceAccountEd25519 : Uint256
  fee : U32
  seqNum : I64
  timeBounds : Option TimeBounds
  memo : Memo
  operations : List Operation
  deriving DecidableEq, Repr

/-- The hint is the end of the signer's key, and selects the key to verify with. -/
structure DecoratedSignature where
  hint : Vector UInt8 4
  signature : List UInt8
  deriving DecidableEq, Repr

structure FeeBumpTransaction where
  feeSource : MuxedAccount
  fee : I64
  innerTransaction : Transaction
  innerSignatures : List DecoratedSignature
  deriving DecidableEq, Repr

inductive TransactionEnvelope
  | txV0 (tx : TransactionV0) (signatures : List DecoratedSignature)
  | tx (tx : Transaction) (signatures : List DecoratedSignature)
  | txFeeBump (tx : FeeBumpTransaction) (signatures : List DecoratedSignature)
  deriving DecidableEq, Repr

/-- The most signatures an envelope can carry. -/
def maxSignatures : ℕ := 20

/-- What a transaction hash is taken of, next to the network. -/
inductive TaggedTransaction
  | tx (tx : Transaction)
  | txFeeBump (tx : FeeBumpTransaction)
  deriving DecidableEq, Repr

/-- A version 0 transaction is hashed as the version 1 transaction it stands for. -/
def TransactionV0.toTransaction (t : TransactionV0) : Transaction where
  sourceAccount := .ed25519 t.sourceAccountEd25519
  fee := t.fee
  seqNum := t.seqNum
  cond := t.timeBounds.elim .none .time
  memo := t.memo
  operations := t.operations
  ext := .v0

namespace TransactionEnvelope

/-- The transaction body the envelope's hash and signatures are about. -/
def body : TransactionEnvelope → TaggedTransaction
  | .txV0 t _ => .tx t.toTransaction
  | .tx t _ => .tx t
  | .txFeeBump t _ => .txFeeBump t

def signatures : TransactionEnvelope → List DecoratedSignature
  | .txV0 _ s | .tx _ s | .txFeeBump _ s => s

def withSignatures : TransactionEnvelope → List DecoratedSignature → TransactionEnvelope
  | .txV0 t _, s => .txV0 t s
  | .tx t _, s => .tx t s
  | .txFeeBump t _, s => .txFeeBump t s

@[simp] theorem body_withSignatures (e : TransactionEnvelope) (s : List DecoratedSignature) :
    (e.withSignatures s).body = e.body := by
  cases e <;> rfl

@[simp] theorem signatures_withSignatures (e : TransactionEnvelope)
    (s : List DecoratedSignature) : (e.withSignatures s).signatures = s := by
  cases e <;> rfl

@[simp] theorem withSignatures_signatures (e : TransactionEnvelope) :
    e.withSignatures e.signatures = e := by
  cases e <;> rfl

@[simp] theorem withSignatures_withSignatures (e : TransactionEnvelope)
    (s t : List DecoratedSignature) :
    (e.withSignatures s).withSignatures t = e.withSignatures t := by
  cases e <;> rfl

end TransactionEnvelope

end Fresnica
