import Fresnica.Core.Transaction
import Mathlib.Data.List.Destutter

/-!
# Agent access

A capability lets an agent have transactions of one account signed: on one network,
up to an expiry, with operations of the listed types, and within a number of operations
and a fee. A transaction is authorized against the capability and then signed with the
account's own key.

## Main definitions

* `AgentCapability.new` — a capability, with its list of types sorted
* `authorizeAgentTransaction`, `signAgentTransaction`
* `Permitted` — what a capability permits

## Main results

* `authorizeAgentTransaction_iff` — what is permitted is authorized, and nothing else
* `agent_confined`
-/

namespace Fresnica

open Foundation

/-- The kind of an operation, by its number. -/
structure OperationType where
  code : I32
  deriving DecidableEq, Repr

def OperationBody.discriminant : OperationBody → OperationType
  | .createAccount .. => ⟨.lit 0⟩
  | .payment .. => ⟨.lit 1⟩
  | .manageSellOffer .. => ⟨.lit 3⟩
  | .changeTrust .. => ⟨.lit 6⟩
  | .manageData .. => ⟨.lit 10⟩
  | .bumpSequence _ => ⟨.lit 11⟩
  | .manageBuyOffer .. => ⟨.lit 12⟩
  | .invokeHostFunction _ => ⟨.lit 24⟩
  | .other discriminant _ => ⟨discriminant⟩

/-- The Ed25519 key of an account, muxed or not. -/
def MuxedAccount.key : MuxedAccount → Uint256
  | .ed25519 key | .muxedEd25519 _ key => key

inductive AgentAccessError
  | invalidCapabilityAccount
  | emptyNetworkPassphrase
  | emptyOperationAllowlist
  | invalidMaxOperations
  | networkNotAllowed
  | capabilityExpired
  | unsupportedEnvelope
  | preexistingSignatures
  | transactionSourceNotAllowed
  | feeLimitExceeded (fee maxFee : U32)
  | noOperations
  | operationCountExceeded (count : ℕ) (max : U64)
  | operationSourceNotAllowed (index : ℕ)
  | operationNotAllowed (index : ℕ) (operation : OperationType)
  | signerNotAllowed
  | transactionSigning (error : TransactionSigningError)
  deriving DecidableEq, Repr

structure AgentCapability where
  publicKey : String
  networkPassphrase : String
  allowedOperations : List OperationType
  maxOperations : U64
  maxFee : U32
  expiresAtUnix : Option U64
  deriving DecidableEq, Repr

structure AgentAuthorization where
  publicKey : String
  operationTypes : List OperationType
  fee : U32
  deriving DecidableEq, Repr

section Definitions

variable {Bytes Digest : Type} (p : Primitives Bytes Digest)

def AgentCapability.new (publicKey networkPassphrase : String)
    (allowedOperations : List OperationType) (maxOperations : U64) (maxFee : U32)
    (expiresAtUnix : Option U64) : Except AgentAccessError AgentCapability := do
  let key ← okOr (p.strKey.publicKeyOf? (Text.trim publicKey)) .invalidCapabilityAccount
  ensure (networkPassphrase ≠ "") .emptyNetworkPassphrase
  ensure (allowedOperations ≠ []) .emptyOperationAllowlist
  ensure (maxOperations.val ≠ 0) .invalidMaxOperations
  return {
    publicKey := p.strKey.publicKey key
    networkPassphrase
    allowedOperations :=
      (allowedOperations.mergeSort fun a b => a.code ≤ b.code).destutter (· ≠ ·)
    maxOperations
    maxFee
    expiresAtUnix }

def muxedAccountPublicKey (account : MuxedAccount) : String := p.strKey.publicKey account.key

/-- The type of an operation that the capability allows. -/
def authorizeAgentOperation (capability : AgentCapability) (source : MuxedAccount)
    (indexed : Operation × ℕ) : Except AgentAccessError OperationType := do
  let (operation, index) := indexed
  ensure (muxedAccountPublicKey p (operation.sourceAccount.getD source) = capability.publicKey)
    (.operationSourceNotAllowed index)
  let operationType := operation.body.discriminant
  ensure (operationType ∈ capability.allowedOperations) (.operationNotAllowed index operationType)
  return operationType

/-- The envelope of the only supported kind, unsigned. -/
def unsignedV1 : TransactionEnvelope → Except AgentAccessError Transaction
  | .tx tx signatures => do
    ensure (signatures = []) .preexistingSignatures
    return tx
  | .txV0 .. | .txFeeBump .. => .error .unsupportedEnvelope

def authorizeAgentTransaction (capability : AgentCapability) (envelope : TransactionEnvelope)
    (networkPassphrase : String) (nowUnix : U64) : Except AgentAccessError AgentAuthorization := do
  ensure (networkPassphrase = capability.networkPassphrase) .networkNotAllowed
  ensure (¬ ∃ expiresAt ∈ capability.expiresAtUnix, nowUnix ≥ expiresAt) .capabilityExpired
  let tx ← unsignedV1 envelope
  ensure (muxedAccountPublicKey p tx.sourceAccount = capability.publicKey)
    .transactionSourceNotAllowed
  ensure (¬ tx.fee > capability.maxFee) (.feeLimitExceeded tx.fee capability.maxFee)
  let operationCount := tx.operations.length
  ensure (operationCount ≠ 0) .noOperations
  ensure (¬ (operationCount : ℤ) > capability.maxOperations.val)
    (.operationCountExceeded operationCount capability.maxOperations)
  let operationTypes ←
    tx.operations.zipIdx.mapM (authorizeAgentOperation p capability tx.sourceAccount)
  return ⟨capability.publicKey, operationTypes, tx.fee⟩

def signAgentTransaction (capability : AgentCapability) (networkPassphrase : String)
    (nowUnix : U64) (signer : ClassicSigner Bytes Digest) :
    Mut TransactionEnvelope AgentAccessError AgentAuthorization := do
  let signerPublic ← Mut.attempt (okOr (p.strKey.publicKeyOf? signer.publicKey) .signerNotAllowed)
  Mut.attempt (ensure (p.strKey.publicKey signerPublic = capability.publicKey) .signerNotAllowed)
  let envelope ← Mut.current
  let authorization ← Mut.attempt
    (authorizeAgentTransaction p capability envelope networkPassphrase nowUnix)
  Mut.mapError .transactionSigning (signTransactionEnvelopeInPlace p networkPassphrase signer)
  return authorization

end Definitions

/-! ### What a capability permits -/

/-- The terms a capability is made from. -/
structure AgentTerms where
  key : Uint256
  networkPassphrase : String
  allowedOperations : List OperationType
  maxOperations : U64
  maxFee : U32
  expiresAtUnix : Option U64

/-- The envelope is unsigned, of the account alone, and within the limits. -/
structure Permitted (terms : AgentTerms) (envelope : TransactionEnvelope)
    (networkPassphrase : String) (nowUnix : U64) (tx : Transaction) : Prop where
  network : networkPassphrase = terms.networkPassphrase
  inTime : ∀ expiresAt, terms.expiresAtUnix = some expiresAt → nowUnix < expiresAt
  unsigned : envelope = .tx tx []
  source : tx.sourceAccount.key = terms.key
  fee : tx.fee ≤ terms.maxFee
  nonempty : 1 ≤ tx.operations.length
  count : (tx.operations.length : ℤ) ≤ terms.maxOperations.val
  operations : ∀ operation ∈ tx.operations,
    (operation.sourceAccount.getD tx.sourceAccount).key = terms.key ∧
      operation.body.discriminant ∈ terms.allowedOperations

/-- Terms that allow at least as much to the same account. -/
structure AgentTerms.Widens (terms wider : AgentTerms) : Prop where
  key : wider.key = terms.key
  network : wider.networkPassphrase = terms.networkPassphrase
  operations : ∀ operation ∈ terms.allowedOperations, operation ∈ wider.allowedOperations
  maxOperations : terms.maxOperations ≤ wider.maxOperations
  maxFee : terms.maxFee ≤ wider.maxFee
  expires : ∀ later, wider.expiresAtUnix = some later →
    ∃ expiresAt, terms.expiresAtUnix = some expiresAt ∧ expiresAt ≤ later

theorem Permitted.widen {terms wider : AgentTerms} {envelope : TransactionEnvelope}
    {networkPassphrase : String} {nowUnix : U64} {tx : Transaction} (hwiden : terms.Widens wider)
    (h : Permitted terms envelope networkPassphrase nowUnix tx) :
    Permitted wider envelope networkPassphrase nowUnix tx where
  network := h.network.trans hwiden.network.symm
  -- where the wider terms expire, the narrower expired no later
  inTime := by
    intro later hlater
    obtain ⟨expiresAt, hexpires, hle⟩ := hwiden.expires later hlater
    have hlt := h.inTime expiresAt hexpires
    rw [BoundedInt.lt_iff] at hlt ⊢
    rw [BoundedInt.le_iff] at hle
    exact hlt.trans_le hle
  unsigned := h.unsigned
  source := h.source.trans hwiden.key.symm
  fee := by
    have hfee := h.fee
    have hmax := hwiden.maxFee
    rw [BoundedInt.le_iff] at *
    exact hfee.trans hmax
  nonempty := h.nonempty
  count := h.count.trans (BoundedInt.le_iff.mp hwiden.maxOperations)
  operations := by
    intro operation hmem
    obtain ⟨hsource, htype⟩ := h.operations operation hmem
    exact ⟨hsource.trans hwiden.key.symm, hwiden.operations _ htype⟩

/-! ### Authorization -/

/-- Dropping repetitions drops no value. -/
theorem mem_destutter_ne {α : Type} [DecidableEq α] {x : α} {xs : List α} :
    x ∈ xs.destutter (· ≠ ·) ↔ x ∈ xs := by
  refine ⟨fun h => (List.destutter_sublist (· ≠ ·) xs).mem h, fun h => ?_⟩
  cases xs with
  | nil => exact h
  | cons a xs =>
    rw [List.destutter_cons']
    induction xs generalizing a with
    | nil => exact h
    | cons b xs ih =>
      by_cases hab : a = b
      · -- a repetition is skipped, and is the value before it
        rw [List.destutter'_cons_neg xs (not_not.mpr hab)]
        apply ih
        rw [hab] at h ⊢
        exact (List.mem_cons.mp h).elim (fun hx => hx ▸ List.mem_cons_self) id
      · rw [List.destutter'_cons_pos xs hab]
        rcases List.mem_cons.mp h with rfl | h
        · exact List.mem_cons_self
        · exact List.mem_cons_of_mem _ (ih b h)

section Authorization

variable {Bytes Digest : Type} {p : Primitives Bytes Digest} {publicKey : String}
variable {networkPassphrase passphrase : String} {allowed : List OperationType}
variable {maxOperations : U64} {maxFee : U32} {expiresAtUnix : Option U64}
variable {capability : AgentCapability} {envelope envelope' : TransactionEnvelope} {nowUnix : U64}
variable {authorization : AgentAuthorization} {signer : ClassicSigner Bytes Digest}

/-- The terms of a capability, and how it writes them down. -/
structure AgentCapability.Of (p : Primitives Bytes Digest) (capability : AgentCapability)
    (terms : AgentTerms) : Prop where
  publicKey : capability.publicKey = p.strKey.publicKey terms.key
  network : capability.networkPassphrase = terms.networkPassphrase
  operations : ∀ operation, operation ∈ capability.allowedOperations ↔
    operation ∈ terms.allowedOperations
  maxOperations : capability.maxOperations = terms.maxOperations
  maxFee : capability.maxFee = terms.maxFee
  expires : capability.expiresAtUnix = terms.expiresAtUnix

theorem AgentCapability.new_ok
    (h : AgentCapability.new p publicKey networkPassphrase allowed maxOperations maxFee
      expiresAtUnix = .ok capability) :
    ∃ key, p.strKey.publicKeyOf? (Text.trim publicKey) = some key ∧
      capability.Of p ⟨key, networkPassphrase, allowed, maxOperations, maxFee, expiresAtUnix⟩ := by
  simp only [AgentCapability.new, bind_eq_ok, okOr_eq_ok, pure_eq_ok, Except.ok.injEq] at h
  obtain ⟨key, hkey, _, -, _, -, _, -, rfl⟩ := h
  refine ⟨key, hkey, rfl, rfl, ?_, rfl, rfl, rfl⟩
  intro operation
  exact mem_destutter_ne.trans List.mem_mergeSort

theorem authorizeAgentOperation_eq_ok {source : MuxedAccount} {indexed : Operation × ℕ}
    {operationType : OperationType} :
    authorizeAgentOperation p capability source indexed = .ok operationType ↔
      muxedAccountPublicKey p (indexed.1.sourceAccount.getD source) = capability.publicKey ∧
        indexed.1.body.discriminant ∈ capability.allowedOperations ∧
        operationType = indexed.1.body.discriminant := by
  obtain ⟨operation, index⟩ := indexed
  simp only [authorizeAgentOperation, ensure_bind_eq_ok, pure_eq_ok, Except.ok.injEq,
    eq_comm (a := operationType)]

theorem unsignedV1_eq_ok {tx : Transaction} :
    unsignedV1 envelope = .ok tx ↔ envelope = .tx tx [] := by
  cases envelope with
  | tx tx' signatures =>
    simp only [unsignedV1, ensure_bind_eq_ok, pure_eq_ok, Except.ok.injEq,
      TransactionEnvelope.tx.injEq]
    exact and_comm
  | txV0 tx' signatures | txFeeBump tx' signatures => simp [unsignedV1]

/-- A sequence of checks is passed when each element is. -/
theorem mapM_isOk_iff {α β ε : Type} {f : α → Except ε β} {xs : List α} :
    (∃ ys, xs.mapM f = .ok ys) ↔ ∀ x ∈ xs, ∃ y, f x = .ok y := by
  induction xs with
  | nil => simp
  | cons x xs ih =>
    rw [List.forall_mem_cons, ← ih, List.mapM_cons]
    simp only [bind_eq_ok, pure_eq_ok]
    constructor
    · rintro ⟨_, y, hy, ys, hys, -⟩
      exact ⟨⟨y, hy⟩, ys, hys⟩
    · rintro ⟨⟨y, hy⟩, ys, hys⟩
      exact ⟨_, y, hy, ys, hys, rfl⟩

theorem authorizeOperations_isOk_iff {source : MuxedAccount} {operations : List Operation} :
    (∃ types, operations.zipIdx.mapM (authorizeAgentOperation p capability source) = .ok types) ↔
      ∀ operation ∈ operations,
        muxedAccountPublicKey p (operation.sourceAccount.getD source) = capability.publicKey ∧
          operation.body.discriminant ∈ capability.allowedOperations := by
  simp only [mapM_isOk_iff, authorizeAgentOperation_eq_ok, exists_and_left, exists_eq, and_true]
  constructor
  · intro h operation hmem
    obtain ⟨index, hindex⟩ := List.mem_iff_getElem?.mp hmem
    exact h (operation, index) (List.mem_zipIdx_iff_getElem?.mpr hindex)
  · intro h indexed hmem
    have hindex := List.mem_zipIdx_iff_getElem?.mp hmem
    exact h indexed.1 (List.mem_of_getElem? hindex)

/-- What the terms permit is authorized, and nothing else. -/
theorem authorizeAgentTransaction_iff {terms : AgentTerms} (hterms : capability.Of p terms) :
    (∃ authorization, authorizeAgentTransaction p capability envelope networkPassphrase nowUnix =
      .ok authorization) ↔ ∃ tx, Permitted terms envelope networkPassphrase nowUnix tx := by
  -- the texts of two keys are the same exactly when the keys are
  have hkey : ∀ account, muxedAccountPublicKey p account = capability.publicKey ↔
      account.key = terms.key := by
    intro account
    rw [hterms.publicKey, muxedAccountPublicKey]
    exact p.strKey.publicKey_injective.eq_iff
  simp only [authorizeAgentTransaction, bind_eq_ok, ensure_eq_ok, pure_eq_ok, exists_and_left,
    exists_const, unsignedV1_eq_ok, hkey, hterms.network, hterms.maxFee, hterms.maxOperations,
    hterms.expires]
  constructor
  · rintro ⟨hnetwork, htime, _, tx, hunsigned, hsource, hfee, hnonempty, hcount, types, htypes, -⟩
    refine ⟨tx, hnetwork, ?_, hunsigned, hsource, ?_, Nat.one_le_iff_ne_zero.mpr hnonempty,
      not_lt.mp hcount, ?_⟩
    · intro expiresAt hexpires
      rw [BoundedInt.lt_iff]
      exact not_le.mp fun hle => htime ⟨expiresAt, hexpires, BoundedInt.le_iff.mpr hle⟩
    · rw [BoundedInt.le_iff]
      exact not_lt.mp fun hlt => hfee (BoundedInt.lt_iff.mpr hlt)
    · intro operation hmem
      obtain ⟨hoperation, htype⟩ := authorizeOperations_isOk_iff.mp ⟨types, htypes⟩ operation hmem
      exact ⟨(hkey _).mp hoperation, (hterms.operations _).mp htype⟩
  · rintro ⟨tx, h⟩
    have hoperations : ∀ operation ∈ tx.operations,
        muxedAccountPublicKey p (operation.sourceAccount.getD tx.sourceAccount) =
          capability.publicKey ∧ operation.body.discriminant ∈ capability.allowedOperations := by
      intro operation hmem
      obtain ⟨hsource, htype⟩ := h.operations operation hmem
      exact ⟨(hkey _).mpr hsource, (hterms.operations _).mpr htype⟩
    obtain ⟨types, htypes⟩ := authorizeOperations_isOk_iff.mpr hoperations
    refine ⟨h.network, ?_, _, tx, h.unsigned, h.source, ?_, Nat.one_le_iff_ne_zero.mp h.nonempty,
      not_lt.mpr h.count, types, htypes, rfl⟩
    · rintro ⟨expiresAt, hexpires, hle⟩
      have hlt := BoundedInt.lt_iff.mp (h.inTime expiresAt hexpires)
      exact absurd (BoundedInt.le_iff.mp hle) (not_le.mpr hlt)
    · intro hlt
      exact absurd (BoundedInt.lt_iff.mp hlt) (not_lt.mpr (BoundedInt.le_iff.mp h.fee))

theorem signAgentTransaction_atomic :
    (signAgentTransaction p capability networkPassphrase nowUnix signer).Atomic := by
  unfold signAgentTransaction
  apply Mut.Atomic.bind Mut.ReadOnly.attempt
  intro signerPublic
  apply Mut.Atomic.bind Mut.ReadOnly.attempt
  intro _
  apply Mut.Atomic.bind Mut.ReadOnly.current
  intro envelope
  apply Mut.Atomic.bind Mut.ReadOnly.attempt
  intro authorization
  exact signTransactionEnvelopeInPlace_atomic.mapError.bind_pure

/-- What is signed was authorized, and is signed with the account's own key. -/
theorem signAgentTransaction_eq_ok :
    signAgentTransaction p capability networkPassphrase nowUnix signer envelope =
        (.ok authorization, envelope') ↔
      (∃ key, p.strKey.publicKeyOf? signer.publicKey = some key ∧
        p.strKey.publicKey key = capability.publicKey) ∧
      authorizeAgentTransaction p capability envelope networkPassphrase nowUnix =
        .ok authorization ∧
      signTransactionEnvelope p envelope networkPassphrase signer = .ok envelope' := by
  simp only [signAgentTransaction, Mut.bind_eq_ok, Mut.current_eq_ok, Mut.attempt_eq_ok,
    Mut.pure_eq_ok, Mut.mapError_eq_ok, okOr_eq_ok, ensure_eq_ok]
  constructor
  · rintro ⟨key, _, ⟨hkey, rfl⟩, _, _, ⟨hsame, rfl⟩, _, _, ⟨rfl, rfl⟩, _, _, ⟨hauthorize, rfl⟩, _,
      _, hsign, rfl, rfl⟩
    exact ⟨⟨key, hkey, hsame⟩, hauthorize, signTransactionEnvelopeInPlace_eq_ok.mp hsign⟩
  · rintro ⟨⟨key, hkey, hsame⟩, hauthorize, hsign⟩
    exact ⟨key, _, ⟨hkey, rfl⟩, (), _, ⟨hsame, rfl⟩, _, _, ⟨rfl, rfl⟩, authorization, _,
      ⟨hauthorize, rfl⟩, (), _, signTransactionEnvelopeInPlace_eq_ok.mpr hsign, rfl, rfl⟩

end Authorization

/-- Exactly what the terms of a capability permit is authorized. A signing fails and
changes nothing, or adds one signature of the account's own key to a permitted
transaction. Wider terms authorize no less. -/
theorem agent_confined {Bytes Digest : Type} (p : Primitives Bytes Digest)
    {publicKey networkPassphrase : String} {allowed : List OperationType} {maxOperations : U64}
    {maxFee : U32} {expiresAtUnix : Option U64} {capability : AgentCapability}
    (hnew : AgentCapability.new p publicKey networkPassphrase allowed maxOperations maxFee
      expiresAtUnix = .ok capability) :
    ∃ key terms, p.strKey.publicKeyOf? (Text.trim publicKey) = some key ∧
      terms = ⟨key, networkPassphrase, allowed, maxOperations, maxFee, expiresAtUnix⟩ ∧
      (∀ envelope passphrase nowUnix,
        (∃ authorization, authorizeAgentTransaction p capability envelope passphrase nowUnix =
          .ok authorization) ↔ ∃ tx, Permitted terms envelope passphrase nowUnix tx) ∧
      (∀ envelope envelope' passphrase nowUnix signer result,
        signAgentTransaction p capability passphrase nowUnix signer envelope =
            (result, envelope') →
          ((∃ e, result = .error e) → envelope' = envelope) ∧
          (∀ authorization, result = .ok authorization →
            (∃ tx, Permitted terms envelope passphrase nowUnix tx) ∧
            p.strKey.publicKeyOf? signer.publicKey = some key ∧
            ∃ hash decorated, p.hash passphrase envelope.body = some hash ∧
              decorated.verifies p (signatureHint key.toList) key (p.digestBytes hash) = true ∧
              envelope' = envelope.withSignatures [decorated])) ∧
      ∀ widerKey widerPassphrase widerAllowed widerOperations widerFee laterExpiry wider key',
        AgentCapability.new p widerKey widerPassphrase widerAllowed widerOperations widerFee
          laterExpiry = .ok wider →
        p.strKey.publicKeyOf? (Text.trim widerKey) = some key' →
        terms.Widens
          ⟨key', widerPassphrase, widerAllowed, widerOperations, widerFee, laterExpiry⟩ →
        ∀ envelope passphrase nowUnix,
          (∃ authorization, authorizeAgentTransaction p capability envelope passphrase nowUnix =
            .ok authorization) →
          ∃ authorization, authorizeAgentTransaction p wider envelope passphrase nowUnix =
            .ok authorization := by
  obtain ⟨key, hkey, hterms⟩ := AgentCapability.new_ok hnew
  refine ⟨key, _, hkey, rfl, ?_, ?_, ?_⟩
  · intro envelope passphrase nowUnix
    exact authorizeAgentTransaction_iff hterms
  · intro envelope envelope' passphrase nowUnix signer result h
    refine ⟨?_, ?_⟩
    · rintro ⟨e, rfl⟩
      exact signAgentTransaction_atomic _ _ _ h
    · rintro authorization rfl
      obtain ⟨⟨signerKey, hsigner, hsame⟩, hauthorize, hsign⟩ := signAgentTransaction_eq_ok.mp h
      -- the signer's key prints as the account of the capability
      rw [hterms.publicKey] at hsame
      obtain rfl := p.strKey.publicKey_injective hsame
      have hpermitted := (authorizeAgentTransaction_iff hterms).mp ⟨authorization, hauthorize⟩
      obtain ⟨signedKey, hash, decorated, hsignedKey, -, hhash, hverifies, rfl⟩ :=
        signTransactionEnvelope_ok hsign
      obtain rfl := Option.some.inj (hsigner.symm.trans hsignedKey)
      refine ⟨hpermitted, hsigner, hash, decorated, hhash, hverifies, ?_⟩
      obtain ⟨tx, hpermitted⟩ := hpermitted
      rw [hpermitted.unsigned]
      rfl
  · intro widerKey widerPassphrase widerAllowed widerOperations widerFee laterExpiry wider key'
      hwider hwiderKey hwidens envelope passphrase nowUnix hauthorized
    -- wider terms permit the same transaction, so the wider capability authorizes it
    obtain ⟨key'', hkey'', hwiderTerms⟩ := AgentCapability.new_ok hwider
    obtain rfl := Option.some.inj (hwiderKey.symm.trans hkey'')
    obtain ⟨tx, hpermitted⟩ := (authorizeAgentTransaction_iff hterms).mp hauthorized
    exact (authorizeAgentTransaction_iff hwiderTerms).mpr ⟨tx, hpermitted.widen hwidens⟩

/-- A transaction that bumps the sequence number of its account. -/
def bumpTransaction : Transaction where
  sourceAccount := .ed25519 (Vector.replicate 32 0)
  fee := .lit 100
  seqNum := .lit 1
  cond := .none
  memo := .none
  operations := [⟨none, .bumpSequence (.lit 2)⟩]
  ext := .v0

/-- A capability for it. -/
def bumpCapability : AgentCapability where
  publicKey := Sep23.strKey.publicKey (Vector.replicate 32 0)
  networkPassphrase := "Test SDF Network ; September 2015"
  allowedOperations := [⟨.lit 11⟩]
  maxOperations := .lit 1
  maxFee := .lit 100
  expiresAtUnix := some (.lit 2000)

theorem publicKeyOf?_trim_zeroKey :
    Sep23.strKey.publicKeyOf? (Text.trim (Sep23.strKey.publicKey (Vector.replicate 32 0))) =
      some (Vector.replicate 32 0) := by
  rw [← Sep23.strKey.signerKey_ed25519, Sep23.strKey.trim_signerKey,
    Sep23.strKey.signerKey_ed25519]
  exact Sep23.strKey.publicKeyOf?_eq_some_iff.mpr rfl

theorem new_bumpCapability :
    AgentCapability.new Primitives.ideal (Sep23.strKey.publicKey (Vector.replicate 32 0))
      "Test SDF Network ; September 2015" [⟨.lit 11⟩] (.lit 1) (.lit 100) (some (.lit 2000)) =
        .ok bumpCapability := by
  simp [AgentCapability.new, Primitives.ideal, publicKeyOf?_trim_zeroKey, okOr, ensure,
    bumpCapability]

theorem agent_confined_bump :
    ∃ authorization, authorizeAgentTransaction Primitives.ideal bumpCapability
      (.tx bumpTransaction []) "Test SDF Network ; September 2015" (.lit 1999) =
        .ok authorization := by
  obtain ⟨key, terms, hkey, rfl, hauthorized, -, -⟩ :=
    agent_confined Primitives.ideal new_bumpCapability
  obtain rfl := Option.some.inj (publicKeyOf?_trim_zeroKey.symm.trans hkey)
  refine (hauthorized _ _ _).mpr ⟨bumpTransaction, rfl, ?_, rfl, rfl, by decide, by decide,
    by decide, by decide⟩
  intro expiresAt h
  obtain rfl := Option.some.inj h
  decide

end Fresnica
