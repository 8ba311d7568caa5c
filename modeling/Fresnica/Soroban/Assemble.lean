import Fresnica.Core.Agent
import Fresnica.Core.Authorization
import Fresnica.Foundation.Base64
import Fresnica.Soroban.Authorization

/-!
# Assembling a simulated contract call

A candidate calls one contract function, unsigned and without authorization. The RPC
server simulates it and answers with the entries that have to be authorized, the
Soroban data and a resource fee. These are put into the candidate, and the review is
what is shown of the result.

The fee of the transaction is raised by the resource fee the server asks for, and the
resource fee inside the data is only required not to exceed it. The ledger takes what is
left above the fee inside the data as the inclusion fee, so the review shows the bid the
ledger sees exactly when the server gives the same resource fee twice.

## Main definitions

* `SimulateTransactionResponse`, `SimulationCrates` — the answer, and how it is decoded
* `assembleReviewedTransaction`
* `Assembly` — the parts a candidate and the transaction made of it have in common
* `ReportsTruthfully` — the intent is kept and the review is true

## Main results

* `assembleReviewedTransaction_parts` — what an assembled transaction is made of
* `assembleReviewedTransaction_reportsTruthfully_iff` — when the fee lines add up too
-/

namespace Fresnica

open Foundation

structure SimulateHostFunctionResultRaw where
  auth : List String
  deriving DecidableEq, Repr

/-- What the server answers to a simulation. -/
structure SimulateTransactionResponse where
  error : Option String
  restorePreamble : Option String
  results : List SimulateHostFunctionResultRaw
  minResourceFee : U64
  latestLedger : U32
  transactionData : String
  deriving DecidableEq, Repr

/-- The entries to authorize, encoded; a validated answer has exactly one result. -/
def SimulateTransactionResponse.authorization (simulation : SimulateTransactionResponse) :
    List String :=
  (simulation.results.headD ⟨[]⟩).auth

/-- The text of a contract id, and the decoder of the Soroban data of an answer. -/
structure SimulationCrates where
  contract : Uint256 → String
  transactionData : String → Except String SorobanTransactionData

def validateSorobanSimulation (simulation : SimulateTransactionResponse) :
    Except String Unit := do
  match simulation.error with
  | some error => .error s!"Soroban transaction simulation failed: {error}"
  | none =>
    ensure (simulation.restorePreamble.isNone = true)
      "Soroban transaction requires an explicit footprint restore before review"
    ensure (simulation.results.length = 1)
      (s!"Soroban simulation returned {simulation.results.length} host-function results; " ++
        "expected one")

/-! ### Entries -/

def SorobanCredentials.withExpiration (ledger : U32) : SorobanCredentials → SorobanCredentials
  | .sourceAccount => .sourceAccount
  | .address credentials => .address { credentials with signatureExpirationLedger := ledger }
  | .addressV2 credentials => .addressV2 { credentials with signatureExpirationLedger := ledger }
  | .addressWithDelegates credentials => .addressWithDelegates
      { credentials with addressCredentials :=
          { credentials.addressCredentials with signatureExpirationLedger := ledger } }

/-- The entry with the expiration of its credentials set; a source account has none. -/
def SorobanAuthorizationEntry.withExpiration (ledger : U32) (entry : SorobanAuthorizationEntry) :
    SorobanAuthorizationEntry :=
  { entry with credentials := entry.credentials.withExpiration ledger }

def SorobanAuthorizationEntry.detached (entry : SorobanAuthorizationEntry) : Bool :=
  entry.credentials.addressCredentials?.isSome

def setAuthorizationExpiration (ledger : U32) (entry : SorobanAuthorizationEntry) :
    Except String SorobanAuthorizationEntry :=
  match entry.credentials.addressCredentials? with
  | none => .ok entry
  | some credentials => do
    ensure (credentials.signature = .void) "Soroban simulation produced pre-signed authorization"
    return entry.withExpiration ledger

/-- The name of the variant in a review. -/
def SorobanCredentials.typeName : SorobanCredentials → String
  | .sourceAccount => "source-account"
  | .address _ => "address"
  | .addressV2 _ => "address-v2"
  | .addressWithDelegates _ => "address-with-delegates"

/-! ### The candidate -/

/-- The transaction of a candidate, with its one call. -/
def candidateCall (candidate : TransactionEnvelope) :
    Except String (Transaction × Option MuxedAccount × InvokeHostFunctionOp) :=
  match candidate with
  | .txV0 .. | .txFeeBump .. => .error "Soroban v1 requires a TransactionEnvelope v1"
  | .tx tx signatures => do
    ensure (signatures = []) "Soroban candidate must be unsigned before simulation"
    match tx.operations with
    | [⟨source, body⟩] =>
      ensure (tx.ext = .v0) "Soroban candidate must not contain preassembled transaction data"
      match body with
      | .invokeHostFunction invoke =>
        ensure (invoke.auth = [])
          "Soroban candidate must not contain preexisting authorization entries"
        match invoke.hostFunction with
        | .invokeContract _ => return (tx, source, invoke)
        | .other _ => .error "Soroban v1 supports only invoke-contract host functions"
      | _ => .error "Soroban v1 supports only InvokeHostFunction"
    | _ => .error "Soroban v1 requires exactly one InvokeHostFunction operation"

/-- The fee of the assembled transaction. -/
def assembledFee (inclusionFee : U32) (minResourceFee : U64) (data : SorobanTransactionData) :
    Except String U32 := do
  ensure (0 ≤ data.resourceFee.val) "Soroban simulation produced a negative resource fee"
  let totalFee : U64 ← okOr (BoundedInt.ofInt? (inclusionFee.val + minResourceFee.val))
    "Soroban total fee overflow"
  ensure (data.resourceFee.val ≤ totalFee.val)
    "Soroban simulation resource fee exceeds the total transaction fee"
  okOr totalFee.tryFrom
    "Soroban total fee exceeds a v1 transaction fee; fee-bump support is not implemented"

section Definitions

variable {Bytes Digest : Type} (p : Primitives Bytes Digest) (crates : SimulationCrates)
variable (codec : AuthorizationCodec (List UInt8))

def muxedAccountString (account : MuxedAccount) : String := p.strKey.publicKey account.key

def transactionSourceString (envelope : TransactionEnvelope) : Except String String :=
  match envelope with
  | .txV0 .. | .txFeeBump .. => .error "Soroban v1 requires a TransactionEnvelope v1"
  | .tx tx _ => .ok (muxedAccountString p tx.sourceAccount)

/-- The source of the first operation, which is the source of the transaction if it names
none. -/
def operationSourceString (tx : Transaction) : Except String String := do
  let operation ← okOr tx.operations.head? "Soroban transaction is missing its operation"
  return muxedAccountString p (operation.sourceAccount.getD tx.sourceAccount)

def scAddressString (address : ScAddress) : Except String String :=
  match address with
  | .account id => .ok (p.strKey.publicKey id)
  | .contract id => .ok (crates.contract id)
  | .other _ => .error "Unsupported Soroban authorization address type"

/-- Who authorizes an entry. -/
def entryAuthorizer (operationSource : String) (entry : SorobanAuthorizationEntry) :
    Except String String :=
  match entry.credentials.addressCredentials? with
  | none => .ok operationSource
  | some credentials => scAddressString p crates credentials.address

def authorizationSummary (envelope : TransactionEnvelope) (operationSource : String) :
    Except String (List String × List String) := do
  let entries ← invokeAuthEntries envelope
  let authorizers ← entries.mapM (entryAuthorizer p crates operationSource)
  return (authorizers, entries.map (·.credentials.typeName))

def decodeAuthorization (encoded : String) : Except String SorobanAuthorizationEntry := do
  let bytes ← okOr (Base64.decode encoded) "Stellar RPC returned invalid authorization base64"
  mapErr (fun _ => "Stellar RPC returned invalid authorization XDR") (codec.decode bytes)

def assembleReviewedTransaction (walletName network : String) (request : SorobanInvokeRequest)
    (candidate : TransactionEnvelope) (simulation : SimulateTransactionResponse) :
    Except String (PreparedSorobanTransaction Bytes Digest) := do
  validateSorobanSimulation simulation
  let (tx, source, invoke) ← candidateCall candidate
  let operationSource ← operationSourceString p tx
  let auth ← simulation.authorization.mapM (decodeAuthorization codec)
  let authorizationExpirationLedger ← okOr
    (simulation.latestLedger.checkedAdd request.authorizationLifetimeLedgers)
    "Soroban authorization expiration exceeds ledger sequence range"
  let auth ← auth.mapM (setAuthorizationExpiration authorizationExpirationLedger)
  let detachedAuthCount := auth.countP (·.detached)
  ensure (auth.length ≤ maxAuthorizationEntries)
    "Stellar RPC returned too many authorization entries"
  let transactionData ← mapErr
    (fun error => s!"Stellar RPC returned invalid transaction data: {error}")
    (crates.transactionData simulation.transactionData)
  -- the fee adds the minimum of the response, and the review shows that of its data
  let totalFee ← assembledFee tx.fee simulation.minResourceFee transactionData
  let envelope : TransactionEnvelope := .tx
    { tx with
      fee := totalFee
      operations := [⟨source, .invokeHostFunction { invoke with auth }⟩]
      ext := .v1 transactionData }
    []
  let (authorizers, credentialTypes) ← authorizationSummary p crates envelope operationSource
  let reviewedEnvelopeXdr ← transactionXdrBytes p envelope
  let reviewedTransactionHash ← transactionHashBytes p envelope network
  let feePayer ← transactionSourceString p envelope
  let entries ← invokeAuthEntries envelope
  return {
    envelope
    review :=
      { walletName
        feePayer
        operationSource
        contractId := request.contractId
        functionName := request.functionName
        argumentCount := request.args.length
        authorizers
        credentialTypes
        authEntryCount := entries.length
        totalFeeStroops := totalFee
        resourceFeeStroops := transactionData.resourceFee
        inclusionFeeStroops := tx.fee
        minResourceFeeStroops := simulation.minResourceFee
        simulationLedger := simulation.latestLedger
        authorizationExpirationLedger :=
          if 0 < detachedAuthCount then some authorizationExpirationLedger else none
        network
        transactionHash := hex (p.digestBytes reviewedTransactionHash) }
    reviewedEnvelopeXdr
    reviewedTransactionHash
    authorizedEnvelopeXdr := none
    authorizedTransactionHash := none
    envelopeSigningComplete := false }

end Definitions

/-! ### What is kept and what is shown -/

/-- The parts of a candidate and of the transaction assembled from it. -/
structure Assembly where
  tx : Transaction
  source : Option MuxedAccount
  call : InvokeContractArgs
  auth : List SorobanAuthorizationEntry
  data : SorobanTransactionData
  fee : U32

namespace Assembly

variable (a : Assembly)

/-- The call without authorization and Soroban data. -/
def candidate : TransactionEnvelope := .tx
  { a.tx with
    operations := [⟨a.source, .invokeHostFunction ⟨.invokeContract a.call, []⟩⟩]
    ext := .v0 }
  []

/-- The call with them, at its own fee. -/
def envelope : TransactionEnvelope := .tx
  { a.tx with
    fee := a.fee
    operations := [⟨a.source, .invokeHostFunction ⟨.invokeContract a.call, a.auth⟩⟩]
    ext := .v1 a.data }
  []

end Assembly

section Specification

variable {Bytes Digest : Type} (p : Primitives Bytes Digest) (crates : SimulationCrates)
variable (codec : AuthorizationCodec (List UInt8))

/-- An entry of the answer, unsigned, with nothing but its expiration changed. -/
def EntryOf (ledger : U32) (encoded : String) (entry : SorobanAuthorizationEntry) : Prop :=
  ∃ decoded, decodeAuthorization codec encoded = .ok decoded ∧
    entry = decoded.withExpiration ledger ∧
    ∀ credentials, entry.credentials.addressCredentials? = some credentials →
      credentials.signature = .void ∧ credentials.signatureExpirationLedger = ledger

/-- The review states what the envelope holds. -/
structure ReviewReads (a : Assembly) (ledger : U32) (review : SorobanReview) (hash : Digest) :
    Prop where
  feePayer : review.feePayer = p.strKey.publicKey a.tx.sourceAccount.key
  operationSource :
    review.operationSource = p.strKey.publicKey (a.source.getD a.tx.sourceAccount).key
  authorizers : List.Forall₂
    (fun entry name => entryAuthorizer p crates review.operationSource entry = .ok name)
    a.auth review.authorizers
  credentialTypes : review.credentialTypes = a.auth.map (·.credentials.typeName)
  authEntryCount : review.authEntryCount = a.auth.length
  totalFee : review.totalFeeStroops = a.fee
  resourceFee : review.resourceFeeStroops = a.data.resourceFee
  expiration : ∀ shown, review.authorizationExpirationLedger = some shown ↔
    shown = ledger ∧ ∃ entry ∈ a.auth, entry.detached = true
  transactionHash : transactionHashBytes p a.envelope review.network = .ok hash ∧
    review.transactionHash = hex (p.digestBytes hash)

/-- The parts are those of the candidate and of the answer, and the prepared transaction
is made of them. The sums are those of the integers. -/
structure AssembledFrom (network : String) (request : SorobanInvokeRequest)
    (candidate : TransactionEnvelope) (simulation : SimulateTransactionResponse) (a : Assembly)
    (ledger : U32) (prepared : PreparedSorobanTransaction Bytes Digest) : Prop where
  candidate_eq : candidate = a.candidate
  envelope_eq : prepared.envelope = a.envelope
  ledger_eq :
    ledger.val = simulation.latestLedger.val + request.authorizationLifetimeLedgers.val
  entries : List.Forall₂ (EntryOf codec ledger) simulation.authorization a.auth
  data : crates.transactionData simulation.transactionData = .ok a.data
  fee_eq : a.fee.val = a.tx.fee.val + simulation.minResourceFee.val
  network_eq : prepared.review.network = network
  review : ReviewReads p crates a ledger prepared.review prepared.reviewedTransactionHash
  reviewedXdr : p.encode prepared.envelope = some prepared.reviewedEnvelopeXdr

/-- The bid shown is the requested one, and makes up the total with the resource fee. -/
def FeeLinesAddUp (a : Assembly) (review : SorobanReview) : Prop :=
  review.inclusionFeeStroops = a.tx.fee ∧
    review.totalFeeStroops.val = review.resourceFeeStroops.val + review.inclusionFeeStroops.val

/-- The prepared transaction keeps the intent of the candidate, and its review is true. -/
def ReportsTruthfully (network : String) (request : SorobanInvokeRequest)
    (candidate : TransactionEnvelope) (simulation : SimulateTransactionResponse)
    (prepared : PreparedSorobanTransaction Bytes Digest) : Prop :=
  ∃ a ledger,
    AssembledFrom p crates codec network request candidate simulation a ledger prepared ∧
      FeeLinesAddUp a prepared.review

/-- The resource fee inside the Soroban data is the one the server asks for. -/
def ResourceFeesAgree (simulation : SimulateTransactionResponse) : Prop :=
  ∃ data, crates.transactionData simulation.transactionData = .ok data ∧
    data.resourceFee.val = simulation.minResourceFee.val

end Specification

/-! ### What an assembled transaction is made of -/

variable {candidate : TransactionEnvelope} {tx : Transaction} {source : Option MuxedAccount}
variable {invoke : InvokeHostFunctionOp} {ledger : U32} {entry entry' : SorobanAuthorizationEntry}
variable {credentials : SorobanAddressCredentials}

theorem candidateCall_ok (h : candidateCall candidate = .ok (tx, source, invoke)) :
    ∃ call, invoke = ⟨.invokeContract call, []⟩ ∧ candidate = .tx tx [] ∧ tx.ext = .v0 ∧
      tx.operations = [⟨source, .invokeHostFunction ⟨.invokeContract call, []⟩⟩] := by
  -- one split for each form that the candidate must have
  unfold candidateCall at h
  split at h
  · exact absurd h (by simp)
  · exact absurd h (by simp)
  · have hsignatures := (ensure_bind_eq_ok.mp h).1
    replace h := (ensure_bind_eq_ok.mp h).2
    split at h
    · rename_i hoperations
      have hext := (ensure_bind_eq_ok.mp h).1
      replace h := (ensure_bind_eq_ok.mp h).2
      split at h
      · rename_i invoke'
        have hauth := (ensure_bind_eq_ok.mp h).1
        replace h := (ensure_bind_eq_ok.mp h).2
        split at h
        · rename_i call hfunction
          simp only [pure_eq_ok, Except.ok.injEq, Prod.mk.injEq] at h
          obtain ⟨rfl, rfl, rfl⟩ := h
          obtain ⟨hostFunction, auth⟩ := invoke'
          subst hsignatures hauth hfunction
          exact ⟨call, rfl, rfl, hext, hoperations⟩
        · exact absurd h (by simp)
      · exact absurd h (by simp)
    · exact absurd h (by simp)

theorem addressCredentials?_withExpiration (credentials : SorobanCredentials) :
    (credentials.withExpiration ledger).addressCredentials? =
      credentials.addressCredentials?.map
        fun address => { address with signatureExpirationLedger := ledger } := by
  cases credentials <;> rfl

/-- What is set is the expiration, and an entry that is signed is refused. -/
theorem setAuthorizationExpiration_eq_ok :
    setAuthorizationExpiration ledger entry = .ok entry' ↔
      entry' = entry.withExpiration ledger ∧
        ∀ credentials, entry.credentials.addressCredentials? = some credentials →
          credentials.signature = .void := by
  unfold setAuthorizationExpiration
  cases hcredentials : entry.credentials.addressCredentials? with
  | none =>
    obtain ⟨entryCredentials, invocation⟩ := entry
    cases entryCredentials with
    | sourceAccount =>
      simp [SorobanAuthorizationEntry.withExpiration, SorobanCredentials.withExpiration, eq_comm]
    | address _ | addressV2 _ | addressWithDelegates _ => cases hcredentials
  | some credentials =>
    simp only [ensure_bind_eq_ok, pure_eq_ok, Except.ok.injEq, Option.some.injEq, forall_eq']
    rw [and_comm, eq_comm]

theorem assembledFee_ok {inclusionFee fee : U32} {minResourceFee : U64}
    {data : SorobanTransactionData} (h : assembledFee inclusionFee minResourceFee data = .ok fee) :
    fee.val = inclusionFee.val + minResourceFee.val := by
  simp only [assembledFee, bind_eq_ok, ensure_eq_ok, okOr_eq_ok, BoundedInt.tryFrom,
    BoundedInt.ofInt?_eq_some_iff] at h
  obtain ⟨_, -, totalFee, htotal, _, -, hfee⟩ := h
  rw [hfee, htotal]

variable {Bytes Digest : Type} {p : Primitives Bytes Digest} {crates : SimulationCrates}
variable {codec : AuthorizationCodec (List UInt8)} {encoded : List String}
variable {decoded auth : List SorobanAuthorizationEntry} {walletName network : String}
variable {request : SorobanInvokeRequest} {simulation : SimulateTransactionResponse}
variable {prepared : PreparedSorobanTransaction Bytes Digest}

theorem entryOf_of_mapM (hdecoded : encoded.mapM (decodeAuthorization codec) = .ok decoded)
    (hauth : decoded.mapM (setAuthorizationExpiration ledger) = .ok auth) :
    List.Forall₂ (EntryOf codec ledger) encoded auth := by
  refine (forall₂_comp (mapM_eq_ok.mp hdecoded) (mapM_eq_ok.mp hauth)).imp ?_
  intro text entry h
  obtain ⟨read, hread, hset⟩ := h
  obtain ⟨rfl, hvoid⟩ := setAuthorizationExpiration_eq_ok.mp hset
  refine ⟨read, hread, rfl, ?_⟩
  intro credentials hcredentials
  rw [SorobanAuthorizationEntry.withExpiration, addressCredentials?_withExpiration,
    Option.map_eq_some_iff] at hcredentials
  obtain ⟨before, hbefore, rfl⟩ := hcredentials
  exact ⟨hvoid before hbefore, rfl⟩

theorem invokeAuthEntries_envelope (a : Assembly) : invokeAuthEntries a.envelope = .ok a.auth :=
  rfl

theorem authorizationSummary_envelope {a : Assembly} {operationSource : String}
    {authorizers credentialTypes : List String} :
    authorizationSummary p crates a.envelope operationSource =
        .ok (authorizers, credentialTypes) ↔
      List.Forall₂ (fun entry name => entryAuthorizer p crates operationSource entry = .ok name)
        a.auth authorizers ∧ credentialTypes = a.auth.map (·.credentials.typeName) := by
  simp only [authorizationSummary, invokeAuthEntries_envelope, ok_bind, bind_eq_ok, mapM_eq_ok,
    pure_eq_ok, Except.ok.injEq, Prod.mk.injEq]
  constructor
  · intro h
    obtain ⟨_, hauthorizers, rfl, htypes⟩ := h
    exact ⟨hauthorizers, htypes.symm⟩
  · intro h
    exact ⟨authorizers, h.1, rfl, h.2.symm⟩

/-- The expiration is shown when some entry has one. -/
theorem shownExpiration_eq_some {shown : U32} :
    (if 0 < auth.countP (·.detached) then some ledger else none) = some shown ↔
      shown = ledger ∧ ∃ entry ∈ auth, entry.detached = true := by
  rw [← List.countP_pos_iff]
  split
  · rename_i hdetached
    simp [hdetached, eq_comm]
  · rename_i hdetached
    simp [hdetached]

/-- What an assembled transaction is made of: the intent of the candidate, the answer of
the server, and a review of both that is true but for the bid. -/
theorem assembleReviewedTransaction_parts
    (h : assembleReviewedTransaction p crates codec walletName network request candidate
      simulation = .ok prepared) :
    ∃ a ledger,
      AssembledFrom p crates codec network request candidate simulation a ledger prepared ∧
        prepared.review.inclusionFeeStroops = a.tx.fee := by
  unfold assembleReviewedTransaction at h
  obtain ⟨_, -, h⟩ := bind_eq_ok.mp h
  obtain ⟨⟨tx, source, invoke⟩, hcandidate, h⟩ := bind_eq_ok.mp h
  obtain ⟨call, hinvoke, henvelope, hext, hoperations⟩ := candidateCall_ok hcandidate
  obtain ⟨operationSource, hsource, h⟩ := bind_eq_ok.mp h
  obtain ⟨decoded, hdecoded, h⟩ := bind_eq_ok.mp h
  obtain ⟨ledger, hledger, h⟩ := bind_eq_ok.mp h
  obtain ⟨auth, hauth, h⟩ := bind_eq_ok.mp h
  obtain ⟨_, -, h⟩ := bind_eq_ok.mp h
  obtain ⟨data, hdata, h⟩ := bind_eq_ok.mp h
  obtain ⟨fee, hfee, h⟩ := bind_eq_ok.mp h
  obtain ⟨⟨authorizers, credentialTypes⟩, hsummary, h⟩ := bind_eq_ok.mp h
  obtain ⟨xdr, hxdr, h⟩ := bind_eq_ok.mp h
  obtain ⟨hash, hhash, h⟩ := bind_eq_ok.mp h
  obtain ⟨feePayer, hpayer, h⟩ := bind_eq_ok.mp h
  obtain ⟨entries, hentries, h⟩ := bind_eq_ok.mp h
  obtain rfl := Except.ok.inj h
  subst hinvoke henvelope
  -- each part of the assembly is one of the values that were read on the way
  let a : Assembly := ⟨tx, source, call, auth, data, fee⟩
  refine ⟨a, ledger, ⟨?_, rfl, ?_, entryOf_of_mapM hdecoded hauth, mapErr_eq_ok.mp hdata,
    assembledFee_ok hfee, rfl, ?_, transactionXdrBytes_eq_ok.mp hxdr⟩, rfl⟩
  · obtain ⟨txSource, txFee, seqNum, cond, memo, operations, ext⟩ := tx
    subst hext hoperations
    rfl
  · exact BoundedInt.checkedAdd_eq_some_iff.mp (okOr_eq_ok.mp hledger)
  · have hsource : p.strKey.publicKey (source.getD tx.sourceAccount).key = operationSource := by
      rw [operationSourceString, hoperations] at hsource
      exact Except.ok.inj hsource
    have hpayer : p.strKey.publicKey tx.sourceAccount.key = feePayer := Except.ok.inj hpayer
    have hentries : auth = entries := Except.ok.inj hentries
    have hsummary := (authorizationSummary_envelope (a := a)).mp hsummary
    exact
      { feePayer := hpayer.symm
        operationSource := hsource.symm
        authorizers := hsummary.1
        credentialTypes := hsummary.2
        authEntryCount := congrArg List.length hentries.symm
        totalFee := rfl
        resourceFee := rfl
        expiration := fun _ => shownExpiration_eq_some
        transactionHash := ⟨hhash, rfl⟩ }

/-- The assembled transaction keeps the intent in any case; its review is true, down to
the bid, exactly when the server gives one resource fee. -/
theorem assembleReviewedTransaction_reportsTruthfully_iff
    (h : assembleReviewedTransaction p crates codec walletName network request candidate
      simulation = .ok prepared) :
    ReportsTruthfully p crates codec network request candidate simulation prepared ↔
      ResourceFeesAgree crates simulation := by
  constructor
  · intro htruthful
    obtain ⟨a, ledger, hassembled, hinclusion, hlines⟩ := htruthful
    refine ⟨a.data, hassembled.data, ?_⟩
    rw [hassembled.review.totalFee, hassembled.review.resourceFee, hinclusion,
      hassembled.fee_eq] at hlines
    omega
  · intro hagree
    obtain ⟨data, hdata, hfees⟩ := hagree
    obtain ⟨a, ledger, hassembled, hinclusion⟩ := assembleReviewedTransaction_parts h
    obtain rfl : a.data = data := Except.ok.inj (hassembled.data.symm.trans hdata)
    refine ⟨a, ledger, hassembled, hinclusion, ?_⟩
    rw [hassembled.review.totalFee, hassembled.review.resourceFee, hinclusion,
      hassembled.fee_eq]
    omega

/-! ### A server that gives two resource fees -/

/-- The source account of the call, all of whose key bytes are zero. -/
def simulatedCall : InvokeContractArgs :=
  ⟨.contract (Vector.replicate 32 0), Utf8.bytes "transfer", []⟩

def simulatedCandidate : TransactionEnvelope := .tx
  { sourceAccount := .ed25519 (Vector.replicate 32 0)
    fee := .lit 100
    seqNum := .lit 8
    cond := .none
    memo := .none
    operations := [⟨none, .invokeHostFunction ⟨.invokeContract simulatedCall, []⟩⟩]
    ext := .v0 }
  []

/-- The bytes of an entry that the source account authorizes. -/
def sourceEntryXdr : List UInt8 :=
  List.replicate 11 0 ++ [1] ++ List.replicate 32 0 ++ [0, 0, 0, 8] ++ Utf8.bytes "transfer" ++
    List.replicate 8 0

/-- The resources, with the footprint empty. -/
def simulatedResources : List UInt8 :=
  List.replicate 11 0 ++ [100, 0, 0, 0, 5, 0, 0, 0, 6]

/-- The text of Soroban data with a resource fee of so many stroops. -/
def transactionDataText (resourceFee : ℕ) : String :=
  Base64.encode (List.replicate 4 0 ++ simulatedResources ++
    (Positional.digits 256 8 resourceFee).map UInt8.ofNat)

/-- What the crates answer for the texts of the example. -/
def simulatedCrates : SimulationCrates where
  contract id := Sep23.encode (16, id.toList)
  transactionData text :=
    if text = transactionDataText 4900 then .ok ⟨simulatedResources, .lit 4900⟩
    else if text = transactionDataText 5000 then .ok ⟨simulatedResources, .lit 5000⟩
    else .error "xdr value invalid"

def simulatedCodec : AuthorizationCodec (List UInt8) where
  encode entry :=
    if entry = ⟨.sourceAccount, .mk (.contractFn simulatedCall) []⟩ then .ok sourceEntryXdr
    else .error "xdr value invalid"
  decode bytes :=
    if bytes = sourceEntryXdr then .ok ⟨.sourceAccount, .mk (.contractFn simulatedCall) []⟩
    else .error "xdr value invalid"

/-- An answer that asks for 4900 stroops, and has another fee inside its data. -/
def simulatedAnswer (resourceFee : ℕ) : SimulateTransactionResponse where
  error := none
  restorePreamble := none
  results := [⟨[Base64.encode sourceEntryXdr]⟩]
  minResourceFee := .lit 4900
  latestLedger := .lit 123456
  transactionData := transactionDataText resourceFee

def simulatedRequest : SorobanInvokeRequest :=
  .new (Sep23.encode (16, List.replicate 32 0)) "transfer" []

def assembledCall (resourceFee : ℕ) : Except String
    (PreparedSorobanTransaction TransactionEnvelope (String × TaggedTransaction)) :=
  assembleReviewedTransaction Primitives.ideal simulatedCrates simulatedCodec "main" "testnet"
    simulatedRequest simulatedCandidate (simulatedAnswer resourceFee)

/-- Where the fees agree, the review is true. -/
theorem assembledCall_reportsTruthfully :
    ∃ prepared, assembledCall 4900 = .ok prepared ∧
      ReportsTruthfully Primitives.ideal simulatedCrates simulatedCodec "testnet"
        simulatedRequest simulatedCandidate (simulatedAnswer 4900) prepared := by
  have hok : (assembledCall 4900).toOption.isSome = true := by decide +kernel
  cases h : assembledCall 4900 with
  | error e =>
    rw [h] at hok
    cases hok
  | ok prepared =>
    refine ⟨prepared, rfl, (assembleReviewedTransaction_reportsTruthfully_iff h).mpr ?_⟩
    exact ⟨⟨simulatedResources, .lit 4900⟩, by decide +kernel, rfl⟩

/-- The total is the resource fee, so the bid that is left is none, and the bid shown is
100 stroops. -/
theorem assembledCall_overstates_bid :
    ∃ prepared, assembledCall 5000 = .ok prepared ∧
      ¬ ReportsTruthfully Primitives.ideal simulatedCrates simulatedCodec "testnet"
        simulatedRequest simulatedCandidate (simulatedAnswer 5000) prepared := by
  have hlines : (assembledCall 5000).map (fun prepared =>
      (prepared.review.totalFeeStroops.val, prepared.review.resourceFeeStroops.val,
        prepared.review.inclusionFeeStroops.val)) = .ok (5000, 5000, 100) := by decide +kernel
  cases h : assembledCall 5000 with
  | error e =>
    rw [h] at hlines
    cases hlines
  | ok prepared =>
    refine ⟨prepared, rfl, ?_⟩
    intro htruthful
    obtain ⟨a, ledger, -, -, hsum⟩ := htruthful
    rw [h] at hlines
    simp only [Except.map, Except.ok.injEq, Prod.mk.injEq] at hlines
    omega

end Fresnica
