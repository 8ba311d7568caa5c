import Fresnica.Contract.Gateway
import Fresnica.Foundation.Decimal
import Fresnica.Soroban.Lifecycle
import Fresnica.Transaction.Protection

/-!
# Contract calls against a changing ledger

A call is prepared from the spec that the contract has at first: the arguments are resolved
against it, the call is simulated, and the executable is read again at the end. Other
transactions change the ledger between any two of these requests.

A transaction is handed out only when the executable is found unchanged, so that its
simulation ran what the review shows. A read that needs no transaction is returned without
that second look.

## Main definitions

* `ContractCapabilities.fromSpec` — what the spec and the metadata of a contract promise
* `prepareSorobanInvoke`, `simulateSorobanInvoke` — the requests of one call
* `prepareContractInvoke`, `simulateContractInvoke`, `prepareContractInvokeOutcome`
* `ShownFrom` — the review is about the executable that the simulation ran

## Main results

* `prepareContractInvoke_shown`, `prepareContractInvokeOutcome_shown` — a prepared transaction
  was simulated with the executable of its review
-/

namespace Fresnica.Contract

open Foundation

/-! ### Capabilities -/

structure ContractSep41Evidence where
  nativeSac : Bool
  sep47Declared : Bool
  currentInterfaceCompatible : Bool
  deriving DecidableEq, Repr

structure ContractCapabilities where
  sep41 : ContractSep41Evidence
  deriving DecidableEq, Repr

def metadataDeclaresSep (metadata : List ContractMetadataEntry) (sep : String) : Bool :=
  ((metadata.filter fun entry => entry.key = "sep").flatMap fun entry =>
    (entry.value.toList.splitOn ',').map fun part => Text.trim (String.ofList part)).any
      fun value => value = sep

def functionSignatureMatches (spec : Spec) (name : String) (inputs outputs : List String) : Bool :=
  let function := spec.entries.findSome? fun entry =>
    match entry with
    | .functionV0 function => if spec.text function.name = name then some function else none
    | _ => none
  function.any fun function =>
    function.inputs.map (fun input => contractTypeName spec input.type) = inputs ∧
      function.outputs.map (contractTypeName spec) = outputs

def sep41InterfaceCompatible (spec : Spec) : Bool :=
  functionSignatureMatches spec "allowance" ["address", "address"] ["i128"] &&
  functionSignatureMatches spec "approve" ["address", "address", "i128", "u32"] [] &&
  functionSignatureMatches spec "balance" ["address"] ["i128"] &&
  functionSignatureMatches spec "transfer" ["address", "muxed_address", "i128"] [] &&
  functionSignatureMatches spec "transfer_from" ["address", "address", "address", "i128"] [] &&
  functionSignatureMatches spec "burn" ["address", "i128"] [] &&
  functionSignatureMatches spec "burn_from" ["address", "address", "i128"] [] &&
  functionSignatureMatches spec "decimals" [] ["u32"] &&
  functionSignatureMatches spec "name" [] ["string"] &&
  functionSignatureMatches spec "symbol" [] ["string"]

def ContractCapabilities.fromSpec (executable : ContractExecutableObservation)
    (metadata : List ContractMetadataEntry) (spec : Spec) : ContractCapabilities where
  sep41 := {
    nativeSac := executable.kind = .stellarAsset
    sep47Declared := metadataDeclaresSep metadata "41"
    currentInterfaceCompatible := sep41InterfaceCompatible spec }

/-! ### Requests and results -/

def ContractInvokeRequest.newPositional (contractId functionName : String)
    (arguments : List String) : ContractInvokeRequest where
  wallet := none
  contractId := contractId
  functionName := functionName
  arguments := []
  positionalArguments := some arguments
  jsonArguments := []
  scvalXdrArguments := []
  inclusionFeeStroops := none
  authorizationLifetimeLedgers := .lit 100
  addressNames := ⟨∅⟩

structure ContractInvokeReview where
  walletName : String
  feePayer : String
  operationSource : String
  contractId : String
  executable : ContractExecutableObservation
  metadata : List ContractMetadataEntry
  capabilities : ContractCapabilities
  functionName : String
  arguments : List ContractArgumentReview
  authorizers : List String
  credentialTypes : List String
  authEntryCount : ℕ
  totalFeeStroops : U32
  resourceFeeStroops : I64
  inclusionFeeStroops : U32
  minResourceFeeStroops : U64
  simulationLedger : U32
  authorizationExpirationLedger : Option U32
  network : String
  transactionHash : String

def ContractInvokeReview.fromSoroban (review : SorobanReview)
    (executable : ContractExecutableObservation) (metadata : List ContractMetadataEntry)
    (capabilities : ContractCapabilities) (arguments : List ContractArgumentReview) :
    ContractInvokeReview where
  walletName := review.walletName
  feePayer := review.feePayer
  operationSource := review.operationSource
  contractId := review.contractId
  executable := executable
  metadata := metadata
  capabilities := capabilities
  functionName := review.functionName
  arguments := arguments
  authorizers := review.authorizers
  credentialTypes := review.credentialTypes
  authEntryCount := review.authEntryCount
  totalFeeStroops := review.totalFeeStroops
  resourceFeeStroops := review.resourceFeeStroops
  inclusionFeeStroops := review.inclusionFeeStroops
  minResourceFeeStroops := review.minResourceFeeStroops
  simulationLedger := review.simulationLedger
  authorizationExpirationLedger := review.authorizationExpirationLedger
  network := review.network
  transactionHash := review.transactionHash

structure ContractSimulationEffects where
  readWriteEntryCount : ℕ
  archivedEntryCount : ℕ
  publishedEventCount : ℕ
  authorizationEntryCount : ℕ
  restoreRequired : Bool
  deriving DecidableEq, Repr

def ContractSimulationEffects.requiresSend (effects : ContractSimulationEffects) : Bool :=
  effects.restoreRequired ∨ 0 < effects.readWriteEntryCount ∨ 0 < effects.archivedEntryCount ∨
    0 < effects.publishedEventCount ∨ 0 < effects.authorizationEntryCount

structure ContractReadResult where
  contractId : String
  executable : ContractExecutableObservation
  metadata : List ContractMetadataEntry
  capabilities : ContractCapabilities
  functionName : String
  arguments : List ContractArgumentReview
  output : Option Json
  outputXdr : Option String
  simulationLedger : U32
  network : String

structure ContractSimulationResult extends ContractReadResult where
  effects : ContractSimulationEffects

structure PreparedContractInvoke (Bytes Digest : Type) where
  review : ContractInvokeReview
  prepared : PreparedSorobanTransaction Bytes Digest

inductive ContractInvokePreparation (Bytes Digest : Type)
  | readOnly (result : ContractReadResult)
  | transaction (prepared : PreparedContractInvoke Bytes Digest)

/-! ### The client -/

/-- The Soroban data of an answer, with the entries that are written and restored. -/
structure SimulatedData where
  data : SorobanTransactionData
  readWrite : List (List UInt8)
  archivedSorobanEntries : Option (List U32)

/-- A client at one moment: its network and wallets, the file of pending transactions, the
clock, and the other crates. -/
structure ContractClient (Bytes Digest : Type) where
  network : String
  networkPassphrase : String
  resolve : WalletResolver
  store : PendingTransactionStore
  file : StoreFile
  save : SaveOutcome
  rfc3339 : Rfc3339
  clock : Instant
  primitives : Primitives Bytes Digest
  codec : AuthorizationCodec (List UInt8)
  gateway : GatewayCrates
  contractText : Uint256 → String
  simulatedData : String → Except String SimulatedData
  spec : List ScSpecEntry → Spec
  arguments : List ScSpecEntry → ArgumentCrates
  isTransactionHash : String → Bool
  jsonText : Json → String

variable {Bytes Digest : Type}

def ContractClient.simulationCrates (client : ContractClient Bytes Digest) : SimulationCrates where
  contract := client.contractText
  transactionData text := do
    let decoded ← client.simulatedData text
    return decoded.data

section Definitions

variable (client : ContractClient Bytes Digest)

/-! ### One call -/

def maxSymbolBytes : ℕ := 32

def maxArguments : ℕ := 4294967295

def readOnlySimulationAccount : String :=
  "GAAAAAAAAAAAAAAAAAAAAAAAAAAAAAAAAAAAAAAAAAAAAAAAAAAAAWHF"

def buildCandidateForSource (sourceAccount : String) (request : SorobanInvokeRequest)
    (currentSequence : I64) (inclusionFeeStroops : U32) : Except String TransactionEnvelope := do
  let contract ← okOr (client.gateway.contractId? request.contractId)
    "Soroban contract_id must be a valid C address"
  let functionName := Utf8.bytes request.functionName
  ensure (functionName.length ≤ maxSymbolBytes) "Soroban function name must fit an ScSymbol"
  ensure (request.args.length ≤ maxArguments) "Too many Soroban invocation arguments"
  buildOperationEnvelopeWithMemoAndTimeout client.primitives.strKey sourceAccount
    [.invokeHostFunction
      { hostFunction := .invokeContract
          { contractAddress := .contract contract, functionName, args := request.args }
        auth := [] }]
    currentSequence inclusionFeeStroops .none defaultClassicTransactionTimeoutSeconds client.clock

def verifyNetwork : Query RpcView String Unit :=
  Query.ask (RpcView.request (fun error => s!"Stellar RPC network verification failed: {error}")
    fun ledger => ledger.verifyNetworkPassphrase client.networkPassphrase)

def transactionStatus (view : RpcView) (txHash : String) : Except String RpcTransactionStatus := do
  ensure (client.isTransactionHash txHash) s!"Invalid Stellar transaction hash: {txHash}"
  view.request (fun error => s!"Unable to reconcile transaction {txHash}: {error}")
    fun ledger => ledger.transactionStatus txHash

/-- The wallet of the call. The status of each of its pending transactions is asked for; that
these requests share a view is no restriction, since they read nothing of a contract. -/
def resolveWallet (name : Option String) : Query RpcView String WalletRecord :=
  Query.ask fun view => (resolveSorobanWallet client.store client.rfc3339 client.resolve
    client.network name (transactionStatus client view) client.clock client.save client.file).1

def accountSequence (address : String) : Query RpcView String I64 :=
  Query.ask (RpcView.request
    (fun error => s!"Unable to load account {address} from Stellar RPC: {error}")
    fun ledger => ledger.sequence address)

def defaultSorobanInclusionFee : Query RpcView String U32 := do
  let mode ← Query.ask (RpcView.request
    (fun error => s!"Unable to load Stellar RPC fee stats: {error}")
    fun ledger => .ok ledger.sorobanInclusionFeeMode)
  let fee : U32 ← Query.attempt (okOr (BoundedInt.parseUnsigned? mode.toList)
    "Stellar RPC returned an invalid Soroban inclusion fee")
  return if fee.val < 100 then .lit 100 else fee

def requestInclusionFee (inclusionFeeStroops : Option U32) : Query RpcView String U32 :=
  match inclusionFeeStroops with
  | some fee => Query.attempt do
    ensure (100 ≤ fee.val) "Soroban inclusion fee must be at least 100 stroops"
    return fee
  | none => defaultSorobanInclusionFee

def simulateTransaction (envelope : TransactionEnvelope) :
    Query RpcView String ContractSimulation :=
  Query.ask (RpcView.request (fun error => s!"Stellar RPC simulation failed: {error}")
    fun ledger => ledger.simulate envelope)

def prepareSorobanInvoke (request : SorobanInvokeRequest) :
    Query RpcView String (PreparedSorobanTransaction Bytes Digest) := do
  Query.attempt (ensure (request.authorizationLifetimeLedgers.val ≠ 0)
    "Soroban authorization lifetime must be at least one ledger")
  verifyNetwork client
  let wallet ← resolveWallet client request.wallet
  let sequence ← accountSequence wallet.address
  let inclusionFee ← requestInclusionFee request.inclusionFeeStroops
  let candidate ← Query.attempt
    (buildCandidateForSource client wallet.address request sequence inclusionFee)
  let simulation ← simulateTransaction candidate
  Query.attempt (assembleReviewedTransaction client.primitives client.simulationCrates client.codec
    wallet.name client.network request candidate simulation.toSimulateTransactionResponse)

def simulateSorobanInvoke (request : SorobanInvokeRequest) :
    Query RpcView String ContractSimulation := do
  verifyNetwork client
  let candidate ← Query.attempt
    (buildCandidateForSource client readOnlySimulationAccount request (.lit 0) (.lit 100))
  simulateTransaction candidate

/-! ### What a simulation returns -/

def validateContractSimulationPreview (simulation : ContractSimulation) : Except String Unit := do
  match simulation.error with
  | some error => .error s!"Soroban transaction simulation failed: {error}"
  | none =>
    let results ← mapErr (fun error => s!"Stellar RPC returned invalid simulation result: {error}")
      simulation.decodedResults
    ensure (results.length = 1)
      s!"Soroban simulation returned {results.length} host-function results; expected one"

def simulationEffects (simulation : ContractSimulation) :
    Except String ContractSimulationEffects := do
  let transactionData ← mapErr
    (fun error => s!"Stellar RPC returned invalid transaction data: {error}")
    (client.simulatedData simulation.transactionData)
  let events ← mapErr (fun error => s!"Stellar RPC returned invalid simulation events: {error}")
    simulation.events
  let results ← mapErr (fun error => s!"Stellar RPC returned invalid simulation result: {error}")
    simulation.decodedResults
  return {
    readWriteEntryCount := transactionData.readWrite.length
    archivedEntryCount := (transactionData.archivedSorobanEntries.getD []).length
    publishedEventCount := events.countP (· = .contract)
    authorizationEntryCount := (results.map (·.auth.length)).sum
    restoreRequired := simulation.restorePreamble.isSome }

def simulationRequiresSend (simulation : ContractSimulation) : Except String Bool := do
  let effects ← simulationEffects client simulation
  return effects.requiresSend

/-! ### The call of a contract -/

def executableIdentity (observation : ContractExecutableObservation) : String :=
  match observation.wasmHash with
  | some hash => s!"{observation.kind.asStr}:{hash}"
  | none => observation.kind.asStr

def ensureContractExecutableUnchanged (before after : ContractExecutableObservation) :
    Except String Unit :=
  ensure (before = after) (s!"contract executable changed while preparing the invocation: " ++
    s!"{executableIdentity before} -> {executableIdentity after}; inspect the deployed contract " ++
    "and prepare the call again")

/-- The capabilities that the first look at a contract shows. -/
def snapshotCapabilities (snapshot : ContractSpecSnapshot) : ContractCapabilities :=
  .fromSpec snapshot.executable snapshot.metadata (client.spec snapshot.entries)

/-- The call with its arguments resolved against the spec of the first look. -/
def resolveSnapshot (request : ContractInvokeRequest) (snapshot : ContractSpecSnapshot) :
    Except String (SorobanInvokeRequest × List ContractArgumentReview) :=
  request.resolve (client.spec snapshot.entries) (client.arguments snapshot.entries)

/-- The transaction of a call, when the executable is found unchanged after the simulation. -/
def prepareUnchanged (request : ContractInvokeRequest) (snapshot : ContractSpecSnapshot)
    (lowLevelRequest : SorobanInvokeRequest) (arguments : List ContractArgumentReview) :
    Query RpcView String (PreparedContractInvoke Bytes Digest) := do
  let prepared ← prepareSorobanInvoke client lowLevelRequest
  let executable ← RpcGateway.contractExecutableObservation client.gateway request.contractId
  Query.attempt (ensureContractExecutableUnchanged snapshot.executable executable)
  return {
    review := .fromSoroban prepared.review executable snapshot.metadata
      (snapshotCapabilities client snapshot) arguments
    prepared }

def prepareContractInvoke (request : ContractInvokeRequest) :
    Query RpcView String (PreparedContractInvoke Bytes Digest) := do
  let snapshot ← RpcGateway.contractSpecSnapshot client.gateway request.contractId
  let (lowLevelRequest, arguments) ← Query.attempt (resolveSnapshot client request snapshot)
  prepareUnchanged client request snapshot lowLevelRequest arguments

/-- What a call returned, decoded along the spec of the first look. -/
def readResult (request : ContractInvokeRequest) (snapshot : ContractSpecSnapshot)
    (arguments : List ContractArgumentReview) (simulation : ContractSimulation) :
    Except String ContractReadResult := do
  let (output, outputXdr) ← decodeSimulationOutput (client.spec snapshot.entries)
    (client.arguments snapshot.entries).codec request.functionName
    (simulation.decodedResults.map fun results => results.map (·.xdr))
  return {
    contractId := request.contractId
    executable := snapshot.executable
    metadata := snapshot.metadata
    capabilities := snapshotCapabilities client snapshot
    functionName := request.functionName
    arguments
    output
    outputXdr
    simulationLedger := simulation.latestLedger
    network := client.network }

def simulateContractInvoke (request : ContractInvokeRequest) :
    Query RpcView String ContractSimulationResult := do
  let snapshot ← RpcGateway.contractSpecSnapshot client.gateway request.contractId
  let (lowLevelRequest, arguments) ← Query.attempt (resolveSnapshot client request snapshot)
  let simulation ← simulateSorobanInvoke client lowLevelRequest
  Query.attempt (validateContractSimulationPreview simulation)
  let result ← Query.attempt (readResult client request snapshot arguments simulation)
  let effects ← Query.attempt (simulationEffects client simulation)
  return { result with effects }

def prepareContractInvokeOutcome (request : ContractInvokeRequest) :
    Query RpcView String (ContractInvokePreparation Bytes Digest) := do
  let snapshot ← RpcGateway.contractSpecSnapshot client.gateway request.contractId
  let (lowLevelRequest, arguments) ← Query.attempt (resolveSnapshot client request snapshot)
  let simulation ← simulateSorobanInvoke client lowLevelRequest
  Query.attempt (validateSorobanSimulation simulation.toSimulateTransactionResponse)
  let requiresSend ← Query.attempt (simulationRequiresSend client simulation)
  if requiresSend then do
    let prepared ← prepareUnchanged client request snapshot lowLevelRequest arguments
    return .transaction prepared
  else do
    let result ← Query.attempt (readResult client request snapshot arguments simulation)
    return .readOnly result

end Definitions

/-! ### What a transaction was simulated with -/

variable {client : ContractClient Bytes Digest} {request : ContractInvokeRequest}
  {lowLevelRequest : SorobanInvokeRequest} {snapshot : ContractSpecSnapshot}
  {arguments : List ContractArgumentReview} {views : ℕ → RpcView} {contract : Uint256}
  {hash? : Option Uint256} {now read later : ℕ}
  {prepared : PreparedSorobanTransaction Bytes Digest}
  {invoke : PreparedContractInvoke Bytes Digest}

/-- The transaction is assembled from the answer that one view gives to the simulation of its
candidate, which makes the call. -/
def SimulatedAt (client : ContractClient Bytes Digest) (request : SorobanInvokeRequest)
    (views : ℕ → RpcView) (simulated : ℕ) (prepared : PreparedSorobanTransaction Bytes Digest) :
    Prop :=
  ∃ wallet : WalletRecord, ∃ sequence inclusionFee candidate simulation,
    buildCandidateForSource client wallet.address request sequence inclusionFee = .ok candidate ∧
    (views simulated).ledger.simulate candidate = .ok simulation ∧
    assembleReviewedTransaction client.primitives client.simulationCrates client.codec wallet.name
      client.network request candidate simulation.toSimulateTransactionResponse = .ok prepared

theorem simulatedAt_of_prepare
    (h : (prepareSorobanInvoke client lowLevelRequest).run views now = .ok (prepared, later)) :
    ∃ simulated, now ≤ simulated ∧ simulated < later ∧
      SimulatedAt client lowLevelRequest views simulated prepared := by
  obtain ⟨_, -, h⟩ := Query.run_attempt_bind_eq_ok.mp h
  obtain ⟨_, start, hverify, h⟩ := Query.run_bind_eq_ok.mp h
  obtain ⟨wallet, afterWallet, hwallet, h⟩ := Query.run_bind_eq_ok.mp h
  obtain ⟨sequence, afterSequence, hsequence, h⟩ := Query.run_bind_eq_ok.mp h
  obtain ⟨inclusionFee, simulated, hfee, h⟩ := Query.run_bind_eq_ok.mp h
  obtain ⟨candidate, hcandidate, h⟩ := Query.run_attempt_bind_eq_ok.mp h
  obtain ⟨simulation, hsimulation, h⟩ := Query.run_ask_bind_eq_ok.mp h
  obtain ⟨hassemble, rfl⟩ := Query.run_attempt_eq_ok.mp h
  have hstart := Query.forward _ hverify
  have hafter := Query.forward _ hwallet
  have hread := Query.forward _ hsequence
  have hlast := Query.forward _ hfee
  exact ⟨simulated, by omega, by omega, wallet, sequence, inclusionFee, candidate, simulation,
    hcandidate, RpcView.request_eq_ok hsimulation, hassemble⟩

/-- A prepared call and its review: the arguments were resolved against the spec of the code
whose hash is shown, the transaction was simulated in one view, and the contract ran the shown
executable there, unless it was given another reference meanwhile. -/
structure ShownFrom (client : ContractClient Bytes Digest) (request : ContractInvokeRequest)
    (views : ℕ → RpcView) (contract : Uint256) (snapshot : ContractSpecSnapshot)
    (lowLevelRequest : SorobanInvokeRequest) (first read simulated last : ℕ)
    (invoke : PreparedContractInvoke Bytes Digest) : Prop where
  ordered : first < read ∧ read ≤ simulated ∧ simulated < last
  resolved : resolveSnapshot client request snapshot =
    .ok (lowLevelRequest, invoke.review.arguments)
  spec : ∃ hash?, invoke.review.executable.wasmHash = hash?.map (fun hash => hex hash.toList) ∧
    InterfaceOf client.gateway views read hash? snapshot.entries snapshot.metadata
  review : invoke.review = .fromSoroban invoke.prepared.review snapshot.executable
    snapshot.metadata (snapshotCapabilities client snapshot) invoke.review.arguments
  assembled : SimulatedAt client lowLevelRequest views simulated invoke.prepared
  running : (views simulated).ledger.running client.gateway contract =
      .ok invoke.review.executable ∨ Redirected views contract first last

/-- The transaction of a call was simulated before the executable was found unchanged. -/
theorem prepareUnchanged_eq_ok
    (h : (prepareUnchanged client request snapshot lowLevelRequest arguments).run views now =
      .ok (invoke, later)) :
    ∃ simulated last contract hash?, now ≤ simulated ∧ simulated < last ∧ last < later ∧
      SimulatedAt client lowLevelRequest views simulated invoke.prepared ∧
      client.gateway.contractId? request.contractId = some contract ∧
      Observed client.gateway views contract last snapshot.executable hash? later ∧
      invoke.review = .fromSoroban invoke.prepared.review snapshot.executable snapshot.metadata
        (snapshotCapabilities client snapshot) arguments := by
  obtain ⟨prepared, last, hprepared, h⟩ := Query.run_bind_eq_ok.mp h
  obtain ⟨executable, mid, hexecutable, h⟩ := Query.run_bind_eq_ok.mp h
  obtain ⟨_, hunchanged, h⟩ := Query.run_attempt_bind_eq_ok.mp h
  obtain ⟨rfl, rfl⟩ := Query.run_pure_eq_ok.mp h
  obtain rfl := ensure_eq_ok.mp hunchanged
  obtain ⟨simulated, hfirst, hlast, hsimulated⟩ := simulatedAt_of_prepare hprepared
  obtain ⟨contract, hash?, hcontract, hobserved⟩ := observed_of_observation hexecutable
  exact ⟨simulated, last, contract, hash?, hfirst, hlast, hobserved.lt, hsimulated, hcontract,
    hobserved, rfl⟩

/-- A call that is prepared, from its first look at the contract to the last one. -/
structure PreparedBetween (client : ContractClient Bytes Digest) (request : ContractInvokeRequest)
    (views : ℕ → RpcView) (contract : Uint256) (snapshot : ContractSpecSnapshot)
    (lowLevelRequest : SorobanInvokeRequest) (first read simulated last later : ℕ)
    (invoke : PreparedContractInvoke Bytes Digest) : Prop where
  ordered : read ≤ simulated ∧ simulated < last
  observed : ∃ hash?, Observed client.gateway views contract first snapshot.executable hash? read ∧
    InterfaceOf client.gateway views read hash? snapshot.entries snapshot.metadata
  unchanged : ∃ hash?, Observed client.gateway views contract last snapshot.executable hash? later
  resolved : resolveSnapshot client request snapshot =
    .ok (lowLevelRequest, invoke.review.arguments)
  review : invoke.review = .fromSoroban invoke.prepared.review snapshot.executable
    snapshot.metadata (snapshotCapabilities client snapshot) invoke.review.arguments
  assembled : SimulatedAt client lowLevelRequest views simulated invoke.prepared

theorem PreparedBetween.executable_eq {first simulated last : ℕ}
    (h : PreparedBetween client request views contract snapshot lowLevelRequest first read
      simulated last later invoke) : invoke.review.executable = snapshot.executable := by
  rw [h.review]
  rfl

/-- In between, the contract ran the executable that the review shows. -/
theorem PreparedBetween.shownFrom {first simulated last : ℕ}
    (h : PreparedBetween client request views contract snapshot lowLevelRequest first read
      simulated last later invoke)
    (hstable : NothingReturns client.gateway views contract first later) :
    ShownFrom client request views contract snapshot lowLevelRequest first read simulated last
      invoke := by
  obtain ⟨hash?, hobserved, hinterface⟩ := h.observed
  obtain ⟨hash?', hunchanged⟩ := h.unchanged
  obtain ⟨hread, hlast⟩ := h.ordered
  exact {
    ordered := ⟨hobserved.lt, hread, hlast⟩
    resolved := h.resolved
    spec := ⟨hash?, h.executable_eq ▸ hobserved.wasmHash_eq, hinterface⟩
    review := h.review
    assembled := h.assembled
    running := h.executable_eq ▸
      hobserved.running_between hstable hunchanged hread hlast le_rfl }

theorem preparedBetween_of_snapshot {first mid : ℕ}
    (hcontract : client.gateway.contractId? request.contractId = some contract)
    (hsnapshot : (RpcGateway.contractSpecSnapshot client.gateway request.contractId).run views
      first = .ok (snapshot, mid))
    (hresolve : resolveSnapshot client request snapshot = .ok (lowLevelRequest, arguments))
    (hmid : mid ≤ now)
    (h : (prepareUnchanged client request snapshot lowLevelRequest arguments).run views now =
      .ok (invoke, later)) :
    ∃ read simulated last, last < later ∧ PreparedBetween client request views contract snapshot
      lowLevelRequest first read simulated last later invoke := by
  obtain ⟨contract', hash?, read, hcontract', hobserved, hread, hinterface⟩ :=
    observed_of_snapshot hsnapshot
  obtain rfl := Option.some.inj (hcontract.symm.trans hcontract')
  obtain ⟨simulated, last, contract', hash?', hstart, hbefore, hlast, hassembled, hcontract',
    hunchanged, hreview⟩ := prepareUnchanged_eq_ok h
  obtain rfl := Option.some.inj (hcontract.symm.trans hcontract')
  have harguments : invoke.review.arguments = arguments := by
    rw [hreview]
    rfl
  refine ⟨read, simulated, last, hlast, ⟨by omega, hbefore⟩, ⟨hash?, hobserved, hinterface⟩,
    ⟨hash?', hunchanged⟩, ?_, ?_, hassembled⟩
  · rw [harguments]
    exact hresolve
  · rw [harguments]
    exact hreview

theorem preparedBetween_of_outcome
    (hcontract : client.gateway.contractId? request.contractId = some contract)
    (h : (prepareContractInvokeOutcome client request).run views now =
      .ok (.transaction invoke, later)) :
    ∃ snapshot lowLevelRequest read simulated last, last < later ∧
      PreparedBetween client request views contract snapshot lowLevelRequest now read simulated
        last later invoke := by
  obtain ⟨snapshot, mid, hsnapshot, h⟩ := Query.run_bind_eq_ok.mp h
  obtain ⟨⟨lowLevelRequest, arguments⟩, hresolve, h⟩ := Query.run_attempt_bind_eq_ok.mp h
  obtain ⟨simulation, after, hsimulation, h⟩ := Query.run_bind_eq_ok.mp h
  obtain ⟨_, -, h⟩ := Query.run_attempt_bind_eq_ok.mp h
  obtain ⟨requiresSend, -, h⟩ := Query.run_attempt_bind_eq_ok.mp h
  split_ifs at h
  · obtain ⟨found, end', hprepare, h⟩ := Query.run_bind_eq_ok.mp h
    obtain ⟨hsame, rfl⟩ := Query.run_pure_eq_ok.mp h
    cases hsame
    exact ⟨snapshot, lowLevelRequest, preparedBetween_of_snapshot hcontract hsnapshot hresolve
      (Query.forward _ hsimulation) hprepare⟩
  · obtain ⟨result, -, h⟩ := Query.run_attempt_bind_eq_ok.mp h
    obtain ⟨hsame, -⟩ := Query.run_pure_eq_ok.mp h
    cases hsame

/-- What a call returned that needs no transaction: the executable was observed at first, and
one later view gave the answer that is decoded. -/
structure ReadBetween (client : ContractClient Bytes Digest) (request : ContractInvokeRequest)
    (views : ℕ → RpcView) (contract : Uint256) (first read simulated : ℕ)
    (result : ContractReadResult) : Prop where
  ordered : read ≤ simulated
  observed : ∃ hash?, Observed client.gateway views contract first result.executable hash? read
  answered : ∃ snapshot lowLevelRequest arguments candidate simulation,
    resolveSnapshot client request snapshot = .ok (lowLevelRequest, arguments) ∧
    buildCandidateForSource client readOnlySimulationAccount lowLevelRequest (.lit 0) (.lit 100) =
      .ok candidate ∧
    (views simulated).ledger.simulate candidate = .ok simulation ∧
    readResult client request snapshot arguments simulation = .ok result

theorem readBetween_of_outcome {result : ContractReadResult}
    (hcontract : client.gateway.contractId? request.contractId = some contract)
    (h : (prepareContractInvokeOutcome client request).run views now =
      .ok (.readOnly result, later)) :
    ∃ read simulated, simulated < later ∧
      ReadBetween client request views contract now read simulated result := by
  obtain ⟨snapshot, mid, hsnapshot, h⟩ := Query.run_bind_eq_ok.mp h
  obtain ⟨⟨lowLevelRequest, arguments⟩, hresolve, h⟩ := Query.run_attempt_bind_eq_ok.mp h
  obtain ⟨simulation, after, hsimulation, h⟩ := Query.run_bind_eq_ok.mp h
  obtain ⟨_, -, h⟩ := Query.run_attempt_bind_eq_ok.mp h
  obtain ⟨requiresSend, -, h⟩ := Query.run_attempt_bind_eq_ok.mp h
  -- a call that has to be sent is no read
  split_ifs at h
  · obtain ⟨found, end', -, h⟩ := Query.run_bind_eq_ok.mp h
    obtain ⟨hsame, -⟩ := Query.run_pure_eq_ok.mp h
    cases hsame
  obtain ⟨found, hfound, h⟩ := Query.run_attempt_bind_eq_ok.mp h
  obtain ⟨hsame, rfl⟩ := Query.run_pure_eq_ok.mp h
  cases hsame
  obtain ⟨contract', hash?, read, hcontract', hobserved, hread, -⟩ := observed_of_snapshot hsnapshot
  obtain rfl := Option.some.inj (hcontract.symm.trans hcontract')
  obtain ⟨_, verified, hverify, hsimulation⟩ := Query.run_bind_eq_ok.mp hsimulation
  obtain ⟨candidate, hcandidate, hsimulation⟩ := Query.run_attempt_bind_eq_ok.mp hsimulation
  obtain ⟨hanswer, rfl⟩ := Query.run_ask_eq_ok.mp hsimulation
  have hshown : result.executable = snapshot.executable := by
    obtain ⟨_, -, hdecoded⟩ := bind_eq_ok.mp hfound
    obtain rfl := Except.ok.inj hdecoded
    rfl
  have hverified := Query.forward _ hverify
  refine ⟨read, verified, Nat.lt_succ_self verified, by omega, ⟨hash?, hshown ▸ hobserved⟩, ?_⟩
  exact ⟨snapshot, lowLevelRequest, arguments, candidate, simulation, hresolve, hcandidate,
    RpcView.request_eq_ok hanswer, hfound⟩

/-- A call that is prepared, whatever the ledger did meanwhile, was simulated with the
executable that its review shows, as far as what was replaced did not come back and the
contract was not given another reference. -/
theorem prepareContractInvoke_shown
    (hcontract : client.gateway.contractId? request.contractId = some contract)
    (hstable : NothingReturns client.gateway views contract now later)
    (h : (prepareContractInvoke client request).run views now = .ok (invoke, later)) :
    ∃ snapshot lowLevelRequest read simulated last, last < later ∧
      ShownFrom client request views contract snapshot lowLevelRequest now read simulated last
        invoke := by
  obtain ⟨snapshot, mid, hsnapshot, h⟩ := Query.run_bind_eq_ok.mp h
  obtain ⟨⟨lowLevelRequest, arguments⟩, hresolve, h⟩ := Query.run_attempt_bind_eq_ok.mp h
  obtain ⟨read, simulated, last, hlast, hprepared⟩ :=
    preparedBetween_of_snapshot hcontract hsnapshot hresolve le_rfl h
  exact ⟨snapshot, lowLevelRequest, read, simulated, last, hlast, hprepared.shownFrom hstable⟩

/-- So was one that is prepared after a simulation that found it to need a transaction. -/
theorem prepareContractInvokeOutcome_shown
    (hcontract : client.gateway.contractId? request.contractId = some contract)
    (hstable : NothingReturns client.gateway views contract now later)
    (h : (prepareContractInvokeOutcome client request).run views now =
      .ok (.transaction invoke, later)) :
    ∃ snapshot lowLevelRequest read simulated last, last < later ∧
      ShownFrom client request views contract snapshot lowLevelRequest now read simulated last
        invoke := by
  obtain ⟨snapshot, lowLevelRequest, read, simulated, last, hlast, hprepared⟩ :=
    preparedBetween_of_outcome hcontract h
  exact ⟨snapshot, lowLevelRequest, read, simulated, last, hlast, hprepared.shownFrom hstable⟩

/-! ### A token that is not upgraded -/

def tokenFunction (name : String) (inputs : List (String × ScSpecTypeDef))
    (outputs : List ScSpecTypeDef) : ScSpecFunctionV0 :=
  ⟨Utf8.bytes name, inputs.map fun input => ⟨Utf8.bytes input.1, input.2⟩, outputs⟩

def transferFunction : ScSpecFunctionV0 :=
  tokenFunction "transfer" [("from", .address), ("to", .muxedAddress), ("amount", .i128)] []

def decimalsFunction : ScSpecFunctionV0 := tokenFunction "decimals" [] [.u32]

def tokenFunctions : List ScSpecFunctionV0 :=
  [transferFunction, decimalsFunction,
    tokenFunction "allowance" [("from", .address), ("spender", .address)] [.i128],
    tokenFunction "approve" [("from", .address), ("spender", .address), ("amount", .i128),
      ("live_until_ledger", .u32)] [],
    tokenFunction "balance" [("id", .address)] [.i128],
    tokenFunction "transfer_from" [("spender", .address), ("from", .address), ("to", .address),
      ("amount", .i128)] [],
    tokenFunction "burn" [("from", .address), ("amount", .i128)] [],
    tokenFunction "burn_from" [("spender", .address), ("from", .address), ("amount", .i128)] [],
    tokenFunction "name" [] [.string],
    tokenFunction "symbol" [] [.string]]

/-- What is shown of an address, of 5 units and of 1 decimal. -/
def tokenJson : ScVal → Json
  | .scalar (.address _) => .string soleSignerText
  | .scalar (.i128 _ _) => .string "5"
  | _ => .number (.posInt (.lit 1))

def tokenXdr : ScVal → String
  | .scalar (.address _) => Base64.encode (List.replicate 3 0 ++ [18] ++ List.replicate 40 0)
  | .scalar (.i128 _ _) => "AAAACgAAAAAAAAAAAAAAAAAAAAU="
  | _ => "AAAAAwAAAAE="

/-- No text of the example is read as a value. -/
theorem size_le_of_unread {text : String} {value : Json} (h : (none : Option Json) = some value) :
    value.size ≤ text.length := by
  cases h

def tokenArguments : ArgumentCrates where
  texts :=
    { parse := fun _ => none
      encode := fun _ => .error "unused"
      fromString := fun text _ => text = soleSignerText ∨ text = "5"
      size_le := @size_le_of_unread }
  codec :=
    { xdrToJson := fun value _ => .ok (tokenJson value)
      toXdrBase64 := fun value => .ok (tokenXdr value)
      findFunction := fun name =>
        if name = "transfer" then .ok transferFunction
        else if name = "decimals" then .ok decimalsFunction
        else .error s!"Missing Entry {name}"
      findFunctions := .ok tokenFunctions }
  fromString := fun text _ =>
    if text = soleSignerText then .ok (.scalar (.address (.account (Vector.replicate 32 0))))
    else if text = "5" then .ok (.scalar (.i128 (.lit 0) (.lit 5)))
    else .error "invalid value"
  fromJson := fun _ _ => .error "unused"
  fromXdrBase64 := fun _ => .error "unused"
  example? := fun _ => none
  fromString_isOk := by
    intro text typeDef
    split_ifs with haddress hunits <;> simp [*, Except.isOk, Except.toBool]

def tokenCall : InvokeContractArgs where
  contractAddress := .contract (Vector.replicate 32 0)
  functionName := Utf8.bytes "transfer"
  args := [.scalar (.address (.account (Vector.replicate 32 0))),
    .scalar (.address (.account (Vector.replicate 32 0))), .scalar (.i128 (.lit 0) (.lit 5))]

/-- An answer of a contract that asks for no authorization. -/
def tokenAnswer (events : List ContractEventType) (value : ScVal) : ContractSimulation where
  error := none
  restorePreamble := none
  results := [⟨[]⟩]
  minResourceFee := .lit 4900
  latestLedger := .lit 123456
  transactionData := transactionDataText 4900
  decodedResults := .ok [⟨[], value⟩]
  events := .ok events

/-- A transfer publishes an event, and any other call answers a number. -/
def tokenSimulation (functionName : List UInt8) : ContractSimulation :=
  if functionName = Utf8.bytes "transfer" then
    tokenAnswer [.contract] .void
  else tokenAnswer [] (.scalar (.u32 (.lit 1)))

/-- A ledger in which a contract runs the code of one hash. -/
def tokenLedger : ContractLedger where
  verifyNetworkPassphrase _ := .ok ()
  contractInstance _ := .ok (.wasm (Vector.replicate 32 9))
  entries key :=
    match key with
    | .contractCode _ => some ["code"]
    | .contractData _ _ => none
  sequence _ := .ok (.lit 7)
  sorobanInclusionFeeMode := "100"
  simulate envelope :=
    match envelope with
    | .tx tx _ =>
      match tx.operations with
      | [⟨_, .invokeHostFunction ⟨.invokeContract call, _⟩⟩] =>
        .ok (tokenSimulation call.functionName)
      | _ => .error "unsupported"
    | _ => .error "unsupported"
  transactionStatus _ := .ok .notFound

def tokenViews (_ : ℕ) : RpcView := ⟨none, tokenLedger⟩

def tokenContractId : String := Sep23.encode (16, List.replicate 32 0)

def tokenGateway : GatewayCrates where
  contractId? text := if text = tokenContractId then some (Vector.replicate 32 0) else none
  ledgerEntryData _ := .ok (.contractCode [0, 97, 115, 109])
  wasmContractSpec _ := .ok ⟨tokenFunctions.map .functionV0, []⟩
  stellarAssetSpec := .error "unused"

def tokenClient : ContractClient TransactionEnvelope (String × TaggedTransaction) where
  network := "testnet"
  networkPassphrase := "Test SDF Network ; September 2015"
  resolve _ := .ok soleSignerWallet
  store := PendingTransactionStore.forHome "home"
  file := .absent
  save := .saved
  rfc3339 := PendingTransactionStore.novemberText
  clock := PendingTransactionStore.november
  primitives := Primitives.ideal
  codec := simulatedCodec
  gateway := tokenGateway
  contractText id := Sep23.encode (16, id.toList)
  simulatedData text :=
    if text = transactionDataText 4900 then .ok ⟨⟨simulatedResources, .lit 4900⟩, [], none⟩
    else .error "xdr value invalid"
  spec entries := .ofEntries entries asciiText id id
  arguments _ := tokenArguments
  isTransactionHash _ := true
  jsonText _ := "null"

def tokenSnapshot : ContractSpecSnapshot where
  entries := tokenFunctions.map .functionV0
  executable := ⟨.wasm, some (hex (List.replicate 32 9))⟩
  metadata := []

def tokenSpec : Spec := tokenClient.spec tokenSnapshot.entries

def tokenCallRequest : ContractInvokeRequest :=
  { ContractInvokeRequest.newPositional tokenContractId "transfer"
      [soleSignerText, soleSignerText, "5"] with
    wallet := some "main" }

theorem tokenViews_nothingReturns {crates : GatewayCrates} {first last : ℕ} :
    NothingReturns crates tokenViews contract first last :=
  ⟨.of_constant fun _ => rfl, fun _ => .of_constant fun _ => rfl⟩

theorem tokenContractId_eq :
    tokenClient.gateway.contractId? tokenContractId = some (Vector.replicate 32 0) := by
  simp [tokenClient, tokenGateway]

theorem tokenSnapshot_read (now : ℕ) :
    (RpcGateway.contractSpecSnapshot tokenGateway tokenContractId).run tokenViews now =
      .ok (tokenSnapshot, now + 2) := by
  refine Query.run_bind_eq_ok.mpr ⟨.wasm (Vector.replicate 32 9), now + 1, ?_, rfl⟩
  exact Query.run_attempt_bind_eq_ok.mpr ⟨_, okOr_eq_ok.mpr tokenContractId_eq, rfl⟩

theorem tokenTypes_safe {typeDef : ScSpecTypeDef}
    (h : typeDef = .address ∨ typeDef = .muxedAddress ∨ typeDef = .i128 ∨ typeDef = .u32) :
    ensureContractTypeNormalizationSafe tokenSpec typeDef [] = .ok () := by
  rcases h with rfl | rfl | rfl | rfl <;>
  · rw [ensureContractTypeNormalizationSafe]
    all_goals simp

theorem tokenArgument_shown {name valueType : String} {typeDef : ScSpecTypeDef} {value : ScVal}
    (htype : typeDef = .address ∨ typeDef = .muxedAddress ∨ typeDef = .i128 ∨ typeDef = .u32)
    (hvalid : validateScvalAgainstType tokenSpec value typeDef 0 = .ok ()) :
    contractArgumentReview tokenSpec tokenArguments.codec name valueType typeDef value =
      .ok ⟨name, valueType, tokenJson value, tokenXdr value⟩ := by
  rw [contractArgumentReview, hvalid, tokenTypes_safe htype]
  rfl

/-- The rows of the review of a call. -/
def tokenRows : List ContractArgumentReview :=
  List.zipWith (fun input value => ⟨inputName tokenSpec input,
    contractTypeName tokenSpec input.type, tokenJson value, tokenXdr value⟩)
    transferFunction.inputs tokenCall.args

theorem tokenCall_resolves :
    resolveSnapshot tokenClient tokenCallRequest tokenSnapshot =
      .ok (tokenCallRequest.invoke "transfer" tokenCall.args, tokenRows) := by
  have hfind : findFunction tokenSpec tokenArguments.codec "transfer" = .ok transferFunction := rfl
  have hname : tokenSpec.text transferFunction.name = "transfer" := by decide +kernel
  have haddress (typeDef : ScSpecTypeDef) : tokenArguments.fromString soleSignerText typeDef =
      .ok (.scalar (.address (.account (Vector.replicate 32 0)))) := by simp [tokenArguments]
  have hunits : "5" ≠ soleSignerText := by decide +kernel
  have hamount : tokenArguments.fromString "5" .i128 = .ok (.scalar (.i128 (.lit 0) (.lit 5))) := by
    simp [tokenArguments, hunits]
  have hread {input : ScSpecFunctionInputV0} {text : String} {value : ScVal}
      (h : tokenArguments.fromString text input.type = .ok value) :
      Holds tokenSpec tokenArguments ⟨∅⟩ input (some (.specValue text)) value := by
    simp [Holds, sourceValue, parseArgument, h]
  -- the three arguments in their order
  refine (resolve_eq_ok hfind).mpr ⟨by decide, ?_, ?_⟩
  · refine (resolveArguments_positional rfl).mpr ⟨by decide, ?_⟩
    refine .cons (hread (haddress _)) (tokenArgument_shown (by simp) (by decide +kernel)) ?_
    refine .cons (hread (haddress _)) (tokenArgument_shown (by simp) (by decide +kernel)) ?_
    exact .cons (hread hamount) (tokenArgument_shown (by simp) (by decide +kernel)) .nil
  · change _ = tokenCallRequest.invoke (tokenSpec.text transferFunction.name) tokenCall.args
    rw [hname]

/-- The transaction of the call, prepared from some view on. -/
def tokenPrepared (now : ℕ) :
    Except String (PreparedContractInvoke TransactionEnvelope (String × TaggedTransaction) × ℕ) :=
  (prepareUnchanged tokenClient tokenCallRequest tokenSnapshot
    (tokenCallRequest.invoke "transfer" tokenCall.args) tokenRows).run tokenViews now

theorem tokenPrepared_eq_ok {now : ℕ} (h : (tokenPrepared now).isOk = true) :
    ∃ invoke later, tokenPrepared now = .ok (invoke, later) := by
  cases hprepared : tokenPrepared now with
  | error error =>
    rw [hprepared] at h
    cases h
  | ok found => exact ⟨found.1, found.2, rfl⟩

theorem prepareContractInvoke_shown_token :
    ∃ invoke later snapshot lowLevelRequest read simulated last, last < later ∧
      ShownFrom tokenClient tokenCallRequest tokenViews (Vector.replicate 32 0) snapshot
        lowLevelRequest 0 read simulated last invoke := by
  obtain ⟨invoke, later, hprepared⟩ :=
    tokenPrepared_eq_ok (show (tokenPrepared 2).isOk = true by decide +kernel)
  refine ⟨invoke, later, prepareContractInvoke_shown tokenContractId_eq tokenViews_nothingReturns
    ?_⟩
  exact Query.run_bind_eq_ok.mpr ⟨tokenSnapshot, 2, tokenSnapshot_read 0,
    Query.run_attempt_bind_eq_ok.mpr ⟨_, tokenCall_resolves, hprepared⟩⟩

end Fresnica.Contract
