import Fresnica.Contract.Invoke
import Fresnica.Token.Amount

/-!
# Token transfers

The amount of a transfer is written with a decimal point, and the contract of the token says
how many units it stands for. A transfer that takes the decimals from the contract is handed
out only if the executable of the decimals is the one of the transfer, so that no upgrade in
between changes what the amount means.

A balance is read first, and the decimals that it is shown with after it. That the two
executables agree says something about the balance, and nothing about the decimals.

## Main definitions

* `tokenRead`, `tokenBalance`, `prepareTokenTransfer`
* `DecimalsFrom` — the decimals are what a simulation answered

## Main results

* `prepareTokenTransfer_shown` — the decimals of a transfer come from the executable that its
  review shows
* `tokenBalance_shown` — so does a balance
-/

namespace Fresnica.Contract

open Foundation

inductive ResolvedTokenSource
  | stellarAsset (asset : String)
  | contract
  deriving DecidableEq, Repr

structure ResolvedToken where
  contractId : String
  source : ResolvedTokenSource
  deriving DecidableEq, Repr

structure TokenAmount where
  raw : I128
  decimals : U32
  amount : Option String
  deriving DecidableEq, Repr

structure TokenBalanceRequest where
  token : ResolvedToken
  owner : String
  addressNames : ContractAddressNames

structure TokenTransferRequest where
  token : ResolvedToken
  wallet : Option String
  amount : String
  destination : String
  addressNames : ContractAddressNames

structure TokenBalanceResult where
  token : ResolvedToken
  owner : Json
  amount : TokenAmount
  contract : ContractReadResult

structure PreparedTokenTransfer (Bytes Digest : Type) where
  token : ResolvedToken
  walletName : String
  walletAddress : String
  destination : Json
  amountInput : String
  amount : TokenAmount
  contract : PreparedContractInvoke Bytes Digest

def stellarAssetTokenDecimals : U32 := .lit 7

/-! ### Checks -/

def ensureCurrentSep41 (capabilities : ContractCapabilities) (contractId : String) :
    Except String Unit :=
  ensure (capabilities.sep41.currentInterfaceCompatible = true)
    s!"contract {contractId} is not compatible with the current SEP-41 interface"

def ensureSameExecutable (first second : ContractExecutableObservation) : Except String Unit :=
  ensure (first = second) ("token contract executable changed during the operation from " ++
    s!"{executableIdentity first} to {executableIdentity second}; retry after inspecting the " ++
    "contract")

section Definitions

variable {Bytes Digest : Type} (client : ContractClient Bytes Digest)

def JsonNumber.text : JsonNumber → String
  | .posInt value => toString value.val
  | .negInt value => toString value.val
  | .float text => text

def parseIntegerText (value : Option Json) (label : String) : Except String String :=
  match value with
  | some (.string value) => .ok value
  | some (.number value) => .ok (JsonNumber.text value)
  | some other => .error s!"SEP-41 {label} returned a non-integer value: {client.jsonText other}"
  | none => .error s!"SEP-41 {label} returned no value"

def parseI128Output (value : Option Json) (label : String) : Except String I128 := do
  let text ← parseIntegerText client value label
  okOr (BoundedInt.parse? text.toList) s!"SEP-41 {label} returned a value outside i128 range"

def parseU32Output (value : Option Json) (label : String) : Except String U32 := do
  let text ← parseIntegerText client value label
  okOr (BoundedInt.parseUnsigned? text.toList)
    s!"SEP-41 {label} returned a value outside u32 range"

/-! ### Reads -/

def tokenRead (request : ContractInvokeRequest) (function : String) :
    Query RpcView String ContractReadResult := do
  let outcome ← prepareContractInvokeOutcome client request
  match outcome with
  | .transaction _ => Query.attempt (throw (s!"SEP-41 {function} unexpectedly requires a write " ++
      "transaction; refusing token read"))
  | .readOnly result => do
    Query.attempt (ensureCurrentSep41 result.capabilities result.contractId)
    return result

def decimalsRequest (token : ResolvedToken) : ContractInvokeRequest :=
  .newPositional token.contractId "decimals" []

def balanceRequest (request : TokenBalanceRequest) : ContractInvokeRequest :=
  { ContractInvokeRequest.newPositional request.token.contractId "balance" [request.owner] with
    addressNames := request.addressNames }

/-- The decimals of a balance. -/
def balanceDecimals (token : ResolvedToken) (balance : ContractReadResult) :
    Query RpcView String U32 :=
  match token.source with
  | .stellarAsset _ => pure stellarAssetTokenDecimals
  | .contract => do
    let decimals ← tokenRead client (decimalsRequest token) "decimals"
    Query.attempt (ensureSameExecutable balance.executable decimals.executable)
    Query.attempt (parseU32Output client decimals.output "decimals")

def tokenBalance (request : TokenBalanceRequest) : Query RpcView String TokenBalanceResult := do
  let balance ← tokenRead client (balanceRequest request) "balance"
  let raw ← Query.attempt (parseI128Output client balance.output "balance")
  let decimals ← balanceDecimals client request.token balance
  let owner ← Query.attempt (okOr (balance.arguments.head?.map fun argument => argument.value)
    "SEP-41 balance review is missing its owner argument")
  return {
    token := request.token
    owner
    amount := ⟨raw, decimals, formatFixedPoint raw decimals⟩
    contract := balance }

/-! ### Transfers -/

/-- The call that moves the units. -/
def transferRequest (request : TokenTransferRequest) (wallet : WalletRecord) (raw : I128) :
    ContractInvokeRequest :=
  { ContractInvokeRequest.newPositional request.token.contractId "transfer"
      [wallet.address, request.destination, toString raw.val] with
    wallet := some wallet.name
    addressNames := request.addressNames }

/-- The decimals that the contract says, with where it said them. -/
def decimalsObservation (token : ResolvedToken) :
    Query RpcView String (Option ContractReadResult) :=
  match token.source with
  | .stellarAsset _ => pure none
  | .contract => do
    let decimals ← tokenRead client (decimalsRequest token) "decimals"
    return some decimals

def transferDecimals (observation : Option ContractReadResult) : Except String U32 :=
  match observation with
  | some result => parseU32Output client result.output "decimals"
  | none => .ok stellarAssetTokenDecimals

def tokenAmountMessage : TokenAmountError → String
  | .refused message => message
  | .underflow => "attempt to subtract with overflow"

def ensureDecimalsExecutable (observation : Option ContractReadResult)
    (executable : ContractExecutableObservation) : Except String Unit :=
  match observation with
  | some decimals => ensureSameExecutable decimals.executable executable
  | none => .ok ()

def prepareTokenTransfer (request : TokenTransferRequest) :
    Query RpcView String (PreparedTokenTransfer Bytes Digest) := do
  let wallet ← Query.attempt (resolveNetworkWallet client.resolve client.network request.wallet)
  let observation ← decimalsObservation client request.token
  let decimals ← Query.attempt (transferDecimals client observation)
  let raw ← Query.attempt (mapErr tokenAmountMessage (parseTokenAmount request.amount decimals))
  let outcome ← prepareContractInvokeOutcome client (transferRequest request wallet raw)
  match outcome with
  | .readOnly _ => Query.attempt (throw
      "SEP-41 transfer unexpectedly simulated as read-only; refusing token transfer")
  | .transaction prepared => do
    Query.attempt (ensureCurrentSep41 prepared.review.capabilities prepared.review.contractId)
    Query.attempt (ensureDecimalsExecutable observation prepared.review.executable)
    let source ← Query.attempt (okOr (prepared.review.arguments.head?.map (·.value))
      "SEP-41 transfer review is missing its source argument")
    Query.attempt (ensure (source.asStr? = some wallet.address)
      "prepared SEP-41 transfer source does not match the selected Fresnica wallet")
    let destination ← Query.attempt (okOr (prepared.review.arguments[1]?.map (·.value))
      "SEP-41 transfer review is missing its destination argument")
    return {
      token := request.token
      walletName := wallet.name
      walletAddress := wallet.address
      destination
      amountInput := request.amount
      amount := ⟨raw, decimals, formatFixedPoint raw decimals⟩
      contract := prepared }

end Definitions

/-! ### Where the decimals come from -/

variable {Bytes Digest : Type} {client : ContractClient Bytes Digest} {views : ℕ → RpcView}
  {contract : Uint256} {now later : ℕ}

/-- A read is an answer that needs no transaction, of a contract with the token interface. -/
theorem tokenRead_eq_ok {request : ContractInvokeRequest} {function : String}
    {result : ContractReadResult}
    (hcontract : client.gateway.contractId? request.contractId = some contract)
    (h : (tokenRead client request function).run views now = .ok (result, later)) :
    result.capabilities.sep41.currentInterfaceCompatible = true ∧
      ∃ read simulated, simulated < later ∧
        ReadBetween client request views contract now read simulated result := by
  obtain ⟨outcome, mid, houtcome, h⟩ := Query.run_bind_eq_ok.mp h
  cases outcome with
  | transaction prepared =>
    obtain ⟨hthrow, -⟩ := Query.run_attempt_eq_ok.mp h
    cases hthrow
  | readOnly found =>
    obtain ⟨_, hcurrent, h⟩ := Query.run_attempt_bind_eq_ok.mp h
    obtain ⟨hsame, rfl⟩ := Query.run_pure_eq_ok.mp h
    subst hsame
    exact ⟨ensure_eq_ok.mp hcurrent, readBetween_of_outcome hcontract houtcome⟩

/-- The decimals are the answer of one view, in which the contract ran the executable unless it
was given another reference meanwhile. Those of an asset are always the same. -/
def DecimalsFrom (client : ContractClient Bytes Digest) (token : ResolvedToken)
    (views : ℕ → RpcView) (contract : Uint256) (first last : ℕ)
    (executable : ContractExecutableObservation) (decimals : U32) : Prop :=
  match token.source with
  | .stellarAsset _ => decimals = stellarAssetTokenDecimals
  | .contract => ∃ read simulated result, simulated < last ∧
      ReadBetween client (decimalsRequest token) views contract first read simulated result ∧
      parseU32Output client result.output "decimals" = .ok decimals ∧
      ((views simulated).ledger.running client.gateway contract = .ok executable ∨
        Redirected views contract first last)

/-- An answer came from the executable that is observed again later on. -/
theorem ReadBetween.running {request : ContractInvokeRequest} {result : ContractReadResult}
    {first read simulated last bound : ℕ} {hash? : Option Uint256}
    (hstable : NothingReturns client.gateway views contract first bound)
    (h : ReadBetween client request views contract first read simulated result)
    (hlater : Observed client.gateway views contract last result.executable hash? later)
    (hlast : simulated < last) (hbound : later ≤ bound) :
    (views simulated).ledger.running client.gateway contract = .ok result.executable ∨
      Redirected views contract first last := by
  obtain ⟨hash?', hobserved⟩ := h.observed
  exact hobserved.running_between hstable hlater h.ordered hlast hbound

/-- A transfer that is prepared moves as many units as its amount stands for with the decimals
of the contract, which it answered with the executable that the review shows. -/
structure TransferShown (client : ContractClient Bytes Digest) (request : TokenTransferRequest)
    (views : ℕ → RpcView) (contract : Uint256) (now : ℕ)
    (transfer : PreparedTokenTransfer Bytes Digest) : Prop where
  amount : parseTokenAmount request.amount transfer.amount.decimals = .ok transfer.amount.raw
  shown : ∃ wallet snapshot lowLevelRequest first read simulated last, now ≤ first ∧
    resolveNetworkWallet client.resolve client.network request.wallet = .ok wallet ∧
    transfer.walletAddress = wallet.address ∧
    ShownFrom client (transferRequest request wallet transfer.amount.raw) views contract snapshot
      lowLevelRequest first read simulated last transfer.contract ∧
    DecimalsFrom client request.token views contract now last transfer.contract.review.executable
      transfer.amount.decimals
  source : transfer.contract.review.arguments.head?.map (·.value) =
    some (.string transfer.walletAddress)
  destination : transfer.contract.review.arguments[1]?.map (·.value) = some transfer.destination
  interface : transfer.contract.review.capabilities.sep41.currentInterfaceCompatible = true

/-- What is known when the decimals were read. -/
theorem decimalsFrom_of_observation {token : ResolvedToken}
    {observation : Option ContractReadResult} {decimals : U32}
    {executable : ContractExecutableObservation} {first last bound : ℕ} {hash? : Option Uint256}
    (hcontract : client.gateway.contractId? token.contractId = some contract)
    (hstable : NothingReturns client.gateway views contract now bound)
    (hobservation : (decimalsObservation client token).run views now = .ok (observation, first))
    (hdecimals : transferDecimals client observation = .ok decimals)
    (hexecutable : ensureDecimalsExecutable observation executable = .ok ())
    (hlater : Observed client.gateway views contract last executable hash? later)
    (hlast : first ≤ last) (hbound : later ≤ bound) :
    DecimalsFrom client token views contract now last executable decimals := by
  rw [decimalsObservation] at hobservation
  rw [DecimalsFrom]
  split at hobservation
  · next hsource =>
    obtain ⟨rfl, rfl⟩ := Query.run_pure_eq_ok.mp hobservation
    exact (Except.ok.inj hdecimals).symm
  · next hsource =>
    obtain ⟨result, mid, hread, hpure⟩ := Query.run_bind_eq_ok.mp hobservation
    obtain ⟨rfl, rfl⟩ := Query.run_pure_eq_ok.mp hpure
    obtain ⟨-, read, simulated, hbefore, hbetween⟩ := tokenRead_eq_ok hcontract hread
    have hsame : result.executable = executable := ensure_eq_ok.mp hexecutable
    subst hsame
    exact ⟨read, simulated, result, by omega, hbetween, hdecimals,
      hbetween.running hstable hlater (by omega) hbound⟩

theorem asStr?_eq_some {value : Json} {text : String} :
    value.asStr? = some text ↔ value = .string text := by
  cases value <;> simp [Json.asStr?]

/-- A transfer that is prepared, whatever the ledger did meanwhile, moves the amount that was
asked for: its decimals come from the executable that it was simulated with. -/
theorem prepareTokenTransfer_shown {request : TokenTransferRequest}
    {transfer : PreparedTokenTransfer Bytes Digest}
    (hcontract : client.gateway.contractId? request.token.contractId = some contract)
    (hstable : NothingReturns client.gateway views contract now later)
    (h : (prepareTokenTransfer client request).run views now = .ok (transfer, later)) :
    TransferShown client request views contract now transfer := by
  obtain ⟨wallet, hwallet, h⟩ := Query.run_attempt_bind_eq_ok.mp h
  obtain ⟨observation, first, hobservation, h⟩ := Query.run_bind_eq_ok.mp h
  obtain ⟨decimals, hdecimals, h⟩ := Query.run_attempt_bind_eq_ok.mp h
  obtain ⟨raw, hraw, h⟩ := Query.run_attempt_bind_eq_ok.mp h
  obtain ⟨outcome, mid, houtcome, h⟩ := Query.run_bind_eq_ok.mp h
  cases outcome with
  -- a transfer that would only read is refused
  | readOnly result =>
    obtain ⟨hthrow, -⟩ := Query.run_attempt_eq_ok.mp h
    cases hthrow
  | transaction prepared =>
    obtain ⟨_, hcurrent, h⟩ := Query.run_attempt_bind_eq_ok.mp h
    obtain ⟨_, hexecutable, h⟩ := Query.run_attempt_bind_eq_ok.mp h
    obtain ⟨source, hsource, h⟩ := Query.run_attempt_bind_eq_ok.mp h
    obtain ⟨_, hwalletSource, h⟩ := Query.run_attempt_bind_eq_ok.mp h
    obtain ⟨destination, hdestination, h⟩ := Query.run_attempt_bind_eq_ok.mp h
    obtain ⟨rfl, rfl⟩ := Query.run_pure_eq_ok.mp h
    have hfirst := Query.forward _ hobservation
    obtain ⟨snapshot, lowLevelRequest, read, simulated, last, hlast, hprepared⟩ :=
      preparedBetween_of_outcome (by exact hcontract) houtcome
    -- what was read first has not changed and come back in between
    have hshown := hprepared.shownFrom
      ⟨hstable.executable.mono hfirst le_rfl, fun reference =>
        (hstable.reference reference).mono hfirst le_rfl⟩
    obtain ⟨hash?, hunchanged⟩ := hprepared.unchanged
    have hordered := hshown.ordered
    exact {
      amount := mapErr_eq_ok.mp hraw
      shown := ⟨wallet, snapshot, lowLevelRequest, first, read, simulated, last, hfirst, hwallet,
        rfl, hshown, decimalsFrom_of_observation hcontract hstable hobservation hdecimals
          hexecutable (hprepared.executable_eq ▸ hunchanged) (by omega) le_rfl⟩
      source := by
        rw [okOr_eq_ok.mp hsource, asStr?_eq_some.mp (ensure_eq_ok.mp hwalletSource)]
      destination := okOr_eq_ok.mp hdestination
      interface := ensure_eq_ok.mp hcurrent }

def tokenTransferRequest : TokenTransferRequest where
  token := ⟨tokenContractId, .contract⟩
  wallet := none
  amount := "0.5"
  destination := soleSignerText
  addressNames := ⟨∅⟩

/-- The answer of the decimals. -/
def tokenDecimals : ContractReadResult where
  contractId := tokenContractId
  executable := tokenSnapshot.executable
  metadata := []
  capabilities := snapshotCapabilities tokenClient tokenSnapshot
  functionName := "decimals"
  arguments := []
  output := some (.number (.posInt (.lit 1)))
  outputXdr := some "AAAAAwAAAAE="
  simulationLedger := .lit 123456
  network := "testnet"

theorem tokenCapabilities_compatible :
    (snapshotCapabilities tokenClient tokenSnapshot).sep41.currentInterfaceCompatible = true := by
  decide +kernel

/-- The candidate that a call is simulated with. -/
def tokenCandidate (functionName : String) (args : List ScVal) : TransactionEnvelope :=
  .tx
    { sourceAccount := .ed25519 (Vector.replicate 32 0)
      fee := .lit 100
      seqNum := .lit 1
      cond := .time ⟨.lit 0, .lit 1700000300⟩
      memo := .none
      operations := [⟨none, .invokeHostFunction ⟨.invokeContract
        ⟨.contract (Vector.replicate 32 0), Utf8.bytes functionName, args⟩, []⟩⟩]
      ext := .v0 }
    []

theorem tokenSimulation_run {request : SorobanInvokeRequest} {now : ℕ} {functionName : String}
    (args : List ScVal)
    (hcandidate : buildCandidateForSource tokenClient readOnlySimulationAccount request (.lit 0)
      (.lit 100) = .ok (tokenCandidate functionName args)) :
    (simulateSorobanInvoke tokenClient request).run tokenViews now =
      .ok (tokenSimulation (Utf8.bytes functionName), now + 2) := by
  refine Query.run_bind_eq_ok.mpr ⟨(), now + 1, rfl, ?_⟩
  exact Query.run_attempt_bind_eq_ok.mpr ⟨_, hcandidate, Query.run_ask_eq_ok.mpr ⟨rfl, rfl⟩⟩

theorem tokenDecimals_decoded :
    readResult tokenClient (decimalsRequest tokenTransferRequest.token) tokenSnapshot []
      (tokenSimulation (Utf8.bytes "decimals")) = .ok tokenDecimals := by
  have hsimulation : tokenSimulation (Utf8.bytes "decimals") =
      tokenAnswer [] (.scalar (.u32 (.lit 1))) := if_neg (by decide +kernel)
  have houtput : decodeSimulationOutput tokenSpec tokenArguments.codec "decimals"
      (.ok [.scalar (.u32 (.lit 1))]) = .ok (tokenDecimals.output, tokenDecimals.outputXdr) := by
    have hfind : findFunction tokenSpec tokenArguments.codec "decimals" =
        .ok decimalsFunction := rfl
    have hvalid : validateScvalAgainstType tokenSpec (.scalar (.u32 (.lit 1))) .u32 0 = .ok () := by
      decide +kernel
    unfold decodeSimulationOutput
    rw [hfind]
    change (mapErr _ (validateScvalAgainstType tokenSpec (.scalar (.u32 (.lit 1))) .u32 0) >>=
      fun _ => mapErr _ (ensureContractTypeNormalizationSafe tokenSpec .u32 []) >>= _) = _
    rw [hvalid, tokenTypes_safe (by simp)]
    rfl
  rw [hsimulation, readResult]
  refine bind_eq_ok.mpr ⟨_, houtput, rfl⟩

theorem tokenDecimals_read :
    (tokenRead tokenClient (decimalsRequest tokenTransferRequest.token) "decimals").run tokenViews
      0 = .ok (tokenDecimals, 4) := by
  refine Query.run_bind_eq_ok.mpr ⟨.readOnly tokenDecimals, 4, ?_, ?_⟩
  · refine Query.run_bind_eq_ok.mpr ⟨tokenSnapshot, 2, tokenSnapshot_read 0, ?_⟩
    refine Query.run_attempt_bind_eq_ok.mpr ⟨(_, []), rfl, ?_⟩
    refine Query.run_bind_eq_ok.mpr ⟨tokenSimulation (Utf8.bytes "decimals"), 4,
      tokenSimulation_run [] (by decide +kernel), ?_⟩
    refine Query.run_attempt_bind_eq_ok.mpr ⟨(), by decide +kernel, ?_⟩
    refine Query.run_attempt_bind_eq_ok.mpr ⟨false, by decide +kernel, ?_⟩
    exact Query.run_attempt_bind_eq_ok.mpr ⟨tokenDecimals, tokenDecimals_decoded, rfl⟩
  · exact Query.run_attempt_bind_eq_ok.mpr
      ⟨(), ensure_eq_ok.mpr tokenCapabilities_compatible, rfl⟩

theorem ensureSameExecutable_self (executable : ContractExecutableObservation) :
    ensureSameExecutable executable executable = .ok () :=
  ensure_eq_ok.mpr rfl

theorem tokenTransfer_outcome
    {invoke : PreparedContractInvoke TransactionEnvelope (String × TaggedTransaction)}
    (h : tokenPrepared 8 = .ok (invoke, later)) :
    (prepareContractInvokeOutcome tokenClient
        (transferRequest tokenTransferRequest soleSignerWallet (.lit 5))).run tokenViews 4 =
      .ok (.transaction invoke, later) := by
  have hunits : toString (BoundedInt.lit 5 : I128).val = "5" := by decide +kernel
  have hrequest : transferRequest tokenTransferRequest soleSignerWallet (.lit 5) =
      tokenCallRequest := by
    rw [transferRequest, hunits]
    rfl
  rw [hrequest]
  refine Query.run_bind_eq_ok.mpr ⟨tokenSnapshot, 6, tokenSnapshot_read 4, ?_⟩
  refine Query.run_attempt_bind_eq_ok.mpr ⟨_, tokenCall_resolves, ?_⟩
  refine Query.run_bind_eq_ok.mpr ⟨tokenSimulation (Utf8.bytes "transfer"), 8,
    tokenSimulation_run tokenCall.args (by decide +kernel), ?_⟩
  refine Query.run_attempt_bind_eq_ok.mpr ⟨(), by decide +kernel, ?_⟩
  refine Query.run_attempt_bind_eq_ok.mpr ⟨true, by decide +kernel, ?_⟩
  exact Query.run_bind_eq_ok.mpr ⟨_, _, h, rfl⟩

theorem prepareTokenTransfer_shown_token :
    ∃ transfer, TransferShown tokenClient tokenTransferRequest tokenViews (Vector.replicate 32 0) 0
      transfer := by
  obtain ⟨invoke, later, hprepared⟩ :=
    tokenPrepared_eq_ok (show (tokenPrepared 8).isOk = true by decide +kernel)
  obtain ⟨simulated, last, contract, hash?, -, -, -, -, -, -, hreview⟩ :=
    prepareUnchanged_eq_ok hprepared
  let transfer : PreparedTokenTransfer TransactionEnvelope (String × TaggedTransaction) :=
    { token := tokenTransferRequest.token
      walletName := "main"
      walletAddress := soleSignerText
      destination := .string soleSignerText
      amountInput := "0.5"
      amount := ⟨.lit 5, .lit 1, formatFixedPoint (.lit 5) (.lit 1)⟩
      contract := invoke }
  suffices h : (prepareTokenTransfer tokenClient tokenTransferRequest).run tokenViews 0 =
      .ok (transfer, later) from
    ⟨transfer, prepareTokenTransfer_shown tokenContractId_eq tokenViews_nothingReturns h⟩
  -- the requests of the transfer in their order, the decimals at one view
  refine Query.run_attempt_bind_eq_ok.mpr ⟨soleSignerWallet, rfl, ?_⟩
  refine Query.run_bind_eq_ok.mpr ⟨some tokenDecimals, 4,
    Query.run_bind_eq_ok.mpr ⟨_, _, tokenDecimals_read, rfl⟩, ?_⟩
  refine Query.run_attempt_bind_eq_ok.mpr ⟨.lit 1, by decide +kernel, ?_⟩
  refine Query.run_attempt_bind_eq_ok.mpr ⟨.lit 5, by decide +kernel, ?_⟩
  refine Query.run_bind_eq_ok.mpr ⟨_, _, tokenTransfer_outcome hprepared, ?_⟩
  dsimp only
  rw [hreview]
  refine Query.run_attempt_bind_eq_ok.mpr ⟨(), ensure_eq_ok.mpr tokenCapabilities_compatible, ?_⟩
  refine Query.run_attempt_bind_eq_ok.mpr ⟨(), ensureSameExecutable_self _, ?_⟩
  refine Query.run_attempt_bind_eq_ok.mpr ⟨.string soleSignerText, rfl, ?_⟩
  refine Query.run_attempt_bind_eq_ok.mpr ⟨(), ensure_eq_ok.mpr rfl, ?_⟩
  exact Query.run_attempt_bind_eq_ok.mpr ⟨.string soleSignerText, rfl, rfl⟩

/-- A balance was answered by a view in which the contract ran the executable that is shown
with it. Its decimals were read later, and nothing is observed after them. -/
structure BalanceShown (client : ContractClient Bytes Digest) (request : TokenBalanceRequest)
    (views : ℕ → RpcView) (contract : Uint256) (now : ℕ) (result : TokenBalanceResult) : Prop where
  raw : parseI128Output client result.contract.output "balance" = .ok result.amount.raw
  shown : ∃ read simulated first, simulated < first ∧
    ReadBetween client (balanceRequest request) views contract now read simulated result.contract ∧
    ((views simulated).ledger.running client.gateway contract = .ok result.contract.executable ∨
      Redirected views contract now first) ∧
    ∃ read' simulated' decimals, simulated < read' ∧
      ReadBetween client (decimalsRequest request.token) views contract first read' simulated'
        decimals ∧
      parseU32Output client decimals.output "decimals" = .ok result.amount.decimals ∧
      decimals.executable = result.contract.executable

/-- The balance of a contract token comes from the executable that is shown with it. -/
theorem tokenBalance_shown {request : TokenBalanceRequest} {result : TokenBalanceResult}
    (hsource : request.token.source = .contract)
    (hcontract : client.gateway.contractId? request.token.contractId = some contract)
    (hstable : NothingReturns client.gateway views contract now later)
    (h : (tokenBalance client request).run views now = .ok (result, later)) :
    BalanceShown client request views contract now result := by
  obtain ⟨balance, first, hbalance, h⟩ := Query.run_bind_eq_ok.mp h
  obtain ⟨raw, hraw, h⟩ := Query.run_attempt_bind_eq_ok.mp h
  obtain ⟨decimals, last, hdecimals, h⟩ := Query.run_bind_eq_ok.mp h
  obtain ⟨owner, howner, h⟩ := Query.run_attempt_bind_eq_ok.mp h
  obtain ⟨rfl, rfl⟩ := Query.run_pure_eq_ok.mp h
  obtain ⟨-, read, simulated, hbefore, hbetween⟩ :=
    tokenRead_eq_ok (by exact hcontract) hbalance
  simp only [balanceDecimals, hsource] at hdecimals
  obtain ⟨found, mid, hfound, hdecimals⟩ := Query.run_bind_eq_ok.mp hdecimals
  obtain ⟨_, hsame, hdecimals⟩ := Query.run_attempt_bind_eq_ok.mp hdecimals
  obtain ⟨hparsed, rfl⟩ := Query.run_attempt_eq_ok.mp hdecimals
  have hexecutable : balance.executable = found.executable := ensure_eq_ok.mp hsame
  obtain ⟨-, read', simulated', hbefore', hbetween'⟩ :=
    tokenRead_eq_ok (by exact hcontract) hfound
  obtain ⟨hash?, hobserved⟩ := hbetween'.observed
  have hlt := hobserved.lt
  have hordered := hbetween'.ordered
  refine ⟨hraw, read, simulated, first, hbefore, hbetween, ?_, read', simulated', found, by omega,
    hbetween', hparsed, hexecutable.symm⟩
  exact hbetween.running hstable (hexecutable ▸ hobserved) hbefore (by omega)

end Fresnica.Contract
