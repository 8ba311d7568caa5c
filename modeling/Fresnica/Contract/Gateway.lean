import Fresnica.Contract.Resolve
import Fresnica.Foundation.Queries
import Fresnica.Foundation.Utf8
import Fresnica.Soroban.Assemble
import Fresnica.Soroban.Submission
import Fresnica.Storage.WalletStorage

/-!
# Contracts at the RPC server

A contract runs Wasm code that it names by a hash or by a reference, or it is the contract of
a Stellar asset. The ledger changes between any two requests, so that each request is
answered by another view: the instance of a contract, the target of its reference and the
code are read at different moments.

What a reference leads to may be read after the contract was given another reference. An
executable that is observed twice was running in between, unless that has happened.

## Main definitions

* `ContractLedger`, `RpcView` — the ledger, and what the server answers for one request
* `RpcGateway.contractSpecSnapshot`, `RpcGateway.contractExecutableObservation`
* `ContractLedger.running` — the executable that a contract runs in a ledger
* `Observed` — the views that an observation was read from
* `Redirected` — a contract was given another reference
* `NothingReturns` — what is replaced in the ledger does not come back

## Main results

* `observed_of_observation`, `observed_of_snapshot` — what was read
* `Observed.running_between` — what ran between two equal observations
-/

namespace Fresnica.Contract

open Foundation

/-! ### The ledger -/

structure ContractExecutableExternalRef where
  executableOwner : ScAddress
  tag : List UInt8
  deriving DecidableEq, Repr

inductive ContractExecutable
  | stellarAsset
  | wasm (hash : Uint256)
  | externalRef (reference : ContractExecutableExternalRef)
  deriving DecidableEq, Repr

/-- The keys of the entries that are read; data is persistent. -/
inductive LedgerKey
  | contractCode (hash : Uint256)
  | contractData (contract : ScAddress) (key : ScVal)

inductive LedgerEntryData
  | contractCode (code : List UInt8)
  | contractData (val : ScVal)
  | other

structure SimulateHostFunctionResult where
  auth : List SorobanAuthorizationEntry
  xdr : ScVal

inductive ContractEventType
  | system
  | contract
  | diagnostic
  deriving DecidableEq, Repr

/-- An answer to a simulation, with what the client reads of its results and events. -/
structure ContractSimulation extends SimulateTransactionResponse where
  decodedResults : Except String (List SimulateHostFunctionResult)
  events : Except String (List ContractEventType)

/-- What the server knows: an entry is there or not, and a call has an outcome. -/
structure ContractLedger where
  verifyNetworkPassphrase : String → Except String Unit
  contractInstance : Uint256 → Except String ContractExecutable
  entries : LedgerKey → Option (List String)
  sequence : String → Except String I64
  sorobanInclusionFeeMode : String
  simulate : TransactionEnvelope → Except String ContractSimulation
  transactionStatus : String → Except String RpcTransactionStatus

/-- What one request meets: the ledger, unless the request fails. -/
structure RpcView where
  failure : Option String
  ledger : ContractLedger

/-- One request, with a description of its error. -/
def RpcView.request {α : Type} (describe : String → String)
    (read : ContractLedger → Except String α) (view : RpcView) : Except String α :=
  match view.failure with
  | some error => .error (describe error)
  | none => mapErr describe (read view.ledger)

theorem RpcView.request_eq_ok {α : Type} {describe : String → String}
    {read : ContractLedger → Except String α} {view : RpcView} {a : α}
    (h : view.request describe read = .ok a) : read view.ledger = .ok a := by
  rw [request] at h
  split at h
  · cases h
  · exact mapErr_eq_ok.mp h

/-! ### What is shown of a contract -/

inductive ContractExecutableKind
  | stellarAsset
  | wasm
  | externalRef
  deriving DecidableEq, Repr

def ContractExecutableKind.asStr : ContractExecutableKind → String
  | .stellarAsset => "stellar_asset"
  | .wasm => "wasm"
  | .externalRef => "external_ref"

structure ContractExecutableObservation where
  kind : ContractExecutableKind
  wasmHash : Option String
  deriving DecidableEq, Repr

structure ContractMetadataEntry where
  key : String
  value : String
  deriving DecidableEq, Repr

def ContractMetadataEntry.fromXdr (entry : List UInt8 × List UInt8) : ContractMetadataEntry :=
  ⟨fromUtf8Lossy entry.1, fromUtf8Lossy entry.2⟩

structure ContractSpecSnapshot where
  entries : List ScSpecEntry
  executable : ContractExecutableObservation
  metadata : List ContractMetadataEntry

/-- The spec and the metadata that the code of a contract carries. -/
structure WasmContractSpec where
  spec : List ScSpecEntry
  metaEntries : List (List UInt8 × List UInt8)

/-- What the gateway takes from other crates: the texts of contract ids, the decoder of
ledger entries, the spec in the code of a contract and that of asset contracts. -/
structure GatewayCrates where
  contractId? : String → Option Uint256
  ledgerEntryData : String → Except String LedgerEntryData
  wasmContractSpec : List UInt8 → Except String WasmContractSpec
  stellarAssetSpec : Except String (List ScSpecEntry)

/-! ### Reading entries -/

section Definitions

variable (crates : GatewayCrates)

/-- The Wasm code of a hash, in the answer of the server. -/
def codeEntry (hash : Uint256) (ledger : ContractLedger) : Except String (List String) :=
  .ok ((ledger.entries (.contractCode hash)).getD [])

/-- The target of a reference, in the answer of the server. -/
def referenceEntry (reference : ContractExecutableExternalRef) (ledger : ContractLedger) :
    Except String (List String) :=
  .ok ((ledger.entries (.contractData reference.executableOwner
    (.scalar (.executableTag reference.tag)))).getD [])

def readContractWasm (entries : List String) : Except String (List UInt8) := do
  let entry ← okOr entries.head? "Contract Wasm was not found"
  let data ← mapErr (fun error => s!"Unable to decode contract Wasm ledger entry: {error}")
    (crates.ledgerEntryData entry)
  match data with
  | .contractCode code => return code
  | _ => throw "Contract Wasm lookup returned the wrong ledger-entry type"

theorem size_toArray_of_length {bytes : List UInt8} (h : bytes.length = 32) :
    bytes.toArray.size = 32 := by
  rw [List.size_toArray]
  exact h

/-- The 32 bytes of a hash. -/
def wasmHash? (bytes : List UInt8) : Option Uint256 :=
  if h : bytes.length = 32 then some ⟨bytes.toArray, size_toArray_of_length h⟩ else none

def readReferenceHash (entries : List String) : Except String Uint256 := do
  let entry ← okOr entries.head? "Contract executable reference was not found"
  let data ← mapErr (fun error => s!"Unable to decode contract executable reference: {error}")
    (crates.ledgerEntryData entry)
  match data with
  | .contractData (.scalar (.bytes bytes)) =>
    okOr (wasmHash? bytes) "Contract executable reference is not a 32-byte Wasm hash"
  | .contractData _ => throw "Contract executable reference is not a Wasm hash"
  | _ => throw "Contract executable reference returned the wrong ledger-entry type"

/-- The hash that a reference leads to in a ledger. -/
def ContractLedger.referenceHash (ledger : ContractLedger)
    (reference : ContractExecutableExternalRef) : Except String Uint256 := do
  let entries ← referenceEntry reference ledger
  readReferenceHash crates entries

/-- The executable that a contract runs in a ledger, as it is shown. -/
def ContractLedger.running (ledger : ContractLedger) (contract : Uint256) :
    Except String ContractExecutableObservation := do
  let executable ← ledger.contractInstance contract
  match executable with
  | .stellarAsset => return ⟨.stellarAsset, none⟩
  | .wasm hash => return ⟨.wasm, some (hex hash.toList)⟩
  | .externalRef reference => do
    let hash ← ledger.referenceHash crates reference
    return ⟨.externalRef, some (hex hash.toList)⟩

end Definitions

/-! ### Requests -/

namespace RpcGateway

variable (crates : GatewayCrates)

def contractExecutable (contractId : String) : Query RpcView String ContractExecutable := do
  let contract ← Query.attempt (okOr (crates.contractId? contractId)
    s!"Invalid Stellar contract address: {contractId}")
  Query.ask (RpcView.request (fun error => s!"Unable to load contract {contractId}: {error}")
    fun ledger => ledger.contractInstance contract)

def resolveExternalRefWasmHash (reference : ContractExecutableExternalRef) :
    Query RpcView String Uint256 := do
  let entries ← Query.ask (RpcView.request
    (fun error => s!"Unable to load contract executable reference: {error}")
    (referenceEntry reference))
  Query.attempt (readReferenceHash crates entries)

def resolveContractExecutable : ContractExecutable →
    Query RpcView String (ContractExecutableObservation × Option Uint256)
  | .stellarAsset => pure (⟨.stellarAsset, none⟩, none)
  | .wasm hash => pure (⟨.wasm, some (hex hash.toList)⟩, some hash)
  | .externalRef reference => do
    let hash ← resolveExternalRefWasmHash crates reference
    return (⟨.externalRef, some (hex hash.toList)⟩, some hash)

def contractWasm (hash : Uint256) : Query RpcView String (List UInt8) := do
  let entries ← Query.ask (RpcView.request
    (fun error => s!"Unable to load contract Wasm from Stellar RPC: {error}") (codeEntry hash))
  Query.attempt (readContractWasm crates entries)

def parseWasmInterface (wasm : List UInt8) :
    Except String (List ScSpecEntry × List ContractMetadataEntry) := do
  let parsed ← mapErr (fun error => s!"Unable to parse contract interface: {error}")
    (crates.wasmContractSpec wasm)
  return (parsed.spec, parsed.metaEntries.map .fromXdr)

def contractWasmInterface (hash : Uint256) :
    Query RpcView String (List ScSpecEntry × List ContractMetadataEntry) := do
  let wasm ← contractWasm crates hash
  Query.attempt (parseWasmInterface crates wasm)

/-- The interface of the code, or that of asset contracts. -/
def contractCodeInterface : Option Uint256 →
    Query RpcView String (List ScSpecEntry × List ContractMetadataEntry)
  | some hash => contractWasmInterface crates hash
  | none => do
    let entries ← Query.attempt (mapErr
      (fun error => s!"Unable to read Stellar Asset Contract spec: {error}") crates.stellarAssetSpec)
    return (entries, [])

def contractSpecSnapshot (contractId : String) : Query RpcView String ContractSpecSnapshot := do
  let executable ← contractExecutable crates contractId
  let (observation, wasmHash) ← resolveContractExecutable crates executable
  let (entries, metadata) ← contractCodeInterface crates wasmHash
  return { entries, executable := observation, metadata }

def contractExecutableObservation (contractId : String) :
    Query RpcView String ContractExecutableObservation := do
  let executable ← contractExecutable crates contractId
  let (observation, _) ← resolveContractExecutable crates executable
  return observation

end RpcGateway

/-! ### What an observation was read from -/

variable {crates : GatewayCrates} {views : ℕ → RpcView} {contract : Uint256}
  {contractId : String} {observation : ContractExecutableObservation} {hash? : Option Uint256}
  {now later : ℕ}

/-- The observation was read from these views on: the instance first, and then the target of
its reference. The hash is that of the code. -/
inductive Observed (crates : GatewayCrates) (views : ℕ → RpcView) (contract : Uint256) (now : ℕ) :
    ContractExecutableObservation → Option Uint256 → ℕ → Prop
  | stellarAsset : (views now).ledger.contractInstance contract = .ok .stellarAsset →
      Observed crates views contract now ⟨.stellarAsset, none⟩ none (now + 1)
  | wasm (hash : Uint256) : (views now).ledger.contractInstance contract = .ok (.wasm hash) →
      Observed crates views contract now ⟨.wasm, some (hex hash.toList)⟩ (some hash) (now + 1)
  | externalRef (reference : ContractExecutableExternalRef) (hash : Uint256) :
      (views now).ledger.contractInstance contract = .ok (.externalRef reference) →
      (views (now + 1)).ledger.referenceHash crates reference = .ok hash →
      Observed crates views contract now ⟨.externalRef, some (hex hash.toList)⟩ (some hash)
        (now + 2)

theorem Observed.lt (h : Observed crates views contract now observation hash? later) :
    now < later := by
  cases h <;> omega

/-- The hash that is shown is the one of the code that is read. -/
theorem Observed.wasmHash_eq (h : Observed crates views contract now observation hash? later) :
    observation.wasmHash = hash?.map fun hash => hex hash.toList := by
  cases h <;> rfl

theorem observed_of_resolve {executable : ContractExecutable}
    (hinstance : (views now).ledger.contractInstance contract = .ok executable)
    (h : (RpcGateway.resolveContractExecutable crates executable).run views (now + 1) =
      .ok ((observation, hash?), later)) :
    Observed crates views contract now observation hash? later := by
  cases executable with
  | stellarAsset =>
    obtain ⟨hsame, rfl⟩ := Query.run_pure_eq_ok.mp h
    cases hsame
    exact .stellarAsset hinstance
  | wasm hash =>
    obtain ⟨hsame, rfl⟩ := Query.run_pure_eq_ok.mp h
    cases hsame
    exact .wasm hash hinstance
  | externalRef reference =>
    obtain ⟨hash, mid, hhash, h⟩ := Query.run_bind_eq_ok.mp h
    obtain ⟨hsame, rfl⟩ := Query.run_pure_eq_ok.mp h
    cases hsame
    obtain ⟨entries, hentries, hrest⟩ := Query.run_ask_bind_eq_ok.mp hhash
    obtain ⟨hread, rfl⟩ := Query.run_attempt_eq_ok.mp hrest
    refine .externalRef reference hash hinstance ?_
    exact bind_eq_ok.mpr ⟨entries, RpcView.request_eq_ok hentries, hread⟩

theorem contractExecutable_eq_ok {executable : ContractExecutable}
    (h : (RpcGateway.contractExecutable crates contractId).run views now =
      .ok (executable, later)) :
    ∃ contract, crates.contractId? contractId = some contract ∧
      (views now).ledger.contractInstance contract = .ok executable ∧ later = now + 1 := by
  obtain ⟨contract, hcontract, h⟩ := Query.run_attempt_bind_eq_ok.mp h
  obtain ⟨hinstance, rfl⟩ := Query.run_ask_eq_ok.mp h
  exact ⟨contract, okOr_eq_ok.mp hcontract, RpcView.request_eq_ok hinstance, rfl⟩

theorem observed_of_observation
    (h : (RpcGateway.contractExecutableObservation crates contractId).run views now =
      .ok (observation, later)) :
    ∃ contract hash?, crates.contractId? contractId = some contract ∧
      Observed crates views contract now observation hash? later := by
  obtain ⟨executable, mid, hexecutable, h⟩ := Query.run_bind_eq_ok.mp h
  obtain ⟨contract, hcontract, hinstance, rfl⟩ := contractExecutable_eq_ok hexecutable
  obtain ⟨⟨shown, hash?⟩, mid, hresolve, h⟩ := Query.run_bind_eq_ok.mp h
  obtain ⟨rfl, rfl⟩ := Query.run_pure_eq_ok.mp h
  exact ⟨contract, hash?, hcontract, observed_of_resolve hinstance hresolve⟩

/-- The interface was read from the code of the hash, or is that of asset contracts. -/
def InterfaceOf (crates : GatewayCrates) (views : ℕ → RpcView) (now : ℕ) (hash? : Option Uint256)
    (entries : List ScSpecEntry) (metadata : List ContractMetadataEntry) : Prop :=
  match hash? with
  | some hash => ∃ code wasm, codeEntry hash (views now).ledger = .ok code ∧
      readContractWasm crates code = .ok wasm ∧
      RpcGateway.parseWasmInterface crates wasm = .ok (entries, metadata)
  | none => crates.stellarAssetSpec = .ok entries ∧ metadata = []

theorem interfaceOf_of_code {entries : List ScSpecEntry} {metadata : List ContractMetadataEntry}
    (h : (RpcGateway.contractCodeInterface crates hash?).run views now =
      .ok ((entries, metadata), later)) :
    InterfaceOf crates views now hash? entries metadata := by
  cases hash? with
  | some hash =>
    obtain ⟨wasm, mid, hwasm, h⟩ := Query.run_bind_eq_ok.mp h
    obtain ⟨hparse, rfl⟩ := Query.run_attempt_eq_ok.mp h
    obtain ⟨code, hcode, hrest⟩ := Query.run_ask_bind_eq_ok.mp hwasm
    obtain ⟨hread, rfl⟩ := Query.run_attempt_eq_ok.mp hrest
    exact ⟨code, wasm, RpcView.request_eq_ok hcode, hread, hparse⟩
  | none =>
    obtain ⟨found, hfound, h⟩ := Query.run_attempt_bind_eq_ok.mp h
    obtain ⟨hsame, rfl⟩ := Query.run_pure_eq_ok.mp h
    cases hsame
    exact ⟨mapErr_eq_ok.mp hfound, rfl⟩

theorem observed_of_snapshot {snapshot : ContractSpecSnapshot}
    (h : (RpcGateway.contractSpecSnapshot crates contractId).run views now =
      .ok (snapshot, later)) :
    ∃ contract hash? mid, crates.contractId? contractId = some contract ∧
      Observed crates views contract now snapshot.executable hash? mid ∧ mid ≤ later ∧
      InterfaceOf crates views mid hash? snapshot.entries snapshot.metadata := by
  obtain ⟨executable, mid, hexecutable, h⟩ := Query.run_bind_eq_ok.mp h
  obtain ⟨contract, hcontract, hinstance, rfl⟩ := contractExecutable_eq_ok hexecutable
  obtain ⟨⟨shown, hash?⟩, mid, hresolve, h⟩ := Query.run_bind_eq_ok.mp h
  obtain ⟨⟨entries, metadata⟩, last, hcode, h⟩ := Query.run_bind_eq_ok.mp h
  obtain ⟨rfl, rfl⟩ := Query.run_pure_eq_ok.mp h
  exact ⟨contract, hash?, mid, hcontract, observed_of_resolve hinstance hresolve,
    Query.forward _ hcode, interfaceOf_of_code hcode⟩

/-! ### Between two observations -/

/-- What is replaced in the instance of the contract, or as the target of a reference, does not
come back between the two views. -/
structure NothingReturns (crates : GatewayCrates) (views : ℕ → RpcView) (contract : Uint256)
    (first last : ℕ) : Prop where
  executable : NeverReturns (fun view : RpcView => view.ledger.contractInstance contract) views
    first last
  reference : ∀ reference, NeverReturns
    (fun view : RpcView => view.ledger.referenceHash crates reference) views first last

/-- The contract had one reference in a view, and another one in a later view. -/
def Redirected (views : ℕ → RpcView) (contract : Uint256) (first last : ℕ) : Prop :=
  ∃ reference reference', reference ≠ reference' ∧
    (views first).ledger.contractInstance contract = .ok (.externalRef reference) ∧
    (views last).ledger.contractInstance contract = .ok (.externalRef reference')

theorem hashText_injective {hash hash' : Uint256}
    (h : some (hex hash.toList) = some (hex hash'.toList)) : hash = hash' :=
  Vector.toList_inj.mp (Storage.hex_injective (Option.some.inj h))

/-- What is observed at two moments was running in between, unless the contract was given
another reference, or what was replaced came back. -/
theorem Observed.running_between {first last firstLater lastLater between bound : ℕ}
    {hash?' : Option Uint256} (hstable : NothingReturns crates views contract first bound)
    (h : Observed crates views contract first observation hash? firstLater)
    (h' : Observed crates views contract last observation hash?' lastLater)
    (hbetween : firstLater ≤ between) (hlast : between < last) (hbound : lastLater ≤ bound) :
    (views between).ledger.running crates contract = .ok observation ∨
      Redirected views contract first last := by
  have hbefore := h.lt
  have hafter := h'.lt
  -- one executable at both moments is the one in between
  have hsame : ∀ executable, (views first).ledger.contractInstance contract = .ok executable →
      (views last).ledger.contractInstance contract = .ok executable →
      (views between).ledger.contractInstance contract = .ok executable := by
    intro executable hfirst hother
    rw [← hfirst]
    exact hstable.executable.eq_between (Nat.le_refl first) (by omega) hlast.le (by omega)
      (hfirst.trans hother.symm)
  cases h with
  | stellarAsset hinstance =>
    cases h' with
    | stellarAsset hinstance' =>
      left
      rw [ContractLedger.running, hsame _ hinstance hinstance']
      rfl
  | wasm hash hinstance =>
    generalize hshown : some (hex hash.toList) = shown at h'
    cases h' with
    | wasm hash' hinstance' =>
      obtain rfl := hashText_injective hshown
      left
      rw [ContractLedger.running, hsame _ hinstance hinstance', hshown]
      rfl
  | externalRef reference hash hinstance hreference =>
    generalize hshown : some (hex hash.toList) = shown at h'
    cases h' with
    | externalRef reference' hash' hinstance' hreference' =>
      obtain rfl := hashText_injective hshown
      by_cases hredirected : reference = reference'
      · subst hredirected
        left
        have htarget : (views between).ledger.referenceHash crates reference = .ok hash := by
          rw [← hreference]
          exact (hstable.reference reference).eq_between (by omega) (by omega) (by omega)
            (by omega) (hreference.trans hreference'.symm)
        rw [ContractLedger.running, hsame _ hinstance hinstance', ← hshown]
        simp only [ok_bind, htarget]
        rfl
      · exact .inr ⟨reference, reference', hredirected, hinstance, hinstance'⟩

end Fresnica.Contract
