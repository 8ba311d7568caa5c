import Fresnica.Soroban.Prepared
import Fresnica.Transaction.Submission

/-!
# Submitting a prepared Soroban transaction

A signed transaction is handed to the RPC gateway if its hash is still the bound
one, and its status is then polled. An outcome that stays unknown is remembered as
a pending transaction of the fee payer.

## Main definitions

* `RpcGateway` — the answers of the gateway during one call
* `sorobanHandOff` — the checks before the envelope is handed over
* `submitPreparedSoroban`

## Main results

* `sorobanHandOff_eq_ok` — what is handed over, and when
* `submitPreparedSoroban_items` — a submission adds no record but its own
-/

namespace Fresnica

open Foundation

inductive RpcSubmissionError
  | rejected (message : String)
  | uncertain (message : String)
  deriving DecidableEq, Repr

inductive RpcTransactionStatus
  | notFound
  | success (ledger : Option U64)
  | failed (ledger : Option U64) (details : String)
  deriving DecidableEq, Repr

def RpcTransactionStatus.isTerminal (status : RpcTransactionStatus) : Bool := status ≠ .notFound

/-- The gateway as one call sees it: its answer to a submission, and to each request
for a status. -/
structure RpcGateway where
  network : String
  submitTransaction : TransactionEnvelope → Except RpcSubmissionError String
  transactionStatus : (attempt : ℕ) → (txHash : String) → Except String RpcTransactionStatus

def submissionPollAttempts : ℕ := 30

/-- Ask for the status from the given attempt on, with so many attempts to follow. -/
def pollSubmission (rpc : RpcGateway) (txHash : String) (attempt following : ℕ) :
    SubmissionOutcome :=
  match rpc.transactionStatus attempt txHash with
  | .ok (.success ledger) => .accepted ⟨txHash, ledger⟩
  | .ok (.failed _ details) => .failed s!"Soroban transaction failed ({txHash}): {details}"
  | .ok .notFound =>
    match following with
    | 0 => .uncertain "Stellar RPC did not report a terminal transaction status in time"
    | following + 1 => pollSubmission rpc txHash (attempt + 1) following
  | .error message => .uncertain message

def sorobanOutcome (rpc : RpcGateway) (expectedHash : String) (envelope : TransactionEnvelope) :
    SubmissionOutcome :=
  match rpc.submitTransaction envelope with
  | .ok returnedHash =>
    if returnedHash ≠ expectedHash then
      .uncertain "Stellar RPC returned a different transaction hash"
    else pollSubmission rpc expectedHash 0 (submissionPollAttempts - 1)
  | .error (.rejected message) =>
    .failed s!"Soroban transaction rejected ({expectedHash}): {message}"
  | .error (.uncertain message) => .uncertain message

/-! ### The wallet of a write -/

def reconcilePendingSoroban (store : PendingTransactionStore) (rfc3339 : Rfc3339)
    (network : String) (wallet : WalletRecord)
    (status : String → Except String RpcTransactionStatus) (now : Instant) (save : SaveOutcome)
    (file : StoreFile) : Except String Unit × StoreFile :=
  store.reconcileWithAsync rfc3339 network wallet.address
    (fun txHash => (status txHash).map (·.isTerminal)) now save file

/-- The wallet of a contract call; a hash is looked up at the RPC gateway. -/
def resolveSorobanWallet (store : PendingTransactionStore) (rfc3339 : Rfc3339)
    (resolve : WalletResolver) (network : String) (name : Option String)
    (status : String → Except String RpcTransactionStatus) (now : Instant) (save : SaveOutcome) :
    StoreFile → Except String WalletRecord × StoreFile :=
  resolveReconciled resolve network name fun wallet =>
    reconcilePendingSoroban store rfc3339 network wallet status now save

/-! ### Submission -/

section Definitions

variable {Bytes Digest : Type} [DecidableEq Digest] (p : Primitives Bytes Digest)
variable (prepared : PreparedSorobanTransaction Bytes Digest)

/-- The envelope that is handed to a gateway of the network. -/
def sorobanHandOff (network : String) : Except String TransactionEnvelope := do
  ensure (prepared.envelopeSigningComplete = true)
    "Sign the authorized Soroban transaction before submission"
  ensure (network = prepared.review.network)
    "Soroban transaction network does not match RPC gateway"
  prepared.assertSubmitBinding p
  return prepared.envelope

variable (store : PendingTransactionStore) (rfc3339 : Rfc3339) (now : Instant)
variable (save : SaveOutcome) (file : StoreFile)

omit [DecidableEq Digest] in
def rememberUncertain (txHash message : String) :
    Except String TransactionSubmission × StoreFile :=
  match store.remember rfc3339 prepared.review.network prepared.review.feePayer txHash "soroban"
      now save file with
  | (.ok _, file) =>
    (.error (s!"Soroban transaction submission status is uncertain for {txHash}: {message}. " ++
      "A pending record was saved; Fresnica will reconcile this hash before allowing another " ++
      "write from the account."), file)
  | (.error persistError, file) =>
    (.error (s!"Soroban transaction submission status is uncertain for {txHash}: {message}. " ++
      s!"Fresnica could not persist pending-transaction protection: {persistError}. " ++
      "Do not retry until you verify the transaction hash manually."), file)

def submitPreparedSoroban (rpc : RpcGateway) : Except String TransactionSubmission × StoreFile :=
  match sorobanHandOff p prepared rpc.network with
  | .error error => (.error error, file)
  | .ok envelope =>
    let expectedHash := prepared.signingTransactionHashHex p
    match sorobanOutcome rpc expectedHash envelope with
    | .accepted submission => (.ok submission, file)
    | .failed message => (.error message, file)
    | .uncertain message =>
      rememberUncertain prepared store rfc3339 now save file expectedHash message

end Definitions

variable {Bytes Digest : Type} [DecidableEq Digest] {p : Primitives Bytes Digest}
variable {prepared : PreparedSorobanTransaction Bytes Digest} {network : String}
variable {envelope : TransactionEnvelope} {store : PendingTransactionStore} {rfc3339 : Rfc3339}
variable {now : Instant} {save : SaveOutcome} {file : StoreFile} {rpc : RpcGateway}
variable {item : PendingTransaction}

/-- An envelope is handed over once it is signed, to a gateway of its network, with
the hash that was bound. -/
theorem sorobanHandOff_eq_ok :
    sorobanHandOff p prepared network = .ok envelope ↔
      prepared.envelopeSigningComplete = true ∧ network = prepared.review.network ∧
        transactionHashBytes p prepared.envelope prepared.review.network =
          .ok prepared.signingTransactionHash ∧
        prepared.envelope = envelope := by
  simp only [sorobanHandOff, bind_eq_ok, ensure_eq_ok, exists_const,
    PreparedSorobanTransaction.assertSubmitBinding_eq_ok, pure_eq_ok, Except.ok.injEq]

/-- The records after a submission are those before, and its own if its outcome is
uncertain. -/
theorem submitPreparedSoroban_items
    (hhandOff : sorobanHandOff p prepared rpc.network = .ok envelope)
    (hmem : item ∈ (submitPreparedSoroban p prepared store rfc3339 now save file rpc).2.items) :
    item ∈ file.items ∨
      (sorobanOutcome rpc (prepared.signingTransactionHashHex p) envelope).isUncertain = true ∧
        item.RecordOf rfc3339 prepared.review.network prepared.review.feePayer
          (prepared.signingTransactionHashHex p) now := by
  simp only [submitPreparedSoroban, hhandOff] at hmem
  cases houtcome : sorobanOutcome rpc (prepared.signingTransactionHashHex p) envelope with
  | accepted submission | failed message =>
    rw [houtcome] at hmem
    exact Or.inl hmem
  | uncertain message =>
    have hremember : item ∈ (store.remember rfc3339 prepared.review.network
        prepared.review.feePayer (prepared.signingTransactionHashHex p) "soroban" now save
        file).2.items := by
      simp only [houtcome, rememberUncertain] at hmem
      split at hmem <;> rename_i hstore <;> rwa [hstore]
    exact (remember_items hremember).imp id fun h => ⟨rfl, h⟩

end Fresnica
