import Fresnica.SigningCoordination.Providers
import Fresnica.Soroban.Prepared
import Fresnica.Transaction.Pending

/-!
# Signing and submitting Classic transactions

A prepared transaction is signed on a copy, encoded and handed to Horizon. An
outcome that stays unknown is remembered as a pending transaction of the wallet's
account. The records of pending transactions are consulted when a wallet is
resolved for a write, and not again at submission.

## Main definitions

* `resolveWriteWallet` — the wallet of a write, once its pending transactions are resolved
* `classicHandOff` — the checks before the envelope is handed over
* `submitSignedTransaction`, `signAndSubmit`, `signAndSubmitWithProviders`

## Main results

* `resolveReconciled_cases` — what finding the wallet of a write does
* `concludeSubmission_items` — a submission adds no record but its own, and that only
  if its outcome is uncertain
-/

namespace Fresnica

open Foundation

structure TransactionSubmission where
  hash : String
  ledger : Option U64
  deriving DecidableEq, Repr

/-- What is known about a submission when it returns. -/
inductive SubmissionOutcome
  | accepted (submission : TransactionSubmission)
  | failed (message : String)
  | uncertain (message : String)
  deriving DecidableEq, Repr

def SubmissionOutcome.isUncertain : SubmissionOutcome → Bool
  | .uncertain _ => true
  | .accepted _ | .failed _ => false

/-! ### The wallet of a write -/

/-- Finds a wallet by name, or the default one. -/
abbrev WalletResolver := Option String → Except String WalletRecord

def resolveNetworkWallet (resolve : WalletResolver) (network : String) (name : Option String) :
    Except String WalletRecord := do
  let record ← resolve name
  ensure (record.network = network)
    s!"wallet \"{record.name}\" is configured for {record.network}; invoke with --network {
      record.network}"
  return record

/-- The wallet of a write, once its pending transactions are reconciled. -/
def resolveReconciled (resolve : WalletResolver) (network : String) (name : Option String)
    (reconcile : WalletRecord → StoreFile → Except String Unit × StoreFile) (file : StoreFile) :
    Except String WalletRecord × StoreFile :=
  match resolveNetworkWallet resolve network name with
  | .error error => (.error error, file)
  | .ok record =>
    match reconcile record file with
    | (.error error, file) => (.error error, file)
    | (.ok _, file) => (.ok record, file)

/-- The wallet of a Classic write; a hash is looked up at Horizon. -/
def resolveWriteWallet {ρ : Type} (store : PendingTransactionStore) (rfc3339 : Rfc3339)
    (resolve : WalletResolver) (network : String) (name : Option String)
    (lookup : String → Except String (Option ρ)) (now : Instant) (save : SaveOutcome) :
    StoreFile → Except String WalletRecord × StoreFile :=
  resolveReconciled resolve network name fun record =>
    store.reconcileWith rfc3339 network record.address lookup now save

/-! ### Submission -/

inductive SubmissionError
  | rejected (message : String)
  | uncertain (message : String)
  deriving DecidableEq, Repr

/-- The fields of Horizon's answer that are read; either may be missing. -/
structure SubmissionResponse where
  hash : Option String
  ledger : Option U64
  deriving DecidableEq, Repr

/-- Horizon as one submission sees it. It is sent the bytes in base 64. -/
structure HorizonSubmission (Bytes : Type) where
  submitTransaction : Bytes → Except SubmissionError SubmissionResponse

def classicOutcome {Bytes : Type} (horizon : HorizonSubmission Bytes) (txHash : String)
    (encoded : Bytes) : SubmissionOutcome :=
  match horizon.submitTransaction encoded with
  | .ok response => .accepted ⟨response.hash.getD txHash, response.ledger⟩
  | .error (.rejected message) => .failed s!"Transaction rejected ({txHash}): {message}"
  | .error (.uncertain message) => .uncertain message

/-- The readings of the clock during a submission. -/
structure SubmissionClock where
  signing : Instant
  submitting : Instant
  remembering : Instant

section Definitions

variable {Bytes Digest : Type} (p : Primitives Bytes Digest) (sdk : TransactionSdk Bytes Digest)
variable (store : PendingTransactionStore) (rfc3339 : Rfc3339)

/-- The hash and the bytes that are handed to Horizon. -/
def classicHandOff (network : String) (now : Instant) (envelope : TransactionEnvelope) :
    Except String (String × Bytes) := do
  ensureTransactionNotExpired envelope now
  let passphrase ← networkPassphrase network
  let txHash ← mapErr (fun error => s!"Unable to hash signed transaction: {error.message}")
    (transactionHash p envelope passphrase)
  let encoded ← mapErr (fun error => s!"Unable to encode signed transaction: {error}")
    (transactionXdrBytes p envelope)
  return (hex (p.digestBytes txHash), encoded)

/-- The answer to the caller once a submission is over. -/
def concludeSubmission (network account txHash : String) (now : Instant) (save : SaveOutcome)
    (file : StoreFile) : SubmissionOutcome → Except String TransactionSubmission × StoreFile
  | .accepted submission => (.ok submission, file)
  | .failed message => (.error message, file)
  | .uncertain message =>
    match store.remember rfc3339 network account txHash "transaction" now save file with
    | (.ok _, file) =>
      (.error (s!"Transaction submission status is uncertain for {txHash}: {message}. " ++
        "A pending record was saved; Fresnica will check this hash before allowing another " ++
        "write from the account."), file)
    | (.error persistError, file) =>
      (.error (s!"Transaction submission status is uncertain for {txHash}: {message}. " ++
        s!"Fresnica could not persist pending-transaction protection: {persistError}. " ++
        "Do not retry until you verify the transaction hash manually."), file)

def submitSignedTransaction (horizon : HorizonSubmission Bytes) (clock : SubmissionClock)
    (save : SaveOutcome) (record : WalletRecord) (network : String)
    (envelope : TransactionEnvelope) (file : StoreFile) :
    Except String TransactionSubmission × StoreFile :=
  match classicHandOff p network clock.submitting envelope with
  | .error error => (.error error, file)
  | .ok (txHash, encoded) =>
    concludeSubmission store rfc3339 network record.address txHash clock.remembering save file
      (classicOutcome horizon txHash encoded)

/-- The envelope signed by local signers. -/
def signedLocally (loadPlan : PlanLoader) (wallets : WalletList) (now : Instant)
    (network passcode : String) (envelope : TransactionEnvelope) :
    Except String TransactionEnvelope := do
  ensureTransactionNotExpired envelope now
  let authorization ← loadPlan envelope
  let (result, signed) := signWithLocalEd25519 p sdk authorization network wallets passcode envelope
  result
  return signed

/-- The envelope signed by any signers. -/
def signedWithProviders (loadPlan : PlanLoader) (access : SignerAccess Bytes Digest)
    (now : Instant) (network : String) (envelope : TransactionEnvelope) :
    Except String TransactionEnvelope := do
  ensureTransactionNotExpired envelope now
  let authorization ← loadPlan envelope
  let (result, signed) := signWithEd25519Providers p sdk authorization network access envelope
  result
  return signed

def signAndSubmit (loadPlan : PlanLoader) (wallets : WalletList)
    (horizon : HorizonSubmission Bytes) (clock : SubmissionClock) (save : SaveOutcome)
    (record : WalletRecord) (network passcode : String) (envelope : TransactionEnvelope)
    (file : StoreFile) : Except String TransactionSubmission × StoreFile :=
  match signedLocally p sdk loadPlan wallets clock.signing network passcode envelope with
  | .error error => (.error error, file)
  | .ok signed =>
    submitSignedTransaction p store rfc3339 horizon clock save record network signed file

def signAndSubmitWithProviders (loadPlan : PlanLoader) (access : SignerAccess Bytes Digest)
    (horizon : HorizonSubmission Bytes) (clock : SubmissionClock) (save : SaveOutcome)
    (record : WalletRecord) (network : String) (envelope : TransactionEnvelope)
    (file : StoreFile) : Except String TransactionSubmission × StoreFile :=
  match signedWithProviders p sdk loadPlan access clock.signing network envelope with
  | .error error => (.error error, file)
  | .ok signed =>
    submitSignedTransaction p store rfc3339 horizon clock save record network signed file

end Definitions

/-! ### What submissions do to the records -/

variable {Bytes Digest : Type} {p : Primitives Bytes Digest} {store : PendingTransactionStore}
variable {rfc3339 : Rfc3339} {network account txHash kind : String} {now : Instant}
variable {save : SaveOutcome} {file file' : StoreFile} {item : PendingTransaction}
variable {resolve : WalletResolver} {name : Option String}

/-- The record is of the transaction, made at the time. -/
structure PendingTransaction.RecordOf (rfc3339 : Rfc3339) (network account txHash : String)
    (now : Instant) (item : PendingTransaction) : Prop where
  network_eq : item.network = network
  account_eq : item.account = account
  txHash_eq : item.txHash = txHash
  submittedAt_eq : rfc3339.parse item.submittedAt = some now

/-- Remembering a transaction adds its record, and no other. -/
theorem remember_items (hmem : item ∈
      (store.remember rfc3339 network account txHash kind now save file).2.items) :
    item ∈ file.items ∨ item.RecordOf rfc3339 network account txHash now := by
  unfold PendingTransactionStore.remember at hmem
  split at hmem
  · exact Or.inl hmem
  rename_i submittedAt hformat
  cases hput : store.put ⟨network, account, txHash, kind, submittedAt⟩ save file with
  | mk r file' =>
    rw [hput] at hmem
    rcases PendingTransactionStore.put_cases hput with ⟨e, -, rfl⟩ | ⟨-, hitems⟩
    · exact Or.inl hmem
    · rw [hitems, List.mem_append, List.mem_filter, List.mem_singleton] at hmem
      rcases hmem with ⟨hmem, -⟩ | rfl
      · exact Or.inl hmem
      · exact Or.inr ⟨rfl, rfl, rfl, rfc3339.parse_format hformat⟩

/-- The records after a submission are those before, and its own if its outcome is
uncertain. -/
theorem concludeSubmission_items {outcome : SubmissionOutcome} (hmem : item ∈
      (concludeSubmission store rfc3339 network account txHash now save file outcome).2.items) :
    item ∈ file.items ∨ outcome.isUncertain = true ∧
      item.RecordOf rfc3339 network account txHash now := by
  cases outcome with
  | accepted submission | failed message => exact Or.inl hmem
  | uncertain message =>
    have hremember : item ∈
        (store.remember rfc3339 network account txHash "transaction" now save file).2.items := by
      simp only [concludeSubmission] at hmem
      split at hmem <;> rename_i hstore <;> rwa [hstore]
    exact (remember_items hremember).imp id fun h => ⟨rfl, h⟩

/-- What finding the wallet of a write does to the records, and when it succeeds. -/
theorem resolveReconciled_cases {result : Except String WalletRecord}
    {reconcile : WalletRecord → StoreFile → Except String Unit × StoreFile}
    (h : resolveReconciled resolve network name reconcile file = (result, file')) :
    (∃ e, result = .error e) ∧ file' = file ∨
      ∃ record r, resolveNetworkWallet resolve network name = .ok record ∧
        reconcile record file = (r, file') ∧ (∀ wallet, result = .ok wallet →
          wallet = record ∧ r = .ok ()) := by
  unfold resolveReconciled at h
  split at h
  · obtain ⟨rfl, rfl⟩ := Prod.mk.inj h
    exact Or.inl ⟨⟨_, rfl⟩, rfl⟩
  rename_i record hresolve
  split at h
  · rename_i hreconcile
    obtain ⟨rfl, rfl⟩ := Prod.mk.inj h
    exact Or.inr ⟨record, _, hresolve, hreconcile, by simp⟩
  · rename_i hreconcile
    obtain ⟨rfl, rfl⟩ := Prod.mk.inj h
    exact Or.inr ⟨record, _, hresolve, hreconcile, fun wallet hwallet =>
      ⟨(Except.ok.inj hwallet).symm, rfl⟩⟩

end Fresnica
