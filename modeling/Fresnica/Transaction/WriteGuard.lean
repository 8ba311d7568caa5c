import Fresnica.Soroban.Lifecycle
import Fresnica.Transaction.Protection

/-!
# One unresolved write at a time

A client prepares Classic and Soroban transactions, changes and signs the Soroban
ones in place, and submits any of them at any time. The records of uncertain
submissions are consulted when a transaction is prepared and at no other time. So
no write leaves the client next to an unresolved one as long as none of its account
turned out uncertain between the preparation and the hand-over, or has been settled
since; a transaction prepared earlier than that is handed over all the same.

## Main definitions

* `WriteGuard` — where the pending hashes are looked up before a write
* `WriteState`, `WriteEvent`, `WriteStep` — the client's runs
* `HandOver.Alone` — nothing else of the account is unresolved at a hand-over
* `uncertainSince` — what turned out uncertain since a transaction was prepared
* `HandedOverFresh` — nothing of that is unsettled at a hand-over

## Main results

* `writeStep_invariant` — the records of an account are those of `uncertainSince`
* `handOver_alone` — the runs in which every hand-over is alone
* `second_write_handed_over` — a run in which one is not
-/

namespace Fresnica

open Foundation

/-! ### The guard -/

/-- Where a hash is looked up before a write; of a Horizon answer only its presence
is read. -/
inductive WriteGuard
  | horizon (getTransaction : String → Except String (Option String))
  | rpc (transactionStatus : String → Except String RpcTransactionStatus)

namespace WriteGuard

/-- Whether the transaction is reported as confirmed or terminal. -/
def lookup : WriteGuard → String → Except String Bool
  | .horizon getTransaction => fun txHash => (getTransaction txHash).map Option.isSome
  | .rpc transactionStatus => fun txHash => (transactionStatus txHash).map (·.isTerminal)

/-- The pending hashes of the account that are reported, up to the first lookup that
fails. -/
def reported (guard : WriteGuard) (store : PendingTransactionStore) (network account : String)
    (file : StoreFile) : List String :=
  match store.load file with
  | .error _ => []
  | .ok items =>
    ((items.filter (·.isOf network account)).map (·.txHash)).takeWhile
      (fun txHash => (guard.lookup txHash).isOk)
    |>.filter fun txHash => (guard.lookup txHash).toOption = some true

variable (store : PendingTransactionStore) (rfc3339 : Rfc3339) (resolve : WalletResolver)
variable (network : String) (name : Option String) (now : Instant) (save : SaveOutcome)

def resolveWallet : WriteGuard → StoreFile → Except String WalletRecord × StoreFile
  | .horizon getTransaction =>
    resolveWriteWallet store rfc3339 resolve network name getTransaction now save
  | .rpc transactionStatus =>
    resolveSorobanWallet store rfc3339 resolve network name transactionStatus now save

theorem resolveWallet_eq (guard : WriteGuard) :
    guard.resolveWallet store rfc3339 resolve network name now save =
      resolveReconciled resolve network name fun record =>
        store.reconcile rfc3339 network record.address guard.lookup now save := by
  cases guard <;> rfl

end WriteGuard

/-! ### Classic submissions -/

inductive ClassicSigning (Bytes Digest : Type)
  | localSigners (wallets : WalletList) (passcode : String)
  | providers (access : SignerAccess Bytes Digest)

/-- One submission of a Classic transaction, with everything it meets. -/
structure ClassicCall (Bytes Digest : Type) where
  sdk : TransactionSdk Bytes Digest
  loadPlan : PlanLoader
  signing : ClassicSigning Bytes Digest
  horizon : HorizonSubmission Bytes
  clock : SubmissionClock
  save : SaveOutcome

namespace ClassicCall

variable {Bytes Digest : Type} (p : Primitives Bytes Digest) (call : ClassicCall Bytes Digest)

def signed (network : String) (envelope : TransactionEnvelope) :
    Except String TransactionEnvelope :=
  match call.signing with
  | .localSigners wallets passcode =>
    signedLocally p call.sdk call.loadPlan wallets call.clock.signing network passcode envelope
  | .providers access =>
    signedWithProviders p call.sdk call.loadPlan access call.clock.signing network envelope

/-- The hash and the bytes the call hands over. -/
def handOff (network : String) (envelope : TransactionEnvelope) : Except String (String × Bytes) :=
  call.signed p network envelope >>= classicHandOff p network call.clock.submitting

def submit (store : PendingTransactionStore) (rfc3339 : Rfc3339) (network : String)
    (wallet : WalletRecord) (envelope : TransactionEnvelope) (file : StoreFile) :
    Except String TransactionSubmission × StoreFile :=
  match call.signing with
  | .localSigners wallets passcode =>
    signAndSubmit p call.sdk store rfc3339 call.loadPlan wallets call.horizon call.clock call.save
      wallet network passcode envelope file
  | .providers access =>
    signAndSubmitWithProviders p call.sdk store rfc3339 call.loadPlan access call.horizon
      call.clock call.save wallet network envelope file

variable {p} {call} {store : PendingTransactionStore} {rfc3339 : Rfc3339}
variable {network txHash : String} {wallet : WalletRecord} {envelope : TransactionEnvelope}
variable {file : StoreFile} {encoded : Bytes} {item : PendingTransaction}

/-- Either way of signing ends in the same submission. -/
theorem submit_eq :
    call.submit p store rfc3339 network wallet envelope file =
      match call.handOff p network envelope with
      | .error error => (.error error, file)
      | .ok (txHash, encoded) =>
        concludeSubmission store rfc3339 network wallet.address txHash call.clock.remembering
          call.save file (classicOutcome call.horizon txHash encoded) := by
  unfold submit handOff signed
  cases call.signing with
  | localSigners wallets passcode =>
    unfold signAndSubmit submitSignedTransaction
    dsimp only
    cases signedLocally p call.sdk call.loadPlan wallets call.clock.signing network passcode
      envelope <;> rfl
  | providers access =>
    unfold signAndSubmitWithProviders submitSignedTransaction
    dsimp only
    cases signedWithProviders p call.sdk call.loadPlan access call.clock.signing network
      envelope <;> rfl

theorem submit_items (h : call.handOff p network envelope = .ok (txHash, encoded))
    (hmem : item ∈ (call.submit p store rfc3339 network wallet envelope file).2.items) :
    item ∈ file.items ∨ (classicOutcome call.horizon txHash encoded).isUncertain = true ∧
      item.RecordOf rfc3339 network wallet.address txHash call.clock.remembering := by
  rw [submit_eq, h] at hmem
  exact concludeSubmission_items hmem

end ClassicCall

/-! ### Runs of the client -/

/-- A transaction that was prepared and can be submitted. -/
inductive PreparedWrite (Bytes Digest : Type)
  | classic (network : String) (wallet : WalletRecord) (envelope : TransactionEnvelope)
  | soroban (prepared : PreparedSorobanTransaction Bytes Digest)

namespace PreparedWrite

variable {Bytes Digest : Type}

def network : PreparedWrite Bytes Digest → String
  | .classic network _ _ => network
  | .soroban prepared => prepared.review.network

def account : PreparedWrite Bytes Digest → String
  | .classic _ wallet _ => wallet.address
  | .soroban prepared => prepared.review.feePayer

end PreparedWrite

structure WriteState (Bytes Digest : Type) where
  file : StoreFile
  writes : List (PreparedWrite Bytes Digest)

/-- A transaction is handed to Horizon or to the RPC gateway, next to the records of
that moment; its outcome may be uncertain, and is then remembered. -/
structure HandOver where
  write : ℕ
  network : String
  account : String
  txHash : String
  time : Instant
  file : StoreFile
  uncertain : Bool
  remembering : Instant

inductive WriteEvent
  /-- A preparation got reports of pending hashes of the account, and may have made a
  transaction. -/
  | prepare (network account : String) (reported : List String) (made : Option ℕ)
  | change (event : SorobanEvent)
  | handOver (handOver : HandOver)

section Step

variable {Bytes Digest EntryBytes : Type}
variable [DecidableEq Bytes] [DecidableEq Digest] [DecidableEq EntryBytes]

/-- One call. A preparation makes any transaction of the resolved wallet's account, or
none; a call that hands nothing over changes nothing and is not a step. -/
inductive WriteStep (p : Primitives Bytes Digest) (codec : AuthorizationCodec EntryBytes)
    (store : PendingTransactionStore) (rfc3339 : Rfc3339) :
    WriteState Bytes Digest → WriteEvent → WriteState Bytes Digest → Prop
  | prepare {s : WriteState Bytes Digest} {file : StoreFile} {wallet : WalletRecord}
      {result : Except String WalletRecord} (guard : WriteGuard) (resolve : WalletResolver)
      (network : String) (name : Option String) (now : Instant) (save : SaveOutcome)
      (made : Option (PreparedWrite Bytes Digest)) :
      resolveNetworkWallet resolve network name = .ok wallet →
      guard.resolveWallet store rfc3339 resolve network name now save s.file = (result, file) →
      (∀ write ∈ made, result = .ok wallet ∧ write.network = network ∧
        write.account = wallet.address) →
      WriteStep p codec store rfc3339 s
        (.prepare network wallet.address
          (guard.reported store network wallet.address s.file) (made.map fun _ => s.writes.length))
        ⟨file, s.writes ++ made.toList⟩
  | change {s : WriteState Bytes Digest} {write : ℕ} {event : SorobanEvent}
      {prepared prepared' : PreparedSorobanTransaction Bytes Digest} :
      s.writes[write]? = some (.soroban prepared) →
      SorobanStep p codec prepared event prepared' →
      WriteStep p codec store rfc3339 s (.change event)
        ⟨s.file, s.writes.set write (.soroban prepared')⟩
  | submitClassic {s : WriteState Bytes Digest} {write : ℕ} {network txHash : String}
      {wallet : WalletRecord} {envelope : TransactionEnvelope} {encoded : Bytes}
      (call : ClassicCall Bytes Digest) :
      s.writes[write]? = some (.classic network wallet envelope) →
      call.handOff p network envelope = .ok (txHash, encoded) →
      WriteStep p codec store rfc3339 s
        (.handOver ⟨write, network, wallet.address, txHash, call.clock.submitting, s.file,
          (classicOutcome call.horizon txHash encoded).isUncertain, call.clock.remembering⟩)
        ⟨(call.submit p store rfc3339 network wallet envelope s.file).2, s.writes⟩
  | submitSoroban {s : WriteState Bytes Digest} {write : ℕ} {envelope : TransactionEnvelope}
      {prepared : PreparedSorobanTransaction Bytes Digest} (rpc : RpcGateway)
      (submitting remembering : Instant) (save : SaveOutcome) :
      s.writes[write]? = some (.soroban prepared) →
      sorobanHandOff p prepared rpc.network = .ok envelope →
      WriteStep p codec store rfc3339 s
        (.handOver ⟨write, prepared.review.network, prepared.review.feePayer,
          prepared.signingTransactionHashHex p, submitting, s.file,
          (sorobanOutcome rpc (prepared.signingTransactionHashHex p) envelope).isUncertain,
          remembering⟩)
        ⟨(submitPreparedSoroban p prepared store rfc3339 remembering save s.file rpc).2, s.writes⟩

end Step

/-! ### Unresolved writes -/

/-- The record is younger than the time to live, and no lookup so far has reported its
hash. -/
def Unresolved (store : PendingTransactionStore) (rfc3339 : Rfc3339) (history : List WriteEvent)
    (now : Instant) (item : PendingTransaction) : Prop :=
  pendingAgeSeconds rfc3339 item now < store.ttlSeconds ∧
    ∀ reported made, .prepare item.network item.account reported made ∈ history →
      item.txHash ∉ reported

/-- No other transaction of the account is unresolved at a hand-over. -/
def HandOver.Alone (store : PendingTransactionStore) (rfc3339 : Rfc3339)
    (history : List WriteEvent) (handOver : HandOver) : Prop :=
  ¬ ∃ item ∈ handOver.file.items, item.isOf handOver.network handOver.account = true ∧
    item.txHash ≠ handOver.txHash ∧ Unresolved store rfc3339 history handOver.time item

/-- What an event adds to the submissions of the account that turned out uncertain
since a transaction was prepared. -/
def noteUncertain (write : ℕ) (network account : String) (notes : List (String × Instant)) :
    WriteEvent → List (String × Instant)
  | .prepare _ _ _ made => if made = some write then [] else notes
  | .change _ => notes
  | .handOver h =>
    if h.uncertain = true ∧ h.network = network ∧ h.account = account then
      (h.txHash, h.remembering) :: notes
    else notes

/-- The submissions of the account that turned out uncertain since a transaction was
prepared, with the time they were remembered. -/
def uncertainSince (write : ℕ) (network account : String) (history : List WriteEvent) :
    List (String × Instant) :=
  history.foldl (noteUncertain write network account) []

/-- Every transaction is handed over while any other one of its account that turned
out uncertain since it was prepared is older than the time to live or reported. -/
def HandedOverFresh (store : PendingTransactionStore) (events : List WriteEvent) : Prop :=
  ∀ before h after, events = before ++ .handOver h :: after →
    ∀ txHash remembered, (txHash, remembered) ∈ uncertainSince h.write h.network h.account before →
      txHash ≠ h.txHash → wholeSeconds (h.time - remembered) < store.ttlSeconds →
        ∃ reported made, .prepare h.network h.account reported made ∈ before ∧ txHash ∈ reported

variable {Bytes Digest EntryBytes : Type} {p : Primitives Bytes Digest}
variable {codec : AuthorizationCodec EntryBytes} {store : PendingTransactionStore}
variable {rfc3339 : Rfc3339} {s s' : WriteState Bytes Digest} {events : List WriteEvent}
variable {event : WriteEvent} {write : ℕ} {network account : String} {file : StoreFile}

theorem uncertainSince_append :
    uncertainSince write network account (events ++ [event]) =
      noteUncertain write network account (uncertainSince write network account events) event := by
  simp [uncertainSince]

/-- The records of a prepared transaction's account are all of submissions that turned
out uncertain since. -/
def RecordsNoted (rfc3339 : Rfc3339) (history : List WriteEvent) (s : WriteState Bytes Digest) :
    Prop :=
  ∀ id write, s.writes[id]? = some write → ∀ item ∈ s.file.items,
    item.isOf write.network write.account = true →
      ∃ remembered, rfc3339.parse item.submittedAt = some remembered ∧
        (item.txHash, remembered) ∈ uncertainSince id write.network write.account history

/-- A hand-over that adds at most its own record, and notes it. -/
theorem recordsNoted_handOver {h : HandOver} (hnoted : RecordsNoted rfc3339 events s)
    (hitems : ∀ item ∈ file.items, item ∈ s.file.items ∨ h.uncertain = true ∧
      item.RecordOf rfc3339 h.network h.account h.txHash h.remembering) :
    RecordsNoted rfc3339 (events ++ [.handOver h]) ⟨file, s.writes⟩ := by
  intro id write hwrite item hmem hof
  rw [uncertainSince_append, noteUncertain]
  rcases hitems item hmem with hold | ⟨huncertain, hnetwork, haccount, hhash, htime⟩
  · obtain ⟨remembered, hparse, hin⟩ := hnoted id write hwrite item hold hof
    refine ⟨remembered, hparse, ?_⟩
    split_ifs
    · exact List.mem_cons_of_mem _ hin
    · exact hin
  · obtain ⟨hn, ha⟩ := PendingTransaction.isOf_iff.mp hof
    rw [if_pos ⟨huncertain, hnetwork.symm.trans hn, haccount.symm.trans ha⟩, hhash]
    exact ⟨h.remembering, htime, List.mem_cons_self⟩

variable [DecidableEq Bytes] [DecidableEq Digest]

/-- The calls on a prepared Soroban transaction keep its review. -/
theorem review_of_sorobanStep [DecidableEq EntryBytes] {sorobanEvent : SorobanEvent}
    {prepared prepared' : PreparedSorobanTransaction Bytes Digest}
    (h : SorobanStep p codec prepared sorobanEvent prepared') :
    prepared'.review = prepared.review := by
  cases h with
  | authorize sdk wallets passcode systemAuthProviders hcall =>
    rcases authorizePreparedSoroban_cases hcall with
      ⟨-, rfl⟩ | ⟨-, -, _, -, ⟨-, rfl⟩ | ⟨_, -, ⟨-, rfl⟩ | ⟨-, _, -, rfl⟩⟩⟩ <;> rfl
  | sign sdk loadPlan access now hcall =>
    rcases signPreparedSorobanWithProviders_cases hcall with
      ⟨_, _, -, rfl⟩ | ⟨-, -, -, _, rfl⟩ <;> rfl
  | submit rpc => rfl
  | replace envelope => rfl

variable [DecidableEq EntryBytes]

/-- One call keeps the records of every prepared transaction's account noted. -/
theorem writeStep_invariant (hnoted : RecordsNoted rfc3339 events s)
    (hstep : WriteStep p codec store rfc3339 s event s') :
    RecordsNoted rfc3339 (events ++ [event]) s' := by
  cases hstep with
  | @prepare file wallet result guard resolve network name now save made hresolve hguard
      hmade =>
    rw [WriteGuard.resolveWallet_eq] at hguard
    -- the guard may remove records before a preparation, but it adds none
    have hkept : ∀ item ∈ file.items, item ∈ s.file.items := by
      rcases resolveReconciled_cases hguard with ⟨-, rfl⟩ | ⟨record, r, -, hreconcile, -⟩
      · exact fun item hmem => hmem
      · exact fun item hmem => PendingTransactionStore.reconcile_removes_only hreconcile hmem
    intro id write hwrite item hmem hof
    rw [uncertainSince_append, noteUncertain]
    cases made with
    | none =>
      rw [Option.toList_none, List.append_nil] at hwrite
      exact hnoted id write hwrite item (hkept item hmem) hof
    | some new =>
      rcases Nat.lt_trichotomy id s.writes.length with hid | rfl | hid
      · rw [List.getElem?_append_left hid] at hwrite
        rw [Option.map_some, if_neg (by simpa using hid.ne')]
        exact hnoted id write hwrite item (hkept item hmem) hof
      · -- the new transaction: its account has no record left
        obtain rfl : new = write := by simpa using hwrite
        obtain ⟨rfl, hnetwork, haccount⟩ := hmade new rfl
        rcases resolveReconciled_cases hguard with ⟨⟨e, he⟩, -⟩ | ⟨record, r, -, hreconcile, hok⟩
        · exact absurd he (by simp)
        · obtain ⟨rfl, rfl⟩ := hok wallet rfl
          have hclear := PendingTransactionStore.reconcile_ok_clear hreconcile hmem
          rw [hnetwork, haccount, hclear] at hof
          exact absurd hof (by simp)
      · have hnone : (s.writes ++ [new])[id]? = none := by
          rw [List.getElem?_eq_none_iff, List.length_append, List.length_singleton]
          omega
        exact absurd (hnone.symm.trans hwrite) (by simp)
  | @change changed sorobanEvent prepared prepared' hprepared hsoroban =>
    intro id write hwrite item hmem hof
    rw [uncertainSince_append, noteUncertain]
    by_cases hid : changed = id
    · subst hid
      have hlt : changed < s.writes.length := (List.getElem?_eq_some_iff.mp hprepared).1
      obtain rfl : PreparedWrite.soroban prepared' = write := by
        simpa [List.getElem?_set_self hlt] using hwrite
      -- the network and the account of a prepared transaction do not change
      have hreview := review_of_sorobanStep hsoroban
      simp only [PreparedWrite.network, PreparedWrite.account, hreview] at hof ⊢
      exact hnoted changed _ hprepared item hmem hof
    · rw [List.getElem?_set_ne hid] at hwrite
      exact hnoted id write hwrite item hmem hof
  | submitClassic call hwrite hhandOff =>
    exact recordsNoted_handOver hnoted fun item => ClassicCall.submit_items hhandOff
  | submitSoroban rpc submitting remembering save hwrite hhandOff =>
    exact recordsNoted_handOver hnoted fun item => submitPreparedSoroban_items hhandOff

theorem recordsNoted_of_run (hrun : Run (WriteStep p codec store rfc3339) ⟨file, []⟩ events s) :
    RecordsNoted rfc3339 events s :=
  hrun.history (P := RecordsNoted rfc3339) (by simp [RecordsNoted])
    fun _ _ _ _ _ hnoted hstep => writeStep_invariant hnoted hstep

/-- In a run whose transactions are all handed over fresh, every one of them is handed
over alone. -/
theorem handOver_alone (hrun : Run (WriteStep p codec store rfc3339) ⟨file, []⟩ events s)
    (hfresh : HandedOverFresh store events) :
    ∀ before h after, events = before ++ .handOver h :: after →
      h.Alone store rfc3339 before := by
  rintro before h after rfl ⟨item, hmem, hof, hother, hage, hunreported⟩
  obtain ⟨t, _, hbefore, hstep, -⟩ := hrun.split
  have hnoted : ∃ remembered, rfc3339.parse item.submittedAt = some remembered ∧
      (item.txHash, remembered) ∈ uncertainSince h.write h.network h.account before := by
    cases hstep with
    | submitClassic call hwrite => exact recordsNoted_of_run hbefore _ _ hwrite item hmem hof
    | submitSoroban rpc submitting remembering save hwrite =>
      exact recordsNoted_of_run hbefore _ _ hwrite item hmem hof
  obtain ⟨remembered, hparse, hin⟩ := hnoted
  rw [pendingAgeSeconds, hparse] at hage
  obtain ⟨reported, made, hprepare, hreported⟩ := hfresh before h after rfl item.txHash remembered
    hin hother (lt_of_le_of_lt (le_max_left _ _) hage)
  obtain ⟨hn, ha⟩ := PendingTransaction.isOf_iff.mp hof
  exact hunreported reported made (hn ▸ ha ▸ hprepare) hreported

theorem handedOverFresh_of_none (hnone : ∀ before h after,
    events = before ++ .handOver h :: after →
      uncertainSince h.write h.network h.account before = []) :
    HandedOverFresh store events := by
  intro before h after heq txHash remembered hmem
  rw [hnone before h after heq] at hmem
  exact absurd hmem List.not_mem_nil

/-! ### Two payments -/

section TwoPayments

open PendingTransactionStore

/-- Payments of one account, told apart by their sequence number. -/
def paymentAt (seqNum : I64) : TransactionEnvelope :=
  .tx { novemberPayment (.lit 1700000300) with seqNum := seqNum } []

def paymentHash (seqNum : UInt8) : String := hex (List.replicate 31 0 ++ [seqNum])

def paymentWrite (seqNum : I64) : PreparedWrite TransactionEnvelope (String × TaggedTransaction) :=
  .classic "testnet" soleSignerWallet (paymentAt seqNum)

/-- A submission with the key of the account, answered as given. -/
def paymentCall (answer : Except SubmissionError SubmissionResponse) :
    ClassicCall TransactionEnvelope (String × TaggedTransaction) where
  sdk := fresnicaSdk Primitives.ideal twoSignerVault
  loadPlan envelope := planClassicLedgerAuthorization Sep23.strKey envelope [soleSignerAccount]
  signing := .providers soleSignerAccess
  horizon := ⟨fun _ => answer⟩
  clock := ⟨november, november, november⟩
  save := .saved

/-- The records after the first payment turned out uncertain. -/
def uncertainFile : StoreFile :=
  .records [⟨"testnet", soleSignerText, paymentHash 2, "transaction", "2023-11-14T22:13:20Z"⟩]

def firstHandOver : HandOver :=
  ⟨0, "testnet", soleSignerText, paymentHash 2, november, .absent, true, november⟩

def secondHandOver (file : StoreFile) : HandOver :=
  ⟨1, "testnet", soleSignerText, paymentHash 3, november, file, false, november⟩

abbrev PaymentStep :
    WriteState TransactionEnvelope (String × TaggedTransaction) → WriteEvent →
      WriteState TransactionEnvelope (String × TaggedTransaction) → Prop :=
  WriteStep Primitives.ideal AuthorizationCodec.ideal (.forHome "home") novemberText

/-- Horizon as it answers a lookup before a write. -/
def paymentGuard (known : Option String) : WriteGuard := .horizon fun _ => .ok known

variable {file file' : StoreFile}
variable {writes : List (PreparedWrite TransactionEnvelope (String × TaggedTransaction))}

theorem paymentStep_prepare (known : Option String) (seqNum : I64)
    (hreconcile : (PendingTransactionStore.forHome "home").reconcile novemberText "testnet"
      soleSignerWallet.address (paymentGuard known).lookup november .saved file = (.ok (), file')) :
    PaymentStep ⟨file, writes⟩
      (.prepare "testnet" soleSignerWallet.address
        ((paymentGuard known).reported (.forHome "home") "testnet" soleSignerWallet.address file)
        (some writes.length))
      ⟨file', writes ++ [paymentWrite seqNum]⟩ := by
  have hresolve : resolveNetworkWallet (fun _ => .ok soleSignerWallet) "testnet" none =
      .ok soleSignerWallet :=
    bind_eq_ok.mpr ⟨soleSignerWallet, rfl, ensure_bind_eq_ok.mpr ⟨rfl, rfl⟩⟩
  refine .prepare (paymentGuard known) _ "testnet" none november .saved
    (some (paymentWrite seqNum)) hresolve (?_ : _ = (.ok soleSignerWallet, file')) ?_
  · rw [WriteGuard.resolveWallet_eq]
    simp only [resolveReconciled, hresolve, hreconcile]
  · rintro write ⟨⟩
    exact ⟨rfl, rfl, rfl⟩

theorem paymentStep_first (hwrite : writes[0]? = some (paymentWrite (.lit 2))) :
    PaymentStep ⟨.absent, writes⟩ (.handOver firstHandOver) ⟨uncertainFile, writes⟩ := by
  have hhandOff : (paymentCall (.error (.uncertain "timeout"))).handOff Primitives.ideal "testnet"
      (paymentAt (.lit 2)) = .ok (paymentHash 2, .tx { novemberPayment (.lit 1700000300) with
        seqNum := .lit 2 } [⟨Vector.replicate 4 0, List.replicate 64 0⟩]) := by decide +kernel
  have hfile : ((paymentCall (.error (.uncertain "timeout"))).submit Primitives.ideal
      (.forHome "home") novemberText "testnet" soleSignerWallet (paymentAt (.lit 2)) .absent).2 =
      uncertainFile := by
    rw [ClassicCall.submit_eq, hhandOff]
    decide +kernel
  have hstep : PaymentStep ⟨.absent, writes⟩ _ _ :=
    .submitClassic (paymentCall (.error (.uncertain "timeout"))) hwrite hhandOff
  rwa [hfile] at hstep

theorem paymentStep_second (hwrite : writes[1]? = some (paymentWrite (.lit 3))) :
    PaymentStep ⟨file, writes⟩ (.handOver (secondHandOver file)) ⟨file, writes⟩ := by
  have hhandOff : (paymentCall (.ok ⟨none, none⟩)).handOff Primitives.ideal "testnet"
      (paymentAt (.lit 3)) = .ok (paymentHash 3, .tx { novemberPayment (.lit 1700000300) with
        seqNum := .lit 3 } [⟨Vector.replicate 4 0, List.replicate 64 0⟩]) := by decide +kernel
  have hfile : ((paymentCall (.ok ⟨none, none⟩)).submit Primitives.ideal (.forHome "home")
      novemberText "testnet" soleSignerWallet (paymentAt (.lit 3)) file).2 = file := by
    rw [ClassicCall.submit_eq, hhandOff]
    rfl
  have hstep : PaymentStep ⟨file, writes⟩ _ _ :=
    .submitClassic (paymentCall (.ok ⟨none, none⟩)) hwrite hhandOff
  rwa [hfile] at hstep

/-- A second payment, prepared before the first turned out uncertain, is handed over
while the first is unresolved. -/
theorem second_write_handed_over :
    (∃ s, Run PaymentStep ⟨.absent, []⟩
      [.prepare "testnet" soleSignerWallet.address [] (some 0),
        .prepare "testnet" soleSignerWallet.address [] (some 1), .handOver firstHandOver,
        .handOver (secondHandOver uncertainFile)] s) ∧
      ¬ (secondHandOver uncertainFile).Alone (.forHome "home") novemberText
        [.prepare "testnet" soleSignerWallet.address [] (some 0),
          .prepare "testnet" soleSignerWallet.address [] (some 1), .handOver firstHandOver] := by
  constructor
  · exact ⟨_, .cons (paymentStep_prepare none (.lit 2) rfl) <|
      .cons (paymentStep_prepare none (.lit 3) rfl) <|
      .cons (paymentStep_first rfl) <| .single (paymentStep_second rfl)⟩
  · intro halone
    refine halone ⟨_, List.mem_singleton_self _, by decide +kernel, by decide +kernel,
      by decide +kernel, fun reported made hprepare => ?_⟩
    have hnone : reported = [] := by
      simp only [List.mem_cons, WriteEvent.prepare.injEq, reduceCtorEq, List.not_mem_nil,
        or_false] at hprepare
      rcases hprepare with ⟨-, -, h, -⟩ | ⟨-, -, h, -⟩ <;> exact h
    rw [hnone]
    exact List.not_mem_nil

/-- Prepared after the first payment is reported, the second is handed over alone. -/
theorem handOver_alone_payment :
    (secondHandOver (.records [])).Alone (.forHome "home") novemberText
      [.prepare "testnet" soleSignerWallet.address [] (some 0), .handOver firstHandOver,
        .prepare "testnet" soleSignerWallet.address [paymentHash 2] (some 1)] := by
  have hreported : (paymentGuard (some "")).reported (.forHome "home") "testnet"
      soleSignerWallet.address uncertainFile = [paymentHash 2] := by decide +kernel
  have hprepare : PaymentStep ⟨uncertainFile, [paymentWrite (.lit 2)]⟩ _
      ⟨.records [], [paymentWrite (.lit 2), paymentWrite (.lit 3)]⟩ :=
    paymentStep_prepare (some "") (.lit 3) (by decide +kernel)
  rw [hreported] at hprepare
  have hrun : Run PaymentStep ⟨.absent, []⟩ _ _ :=
    .cons (paymentStep_prepare none (.lit 2) rfl) <| .cons (paymentStep_first rfl) <|
      .cons hprepare <| .single (paymentStep_second rfl)
  refine handOver_alone hrun ?_ _ _ [] rfl
  refine handedOverFresh_of_none fun before h after heq => ?_
  rcases before with _ | ⟨_, _ | ⟨_, _ | ⟨_, _ | ⟨_, before⟩⟩⟩⟩ <;>
    simp only [List.nil_append, List.cons_append, List.cons.injEq, WriteEvent.handOver.injEq,
      reduceCtorEq, false_and, and_false, List.nil_eq, List.append_eq_nil_iff] at heq
  · obtain ⟨rfl, rfl, -⟩ := heq
    rfl
  · obtain ⟨rfl, rfl, rfl, rfl, -⟩ := heq
    rfl

end TwoPayments

end Fresnica
