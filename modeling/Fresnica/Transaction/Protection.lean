import Fresnica.Foundation.Run
import Fresnica.Transaction.Pending

/-!
# Pending protection and the validity window

A transaction can be applied until its upper time bound. A record of an uncertain
submission is dropped once it is older than the time to live of the store, found
or not. The record outlasts the transaction exactly when the time bound is nearer
than the time to live at the moment of submission.

## Main definitions

* `StoreEvent` — an operation on the records, at a time
* `PendingTransactionStore.ProtectedUntil` — the account's writes are refused and a
  record is kept, along every run of operations up to a time bound

## Main results

* `holdsSince_step` — one operation keeps a young record
* `protectedUntil_of_lt`, `not_protectedUntil_of_le` — the two directions
* `protectedUntil_maxTime_iff` — which transactions are protected to the end
-/

namespace Fresnica

open Foundation

inductive StoreCall
  | remember (network account txHash kind : String)
  | reconcile (network account : String) (lookup : String → Except String Bool)

/-- A call at a time, with the outcome of replacing the file. -/
structure StoreEvent where
  time : Instant
  call : StoreCall
  outcome : SaveOutcome

/-- The operation happens from the submission on, not after the time bound, and
does not find the transaction. -/
structure StoreEvent.Within (event : StoreEvent) (network account txHash : String)
    (submitted : Instant) (maxTime : ℤ) : Prop where
  submitted_le : submitted ≤ event.time
  le_maxTime : event.time / nanosPerSecond ≤ maxTime
  not_found : ∀ lookup, event.call = .reconcile network account lookup → lookup txHash ≠ .ok true

/-- The file has a record of the hash. -/
def StoreFile.Holds (file : StoreFile) (network account txHash : String) : Prop :=
  ∃ item ∈ file.items, item.isOf network account = true ∧ item.txHash = txHash

namespace PendingTransactionStore

variable {store : PendingTransactionStore} {rfc3339 : Rfc3339}
variable {network account txHash kind home : String} {submitted now : Instant} {maxTime : ℤ}
variable {file file' : StoreFile} {event : StoreEvent} {item pending : PendingTransaction}
variable {lookup : String → Except String Bool} {outcome : SaveOutcome} {r : Except String Unit}
variable {items : List PendingTransaction} {state : Reconciliation}

def perform (store : PendingTransactionStore) (rfc3339 : Rfc3339) (event : StoreEvent)
    (file : StoreFile) : Except String Unit × StoreFile :=
  match event.call with
  | .remember network account txHash kind =>
    store.remember rfc3339 network account txHash kind event.time event.outcome file
  | .reconcile network account lookup =>
    store.reconcile rfc3339 network account lookup event.time event.outcome file

/-- One operation on the file. -/
def Step (store : PendingTransactionStore) (rfc3339 : Rfc3339) (file : StoreFile)
    (event : StoreEvent) (file' : StoreFile) : Prop :=
  (store.perform rfc3339 event file).2 = file'

/-- Whatever happens to the records up to the time bound, as long as no lookup
finds the transaction, a reconciliation of the account refuses the write and keeps
a record of the hash. -/
def ProtectedUntil (store : PendingTransactionStore) (rfc3339 : Rfc3339)
    (network account txHash : String) (submitted : Instant) (maxTime : ℤ) (file : StoreFile) :
    Prop :=
  ∀ events file', Run (store.Step rfc3339) file events file' →
    (∀ event ∈ events, event.Within network account txHash submitted maxTime) →
    ∀ now lookup outcome r file'', submitted ≤ now → now / nanosPerSecond ≤ maxTime →
      lookup txHash ≠ .ok true →
      store.reconcile rfc3339 network account lookup now outcome file' = (r, file'') →
      (∃ e, r = .error e) ∧ file''.Holds network account txHash

/-! ### A young record stays -/

/-- The file has a record of the hash, submitted no earlier than the given time. -/
def HoldsSince (rfc3339 : Rfc3339) (network account txHash : String) (submitted : Instant)
    (file : StoreFile) : Prop :=
  ∃ item ∈ file.items, item.isOf network account = true ∧ item.txHash = txHash ∧
    ∃ time, rfc3339.parse item.submittedAt = some time ∧ submitted ≤ time

theorem HoldsSince.holds (h : HoldsSince rfc3339 network account txHash submitted file) :
    file.Holds network account txHash := by
  obtain ⟨item, hmem, hof, hhash, -⟩ := h
  exact ⟨item, hmem, hof, hhash⟩

theorem wholeSeconds_lt {duration seconds : ℤ} (hpos : 0 < seconds)
    (h : duration < seconds * nanosPerSecond) : wholeSeconds duration < seconds := by
  unfold wholeSeconds nanosPerSecond at *
  rcases le_total 0 duration with hd | hd
  · rw [Int.tdiv_eq_ediv_of_nonneg hd]
    omega
  · have hneg : (-duration).tdiv 1000000000 = -duration.tdiv 1000000000 :=
      Int.neg_tdiv duration 1000000000
    rw [Int.tdiv_eq_ediv_of_nonneg (by omega)] at hneg
    omega

theorem sub_lt_of_div_le {now time submitted maxTime ttl : ℤ} (htime : submitted ≤ time)
    (hmax : maxTime < submitted / nanosPerSecond + ttl) (hnow : now / nanosPerSecond ≤ maxTime) :
    now - time < ttl * nanosPerSecond := by
  unfold nanosPerSecond at *
  omega

/-- Until a time bound nearer than the time to live, a record that is not found is
too young to be dropped. -/
theorem pendingAgeSeconds_lt {time : Instant} (hpos : 0 < store.ttlSeconds)
    (hparse : rfc3339.parse item.submittedAt = some time) (htime : submitted ≤ time)
    (hmax : maxTime < submitted / nanosPerSecond + store.ttlSeconds)
    (hnow : now / nanosPerSecond ≤ maxTime) :
    pendingAgeSeconds rfc3339 item now < store.ttlSeconds := by
  have hwhole := wholeSeconds_lt hpos (sub_lt_of_div_le htime hmax hnow)
  rw [pendingAgeSeconds, hparse]
  exact max_lt hwhole hpos

/-- A reconciliation of the account refuses and keeps a young record that is not
found, whether its lookups succeed or not. -/
theorem reconcile_young (hmem : item ∈ file.items) (hof : item.isOf network account = true)
    (hlookup : lookup item.txHash ≠ .ok true)
    (hage : pendingAgeSeconds rfc3339 item now < store.ttlSeconds)
    (h : store.reconcile rfc3339 network account lookup now outcome file = (r, file')) :
    (∃ e, r = .error e) ∧ item ∈ file'.items := by
  rcases reconcile_cases h with ⟨e, rfl, rfl⟩ | ⟨hfound, -, -⟩
  · exact ⟨⟨e, rfl⟩, hmem⟩
  · obtain ⟨found, hanswer⟩ := hfound item hmem hof
    cases found with
    | true => exact absurd hanswer hlookup
    | false =>
      have hkeeps : store.keeps rfc3339 network account lookup now item = true := by
        simp [keeps, hof, hanswer, hage]
      exact ⟨reconcile_refuses h hmem hof hkeeps, reconcile_keeps h hmem hkeeps⟩

theorem remember_holdsSince (htime : submitted ≤ now)
    (h : store.remember rfc3339 network account txHash kind now outcome file = (.ok (), file')) :
    HoldsSince rfc3339 network account txHash submitted file' := by
  unfold remember at h
  split at h
  · exact absurd (Prod.mk.inj h).1 (by simp)
  · rename_i text hformat
    rcases put_cases h with ⟨e, he, -⟩ | ⟨-, hitems⟩
    · exact absurd he (by simp)
    · refine ⟨_, hitems ▸ List.mem_append_right _ (List.mem_singleton_self _), ?_, rfl, now, ?_,
        htime⟩
      · simp [PendingTransaction.isOf]
      · exact rfc3339.parse_format hformat

/-- Remembering any transaction keeps the records of other hashes, and renews the
record of its own. -/
theorem remember_step {network' account' txHash' : String}
    (hsince : HoldsSince rfc3339 network account txHash submitted file) (htime : submitted ≤ now)
    (h : store.remember rfc3339 network' account' txHash' kind now outcome file = (r, file')) :
    HoldsSince rfc3339 network account txHash submitted file' := by
  cases r with
  | ok u =>
    -- another record leaves this one among the others
    by_cases hsame : network' = network ∧ account' = account ∧ txHash' = txHash
    · obtain ⟨rfl, rfl, rfl⟩ := hsame
      exact remember_holdsSince htime h
    · unfold remember at h
      split at h
      · exact absurd (Prod.mk.inj h).1 (by simp)
      · rcases put_cases h with ⟨e, he, -⟩ | ⟨-, hitems⟩
        · exact absurd he (by simp)
        · obtain ⟨item, hmem, hof, hhash, hparse⟩ := hsince
          refine ⟨item, ?_, hof, hhash, hparse⟩
          rw [hitems, List.mem_append, List.mem_filter]
          refine Or.inl ⟨hmem, ?_⟩
          obtain ⟨rfl, rfl⟩ := PendingTransaction.isOf_iff.mp hof
          simp only [PendingTransaction.isOf_iff, decide_not, Bool.not_eq_true',
            decide_eq_false_iff_not]
          rintro ⟨⟨hn, ha⟩, ht⟩
          exact hsame ⟨hn.symm, ha.symm, ht.symm.trans hhash⟩
  | error e =>
    unfold remember at h
    split at h
    · exact (Prod.mk.inj h).2 ▸ hsince
    · rcases put_cases h with ⟨-, -, rfl⟩ | ⟨he, -⟩
      · exact hsince
      · exact absurd he (by simp)

/-- One operation keeps a young record that is not found. -/
theorem holdsSince_step (hpos : 0 < store.ttlSeconds)
    (hmax : maxTime < submitted / nanosPerSecond + store.ttlSeconds)
    (hsince : HoldsSince rfc3339 network account txHash submitted file)
    (hwithin : event.Within network account txHash submitted maxTime)
    (h : store.Step rfc3339 file event file') :
    HoldsSince rfc3339 network account txHash submitted file' := by
  unfold Step perform at h
  split at h
  · exact remember_step hsince hwithin.submitted_le (Prod.ext rfl h)
  -- a reconciliation drops only what is found or old, and this record is neither
  · rename_i network' account' lookup hcall
    obtain ⟨item, hmem, hof, rfl, time, hparse, htime⟩ := hsince
    refine ⟨item, ?_, hof, rfl, time, hparse, htime⟩
    by_cases hof' : item.isOf network' account' = true
    · obtain ⟨rfl, rfl⟩ := PendingTransaction.isOf_iff.mp hof
      obtain ⟨rfl, rfl⟩ := PendingTransaction.isOf_iff.mp hof'
      have hage := pendingAgeSeconds_lt hpos hparse htime hmax hwithin.le_maxTime
      have hreconcile : store.reconcile rfc3339 item.network item.account lookup event.time
          event.outcome file = (_, file') := Prod.ext rfl h
      exact (reconcile_young hmem hof (hwithin.not_found lookup hcall) hage hreconcile).2
    · have hreconcile : store.reconcile rfc3339 network' account' lookup event.time event.outcome
          file = (_, file') := Prod.ext rfl h
      exact reconcile_keeps hreconcile hmem (by simp [keeps, hof'])

theorem protectedUntil_of_lt (hpos : 0 < store.ttlSeconds)
    (hmax : maxTime < submitted / nanosPerSecond + store.ttlSeconds)
    (hsince : HoldsSince rfc3339 network account txHash submitted file) :
    store.ProtectedUntil rfc3339 network account txHash submitted maxTime file := by
  intro events file' hrun hwithin now lookup outcome r file'' hnow hle hlookup hreconcile
  obtain ⟨item, hmem, hof, rfl, time, hparse, htime⟩ :=
    hrun.invariant hwithin hsince fun _ _ _ hsince hwithin hstep =>
      holdsSince_step hpos hmax hsince hwithin hstep
  obtain ⟨hrefused, hkept⟩ := reconcile_young hmem hof hlookup
    (pendingAgeSeconds_lt hpos hparse htime hmax hle) hreconcile
  exact ⟨hrefused, item, hkept, hof, rfl⟩

/-! ### An old record goes -/

theorem foldlM_reconcileItem_isOk (state : Reconciliation)
    (hlookup : ∀ txHash, ∃ found, lookup txHash = .ok found) :
    ∃ state', items.foldlM (store.reconcileItem rfc3339 network account lookup now) state =
      .ok state' := by
  induction items generalizing state with
  | nil => exact ⟨state, rfl⟩
  | cons item items ih =>
    have hitem : ∃ mid, store.reconcileItem rfc3339 network account lookup now state item =
        .ok mid := by
      obtain ⟨found, hfound⟩ := hlookup item.txHash
      unfold reconcileItem
      rw [hfound, ok_bind]
      split_ifs <;> exact ⟨_, rfl⟩
    obtain ⟨mid, hmid⟩ := hitem
    obtain ⟨state', hstate'⟩ := ih mid
    exact ⟨state', by rw [List.foldlM_cons, hmid, ok_bind, hstate']⟩

theorem conclude_saved : (store.conclude .saved state file).2 =
    if state.changed = true then .records state.retained else file := by
  unfold conclude save
  by_cases hchanged : state.changed = true
  · rw [if_pos hchanged, if_pos hchanged]
    cases state.pendingHash <;> rfl
  · rw [if_neg hchanged, if_neg hchanged]
    cases state.pendingHash <;> rfl

/-- With every lookup answered and the file replaced, only records that stay are
left. -/
theorem reconcile_saved (hload : store.load file = .ok items)
    (hlookup : ∀ txHash, ∃ found, lookup txHash = .ok found)
    (hmem : item ∈ (store.reconcile rfc3339 network account lookup now .saved file).2.items) :
    store.keeps rfc3339 network account lookup now item = true := by
  have hitems := load_ok hload
  unfold reconcile at hmem
  rw [hload] at hmem
  dsimp only at hmem
  by_cases hany : ¬ items.any (·.isOf network account) = true
  · rw [if_pos hany] at hmem
    -- no record is of the account, so the file is left
    have hof : ¬ item.isOf network account = true := fun hof =>
      hany (List.any_eq_true.mpr ⟨item, hitems ▸ hmem, hof⟩)
    simp [keeps, hof]
  · obtain ⟨state, hfold⟩ : ∃ state,
        items.foldlM (store.reconcileItem rfc3339 network account lookup now) ⟨[], none, false⟩ =
          .ok state := foldlM_reconcileItem_isOk _ hlookup
    obtain ⟨-, hretained, -, hchanged⟩ := foldlM_reconcileItem hfold
    rw [if_neg hany, hfold] at hmem
    dsimp only at hmem
    rw [conclude_saved] at hmem
    by_cases hstate : state.changed = true
    · rw [if_pos hstate] at hmem
      have hmem : item ∈ state.retained := hmem
      rw [hretained, List.nil_append] at hmem
      exact (List.mem_filter.mp hmem).2
    · rw [if_neg hstate, hitems] at hmem
      exact (hchanged.mp (Bool.eq_false_iff.mpr hstate)).2 item hmem

theorem load_records (h : ∀ item ∈ items, validatePending item = .ok ()) :
    store.load (.records items) = .ok items := by
  rw [load, forM_eq_ok.mpr h]
  rfl

theorem validatePending_of_load (h : store.load file = .ok items) :
    ∀ item ∈ items, validatePending item = .ok () := by
  cases file with
  | absent =>
    obtain rfl := Except.ok.inj h
    simp
  | unreadable error => exact absurd h (by simp [load])
  | malformed error => exact absurd h (by simp [load])
  | records stored =>
    obtain ⟨_, hvalid, h⟩ := bind_eq_ok.mp h
    obtain rfl := Except.ok.inj h
    exact forM_eq_ok.mp hvalid

/-- After a transaction is put the file can be read, and holds one record of its
hash. -/
theorem put_ok_load (h : store.put pending outcome file = (.ok (), file')) :
    ∃ items, store.load file' = .ok items ∧
      ∀ item ∈ items, item.isOf pending.network pending.account = true →
        item.txHash = pending.txHash → item = pending := by
  unfold put at h
  split at h
  · exact absurd (Prod.mk.inj h).1 (by simp)
  rename_i hpending
  split at h
  · exact absurd (Prod.mk.inj h).1 (by simp)
  rename_i items hload
  rcases save_cases h with ⟨e, he, -⟩ | ⟨-, rfl⟩
  · exact absurd he (by simp)
  refine ⟨_, load_records fun item hmem => ?_, fun item hmem hof hhash => ?_⟩
  · rcases List.mem_append.mp hmem with hmem | hmem
    · exact validatePending_of_load hload item (List.mem_of_mem_filter hmem)
    · obtain rfl := List.mem_singleton.mp hmem
      exact hpending
  · rcases List.mem_append.mp hmem with hmem | hmem
    · have hother := (List.mem_filter.mp hmem).2
      simp [hof, hhash] at hother
    · exact List.mem_singleton.mp hmem

/-- Where the time bound is not nearer than the time to live, the record is gone
before it. -/
theorem not_protectedUntil_of_le (hpos : 0 < store.ttlSeconds)
    (hmax : submitted / nanosPerSecond + store.ttlSeconds ≤ maxTime)
    (h : store.remember rfc3339 network account txHash kind submitted outcome file =
      (.ok (), file')) :
    ¬ store.ProtectedUntil rfc3339 network account txHash submitted maxTime file' := by
  intro hprotected
  unfold remember at h
  split at h
  · exact absurd (Prod.mk.inj h).1 (by simp)
  rename_i text hformat
  obtain ⟨items, hload, hunique⟩ := put_ok_load h
  -- look up in vain when the record is exactly as old as the time to live
  obtain ⟨-, item, hmem, hof, hhash⟩ := hprotected [] file' Run.nil (by simp)
    (submitted + store.ttlSeconds * nanosPerSecond) (fun _ => .ok false) .saved _ _
    (le_add_of_nonneg_right (mul_nonneg hpos.le (by decide)))
    (by rw [Int.add_mul_ediv_right _ _ (by decide)]; exact hmax) (by simp) rfl
  have hkeeps := reconcile_saved hload (fun _ => ⟨false, rfl⟩) hmem
  have hitem : item ∈ items := load_ok hload ▸ reconcile_removes_only rfl hmem
  obtain rfl := hunique item hitem hof hhash
  have hage : pendingAgeSeconds rfc3339 ⟨network, account, txHash, kind, text⟩
      (submitted + store.ttlSeconds * nanosPerSecond) = store.ttlSeconds := by
    rw [pendingAgeSeconds, rfc3339.parse_format hformat]
    simp only [wholeSeconds, add_sub_cancel_left]
    rw [Int.mul_tdiv_cancel _ (by decide), max_eq_left hpos.le]
  simp [keeps, PendingTransaction.isOf, hage] at hkeeps

/-! ### The validity window -/

/-- An uncertain transaction is protected until its own time bound exactly when it
was submitted so late after its preparation that the bound is nearer than the time
to live. -/
theorem protectedUntil_maxTime_iff {strKey : StrKey} {source : String}
    {bodies : List OperationBody} {sequence : I64} {fee : U32} {memo : Memo} {timeout : U64}
    {prepared : Instant} {built tx : Transaction} {signatures : List DecoratedSignature}
    (hbuild : buildOperationEnvelopeWithMemoAndTimeout strKey source bodies sequence fee memo
      timeout prepared = .ok (.tx built signatures))
    (hcond : tx.cond = built.cond)
    (hremember : (forHome home).remember rfc3339 network account txHash kind submitted outcome
      file = (.ok (), file')) :
    ∃ maxTime : U64, tx.cond.maxTime? = some maxTime ∧
      ((forHome home).ProtectedUntil rfc3339 network account txHash submitted maxTime.val file' ↔
        prepared / nanosPerSecond + timeout.val <
          submitted / nanosPerSecond + pendingTtlSeconds) := by
  obtain ⟨_, maxTime, heq, hmax, hval, -⟩ := maxTime?_of_build hbuild
  obtain ⟨rfl, -⟩ := TransactionEnvelope.tx.inj heq
  refine ⟨maxTime, hcond ▸ hmax, ?_⟩
  have hpos : (0 : ℤ) < pendingTtlSeconds := by decide
  rw [← hval]
  constructor
  · intro hprotected
    by_contra hle
    exact not_protectedUntil_of_le hpos (not_lt.mp hle) hremember hprotected
  · intro hlt
    exact protectedUntil_of_lt hpos hlt (remember_holdsSince le_rfl hremember)

/-! ### The default timeout -/

/-- The reading 1700000000 seconds after the epoch. -/
def november : Instant := 1700000000 * nanosPerSecond

/-- The text form at that reading. -/
def novemberText : Rfc3339 where
  format now := if now = november then .ok "2023-11-14T22:13:20Z" else .error "out of range"
  parse text := if text = "2023-11-14T22:13:20Z" then some november else none
  parse_format {now text} h := by
    split_ifs at h with hnow
    · obtain rfl := Except.ok.inj h
      simp [hnow]

def novemberAccount : String := "GAAAAAAAAAAAAAAAAAAAAAAAAAAAAAAAAAAAAAAAAAAAAAAAAAAAAWHF"

/-- A payment with a time bound the given seconds after that reading. -/
def novemberPayment (maxTime : U64) : Transaction where
  sourceAccount := .ed25519 (Vector.replicate 32 0)
  fee := .lit 100
  seqNum := .lit 2
  cond := .time ⟨.lit 0, maxTime⟩
  memo := .none
  operations := [⟨none, .payment (.ed25519 (Vector.replicate 32 1)) .native (.lit 5)⟩]
  ext := .v0

def novemberRecord : PendingTransaction :=
  ⟨"testnet", novemberAccount, "c0ffee", "transaction", "2023-11-14T22:13:20Z"⟩

/-- With the default timeout a payment submitted at once can be applied for 300
seconds, but its record is dropped, and another write let through, after 210. -/
theorem default_timeout_outlives_record :
    buildOperationEnvelopeWithMemoAndTimeout Sep23.strKey novemberAccount
        [.payment (.ed25519 (Vector.replicate 32 1)) .native (.lit 5)] (.lit 1) (.lit 100) .none
        defaultClassicTransactionTimeoutSeconds november =
      .ok (.tx (novemberPayment (.lit 1700000300)) []) ∧
    ensureTransactionNotExpired (.tx (novemberPayment (.lit 1700000300)) []) november = .ok () ∧
    (forHome "home").remember novemberText "testnet" novemberAccount "c0ffee" "transaction"
        november .saved .absent = (.ok (), .records [novemberRecord]) ∧
    (november + 210 * nanosPerSecond) / nanosPerSecond ≤ 1700000300 ∧
    (forHome "home").reconcileWith novemberText "testnet" novemberAccount
        (fun _ => (.ok none : Except String (Option Unit))) (november + 210 * nanosPerSecond) .saved
        (.records [novemberRecord]) = (.ok (), .records []) ∧
    (forHome "home").reconcileWithAsync novemberText "testnet" novemberAccount
        (fun _ => .ok false) (november + 210 * nanosPerSecond) .saved
        (.records [novemberRecord]) = (.ok (), .records []) := by
  refine ⟨?_, ?_, ?_, ?_, ?_, ?_⟩ <;> decide +kernel

/-- With a timeout of 30 seconds the record outlasts the payment. -/
theorem protectedUntil_maxTime_iff_short :
    (forHome "home").ProtectedUntil novemberText "testnet" novemberAccount "c0ffee" november
      1700000030 (.records [novemberRecord]) := by
  obtain ⟨maxTime, hmax, hiff⟩ := protectedUntil_maxTime_iff
    (show buildOperationEnvelopeWithMemoAndTimeout Sep23.strKey novemberAccount
        [.payment (.ed25519 (Vector.replicate 32 1)) .native (.lit 5)] (.lit 1) (.lit 100) .none
        (.lit 30) november = .ok (.tx (novemberPayment (.lit 1700000030)) []) by decide +kernel)
    rfl
    (show (forHome "home").remember novemberText "testnet" novemberAccount "c0ffee" "transaction"
        november .saved .absent = (.ok (), .records [novemberRecord]) by decide +kernel)
  obtain rfl := Option.some_inj.mp hmax
  exact hiff.mpr (by decide)

end PendingTransactionStore

end Fresnica
