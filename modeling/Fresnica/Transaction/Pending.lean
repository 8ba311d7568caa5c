import Fresnica.Foundation.Outcome
import Fresnica.Foundation.Text
import Fresnica.Transaction.Build

/-!
# Pending transactions

A submission whose outcome is unknown leaves a record of its hash, and the next
write of the account looks the hash up first. A record goes away when its
transaction is found, or when it is older than a fixed time to live; while one
stays, the write is refused.

The records are one file, read and replaced as a whole. The file system enters
through the state of the file and through the outcome of replacing it; a failed
replacement leaves the file as it was (the build for Windows removes the old file
first; its steps are in `Transaction.Reconciliation`). The clock's text form is a
parameter, `Rfc3339`.

## Main definitions

* `PendingTransaction`, `StoreFile` — a record, and the file of all records
* `PendingTransactionStore.remember` — add a record
* `PendingTransactionStore.reconcileWith`, `reconcileWithAsync` — look the hashes of
  an account up

## Main results

* `put_cases` — what remembering a transaction does to the records
* `reconcile_keeps`, `reconcile_removes_only`, `reconcile_ok_clear`,
  `reconcile_refuses` — what a reconciliation keeps, removes, and answers
-/

namespace Fresnica

open Foundation

/-- The text form of a clock reading. A reading is parsed back exactly. -/
structure Rfc3339 where
  format : Instant → Except String String
  parse : String → Option Instant
  parse_format : ∀ {now text}, format now = .ok text → parse text = some now

structure PendingTransaction where
  network : String
  account : String
  txHash : String
  kind : String
  submittedAt : String
  deriving DecidableEq, Repr

/-- The file of the records: absent, unreadable, not a list of records, or one. -/
inductive StoreFile
  | absent
  | unreadable (error : String)
  | malformed (error : String)
  | records (items : List PendingTransaction)
  deriving DecidableEq, Repr

/-- The outcome of replacing the file. -/
inductive SaveOutcome
  | saved
  | noDirectory (error : String)
  | notPersisted (error : String)
  | notReplaced (error : String)
  deriving DecidableEq, Repr

structure PendingTransactionStore where
  home : String
  ttlSeconds : ℤ
  deriving DecidableEq, Repr

def pendingTtlSeconds : ℤ := 210

def PendingTransactionStore.forHome (home : String) : PendingTransactionStore :=
  ⟨home, pendingTtlSeconds⟩

def PendingTransactionStore.path (store : PendingTransactionStore) : String :=
  s!"{store.home}/pending-transactions.json"

/-- The record belongs to the account on the network. -/
def PendingTransaction.isOf (item : PendingTransaction) (network account : String) : Bool :=
  item.network = network ∧ item.account = account

theorem PendingTransaction.isOf_iff {item : PendingTransaction} {network account : String} :
    item.isOf network account = true ↔ item.network = network ∧ item.account = account := by
  simp [PendingTransaction.isOf]

def validatePending (item : PendingTransaction) : Except String Unit :=
  ensure (¬ [item.network, item.account, item.txHash, item.kind, item.submittedAt].any Text.isBlank)
    "Pending transaction state is malformed: fields must be non-empty strings"

/-- Whole seconds between two readings, towards zero. -/
def wholeSeconds (duration : ℤ) : ℤ := duration.tdiv nanosPerSecond

/-- The age of a record; one without a readable time is older than anything. -/
def pendingAgeSeconds (rfc3339 : Rfc3339) (pending : PendingTransaction) (now : Instant) : ℤ :=
  match rfc3339.parse pending.submittedAt with
  | none => 9223372036854775807
  | some submitted => max (wholeSeconds (now - submitted)) 0

namespace PendingTransactionStore

def load (store : PendingTransactionStore) (file : StoreFile) :
    Except String (List PendingTransaction) :=
  match file with
  | .absent => .ok []
  | .unreadable error =>
    .error s!"Unable to read pending transaction state {store.path}: {error}"
  | .malformed error =>
    .error s!"Pending transaction state is malformed {store.path}: {error}"
  | .records items => do
    forM items validatePending
    return items

def save (store : PendingTransactionStore) (outcome : SaveOutcome)
    (items : List PendingTransaction) (file : StoreFile) : Except String Unit × StoreFile :=
  match outcome with
  | .saved => (.ok ⟨⟩, .records items)
  | .noDirectory error =>
    (.error s!"Unable to create pending transaction directory {store.home}: {error}", file)
  | .notPersisted error =>
    (.error s!"Unable to persist pending transaction state {store.path}.tmp: {error}", file)
  | .notReplaced error =>
    (.error s!"Unable to replace pending transaction state {store.path}: {error}", file)

def put (store : PendingTransactionStore) (pending : PendingTransaction) (outcome : SaveOutcome)
    (file : StoreFile) : Except String Unit × StoreFile :=
  match validatePending pending with
  | .error e => (.error e, file)
  | .ok _ =>
    match store.load file with
    | .error e => (.error e, file)
    | .ok items =>
      let others := items.filter fun item =>
        ¬ (item.isOf pending.network pending.account ∧ item.txHash = pending.txHash)
      store.save outcome (others ++ [pending]) file

def remember (store : PendingTransactionStore) (rfc3339 : Rfc3339)
    (network account txHash kind : String) (now : Instant) (outcome : SaveOutcome)
    (file : StoreFile) : Except String Unit × StoreFile :=
  match rfc3339.format now with
  | .error error => (.error s!"unable to format pending transaction time: {error}", file)
  | .ok submittedAt => store.put ⟨network, account, txHash, kind, submittedAt⟩ outcome file

/-- The records kept so far, the first hash still pending, and whether a record
was dropped. -/
structure Reconciliation where
  retained : List PendingTransaction
  pendingHash : Option String
  changed : Bool
  deriving DecidableEq, Repr

def reconcileItem (store : PendingTransactionStore) (rfc3339 : Rfc3339) (network account : String)
    (lookup : String → Except String Bool) (now : Instant) (state : Reconciliation)
    (item : PendingTransaction) : Except String Reconciliation :=
  if ¬ item.isOf network account then
    .ok { state with retained := state.retained ++ [item] }
  else do
    let found ← lookup item.txHash
    if found then
      return { state with changed := true }
    else if pendingAgeSeconds rfc3339 item now ≥ store.ttlSeconds then
      return { state with changed := true }
    else
      -- the first hash that is still pending is the one reported
      return { state with
        pendingHash := some (state.pendingHash.getD item.txHash)
        retained := state.retained ++ [item] }

/-- Replace the file if a record was dropped, and refuse if a hash is pending. -/
def conclude (store : PendingTransactionStore) (outcome : SaveOutcome) (state : Reconciliation)
    (file : StoreFile) : Except String Unit × StoreFile :=
  match if state.changed then store.save outcome state.retained file else (.ok ⟨⟩, file) with
  | (.error e, file) => (.error e, file)
  | (.ok _, file) =>
    match state.pendingHash with
    | some txHash =>
      (.error s!"A previous transaction is still pending confirmation: {txHash}", file)
    | none => (.ok ⟨⟩, file)

/-- The reconciliation of an account, given whether each hash is found. -/
def reconcile (store : PendingTransactionStore) (rfc3339 : Rfc3339) (network account : String)
    (lookup : String → Except String Bool) (now : Instant) (outcome : SaveOutcome)
    (file : StoreFile) : Except String Unit × StoreFile :=
  match store.load file with
  | .error e => (.error e, file)
  | .ok items =>
    if ¬ items.any (·.isOf network account) then (.ok ⟨⟩, file)
    else
      match items.foldlM (store.reconcileItem rfc3339 network account lookup now)
          ⟨[], none, false⟩ with
      | .error e => (.error e, file)
      | .ok state => store.conclude outcome state file

/-- A lookup that answers with the transaction, if there is one. -/
def reconcileWith {ρ : Type} (store : PendingTransactionStore) (rfc3339 : Rfc3339)
    (network account : String) (lookup : String → Except String (Option ρ)) :
    Instant → SaveOutcome → StoreFile → Except String Unit × StoreFile :=
  store.reconcile rfc3339 network account fun txHash => (lookup txHash).map Option.isSome

/-- A lookup that answers whether the transaction is final. -/
def reconcileWithAsync (store : PendingTransactionStore) (rfc3339 : Rfc3339)
    (network account : String) (lookup : String → Except String Bool) :
    Instant → SaveOutcome → StoreFile → Except String Unit × StoreFile :=
  store.reconcile rfc3339 network account lookup

end PendingTransactionStore

/-! ### What the operations do to the records -/

/-- The records of a file; none if it cannot be read. -/
def StoreFile.items : StoreFile → List PendingTransaction
  | .records items => items
  | .absent | .unreadable _ | .malformed _ => []

namespace PendingTransactionStore

variable {store : PendingTransactionStore} {rfc3339 : Rfc3339} {network account : String}
variable {lookup : String → Except String Bool} {now : Instant} {outcome : SaveOutcome}
variable {file file' : StoreFile} {items : List PendingTransaction}
variable {item pending : PendingTransaction} {r : Except String Unit}
variable {state state' : Reconciliation}

/-- The record stays: it is of another account, or its hash is not found and it is
younger than the time to live. -/
def keeps (store : PendingTransactionStore) (rfc3339 : Rfc3339) (network account : String)
    (lookup : String → Except String Bool) (now : Instant) (item : PendingTransaction) : Bool :=
  if item.isOf network account then
    match lookup item.txHash with
    | .ok false => pendingAgeSeconds rfc3339 item now < store.ttlSeconds
    | .ok true | .error _ => false
  else true

theorem load_ok (h : store.load file = .ok items) : file.items = items := by
  cases file with
  | absent => exact Except.ok.inj h
  | unreadable error => exact absurd h (by simp [load])
  | malformed error => exact absurd h (by simp [load])
  | records stored =>
    obtain ⟨-, -, h⟩ := bind_eq_ok.mp h
    exact Except.ok.inj h

theorem save_cases (h : store.save outcome items file = (r, file')) :
    (∃ e, r = .error e ∧ file' = file) ∨ r = .ok () ∧ file' = .records items := by
  cases outcome with
  | saved =>
    obtain ⟨rfl, rfl⟩ := Prod.mk.inj h
    exact Or.inr ⟨rfl, rfl⟩
  | noDirectory error | notPersisted error | notReplaced error =>
    obtain ⟨rfl, rfl⟩ := Prod.mk.inj h
    exact Or.inl ⟨_, rfl, rfl⟩

/-- A transaction that is put replaces the record of its hash, or nothing happens. -/
theorem put_cases (h : store.put pending outcome file = (r, file')) :
    (∃ e, r = .error e ∧ file' = file) ∨
      r = .ok () ∧ file'.items = (file.items.filter fun item =>
        ¬ (item.isOf pending.network pending.account ∧ item.txHash = pending.txHash)) ++
          [pending] := by
  unfold put at h
  split at h
  · obtain ⟨rfl, rfl⟩ := Prod.mk.inj h
    exact Or.inl ⟨_, rfl, rfl⟩
  split at h
  · obtain ⟨rfl, rfl⟩ := Prod.mk.inj h
    exact Or.inl ⟨_, rfl, rfl⟩
  · rename_i items hload
    refine (save_cases h).imp id fun ⟨hr, hfile⟩ => ⟨hr, ?_⟩
    rw [hfile, load_ok hload]
    rfl

/-- What one record contributes to a reconciliation. -/
theorem reconcileItem_ok
    (h : store.reconcileItem rfc3339 network account lookup now state item = .ok state') :
    (item.isOf network account = true → ∃ found, lookup item.txHash = .ok found) ∧
      state'.retained =
        state.retained ++ [item].filter (store.keeps rfc3339 network account lookup now) ∧
      (state'.pendingHash = none ↔ state.pendingHash = none ∧
        (item.isOf network account = true →
          store.keeps rfc3339 network account lookup now item = false)) ∧
      (state'.changed = false ↔ state.changed = false ∧
        store.keeps rfc3339 network account lookup now item = true) := by
  unfold reconcileItem at h
  -- records of other accounts are kept without a lookup
  by_cases hof : item.isOf network account = true
  · rw [if_neg (not_not.mpr hof)] at h
    obtain ⟨found, hfound, h⟩ := bind_eq_ok.mp h
    cases found with
    | true =>
      obtain rfl := Except.ok.inj h
      simp [keeps, hof, hfound]
    | false =>
      by_cases hage : pendingAgeSeconds rfc3339 item now ≥ store.ttlSeconds
      · rw [if_neg (by simp), if_pos hage] at h
        obtain rfl := Except.ok.inj h
        simp [keeps, hof, hfound, hage]
      · rw [if_neg (by simp), if_neg hage] at h
        obtain rfl := Except.ok.inj h
        simp [keeps, hof, hfound, lt_of_not_ge hage]
  · rw [if_pos hof] at h
    obtain rfl := Except.ok.inj h
    simp [keeps, hof]

/-- What the loop over all records computes. -/
theorem foldlM_reconcileItem
    (h : items.foldlM (store.reconcileItem rfc3339 network account lookup now) state =
      .ok state') :
    (∀ item ∈ items, item.isOf network account = true →
        ∃ found, lookup item.txHash = .ok found) ∧
      state'.retained =
        state.retained ++ items.filter (store.keeps rfc3339 network account lookup now) ∧
      (state'.pendingHash = none ↔ state.pendingHash = none ∧
        ∀ item ∈ items, item.isOf network account = true →
          store.keeps rfc3339 network account lookup now item = false) ∧
      (state'.changed = false ↔ state.changed = false ∧
        ∀ item ∈ items, store.keeps rfc3339 network account lookup now item = true) := by
  induction items generalizing state with
  | nil =>
    obtain rfl := Except.ok.inj h
    simp
  | cons item items ih =>
    rw [List.foldlM_cons] at h
    obtain ⟨mid, hitem, hrest⟩ := bind_eq_ok.mp h
    obtain ⟨hfound, hretained, hpending, hchanged⟩ := reconcileItem_ok hitem
    obtain ⟨hfound', hretained', hpending', hchanged'⟩ := ih hrest
    refine ⟨?_, ?_, ?_, ?_⟩
    · exact List.forall_mem_cons.mpr ⟨hfound, hfound'⟩
    · rw [hretained', hretained, List.append_assoc, ← List.filter_append, List.singleton_append]
    · rw [hpending', hpending, List.forall_mem_cons, and_assoc]
    · rw [hchanged', hchanged, List.forall_mem_cons, and_assoc]

theorem conclude_cases (h : store.conclude outcome state file = (r, file')) :
    (∃ e, r = .error e ∧ file' = file) ∨
      (if state.changed then file' = .records state.retained else file' = file) ∧
        (r = .ok () ↔ state.pendingHash = none) := by
  unfold conclude at h
  by_cases hchanged : state.changed = true
  · rw [if_pos hchanged] at h
    cases hsave : store.save outcome state.retained file with
    | mk saved file'' =>
      rw [hsave] at h
      rcases save_cases hsave with ⟨e, rfl, rfl⟩ | ⟨rfl, rfl⟩
      · obtain ⟨rfl, rfl⟩ := Prod.mk.inj h
        exact Or.inl ⟨e, rfl, rfl⟩
      · right
        cases hpending : state.pendingHash with
        | none | some txHash =>
          rw [hpending] at h
          obtain ⟨rfl, rfl⟩ := Prod.mk.inj h
          simp [hchanged]
  · right
    rw [if_neg hchanged] at h
    cases hpending : state.pendingHash with
    | none | some txHash =>
      rw [hpending] at h
      obtain ⟨rfl, rfl⟩ := Prod.mk.inj h
      simp [hchanged]

/-- A reconciliation fails and leaves the file alone, or it has looked up every
hash of the account, leaves the records that stay, and passes when none of the
account's stays. -/
theorem reconcile_cases
    (h : store.reconcile rfc3339 network account lookup now outcome file = (r, file')) :
    (∃ e, r = .error e ∧ file' = file) ∨
      (∀ item ∈ file.items, item.isOf network account = true →
        ∃ found, lookup item.txHash = .ok found) ∧
      file'.items = file.items.filter (store.keeps rfc3339 network account lookup now) ∧
      (r = .ok () ↔ ∀ item ∈ file.items, item.isOf network account = true →
        store.keeps rfc3339 network account lookup now item = false) := by
  unfold reconcile at h
  split at h
  · obtain ⟨rfl, rfl⟩ := Prod.mk.inj h
    exact Or.inl ⟨_, rfl, rfl⟩
  rename_i items hload
  obtain rfl := load_ok hload
  -- without a record of the account nothing is looked up, and nothing is written
  by_cases hany : ¬ file.items.any (·.isOf network account) = true
  · rw [if_pos hany] at h
    obtain ⟨rfl, rfl⟩ := Prod.mk.inj h
    have hnone : ∀ item ∈ file.items, ¬ item.isOf network account = true := by simpa using hany
    refine Or.inr ⟨fun item hitem hof => absurd hof (hnone item hitem), ?_, ?_⟩
    · refine (List.filter_eq_self.mpr fun item hitem => ?_).symm
      rw [keeps, if_neg (hnone item hitem)]
    · exact iff_of_true rfl fun item hitem hof => absurd hof (hnone item hitem)
  rw [if_neg hany] at h
  split at h
  · obtain ⟨rfl, rfl⟩ := Prod.mk.inj h
    exact Or.inl ⟨_, rfl, rfl⟩
  rename_i state hfold
  obtain ⟨hfound, hretained, hpending, hchanged⟩ := foldlM_reconcileItem hfold
  rw [List.nil_append] at hretained
  refine (conclude_cases h).imp id fun ⟨hfile, hr⟩ => ⟨hfound, ?_, ?_⟩
  · by_cases hstate : state.changed = true
    · rw [if_pos hstate] at hfile
      rw [hfile, ← hretained]
      rfl
    · rw [if_neg hstate] at hfile
      have hall := (hchanged.mp (Bool.eq_false_iff.mpr hstate)).2
      rw [hfile, List.filter_eq_self.mpr hall]
  · rw [hr, hpending]
    simp

theorem reconcile_keeps
    (h : store.reconcile rfc3339 network account lookup now outcome file = (r, file'))
    (hmem : item ∈ file.items)
    (hkeeps : store.keeps rfc3339 network account lookup now item = true) :
    item ∈ file'.items := by
  rcases reconcile_cases h with ⟨_, _, rfl⟩ | ⟨_, hitems, _⟩
  · exact hmem
  · exact hitems ▸ List.mem_filter.mpr ⟨hmem, hkeeps⟩

theorem reconcile_removes_only
    (h : store.reconcile rfc3339 network account lookup now outcome file = (r, file'))
    (hmem : item ∈ file'.items) : item ∈ file.items := by
  rcases reconcile_cases h with ⟨_, _, rfl⟩ | ⟨_, hitems, _⟩
  · exact hmem
  · exact List.mem_of_mem_filter (hitems ▸ hmem)

/-- A reconciliation that passes leaves no record of the account. -/
theorem reconcile_ok_clear
    (h : store.reconcile rfc3339 network account lookup now outcome file = (.ok (), file'))
    (hmem : item ∈ file'.items) : item.isOf network account = false := by
  rcases reconcile_cases h with ⟨e, he, _⟩ | ⟨_, hitems, hok⟩
  · exact absurd he (by simp)
  · obtain ⟨hmem, hkeeps⟩ := List.mem_filter.mp (hitems ▸ hmem)
    by_contra hof
    rw [Bool.not_eq_false] at hof
    simp [hok.mp rfl item hmem hof] at hkeeps

/-- A record of the account that stays refuses the write. -/
theorem reconcile_refuses
    (h : store.reconcile rfc3339 network account lookup now outcome file = (r, file'))
    (hmem : item ∈ file.items) (hof : item.isOf network account = true)
    (hkeeps : store.keeps rfc3339 network account lookup now item = true) :
    ∃ e, r = .error e := by
  cases hr : r with
  | error e => exact ⟨e, rfl⟩
  | ok u =>
    rcases reconcile_cases h with ⟨e, he, _⟩ | ⟨_, _, hok⟩
    · exact ⟨e, hr ▸ he⟩
    · simp [hok.mp hr item hmem hof] at hkeeps

/-- A record goes away only when its hash is found or its time is over. -/
theorem reconcile_removed
    (h : store.reconcile rfc3339 network account lookup now outcome file = (r, file'))
    (hmem : item ∈ file.items) (hgone : item ∉ file'.items) :
    item.isOf network account = true ∧ (lookup item.txHash = .ok true ∨
      store.ttlSeconds ≤ pendingAgeSeconds rfc3339 item now) := by
  rcases reconcile_cases h with ⟨_, _, rfl⟩ | ⟨hfound, hitems, _⟩
  · exact absurd hmem hgone
  · have hkeeps : store.keeps rfc3339 network account lookup now item = false := by
      by_contra hkeeps
      exact hgone (hitems ▸ List.mem_filter.mpr ⟨hmem, Bool.eq_true_of_not_eq_false hkeeps⟩)
    by_cases hof : item.isOf network account = true
    · obtain ⟨found, hlookup⟩ := hfound item hmem hof
      cases found <;> simp_all [keeps]
    · simp [keeps, hof] at hkeeps

end PendingTransactionStore

end Fresnica
