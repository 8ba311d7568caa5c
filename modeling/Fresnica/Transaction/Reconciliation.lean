import Fresnica.Transaction.Protection

/-!
# Reconciliation of pending transactions, step by step

`reconcile_with` and `reconcile_with_async` are two loops over the same list. A
lookup is a closure with a state of its own, so its answer may depend on the
calls before it; here it is told their number. Replacing the file is several
steps, and one of them may fail. The build for Windows has a step more: it removes
the old file before the new one takes its name.

Everything that is asked of a reconciliation holds on every platform except one
thing. On Windows, when the last step fails, the old file is already gone and the
new one is thrown away, so that the error leaves no record at all.

## Main definitions

* `SaveStep`, `Host`, `save` — the steps of a replacement, and what the system does
* `reconcileWith`, `reconcileWithAsync`, `put` — the operations, loops written out
* `stillPending` — the records of the account that nothing confirmed and that are young
* `ReconcilesPrecisely`, `PutsPrecisely`, `Precise` — what is asked of the operations
* `ReplacesSafely`, `LeavesFile`, `PutLosesNothing` — when it holds

## Main results

* `reconcileLoop_eq`, `reconcileWith_eq_async` — the two loops agree
* `reconcileLoopAsync_ok`, `reconcileLoopAsync_error` — what a loop computes
* `precise_iff` — the operations are precise exactly when no file is lost
* `reconcileWith_eq_store`, `put_eq_store` — the connection with the store's model
-/

namespace Fresnica.PendingReconciliation

open Foundation
open PendingTransactionStore (Reconciliation november novemberText novemberAccount novemberRecord)

/-- The steps of a replacement, in their order. -/
inductive SaveStep
  | createDirAll
  | write
  | removeFile
  | rename
  deriving DecidableEq, Repr

/-- What the system contributes to one call: the platform of the build, the clock,
and the step of a replacement that fails. -/
structure Host where
  windows : Bool
  rfc3339 : Rfc3339
  now : Instant
  failure : Option (SaveStep × String)

def save (host : Host) (store : PendingTransactionStore) (items : List PendingTransaction)
    (file : StoreFile) : Except String Unit × StoreFile :=
  match host.failure with
  | none => (.ok ⟨⟩, .records items)
  | some (.createDirAll, error) =>
    (.error s!"Unable to create pending transaction directory {store.home}: {error}", file)
  | some (.write, error) =>
    (.error s!"Unable to persist pending transaction state {store.path}.tmp: {error}", file)
  | some (.removeFile, error) =>
    -- the step is there on Windows only, and only for a file that exists
    if host.windows ∧ file ≠ .absent then
      (.error s!"Unable to replace pending transaction state {store.path}: {error}", file)
    else (.ok ⟨⟩, .records items)
  | some (.rename, error) =>
    -- on Windows the old file is gone by now, and the new one is removed after the error
    (.error s!"Unable to replace pending transaction state {store.path}: {error}",
      if host.windows then .absent else file)

/-! ### The two loops -/

/-- The loop of `reconcile_with`: `lookup` answers with the transaction, if there is one. -/
def reconcileLoop {ρ : Type} (host : Host) (store : PendingTransactionStore)
    (network account : String) (lookup : ℕ → String → Except String (Option ρ)) :
    ℕ → Reconciliation → List PendingTransaction → Except String Reconciliation
  | _, state, [] => .ok state
  | calls, state, item :: items =>
    if item.network ≠ network ∨ item.account ≠ account then
      reconcileLoop host store network account lookup calls
        { state with retained := state.retained ++ [item] } items
    else
      match lookup calls item.txHash with
      | .error e => .error e
      | .ok (some _) =>
        reconcileLoop host store network account lookup (calls + 1)
          { state with changed := true } items
      | .ok none =>
        if pendingAgeSeconds host.rfc3339 item host.now ≥ store.ttlSeconds then
          reconcileLoop host store network account lookup (calls + 1)
            { state with changed := true } items
        else
          reconcileLoop host store network account lookup (calls + 1)
            { state with
              pendingHash := some (state.pendingHash.getD item.txHash)
              retained := state.retained ++ [item] } items

/-- The loop of `reconcile_with_async`: `found` answers whether the transaction is final. -/
def reconcileLoopAsync (host : Host) (store : PendingTransactionStore)
    (network account : String) (found : ℕ → String → Except String Bool) :
    ℕ → Reconciliation → List PendingTransaction → Except String Reconciliation
  | _, state, [] => .ok state
  | calls, state, item :: items =>
    if item.network ≠ network ∨ item.account ≠ account then
      reconcileLoopAsync host store network account found calls
        { state with retained := state.retained ++ [item] } items
    else
      match found calls item.txHash with
      | .error e => .error e
      | .ok answer =>
        if answer then
          reconcileLoopAsync host store network account found (calls + 1)
            { state with changed := true } items
        else if pendingAgeSeconds host.rfc3339 item host.now ≥ store.ttlSeconds then
          reconcileLoopAsync host store network account found (calls + 1)
            { state with changed := true } items
        else
          reconcileLoopAsync host store network account found (calls + 1)
            { state with
              pendingHash := some (state.pendingHash.getD item.txHash)
              retained := state.retained ++ [item] } items

/-- What both functions do after the loop. -/
def conclude (host : Host) (store : PendingTransactionStore) (state : Reconciliation)
    (file : StoreFile) : Except String Unit × StoreFile :=
  match if state.changed then save host store state.retained file else (.ok ⟨⟩, file) with
  | (.error e, file) => (.error e, file)
  | (.ok _, file) =>
    match state.pendingHash with
    | some txHash =>
      (.error s!"A previous transaction is still pending confirmation: {txHash}", file)
    | none => (.ok ⟨⟩, file)

def reconcileWith {ρ : Type} (host : Host) (store : PendingTransactionStore)
    (network account : String) (lookup : ℕ → String → Except String (Option ρ))
    (file : StoreFile) : Except String Unit × StoreFile :=
  match store.load file with
  | .error e => (.error e, file)
  | .ok items =>
    if ¬ items.any (·.isOf network account) then (.ok ⟨⟩, file)
    else
      match reconcileLoop host store network account lookup 0 ⟨[], none, false⟩ items with
      | .error e => (.error e, file)
      | .ok state => conclude host store state file

def reconcileWithAsync (host : Host) (store : PendingTransactionStore)
    (network account : String) (found : ℕ → String → Except String Bool)
    (file : StoreFile) : Except String Unit × StoreFile :=
  match store.load file with
  | .error e => (.error e, file)
  | .ok items =>
    if ¬ items.any (·.isOf network account) then (.ok ⟨⟩, file)
    else
      match reconcileLoopAsync host store network account found 0 ⟨[], none, false⟩ items with
      | .error e => (.error e, file)
      | .ok state => conclude host store state file

/-- The two records have one network, account and hash. -/
def sameKey (pending item : PendingTransaction) : Bool :=
  item.network = pending.network ∧ item.account = pending.account ∧ item.txHash = pending.txHash

def put (host : Host) (store : PendingTransactionStore) (pending : PendingTransaction)
    (file : StoreFile) : Except String Unit × StoreFile :=
  match validatePending pending with
  | .error e => (.error e, file)
  | .ok _ =>
    match store.load file with
    | .error e => (.error e, file)
    | .ok items => save host store (items.filter (¬ sameKey pending ·) ++ [pending]) file

/-! ### What is asked of the operations -/

/-- The records of the account, in order. -/
def own (network account : String) (items : List PendingTransaction) : List PendingTransaction :=
  items.filter (·.isOf network account)

/-- The records of everyone else, in order. -/
def others (network account : String) (items : List PendingTransaction) :
    List PendingTransaction :=
  items.filter (¬ ·.isOf network account)

/-- A record with the number of lookups before its own is neither confirmed nor too old. -/
def staysPending (host : Host) (store : PendingTransactionStore)
    (found : ℕ → String → Except String Bool) (record : PendingTransaction × ℕ) : Bool :=
  match found record.2 record.1.txHash with
  | .ok false => pendingAgeSeconds host.rfc3339 record.1 host.now < store.ttlSeconds
  | .ok true | .error _ => false

/-- The records of the account that are neither confirmed nor too old, when `calls`
lookups came before. -/
def stillPending (host : Host) (store : PendingTransactionStore) (network account : String)
    (found : ℕ → String → Except String Bool) (calls : ℕ) (items : List PendingTransaction) :
    List PendingTransaction :=
  (((own network account items).zipIdx calls).filter (staysPending host store found)).map Prod.fst

/-- Every lookup of the account's records answers. -/
def Answered (network account : String) (found : ℕ → String → Except String Bool) (calls : ℕ)
    (items : List PendingTransaction) : Prop :=
  ∀ record ∈ (own network account items).zipIdx calls,
    ∃ answer, found record.2 record.1.txHash = .ok answer

/-- The outcome that the records still pending call for. -/
def clearOrRefuse : List PendingTransaction → Except String Unit
  | [] => .ok ⟨⟩
  | first :: _ =>
    .error s!"A previous transaction is still pending confirmation: {first.txHash}"

/-- A step fails that the build has. -/
def SaveFails (host : Host) : Prop :=
  ∃ step error, host.failure = some (step, error) ∧ (step = .removeFile → host.windows = true)

/-- A reconciliation that removes what it must and nothing else. -/
structure ReconcilesPrecisely (host : Host) (store : PendingTransactionStore)
    (network account : String) (found : ℕ → String → Except String Bool) (file : StoreFile)
    (run : Except String Unit × StoreFile) : Prop where
  sublist : run.2.items.Sublist file.items
  others : others network account run.2.items = others network account file.items
  lookup_error : ∀ record ∈ (own network account file.items).zipIdx, ∀ e,
    found record.2 record.1.txHash = .error e → run.2 = file ∧ ∃ e', run.1 = .error e'
  save_error : SaveFails host → run.2.items = file.items
  ok_clear : run.1 = .ok ⟨⟩ → own network account run.2.items = []
  settled : store.load file = .ok file.items → Answered network account found 0 file.items →
    host.failure = none ∨
      stillPending host store network account found 0 file.items =
        own network account file.items →
    own network account run.2.items = stillPending host store network account found 0 file.items ∧
      run.1 = clearOrRefuse (stillPending host store network account found 0 file.items)

def key (item : PendingTransaction) : String × String × String :=
  (item.network, item.account, item.txHash)

/-- A record put into the file becomes the only one of its key, and is all that changes. -/
structure PutsPrecisely (pending : PendingTransaction) (file : StoreFile)
    (run : Except String Unit × StoreFile) : Prop where
  only : run.1 = .ok ⟨⟩ → run.2.items.filter (sameKey pending) = [pending]
  others : run.2.items.filter (¬ sameKey pending ·) = file.items.filter (¬ sameKey pending ·)
  nodup : (file.items.map key).Nodup → (run.2.items.map key).Nodup
  error : ∀ e, run.1 = .error e → run.2.items = file.items

/-- The two answers of a lookup say the same. -/
def Agrees {ρ : Type} (lookup : ℕ → String → Except String (Option ρ))
    (found : ℕ → String → Except String Bool) : Prop :=
  ∀ calls txHash, found calls txHash = (lookup calls txHash).map Option.isSome

/-- All that is asked of the store. -/
structure Precise {ρ : Type} (host : Host) (store : PendingTransactionStore)
    (network account : String) (lookup : ℕ → String → Except String (Option ρ))
    (pending : PendingTransaction) (file : StoreFile) : Prop where
  agree : ∀ found, Agrees lookup found →
    reconcileWithAsync host store network account found file =
      reconcileWith host store network account lookup file
  reconciles : ReconcilesPrecisely host store network account
    (fun calls txHash => (lookup calls txHash).map Option.isSome) file
    (reconcileWith host store network account lookup file)
  puts : PutsPrecisely pending file (put host store pending file)

/-- The replacement does not lose the old file. -/
def ReplacesSafely (host : Host) : Prop :=
  ¬ (host.windows = true ∧ ∃ error, host.failure = some (.rename, error))

/-- A reconciliation has no file to write: the records cannot be read, a lookup fails,
or every record of the account stays. -/
def LeavesFile (host : Host) (store : PendingTransactionStore) (network account : String)
    (found : ℕ → String → Except String Bool) (file : StoreFile) : Prop :=
  (∃ e, store.load file = .error e) ∨ ¬ Answered network account found 0 file.items ∨
    stillPending host store network account found 0 file.items = own network account file.items

/-- A `put` has no file to write, or no record to lose. -/
def PutLosesNothing (store : PendingTransactionStore) (pending : PendingTransaction)
    (file : StoreFile) : Prop :=
  (∃ e, validatePending pending = .error e) ∨ (∃ e, store.load file = .error e) ∨ file.items = []

variable {ρ : Type} {host : Host} {store : PendingTransactionStore} {network account : String}
variable {lookup : ℕ → String → Except String (Option ρ)}
variable {found : ℕ → String → Except String Bool} {calls : ℕ} {state state' : Reconciliation}
variable {item pending : PendingTransaction} {items : List PendingTransaction}
variable {file : StoreFile}

/-! ### The loops agree -/

theorem reconcileLoop_eq (h : Agrees lookup found) :
    reconcileLoopAsync host store network account found calls state items =
      reconcileLoop host store network account lookup calls state items := by
  induction items generalizing calls state with
  | nil => rfl
  | cons item items ih =>
    unfold reconcileLoopAsync reconcileLoop
    by_cases hother : item.network ≠ network ∨ item.account ≠ account
    · rw [if_pos hother, if_pos hother]
      exact ih
    · rw [if_neg hother, if_neg hother, h calls item.txHash]
      cases lookup calls item.txHash with
      | error e => rfl
      | ok answer =>
        cases answer with
        | some transaction => exact ih
        | none =>
          show (if _ then _ else _) = _
          rw [if_neg (by simp)]
          simp only [ih]

theorem reconcileWith_eq_async (h : Agrees lookup found) :
    reconcileWithAsync host store network account found file =
      reconcileWith host store network account lookup file := by
  unfold reconcileWithAsync reconcileWith
  cases store.load file with
  | error e => rfl
  | ok items => simp only [reconcileLoop_eq h]

/-! ### What a loop computes -/

theorem isOf_iff_not_other :
    item.isOf network account = true ↔ ¬ (item.network ≠ network ∨ item.account ≠ account) := by
  rw [PendingTransaction.isOf_iff, not_or, not_not, not_not]

/-- The list splits into the account's records and the others. -/
theorem own_cons_of_isOf (h : item.isOf network account = true) :
    own network account (item :: items) = item :: own network account items :=
  List.filter_cons_of_pos h

theorem own_cons_of_not_isOf (h : ¬ item.isOf network account = true) :
    own network account (item :: items) = own network account items :=
  List.filter_cons_of_neg h

theorem others_cons_of_isOf (h : item.isOf network account = true) :
    others network account (item :: items) = others network account items :=
  List.filter_cons_of_neg (by simp [h])

theorem others_cons_of_not_isOf (h : ¬ item.isOf network account = true) :
    others network account (item :: items) = item :: others network account items :=
  List.filter_cons_of_pos (by simp [h])

theorem stillPending_cons_of_not_isOf (h : ¬ item.isOf network account = true) :
    stillPending host store network account found calls (item :: items) =
      stillPending host store network account found calls items := by
  unfold stillPending
  rw [own_cons_of_not_isOf h]

theorem stillPending_cons_of_isOf (h : item.isOf network account = true) :
    stillPending host store network account found calls (item :: items) =
      (if staysPending host store found (item, calls) then [item] else []) ++
        stillPending host store network account found (calls + 1) items := by
  unfold stillPending
  rw [own_cons_of_isOf h, List.zipIdx_cons, List.filter_cons]
  split_ifs <;> rfl

theorem answered_cons_of_not_isOf (h : ¬ item.isOf network account = true) :
    Answered network account found calls (item :: items) ↔
      Answered network account found calls items := by
  unfold Answered
  rw [own_cons_of_not_isOf h]

theorem answered_cons_of_isOf (h : item.isOf network account = true) :
    Answered network account found calls (item :: items) ↔
      (∃ answer, found calls item.txHash = .ok answer) ∧
        Answered network account found (calls + 1) items := by
  unfold Answered
  rw [own_cons_of_isOf h, List.zipIdx_cons, List.forall_mem_cons]

theorem stillPending_sublist :
    (stillPending host store network account found calls items).Sublist
      (own network account items) := by
  have h := (List.filter_sublist (p := staysPending host store found)
    (l := (own network account items).zipIdx calls)).map Prod.fst
  rwa [List.zipIdx_map_fst] at h

/-- What the loop hands on to `conclude`. -/
structure Looped (host : Host) (store : PendingTransactionStore) (network account : String)
    (found : ℕ → String → Except String Bool) (calls : ℕ) (state : Reconciliation)
    (items : List PendingTransaction) (state' : Reconciliation) : Prop where
  answered : Answered network account found calls items
  retained : ∃ kept, state'.retained = state.retained ++ kept ∧ kept.Sublist items ∧
    others network account kept = others network account items ∧
    own network account kept = stillPending host store network account found calls items
  pendingHash : state'.pendingHash = (state.pendingHash <|>
    (stillPending host store network account found calls items).head?.map (·.txHash))
  changed : state'.changed = true ↔ state.changed = true ∨
    stillPending host store network account found calls items ≠ own network account items

/-- The record of another account is carried over. -/
theorem Looped.other (hof : ¬ item.isOf network account = true)
    (h : Looped host store network account found calls
      { state with retained := state.retained ++ [item] } items state') :
    Looped host store network account found calls state (item :: items) state' := by
  obtain ⟨kept, hretained, hsub, hothers, hown⟩ := h.retained
  refine ⟨(answered_cons_of_not_isOf hof).mpr h.answered, ⟨item :: kept, ?_, ?_, ?_, ?_⟩, ?_, ?_⟩
  · rw [hretained, List.append_assoc, List.singleton_append]
  · exact hsub.cons_cons item
  · rw [others_cons_of_not_isOf hof, others_cons_of_not_isOf hof, hothers]
  · rw [own_cons_of_not_isOf hof, stillPending_cons_of_not_isOf hof, hown]
  · rw [stillPending_cons_of_not_isOf hof]
    exact h.pendingHash
  · rw [stillPending_cons_of_not_isOf hof, own_cons_of_not_isOf hof]
    exact h.changed

/-- A record of the account that does not stay is dropped. -/
theorem Looped.dropped (hof : item.isOf network account = true)
    (hanswer : ∃ answer, found calls item.txHash = .ok answer)
    (hstays : ¬ staysPending host store found (item, calls) = true)
    (h : Looped host store network account found (calls + 1)
      { state with changed := true } items state') :
    Looped host store network account found calls state (item :: items) state' := by
  obtain ⟨kept, hretained, hsub, hothers, hown⟩ := h.retained
  have hpending : stillPending host store network account found calls (item :: items) =
      stillPending host store network account found (calls + 1) items := by
    rw [stillPending_cons_of_isOf hof, if_neg hstays, List.nil_append]
  refine ⟨(answered_cons_of_isOf hof).mpr ⟨hanswer, h.answered⟩, ⟨kept, hretained, ?_, ?_, ?_⟩,
    ?_, ?_⟩
  · exact hsub.cons item
  · rw [others_cons_of_isOf hof, hothers]
  · rw [hpending, hown]
  · rw [hpending]
    exact h.pendingHash
  · -- the list of what stays is too short to be the whole list
    refine iff_of_true (h.changed.mpr (Or.inl rfl)) (Or.inr fun heq => ?_)
    have hlen : (stillPending host store network account found (calls + 1) items).length ≤
        (own network account items).length := stillPending_sublist.length_le
    rw [← hpending, heq, own_cons_of_isOf hof, List.length_cons] at hlen
    omega

/-- A record of the account that stays is kept, and may be the first. -/
theorem Looped.stays (hof : item.isOf network account = true)
    (hanswer : ∃ answer, found calls item.txHash = .ok answer)
    (hstays : staysPending host store found (item, calls) = true)
    (h : Looped host store network account found (calls + 1)
      { state with
        pendingHash := some (state.pendingHash.getD item.txHash)
        retained := state.retained ++ [item] } items state') :
    Looped host store network account found calls state (item :: items) state' := by
  obtain ⟨kept, hretained, hsub, hothers, hown⟩ := h.retained
  have hpending : stillPending host store network account found calls (item :: items) =
      item :: stillPending host store network account found (calls + 1) items := by
    rw [stillPending_cons_of_isOf hof, if_pos hstays, List.singleton_append]
  refine ⟨(answered_cons_of_isOf hof).mpr ⟨hanswer, h.answered⟩, ⟨item :: kept, ?_, ?_, ?_, ?_⟩,
    ?_, ?_⟩
  · rw [hretained, List.append_assoc, List.singleton_append]
  · exact hsub.cons_cons item
  · rw [others_cons_of_isOf hof, others_cons_of_isOf hof, hothers]
  · rw [own_cons_of_isOf hof, hpending, hown]
  · rw [h.pendingHash, hpending]
    cases state.pendingHash <;> rfl
  · rw [h.changed, hpending, own_cons_of_isOf hof, Ne, Ne, List.cons.injEq,
      and_iff_right rfl]

/-- A loop that ends has looked up every record of the account. -/
theorem reconcileLoopAsync_ok
    (h : reconcileLoopAsync host store network account found calls state items = .ok state') :
    Looped host store network account found calls state items state' := by
  induction items generalizing calls state with
  | nil =>
    obtain rfl := Except.ok.inj h
    refine ⟨fun record hmem => absurd hmem (by simp [own]), ⟨[], ?_, ?_, rfl, rfl⟩, ?_, ?_⟩
    · exact (List.append_nil _).symm
    · exact List.Sublist.refl _
    · cases state.pendingHash <;> rfl
    · simp [stillPending, own]
  | cons item items ih =>
    unfold reconcileLoopAsync at h
    by_cases hother : item.network ≠ network ∨ item.account ≠ account
    · rw [if_pos hother] at h
      exact Looped.other (fun hof => isOf_iff_not_other.mp hof hother) (ih h)
    rw [if_neg hother] at h
    have hof := isOf_iff_not_other.mpr hother
    cases hfound : found calls item.txHash with
    | error e => simp [hfound] at h
    | ok answer =>
      simp only [hfound] at h
      -- a record whose transaction is found is dropped, as is one that is too old
      cases answer with
      | true =>
        rw [if_pos rfl] at h
        exact Looped.dropped hof ⟨true, hfound⟩ (by simp [staysPending, hfound]) (ih h)
      | false =>
        rw [if_neg (by simp)] at h
        by_cases hage : pendingAgeSeconds host.rfc3339 item host.now ≥ store.ttlSeconds
        · rw [if_pos hage] at h
          refine Looped.dropped hof ⟨false, hfound⟩ ?_ (ih h)
          simpa [staysPending, hfound] using hage
        · rw [if_neg hage] at h
          refine Looped.stays hof ⟨false, hfound⟩ ?_ (ih h)
          simpa [staysPending, hfound] using lt_of_not_ge hage

/-- A loop that fails has met a lookup that failed. -/
theorem reconcileLoopAsync_error {e : String}
    (h : reconcileLoopAsync host store network account found calls state items = .error e) :
    ¬ Answered network account found calls items := by
  induction items generalizing calls state with
  | nil => exact absurd h (by simp [reconcileLoopAsync])
  | cons item items ih =>
    unfold reconcileLoopAsync at h
    by_cases hother : item.network ≠ network ∨ item.account ≠ account
    · rw [if_pos hother] at h
      rw [answered_cons_of_not_isOf fun hof => isOf_iff_not_other.mp hof hother]
      exact ih h
    rw [if_neg hother] at h
    rw [answered_cons_of_isOf (isOf_iff_not_other.mpr hother)]
    intro hanswered
    obtain ⟨⟨answer, hanswer⟩, hrest⟩ := hanswered
    simp only [hanswer] at h
    -- whatever the answer, the failure comes from a later record
    split_ifs at h <;> exact ih h hrest

/-! ### Replacing the file -/

theorem save_of_not_saveFails (h : ¬ SaveFails host) :
    save host store items file = (.ok ⟨⟩, .records items) := by
  unfold save
  cases hfailure : host.failure with
  | none => rfl
  | some failure =>
    obtain ⟨step, error⟩ := failure
    cases step with
    | removeFile =>
      have hwindows : ¬ host.windows = true := fun hwindows =>
        h ⟨_, error, hfailure, fun _ => hwindows⟩
      simp [hwindows]
    | createDirAll | write | rename => exact absurd ⟨_, error, hfailure, by simp⟩ h

/-- Where the old file is not lost, a replacement is made or leaves it as it was. -/
theorem save_of_safe (store : PendingTransactionStore) (items : List PendingTransaction)
    (file : StoreFile) (h : ReplacesSafely host) :
    save host store items file = (.ok ⟨⟩, .records items) ∨
      ∃ e, save host store items file = (.error e, file) := by
  unfold save
  cases hfailure : host.failure with
  | none => exact Or.inl rfl
  | some failure =>
    obtain ⟨step, error⟩ := failure
    cases step with
    | createDirAll | write => exact Or.inr ⟨_, rfl⟩
    | removeFile =>
      by_cases hstep : host.windows ∧ file ≠ .absent
      · exact Or.inr ⟨_, if_pos hstep⟩
      · exact Or.inl (if_neg hstep)
    | rename =>
      have hwindows : ¬ host.windows = true := fun hwindows => h ⟨hwindows, error, hfailure⟩
      refine Or.inr ⟨_, Prod.ext rfl ?_⟩
      exact if_neg hwindows

/-- A step that fails leaves the old file, unless the failure loses it. -/
theorem save_of_saveFails (store : PendingTransactionStore) (items : List PendingTransaction)
    (h : SaveFails host) (hsafe : ReplacesSafely host)
    (hfile : file ≠ .absent) : ∃ e, save host store items file = (.error e, file) := by
  obtain ⟨step, error, hfailure, hstep⟩ := h
  refine (save_of_safe store items file hsafe).resolve_left fun hsaved => ?_
  unfold save at hsaved
  rw [hfailure] at hsaved
  cases step with
  | createDirAll | write | rename => simp at hsaved
  | removeFile => simp [hstep rfl, hfile] at hsaved

/-- The failure that loses the file leaves none. -/
theorem save_of_not_safe (store : PendingTransactionStore) (items : List PendingTransaction)
    (file : StoreFile) (h : ¬ ReplacesSafely host) :
    ∃ e, save host store items file = (.error e, .absent) := by
  obtain ⟨hwindows, error, hfailure⟩ := not_not.mp h
  refine ⟨s!"Unable to replace pending transaction state {store.path}: {error}", ?_⟩
  unfold save
  rw [hfailure, hwindows]
  rfl

theorem saveFails_of_not_safe (h : ¬ ReplacesSafely host) : SaveFails host := by
  obtain ⟨hwindows, error, hfailure⟩ := not_not.mp h
  exact ⟨.rename, error, hfailure, fun _ => hwindows⟩

/-! ### A reconciliation is precise where no file is lost -/

theorem conclude_unchanged {pendings : List PendingTransaction} (h : state.changed = false)
    (hpending : state.pendingHash = pendings.head?.map (·.txHash)) :
    conclude host store state file = (clearOrRefuse pendings, file) := by
  unfold conclude
  rw [h, hpending]
  cases pendings <;> rfl

theorem conclude_saved {pendings : List PendingTransaction} (h : state.changed = true)
    (hsave : save host store state.retained file = (.ok ⟨⟩, .records state.retained))
    (hpending : state.pendingHash = pendings.head?.map (·.txHash)) :
    conclude host store state file = (clearOrRefuse pendings, .records state.retained) := by
  unfold conclude
  rw [if_pos h, hsave, hpending]
  cases pendings <;> rfl

theorem conclude_error {e : String} {file' : StoreFile} (h : state.changed = true)
    (hsave : save host store state.retained file = (.error e, file')) :
    conclude host store state file = (.error e, file') := by
  unfold conclude
  rw [if_pos h, hsave]

/-- An error that leaves the file is precise, if no settled outcome was called for. -/
theorem ReconcilesPrecisely.of_error {e : String}
    (h : store.load file = .ok file.items → Answered network account found 0 file.items →
      ¬ (host.failure = none ∨ stillPending host store network account found 0 file.items =
        own network account file.items)) :
    ReconcilesPrecisely host store network account found file (.error e, file) where
  sublist := List.Sublist.refl _
  others := rfl
  lookup_error record hmem e' he := ⟨rfl, e, rfl⟩
  save_error _ := rfl
  ok_clear hok := absurd hok (by simp)
  settled hload hanswered hsettled := absurd hsettled (h hload hanswered)

/-- An outcome that keeps what the loop keeps is precise. -/
theorem ReconcilesPrecisely.of_kept {file' : StoreFile}
    (hanswered : Answered network account found 0 file.items)
    (hsub : file'.items.Sublist file.items)
    (hothers : PendingReconciliation.others network account file'.items =
      PendingReconciliation.others network account file.items)
    (hown : own network account file'.items =
      stillPending host store network account found 0 file.items)
    (hsave : SaveFails host → file'.items = file.items) :
    ReconcilesPrecisely host store network account found file
      (clearOrRefuse (stillPending host store network account found 0 file.items), file') where
  sublist := hsub
  others := hothers
  lookup_error record hmem e he := by
    obtain ⟨answer, hanswer⟩ := hanswered record hmem
    exact absurd (hanswer.symm.trans he) (by simp)
  save_error := hsave
  ok_clear hok := by
    rw [hown]
    cases hpending : stillPending host store network account found 0 file.items with
    | nil => rfl
    | cons first rest => simp [hpending, clearOrRefuse] at hok
  settled _ _ _ := ⟨hown, rfl⟩

theorem file_ne_absent (h : own network account file.items ≠ []) : file ≠ .absent := by
  intro habsent
  subst habsent
  exact h rfl

/-- The part after the loop. -/
theorem reconcilesPrecisely_conclude
    (h : Looped host store network account found 0 ⟨[], none, false⟩ file.items state)
    (hsafe : ReplacesSafely host ∨
      stillPending host store network account found 0 file.items =
        own network account file.items) :
    ReconcilesPrecisely host store network account found file
      (conclude host store state file) := by
  have hpending : state.pendingHash =
      (stillPending host store network account found 0 file.items).head?.map (·.txHash) :=
    h.pendingHash
  -- nothing is written when every record of the account is still pending
  by_cases hall : stillPending host store network account found 0 file.items =
      own network account file.items
  · have hchanged : state.changed = false := by
      rw [Bool.eq_false_iff, Ne, h.changed]
      simp [hall]
    rw [conclude_unchanged hchanged hpending]
    exact .of_kept h.answered (List.Sublist.refl _) rfl hall.symm fun _ => rfl
  have hchanged : state.changed = true := h.changed.mpr (Or.inr hall)
  by_cases hfails : SaveFails host
  · have hfile : file ≠ .absent := by
      have hown : own network account file.items ≠ [] := by
        intro hnil
        apply hall
        rw [hnil]
        exact List.sublist_nil.mp (hnil ▸ stillPending_sublist)
      exact file_ne_absent hown
    obtain ⟨e, hsave⟩ := save_of_saveFails store state.retained hfails
      (hsafe.resolve_right hall) hfile
    rw [conclude_error hchanged hsave]
    -- the failed write left the file, and some record was settled all the same
    refine .of_error fun _ _ hsettled => hsettled.elim (fun hnone => ?_) hall
    obtain ⟨step, error, hfailure, -⟩ := hfails
    exact absurd (hfailure.symm.trans hnone) (by simp)
  · rw [conclude_saved hchanged (save_of_not_saveFails hfails) hpending]
    obtain ⟨kept, hretained, hsub, hothers, hown⟩ := h.retained
    rw [List.nil_append] at hretained
    have hitems : (StoreFile.records state.retained).items = kept := hretained
    exact .of_kept h.answered (hitems ▸ hsub) (hitems ▸ hothers) (hitems ▸ hown)
      fun hfails' => absurd hfails' hfails

theorem any_isOf_iff :
    items.any (·.isOf network account) = true ↔ own network account items ≠ [] := by
  rw [own, Ne, List.filter_eq_nil_iff, List.any_eq_true]
  push Not
  rfl

/-- The outcome of a reconciliation that reads the records. -/
theorem reconcileWithAsync_of_load (host : Host) (hload : store.load file = .ok file.items)
    (hown : own network account file.items ≠ [])
    (hanswered : Answered network account found 0 file.items) :
    ∃ state, Looped host store network account found 0 ⟨[], none, false⟩ file.items state ∧
      reconcileWithAsync host store network account found file =
        conclude host store state file := by
  unfold reconcileWithAsync
  rw [hload]
  simp only [if_neg (not_not.mpr (any_isOf_iff.mpr hown))]
  cases hloop : reconcileLoopAsync host store network account found 0 ⟨[], none, false⟩
      file.items with
  | error e => exact absurd hanswered (reconcileLoopAsync_error hloop)
  | ok state => exact ⟨state, reconcileLoopAsync_ok hloop, rfl⟩

theorem reconcilesPrecisely_of_safe
    (hsafe : ReplacesSafely host ∨ LeavesFile host store network account found file) :
    ReconcilesPrecisely host store network account found file
      (reconcileWithAsync host store network account found file) := by
  cases hload : store.load file with
  | error e =>
    have hrun : reconcileWithAsync host store network account found file = (.error e, file) := by
      unfold reconcileWithAsync
      rw [hload]
    rw [hrun]
    exact .of_error fun hok => absurd (hload.symm.trans hok) (by simp)
  | ok items =>
    obtain rfl := PendingTransactionStore.load_ok hload
    by_cases hown : own network account file.items = []
    -- without a record of the account, nobody is asked and nothing is written
    · have hrun : reconcileWithAsync host store network account found file = (.ok ⟨⟩, file) := by
        unfold reconcileWithAsync
        rw [hload]
        exact if_pos fun hany => any_isOf_iff.mp hany hown
      have hnone : stillPending host store network account found 0 file.items = [] :=
        List.sublist_nil.mp (hown ▸ stillPending_sublist)
      have hanswered : Answered network account found 0 file.items := by
        intro record hmem
        rw [hown] at hmem
        simp at hmem
      have hprecise : ReconcilesPrecisely host store network account found file
          (clearOrRefuse (stillPending host store network account found 0 file.items), file) :=
        .of_kept hanswered (List.Sublist.refl _) rfl (hown.trans hnone.symm) fun _ => rfl
      rw [hnone] at hprecise
      rw [hrun]
      exact hprecise
    by_cases hanswered : Answered network account found 0 file.items
    · obtain ⟨state, hlooped, hrun⟩ :=
        reconcileWithAsync_of_load host hload hown hanswered
      rw [hrun]
      refine reconcilesPrecisely_conclude hlooped (hsafe.imp_right fun hleaves => ?_)
      rcases hleaves with ⟨e, he⟩ | hlookup | hall
      · exact absurd (hload.symm.trans he) (by simp)
      · exact absurd hanswered hlookup
      · exact hall
    · unfold reconcileWithAsync
      rw [hload]
      simp only [if_neg (not_not.mpr (any_isOf_iff.mpr hown))]
      cases hloop : reconcileLoopAsync host store network account found 0 ⟨[], none, false⟩
          file.items with
      | error e => exact .of_error fun _ h => absurd h hanswered
      | ok state => exact absurd (reconcileLoopAsync_ok hloop).answered hanswered

/-- A reconciliation that has to write while the replacement loses the file is not precise. -/
theorem not_reconcilesPrecisely (hloses : ¬ ReplacesSafely host)
    (hleaves : ¬ LeavesFile host store network account found file) :
    ¬ ReconcilesPrecisely host store network account found file
      (reconcileWithAsync host store network account found file) := by
  obtain ⟨hload, hanswered, hall⟩ : (¬ ∃ e, store.load file = .error e) ∧
      Answered network account found 0 file.items ∧
      stillPending host store network account found 0 file.items ≠
        own network account file.items := by
    unfold LeavesFile at hleaves
    push Not at hleaves
    exact ⟨by push Not; exact hleaves.1, hleaves.2⟩
  cases hitems : store.load file with
  | error e => exact absurd ⟨e, hitems⟩ hload
  | ok items =>
    obtain rfl := PendingTransactionStore.load_ok hitems
    -- a settled record is one of the account, so the loop was entered and the file written
    have hown : own network account file.items ≠ [] := fun hnil =>
      hall ((List.sublist_nil.mp (hnil ▸ stillPending_sublist)).trans hnil.symm)
    obtain ⟨state, hlooped, hrun⟩ := reconcileWithAsync_of_load host hitems hown hanswered
    obtain ⟨e, hsave⟩ := save_of_not_safe store state.retained file hloses
    rw [hrun, conclude_error (hlooped.changed.mpr (Or.inr hall)) hsave]
    intro hprecise
    have hnil : [] = file.items := hprecise.save_error (saveFails_of_not_safe hloses)
    rw [← hnil] at hown
    exact hown rfl

/-! ### Putting a record -/

theorem key_eq_iff : key item = key pending ↔ sameKey pending item = true := by
  simp [key, sameKey, Prod.ext_iff]

theorem putsPrecisely_of_error {e : String} : PutsPrecisely pending file (.error e, file) where
  only h := absurd h (by simp)
  others := rfl
  nodup h := h
  error _ _ := rfl

theorem sameKey_self : sameKey pending pending = true := by
  simp [sameKey]

theorem putsPrecisely_saved :
    PutsPrecisely pending file
      (.ok ⟨⟩, .records (file.items.filter (¬ sameKey pending ·) ++ [pending])) where
  only _ := by
    show (file.items.filter (¬ sameKey pending ·) ++ [pending]).filter (sameKey pending) = _
    rw [List.filter_append, List.filter_filter]
    simp [sameKey_self]
  others := by
    show (file.items.filter (¬ sameKey pending ·) ++ [pending]).filter (¬ sameKey pending ·) = _
    rw [List.filter_append, List.filter_filter]
    simp [sameKey_self]
  -- the record that is put in has replaced the one of its key
  nodup h := by
    show ((file.items.filter (¬ sameKey pending ·) ++ [pending]).map key).Nodup
    rw [List.map_append, List.nodup_append]
    refine ⟨h.sublist ((List.filter_sublist).map key), by simp, ?_⟩
    intro k hk k' hk' heq
    obtain ⟨other, hother, rfl⟩ := List.mem_map.mp hk
    have hne := (List.mem_filter.mp hother).2
    have hkey : key other = key pending := by
      rw [heq]
      simpa using hk'
    simp [key_eq_iff.mp hkey] at hne
  error e h := absurd h (by simp)

theorem putsPrecisely_iff :
    PutsPrecisely pending file (put host store pending file) ↔
      ReplacesSafely host ∨ PutLosesNothing store pending file := by
  unfold put PutLosesNothing
  cases hvalid : validatePending pending with
  | error e => exact iff_of_true putsPrecisely_of_error (Or.inr (Or.inl ⟨e, rfl⟩))
  | ok u =>
    cases hload : store.load file with
    | error e => exact iff_of_true putsPrecisely_of_error (Or.inr (Or.inr (Or.inl ⟨e, rfl⟩)))
    | ok items =>
      obtain rfl := PendingTransactionStore.load_ok hload
      -- either the replacement is safe, or it removes the file and then fails
      by_cases hsafe : ReplacesSafely host
      · refine iff_of_true ?_ (Or.inl hsafe)
        rcases save_of_safe store (file.items.filter (¬ sameKey pending ·) ++ [pending]) file
          hsafe with h | ⟨e, h⟩
        · simp only [h]
          exact putsPrecisely_saved
        · simp only [h]
          exact putsPrecisely_of_error
      · obtain ⟨e, h⟩ := save_of_not_safe store
          (file.items.filter (¬ sameKey pending ·) ++ [pending]) file hsafe
        simp only [h, hsafe, false_or, reduceCtorEq, exists_false]
        constructor
        · intro hprecise
          exact (hprecise.error e rfl).symm
        · intro hnil
          exact ⟨fun h => absurd h (by simp), by rw [hnil]; rfl, fun _ => List.nodup_nil,
            fun _ _ => hnil.symm⟩

/-- Both implementations are precise, and agree, exactly when the replacement is safe
or there is nothing for it to lose. -/
theorem precise_iff :
    Precise host store network account lookup pending file ↔
      ReplacesSafely host ∨
        LeavesFile host store network account
          (fun calls txHash => (lookup calls txHash).map Option.isSome) file ∧
        PutLosesNothing store pending file := by
  have hagrees : Agrees lookup fun calls txHash => (lookup calls txHash).map Option.isSome :=
    fun _ _ => rfl
  constructor
  · intro h
    refine or_iff_not_imp_left.mpr fun hloses => ⟨?_, ?_⟩
    · by_contra hleaves
      refine not_reconcilesPrecisely hloses hleaves ?_
      rw [reconcileWith_eq_async hagrees]
      exact h.reconciles
    · exact (putsPrecisely_iff.mp h.puts).resolve_left hloses
  · intro h
    refine ⟨fun found hfound => reconcileWith_eq_async hfound, ?_, ?_⟩
    · rw [← reconcileWith_eq_async hagrees]
      exact reconcilesPrecisely_of_safe (h.imp_right And.left)
    · exact putsPrecisely_iff.mpr (h.imp_right And.right)

/-! ### The file that is lost -/

/-- A Windows host on which the new file cannot take the old one's name. -/
def lockedHost : Host := ⟨true, novemberText, november, some (.rename, "Access is denied.")⟩

/-- A record of another account. -/
def otherRecord : PendingTransaction :=
  ⟨"testnet", "GOTHER", "decaf", "transaction", "2023-11-14T22:13:20Z"⟩

/-- The transaction is confirmed; the error leaves neither record. -/
theorem locked_host_loses_records :
    ¬ Precise lockedHost (.forHome "/home/wallet") "testnet" novemberAccount
      (fun _ _ => .ok (some ())) novemberRecord (.records [novemberRecord, otherRecord]) := by
  intro h
  have hothers := h.reconciles.others
  exact absurd hothers (by decide +kernel)

/-! ### The store's model -/

/-- The outcome of a replacement outside Windows. -/
def Host.outcome (host : Host) : SaveOutcome :=
  match host.failure with
  | none | some (.removeFile, _) => .saved
  | some (.createDirAll, error) => .noDirectory error
  | some (.write, error) => .notPersisted error
  | some (.rename, error) => .notReplaced error

theorem save_eq_store (h : host.windows = false) :
    save host store items file = store.save host.outcome items file := by
  unfold save Host.outcome PendingTransactionStore.save
  cases host.failure with
  | none => rfl
  | some failure =>
    obtain ⟨step, error⟩ := failure
    cases step <;> simp [h]

theorem put_eq_store (h : host.windows = false) :
    put host store pending file = store.put pending host.outcome file := by
  unfold put PendingTransactionStore.put
  cases validatePending pending with
  | error e => rfl
  | ok u =>
    cases store.load file with
    | error e => rfl
    | ok items =>
      have hkeep : (fun item => decide (¬ sameKey pending item = true)) = fun item =>
          decide ¬ (item.isOf pending.network pending.account ∧ item.txHash = pending.txHash) := by
        funext item
        simp [sameKey, PendingTransaction.isOf, and_assoc]
      simp only [save_eq_store h, hkeep]

theorem conclude_eq_store (h : host.windows = false) :
    conclude host store state file = store.conclude host.outcome state file := by
  unfold conclude PendingTransactionStore.conclude
  rewrite [save_eq_store h]
  rfl

theorem reconcileLoopAsync_eq_store {answers : String → Except String Bool} :
    reconcileLoopAsync host store network account (fun _ => answers) calls state items =
      items.foldlM (store.reconcileItem host.rfc3339 network account answers host.now) state := by
  induction items generalizing calls state with
  | nil => rfl
  | cons item items ih =>
    unfold reconcileLoopAsync
    rw [List.foldlM_cons, PendingTransactionStore.reconcileItem]
    by_cases hother : item.network ≠ network ∨ item.account ≠ account
    · rw [if_pos hother, if_pos fun hof => isOf_iff_not_other.mp hof hother]
      exact ih
    rw [if_neg hother, if_neg (not_not.mpr (isOf_iff_not_other.mpr hother))]
    cases answers item.txHash with
    | error e => rfl
    | ok answer =>
      rw [ok_bind]
      simp only [ih]
      split_ifs <;> rfl

/-- Outside Windows, and for a lookup without a state, the reconciliation is the store's. -/
theorem reconcileWith_eq_store {answers : String → Except String (Option ρ)}
    (h : host.windows = false) :
    reconcileWith host store network account (fun _ => answers) file =
      store.reconcileWith host.rfc3339 network account answers host.now host.outcome file := by
  have hagrees : Agrees (fun _ => answers) fun _ txHash => (answers txHash).map Option.isSome :=
    fun _ _ => rfl
  rw [← reconcileWith_eq_async hagrees]
  unfold reconcileWithAsync PendingTransactionStore.reconcileWith PendingTransactionStore.reconcile
  cases store.load file with
  | error e => rfl
  | ok items =>
    by_cases hany : items.any (·.isOf network account) = true
    · simp only [hany, not_true_eq_false, if_false, reconcileLoopAsync_eq_store]
      cases items.foldlM (store.reconcileItem host.rfc3339 network account
          (fun txHash => (answers txHash).map Option.isSome) host.now) ⟨[], none, false⟩ with
      | error e => rfl
      | ok state => exact conclude_eq_store h
    · exact (if_pos hany).trans (if_pos hany).symm

end Fresnica.PendingReconciliation
