import Fresnica.Foundation.Dict
import Fresnica.Foundation.Slice

/-!
# The cached operations of an account

The memory store keeps the operations of one account on one network by their paging
token, lists them from the newest to the oldest, and trims them to the newest ones. A
token is a text of digits that the store compares as an integer, so it is an integer
here; a record without one is not kept.

## Main definitions

* `Operation` — a record of Horizon
* `saveOperations`, `getOperations`, `trimOperations` — the store

## Main results

* `Holds` — the store has these operations, in ascending order
* `Holds.save`, `Holds.trim` — how the store changes
-/

namespace Fresnica.Python

open Foundation

variable {Body : Type}

/-- A record of Horizon, with the rest of its fields. -/
structure Operation (Body : Type) where
  pagingToken : Option ℤ
  id : Option ℤ
  body : Body
  deriving DecidableEq, Repr

namespace Operation

/-- The paging token, or else the identifier. -/
def token (item : Operation Body) : Option ℤ := item.pagingToken.or item.id

/-- What the records are sorted by. -/
def sortKey (item : Operation Body) : ℤ := item.token.getD 0

end Operation

abbrev Bucket (Body : Type) := Dict ℤ (Operation Body)

def saveOperation (bucket : Bucket Body) (item : Operation Body) : Bucket Body :=
  match item.token with
  | some token => bucket.set token item
  | none => bucket

def saveOperations (bucket : Bucket Body) (records : List (Operation Body)) : Bucket Body :=
  records.foldl saveOperation bucket

/-- The newest operations, or all of them without a limit. -/
def getOperations (bucket : Bucket Body) (limit : Option ℕ) : List (Operation Body) :=
  let items := bucket.values.mergeSort fun a b => decide (b.sortKey ≤ a.sortKey)
  match limit with
  | none => items
  | some limit => items.take limit

/-- The rows that are removed, and what is kept. -/
def trimOperations (bucket : Bucket Body) (limit : ℕ) : ℕ × Bucket Body :=
  if bucket.entries.length ≤ limit then (0, bucket)
  else
    let tokens := bucket.keys.mergeSort fun a b => decide (b ≤ a)
    let keep := tokens.take limit
    (bucket.entries.length - keep.length, bucket.filterKeys fun token => keep.contains token)

/-! ### What the store has -/

variable {bucket : Bucket Body} {items records : List (Operation Body)} {n : ℕ}

/-- The store has these operations, each one under its token. -/
structure Holds (bucket : Bucket Body) (items : List (Operation Body)) : Prop where
  perm : bucket.values.Perm items
  token : ∀ entry ∈ bucket.entries, entry.2.token = some entry.1

theorem holds_empty : Holds (.empty : Bucket Body) [] where
  perm := .nil
  token := by
    intro entry h
    exact absurd h List.not_mem_nil

theorem Operation.sortKey_of_token {item : Operation Body} {token : ℤ}
    (h : item.token = some token) : item.sortKey = token := by
  rw [sortKey, h, Option.getD_some]

namespace Holds

theorem keys_eq (h : Holds bucket items) : bucket.keys = bucket.values.map Operation.sortKey := by
  rw [Dict.keys, Dict.values, List.map_map]
  apply List.map_congr_left
  intro entry hentry
  exact (Operation.sortKey_of_token (h.token entry hentry)).symm

theorem length_eq (h : Holds bucket items) : bucket.entries.length = items.length := by
  rw [← h.perm.length_eq, Dict.values, List.length_map]

theorem of_perm {others : List (Operation Body)} (h : Holds bucket items)
    (hperm : items.Perm others) : Holds bucket others :=
  ⟨h.perm.trans hperm, h.token⟩

theorem getOperations_none (h : Holds bucket items)
    (hascending : Ascending Operation.sortKey items) :
    getOperations bucket none = items.reverse :=
  hascending.mergeSort_desc h.perm

theorem getOperations_some (h : Holds bucket items)
    (hascending : Ascending Operation.sortKey items) :
    getOperations bucket (some n) = items.reverse.take n := by
  rw [← h.getOperations_none hascending]
  rfl

/-- A record with a new key is added. -/
theorem saveOperation {item : Operation Body} (h : Holds bucket items) (hitem : item.token.isSome)
    (hnew : item.sortKey ∉ items.map Operation.sortKey) :
    Holds (saveOperation bucket item) (item :: items) := by
  obtain ⟨token, htoken⟩ := Option.isSome_iff_exists.mp hitem
  have hnotMem : token ∉ bucket.keys := by
    rw [h.keys_eq, (h.perm.map Operation.sortKey).mem_iff, ← Operation.sortKey_of_token htoken]
    exact hnew
  have hentries := Dict.entries_set_of_notMem item hnotMem
  rw [Python.saveOperation, htoken]
  constructor
  · rw [Dict.values, hentries, List.map_append]
    exact (h.perm.append_right _).trans List.perm_append_comm
  · intro entry hentry
    rw [hentries, List.mem_append, List.mem_singleton] at hentry
    rcases hentry with hold | rfl
    · exact h.token entry hold
    · exact htoken

/-- A page of new records is added. -/
theorem save (h : Holds bucket items) (htokens : ∀ item ∈ records, item.token.isSome)
    (hnodup : ((records ++ items).map Operation.sortKey).Nodup) :
    Holds (saveOperations bucket records) (records ++ items) := by
  induction records generalizing bucket items with
  | nil => exact h
  | cons record records ih =>
    have hmiddle : (records ++ record :: items).Perm (record :: records ++ items) :=
      List.perm_middle
    rw [List.cons_append, List.map_cons, List.nodup_cons, List.map_append] at hnodup
    have hrecord : record.sortKey ∉ items.map Operation.sortKey := by
      intro hmem
      exact hnodup.1 (List.mem_append_right _ hmem)
    have hfirst := h.saveOperation (htokens record List.mem_cons_self) hrecord
    apply (ih hfirst _ _).of_perm hmiddle
    · intro item hitem
      exact htokens item (List.mem_cons_of_mem _ hitem)
    · rw [(hmiddle.map Operation.sortKey).nodup_iff, List.cons_append, List.map_cons,
        List.nodup_cons, List.map_append]
      exact hnodup

/-- Trimming keeps the newest. -/
theorem trim (h : Holds bucket items) (hascending : Ascending Operation.sortKey items) :
    Holds (trimOperations bucket n).2 (items.drop (items.length - n)) := by
  unfold trimOperations
  rw [h.length_eq]
  split_ifs with hle
  · rw [Nat.sub_eq_zero_of_le hle, List.drop_zero]
    exact h
  -- the tokens that are kept are those of the newest operations
  have hkeys : (bucket.keys.mergeSort fun a b => decide (b ≤ a)).take n =
      ((items.drop (items.length - n)).map Operation.sortKey).reverse := by
    have hsorted : Ascending (fun key : ℤ => key) (items.map Operation.sortKey) :=
      List.pairwise_map.mpr hascending
    rw [hsorted.mergeSort_desc (h.keys_eq ▸ h.perm.map Operation.sortKey), List.take_reverse,
      List.length_map, List.map_drop]
  have hkeep : ∀ item ∈ items, (((bucket.keys.mergeSort fun a b => decide (b ≤ a)).take n).contains
      item.sortKey = true ↔ item ∈ items.drop (items.length - n)) := by
    intro item hitem
    rw [hkeys, List.contains_iff_mem, List.mem_reverse, List.mem_map]
    constructor
    · rintro ⟨other, hother, heq⟩
      rw [← hascending.eq_of_key_eq (List.mem_of_mem_drop hother) hitem heq]
      exact hother
    · intro hmem
      exact ⟨item, hmem, rfl⟩
  constructor
  · have hvalues : ∀ p : ℤ → Bool, (bucket.filterKeys p).values =
        bucket.values.filter fun item => p item.sortKey := by
      intro p
      rw [Dict.values, Dict.values, List.filter_map]
      congr 1
      apply List.filter_congr
      intro entry hentry
      rw [Function.comp_apply, Operation.sortKey_of_token (h.token entry hentry)]
    rw [hvalues, ← hascending.filter_mem_drop hkeep]
    exact h.perm.filter _
  · intro entry hentry
    exact h.token entry (List.mem_of_mem_filter hentry)

end Holds

end Fresnica.Python
