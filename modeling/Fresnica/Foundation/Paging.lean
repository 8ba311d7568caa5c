import Fresnica.Foundation.Keyed
import Fresnica.Foundation.Slice

/-!
# Pages of a listing

A server lists what it holds by a key, from either end, in pages that begin after a cursor. The
pages of a list that only grows at its end are its next slices, and a dictionary that saves them
keeps a slice. A list that changes between two requests is read downwards: what is listed all
along is found, and what is found was listed.

## Main definitions

* `pageOf` — the answer to a request
* `Dict.Holds` — a dictionary has some records, each one under its key
* `Walks` — pages that are read downwards from a list that changes

## Main results

* `pageOf_above`, `pageOf_head` — the pages are the next slices
* `Dict.Holds.saveAll` — a page of new records is added
* `Walks.mem_of_always`, `Walks.mem_once` — what is found
-/

namespace Foundation

variable {α κ σ : Type}

/-- The next elements after the cursor, at most `limit` of them. -/
def pageOf [LT κ] [DecidableLT κ] (key : α → κ) (held : List α) (limit : ℕ) (cursor : Option κ)
    (desc : Bool) : List α :=
  let after := match cursor, desc with
    | none, false => held
    | none, true => held.reverse
    | some token, false => held.filter fun item => decide (token < key item)
    | some token, true => (held.filter fun item => decide (key item < token)).reverse
  after.take limit

section Slices

variable [LinearOrder κ] {key : α → κ} {xs : List α} {x : α} {i held limit : ℕ}

/-- The page above an element. -/
theorem pageOf_above (hxs : Ascending key xs) (hi : i < held) (hx : xs[i]? = some x) :
    pageOf key (xs.take held) limit (some (key x)) false =
      slice xs (i + 1) (min held (i + 1 + limit)) := by
  have hget : (xs.take held)[i]? = some x := by
    rw [List.getElem?_take, if_pos hi, hx]
  show ((xs.take held).filter fun item => decide (key x < key item)).take limit = _
  rw [(hxs.sublist (List.take_sublist _ _)).filter_gt hget, slice, List.take_drop, List.take_take,
    min_comm]

/-- The page below the head. -/
theorem pageOf_head (hheld : held ≤ xs.length) :
    pageOf key (xs.take held) limit none true = (slice xs (held - limit) held).reverse := by
  show (xs.take held).reverse.take limit = _
  rw [List.take_reverse, List.length_take, min_eq_left hheld]
  rfl

end Slices

/-! ### Records of a dictionary -/

namespace Dict

variable [DecidableEq κ] {key : α → Option κ} {d : Dict κ α} {items others records : List α}

/-- The dictionary has these records, each one under its key. -/
structure Holds (key : α → Option κ) (d : Dict κ α) (items : List α) : Prop where
  perm : d.values.Perm items
  keyed : ∀ entry ∈ d.entries, key entry.2 = some entry.1

omit [DecidableEq κ] in
theorem holds_empty : Holds key (.empty : Dict κ α) [] where
  perm := .nil
  keyed := by
    intro entry hentry
    exact absurd hentry List.not_mem_nil

namespace Holds

omit [DecidableEq κ] in
theorem of_perm (h : Holds key d items) (hperm : items.Perm others) : Holds key d others :=
  ⟨h.perm.trans hperm, h.keyed⟩

omit [DecidableEq κ] in
theorem keys_eq (h : Holds key d items) : d.keys.map some = d.values.map key := by
  rw [Dict.keys, Dict.values, List.map_map, List.map_map]
  apply List.map_congr_left
  intro entry hentry
  exact (h.keyed entry hentry).symm

/-- A record with a new key is added. -/
theorem saveRecord {record : α} (h : Holds key d items) (hrecord : (key record).isSome)
    (hnew : key record ∉ items.map key) :
    Holds key (Foundation.saveRecord key d record) (record :: items) := by
  obtain ⟨k, hk⟩ := Option.isSome_iff_exists.mp hrecord
  have hnotMem : k ∉ d.keys := by
    intro hmem
    rw [← (h.perm.map key).mem_iff, ← h.keys_eq, hk] at hnew
    exact hnew (List.mem_map_of_mem hmem)
  have hentries := entries_set_of_notMem record hnotMem
  rw [Foundation.saveRecord, hk]
  constructor
  · rw [Dict.values, hentries, List.map_append]
    exact (h.perm.append_right _).trans List.perm_append_comm
  · intro entry hentry
    rw [hentries, List.mem_append, List.mem_singleton] at hentry
    rcases hentry with hold | rfl
    · exact h.keyed entry hold
    · exact hk

/-- A page of new records is added. -/
theorem saveAll (h : Holds key d items) (hkeys : ∀ record ∈ records, (key record).isSome)
    (hnodup : ((records ++ items).map key).Nodup) :
    Holds key (records.foldl (Foundation.saveRecord key) d) (records ++ items) := by
  induction records generalizing d items with
  | nil => exact h
  | cons record records ih =>
    have hmiddle : (records ++ record :: items).Perm (record :: records ++ items) :=
      List.perm_middle
    have hparts := hnodup
    rw [List.cons_append, List.map_cons, List.nodup_cons, List.map_append] at hparts
    have hrecord : key record ∉ items.map key := by
      intro hmem
      exact hparts.1 (List.mem_append_right _ hmem)
    have hfirst := h.saveRecord (hkeys record List.mem_cons_self) hrecord
    apply (ih hfirst _ _).of_perm hmiddle
    · intro item hitem
      exact hkeys item (List.mem_cons_of_mem _ hitem)
    · rw [(hmiddle.map key).nodup_iff]
      exact hnodup

omit [DecidableEq κ] in
/-- A listing of records that ascend in the rank. -/
theorem sortDesc_eq [LinearOrder σ] {rank : α → σ} (h : Holds key d items)
    (hascending : Ascending rank items) : sortDesc rank d.values = items.reverse :=
  hascending.mergeSort_desc h.perm

end Holds

end Dict

/-! ### A list that changes -/

section Walks

variable [LinearOrder κ] {key : α → κ} {limit : ℕ} {cursor : Option κ}
variable {lists : List (List α)} {xs found : List α} {x y : α}

/-- What is below the cursor, from the head on. -/
def below (key : α → κ) (xs : List α) : Option κ → List α
  | none => xs.reverse
  | some token => (xs.filter fun item => decide (key item < token)).reverse

theorem pageOf_desc : pageOf key xs limit cursor true = (below key xs cursor).take limit := by
  cases cursor <;> rfl

theorem mem_below : x ∈ below key xs cursor ↔ x ∈ xs ∧ ∀ token ∈ cursor, key x < token := by
  cases cursor with
  | none => simp [below]
  | some token => simp [below]

theorem pairwise_below (hxs : Ascending key xs) :
    (below key xs cursor).Pairwise fun a b => key b < key a := by
  cases cursor with
  | none => exact List.pairwise_reverse.mpr hxs
  | some token => exact List.pairwise_reverse.mpr (hxs.sublist List.filter_sublist)

/-- What is not below the last element of a page is on the page. -/
theorem mem_take_of_le {ys : List α} (hys : ys.Pairwise fun a b => key b < key a)
    (hlast : (ys.take limit).getLast? = some x) (hy : y ∈ ys) (hle : key x ≤ key y) :
    y ∈ ys.take limit := by
  rw [← List.take_append_drop limit ys, List.mem_append] at hy
  rcases hy with htaken | hdropped
  · exact htaken
  · rw [← List.take_append_drop limit ys, List.pairwise_append] at hys
    exact absurd (hys.2.2 x (List.mem_of_getLast? hlast) y hdropped) (not_lt.mpr hle)

/-- Pages read downwards, each one below the last element before it and from the list as it is
then, up to one that is not full. -/
inductive Walks (key : α → κ) (limit : ℕ) : List (List α) → Option κ → List α → Prop
  | last {xs : List α} {cursor : Option κ}
      (hshort : (pageOf key xs limit cursor true).length < limit) :
      Walks key limit [xs] cursor (pageOf key xs limit cursor true)
  | more {xs : List α} {lists : List (List α)} {cursor : Option κ} {x : α} {found : List α}
      (hlast : (pageOf key xs limit cursor true).getLast? = some x)
      (hrest : Walks key limit lists (some (key x)) found) :
      Walks key limit (xs :: lists) cursor (pageOf key xs limit cursor true ++ found)

namespace Walks

/-- What is found was listed once, below the cursor. -/
theorem mem_once (h : Walks key limit lists cursor found) (hx : x ∈ found) :
    (∃ xs ∈ lists, x ∈ xs) ∧ ∀ token ∈ cursor, key x < token := by
  induction h with
  | last hshort =>
    rw [pageOf_desc] at hx
    obtain ⟨hmem, hlt⟩ := mem_below.mp (List.mem_of_mem_take hx)
    exact ⟨⟨_, List.mem_singleton_self _, hmem⟩, hlt⟩
  | more hlast hrest ih =>
    rcases List.mem_append.mp hx with hpage | hfound
    · rw [pageOf_desc] at hpage
      obtain ⟨hmem, hlt⟩ := mem_below.mp (List.mem_of_mem_take hpage)
      exact ⟨⟨_, List.mem_cons_self, hmem⟩, hlt⟩
    · obtain ⟨⟨xs, hxs, hmem⟩, hlt⟩ := ih hfound
      refine ⟨⟨xs, List.mem_cons_of_mem _ hxs, hmem⟩, fun token htoken => ?_⟩
      -- the cursor of the rest is on the page, and so below the cursor itself
      rw [pageOf_desc] at hlast
      exact (hlt _ rfl).trans
        ((mem_below.mp (List.mem_of_mem_take (List.mem_of_getLast? hlast))).2 token htoken)

/-- Nothing is found twice. -/
theorem descends (h : Walks key limit lists cursor found)
    (hlists : ∀ xs ∈ lists, Ascending key xs) : found.Pairwise fun a b => key b < key a := by
  induction h with
  | last hshort =>
    rw [pageOf_desc]
    exact (pairwise_below (hlists _ (List.mem_singleton_self _))).sublist (List.take_sublist _ _)
  | @more xs lists cursor x found hlast hrest ih =>
    have hpage : ((Foundation.below key xs cursor).take limit).Pairwise fun a b => key b < key a :=
      (pairwise_below (hlists xs List.mem_cons_self)).sublist (List.take_sublist limit _)
    rw [← pageOf_desc] at hpage
    refine List.pairwise_append.mpr
      ⟨hpage, ih fun ys hys => hlists ys (List.mem_cons_of_mem _ hys), fun a ha b hb => ?_⟩
    have hbelow := (hrest.mem_once hb).2 _ rfl
    rcases List.mem_iff_getElem?.mp ha with ⟨i, hi⟩
    rw [List.getLast?_eq_getElem?] at hlast
    obtain ⟨hlt, rfl⟩ := List.getElem?_eq_some_iff.mp hi
    obtain ⟨hlt', rfl⟩ := List.getElem?_eq_some_iff.mp hlast
    rcases (Nat.le_sub_one_of_lt hlt).lt_or_eq with hbefore | rfl
    · exact hbelow.trans (List.pairwise_iff_getElem.mp hpage _ _ hlt hlt' hbefore)
    · exact hbelow

/-- What is listed all along is found. -/
theorem mem_of_always (h : Walks key limit lists cursor found)
    (hlists : ∀ xs ∈ lists, Ascending key xs) {k : κ} (hcursor : ∀ token ∈ cursor, k < token)
    (halways : ∀ xs ∈ lists, ∃ y ∈ xs, key y = k) : ∃ y ∈ found, key y = k := by
  induction h with
  | last hshort =>
    obtain ⟨y, hy, rfl⟩ := halways _ (List.mem_singleton_self _)
    rw [pageOf_desc, List.length_take] at hshort
    rw [pageOf_desc, List.take_of_length_le (by omega)]
    exact ⟨y, mem_below.mpr ⟨hy, hcursor⟩, rfl⟩
  | @more xs lists cursor x found hlast hrest ih =>
    obtain ⟨y, hy, rfl⟩ := halways _ List.mem_cons_self
    rw [pageOf_desc] at hlast ⊢
    by_cases hle : key x ≤ key y
    · have hpage := mem_take_of_le (pairwise_below (hlists _ List.mem_cons_self)) hlast
        (mem_below.mpr ⟨hy, hcursor⟩) hle
      exact ⟨y, List.mem_append_left _ hpage, rfl⟩
    · obtain ⟨z, hz, hkey⟩ := ih (fun ys hys => hlists ys (List.mem_cons_of_mem _ hys))
        (fun token htoken => Option.mem_some_iff.mp htoken ▸ not_le.mp hle)
        (fun ys hys => halways ys (List.mem_cons_of_mem _ hys))
      exact ⟨z, List.mem_append_right _ hz, hkey⟩

end Walks

end Walks

end Foundation
