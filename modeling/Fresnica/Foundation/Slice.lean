import Mathlib.Data.List.Sort
import Mathlib.Order.Lattice
import Mathlib.Order.Defs.LinearOrder

/-!
# Slices of an ascending list

A slice is the part of a list between two indices. In a list that ascends strictly in a
key, what lies between two elements of a slice by its key is in the slice, and the parts
below and above an element are found by comparing keys.

## Main definitions

* `slice` — the elements from one index up to another
* `Ascending` — each element has a smaller key than those after it

## Main results

* `Ascending.mem_slice_of_between` — a slice has no hole
* `Ascending.filter_lt`, `Ascending.filter_gt` — the parts below and above an element
* `Ascending.mergeSort_desc` — sorting in descending order
-/

namespace Foundation

variable {α κ : Type} {xs ys : List α} {x a b : α} {i lo mid hi n : ℕ}

/-- The elements from the index `lo` up to the index `hi`, which is excluded. -/
def slice (xs : List α) (lo hi : ℕ) : List α := (xs.take hi).drop lo

theorem mem_slice_iff : x ∈ slice xs lo hi ↔ ∃ i, lo ≤ i ∧ i < hi ∧ xs[i]? = some x := by
  rw [slice, List.mem_iff_getElem?]
  constructor
  · rintro ⟨i, hi'⟩
    rw [List.getElem?_drop, List.getElem?_take] at hi'
    split_ifs at hi' with hlt
    exact ⟨lo + i, Nat.le_add_right _ _, hlt, hi'⟩
  · rintro ⟨i, hlo, hlt, hget⟩
    refine ⟨i - lo, ?_⟩
    rw [List.getElem?_drop, Nat.add_sub_cancel' hlo, List.getElem?_take, if_pos hlt, hget]

theorem mem_of_mem_slice (h : x ∈ slice xs lo hi) : x ∈ xs :=
  List.mem_of_mem_take (List.mem_of_mem_drop h)

theorem slice_eq_nil (xs : List α) (h : hi ≤ lo) : slice xs lo hi = [] := by
  rw [slice, List.drop_eq_nil_iff, List.length_take]
  exact (min_le_left _ _).trans h

theorem slice_zero : slice xs 0 hi = xs.take hi := List.drop_zero

theorem length_slice (lo : ℕ) (h : hi ≤ xs.length) : (slice xs lo hi).length = hi - lo := by
  rw [slice, List.length_drop, List.length_take, min_eq_left h]

theorem drop_slice : (slice xs lo hi).drop n = slice xs (lo + n) hi := by
  rw [slice, slice, List.drop_drop]

theorem slice_append (hlo : lo ≤ mid) (hhi : mid ≤ hi) :
    slice xs lo mid ++ slice xs mid hi = slice xs lo hi := by
  have htake : (xs.take hi).take mid = xs.take mid := by
    rw [List.take_take, min_eq_left hhi]
  calc slice xs lo mid ++ slice xs mid hi
      = ((xs.take hi).take mid).drop lo ++ (xs.take hi).drop mid := by rw [htake]; rfl
    _ = slice xs lo hi := by
        rw [List.drop_take, ← Nat.add_sub_cancel' hlo, Nat.add_sub_cancel_left,
          ← List.drop_drop, List.take_append_drop]
        rfl

/-- The last element of a slice. -/
theorem getLast?_slice (lo : ℕ) (h : hi ≤ xs.length) :
    (slice xs lo hi).getLast? = if lo < hi then xs[hi - 1]? else none := by
  rw [List.getLast?_eq_getElem?, length_slice lo h, slice, List.getElem?_drop, List.getElem?_take]
  split_ifs with h₁ h₂ h₂
  · congr 1
    omega
  · omega
  · omega
  · rfl

/-- The first element of a slice. -/
theorem head?_slice : (slice xs lo hi).head? = if lo < hi then xs[lo]? else none := by
  rw [List.head?_eq_getElem?, slice, List.getElem?_drop, List.getElem?_take, Nat.add_zero]

/-- Each element has a smaller key than those after it. -/
def Ascending [LT κ] (key : α → κ) (xs : List α) : Prop :=
  xs.Pairwise fun a b => key a < key b

namespace Ascending

variable [LinearOrder κ] {key : α → κ}

theorem sublist (h : Ascending key xs) (hsub : ys.Sublist xs) : Ascending key ys :=
  List.Pairwise.sublist hsub h

theorem slice (h : Ascending key xs) : Ascending key (slice xs lo hi) :=
  h.sublist ((List.drop_sublist _ _).trans (List.take_sublist _ _))

/-- Keys compare as the indices do. -/
theorem key_lt_iff {j : ℕ} (h : Ascending key xs) (ha : xs[i]? = some a) (hb : xs[j]? = some b) :
    key a < key b ↔ i < j := by
  have hmono : ∀ {i j : ℕ} {a b : α}, xs[i]? = some a → xs[j]? = some b → i < j →
      key a < key b := by
    intro i j a b ha hb hlt
    obtain ⟨hi, rfl⟩ := List.getElem?_eq_some_iff.mp ha
    obtain ⟨hj, rfl⟩ := List.getElem?_eq_some_iff.mp hb
    exact List.pairwise_iff_getElem.mp h i j hi hj hlt
  refine ⟨fun hlt => ?_, hmono ha hb⟩
  by_contra hge
  rcases (not_lt.mp hge).lt_or_eq with hji | heq
  · exact lt_asymm hlt (hmono hb ha hji)
  · rw [heq, ha, Option.some_inj] at hb
    exact lt_irrefl _ (hb ▸ hlt)

theorem key_le_iff {j : ℕ} (h : Ascending key xs) (ha : xs[i]? = some a) (hb : xs[j]? = some b) :
    key a ≤ key b ↔ i ≤ j := by
  rw [← not_lt, ← not_lt, h.key_lt_iff hb ha]

/-- What lies between two elements of a slice is in the slice. -/
theorem mem_slice_of_between (h : Ascending key xs) (hx : x ∈ xs)
    (ha : a ∈ Foundation.slice xs lo hi) (hb : b ∈ Foundation.slice xs lo hi)
    (hax : key a ≤ key x) (hxb : key x ≤ key b) :
    x ∈ Foundation.slice xs lo hi := by
  obtain ⟨i, hi⟩ := List.mem_iff_getElem?.mp hx
  obtain ⟨j, hlo, -, hj⟩ := mem_slice_iff.mp ha
  obtain ⟨k, -, hhi, hk⟩ := mem_slice_iff.mp hb
  rw [h.key_le_iff hj hi] at hax
  rw [h.key_le_iff hi hk] at hxb
  exact mem_slice_iff.mpr ⟨i, hlo.trans hax, hxb.trans_lt hhi, hi⟩

theorem nodup_map (h : Ascending key xs) : (xs.map key).Nodup :=
  List.pairwise_map.mpr (h.imp ne_of_lt)

/-- An element is determined by its key. -/
theorem eq_of_key_eq (h : Ascending key xs) (ha : a ∈ xs) (hb : b ∈ xs) (heq : key a = key b) :
    a = b := by
  obtain ⟨i, hi⟩ := List.mem_iff_getElem?.mp ha
  obtain ⟨j, hj⟩ := List.mem_iff_getElem?.mp hb
  have hij : i = j := le_antisymm ((h.key_le_iff hi hj).mp heq.le) ((h.key_le_iff hj hi).mp heq.ge)
  rw [hij, hj] at hi
  exact (Option.some.inj hi).symm

/-- The elements below an element are those before it. -/
theorem filter_lt (h : Ascending key xs) (hx : xs[i]? = some x) :
    xs.filter (fun a => key a < key x) = xs.take i := by
  have hbefore : (xs.take i).filter (fun a => key a < key x) = xs.take i := by
    rw [List.filter_eq_self]
    intro a ha
    obtain ⟨j, hj⟩ := List.mem_iff_getElem?.mp ha
    rw [List.getElem?_take] at hj
    split_ifs at hj with hlt
    exact decide_eq_true ((h.key_lt_iff hj hx).mpr hlt)
  have hafter : (xs.drop i).filter (fun a => key a < key x) = [] := by
    rw [List.filter_eq_nil_iff]
    intro a ha
    obtain ⟨j, hj⟩ := List.mem_iff_getElem?.mp ha
    rw [List.getElem?_drop] at hj
    rw [decide_eq_true_iff, h.key_lt_iff hj hx]
    exact not_lt.mpr (Nat.le_add_right i j)
  calc xs.filter (fun a => key a < key x)
      = (xs.take i ++ xs.drop i).filter (fun a => key a < key x) := by
        rw [List.take_append_drop]
    _ = xs.take i := by rw [List.filter_append, hbefore, hafter, List.append_nil]

/-- The elements above an element are those after it. -/
theorem filter_gt (h : Ascending key xs) (hx : xs[i]? = some x) :
    xs.filter (fun a => key x < key a) = xs.drop (i + 1) := by
  have hbefore : (xs.take (i + 1)).filter (fun a => key x < key a) = [] := by
    rw [List.filter_eq_nil_iff]
    intro a ha
    obtain ⟨j, hj⟩ := List.mem_iff_getElem?.mp ha
    rw [List.getElem?_take] at hj
    split_ifs at hj with hlt
    rw [decide_eq_true_iff, h.key_lt_iff hx hj]
    omega
  have hafter : (xs.drop (i + 1)).filter (fun a => key x < key a) = xs.drop (i + 1) := by
    rw [List.filter_eq_self]
    intro a ha
    obtain ⟨j, hj⟩ := List.mem_iff_getElem?.mp ha
    rw [List.getElem?_drop] at hj
    exact decide_eq_true ((h.key_lt_iff hx hj).mpr (by omega))
  calc xs.filter (fun a => key x < key a)
      = (xs.take (i + 1) ++ xs.drop (i + 1)).filter (fun a => key x < key a) := by
        rw [List.take_append_drop]
    _ = xs.drop (i + 1) := by rw [List.filter_append, hbefore, hafter, List.nil_append]

/-- Filtering what lies from an index on. -/
theorem filter_mem_drop (h : Ascending key xs) {p : α → Bool}
    (hp : ∀ x ∈ xs, p x = true ↔ x ∈ xs.drop n) : xs.filter p = xs.drop n := by
  have hbefore : (xs.take n).filter p = [] := by
    rw [List.filter_eq_nil_iff]
    intro a ha hpa
    have hdrop := (hp a (List.mem_of_mem_take ha)).mp hpa
    unfold Ascending at h
    rw [← List.take_append_drop n xs, List.pairwise_append] at h
    exact lt_irrefl _ (h.2.2 a ha a hdrop)
  have hafter : (xs.drop n).filter p = xs.drop n := by
    rw [List.filter_eq_self]
    intro a ha
    exact (hp a (List.mem_of_mem_drop ha)).mpr ha
  calc xs.filter p = (xs.take n ++ xs.drop n).filter p := by rw [List.take_append_drop]
    _ = xs.drop n := by rw [List.filter_append, hbefore, hafter, List.nil_append]

/-- Sorting in descending order reverses. -/
theorem mergeSort_desc (h : Ascending key xs) (hperm : ys.Perm xs) :
    ys.mergeSort (fun a b => decide (key b ≤ key a)) = xs.reverse := by
  have hsorted : (ys.mergeSort fun a b => decide (key b ≤ key a)).Pairwise
      fun a b => decide (key b ≤ key a) = true := by
    apply List.pairwise_mergeSort
    · intro a b c hab hbc
      rw [decide_eq_true_iff] at hab hbc ⊢
      exact hbc.trans hab
    · intro a b
      rw [Bool.or_eq_true, decide_eq_true_iff, decide_eq_true_iff]
      exact le_total _ _
  -- the reverse is in the order of the sort as well, and no key is there twice
  have hreversed : xs.reverse.Pairwise fun a b => decide (key b ≤ key a) = true := by
    rw [List.pairwise_reverse]
    exact h.imp fun hlt => decide_eq_true hlt.le
  have hsame : (ys.mergeSort fun a b => decide (key b ≤ key a)).Perm xs.reverse :=
    (List.mergeSort_perm _ _).trans (hperm.trans (List.reverse_perm xs).symm)
  apply hsame.eq_of_pairwise _ hsorted hreversed
  intro a b ha hb hba hab
  rw [decide_eq_true_iff] at hba hab
  exact h.eq_of_key_eq (List.mem_reverse.mp (hsame.mem_iff.mp ha)) (List.mem_reverse.mp hb)
    (le_antisymm hab hba)

end Ascending

end Foundation
