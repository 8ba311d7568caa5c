import Mathlib.Data.List.Nodup
import Mathlib.Data.List.Perm.Subperm
import Mathlib.Data.Finset.Card
import Fresnica.Foundation.Outcome

/-!
# Ordered sets and maps

Sets and maps that iterate in key order are the extensional search trees of
`Std`: two of them are equal as soon as they have the same elements, and the
balancing of the tree cannot be observed. This file adds the inclusion test and
the counting of elements that a program makes on such a set.

## Main definitions

* `BTreeSet`, `BTreeMap` — ordered sets and maps
* `BTreeSet.isSubset` — the inclusion test
* `BTreeSet.countP` — the number of elements with a property
* `BTreeSet.filterM` — the elements that pass a fallible test

## Main results

* `BTreeSet.isSubset_iff` — the test decides inclusion
* `BTreeSet.countP_mono` — counting respects inclusion
* `BTreeSet.filterM_eq_ok` — no test failed, and the result are the passing elements
* `BTreeMap.toList_insert_perm`, `BTreeMap.toList_erase_perm` — the entries after a change
-/

namespace Foundation

/-- An ordered set. -/
abbrev BTreeSet (α : Type*) [Ord α] := Std.ExtTreeSet α compare

/-- An ordered map. -/
abbrev BTreeMap (κ ν : Type*) [Ord κ] := Std.ExtTreeMap κ ν compare

namespace BTreeSet

variable {α : Type*} [Ord α] [Std.TransOrd α] [Std.LawfulEqOrd α]
variable {s t : BTreeSet α} {a b : α} {p : α → Bool}

theorem mem_insert_iff : b ∈ s.insert a ↔ b = a ∨ b ∈ s := by
  rw [Std.ExtTreeSet.mem_insert, Std.LawfulEqCmp.compare_eq_iff_eq, eq_comm]

omit [Std.LawfulEqOrd α] in
theorem isEmpty_eq_false_iff : s.isEmpty = false ↔ ∃ a, a ∈ s := by
  rw [Std.ExtTreeSet.isEmpty_eq_false_iff, Std.ExtTreeSet.eq_empty_iff_forall_not_mem, not_forall]
  exact exists_congr fun a => not_not

theorem mem_erase_iff : b ∈ s.erase a ↔ b ≠ a ∧ b ∈ s := by
  rw [Std.ExtTreeSet.mem_erase, Ne, Std.LawfulEqCmp.compare_eq_iff_eq, eq_comm]

theorem mem_insertMany {as : List α} : b ∈ s.insertMany as ↔ b ∈ s ∨ b ∈ as := by
  induction as generalizing s with
  | nil => simp
  | cons a as ih =>
    rw [Std.ExtTreeSet.insertMany_cons, ih, mem_insert_iff, List.mem_cons, or_assoc,
      or_left_comm]

theorem insert_eq_self (h : a ∈ s) : s.insert a = s := by
  apply Std.ExtTreeSet.ext_mem
  intro b
  rw [mem_insert_iff]
  constructor
  · rintro (rfl | hb)
    · exact h
    · exact hb
  · exact Or.inr

theorem insertMany_insert {as : List α} :
    (s.insertMany as).insert a = (s.insert a).insertMany as := by
  apply Std.ExtTreeSet.ext_mem
  intro b
  simp only [mem_insert_iff, mem_insertMany, or_assoc]

theorem nodup_toList (s : BTreeSet α) : s.toList.Nodup := by
  refine s.distinct_toList.imp fun {a b} hab heq => hab ?_
  rw [heq]
  exact Std.ReflCmp.compare_self

/-- Every element of the first set is in the second. -/
def isSubset (s t : BTreeSet α) : Bool := s.toList.all t.contains

theorem isSubset_iff : isSubset s t = true ↔ ∀ a ∈ s, a ∈ t := by
  simp [isSubset, Std.ExtTreeSet.mem_toList]

/-- The number of elements with the property `p`. -/
def countP (p : α → Bool) (s : BTreeSet α) : ℕ := s.toList.countP p

theorem countP_mono (h : ∀ a ∈ s, a ∈ t) : countP p s ≤ countP p t := by
  refine (List.Nodup.subperm (nodup_toList s) fun a ha => ?_).countP_le p
  exact Std.ExtTreeSet.mem_toList.mpr (h a (Std.ExtTreeSet.mem_toList.mp ha))

theorem exists_mem_of_countP_pos (h : 0 < countP p s) : ∃ a ∈ s, p a = true := by
  obtain ⟨a, ha, hp⟩ := List.countP_pos_iff.mp h
  exact ⟨a, Std.ExtTreeSet.mem_toList.mp ha, hp⟩

/-- The elements that pass the test, unless the test of one of them fails. -/
def filterM {ε : Type} {α : Type} [Ord α] [Std.TransOrd α] (test : α → Except ε Bool)
    (s : BTreeSet α) : Except ε (BTreeSet α) :=
  s.toList.foldlM (fun passed a => do
    let b ← test a
    return if b then passed.insert a else passed) ∅

theorem foldlM_filter_eq_ok {ε : Type} {α : Type} [Ord α] [Std.TransOrd α] [Std.LawfulEqOrd α]
    {test : α → Except ε Bool} {xs : List α} {s t : BTreeSet α} :
    xs.foldlM (fun passed a => do
        let b ← test a
        return if b then passed.insert a else passed) s = .ok t ↔
      (∀ a ∈ xs, ∃ b, test a = .ok b) ∧ ∀ a, a ∈ t ↔ a ∈ s ∨ a ∈ xs ∧ test a = .ok true := by
  induction xs generalizing s with
  | nil =>
    simp only [List.foldlM_nil, pure_eq_ok, Except.ok.injEq, List.not_mem_nil, false_implies,
      implies_true, true_and, false_and, or_false]
    exact ⟨fun h a => by rw [h], fun h => Std.ExtTreeSet.ext_mem fun {a} => (h a).symm⟩
  | cons x xs ih =>
    cases hx : test x with
    | error e => simp [List.foldlM_cons, hx]
    | ok b =>
      -- the set grows by the element where its test passes
      have hmem : ∀ a, (a ∈ (if b then s.insert x else s)) ↔ a ∈ s ∨ a = x ∧ b = true := by
        intro a
        cases b
        · simp
        · simp only [if_true, mem_insert_iff, and_true, or_comm]
      have htest : ∀ a, (a = x ∧ test a = .ok true) ↔ a = x ∧ b = true := by
        intro a
        refine and_congr_right fun ha => ?_
        rw [ha, hx, Except.ok.injEq]
      rw [List.foldlM_cons, hx, ok_bind, pure_eq_ok, ok_bind, ih, List.forall_mem_cons, hx]
      simp only [hmem, Except.ok.injEq, exists_eq', true_and, List.mem_cons, or_and_right, htest,
        or_assoc]

/-- A test that never failed selects the elements that pass it. -/
theorem filterM_eq_ok {ε : Type} {α : Type} [Ord α] [Std.TransOrd α] [Std.LawfulEqOrd α]
    {test : α → Except ε Bool} {s t : BTreeSet α} :
    filterM test s = .ok t ↔
      (∀ a ∈ s, ∃ b, test a = .ok b) ∧ ∀ a, a ∈ t ↔ a ∈ s ∧ test a = .ok true := by
  rw [filterM, foldlM_filter_eq_ok]
  simp [Std.ExtTreeSet.mem_toList]

theorem exists_filterM_eq_ok {ε : Type} {α : Type} [Ord α] [Std.TransOrd α] [Std.LawfulEqOrd α]
    {test : α → Except ε Bool} {s : BTreeSet α} (h : ∀ a ∈ s, ∃ b, test a = .ok b) :
    ∃ t, filterM test s = .ok t := by
  let passes (a : α) : Bool := match test a with
    | .ok b => b
    | .error _ => false
  refine ⟨_, foldlM_eq_ok_foldl (g := fun s a => if passes a then s.insert a else s)
    fun s a ha => ?_⟩
  obtain ⟨b, hb⟩ := h a (Std.ExtTreeSet.mem_toList.mp ha)
  simp [passes, hb]

/-- A test that passes where another does selects at least what the other selects. -/
theorem filterM_mono {ε : Type} {α : Type} [Ord α] [Std.TransOrd α] [Std.LawfulEqOrd α]
    {test test' : α → Except ε Bool} {s t : BTreeSet α} (h : filterM test s = .ok t)
    (hmono : ∀ a ∈ s, ∀ b, test a = .ok b → ∃ b', test' a = .ok b' ∧ (b = true → b' = true)) :
    ∃ t', filterM test' s = .ok t' ∧ ∀ a ∈ t, a ∈ t' := by
  obtain ⟨htotal, hmem⟩ := filterM_eq_ok.mp h
  have htotal' : ∀ a ∈ s, ∃ b, test' a = .ok b := by
    intro a ha
    obtain ⟨b, hb⟩ := htotal a ha
    obtain ⟨b', hb', -⟩ := hmono a ha b hb
    exact ⟨b', hb'⟩
  obtain ⟨t', ht'⟩ := exists_filterM_eq_ok htotal'
  refine ⟨t', ht', fun a ha => ?_⟩
  obtain ⟨hs, htrue⟩ := (hmem a).mp ha
  obtain ⟨b', hb', hpass⟩ := hmono a hs true htrue
  rw [hpass rfl] at hb'
  exact ((filterM_eq_ok.mp ht').2 a).mpr ⟨hs, hb'⟩

end BTreeSet

namespace BTreeMap

variable {κ ν : Type*} [Ord κ] [Std.TransOrd κ] [Std.LawfulEqOrd κ]
variable {t : BTreeMap κ ν} {k k' : κ} {v : ν} {entries : List (κ × ν)}

theorem nodup_toList (t : BTreeMap κ ν) : t.toList.Nodup := by
  refine t.distinct_keys_toList.imp fun hne heq => hne ?_
  rw [heq]
  exact Std.LawfulEqCmp.compare_eq_iff_eq.mpr rfl

/-- A map that has the given entries finds them, and nothing else. -/
theorem getElem?_eq_some_iff_mem_of_perm (h : t.toList.Perm entries) :
    t[k]? = some v ↔ (k, v) ∈ entries := by
  rw [← h.mem_iff]
  exact Std.ExtTreeMap.mem_toList_iff_getElem?_eq_some.symm

theorem getElem?_eq_none_iff_of_perm (h : t.toList.Perm entries) :
    t[k]? = none ↔ ∀ v, (k, v) ∉ entries := by
  rw [Option.eq_none_iff_forall_ne_some]
  exact forall_congr' fun v => not_congr (getElem?_eq_some_iff_mem_of_perm h)

/-- A new key adds its entry. -/
theorem toList_insert_perm (v : ν) (h : t[k]? = none) :
    (t.insert k v).toList.Perm ((k, v) :: t.toList) := by
  have hnew : (k, v) ∉ t.toList := fun hmem => by
    have hfound := Std.ExtTreeMap.mem_toList_iff_getElem?_eq_some.mp hmem
    exact absurd (h.symm.trans hfound) (by simp)
  rw [List.perm_ext_iff_of_nodup (nodup_toList _) (List.nodup_cons.mpr ⟨hnew, nodup_toList t⟩)]
  intro entry
  obtain ⟨k', v'⟩ := entry
  rw [List.mem_cons, Std.ExtTreeMap.mem_toList_iff_getElem?_eq_some,
    Std.ExtTreeMap.mem_toList_iff_getElem?_eq_some, Std.ExtTreeMap.getElem?_insert, Prod.mk.injEq]
  by_cases hk : compare k k' = .eq
  · obtain rfl := Std.LawfulEqCmp.eq_of_compare hk
    rw [if_pos hk, h]
    simp [eq_comm]
  · have hne : k' ≠ k := fun heq => hk (Std.LawfulEqCmp.compare_eq_iff_eq.mpr heq.symm)
    rw [if_neg hk]
    simp [hne]

/-- A key that is removed takes its entry along. -/
theorem toList_erase_perm (h : t[k]? = some v) :
    t.toList.Perm ((k, v) :: (t.erase k).toList) := by
  have hgone : (k, v) ∉ (t.erase k).toList := by
    rw [Std.ExtTreeMap.mem_toList_iff_getElem?_eq_some, Std.ExtTreeMap.getElem?_erase_self]
    simp
  rw [List.perm_ext_iff_of_nodup (nodup_toList t) (List.nodup_cons.mpr ⟨hgone, nodup_toList _⟩)]
  intro entry
  obtain ⟨k', v'⟩ := entry
  rw [List.mem_cons, Std.ExtTreeMap.mem_toList_iff_getElem?_eq_some,
    Std.ExtTreeMap.mem_toList_iff_getElem?_eq_some, Std.ExtTreeMap.getElem?_erase, Prod.mk.injEq]
  by_cases hk : compare k k' = .eq
  · obtain rfl := Std.LawfulEqCmp.eq_of_compare hk
    rw [if_pos hk, h]
    simp [eq_comm]
  · have hne : k' ≠ k := fun heq => hk (Std.LawfulEqCmp.compare_eq_iff_eq.mpr heq.symm)
    rw [if_neg hk]
    simp [hne]

end BTreeMap

end Foundation
