import Mathlib.Data.List.Induction
import Mathlib.Data.List.Nodup

/-!
# Grouping by find-or-insert

A loop that keeps a list of groups, and for every item updates the group of the
item's key or appends a new one, groups the items: there is one group for each
key, in the order the keys first occur, made of exactly the items of its key in
their order. This holds for every kind of group that absorbs its items one at a
time.

## Main definitions

* `findOrInsert` — update the first group of a key, or append a new one
* `groups` — the groups of a list of items, in closed form
* `Grouping` — what makes a kind of group absorb items one at a time

## Main results

* `Grouping.foldl_findOrInsert` — the loop computes the closed form
-/

namespace Foundation

variable {ι κ γ : Type*} [DecidableEq κ]

/-- Update the first group with the key `k`, or append the new one. -/
def findOrInsert (keyOf : γ → κ) (k : κ) (new : γ) (update : γ → γ) : List γ → List γ
  | [] => [new]
  | g :: gs => if keyOf g = k then update g :: gs else g :: findOrInsert keyOf k new update gs

/-- One group for each key, in the order of first occurrence. -/
def groups (key : ι → κ) (group : κ → List ι → γ) (xs : List ι) : List γ :=
  (xs.map key).eraseDups.map fun k => group k (xs.filter fun x => key x = k)

/-- A group starts as the first item of its key and absorbs the others in turn. -/
structure Grouping (keyOf : γ → κ) (key : ι → κ) (new : ι → γ) (update : ι → γ → γ)
    (group : κ → List ι → γ) : Prop where
  keyOf_group : ∀ k xs, keyOf (group k xs) = k
  group_singleton : ∀ x, group (key x) [x] = new x
  group_append : ∀ xs x, xs ≠ [] → group (key x) (xs ++ [x]) = update x (group (key x) xs)

variable {keyOf : γ → κ} {key : ι → κ} {new : ι → γ} {update : ι → γ → γ}
variable {group : κ → List ι → γ} {k : κ} {x : ι} {xs : List ι} {ks : List κ} {f : κ → γ}

section eraseDups

variable {α β : Type*} [BEq α] [LawfulBEq α] [BEq β] [LawfulBEq β]

theorem eraseDups_append_singleton {as : List α} {a : α} :
    (as ++ [a]).eraseDups = as.eraseDups ++ if a ∈ as then [] else [a] := by
  rw [List.eraseDups_append]
  by_cases h : a ∈ as <;> simp [List.removeAll, List.eraseDups_cons, h]

theorem nodup_eraseDups (ks : List α) : ks.eraseDups.Nodup := by
  induction ks using List.reverseRecOn with
  | nil => simp
  | append_singleton ks k ih =>
    rw [eraseDups_append_singleton]
    by_cases h : k ∈ ks
    · simpa [h] using ih
    · have hk : k ∉ ks.eraseDups := fun hmem => h (List.mem_eraseDups.mp hmem)
      rw [if_neg h]
      exact List.Nodup.append ih (List.nodup_singleton k) (List.disjoint_singleton.mpr hk)

theorem eraseDups_map_of_injective {f : α → β} (hf : Function.Injective f) (as : List α) :
    (as.map f).eraseDups = as.eraseDups.map f := by
  induction as using List.reverseRecOn with
  | nil => rfl
  | append_singleton as a ih =>
    have hmem : f a ∈ as.map f ↔ a ∈ as := List.mem_map_of_injective hf
    rw [List.map_append, List.map_singleton, eraseDups_append_singleton,
      eraseDups_append_singleton, ih, List.map_append]
    by_cases ha : a ∈ as <;> simp only [hmem, ha, if_true, if_false, List.map_nil,
      List.map_singleton]

end eraseDups

/-- Among groups of pairwise different keys the group of a present key is
updated in place. -/
theorem findOrInsert_of_mem (hkey : ∀ k, keyOf (f k) = k) (hks : ks.Nodup) (hk : k ∈ ks)
    (new : γ) (update : γ → γ) :
    findOrInsert keyOf k new update (ks.map f) =
      ks.map fun k' => if k' = k then update (f k') else f k' := by
  induction ks with
  | nil => simp at hk
  | cons k' ks ih =>
    obtain ⟨hnot, hks⟩ := List.nodup_cons.mp hks
    rw [List.map_cons, List.map_cons, findOrInsert, hkey]
    by_cases h : k' = k
    · subst h
      rw [if_pos rfl, if_pos rfl]
      congr 1
      refine List.map_congr_left fun k'' hk'' => ?_
      rw [if_neg fun heq : k'' = k' => hnot (heq ▸ hk'')]
    · have hmem := (List.mem_cons.mp hk).resolve_left (Ne.symm h)
      rw [if_neg h, if_neg h, ih hks hmem]

theorem findOrInsert_of_not_mem (hkey : ∀ k, keyOf (f k) = k) (hk : k ∉ ks)
    (new : γ) (update : γ → γ) :
    findOrInsert keyOf k new update (ks.map f) = ks.map f ++ [new] := by
  induction ks with
  | nil => rfl
  | cons k' ks ih =>
    obtain ⟨hne, hk⟩ := not_or.mp (List.mem_cons.not.mp hk)
    rw [List.map_cons, findOrInsert, hkey, if_neg (Ne.symm hne), ih hk, List.cons_append]

namespace Grouping

/-- There is one group for each key. -/
theorem map_keyOf_groups (h : Grouping keyOf key new update group) :
    (groups key group xs).map keyOf = (xs.map key).eraseDups := by
  simp [groups, Function.comp_def, h.keyOf_group]

/-- One pass of the loop adds the item to the closed form. -/
theorem findOrInsert_groups (h : Grouping keyOf key new update group) :
    findOrInsert keyOf (key x) (new x) (update x) (groups key group xs) =
      groups key group (xs ++ [x]) := by
  have hkey : ∀ k, keyOf (group k (xs.filter fun y => key y = k)) = k :=
    fun k => h.keyOf_group k _
  have hother : ∀ k, k ≠ key x →
      (xs ++ [x]).filter (fun y => key y = k) = xs.filter fun y => key y = k := by
    intro k hk
    simp [Ne.symm hk]
  rw [groups, groups, List.map_append, List.map_singleton, eraseDups_append_singleton]
  -- a key that was seen has its group updated in place, and a new one gets a group at the end
  by_cases hx : key x ∈ xs.map key
  · rw [findOrInsert_of_mem hkey (nodup_eraseDups _) (List.mem_eraseDups.mpr hx), if_pos hx,
      List.append_nil]
    refine List.map_congr_left fun k _ => ?_
    by_cases hk : k = key x
    · have hne : xs.filter (fun y => key y = key x) ≠ [] := by
        obtain ⟨y, hy, hyx⟩ := List.mem_map.mp hx
        exact List.ne_nil_of_mem (List.mem_filter.mpr ⟨hy, by simpa using hyx⟩)
      rw [if_pos hk, hk, List.filter_append, ← h.group_append _ x hne]
      simp
    · rw [if_neg hk, hother k hk]
  · rw [findOrInsert_of_not_mem hkey (fun hmem => hx (List.mem_eraseDups.mp hmem)), if_neg hx,
      List.map_append, List.map_singleton]
    congr 1
    · refine List.map_congr_left fun k hk => ?_
      rw [hother k fun heq => hx (heq ▸ List.mem_eraseDups.mp hk)]
    · have hnil : xs.filter (fun y => key y = key x) = [] := by
        rw [List.filter_eq_nil_iff]
        intro y hy heq
        exact hx (List.mem_map.mpr ⟨y, hy, by simpa using heq⟩)
      rw [List.filter_append, hnil]
      simp [h.group_singleton]

/-- The loop computes the closed form. -/
theorem foldl_findOrInsert (h : Grouping keyOf key new update group) (xs : List ι) :
    xs.foldl (fun gs x => findOrInsert keyOf (key x) (new x) (update x) gs) [] =
      groups key group xs := by
  induction xs using List.reverseRecOn with
  | nil => rfl
  | append_singleton xs x ih =>
    rw [List.foldl_append, ih, List.foldl_cons, List.foldl_nil, h.findOrInsert_groups]

end Grouping

end Foundation
