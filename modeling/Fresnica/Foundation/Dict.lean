import Mathlib.Data.List.Nodup
import Mathlib.Data.List.Perm.Basic

/-!
# Dictionaries

A dictionary has one value for each of its keys, in the order of their first insertion.

## Main definitions

* `Dict` — the entries, with no key twice
* `Dict.get?`, `Dict.set`, `Dict.erase` — lookup, update and removal at a key
* `Dict.filterKeys` — restriction to some keys

## Main results

* `Dict.entries_set_of_notMem` — a new key goes last
* `Dict.get?_set`, `Dict.get?_erase`, `Dict.get?_filterKeys` — what is found afterwards
* `Dict.get?_of_mem`, `Dict.mem_of_get?` — what is found is an entry
-/

namespace Foundation

variable {κ ν : Type} [DecidableEq κ] {key : κ} {value : ν} {entries : List (κ × ν)}

/-- The value at a key is replaced where it stands, or added at the end. -/
def setEntry (key : κ) (value : ν) : List (κ × ν) → List (κ × ν)
  | [] => [(key, value)]
  | entry :: entries =>
    if entry.1 = key then (key, value) :: entries else entry :: setEntry key value entries

theorem setEntry_of_notMem (h : key ∉ entries.map Prod.fst) :
    setEntry key value entries = entries ++ [(key, value)] := by
  induction entries with
  | nil => rfl
  | cons entry entries ih =>
    rw [List.map_cons, List.mem_cons, not_or] at h
    rw [setEntry, if_neg (Ne.symm h.1), ih h.2, List.cons_append]

theorem keys_setEntry_of_mem (h : key ∈ entries.map Prod.fst) :
    (setEntry key value entries).map Prod.fst = entries.map Prod.fst := by
  induction entries with
  | nil => exact absurd h List.not_mem_nil
  | cons entry entries ih =>
    rw [setEntry]
    by_cases heq : entry.1 = key
    · rw [if_pos heq, List.map_cons, List.map_cons, heq]
    · rw [List.map_cons, List.mem_cons] at h
      rw [if_neg heq, List.map_cons, List.map_cons, ih (h.resolve_left (Ne.symm heq))]

theorem nodup_setEntry (h : (entries.map Prod.fst).Nodup) :
    ((setEntry key value entries).map Prod.fst).Nodup := by
  by_cases hmem : key ∈ entries.map Prod.fst
  · rw [keys_setEntry_of_mem hmem]
    exact h
  · rw [setEntry_of_notMem hmem, List.map_append]
    apply h.append (List.nodup_singleton _)
    intro k hk hsingle
    obtain rfl : k = key := List.mem_singleton.mp hsingle
    exact hmem hk

/-- Entries with no key twice. -/
structure Dict (κ ν : Type) where
  entries : List (κ × ν)
  nodup : (entries.map Prod.fst).Nodup

namespace Dict

def empty : Dict κ ν := ⟨[], List.nodup_nil⟩

def keys (d : Dict κ ν) : List κ := d.entries.map Prod.fst

def values (d : Dict κ ν) : List ν := d.entries.map Prod.snd

def set (d : Dict κ ν) (key : κ) (value : ν) : Dict κ ν :=
  ⟨setEntry key value d.entries, nodup_setEntry d.nodup⟩

/-- The entries at some of the keys. -/
def filterKeys (d : Dict κ ν) (p : κ → Bool) : Dict κ ν where
  entries := d.entries.filter fun entry => p entry.1
  nodup := d.nodup.sublist (List.filter_sublist.map _)

def get? (d : Dict κ ν) (key : κ) : Option ν :=
  (d.entries.find? fun entry => decide (entry.1 = key)).map Prod.snd

def erase (d : Dict κ ν) (key : κ) : Dict κ ν := d.filterKeys fun other => decide (other ≠ key)

theorem find?_setEntry {other : κ} :
    (setEntry key value entries).find? (fun entry => decide (entry.1 = other)) =
      if other = key then some (key, value)
      else entries.find? fun entry => decide (entry.1 = other) := by
  induction entries with
  | nil =>
    rw [setEntry, List.find?_cons, List.find?_nil]
    by_cases h : other = key
    · simp only [h, decide_true, if_true]
    · simp only [Ne.symm h, h, decide_false, if_false]
  | cons entry entries ih =>
    rw [setEntry]
    by_cases hentry : entry.1 = key
    · rw [if_pos hentry, List.find?_cons, List.find?_cons, hentry]
      by_cases h : other = key
      · simp only [h, decide_true, if_true]
      · simp only [Ne.symm h, h, decide_false, if_false]
    · rw [if_neg hentry, List.find?_cons, List.find?_cons, ih]
      by_cases h : other = key
      · simp only [h, hentry, decide_false, if_true]
      · simp only [h, if_false]

theorem get?_set {d : Dict κ ν} {other : κ} :
    (d.set key value).get? other = if other = key then some value else d.get? other := by
  rw [get?, set, find?_setEntry]
  split_ifs <;> rfl

theorem get?_erase {d : Dict κ ν} {other : κ} :
    (d.erase key).get? other = if other = key then none else d.get? other := by
  simp only [get?, erase, filterKeys, List.find?_filter]
  split_ifs with h
  · rw [Option.map_eq_none_iff, List.find?_eq_none]
    intro entry _
    rw [h]
    simp
  · congr 2
    funext entry
    by_cases hentry : entry.1 = other
    · simp [hentry, h]
    · simp [hentry]

theorem get?_filterKeys {d : Dict κ ν} {p : κ → Bool} :
    (d.filterKeys p).get? key = if p key then d.get? key else none := by
  rw [get?, filterKeys, List.find?_filter]
  split_ifs with h
  · congr 2
    funext entry
    by_cases hentry : entry.1 = key
    · simp [hentry, h]
    · simp [hentry]
  · rw [Option.map_eq_none_iff, List.find?_eq_none]
    intro entry _ hfound
    obtain ⟨hp, hkey⟩ := of_decide_eq_true hfound
    exact h (of_decide_eq_true hkey ▸ hp)

@[simp] theorem get?_empty : (empty : Dict κ ν).get? key = none := rfl

theorem mem_of_get? {d : Dict κ ν} (h : d.get? key = some value) : (key, value) ∈ d.entries := by
  obtain ⟨⟨other, held⟩, hfind, rfl⟩ := Option.map_eq_some_iff.mp h
  have hkey : other = key := by simpa using List.find?_some hfind
  rw [← hkey]
  exact List.mem_of_find?_eq_some hfind

/-- An entry is found by its key. -/
theorem get?_of_mem {d : Dict κ ν} (h : (key, value) ∈ d.entries) : d.get? key = some value := by
  cases hget : d.get? key with
  | none =>
    rw [get?, Option.map_eq_none_iff, List.find?_eq_none] at hget
    exact absurd (hget _ h) (by simp)
  | some held =>
    have hsame := List.inj_on_of_nodup_map d.nodup (mem_of_get? hget) h rfl
    rw [(Prod.mk.inj hsame).2]

theorem get?_eq_none {d : Dict κ ν} (h : key ∉ d.keys) : d.get? key = none := by
  rw [Option.eq_none_iff_forall_ne_some]
  intro value hget
  exact h (List.mem_map.mpr ⟨_, mem_of_get? hget, rfl⟩)

theorem mem_values_of_get? {d : Dict κ ν} (h : d.get? key = some value) : value ∈ d.values :=
  List.mem_map.mpr ⟨_, mem_of_get? h, rfl⟩

theorem entries_set_of_notMem {d : Dict κ ν} (value : ν) (h : key ∉ d.keys) :
    (d.set key value).entries = d.entries ++ [(key, value)] :=
  setEntry_of_notMem h

end Dict

end Foundation
