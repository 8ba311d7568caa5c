import Fresnica.Foundation.Dict
import Mathlib.Data.List.Sort
import Mathlib.Order.Defs.LinearOrder

/-!
# Records kept by a key

Records are kept in partitions, each one under a key. One layout has a dictionary for every
partition. Another is a table of rows, whose primary key is the partition and the key together;
a row is replaced by taking it out and adding the new one at the end, so that the rows of
the two layouts stand in different orders. What is found under a key is the same, and
so is a listing by a rank that tells the keys apart.

A table can also hold a snapshot of a partition, which is deleted and inserted anew.

## Main definitions

* `sortDesc` — the elements by their rank, the highest first
* `Dict.bucket`, `Dict.save` — a dictionary for every partition
* `Table`, `Table.rows`, `Table.save`, `Table.delete`, `Table.insertAll` — a table
* `SameLookups` — the two layouts have the same records

## Main results

* `sortDesc_eq` — a listing does not depend on the order of the rows
* `SameLookups.save`, `SameLookups.keep` — both layouts change alike
* `SameLookups.list_eq`, `SameLookups.keys_perm` — and list alike
* `Table.rows_replaceAll` — a snapshot is listed as it was inserted
-/

namespace Foundation

variable {α κ π ρ σ τ : Type}

/-! ### Listings -/

/-- The elements by their rank, the highest first. -/
def sortDesc [LinearOrder σ] (rank : α → σ) (xs : List α) : List α :=
  xs.mergeSort fun a b => decide (rank b ≤ rank a)

theorem sortDesc_perm [LinearOrder σ] {rank : α → σ} {xs : List α} :
    (sortDesc rank xs).Perm xs := List.mergeSort_perm _ _

theorem pairwise_sortDesc [LinearOrder σ] {rank : α → σ} {xs : List α} :
    (sortDesc rank xs).Pairwise fun a b => rank b ≤ rank a := by
  have hsorted : (sortDesc rank xs).Pairwise fun a b => decide (rank b ≤ rank a) = true := by
    apply List.pairwise_mergeSort
    · intro a b c hab hbc
      rw [decide_eq_true_iff] at hab hbc ⊢
      exact hbc.trans hab
    · intro a b
      rw [Bool.or_eq_true, decide_eq_true_iff, decide_eq_true_iff]
      exact le_total _ _
  exact hsorted.imp of_decide_eq_true

/-- Ranks that order the elements alike and tell them apart give one listing. -/
theorem sortDesc_eq [LinearOrder σ] [LinearOrder τ] {rank : α → σ} {rank' : α → τ}
    {xs ys : List α} (hperm : xs.Perm ys)
    (hle : ∀ a ∈ xs, ∀ b ∈ xs, rank' a ≤ rank' b ↔ rank a ≤ rank b)
    (hinj : ∀ a ∈ xs, ∀ b ∈ xs, rank a = rank b → a = b) :
    sortDesc rank xs = sortDesc rank' ys := by
  have hsame : (sortDesc rank xs).Perm (sortDesc rank' ys) :=
    sortDesc_perm.trans (hperm.trans sortDesc_perm.symm)
  have hranked : (sortDesc rank' ys).Pairwise fun a b => rank b ≤ rank a := by
    apply pairwise_sortDesc.imp_of_mem
    intro a b ha hb hba
    exact (hle b (sortDesc_perm.mem_iff.mp (hsame.mem_iff.mpr hb)) a
      (sortDesc_perm.mem_iff.mp (hsame.mem_iff.mpr ha))).mp hba
  apply hsame.eq_of_pairwise _ pairwise_sortDesc hranked
  intro a b ha hb hba hab
  exact hinj a (sortDesc_perm.mem_iff.mp ha) b
    (sortDesc_perm.mem_iff.mp (hsame.mem_iff.mpr hb)) (le_antisymm hab hba)

/-- A list that descends already is its own listing. -/
theorem sortDesc_of_pairwise [LinearOrder σ] {rank : α → σ} {xs : List α}
    (h : xs.Pairwise fun a b => rank b < rank a) : sortDesc rank xs = xs := by
  apply List.mergeSort_of_pairwise
  exact h.imp fun hlt => decide_eq_true hlt.le

theorem map_sortDesc [LinearOrder σ] {β : Type} {f : α → β} {rank : β → σ} {xs : List α} :
    (sortDesc (fun a => rank (f a)) xs).map f = sortDesc rank (xs.map f) := by
  apply List.map_mergeSort
  intro a _ b _
  rfl

/-- All but the first elements of a rearranged list are counted. -/
theorem countP_notMem_take [DecidableEq α] {xs ys : List α} {n : ℕ} (hperm : ys.Perm xs)
    (hnodup : xs.Nodup) :
    xs.countP (fun x => !(ys.take n).contains x) = xs.length - (ys.take n).length := by
  -- the list has no element twice, so that its two parts are apart
  have happart := (List.nodup_append.mp ((List.take_append_drop n ys).symm ▸
    hperm.nodup_iff.mpr hnodup)).2.2
  have hfirst : (ys.take n).countP (fun x => !(ys.take n).contains x) = 0 := by
    rw [List.countP_eq_zero]
    intro x hx
    rw [List.contains_iff_mem.mpr hx]
    exact Bool.false_ne_true
  have hrest : (ys.drop n).countP (fun x => !(ys.take n).contains x) = (ys.drop n).length := by
    rw [List.countP_eq_length]
    intro x hx
    rw [Bool.not_eq_true', Bool.eq_false_iff, Ne, List.contains_iff_mem]
    intro hmem
    exact happart x hmem x hx rfl
  calc xs.countP (fun x => !(ys.take n).contains x)
      = ys.countP (fun x => !(ys.take n).contains x) := (hperm.countP_eq _).symm
    _ = (ys.take n ++ ys.drop n).countP (fun x => !(ys.take n).contains x) := by
        rw [List.take_append_drop]
    _ = (ys.drop n).length := by rw [List.countP_append, hfirst, hrest, Nat.zero_add]
    _ = xs.length - (ys.take n).length := by
        rw [List.length_drop, List.length_take, hperm.length_eq]
        omega

variable [DecidableEq κ] [DecidableEq π]

/-! ### A dictionary for every partition -/

/-- A record without a key is not kept. -/
def saveRecord (key : ρ → Option κ) (bucket : Dict κ ρ) (record : ρ) : Dict κ ρ :=
  match key record with
  | some k => bucket.set k record
  | none => bucket

namespace Dict

/-- The dictionary of a partition. -/
def bucket (buckets : Dict π (Dict κ ρ)) (p : π) : Dict κ ρ := (buckets.get? p).getD .empty

def save (key : ρ → Option κ) (buckets : Dict π (Dict κ ρ)) (p : π) (records : List ρ) :
    Dict π (Dict κ ρ) :=
  buckets.set p (records.foldl (saveRecord key) (buckets.bucket p))

omit [DecidableEq κ] in
theorem bucket_set {buckets : Dict π (Dict κ ρ)} {p q : π} {entries : Dict κ ρ} :
    (buckets.set p entries).bucket q = if q = p then entries else buckets.bucket q := by
  rw [bucket, get?_set]
  split_ifs <;> rfl

end Dict

theorem get?_saveRecord {key : ρ → Option κ} {entries : Dict κ ρ} {record : ρ} {k : κ} :
    (saveRecord key entries record).get? k =
      if key record = some k then some record else entries.get? k := by
  rw [saveRecord]
  cases hkey : key record with
  | none => rfl
  | some l =>
    rw [Dict.get?_set]
    simp only [Option.some.injEq, eq_comm]

/-! ### A table -/

/-- Rows with a primary key of two parts. -/
abbrev Table (π κ ρ : Type) := Dict (π × κ) ρ

namespace Table

variable {p q : π} {k : κ} {r : ρ} {t : Table π κ ρ}

/-- The keys and records of a partition. -/
def rows (t : Table π κ ρ) (p : π) : List (κ × ρ) :=
  (t.entries.filter fun entry => decide (entry.1.1 = p)).map fun entry => (entry.1.2, entry.2)

/-- A row with this primary key is taken out, and the new row added. -/
def replace (t : Table π κ ρ) (p : π) (k : κ) (r : ρ) : Table π κ ρ where
  entries := (t.erase (p, k)).entries ++ [((p, k), r)]
  nodup := by
    rw [List.map_append]
    apply (t.erase (p, k)).nodup.append (List.nodup_singleton _)
    intro key hkey hsingle
    rw [List.mem_singleton] at hsingle
    obtain ⟨entry, hentry, rfl⟩ := List.mem_map.mp hkey
    exact of_decide_eq_true (List.mem_filter.mp hentry).2 hsingle

def saveRow (key : ρ → Option κ) (p : π) (t : Table π κ ρ) (record : ρ) : Table π κ ρ :=
  match key record with
  | some k => t.replace p k record
  | none => t

def save (key : ρ → Option κ) (t : Table π κ ρ) (p : π) (records : List ρ) : Table π κ ρ :=
  records.foldl (saveRow key p) t

/-- The rows of a partition at some of the keys are deleted and counted. -/
def delete (t : Table π κ ρ) (p : π) (gone : κ → Bool) : ℕ × Table π κ ρ :=
  (t.entries.countP fun entry => decide (entry.1.1 = p) && gone entry.1.2,
    t.filterKeys fun key => !(decide (key.1 = p) && gone key.2))

/-- No row is inserted under a primary key that a row has. -/
def insert (p : π) (t : Table π κ ρ) (row : κ × ρ) : Option (Table π κ ρ) :=
  if h : (p, row.1) ∈ t.keys then none
  else some {
    entries := t.entries ++ [((p, row.1), row.2)]
    nodup := by
      rw [List.map_append]
      apply t.nodup.append (List.nodup_singleton _)
      intro key hkey hsingle
      rw [List.mem_singleton] at hsingle
      rw [hsingle] at hkey
      exact h hkey }

def insertAll (t : Table π κ ρ) (p : π) (rows : List (κ × ρ)) : Option (Table π κ ρ) :=
  rows.foldlM (insert p) t

theorem mem_rows : (k, r) ∈ t.rows p ↔ t.get? (p, k) = some r := by
  rw [rows, List.mem_map]
  constructor
  · rintro ⟨⟨⟨q, l⟩, other⟩, hentry, h⟩
    obtain ⟨hmem, hpart⟩ := List.mem_filter.mp hentry
    cases h
    rw [← of_decide_eq_true hpart]
    exact Dict.get?_of_mem hmem
  · intro h
    exact ⟨((p, k), r), List.mem_filter.mpr ⟨Dict.mem_of_get? h, decide_eq_true rfl⟩, rfl⟩

omit [DecidableEq κ] in
theorem nodup_rows : ((t.rows p).map Prod.fst).Nodup := by
  rw [rows, List.map_map]
  have hfilter := t.nodup.sublist
    ((List.filter_sublist (p := fun entry => decide (entry.1.1 = p))).map Prod.fst)
  apply List.Nodup.of_map (fun k => (p, k))
  rw [List.map_map]
  convert hfilter using 1
  apply List.map_congr_left
  intro entry hentry
  have hpart : entry.1.1 = p := of_decide_eq_true (List.mem_filter.mp hentry).2
  rw [Function.comp_apply, Function.comp_apply, ← hpart]

theorem get?_replace {l : κ} : (t.replace p k r).get? (q, l) =
    if q = p ∧ l = k then some r else t.get? (q, l) := by
  have hsplit : (t.replace p k r).get? (q, l) = ((t.erase (p, k)).get? (q, l)).or
      (if q = p ∧ l = k then some r else none) := by
    rw [Dict.get?, replace, List.find?_append, Dict.get?]
    cases (t.erase (p, k)).entries.find? fun entry => decide (entry.1 = (q, l)) with
    | some found => rfl
    | none =>
      simp only [Option.none_or, Option.map_none, List.find?_singleton, decide_eq_true_eq,
        Prod.mk.injEq, eq_comm (a := p), eq_comm (a := k)]
      split_ifs <;> rfl
  rw [hsplit, Dict.get?_erase]
  by_cases h : q = p ∧ l = k
  · rw [if_pos (by rw [h.1, h.2]), if_pos h, if_pos h, Option.none_or]
  · rw [if_neg (fun heq => h (Prod.mk.inj heq)), if_neg h, if_neg h, Option.or_none]

theorem get?_saveRow {key : ρ → Option κ} {record : ρ} {l : κ} :
    (saveRow key p t record).get? (q, l) =
      if q = p ∧ key record = some l then some record else t.get? (q, l) := by
  rw [saveRow]
  cases hkey : key record with
  | none => rw [if_neg (fun h => by cases h.2)]
  | some k =>
    rw [get?_replace]
    simp only [Option.some.injEq, eq_comm]

theorem get?_delete {gone : κ → Bool} {l : κ} : (t.delete p gone).2.get? (q, l) =
    if q = p ∧ gone l = true then none else t.get? (q, l) := by
  rw [delete, Dict.get?_filterKeys]
  by_cases h : q = p ∧ gone l = true
  · rw [if_pos h, if_neg (by simp [h])]
  · rw [if_neg h, if_pos (by simpa [imp_iff_not_or] using h)]

omit [DecidableEq κ] in
/-- As many rows are deleted as the partition has at those keys. -/
theorem delete_fst {gone : κ → Bool} :
    (t.delete p gone).1 = ((t.rows p).map Prod.fst).countP gone := by
  rw [delete, rows, List.map_map, List.countP_map, List.countP_filter]
  apply List.countP_congr
  intro entry _
  rw [Function.comp_apply, Function.comp_apply, Bool.and_comm]

/-! ### Snapshots of a partition -/

omit [DecidableEq κ] in
theorem rows_delete_all : (t.delete p fun _ => true).2.rows q =
    if q = p then [] else t.rows q := by
  rw [rows, delete, Dict.filterKeys, List.filter_filter]
  split_ifs with h
  · rw [List.map_eq_nil_iff, List.filter_eq_nil_iff]
    intro entry _
    simp [h]
  · rw [rows]
    congr 1
    apply List.filter_congr
    intro entry _
    by_cases hentry : entry.1.1 = q
    · simp [hentry, h]
    · simp [hentry]

theorem rows_insert {row : κ × ρ} {t' : Table π κ ρ} (h : insert p t row = some t') :
    t'.rows q = t.rows q ++ if q = p then [row] else [] := by
  rw [insert] at h
  split_ifs at h with hmem
  cases h
  rw [rows, rows, List.filter_append, List.map_append]
  congr 1
  by_cases hq : q = p
  · simp [hq]
  · simp [hq, Ne.symm hq]

/-- Rows with new keys can be inserted, and come after the others. -/
theorem rows_insertAll {new : List (κ × ρ)} (t : Table π κ ρ)
    (hnodup : ((t.rows p ++ new).map Prod.fst).Nodup) :
    ∃ t', t.insertAll p new = some t' ∧
      ∀ q, t'.rows q = t.rows q ++ if q = p then new else [] := by
  induction new generalizing t with
  | nil =>
    refine ⟨t, rfl, fun q => ?_⟩
    rw [ite_self, List.append_nil]
  | cons row new ih =>
    -- the key of the row is not in the partition yet
    have hfresh : (p, row.1) ∉ t.keys := by
      intro hmem
      obtain ⟨⟨⟨q, k⟩, r⟩, hentry, hkey⟩ := List.mem_map.mp hmem
      cases hkey
      have hrow : row.1 ∈ (t.rows p).map Prod.fst :=
        List.mem_map.mpr ⟨_, mem_rows.mpr (Dict.get?_of_mem hentry), rfl⟩
      rw [List.map_append, List.map_cons] at hnodup
      exact (List.nodup_append.mp hnodup).2.2 _ hrow _ List.mem_cons_self rfl
    obtain ⟨middle, hmiddle⟩ : ∃ middle, insert p t row = some middle := by
      rw [insert, dif_neg hfresh]
      exact ⟨_, rfl⟩
    have hrows : ∀ q, middle.rows q = t.rows q ++ if q = p then [row] else [] :=
      fun q => rows_insert hmiddle
    obtain ⟨t', ht', hafter⟩ := ih middle (by
      rw [hrows, if_pos rfl, List.append_assoc, List.singleton_append]
      exact hnodup)
    refine ⟨t', ?_, fun q => ?_⟩
    · rw [insertAll, List.foldlM_cons, hmiddle]
      exact ht'
    · rw [hafter, hrows]
      split_ifs
      · rw [List.append_assoc, List.singleton_append]
      · rw [List.append_nil]

/-- A partition that is deleted and inserted anew has the new rows, in their order. -/
theorem rows_replaceAll {new : List (κ × ρ)} (t : Table π κ ρ) (p : π)
    (hnodup : (new.map Prod.fst).Nodup) :
    ∃ t', (t.delete p fun _ => true).2.insertAll p new = some t' ∧
      ∀ q, t'.rows q = if q = p then new else t.rows q := by
  have hempty : (((t.delete p fun _ => true).2.rows p ++ new).map Prod.fst).Nodup := by
    rw [rows_delete_all, if_pos rfl]
    exact hnodup
  obtain ⟨t', ht', hrows⟩ := rows_insertAll _ hempty
  refine ⟨t', ht', fun q => ?_⟩
  rw [hrows, rows_delete_all]
  split_ifs
  · exact List.nil_append _
  · exact List.append_nil _

end Table

/-! ### Both layouts -/

/-- The same records under the same keys, each one valid and under its own key. -/
structure SameLookups (key : ρ → Option κ) (valid : ρ → Prop) (buckets : Dict π (Dict κ ρ))
    (t : Table π κ ρ) : Prop where
  lookup : ∀ p k, (buckets.bucket p).get? k = t.get? (p, k)
  keyed : ∀ p k r, (buckets.bucket p).get? k = some r → key r = some k ∧ valid r

namespace SameLookups

variable {key key' : ρ → Option κ} {valid : ρ → Prop} {buckets : Dict π (Dict κ ρ)}
  {t : Table π κ ρ} {p : π} {records : List ρ}

theorem empty : SameLookups key valid (.empty : Dict π (Dict κ ρ)) (.empty : Table π κ ρ) where
  lookup _ _ := rfl
  keyed := by
    intro p k r h
    cases h

/-- Saving the same records. -/
theorem save (h : SameLookups key valid buckets t) (p : π)
    (hvalid : ∀ r ∈ records, valid r) (hkey : ∀ r, valid r → key' r = key r) :
    SameLookups key valid (buckets.save key p records) (t.save key' p records) := by
  -- saved one by one, the records are found on both sides, and nothing else changes
  have hfold : ∀ (entries : Dict κ ρ) (t : Table π κ ρ),
      (∀ k, entries.get? k = t.get? (p, k)) →
      (∀ k r, entries.get? k = some r → key r = some k ∧ valid r) →
      (∀ k, (records.foldl (saveRecord key) entries).get? k = (t.save key' p records).get? (p, k)) ∧
      (∀ k r, (records.foldl (saveRecord key) entries).get? k = some r →
        key r = some k ∧ valid r) ∧
      ∀ q k, q ≠ p → (t.save key' p records).get? (q, k) = t.get? (q, k) := by
    induction records with
    | nil =>
      intro entries t hlookup hkeyed
      exact ⟨hlookup, hkeyed, fun _ _ _ => rfl⟩
    | cons record records ih =>
      intro entries t hlookup hkeyed
      have hrecord := hvalid record List.mem_cons_self
      obtain ⟨hsame, hafter, hother⟩ := ih (fun r hr => hvalid r (List.mem_cons_of_mem _ hr))
        (saveRecord key entries record) (Table.saveRow key' p t record)
        (by
          intro k
          rw [get?_saveRecord, Table.get?_saveRow, hkey record hrecord, hlookup]
          simp only [true_and])
        (by
          intro k r hr
          rw [get?_saveRecord] at hr
          split_ifs at hr with hk
          · cases hr
            exact ⟨hk, hrecord⟩
          · exact hkeyed k r hr)
      refine ⟨hsame, hafter, fun q k hq => ?_⟩
      exact (hother q k hq).trans (Table.get?_saveRow.trans (if_neg fun h => hq h.1))
  obtain ⟨hsame, hkeyed, hother⟩ :=
    hfold (buckets.bucket p) t (fun k => h.lookup p k) (fun k r => h.keyed p k r)
  constructor
  · intro q k
    rw [Dict.save, Dict.bucket_set]
    split_ifs with hq
    · rw [hq]
      exact hsame k
    · rw [hother q k hq]
      exact h.lookup q k
  · intro q k r hr
    rw [Dict.save, Dict.bucket_set] at hr
    split_ifs at hr with hq
    · exact hkeyed k r hr
    · exact h.keyed q k r hr

/-- Keeping the same keys of a partition. -/
theorem keep (h : SameLookups key valid buckets t) (p : π) (kept : κ → Bool) :
    SameLookups key valid (buckets.set p ((buckets.bucket p).filterKeys kept))
      (t.delete p fun k => !kept k).2 := by
  constructor
  · intro q k
    rw [Dict.bucket_set, Table.get?_delete]
    by_cases hq : q = p
    · rw [if_pos hq, Dict.get?_filterKeys, h.lookup, hq]
      cases kept k <;> simp
    · rw [if_neg hq, if_neg (fun hboth => hq hboth.1), h.lookup]
  · intro q k r hr
    rw [Dict.bucket_set] at hr
    split_ifs at hr with hq
    · rw [Dict.get?_filterKeys] at hr
      split_ifs at hr
      exact h.keyed p k r hr
    · exact h.keyed q k r hr

/-- Only what is found counts. -/
theorem of_get?_eq {others : Dict π (Dict κ ρ)} (h : SameLookups key valid buckets t)
    (hsame : ∀ p k, (others.bucket p).get? k = (buckets.bucket p).get? k) :
    SameLookups key valid others t where
  lookup p k := (hsame p k).trans (h.lookup p k)
  keyed p k r hr := h.keyed p k r ((hsame p k).symm.trans hr)

theorem entries_perm (h : SameLookups key valid buckets t) (p : π) :
    (buckets.bucket p).entries.Perm (t.rows p) := by
  apply (List.perm_ext_iff_of_nodup (List.Nodup.of_map _ (buckets.bucket p).nodup)
    (List.Nodup.of_map _ Table.nodup_rows)).mpr
  rintro ⟨k, r⟩
  rw [Table.mem_rows, ← h.lookup]
  exact ⟨Dict.get?_of_mem, Dict.mem_of_get?⟩

theorem keys_perm (h : SameLookups key valid buckets t) (p : π) :
    (buckets.bucket p).keys.Perm ((t.rows p).map Prod.fst) := (h.entries_perm p).map _

/-- A listing by a rank that tells the keys apart. -/
theorem list_eq [LinearOrder σ] [LinearOrder τ] (h : SameLookups key valid buckets t)
    {rank : ρ → σ} {rank' : κ × ρ → τ}
    (hle : ∀ k a l b, key a = some k → valid a → key b = some l → valid b →
      (rank' (k, a) ≤ rank' (l, b) ↔ rank a ≤ rank b))
    (hkey : ∀ k a l b, key a = some k → valid a → key b = some l → valid b →
      rank a = rank b → k = l) (p : π) :
    sortDesc rank (buckets.bucket p).values = (sortDesc rank' (t.rows p)).map Prod.snd := by
  have hentry : ∀ entry ∈ (buckets.bucket p).entries,
      key entry.2 = some entry.1 ∧ valid entry.2 := by
    rintro ⟨k, r⟩ hmem
    exact h.keyed p k r (Dict.get?_of_mem hmem)
  have hsame : sortDesc (fun entry : κ × ρ => rank entry.2) (buckets.bucket p).entries =
      sortDesc rank' (t.rows p) := by
    apply sortDesc_eq (h.entries_perm p)
    · intro a ha b hb
      exact hle a.1 a.2 b.1 b.2 (hentry a ha).1 (hentry a ha).2 (hentry b hb).1 (hentry b hb).2
    · intro a ha b hb hrank
      have hkeys := hkey a.1 a.2 b.1 b.2 (hentry a ha).1 (hentry a ha).2 (hentry b hb).1
        (hentry b hb).2 hrank
      exact List.inj_on_of_nodup_map (buckets.bucket p).nodup ha hb hkeys
  rw [Dict.values, ← hsame, map_sortDesc]

end SameLookups

end Foundation
