import Mathlib.Data.List.Chain
import Mathlib.Data.List.Forall2

/-!
# Merging neighbours

A list is shortened by merging neighbours that have the same key. An item without a key
is never merged. The result has one segment for each run of items with one key, and no
two of its neighbours could be merged again. Where merging is associative, two shortened
lists are put together by one more merge at the seam.

## Main definitions

* `Segments.Joins` — two items have the same key
* `Segments.push`, `Segments.compress` — one more item, and a whole list
* `Segments.mergeRun`, `Segments.IsPartition` — the runs of a list, and their segments
* `Segments.seam` — two shortened lists put together

## Main results

* `Segments.foldl_push` — pushing the items one by one shortens the list
* `Segments.compress_partition` — the segments are those of the runs
* `Segments.compress_append` — a list can be cut anywhere
* `Segments.compress_map` — a map that keeps keys apart and merges commutes
-/

namespace Foundation.Segments

variable {σ τ κ ν : Type*}

/-- What corresponds to two lists put together is put together as well. -/
theorem forall₂_append_left {R : σ → τ → Prop} {xs ys : List σ} {zs : List τ}
    (h : List.Forall₂ R (xs ++ ys) zs) :
    ∃ as bs, zs = as ++ bs ∧ List.Forall₂ R xs as ∧ List.Forall₂ R ys bs := by
  induction xs generalizing zs with
  | nil => exact ⟨[], zs, rfl, .nil, h⟩
  | cons x xs ih =>
    cases h with
    | cons hx hrest =>
      obtain ⟨as, bs, rfl, has, hbs⟩ := ih hrest
      exact ⟨_ :: as, bs, rfl, .cons hx has, hbs⟩

/-- Both items have the same key, and they have one. -/
def Joins (key : σ → Option κ) (a b : σ) : Prop := (key a).isSome ∧ key a = key b

theorem Joins.congr_left {key : σ → Option κ} {a b c : σ} (h : key a = key b) :
    Joins key a c ↔ Joins key b c := by
  rw [Joins, Joins, h]

theorem Joins.congr_right {key : σ → Option κ} {a b c : σ} (h : key a = key b) :
    Joins key c a ↔ Joins key c b := by
  rw [Joins, Joins, h]

/-! ### Runs -/

/-- The segment of a run. -/
def mergeRun (merge : σ → σ → σ) : List σ → Option σ
  | [] => none
  | item :: items => some (items.foldl merge item)

/-- The items of a run have one key, and items of neighbouring runs do not. -/
structure IsPartition (key : σ → Option κ) (items : List σ) (runs : List (List σ)) : Prop where
  flatten : runs.flatten = items
  joins : ∀ run ∈ runs, ∃ first rest, run = first :: rest ∧ ∀ other ∈ rest, Joins key first other
  apart : runs.IsChain fun run next => ∀ a ∈ run, ∀ b ∈ next, ¬ Joins key a b

/-- Merging keeps the key, and is associative where it takes place. -/
structure Lawful (key : σ → Option κ) (merge : σ → σ → σ) : Prop where
  key_merge : ∀ a b, Joins key a b → key (merge a b) = key a
  assoc : ∀ a b c, Joins key a b → Joins key b c → merge (merge a b) c = merge a (merge b c)

variable {key : σ → Option κ} {merge : σ → σ → σ} {a b c : σ} {items more : List σ}

/-- A run with its segment. -/
structure IsRun (key : σ → Option κ) (merge : σ → σ → σ) (run : List σ) (segment : σ) : Prop where
  joins : ∃ first rest, run = first :: rest ∧ ∀ other ∈ rest, Joins key first other
  merged : mergeRun merge run = some segment

theorem isRun_singleton (item : σ) : IsRun key merge [item] item where
  joins := ⟨item, [], rfl, by simp⟩
  merged := rfl

/-- The items of a run have the key of its segment. -/
theorem IsRun.key_eq (h : Lawful key merge) {run : List σ} {segment : σ}
    (hrun : IsRun key merge run segment) : ∀ item ∈ run, key item = key segment := by
  obtain ⟨first, rest, rfl, hjoins⟩ := hrun.joins
  have hsegment : rest.foldl merge first = segment := Option.some_inj.mp hrun.merged
  -- every merge keeps the key of the first item
  have hkeep : ∀ current, key current = key first →
      key (rest.foldl merge current) = key first := by
    clear hrun hsegment
    induction rest with
    | nil => exact fun _ hcurrent => hcurrent
    | cons other rest ih =>
      rw [List.forall_mem_cons] at hjoins
      intro current hcurrent
      apply ih hjoins.2
      rw [h.key_merge _ _ ((Joins.congr_left hcurrent).mpr hjoins.1), hcurrent]
  have hfirst : key segment = key first := by
    rw [← hsegment]
    exact hkeep first rfl
  intro item hmem
  rw [hfirst]
  rcases List.mem_cons.mp hmem with rfl | hmem
  · rfl
  · exact (hjoins item hmem).2.symm

/-- A run goes on with an item of its key. -/
theorem IsRun.push (h : Lawful key merge) {run : List σ} {segment item : σ}
    (hrun : IsRun key merge run segment) (hjoins : Joins key segment item) :
    IsRun key merge (run ++ [item]) (merge segment item) := by
  have hkey := hrun.key_eq h
  obtain ⟨first, rest, rfl, hrest⟩ := hrun.joins
  constructor
  · refine ⟨first, rest ++ [item], rfl, ?_⟩
    intro other hmem
    rcases List.mem_append.mp hmem with hmem | hmem
    · exact hrest other hmem
    · rw [List.mem_singleton.mp hmem, Joins.congr_left (hkey first List.mem_cons_self)]
      exact hjoins
  · have hsegment : rest.foldl merge first = segment := Option.some_inj.mp hrun.merged
    rw [List.cons_append, mergeRun, List.foldl_append, hsegment]
    rfl

/-- Segments that are apart come from runs that are. -/
theorem isChain_runs (h : Lawful key merge) {runs : List (List σ)} {segments : List σ}
    (hruns : List.Forall₂ (IsRun key merge) runs segments)
    (hchain : segments.IsChain fun a b => ¬ Joins key a b) :
    runs.IsChain fun run next => ∀ a ∈ run, ∀ b ∈ next, ¬ Joins key a b := by
  induction hruns with
  | nil => exact List.isChain_nil
  | cons hrun htail ih =>
    cases htail with
    | nil => exact List.isChain_singleton _
    | cons hnext htail =>
      rw [List.isChain_cons_cons] at hchain
      apply List.isChain_cons_cons.mpr
      refine ⟨?_, ih hchain.2⟩
      intro a ha b hb
      rw [Joins.congr_left (hrun.key_eq h a ha), Joins.congr_right (hnext.key_eq h b hb)]
      exact hchain.1

/-! ### Shortening a list -/

variable [DecidableEq κ] [DecidableEq ν]

instance decidableJoins (key : σ → Option κ) (a b : σ) : Decidable (Joins key a b) :=
  inferInstanceAs (Decidable (_ ∧ _))

section Definitions

variable (key : σ → Option κ) (merge : σ → σ → σ)

/-- One more item, merged into the last one if they have the same key. -/
def push (segments : List σ) (item : σ) : List σ :=
  match segments.getLast? with
  | some previous =>
    if Joins key previous item then segments.dropLast ++ [merge previous item]
    else segments ++ [item]
  | none => [item]

/-- The segments of a list, when the first of them is open. -/
def compressFrom : σ → List σ → List σ
  | current, [] => [current]
  | current, item :: items =>
    if Joins key current item then compressFrom (merge current item) items
    else current :: compressFrom item items

def compress : List σ → List σ
  | [] => []
  | item :: items => compressFrom key merge item items

/-- Two shortened lists, with one more merge where they meet. -/
def seam (left right : List σ) : List σ :=
  match left.getLast?, right with
  | some a, b :: rest => if Joins key a b then left.dropLast ++ merge a b :: rest else left ++ right
  | _, _ => left ++ right

end Definitions

/-! ### One by one -/

/-- Only the last segment is open. -/
theorem foldl_push_append (done : List σ) (current : σ) (items : List σ) :
    items.foldl (push key merge) (done ++ [current]) =
      done ++ compressFrom key merge current items := by
  induction items generalizing done current with
  | nil => rfl
  | cons item items ih =>
    rw [List.foldl_cons, push, List.getLast?_concat, compressFrom]
    by_cases hjoins : Joins key current item
    · simp only [if_pos hjoins, List.dropLast_concat]
      exact ih done _
    · simp only [if_neg hjoins]
      rw [ih, List.append_assoc]
      rfl

/-- Pushing the items one by one shortens the list. -/
theorem foldl_push (items : List σ) :
    items.foldl (push key merge) [] = compress key merge items := by
  cases items with
  | nil => rfl
  | cons item items => exact foldl_push_append [] item items

/-! ### The segments -/

/-- The first segment keeps the key of the open one. -/
theorem compressFrom_eq_cons (h : Lawful key merge) (current : σ) (items : List σ) :
    ∃ head tail, compressFrom key merge current items = head :: tail ∧ key head = key current := by
  induction items generalizing current with
  | nil => exact ⟨current, [], rfl, rfl⟩
  | cons item items ih =>
    rw [compressFrom]
    by_cases hjoins : Joins key current item
    · rw [if_pos hjoins]
      obtain ⟨head, tail, heq, hkey⟩ := ih (merge current item)
      exact ⟨head, tail, heq, hkey.trans (h.key_merge _ _ hjoins)⟩
    · rw [if_neg hjoins]
      exact ⟨current, _, rfl, rfl⟩

/-- No two neighbours could be merged again. -/
theorem isChain_compressFrom (h : Lawful key merge) (current : σ) (items : List σ) :
    (compressFrom key merge current items).IsChain fun a b => ¬ Joins key a b := by
  induction items generalizing current with
  | nil => exact List.isChain_singleton _
  | cons item items ih =>
    rw [compressFrom]
    by_cases hjoins : Joins key current item
    · rw [if_pos hjoins]
      exact ih _
    · obtain ⟨head, tail, heq, hkey⟩ := compressFrom_eq_cons h item items
      have hchain := ih item
      rw [if_neg hjoins]
      rw [heq] at hchain ⊢
      apply List.isChain_cons_cons.mpr
      refine ⟨?_, hchain⟩
      rwa [Joins.congr_right hkey]

theorem isChain_compress (h : Lawful key merge) (items : List σ) :
    (compress key merge items).IsChain fun a b => ¬ Joins key a b := by
  cases items with
  | nil => exact List.isChain_nil
  | cons item items => exact isChain_compressFrom h item items

/-- What merging keeps holds of every segment. -/
theorem forall_mem_compressFrom {P : σ → Prop}
    (hmerge : ∀ a b, P a → P b → Joins key a b → P (merge a b)) {current : σ} (hcurrent : P current)
    {items : List σ} (hitems : ∀ item ∈ items, P item) :
    ∀ segment ∈ compressFrom key merge current items, P segment := by
  induction items generalizing current with
  | nil =>
    intro segment hmem
    rw [List.mem_singleton.mp hmem]
    exact hcurrent
  | cons item items ih =>
    rw [List.forall_mem_cons] at hitems
    rw [compressFrom]
    by_cases hjoins : Joins key current item
    · rw [if_pos hjoins]
      exact ih (hmerge _ _ hcurrent hitems.1 hjoins) hitems.2
    · rw [if_neg hjoins]
      exact List.forall_mem_cons.mpr ⟨hcurrent, ih hitems.1 hitems.2⟩

theorem forall_mem_compress {P : σ → Prop}
    (hmerge : ∀ a b, P a → P b → Joins key a b → P (merge a b))
    (hitems : ∀ item ∈ items, P item) : ∀ segment ∈ compress key merge items, P segment := by
  cases items with
  | nil => exact fun _ hmem => absurd hmem List.not_mem_nil
  | cons item items =>
    rw [List.forall_mem_cons] at hitems
    exact forall_mem_compressFrom hmerge hitems.1 hitems.2

/-! ### The runs of a list -/

/-- The segments are those of consecutive runs. -/
theorem exists_runs_compressFrom (h : Lawful key merge) {run : List σ} {current : σ}
    (hrun : IsRun key merge run current) (items : List σ) :
    ∃ runs, runs.flatten = run ++ items ∧
      List.Forall₂ (IsRun key merge) runs (compressFrom key merge current items) := by
  induction items generalizing run current with
  | nil =>
    refine ⟨[run], by simp, ?_⟩
    exact .cons hrun .nil
  | cons item items ih =>
    rw [compressFrom]
    by_cases hjoins : Joins key current item
    · rw [if_pos hjoins]
      obtain ⟨runs, hflatten, hruns⟩ := ih (hrun.push h hjoins)
      exact ⟨runs, by rw [hflatten, List.append_assoc]; rfl, hruns⟩
    · rw [if_neg hjoins]
      obtain ⟨runs, hflatten, hruns⟩ := ih (isRun_singleton item)
      exact ⟨run :: runs, by rw [List.flatten_cons, hflatten]; rfl, .cons hrun hruns⟩

/-- A list is cut into runs, and each has its segment. -/
theorem compress_partition (h : Lawful key merge) (items : List σ) :
    ∃ runs, IsPartition key items runs ∧
      List.Forall₂ (fun run segment => mergeRun merge run = some segment) runs
        (compress key merge items) := by
  cases items with
  | nil => exact ⟨[], ⟨rfl, by simp, List.isChain_nil⟩, .nil⟩
  | cons item items =>
    obtain ⟨runs, hflatten, hruns⟩ := exists_runs_compressFrom h (isRun_singleton item) items
    refine ⟨runs, ⟨hflatten, ?_, ?_⟩, hruns.imp fun _ _ hrun => hrun.merged⟩
    · intro run hmem
      obtain ⟨i, hi, rfl⟩ := List.mem_iff_getElem.mp hmem
      exact (hruns.get hi (hruns.length_eq ▸ hi)).joins
    · exact isChain_runs h hruns (isChain_compressFrom h item items)

/-! ### The seam -/

/-- An item in front of an open segment is merged into the first one. -/
theorem compressFrom_merge (h : Lawful key merge) (hjoins : Joins key a b) (items : List σ) :
    ∃ head tail, compressFrom key merge b items = head :: tail ∧
      compressFrom key merge (merge a b) items = merge a head :: tail := by
  induction items generalizing b with
  | nil => exact ⟨b, [], rfl, rfl⟩
  | cons item items ih =>
    have hkey : key (merge a b) = key b := (h.key_merge a b hjoins).trans hjoins.2
    rw [compressFrom, compressFrom]
    by_cases hitem : Joins key b item
    · have hmerged : Joins key a (merge b item) :=
        (Joins.congr_right (h.key_merge b item hitem)).mpr hjoins
      rw [if_pos hitem, if_pos ((Joins.congr_left hkey).mpr hitem), h.assoc a b item hjoins hitem]
      exact ih hmerged
    · rw [if_neg hitem, if_neg (fun h' => hitem ((Joins.congr_left hkey).mp h'))]
      exact ⟨b, _, rfl, rfl⟩

theorem seam_nil (left : List σ) : seam key merge left [] = left := by
  unfold seam
  cases left.getLast? <;> exact List.append_nil left

theorem seam_concat_cons (before after : List σ) :
    seam key merge (before ++ [a]) (b :: after) =
      if Joins key a b then before ++ merge a b :: after else before ++ [a] ++ b :: after := by
  unfold seam
  rw [List.getLast?_concat, List.dropLast_concat]

theorem seam_append (done left right : List σ) (hleft : left ≠ []) :
    seam key merge (done ++ left) right = done ++ seam key merge left right := by
  obtain ⟨front, last, rfl⟩ : ∃ front last, left = front ++ [last] :=
    ⟨left.dropLast, left.getLast hleft, (List.dropLast_append_getLast hleft).symm⟩
  rw [← List.append_assoc]
  cases right with
  | nil => rw [seam_nil, seam_nil, List.append_assoc]
  | cons b rest =>
    rw [seam_concat_cons, seam_concat_cons]
    split_ifs <;> simp

theorem compressFrom_append (h : Lawful key merge) (current : σ) (items more : List σ) :
    compressFrom key merge current (items ++ more) =
      seam key merge (compressFrom key merge current items) (compress key merge more) := by
  induction items generalizing current with
  | nil =>
    cases more with
    | nil => rfl
    | cons item more =>
      obtain ⟨head, tail, heq, hkey⟩ := compressFrom_eq_cons h item more
      rw [List.nil_append, compress, heq]
      show _ = if Joins key current head then [] ++ merge current head :: tail
        else [current] ++ head :: tail
      rw [compressFrom]
      -- the segment before the seam takes the head of the second list, or does not
      by_cases hjoins : Joins key current item
      · obtain ⟨head', tail', heq', hmerged⟩ := compressFrom_merge h hjoins more
        rw [heq] at heq'
        obtain ⟨rfl, rfl⟩ := List.cons.inj heq'
        rw [if_pos hjoins, if_pos ((Joins.congr_right hkey).mpr hjoins), hmerged]
        rfl
      · rw [if_neg hjoins, if_neg (fun h' => hjoins ((Joins.congr_right hkey).mp h')), heq]
        rfl
  | cons item items ih =>
    rw [List.cons_append, compressFrom, compressFrom]
    by_cases hjoins : Joins key current item
    · rw [if_pos hjoins, if_pos hjoins, ih]
    · obtain ⟨head, tail, heq, -⟩ := compressFrom_eq_cons h item items
      rw [if_neg hjoins, if_neg hjoins, ih, heq]
      exact (seam_append [current] (head :: tail) _ (List.cons_ne_nil _ _)).symm

/-- A list can be cut anywhere: only the segments at the seam are merged. -/
theorem compress_append (h : Lawful key merge) (items more : List σ) :
    compress key merge (items ++ more) =
      seam key merge (compress key merge items) (compress key merge more) := by
  cases items with
  | nil =>
    cases more <;> rfl
  | cons item items => exact compressFrom_append h item items more

/-! ### A map of the items -/

/-- A map commutes that keeps the keys of an invariant apart, and commutes with the merges
of its items. -/
theorem compressFrom_map {key' : τ → Option ν} {merge' : τ → τ → τ} {f : σ → τ} {P : σ → Prop}
    (hjoins : ∀ a b, P a → P b → (Joins key' (f a) (f b) ↔ Joins key a b))
    (hmerge : ∀ a b, P a → P b → Joins key a b →
      P (merge a b) ∧ merge' (f a) (f b) = f (merge a b))
    {current : σ} (hcurrent : P current) {items : List σ} (hitems : ∀ item ∈ items, P item) :
    compressFrom key' merge' (f current) (items.map f) =
      (compressFrom key merge current items).map f := by
  induction items generalizing current with
  | nil => rfl
  | cons item items ih =>
    rw [List.forall_mem_cons] at hitems
    have hiff := hjoins current item hcurrent hitems.1
    rw [List.map_cons, compressFrom, compressFrom]
    by_cases h : Joins key current item
    · obtain ⟨hP, heq⟩ := hmerge current item hcurrent hitems.1 h
      rw [if_pos h, if_pos (hiff.mpr h), heq]
      exact ih hP hitems.2
    · rw [if_neg h, if_neg (fun h' => h (hiff.mp h')), List.map_cons, ih hitems.1 hitems.2]

theorem compress_map {key' : τ → Option ν} {merge' : τ → τ → τ} {f : σ → τ} {P : σ → Prop}
    (hjoins : ∀ a b, P a → P b → (Joins key' (f a) (f b) ↔ Joins key a b))
    (hmerge : ∀ a b, P a → P b → Joins key a b →
      P (merge a b) ∧ merge' (f a) (f b) = f (merge a b))
    {items : List σ} (hitems : ∀ item ∈ items, P item) :
    compress key' merge' (items.map f) = (compress key merge items).map f := by
  cases items with
  | nil => rfl
  | cons item items =>
    rw [List.forall_mem_cons] at hitems
    exact compressFrom_map hjoins hmerge hitems.1 hitems.2

end Foundation.Segments
