import Fresnica.Foundation.Ordered

/-!
# Greedy filling of a set

A greedy loop adds the heaviest usable candidate to a growing set until a goal
holds, and fails when no usable candidate is left. Whatever the weights are, it
succeeds as soon as the goal holds of the set with all usable candidates added,
provided the goal is monotone: a failed run has already taken every one of them.

## Main definitions

* `lastMaxBy` — the last of the heaviest elements of a list
* `Greedy.best` — the heaviest usable candidate that is not in the set yet
* `Greedy.fill` — the loop
* `Extends` — a set is another one with fresh, pairwise different elements added

## Main results

* `Greedy.fill_ok` — a run that succeeds reached the goal by usable candidates
* `Greedy.fill_error` — a run that fails took every usable candidate in vain
* `Greedy.fill_prefix` — no part of a run would have been enough
* `Greedy.fill_dominates` — no other choice of as many candidates is heavier
-/

namespace Foundation

variable {α σ : Type*}

/-- The last of the elements of greatest weight, as an iterator's maximum by key
returns it. -/
def lastMaxBy (weight : σ → ℕ) : List σ → Option σ
  | [] => none
  | c :: cs =>
    match lastMaxBy weight cs with
    | none => some c
    | some d => if weight c ≤ weight d then some d else some c

theorem lastMaxBy_eq_none_iff {weight : σ → ℕ} {cs : List σ} :
    lastMaxBy weight cs = none ↔ cs = [] := by
  cases cs with
  | nil => simp [lastMaxBy]
  | cons c cs =>
    simp only [lastMaxBy, reduceCtorEq, iff_false]
    cases lastMaxBy weight cs with
    | none => simp
    | some d => dsimp only; split_ifs <;> simp

theorem mem_of_lastMaxBy {weight : σ → ℕ} {cs : List σ} {c : σ}
    (h : lastMaxBy weight cs = some c) : c ∈ cs := by
  induction cs with
  | nil => simp [lastMaxBy] at h
  | cons d ds ih =>
    simp only [lastMaxBy] at h
    cases hd : lastMaxBy weight ds with
    | none =>
      rw [hd] at h
      obtain rfl := Option.some_inj.mp h
      exact List.mem_cons_self
    | some e =>
      rw [hd] at h
      dsimp only at h
      split_ifs at h
      · exact List.mem_cons_of_mem _ (ih (hd.trans h))
      · obtain rfl := Option.some_inj.mp h
        exact List.mem_cons_self

theorem le_of_lastMaxBy {weight : σ → ℕ} {cs : List σ} {c d : σ}
    (h : lastMaxBy weight cs = some c) (hd : d ∈ cs) : weight d ≤ weight c := by
  induction cs generalizing c with
  | nil => cases hd
  | cons e es ih =>
    simp only [lastMaxBy] at h
    cases hlast : lastMaxBy weight es with
    | none =>
      rw [lastMaxBy_eq_none_iff.mp hlast, List.mem_singleton] at hd
      rw [hlast] at h
      rw [hd, Option.some_inj.mp h]
    | some f =>
      rw [hlast] at h
      dsimp only at h
      -- of two equals the last is taken
      split_ifs at h with hle
      · obtain rfl := Option.some_inj.mp h
        rcases List.mem_cons.mp hd with rfl | hd
        · exact hle
        · exact ih hlast hd
      · obtain rfl := Option.some_inj.mp h
        rcases List.mem_cons.mp hd with rfl | hd
        · exact le_refl _
        · exact (ih hlast hd).trans (not_le.mp hle).le

variable [Ord α] [Std.TransOrd α]

/-- `t` is `s` with the pairwise different elements of `added`, none of them in
`s`, added. -/
structure Extends (s t : BTreeSet α) (added : List α) : Prop where
  mem_iff : ∀ a, a ∈ t ↔ a ∈ s ∨ a ∈ added
  nodup : added.Nodup
  fresh : ∀ a ∈ added, a ∉ s

namespace Extends

variable {s t u : BTreeSet α} {as bs : List α} {a : α}

theorem refl (s : BTreeSet α) : Extends s s [] where
  mem_iff := by simp
  nodup := List.nodup_nil
  fresh := by simp

theorem insert [Std.LawfulEqOrd α] (h : a ∉ s) : Extends s (s.insert a) [a] where
  mem_iff b := by rw [BTreeSet.mem_insert_iff, List.mem_singleton, or_comm]
  nodup := List.nodup_singleton a
  fresh := by simpa using h

theorem trans (h : Extends s t as) (h' : Extends t u bs) : Extends s u (as ++ bs) where
  mem_iff b := by rw [h'.mem_iff, h.mem_iff, List.mem_append, or_assoc]
  nodup := by
    refine h.nodup.append h'.nodup fun b hb hb' => h'.fresh b hb' ?_
    exact (h.mem_iff b).mpr (Or.inr hb)
  fresh b hb := by
    rcases List.mem_append.mp hb with hb | hb
    · exact h.fresh b hb
    · exact fun hs => h'.fresh b hb ((h.mem_iff b).mpr (Or.inl hs))

theorem subset (h : Extends s t as) : ∀ b ∈ s, b ∈ t := fun b hb => (h.mem_iff b).mpr (Or.inl hb)

end Extends

namespace Greedy

variable (cond : σ → α) (usable : σ → Bool) (weight : σ → ℕ) (goal : BTreeSet α → Bool)
variable {cs : List σ} {s t : BTreeSet α} {c : σ} {added : List σ}

/-- The usable candidates that are not in the set yet. -/
def remaining (cs : List σ) (s : BTreeSet α) : List σ :=
  cs.filter fun c => usable c = true ∧ cond c ∉ s

/-- The heaviest of the remaining candidates. -/
def best (cs : List σ) (s : BTreeSet α) : Option σ :=
  lastMaxBy weight (remaining cond usable cs s)

variable {cond usable weight goal}

theorem mem_remaining :
    c ∈ remaining cond usable cs s ↔ c ∈ cs ∧ usable c = true ∧ cond c ∉ s := by
  simp [remaining]

theorem best_eq_some (h : best cond usable weight cs s = some c) :
    c ∈ cs ∧ usable c = true ∧ cond c ∉ s :=
  mem_remaining.mp (mem_of_lastMaxBy h)

theorem best_eq_none (h : best cond usable weight cs s = none) :
    ∀ c ∈ cs, usable c = true → cond c ∈ s := by
  intro c hc hu
  by_contra hs
  have hmem : c ∈ remaining cond usable cs s := mem_remaining.mpr ⟨hc, hu, hs⟩
  rw [lastMaxBy_eq_none_iff.mp h] at hmem
  simp at hmem

/-- Every pass of the loop uses up a candidate. -/
theorem remaining_insert_lt (h : best cond usable weight cs s = some c) :
    (remaining cond usable cs (s.insert (cond c))).length <
      (remaining cond usable cs s).length := by
  obtain ⟨hc, hu, hs⟩ := best_eq_some h
  have hsub : remaining cond usable cs (s.insert (cond c)) =
      (remaining cond usable cs s).filter fun d => cond d ∉ s.insert (cond c) := by
    rw [remaining, remaining, List.filter_filter]
    refine List.filter_congr fun d _ => ?_
    rw [← Bool.decide_and, decide_eq_decide, Std.ExtTreeSet.mem_insert]
    tauto
  rw [hsub]
  exact List.length_filter_lt_length_iff_exists.mpr
    ⟨c, mem_remaining.mpr ⟨hc, hu, hs⟩, by simp⟩

variable (cond usable weight goal) in
/-- Add the best candidate until the goal holds: the set reached and the
candidates taken, in order. The set at the point of failure is the error. -/
def fill (cs : List σ) (s : BTreeSet α) : Except (BTreeSet α) (BTreeSet α × List σ) :=
  if goal s then .ok (s, [])
  else
    match _h : best cond usable weight cs s with
    | none => .error s
    | some c => (fill cs (s.insert (cond c))).map fun r => (r.1, c :: r.2)
termination_by (remaining cond usable cs s).length
decreasing_by exact remaining_insert_lt _h

theorem fill_of_goal (h : goal s = true) :
    fill cond usable weight goal cs s = .ok (s, []) := by
  rw [fill, if_pos h]

theorem fill_of_best_eq_none (hgoal : ¬ goal s = true)
    (hbest : best cond usable weight cs s = none) :
    fill cond usable weight goal cs s = .error s := by
  rw [fill, if_neg hgoal]
  split
  · rfl
  · rename_i c hc
    exact absurd (hbest.symm.trans hc) (by simp)

theorem fill_of_best_eq_some (hgoal : ¬ goal s = true)
    (hbest : best cond usable weight cs s = some c) :
    fill cond usable weight goal cs s =
      (fill cond usable weight goal cs (s.insert (cond c))).map fun r => (r.1, c :: r.2) := by
  rw [fill, if_neg hgoal]
  split
  · rename_i hnone
    exact absurd (hbest.symm.trans hnone) (by simp)
  · rename_i d hd
    obtain rfl := Option.some_inj.mp (hbest.symm.trans hd)
    rfl

/-- What the loop has taken when it stops, whether it succeeds or fails. -/
structure Taken (cond : σ → α) (usable : σ → Bool) (cs : List σ) (s t : BTreeSet α)
    (added : List σ) : Prop where
  extends_map : Extends s t (added.map cond)
  usable : ∀ c ∈ added, c ∈ cs ∧ usable c = true

theorem Taken.refl : Taken cond usable cs s s [] where
  extends_map := Extends.refl s
  usable := by simp

theorem Taken.cons [Std.LawfulEqOrd α] (h : best cond usable weight cs s = some c)
    (ht : Taken cond usable cs (s.insert (cond c)) t added) :
    Taken cond usable cs s t (c :: added) where
  extends_map := (Extends.insert (best_eq_some h).2.2).trans ht.extends_map
  usable d hd := by
    rcases List.mem_cons.mp hd with rfl | hd
    · exact ⟨(best_eq_some h).1, (best_eq_some h).2.1⟩
    · exact ht.usable d hd

variable [Std.LawfulEqOrd α]

theorem fill_ok (h : fill cond usable weight goal cs s = .ok (t, added)) :
    goal t = true ∧ Taken cond usable cs s t added := by
  induction s using fill.induct cond usable weight goal cs generalizing added with
  | case1 s hgoal =>
    rw [fill, if_pos hgoal] at h
    obtain ⟨rfl, rfl⟩ := Prod.mk.inj (Except.ok.inj h)
    exact ⟨hgoal, Taken.refl⟩
  | case2 s hgoal hbest =>
    rw [fill_of_best_eq_none hgoal hbest] at h
    exact absurd h (by simp)
  | case3 s hgoal c hbest ih =>
    rw [fill_of_best_eq_some hgoal hbest] at h
    cases hrec : fill cond usable weight goal cs (s.insert (cond c)) with
    | error u =>
      rw [hrec] at h
      exact absurd h (by simp [Except.map])
    | ok r =>
      rw [hrec] at h
      obtain ⟨rfl, rfl⟩ := Prod.mk.inj (Except.ok.inj h)
      obtain ⟨hgoal', htaken⟩ := ih hrec
      exact ⟨hgoal', htaken.cons hbest⟩

theorem fill_error (h : fill cond usable weight goal cs s = .error t) :
    goal t = false ∧ (∃ added, Taken cond usable cs s t added) ∧
      ∀ c ∈ cs, usable c = true → cond c ∈ t := by
  induction s using fill.induct cond usable weight goal cs with
  | case1 s hgoal =>
    rw [fill, if_pos hgoal] at h
    exact absurd h (by simp)
  | case2 s hgoal hbest =>
    rw [fill_of_best_eq_none hgoal hbest] at h
    obtain rfl := Except.error.inj h
    exact ⟨Bool.eq_false_iff.mpr hgoal, ⟨[], Taken.refl⟩, best_eq_none hbest⟩
  | case3 s hgoal c hbest ih =>
    rw [fill_of_best_eq_some hgoal hbest] at h
    cases hrec : fill cond usable weight goal cs (s.insert (cond c)) with
    | ok r =>
      rw [hrec] at h
      exact absurd h (by simp [Except.map])
    | error u =>
      rw [hrec] at h
      obtain rfl := Except.error.inj h
      obtain ⟨hgoal', ⟨added, htaken⟩, hall⟩ := ih hrec
      exact ⟨hgoal', ⟨c :: added, htaken.cons hbest⟩, hall⟩

omit [Std.LawfulEqOrd α] in
/-- Before every pick the goal did not hold. -/
theorem fill_prefix (h : fill cond usable weight goal cs s = .ok (t, added)) {before after : List σ}
    (hadded : added = before ++ c :: after) : goal (s.insertMany (before.map cond)) = false := by
  induction s using fill.induct cond usable weight goal cs generalizing added before with
  | case1 s hgoal =>
    rw [fill, if_pos hgoal] at h
    obtain ⟨-, rfl⟩ := Prod.mk.inj (Except.ok.inj h)
    cases before <;> cases hadded
  | case2 s hgoal hbest =>
    rw [fill_of_best_eq_none hgoal hbest] at h
    cases h
  | case3 s hgoal d hbest ih =>
    rw [fill_of_best_eq_some hgoal hbest] at h
    cases hrec : fill cond usable weight goal cs (s.insert (cond d)) with
    | error u =>
      rw [hrec] at h
      cases h
    | ok r =>
      rw [hrec] at h
      obtain ⟨rfl, rfl⟩ := Prod.mk.inj (Except.ok.inj h)
      -- an empty prefix is the state of this step, any other is one of the rest
      cases before with
      | nil => exact Bool.eq_false_iff.mpr hgoal
      | cons e before =>
        obtain ⟨rfl, hrest⟩ := List.cons.inj hadded
        rw [List.map_cons, Std.ExtTreeSet.insertMany_cons]
        exact ih hrec hrest

/-- A candidate adds its weight to a set, and nothing else adds any. -/
structure Additive (cond : σ → α) (weight : σ → ℕ) (cs : List σ) (total : BTreeSet α → ℕ) :
    Prop where
  insert : ∀ c ∈ cs, ∀ s, cond c ∉ s → total (s.insert (cond c)) = total s + weight c
  insert_other : ∀ a, (∀ c ∈ cs, cond c ≠ a) → ∀ s, total (s.insert a) = total s

variable {total : BTreeSet α → ℕ}

theorem Additive.mono_insert (h : Additive cond weight cs total) (s : BTreeSet α) (a : α) :
    total s ≤ total (s.insert a) := by
  by_cases ha : a ∈ s
  · rw [BTreeSet.insert_eq_self ha]
  by_cases hcs : ∃ c ∈ cs, cond c = a
  · obtain ⟨c, hc, rfl⟩ := hcs
    rw [h.insert c hc s ha]
    exact Nat.le_add_right _ _
  · rw [h.insert_other a (by simpa using hcs) s]

/-- What is added besides the best candidate adds no more than the best one would. -/
theorem Additive.insert_le (h : Additive cond weight cs total)
    (hbest : best cond usable weight cs s = some c) {as : List α} {a : α}
    (husable : ∀ d ∈ cs, cond d = a → usable d = true) (hc : cond c ∉ s.insertMany as) :
    total ((s.insertMany as).insert a) ≤ total ((s.insertMany as).insert (cond c)) := by
  rw [h.insert c (best_eq_some hbest).1 _ hc]
  by_cases ha : a ∈ s.insertMany as
  · rw [BTreeSet.insert_eq_self ha]
    exact Nat.le_add_right _ _
  by_cases hcs : ∃ d ∈ cs, cond d = a
  · obtain ⟨d, hd, rfl⟩ := hcs
    rw [h.insert d hd _ ha]
    apply Nat.add_le_add_left
    -- it was among the candidates the best one was chosen from
    apply le_of_lastMaxBy hbest
    rw [mem_remaining]
    refine ⟨hd, husable d hd rfl, fun hs => ha ?_⟩
    exact BTreeSet.mem_insertMany.mpr (Or.inl hs)
  · rw [h.insert_other a (by simpa using hcs)]
    exact Nat.le_add_right _ _

/-- No other usable elements, as many as the first ones taken, are heavier. -/
theorem fill_dominates (hadditive : Additive cond weight cs total)
    (h : fill cond usable weight goal cs s = .ok (t, added)) {as : List α} {n : ℕ}
    (husable : ∀ a ∈ as, ∀ d ∈ cs, cond d = a → usable d = true) (hlength : as.length ≤ n)
    (hn : n ≤ added.length) :
    total (s.insertMany as) ≤ total (s.insertMany ((added.take n).map cond)) := by
  -- by an exchange: whatever is taken first, the best one can be taken in its place
  induction s using fill.induct cond usable weight goal cs generalizing added as n with
  | case1 s hgoal =>
    rw [fill, if_pos hgoal] at h
    obtain ⟨-, rfl⟩ := Prod.mk.inj (Except.ok.inj h)
    obtain rfl := List.length_eq_zero_iff.mp (Nat.le_zero.mp (hlength.trans hn))
    simp
  | case2 s hgoal hbest =>
    rw [fill_of_best_eq_none hgoal hbest] at h
    cases h
  | case3 s hgoal c hbest ih =>
    rw [fill_of_best_eq_some hgoal hbest] at h
    cases hrec : fill cond usable weight goal cs (s.insert (cond c)) with
    | error u =>
      rw [hrec] at h
      cases h
    | ok r =>
      rw [hrec] at h
      obtain ⟨rfl, rfl⟩ := Prod.mk.inj (Except.ok.inj h)
      cases n with
      | zero =>
        obtain rfl := List.length_eq_zero_iff.mp (Nat.le_zero.mp hlength)
        simp
      | succ n =>
        have hn' : n ≤ r.2.length := Nat.le_of_succ_le_succ hn
        rw [List.take_succ_cons, List.map_cons, Std.ExtTreeSet.insertMany_cons]
        by_cases hmem : cond c ∈ as
        · -- the best one is among them: compare what remains
          obtain ⟨before, after, rfl⟩ := List.append_of_mem hmem
          have hsame : s.insertMany (before ++ cond c :: after) =
              (s.insert (cond c)).insertMany (before ++ after) := by
            apply Std.ExtTreeSet.ext_mem
            intro a
            simp only [BTreeSet.mem_insertMany, BTreeSet.mem_insert_iff, List.mem_append,
              List.mem_cons]
            tauto
          rw [hsame]
          refine ih hrec (fun a ha => husable a ?_) ?_ hn'
          · simp only [List.mem_append, List.mem_cons] at ha ⊢
            tauto
          · simp only [List.length_append, List.length_cons] at hlength ⊢
            omega
        · cases as with
          | nil =>
            have hnone : ∀ a ∈ ([] : List α), ∀ d ∈ cs, cond d = a → usable d = true := by simp
            have hrest := ih hrec hnone (Nat.zero_le n) hn'
            exact (hadditive.mono_insert s (cond c)).trans hrest
          | cons a as =>
            -- exchange one of them for the best one
            have hc : cond c ∉ s.insertMany as := by
              rw [BTreeSet.mem_insertMany, not_or]
              exact ⟨(best_eq_some hbest).2.2, fun h => hmem (List.mem_cons_of_mem a h)⟩
            rw [Std.ExtTreeSet.insertMany_cons, ← BTreeSet.insertMany_insert]
            refine (hadditive.insert_le hbest (husable a List.mem_cons_self) hc).trans ?_
            rw [BTreeSet.insertMany_insert]
            exact ih hrec (fun b hb => husable b (List.mem_cons_of_mem a hb))
              (Nat.le_of_succ_le_succ hlength) hn'

end Greedy

end Foundation
