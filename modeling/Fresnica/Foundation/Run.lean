import Mathlib.Data.List.Induction

/-!
# Runs of a labelled transition system

A run is a finite sequence of steps together with the list of its labels, in
order. An invariant is proved for one step and then holds along every run; an
invariant may also speak about the labels so far, which are the history of the
run.

## Main definitions

* `Run step s events t` — a run from `s` to `t` with the given labels

## Main results

* `Run.history` — a property of history and state, from its step case
* `Run.invariant` — a property of the state alone
* `Run.trans`, `Run.split` — runs compose, and can be cut at a step
-/

namespace Foundation

variable {σ α : Type*} {step : σ → α → σ → Prop} {s t u : σ} {a : α} {as bs : List α}

/-- Finite runs, extended by a step at the end. -/
inductive Run (step : σ → α → σ → Prop) (s : σ) : List α → σ → Prop
  | nil : Run step s [] s
  | snoc {as : List α} {t u : σ} {a : α} :
      Run step s as t → step t a u → Run step s (as ++ [a]) u

namespace Run

theorem single (h : step s a t) : Run step s [a] t := snoc nil h

theorem trans (h : Run step s as t) (h' : Run step t bs u) : Run step s (as ++ bs) u := by
  induction h' with
  | nil => simpa using h
  | snoc _ hstep ih =>
    rw [← List.append_assoc]
    exact snoc ih hstep

theorem cons (h : step s a t) (h' : Run step t as u) : Run step s (a :: as) u :=
  trans (single h) h'

theorem snoc_iff : Run step s (as ++ [a]) u ↔ ∃ t, Run step s as t ∧ step t a u := by
  constructor
  · intro h
    generalize hbs : as ++ [a] = bs at h
    cases h with
    | nil => simp at hbs
    | snoc hrun hstep =>
      obtain ⟨rfl, hlast⟩ := List.append_inj' hbs rfl
      obtain rfl : a = _ := by simpa using hlast
      exact ⟨_, hrun, hstep⟩
  · rintro ⟨t, hrun, hstep⟩
    exact snoc hrun hstep

/-- A run can be cut at any of its steps. -/
theorem split (h : Run step s (as ++ a :: bs) u) :
    ∃ t t', Run step s as t ∧ step t a t' ∧ Run step t' bs u := by
  induction bs using List.reverseRecOn generalizing u with
  | nil =>
    obtain ⟨t, hrun, hstep⟩ := snoc_iff.mp h
    exact ⟨t, u, hrun, hstep, nil⟩
  | append_singleton bs b ih =>
    rw [← List.cons_append, ← List.append_assoc] at h
    obtain ⟨v, hrun, hlast⟩ := snoc_iff.mp h
    obtain ⟨t, t', hfirst, hstep, hrest⟩ := ih hrun
    exact ⟨t, t', hfirst, hstep, snoc hrest hlast⟩

/-- What holds at the start and survives every step holds at the end. The step may
use the history before it. -/
theorem history {P : List α → σ → Prop} (h : Run step s as t) (hinit : P [] s)
    (hstep : ∀ as t a u, Run step s as t → P as t → step t a u → P (as ++ [a]) u) : P as t := by
  induction h with
  | nil => exact hinit
  | snoc hrun hlast ih => exact hstep _ _ _ _ hrun ih hlast

/-- What every step with an allowed label preserves, every run of them preserves. -/
theorem invariant {I : σ → Prop} {allowed : α → Prop} (h : Run step s as t)
    (hallowed : ∀ a ∈ as, allowed a) (hinit : I s)
    (hstep : ∀ t a u, I t → allowed a → step t a u → I u) : I t := by
  induction h with
  | nil => exact hinit
  | snoc hrun hlast ih =>
    exact hstep _ _ _ (ih fun b hb => hallowed b (List.mem_append_left _ hb))
      (hallowed _ (List.mem_append_right _ (List.mem_singleton_self _))) hlast

end Run

end Foundation
