import Mathlib.Data.Nat.Notation
import Fresnica.Foundation.Outcome

/-!
# Queries to a changing world

A program asks a world that others change between any two of its queries. Nothing is known
of the changes, so that the world is any sequence of views, and each query is answered by
the view after the one of the query before it.

A program can compare what it read at two moments. That the two are equal says something
about the moments between them only as far as what was replaced does not come back.

## Main definitions

* `Query` — programs with queries, which go through the views in order
* `Query.ask`, `Query.attempt` — one query, and a step without one
* `NeverReturns` — what is replaced does not come back while a program runs

## Main results

* `Query.run_bind_eq_ok`, `Query.run_ask_eq_ok` — which view answered a query
* `NeverReturns.eq_between` — what a program finds unchanged was the same in between
-/

namespace Foundation

variable {ω ε α β κ : Type}

/-- A program with queries: from a view on, its result and the first view it has not asked. -/
structure Query (ω ε α : Type) where
  run : (ℕ → ω) → ℕ → Except ε (α × ℕ)
  forward : ∀ {views now a later}, run views now = .ok (a, later) → now ≤ later

namespace Query

instance : Monad (Query ω ε) where
  pure a := {
    run := fun _ now => .ok (a, now)
    forward := by
      intro views now a' later h
      cases h
      exact Nat.le_refl now }
  bind x f := {
    run := fun views now => do
      let (a, mid) ← x.run views now
      (f a).run views mid
    forward := by
      intro views now b later h
      obtain ⟨⟨a, mid⟩, ha, hb⟩ := bind_eq_ok.mp h
      exact Nat.le_trans (x.forward ha) ((f a).forward hb) }

/-- One query, which the next view answers. -/
def ask (f : ω → Except ε α) : Query ω ε α where
  run views now := do
    let a ← f (views now)
    return (a, now + 1)
  forward := by
    intro views now a later h
    obtain ⟨_, -, h⟩ := bind_eq_ok.mp h
    cases h
    exact Nat.le_succ now

/-- A step without a query. -/
def attempt (x : Except ε α) : Query ω ε α where
  run _ now := do
    let a ← x
    return (a, now)
  forward := by
    intro views now a later h
    obtain ⟨_, -, h⟩ := bind_eq_ok.mp h
    cases h
    exact Nat.le_refl now

variable {x : Query ω ε α} {f : α → Query ω ε β} {views : ℕ → ω} {now later : ℕ} {a : α} {b : β}

theorem run_bind_eq_ok : (x >>= f).run views now = .ok (b, later) ↔
    ∃ a mid, x.run views now = .ok (a, mid) ∧ (f a).run views mid = .ok (b, later) := by
  change (x.run views now >>= fun found => (f found.1).run views found.2) = _ ↔ _
  rw [bind_eq_ok]
  constructor
  · rintro ⟨⟨a, mid⟩, ha, hb⟩
    exact ⟨a, mid, ha, hb⟩
  · rintro ⟨a, mid, ha, hb⟩
    exact ⟨(a, mid), ha, hb⟩

theorem run_pure_eq_ok {a' : α} :
    (pure a : Query ω ε α).run views now = .ok (a', later) ↔ a' = a ∧ later = now := by
  change (Except.ok (a, now) : Except ε (α × ℕ)) = _ ↔ _
  simp [eq_comm]

theorem run_ask_eq_ok {q : ω → Except ε α} :
    (ask q).run views now = .ok (a, later) ↔ q (views now) = .ok a ∧ later = now + 1 := by
  rw [ask, bind_eq_ok]
  constructor
  · rintro ⟨found, hfound, h⟩
    cases h
    exact ⟨hfound, rfl⟩
  · rintro ⟨hfound, rfl⟩
    exact ⟨a, hfound, rfl⟩

theorem run_attempt_eq_ok {y : Except ε α} :
    (attempt y : Query ω ε α).run views now = .ok (a, later) ↔ y = .ok a ∧ later = now := by
  rw [attempt, bind_eq_ok]
  constructor
  · rintro ⟨found, hfound, h⟩
    cases h
    exact ⟨hfound, rfl⟩
  · rintro ⟨hfound, rfl⟩
    exact ⟨a, hfound, rfl⟩

/-- A step without a query stands before the rest of a program. -/
theorem run_attempt_bind_eq_ok {y : Except ε α} :
    (attempt y >>= f).run views now = .ok (b, later) ↔
      ∃ a, y = .ok a ∧ (f a).run views now = .ok (b, later) := by
  rw [run_bind_eq_ok]
  constructor
  · rintro ⟨a, mid, ha, hb⟩
    obtain ⟨hy, rfl⟩ := run_attempt_eq_ok.mp ha
    exact ⟨a, hy, hb⟩
  · rintro ⟨a, hy, hb⟩
    exact ⟨a, now, run_attempt_eq_ok.mpr ⟨hy, rfl⟩, hb⟩

/-- A query is answered by the present view, and the rest of a program by later ones. -/
theorem run_ask_bind_eq_ok {q : ω → Except ε α} :
    (ask q >>= f).run views now = .ok (b, later) ↔
      ∃ a, q (views now) = .ok a ∧ (f a).run views (now + 1) = .ok (b, later) := by
  rw [run_bind_eq_ok]
  constructor
  · rintro ⟨a, mid, ha, hb⟩
    obtain ⟨hq, rfl⟩ := run_ask_eq_ok.mp ha
    exact ⟨a, hq, hb⟩
  · rintro ⟨a, hq, hb⟩
    exact ⟨a, now + 1, run_ask_eq_ok.mpr ⟨hq, rfl⟩, hb⟩

end Query

/-! ### What does not come back -/

/-- Between two views, nothing that the cell held and lost comes back to it. -/
def NeverReturns (cell : ω → κ) (views : ℕ → ω) (first last : ℕ) : Prop :=
  ∀ a b d, first ≤ a → a ≤ b → b ≤ d → d < last → cell (views a) = cell (views d) →
    cell (views b) = cell (views a)

namespace NeverReturns

variable {cell : ω → κ} {views : ℕ → ω} {first last a b d : ℕ}

/-- What is found again was there in between. -/
theorem eq_between (h : NeverReturns cell views first last) (ha : first ≤ a) (hab : a ≤ b)
    (hbd : b ≤ d) (hd : d < last) (hsame : cell (views a) = cell (views d)) :
    cell (views b) = cell (views a) :=
  h a b d ha hab hbd hd hsame

/-- It is enough to know it for a longer time. -/
theorem mono {first' last' : ℕ} (h : NeverReturns cell views first last) (hfirst : first ≤ first')
    (hlast : last' ≤ last) : NeverReturns cell views first' last' := by
  intro a b d ha hab hbd hd hsame
  exact h a b d (Nat.le_trans hfirst ha) hab hbd (Nat.lt_of_lt_of_le hd hlast) hsame

/-- A cell that is never written keeps what it holds. -/
theorem of_constant (h : ∀ n, cell (views n) = cell (views 0)) :
    NeverReturns cell views first last := by
  intro a b d _ _ _ _ _
  rw [h b, h a]

end NeverReturns

end Foundation
