import Mathlib.Data.Nat.Notation
import Fresnica.Foundation.Outcome

/-!
# Updates in place

A procedure that receives a value by mutable reference returns a result and leaves
the value behind, also when it fails. A loop of fallible updates that returns at
the first failure leaves behind what the steps before the failure made of the
value.

A procedure that makes its only assignment last is atomic: when it fails, the value is
as it was. `Mut.Atomic.bind` carries this through a sequence of statements.

## Main definitions

* `forEach` — update a value step by step, until a step fails
* `finished` — what is left behind, if nothing failed
* `Mut` — procedures with a mutable reference, statement by statement
* `Mut.ReadOnly`, `Mut.Atomic`, `Mut.Total` — what a procedure leaves behind, if it fails at all

## Main results

* `forEach_error_iff` — where a failing loop failed, and what it leaves behind
* `forEach_ok_preserves` — what the steps of a succeeding loop add up to
* `Mut.bind_eq_ok`, `Mut.Atomic.bind` — a sequence of statements
-/

namespace Foundation

variable {α ε σ : Type} {step : α → σ → Except ε σ} {xs ys : List α} {s t : σ} {e : ε}

/-- `for x in xs { *s = step(x, s)?; }` -/
def forEach (step : α → σ → Except ε σ) : List α → σ → Except ε Unit × σ
  | [], s => (.ok (), s)
  | x :: xs, s =>
    match step x s with
    | .ok t => forEach step xs t
    | .error e => (.error e, s)

@[simp] theorem forEach_nil : forEach step [] s = (.ok (), s) := rfl

theorem forEach_cons_ok {x : α} (h : step x s = .ok t) :
    forEach step (x :: xs) s = forEach step xs t := by
  rw [forEach, h]

theorem forEach_cons_error {x : α} (h : step x s = .error e) :
    forEach step (x :: xs) s = (.error e, s) := by
  rw [forEach, h]

theorem forEach_append (h : forEach step xs s = (.ok (), t)) :
    forEach step (xs ++ ys) s = forEach step ys t := by
  induction xs generalizing s with
  | nil =>
    obtain rfl : s = t := by simpa using h
    rfl
  | cons x xs ih =>
    cases hx : step x s with
    | ok u =>
      rw [forEach_cons_ok hx] at h
      rw [List.cons_append, forEach_cons_ok hx, ih h]
    | error e => simp [forEach_cons_error hx] at h

/-- A failing loop stopped at one element, after the ones before it succeeded. -/
theorem forEach_error_iff :
    forEach step xs s = (.error e, t) ↔
      ∃ before x after, xs = before ++ x :: after ∧
        forEach step before s = (.ok (), t) ∧ step x t = .error e := by
  constructor
  · intro h
    induction xs generalizing s with
    | nil => simp at h
    | cons x xs ih =>
      cases hx : step x s with
      | ok u =>
        rw [forEach_cons_ok hx] at h
        obtain ⟨before, y, after, rfl, hbefore, hy⟩ := ih h
        exact ⟨x :: before, y, after, rfl, by rwa [forEach_cons_ok hx], hy⟩
      | error e' =>
        rw [forEach_cons_error hx] at h
        obtain ⟨rfl, rfl⟩ : e' = e ∧ s = t := by simpa using h
        exact ⟨[], x, xs, rfl, rfl, hx⟩
  · rintro ⟨before, x, after, rfl, hbefore, hx⟩
    rw [forEach_append hbefore, forEach_cons_error hx]

/-- What relates every value to the next one relates the ends of a loop. -/
theorem forEach_ok_preserves {R : List α → σ → σ → Prop} (hrefl : ∀ s, R [] s s)
    (hstep : ∀ {x xs s t u}, step x s = .ok t → R xs t u → R (x :: xs) s u)
    (h : forEach step xs s = (.ok (), t)) : R xs s t := by
  induction xs generalizing s with
  | nil =>
    obtain rfl : s = t := by simpa using h
    exact hrefl s
  | cons x xs ih =>
    cases hx : step x s with
    | ok u => exact hstep hx (ih (by rwa [forEach_cons_ok hx] at h))
    | error e => simp [forEach_cons_error hx] at h

/-- What a procedure leaves behind when it succeeds. -/
def finished (outcome : Except ε Unit × σ) : Except ε σ := outcome.1.map fun _ => outcome.2

theorem finished_eq_ok {outcome : Except ε Unit × σ} :
    finished outcome = .ok t ↔ outcome = (.ok (), t) := by
  obtain ⟨result, u⟩ := outcome
  cases result with
  | error e => simp [finished, Except.map]
  | ok => simp [finished, Except.map]

/-! ### Statements -/

/-- A procedure with a mutable reference: its result, and what it leaves behind. -/
def Mut (σ ε α : Type) : Type := σ → Except ε α × σ

namespace Mut

variable {β : Type} {x : Mut σ ε α} {f : α → Mut σ ε β} {a : α} {b : β} {u : σ}

instance : Monad (Mut σ ε) where
  pure a s := (.ok a, s)
  bind x f s :=
    match x s with
    | (.ok a, t) => f a t
    | (.error e, t) => (.error e, t)

/-- `*s` -/
def current : Mut σ ε σ := fun s => (.ok s, s)

/-- `*s = t;` -/
def assign (t : σ) : Mut σ ε Unit := fun _ => (.ok (), t)

/-- `x?` -/
def attempt (x : Except ε α) : Mut σ ε α := fun s => (x, s)

/-- The same procedure with another error. -/
def mapError {ε' : Type} (g : ε → ε') (x : Mut σ ε α) : Mut σ ε' α :=
  fun s => (mapErr g (x s).1, (x s).2)

theorem bind_of_ok (h : x s = (.ok a, t)) : (x >>= f) s = f a t := by
  simp only [Bind.bind, h]

theorem bind_of_error (h : x s = (.error e, t)) : (x >>= f) s = (.error e, t) := by
  simp only [Bind.bind, h]

@[simp] theorem attempt_ok_bind : (attempt (.ok a) >>= f) s = f a s := rfl

@[simp] theorem attempt_error_bind : (attempt (.error e) >>= f) s = (.error e, s) := rfl

@[simp] theorem current_bind {g : σ → Mut σ ε β} : (current >>= g) s = g s s := rfl

theorem bind_eq_ok : (x >>= f) s = (.ok b, u) ↔ ∃ a t, x s = (.ok a, t) ∧ f a t = (.ok b, u) := by
  rcases hrun : x s with ⟨_ | a, t⟩
  · simp [bind_of_error hrun]
  · rw [bind_of_ok hrun]
    constructor
    · intro h
      exact ⟨a, t, rfl, h⟩
    · rintro ⟨_, _, h, hf⟩
      cases h
      exact hf

theorem pure_eq_ok {a' : α} : (pure a : Mut σ ε α) s = (.ok a', t) ↔ a' = a ∧ t = s := by
  change ((.ok a, s) : Except ε α × σ) = _ ↔ _
  simp [eq_comm]

theorem current_eq_ok : (current : Mut σ ε σ) s = (.ok t, u) ↔ t = s ∧ u = s := by
  simp [current, eq_comm]

theorem assign_eq_ok {r : Unit} : (assign t : Mut σ ε Unit) s = (.ok r, u) ↔ u = t := by
  simp [assign, eq_comm]

theorem attempt_eq_ok {y : Except ε α} : attempt y s = (.ok a, t) ↔ y = .ok a ∧ t = s := by
  simp [attempt, eq_comm]

theorem attempt_bind_eq_ok {y : Except ε α} :
    (attempt y >>= f) s = (.ok b, u) ↔ ∃ a, y = .ok a ∧ f a s = (.ok b, u) := by
  cases y with
  | error e => simp
  | ok a => simp

theorem mapError_eq_ok {ε' : Type} {g : ε → ε'} :
    mapError g x s = (.ok a, t) ↔ x s = (.ok a, t) := by
  rw [mapError, Prod.mk.injEq, mapErr_eq_ok, ← Prod.mk.injEq]

/-- Nothing is assigned. -/
def ReadOnly (x : Mut σ ε α) : Prop := ∀ s, (x s).2 = s

/-- A failure leaves the value as it was. -/
def Atomic (x : Mut σ ε α) : Prop := ∀ s e t, x s = (.error e, t) → t = s

theorem ReadOnly.current : ReadOnly (current : Mut σ ε σ) := fun _ => rfl

theorem ReadOnly.attempt {y : Except ε α} : ReadOnly (attempt y : Mut σ ε α) := fun _ => rfl

theorem Atomic.assign : Atomic (assign t : Mut σ ε Unit) := by
  intro s e u h
  cases h

/-- Statements that assign nothing can stand before an atomic one. -/
theorem Atomic.bind (hx : ReadOnly x) (hf : ∀ a, Atomic (f a)) : Atomic (x >>= f) := by
  intro s e u h
  have hs := hx s
  rcases hrun : x s with ⟨e' | a, t⟩
  · rw [bind_of_error hrun] at h
    rw [hrun] at hs
    rw [← hs]
    exact (congrArg Prod.snd h).symm
  · rw [bind_of_ok hrun] at h
    rw [hrun] at hs
    subst hs
    exact hf a _ e u h

theorem Atomic.mapError {ε' : Type} {g : ε → ε'} (hx : Atomic x) : Atomic (mapError g x) := by
  intro s e t h
  obtain ⟨hresult, rfl⟩ := Prod.mk.inj h
  rcases hrun : x s with ⟨e' | a, t⟩
  · exact hx s e' t hrun
  · rw [hrun] at hresult
    cases hresult

/-- A procedure that does not fail. -/
def Total (x : Mut σ ε α) : Prop := ∀ s e t, x s ≠ (.error e, t)

theorem Total.assign : Total (assign t : Mut σ ε Unit) := by
  intro s e u h
  cases h

theorem Total.pure : Total (Pure.pure a : Mut σ ε α) := by
  intro s e u h
  cases h

theorem Total.current : Total (current : Mut σ ε σ) := by
  intro s e u h
  cases h

theorem Total.bind (hx : Total x) (hf : ∀ a, Total (f a)) : Total (x >>= f) := by
  intro s e u h
  rcases hrun : x s with ⟨e' | a, t⟩
  · exact hx s e' t hrun
  · rw [bind_of_ok hrun] at h
    exact hf a t e u h

theorem ReadOnly.atomic (hx : ReadOnly x) : Atomic x := by
  intro s e t h
  have hs := hx s
  rw [h] at hs
  exact hs

/-- Nothing can fail after the assignments of an atomic procedure. -/
theorem Atomic.bind_total (hx : Atomic x) (hf : ∀ a, Total (f a)) : Atomic (x >>= f) := by
  intro s e u h
  rcases hrun : x s with ⟨e' | a, t⟩
  · rw [bind_of_error hrun] at h
    rw [← (Prod.mk.inj h).2]
    exact hx s e' t hrun
  · rw [bind_of_ok hrun] at h
    exact absurd h (hf a t e u)

theorem Total.atomic (hx : Total x) : Atomic x := by
  intro s e t h
  exact absurd h (hx s e t)

/-- What an atomic procedure returns can be changed. -/
theorem Atomic.bind_pure (hx : Atomic x) {g : α → β} :
    Atomic (x >>= fun a => Pure.pure (g a)) := by
  intro s e u h
  rcases hrun : x s with ⟨e' | a, t⟩
  · rw [bind_of_error hrun] at h
    rw [← (Prod.mk.inj h).2]
    exact hx s e' t hrun
  · rw [bind_of_ok hrun] at h
    cases h

end Mut

end Foundation
