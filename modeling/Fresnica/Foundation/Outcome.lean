import Mathlib.Data.List.Forall2
import Mathlib.Logic.Basic

/-!
# Fallible computations

Early return in a checked program is `Except` with `do` notation. A run that
returns `.ok` passed every check on its way, so a goal about one is taken apart
check by check with the inversion lemmas below.

## Main definitions

* `Foundation.ensure` — a check that fails with a given error
* `Foundation.okOr` — an optional value, or an error when it is absent
* `Foundation.mapErr` — the same computation with another error
* `Foundation.FailsIn` — a computation fails in known ways
* `Foundation.Decides` — a check accepts under exactly one condition, and refuses in known ways

## Main results

* `bind_eq_ok`, `bind_eq_error` — which step of a run decided its outcome
* `ensure_eq_ok`, `okOr_eq_ok`, `mapErr_eq_ok` — when a check passes
* `ensure_bind_eq_ok` — a check in front of a program is a conjunct
* `mapM_eq_ok`, `foldlM_read_eq_ok` — lists that are read, and folded
* `Decides.bind`, `Decides.ensure` — checks one after the other
-/

namespace Foundation

variable {ε ε' α β : Type}

/-- A check that fails with `e`. -/
def ensure (c : Prop) [Decidable c] (e : ε) : Except ε Unit :=
  if c then .ok ⟨⟩ else .error e

/-- The value of an option, or the error `e` when there is none. -/
def okOr (o : Option α) (e : ε) : Except ε α :=
  match o with
  | some a => .ok a
  | none => .error e

/-- Replace the error of a computation. -/
def mapErr (f : ε → ε') (x : Except ε α) : Except ε' α :=
  match x with
  | .ok a => .ok a
  | .error e => .error (f e)

theorem bind_eq_ok {x : Except ε α} {f : α → Except ε β} {b : β} :
    (x >>= f) = .ok b ↔ ∃ a, x = .ok a ∧ f a = .ok b := by
  cases x <;> simp [Bind.bind, Except.bind]

theorem bind_eq_error {x : Except ε α} {f : α → Except ε β} {e : ε} :
    (x >>= f) = .error e ↔ x = .error e ∨ ∃ a, x = .ok a ∧ f a = .error e := by
  cases x <;> simp [Bind.bind, Except.bind]

@[simp] theorem ok_bind (a : α) (f : α → Except ε β) :
    ((Except.ok a : Except ε α) >>= f) = f a := rfl

@[simp] theorem error_bind (e : ε) (f : α → Except ε β) :
    ((Except.error e : Except ε α) >>= f) = .error e := rfl

@[simp] theorem throw_eq_error (e : ε) : (throw e : Except ε α) = .error e := rfl

@[simp] theorem pure_eq_ok (a : α) : (pure a : Except ε α) = .ok a := rfl

theorem ensure_eq_ok {c : Prop} [Decidable c] {e : ε} {u : Unit} :
    ensure c e = .ok u ↔ c := by
  by_cases h : c <;> simp [ensure, h]

theorem ensure_bind_eq_ok {c : Prop} [Decidable c] {e : ε} {f : Unit → Except ε β} {b : β} :
    (ensure c e >>= f) = .ok b ↔ c ∧ f ⟨⟩ = .ok b := by
  by_cases h : c <;> simp [ensure, h]

theorem okOr_eq_ok {o : Option α} {e : ε} {a : α} : okOr o e = .ok a ↔ o = some a := by
  cases o <;> simp [okOr]

theorem mapErr_eq_ok {f : ε → ε'} {x : Except ε α} {a : α} :
    mapErr f x = .ok a ↔ x = .ok a := by
  cases x <;> simp [mapErr]

/-- A list of checks passes when each of them does. -/
theorem forM_eq_ok {f : α → Except ε Unit} {xs : List α} :
    forM xs f = .ok () ↔ ∀ x ∈ xs, f x = .ok () := by
  induction xs with
  | nil => simp
  | cons x xs ih =>
    rw [List.forM_cons, bind_eq_ok, ih, List.forall_mem_cons]
    exact ⟨fun ⟨_, hx, hxs⟩ => ⟨hx, hxs⟩, fun ⟨hx, hxs⟩ => ⟨(), hx, hxs⟩⟩

/-- A list is read when each of its items is. -/
theorem mapM_eq_ok {f : α → Except ε β} {xs : List α} {ys : List β} :
    xs.mapM f = .ok ys ↔ List.Forall₂ (fun x y => f x = .ok y) xs ys := by
  induction xs generalizing ys with
  | nil =>
    rw [List.mapM_nil, List.forall₂_nil_left_iff, pure_eq_ok, Except.ok.injEq, eq_comm]
  | cons x xs ih =>
    rw [List.mapM_cons, List.forall₂_cons_left_iff, bind_eq_ok]
    constructor
    · rintro ⟨y, hy, h⟩
      obtain ⟨rest, hrest, h⟩ := bind_eq_ok.mp h
      exact ⟨y, rest, hy, ih.mp hrest, (Except.ok.inj h).symm⟩
    · rintro ⟨y, rest, hy, hrest, rfl⟩
      exact ⟨y, hy, bind_eq_ok.mpr ⟨rest, ih.mpr hrest, rfl⟩⟩

theorem unit_bind_eq_ok {x : Except ε Unit} {f : Unit → Except ε β} {b : β} :
    (x >>= f) = .ok b ↔ x = .ok () ∧ f () = .ok b := by
  cases x <;> simp [Bind.bind, Except.bind]

/-- A loop of checks passes when each of them does, like a list of them. -/
theorem forIn_eq_ok {f : α → Except ε Unit} {xs : List α} :
    forIn xs PUnit.unit (fun x _ => do f x; pure (ForInStep.yield PUnit.unit)) = .ok () ↔
      ∀ x ∈ xs, f x = .ok () := by
  induction xs with
  | nil => simp
  | cons x xs ih =>
    rw [List.forIn_cons, bind_assoc, unit_bind_eq_ok, pure_bind, ih, List.forall_mem_cons]

/-- A loop none of whose steps fails is a fold. -/
theorem foldlM_eq_ok_foldl {σ : Type} {f : σ → α → Except ε σ} {g : σ → α → σ} {xs : List α}
    {s : σ} (h : ∀ s, ∀ x ∈ xs, f s x = .ok (g s x)) : xs.foldlM f s = .ok (xs.foldl g s) := by
  induction xs generalizing s with
  | nil => rfl
  | cons x xs ih =>
    rw [List.foldlM_cons, h s x List.mem_cons_self, ok_bind, List.foldl_cons,
      ih fun s y hy => h s y (List.mem_cons_of_mem x hy)]

/-- Lists that are related item by item have a partner for each item. -/
theorem exists_of_forall₂ {R : α → β → Prop} {xs : List α} {ys : List β} {x : α}
    (h : List.Forall₂ R xs ys) (hx : x ∈ xs) : ∃ y ∈ ys, R x y := by
  induction h with
  | nil => exact absurd hx List.not_mem_nil
  | @cons a b as bs hab _ ih =>
    rcases List.mem_cons.mp hx with rfl | hx
    · exact ⟨b, List.mem_cons_self, hab⟩
    · obtain ⟨y, hy, hxy⟩ := ih hx
      exact ⟨y, List.mem_cons_of_mem b hy, hxy⟩

/-- A function that agrees with the partners maps the items to them. -/
theorem map_eq_of_forall₂ {R : α → β → Prop} {f : α → β} {xs : List α} {ys : List β}
    (h : List.Forall₂ R xs ys) (hf : ∀ x ∈ xs, ∀ y, R x y → f x = y) : xs.map f = ys := by
  induction h with
  | nil => rfl
  | @cons x y xs ys hxy _ ih =>
    rw [List.map_cons, hf x List.mem_cons_self y hxy,
      ih fun x hx => hf x (List.mem_cons_of_mem _ hx)]

theorem forall₂_comp {γ : Type} {R : α → β → Prop} {S : β → γ → Prop} {xs : List α}
    {ys : List β} {zs : List γ} (h : List.Forall₂ R xs ys) (h' : List.Forall₂ S ys zs) :
    List.Forall₂ (fun x z => ∃ y, R x y ∧ S y z) xs zs := by
  induction h generalizing zs with
  | nil =>
    rw [List.forall₂_nil_left_iff] at h'
    rw [h']
    exact .nil
  | cons hxy _ ih =>
    obtain ⟨z, rest, hyz, hrest, rfl⟩ := List.forall₂_cons_left_iff.mp h'
    exact .cons ⟨_, hxy, hyz⟩ (ih hrest)

/-- A fold whose steps read an item and then put it in is a fold over the items read. -/
theorem foldlM_read_eq_ok {σ : Type} {f : α → Except ε β} {put : σ → β → σ} {xs : List α}
    {s t : σ} :
    xs.foldlM (fun s x => f x >>= fun y => .ok (put s y)) s = .ok t ↔
      ∃ ys, List.Forall₂ (fun x y => f x = .ok y) xs ys ∧ ys.foldl put s = t := by
  induction xs generalizing s with
  | nil =>
    rw [List.foldlM_nil, pure_eq_ok, Except.ok.injEq]
    constructor
    · intro h
      exact ⟨[], .nil, h⟩
    · intro h
      obtain ⟨ys, hys, h⟩ := h
      rw [List.forall₂_nil_left_iff] at hys
      subst hys
      exact h
  | cons x xs ih =>
    rw [List.foldlM_cons, bind_eq_ok]
    constructor
    · intro h
      obtain ⟨mid, hstep, hrest⟩ := h
      obtain ⟨y, hy, hmid⟩ := bind_eq_ok.mp hstep
      obtain rfl := Except.ok.inj hmid
      obtain ⟨ys, hys, ht⟩ := ih.mp hrest
      exact ⟨y :: ys, .cons hy hys, ht⟩
    · intro h
      obtain ⟨ys, hys, ht⟩ := h
      rw [List.forall₂_cons_left_iff] at hys
      obtain ⟨y, ys, hy, hys, rfl⟩ := hys
      exact ⟨put s y, bind_eq_ok.mpr ⟨y, hy, rfl⟩, ih.mpr ⟨ys, hys, ht⟩⟩

/-! ### The errors of a computation -/

/-- A computation fails with certain errors only. -/
def FailsIn (p : ε → Prop) (x : Except ε α) : Prop := ∀ e, x = .error e → p e

namespace FailsIn

variable {p q : ε → Prop} {x : Except ε α} {f : α → Except ε β}

theorem ok {a : α} : FailsIn p (.ok a) := by
  intro e h
  cases h

theorem error {e : ε} (he : p e) : FailsIn p (.error e : Except ε α) := by
  intro e' h
  rw [← Except.error.inj h]
  exact he

theorem mono (h : FailsIn p x) (hpq : ∀ e, p e → q e) : FailsIn q x :=
  fun e he => hpq e (h e he)

theorem bind (hx : FailsIn p x) (hf : ∀ a, x = .ok a → FailsIn p (f a)) :
    FailsIn p (x >>= f) := by
  intro e h
  rcases bind_eq_error.mp h with h | ⟨a, ha, h⟩
  · exact hx e h
  · exact hf a ha e h

theorem ensure {c : Prop} [Decidable c] {e : ε} (he : p e) :
    FailsIn p (Foundation.ensure c e) := by
  by_cases hc : c
  · rw [Foundation.ensure, if_pos hc]
    exact ok
  · rw [Foundation.ensure, if_neg hc]
    exact error he

theorem okOr {o : Option α} {e : ε} (he : p e) : FailsIn p (Foundation.okOr o e) := by
  cases o with
  | none => exact error he
  | some a => exact ok

theorem mapErr {g : ε' → ε} {y : Except ε' α} (hg : ∀ e, p (g e)) :
    FailsIn p (Foundation.mapErr g y) := by
  cases y with
  | error e => exact error (hg e)
  | ok a => exact ok

/-- A sequence fails at one of its elements. -/
theorem mapM {xs : List α} (h : ∀ x ∈ xs, FailsIn p (f x)) : FailsIn p (xs.mapM f) := by
  induction xs with
  | nil => exact ok
  | cons x xs ih =>
    rw [List.forall_mem_cons] at h
    rw [List.mapM_cons]
    exact bind h.1 fun _ _ => bind (ih h.2) fun _ _ => ok

/-- A loop fails in one of its steps. -/
theorem foldlM {σ : Type} {f : σ → α → Except ε σ} {xs : List α} {s : σ}
    (h : ∀ s, ∀ x ∈ xs, FailsIn p (f s x)) : FailsIn p (xs.foldlM f s) := by
  induction xs generalizing s with
  | nil => exact ok
  | cons x xs ih =>
    rw [List.foldlM_cons]
    apply bind (h s x List.mem_cons_self)
    intro t _
    apply ih
    exact fun s y hy => h s y (List.mem_cons_of_mem x hy)

end FailsIn

/-! ### Checks and their refusals -/

/-- A check accepts exactly under a condition, and refuses with certain errors only. -/
structure Decides (x : Except ε Unit) (accepted : Prop) (refusal : ε → Prop) : Prop where
  eq_ok_iff : x = .ok () ↔ accepted
  refuses : ∀ e, x = .error e → refusal e

namespace Decides

variable {x y : Except ε Unit} {p q : Prop} {refusal : ε → Prop}

theorem ok (hp : p) : Decides (.ok () : Except ε Unit) p refusal :=
  ⟨iff_of_true rfl hp, fun _ h => absurd h (by simp)⟩

theorem error {e : ε} (hp : ¬ p) (he : refusal e) : Decides (.error e) p refusal := by
  refine ⟨iff_of_false (by simp) hp, fun e' h => ?_⟩
  rw [← Except.error.inj h]
  exact he

theorem ensure {c : Prop} [Decidable c] {e : ε} (he : refusal e) :
    Decides (Foundation.ensure c e) c refusal := by
  by_cases hc : c
  · rw [Foundation.ensure, if_pos hc]
    exact ok hc
  · rw [Foundation.ensure, if_neg hc]
    exact error hc he

/-- Two checks, one after the other. -/
theorem bind (hx : Decides x p refusal) (hy : p → Decides y q refusal) :
    Decides (x >>= fun _ => y) (p ∧ q) refusal := by
  cases hrun : x with
  | error e =>
    exact error (fun h => absurd (hx.eq_ok_iff.mpr h.1) (by rw [hrun]; simp))
      (hx.refuses e hrun)
  | ok _ =>
    have hp : p := hx.eq_ok_iff.mp hrun
    exact ⟨(hy hp).eq_ok_iff.trans (and_iff_right hp).symm, (hy hp).refuses⟩

theorem congr (hx : Decides x p refusal) (h : p ↔ q) : Decides x q refusal :=
  ⟨hx.eq_ok_iff.trans h, hx.refuses⟩

end Decides

/-- A computation either returns a value or an error. -/
theorem ne_ok_iff_exists_error {x : Except ε α} :
    (∀ a, x ≠ .ok a) ↔ ∃ e, x = .error e := by
  cases x <;> simp

end Foundation
