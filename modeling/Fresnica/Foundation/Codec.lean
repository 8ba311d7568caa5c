import Mathlib.Data.List.Induction
import Mathlib.Tactic.Linarith

/-!
# Codecs

A parser is canonical for a printer when it accepts exactly the printed texts: it
reads back what was printed, and nothing else has a reading. Any reader that
undoes the printer becomes canonical by printing its answer again and comparing.

Text codecs regroup a byte string into symbols of another size. That is reading
it as one number and writing the number with other digits: numerals of a fixed
number of digits are in bijection with the numbers below a power of the base.

## Main definitions

* `canonical` — a reader made canonical for a printer
* `Positional.value` — the number a digit list stands for
* `Positional.digits` — the last `k` digits of a number

## Main results

* `canonical_eq_some_iff` — what a canonical reader accepts
* `Positional.value_digits`, `Positional.digits_value` — the two are inverse to
  each other
-/

namespace Foundation

/-- Read `b`, and keep the answer only if it prints as `b`. -/
def canonical {α β : Type*} [DecidableEq β] (print : α → β) (read : β → Option α) (b : β) :
    Option α :=
  (read b).filter fun a => print a = b

theorem canonical_eq_some_iff {α β : Type*} [DecidableEq β] {print : α → β}
    {read : β → Option α} {a : α} {b : β} (h : ∀ a, read (print a) = some a) :
    canonical print read b = some a ↔ print a = b := by
  rw [canonical, Option.filter_eq_some_iff, decide_eq_true_iff, and_iff_right_iff_imp]
  rintro rfl
  exact h a

end Foundation

namespace Foundation.Positional

variable {b k n d : ℕ} {ds : List ℕ}

/-- The number with the given digits in base `b`, the most significant first. -/
def value (b : ℕ) (ds : List ℕ) : ℕ := ds.foldl (fun acc d => acc * b + d) 0

/-- The `k` least significant digits of `n` in base `b`. -/
def digits (b : ℕ) : ℕ → ℕ → List ℕ
  | 0, _ => []
  | k + 1, n => digits b k (n / b) ++ [n % b]

@[simp] theorem value_nil : value b [] = 0 := rfl

@[simp] theorem value_append_singleton : value b (ds ++ [d]) = value b ds * b + d := by
  simp [value]

@[simp] theorem length_digits : (digits b k n).length = k := by
  induction k generalizing n with
  | zero => rfl
  | succ k ih => simp [digits, ih]

theorem digits_lt (hb : 0 < b) : ∀ d ∈ digits b k n, d < b := by
  induction k generalizing n with
  | zero => simp [digits]
  | succ k ih =>
    intro d hd
    rcases List.mem_append.mp hd with hd | hd
    · exact ih d hd
    · obtain rfl := List.mem_singleton.mp hd
      exact Nat.mod_lt n hb

theorem value_digits : value b (digits b k n) = n % b ^ k := by
  induction k generalizing n with
  | zero => simp [digits, Nat.mod_one]
  | succ k ih =>
    rw [digits, value_append_singleton, ih, pow_succ', Nat.mod_mul, mul_comm b, add_comm]

theorem value_lt (h : ∀ d ∈ ds, d < b) : value b ds < b ^ ds.length := by
  induction ds using List.reverseRecOn with
  | nil => simp
  | append_singleton ds d ih =>
    have hd : d < b := h d (by simp)
    have hlt := ih fun d' hd' => h d' (List.mem_append_left _ hd')
    have hstep : (value b ds + 1) * b ≤ b ^ ds.length * b := Nat.mul_le_mul_right b hlt
    rw [value_append_singleton, List.length_append, List.length_singleton, pow_succ]
    linarith

theorem digits_value (h : ∀ d ∈ ds, d < b) : digits b ds.length (value b ds) = ds := by
  induction ds using List.reverseRecOn with
  | nil => rfl
  | append_singleton ds d ih =>
    have hd : d < b := h d (by simp)
    have hdiv : (value b ds * b + d) / b = value b ds := by
      rw [mul_comm, Nat.mul_add_div (by omega), Nat.div_eq_of_lt hd, add_zero]
    have hmod : (value b ds * b + d) % b = d := by
      rw [mul_comm, Nat.mul_add_mod, Nat.mod_eq_of_lt hd]
    rw [value_append_singleton, List.length_append, List.length_singleton, digits, hdiv, hmod,
      ih fun d' hd' => h d' (List.mem_append_left _ hd')]

end Foundation.Positional
