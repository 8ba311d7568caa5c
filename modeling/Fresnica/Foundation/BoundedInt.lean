import Mathlib.Order.Lattice
import Mathlib.Data.Int.Order.Basic
import Mathlib.Tactic.Ring

/-!
# Integers confined to an interval

A machine integer of any width and signedness is an integer that carries the
proof of its own range, so a value out of range cannot be built. Checked
operations return `none` when the exact result leaves the range, saturating ones
clamp it. Everything is specified through the exact integers, and a goal about
bounded integers is moved to `ℤ` by the lemmas here, then closed by `omega`.

## Main definitions

* `BoundedInt lo hi` — an integer `x` with `lo ≤ x ≤ hi`
* `BoundedInt.ofInt?` — the bounded integer of an exact one, if it is in range
* `checkedAdd`, `checkedSub`, `checkedMul`, `saturatingAdd`, `saturatingSub`
* `I32`, `I64`, `I128`, `U8`, `U32`, `U64` — the fixed-width types

## Main results

* `ofInt?_eq_some_iff`, `checkedAdd_eq_some_iff`, `checkedMul_eq_some_iff` — a
  checked operation returns exactly the exact result
* `val_saturatingAdd`, `val_saturatingSub` — a saturating one clamps it
-/

namespace Foundation

/-- An integer between `lo` and `hi`, both included. -/
structure BoundedInt (lo hi : ℤ) where
  val : ℤ
  lo_le : lo ≤ val
  le_hi : val ≤ hi
  deriving DecidableEq, Repr

namespace BoundedInt

variable {lo hi lo' hi' : ℤ} {a b c : BoundedInt lo hi}

@[ext] theorem ext (h : a.val = b.val) : a = b := by
  cases a
  cases b
  simpa using h

theorem val_inj : a.val = b.val ↔ a = b := ⟨ext, congrArg val⟩

instance : LE (BoundedInt lo hi) := ⟨fun a b => a.val ≤ b.val⟩

instance : LT (BoundedInt lo hi) := ⟨fun a b => a.val < b.val⟩

instance : DecidableLE (BoundedInt lo hi) := fun a b => inferInstanceAs (Decidable (a.val ≤ b.val))

instance : DecidableLT (BoundedInt lo hi) := fun a b => inferInstanceAs (Decidable (a.val < b.val))

theorem le_iff : a ≤ b ↔ a.val ≤ b.val := Iff.rfl

theorem lt_iff : a < b ↔ a.val < b.val := Iff.rfl

/-- The bounded integer with value `x`, if `x` is in range. -/
def ofInt? (x : ℤ) : Option (BoundedInt lo hi) :=
  if h : lo ≤ x ∧ x ≤ hi then some ⟨x, h.1, h.2⟩ else none

theorem ofInt?_eq_some_iff {x : ℤ} : ofInt? x = some a ↔ a.val = x := by
  unfold ofInt?
  split_ifs with h
  · rw [Option.some_inj, ← val_inj, eq_comm]
  · refine ⟨fun h' => absurd h' (by simp), fun h' => absurd ⟨?_, ?_⟩ h⟩
    · exact h' ▸ a.lo_le
    · exact h' ▸ a.le_hi

theorem ofInt?_eq_none_iff {x : ℤ} :
    (ofInt? x : Option (BoundedInt lo hi)) = none ↔ x < lo ∨ hi < x := by
  unfold ofInt?
  split_ifs with h
  · simp only [false_iff]
    omega
  · simp only [true_iff]
    omega

theorem exists_ofInt? {x : ℤ} (h : lo ≤ x ∧ x ≤ hi) :
    ∃ a : BoundedInt lo hi, ofInt? x = some a ∧ a.val = x :=
  ⟨⟨x, h.1, h.2⟩, ofInt?_eq_some_iff.mpr rfl, rfl⟩

/-- The bounds leave room for a value. -/
class Bounds (lo hi : ℤ) : Prop where
  le : lo ≤ hi

/-- A literal of the range; one outside of it is moved to the nearest bound. -/
def lit [Bounds lo hi] (x : ℤ) : BoundedInt lo hi where
  val := max lo (min x hi)
  lo_le := le_max_left _ _
  le_hi := max_le Bounds.le (min_le_right _ _)

@[simp] theorem val_lit [Bounds lo hi] {x : ℤ} (hlo : lo ≤ x) (hhi : x ≤ hi) :
    (lit x : BoundedInt lo hi).val = x := by
  change max lo (min x hi) = x
  rw [min_eq_left hhi, max_eq_right hlo]

/-- The nearest value in range. The range is not empty, as `a` is in it. -/
def clamp (a : BoundedInt lo hi) (x : ℤ) : BoundedInt lo hi where
  val := max lo (min x hi)
  lo_le := le_max_left _ _
  le_hi := max_le (a.lo_le.trans a.le_hi) (min_le_right _ _)

/-- Exact addition, `none` on overflow. -/
def checkedAdd (a b : BoundedInt lo hi) : Option (BoundedInt lo hi) := ofInt? (a.val + b.val)

/-- Exact subtraction, `none` on overflow. -/
def checkedSub (a b : BoundedInt lo hi) : Option (BoundedInt lo hi) := ofInt? (a.val - b.val)

/-- Exact multiplication, `none` on overflow. -/
def checkedMul (a b : BoundedInt lo hi) : Option (BoundedInt lo hi) := ofInt? (a.val * b.val)

/-- Addition clamped to the range. -/
def saturatingAdd (a b : BoundedInt lo hi) : BoundedInt lo hi := clamp a (a.val + b.val)

/-- Subtraction clamped to the range. -/
def saturatingSub (a b : BoundedInt lo hi) : BoundedInt lo hi := clamp a (a.val - b.val)

/-- The larger of two values. -/
def max (a b : BoundedInt lo hi) : BoundedInt lo hi := if a.val ≤ b.val then b else a

/-- The same value in another width, if it fits there. -/
def tryFrom (a : BoundedInt lo hi) : Option (BoundedInt lo' hi') := ofInt? a.val

@[simp] theorem val_clamp {x : ℤ} : (clamp a x).val = Max.max lo (Min.min x hi) := rfl

theorem checkedAdd_eq_some_iff : a.checkedAdd b = some c ↔ c.val = a.val + b.val :=
  ofInt?_eq_some_iff

theorem checkedAdd_eq_none_iff :
    a.checkedAdd b = none ↔ a.val + b.val < lo ∨ hi < a.val + b.val :=
  ofInt?_eq_none_iff

theorem checkedMul_eq_some_iff : a.checkedMul b = some c ↔ c.val = a.val * b.val :=
  ofInt?_eq_some_iff

/-- Two checked additions in a row are exact, if the second does not go back. -/
theorem checkedAdd_bind_eq_some_iff {d : BoundedInt lo hi} (hlo : lo ≤ a.val + b.val)
    (hc : 0 ≤ c.val) :
    (a.checkedAdd b >>= (·.checkedAdd c)) = some d ↔ d.val = a.val + b.val + c.val := by
  rw [Option.bind_eq_bind, Option.bind_eq_some_iff]
  constructor
  · rintro ⟨sum, hsum, hd⟩
    rw [checkedAdd_eq_some_iff.mp hd, checkedAdd_eq_some_iff.mp hsum]
  · intro hd
    have hle := d.le_hi
    obtain ⟨sum, hsum, hval⟩ : ∃ sum : BoundedInt lo hi, ofInt? (a.val + b.val) = some sum ∧ _ :=
      exists_ofInt? (by omega)
    exact ⟨sum, hsum, checkedAdd_eq_some_iff.mpr (by rw [hd, hval])⟩

/-- An exact value in range and below a limit exists as soon as it is below. -/
theorem exists_val_eq_le_iff {x : ℤ} (hlo : lo ≤ x) :
    (∃ b : BoundedInt lo hi, b.val = x ∧ b.val ≤ a.val) ↔ x ≤ a.val := by
  constructor
  · rintro ⟨b, rfl, hle⟩
    exact hle
  · intro hle
    exact ⟨⟨x, hlo, hle.trans a.le_hi⟩, rfl, hle⟩

@[simp] theorem val_saturatingAdd :
    (a.saturatingAdd b).val = Max.max lo (Min.min (a.val + b.val) hi) := rfl

@[simp] theorem val_saturatingSub :
    (a.saturatingSub b).val = Max.max lo (Min.min (a.val - b.val) hi) := rfl

@[simp] theorem val_max : (a.max b).val = Max.max a.val b.val := by
  unfold max
  split_ifs with h
  · rw [max_eq_right h]
  · rw [max_eq_left (le_of_not_ge h)]

end BoundedInt

/-- Signed 32-bit integers. -/
abbrev I32 := BoundedInt (-2147483648) 2147483647

/-- Signed 64-bit integers. -/
abbrev I64 := BoundedInt (-9223372036854775808) 9223372036854775807

/-- Signed 128-bit integers. -/
abbrev I128 := BoundedInt (-170141183460469231731687303715884105728)
  170141183460469231731687303715884105727

/-- Unsigned 8-bit integers. -/
abbrev U8 := BoundedInt 0 255

/-- Unsigned 32-bit integers. -/
abbrev U32 := BoundedInt 0 4294967295

/-- Unsigned 64-bit integers. -/
abbrev U64 := BoundedInt 0 18446744073709551615

instance : BoundedInt.Bounds (-2147483648) 2147483647 := ⟨by decide⟩

instance : BoundedInt.Bounds (-9223372036854775808) 9223372036854775807 := ⟨by decide⟩

instance boundsI128 : BoundedInt.Bounds (-170141183460469231731687303715884105728)
    170141183460469231731687303715884105727 := ⟨by decide⟩

instance : BoundedInt.Bounds 0 255 := ⟨by decide⟩

instance : BoundedInt.Bounds 0 4294967295 := ⟨by decide⟩

instance : BoundedInt.Bounds 0 18446744073709551615 := ⟨by decide⟩

end Foundation
