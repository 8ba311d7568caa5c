import Fresnica.Foundation.Decimal
import Fresnica.Foundation.Outcome
import Fresnica.Foundation.Text

/-!
# Amounts

Amounts are whole stroops, ten million to the unit. They are read from decimal
texts with at most seven places, without rounding, and printed without trailing
zeros.

## Main definitions

* `parseStroops`, `parsePositiveStroops`, `formatStroops`

## Main results

* `parseStroops_nonneg`, `parsePositiveStroops_pos` — an amount is not negative, and what is
  read as a positive amount is positive
-/

namespace Fresnica

open Foundation

def stroopsPerXlm : I64 := .lit 10000000

/-- The digits before the point, and those after it if there is one. -/
def splitPoint (value : List Char) : Option (List Char × Option (List Char)) :=
  match value.splitOn '.' with
  | [whole] => some (whole, none)
  | [whole, fraction] => some (whole, some fraction)
  | _ => none

/-- The stroops of the places after the point. -/
def parseFraction (fraction : List Char) : Option I64 :=
  if fraction.length > 7 ∨ ¬ fraction.all Char.isDigit then none
  else if fraction = [] then some (.lit 0)
  else do
    let value ← BoundedInt.parse? fraction
    (List.replicate (7 - fraction.length) (.lit 10)).foldlM BoundedInt.checkedMul value

/-- The stroops of a trimmed text, which may be none. -/
def parseUnsignedStroops (value : List Char) : Option I64 := do
  guard (value ≠ [] ∧ value.head? ≠ some '-' ∧ value.head? ≠ some '+')
  let (whole, fraction) ← splitPoint value
  guard (whole ≠ [] ∧ whole.all Char.isDigit)
  let whole : I64 ← BoundedInt.parse? whole
  let fractionValue ← fraction.elim (some (.lit 0)) parseFraction
  let stroops ← whole.checkedMul stroopsPerXlm
  stroops.checkedAdd fractionValue

def parseStroops (value : String) (requirePositive : Bool) : Option I64 := do
  let stroops ← parseUnsignedStroops (Text.trim value).toList
  guard (¬ (requirePositive ∧ stroops.val ≤ 0))
  return stroops

def parsePositiveStroops (value : String) : Except String I64 :=
  okOr (parseStroops value true)
    "Amount must be greater than zero with at most 7 decimal places"

def formatStroops (value : I64) : String :=
  let whole := value.val.tdiv stroopsPerXlm.val
  let fraction := value.val.tmod stroopsPerXlm.val
  if fraction = 0 then toString whole
  else
    let digits := (toString fraction.natAbs).toList
    let padded := List.replicate (7 - digits.length) '0' ++ digits
    let trimmed := (padded.reverse.dropWhile (· = '0')).reverse
    s!"{whole}.{String.ofList trimmed}"

theorem foldlM_checkedMul_nonneg {factors : List I64} (hfactors : ∀ f ∈ factors, 0 ≤ f.val)
    {value result : I64} (hvalue : 0 ≤ value.val)
    (h : factors.foldlM BoundedInt.checkedMul value = some result) : 0 ≤ result.val := by
  induction factors generalizing value with
  | nil => exact Option.some_inj.mp h ▸ hvalue
  | cons factor factors ih =>
    rw [List.foldlM_cons] at h
    obtain ⟨product, hproduct, h⟩ := Option.bind_eq_some_iff.mp h
    rw [List.forall_mem_cons] at hfactors
    refine ih hfactors.2 ?_ h
    rw [BoundedInt.checkedMul_eq_some_iff.mp hproduct]
    exact Int.mul_nonneg hvalue hfactors.1

theorem parseFraction_nonneg {fraction : List Char} {value : I64}
    (h : parseFraction fraction = some value) : 0 ≤ value.val := by
  unfold parseFraction at h
  split_ifs at h with hplaces hempty
  · exact Option.some_inj.mp h ▸ le_rfl
  · obtain ⟨first, hfirst, h⟩ := Option.bind_eq_some_iff.mp h
    rw [not_or, not_not] at hplaces
    refine foldlM_checkedMul_nonneg ?_ (BoundedInt.parse?_nonneg hplaces.2 hfirst) h
    intro factor hmem
    obtain rfl := List.eq_of_mem_replicate hmem
    decide

theorem parseUnsignedStroops_nonneg {value : List Char} {amount : I64}
    (h : parseUnsignedStroops value = some amount) : 0 ≤ amount.val := by
  obtain ⟨_, -, h⟩ := Option.bind_eq_some_iff.mp h
  obtain ⟨⟨whole, fraction⟩, -, h⟩ := Option.bind_eq_some_iff.mp h
  obtain ⟨_, hdigits, h⟩ := Option.bind_eq_some_iff.mp h
  obtain ⟨n, hn, h⟩ := Option.bind_eq_some_iff.mp h
  obtain ⟨m, hm, h⟩ := Option.bind_eq_some_iff.mp h
  obtain ⟨product, hproduct, h⟩ := Option.bind_eq_some_iff.mp h
  have hdigits : whole ≠ [] ∧ whole.all Char.isDigit = true := by simpa using hdigits
  have hn : 0 ≤ n.val := BoundedInt.parse?_nonneg hdigits.2 hn
  have hm : 0 ≤ m.val := by
    cases fraction with
    | none => exact Option.some_inj.mp hm ▸ le_rfl
    | some fraction => exact parseFraction_nonneg hm
  rw [BoundedInt.checkedAdd_eq_some_iff.mp h, BoundedInt.checkedMul_eq_some_iff.mp hproduct]
  exact Int.add_nonneg (Int.mul_nonneg hn (by decide)) hm

/-- An amount is never negative. -/
theorem parseStroops_nonneg {text : String} {requirePositive : Bool} {amount : I64}
    (h : parseStroops text requirePositive = some amount) : 0 ≤ amount.val := by
  obtain ⟨stroops, hstroops, h⟩ := Option.bind_eq_some_iff.mp h
  obtain ⟨_, -, h⟩ := Option.bind_eq_some_iff.mp h
  exact Option.some_inj.mp h ▸ parseUnsignedStroops_nonneg hstroops

theorem parsePositiveStroops_pos {text : String} {amount : I64}
    (h : parsePositiveStroops text = .ok amount) : 0 < amount.val := by
  rw [parsePositiveStroops, okOr_eq_ok, parseStroops] at h
  obtain ⟨stroops, -, h⟩ := Option.bind_eq_some_iff.mp h
  obtain ⟨_, hpos, h⟩ := Option.bind_eq_some_iff.mp h
  obtain rfl := Option.some_inj.mp h
  simpa using hpos

example : parsePositiveStroops " 12.3450000 " = .ok (.lit 123450000) := by decide

example : formatStroops (.lit 123450000) = "12.345" := by decide

end Fresnica
