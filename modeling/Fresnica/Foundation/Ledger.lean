import Mathlib.Data.Int.Order.Basic
import Mathlib.Data.Option.Basic
import Mathlib.Tactic.Ring

/-!
# Accounts with liabilities

An account has at most one line for each asset: a balance, the amounts its open
offers promise to sell and to buy, and a limit on what it may hold. A line is sound
if the balance covers the first and the limit leaves room for the second. Besides,
the account keeps a reserve for each of its units in a native asset.

## Main definitions

* `Line`, `Line.Sound`, `Line.available`, `Line.capacity`
* `LedgerAccount` — the lines by asset, and the reserve units
* `LedgerAccount.credit`, `addSelling`, `addBuying`, `addUnits`, `openLine`
* `LedgerAccount.setLimit`, `closeLine` — another limit, and no line any more
* `LedgerAccount.availableOf`, `capacityOf` — of an asset, with a line or without
* `LedgerAccount.Solvent` — the native line keeps the reserve

## Main results

* `Line.sound_iff` — soundness, in terms of what is available
* `LedgerAccount.lines_credit`, `lines_addSelling`, `lines_addBuying` — what an update does to
  the lines
-/

namespace Foundation

@[ext] structure Line where
  balance : ℤ
  selling : ℤ
  buying : ℤ
  limit : ℤ
  deriving DecidableEq, Repr

namespace Line

variable {line : Line} {amount : ℤ}

/-- What is not promised to buyers. -/
def available (line : Line) : ℤ := line.balance - line.selling

/-- What may still be received, besides what is already promised. -/
def capacity (line : Line) : ℤ := line.limit - (line.balance + line.buying)

structure Sound (line : Line) : Prop where
  covered : line.selling ≤ line.balance
  within : line.balance + line.buying ≤ line.limit

theorem sound_iff : line.Sound ↔ 0 ≤ line.available ∧ 0 ≤ line.capacity := by
  unfold available capacity
  exact ⟨fun ⟨hcovered, hwithin⟩ => ⟨by omega, by omega⟩, fun ⟨h, h'⟩ => ⟨by omega, by omega⟩⟩

def credit (amount : ℤ) (line : Line) : Line := { line with balance := line.balance + amount }

def addSelling (amount : ℤ) (line : Line) : Line := { line with selling := line.selling + amount }

def addBuying (amount : ℤ) (line : Line) : Line := { line with buying := line.buying + amount }

@[simp] theorem available_credit : (line.credit amount).available = line.available + amount := by
  simp only [available, credit]
  ring

@[simp] theorem available_addSelling :
    (line.addSelling amount).available = line.available - amount := by
  simp only [available, addSelling]
  ring

@[simp] theorem available_addBuying : (line.addBuying amount).available = line.available := rfl

@[simp] theorem capacity_credit : (line.credit amount).capacity = line.capacity - amount := by
  simp only [capacity, credit]
  ring

@[simp] theorem capacity_addSelling : (line.addSelling amount).capacity = line.capacity := rfl

@[simp] theorem capacity_addBuying :
    (line.addBuying amount).capacity = line.capacity - amount := by
  simp only [capacity, addBuying]
  ring

end Line

structure LedgerAccount (ι : Type*) where
  lines : ι → Option Line
  units : ℤ

namespace LedgerAccount

variable {ι : Type*} {a : LedgerAccount ι} {asset other : ι} {amount units limit : ℤ}

def addUnits (a : LedgerAccount ι) (units : ℤ) : LedgerAccount ι :=
  { a with units := a.units + units }

/-- The reserve of all units. -/
def minimum (a : LedgerAccount ι) (reserve : ℤ) : ℤ := a.units * reserve

/-- The native line has the reserve available. -/
def Solvent (a : LedgerAccount ι) (native : ι) (reserve : ℤ) : Prop :=
  ∃ line, a.lines native = some line ∧ a.minimum reserve ≤ line.available

/-- What is available of an asset; without a line nothing is. -/
def availableOf (a : LedgerAccount ι) (asset : ι) : ℤ := (a.lines asset).elim 0 Line.available

/-- What may be received of an asset, under a limit for a line still to be opened. -/
def capacityOf (a : LedgerAccount ι) (asset : ι) (newLimit : ℤ) : ℤ :=
  (a.lines asset).elim newLimit Line.capacity

theorem availableOf_of_line {line : Line} (h : a.lines asset = some line) :
    a.availableOf asset = line.available := by
  rw [availableOf, h, Option.elim_some]

theorem availableOf_of_none (h : a.lines asset = none) : a.availableOf asset = 0 := by
  rw [availableOf, h, Option.elim_none]

theorem capacityOf_of_line {line : Line} (h : a.lines asset = some line) :
    a.capacityOf asset limit = line.capacity := by
  rw [capacityOf, h, Option.elim_some]

theorem capacityOf_of_none (h : a.lines asset = none) : a.capacityOf asset limit = limit := by
  rw [capacityOf, h, Option.elim_none]

theorem availableOf_nonneg (h : ∀ asset line, a.lines asset = some line → line.Sound)
    (asset : ι) :
    0 ≤ a.availableOf asset := by
  cases hline : a.lines asset with
  | none => rw [availableOf_of_none hline]
  | some line =>
    rw [availableOf_of_line hline]
    exact (Line.sound_iff.mp (h asset line hline)).1

theorem capacityOf_nonneg (h : ∀ asset line, a.lines asset = some line → line.Sound)
    (hlimit : 0 ≤ limit) (asset : ι) : 0 ≤ a.capacityOf asset limit := by
  cases hline : a.lines asset with
  | none =>
    rw [capacityOf_of_none hline]
    exact hlimit
  | some line =>
    rw [capacityOf_of_line hline]
    exact (Line.sound_iff.mp (h asset line hline)).2

@[simp] theorem lines_addUnits : (a.addUnits units).lines = a.lines := rfl

@[simp] theorem units_addUnits : (a.addUnits units).units = a.units + units := rfl

variable [DecidableEq ι]

/-- Change the line of one asset, if there is one. -/
def modifyLine (a : LedgerAccount ι) (asset : ι) (f : Line → Line) : LedgerAccount ι :=
  { a with lines := fun other =>
      (a.lines other).map fun line => if other = asset then f line else line }

def credit (a : LedgerAccount ι) (asset : ι) (amount : ℤ) : LedgerAccount ι :=
  a.modifyLine asset (Line.credit amount)

def addSelling (a : LedgerAccount ι) (asset : ι) (amount : ℤ) : LedgerAccount ι :=
  a.modifyLine asset (Line.addSelling amount)

def addBuying (a : LedgerAccount ι) (asset : ι) (amount : ℤ) : LedgerAccount ι :=
  a.modifyLine asset (Line.addBuying amount)

/-- An empty line with a limit, where there is none. -/
def openLine (a : LedgerAccount ι) (asset : ι) (limit : ℤ) : LedgerAccount ι :=
  { a with lines := fun other =>
      if other = asset then some ((a.lines other).getD ⟨0, 0, 0, limit⟩) else a.lines other }

/-- Another limit for a line, if there is one. -/
def setLimit (a : LedgerAccount ι) (asset : ι) (limit : ℤ) : LedgerAccount ι :=
  a.modifyLine asset fun line => { line with limit := limit }

/-- No line of the asset any more. -/
def closeLine (a : LedgerAccount ι) (asset : ι) : LedgerAccount ι :=
  { a with lines := fun other => if other = asset then none else a.lines other }

@[simp] theorem lines_credit : (a.credit asset amount).lines other =
    (a.lines other).map fun line => if other = asset then line.credit amount else line := rfl

@[simp] theorem lines_addSelling : (a.addSelling asset amount).lines other =
    (a.lines other).map fun line => if other = asset then line.addSelling amount else line := rfl

@[simp] theorem lines_addBuying : (a.addBuying asset amount).lines other =
    (a.lines other).map fun line => if other = asset then line.addBuying amount else line := rfl

@[simp] theorem units_credit : (a.credit asset amount).units = a.units := rfl

@[simp] theorem units_addSelling : (a.addSelling asset amount).units = a.units := rfl

@[simp] theorem units_addBuying : (a.addBuying asset amount).units = a.units := rfl

@[simp] theorem units_openLine : (a.openLine asset limit).units = a.units := rfl

theorem lines_openLine_self : (a.openLine asset limit).lines asset =
    some ((a.lines asset).getD ⟨0, 0, 0, limit⟩) :=
  if_pos rfl

theorem lines_setLimit_self : (a.setLimit asset limit).lines asset =
    (a.lines asset).map fun line => { line with limit := limit } := by
  simp only [setLimit, modifyLine, if_true]

theorem lines_closeLine_self : (a.closeLine asset).lines asset = none :=
  if_pos rfl

theorem lines_openLine_of_ne (h : other ≠ asset) :
    (a.openLine asset limit).lines other = a.lines other :=
  if_neg h

end LedgerAccount

end Foundation
