import Mathlib.Data.List.Basic

/-!
# Texts of several texts

Several texts are written one after the other, each character after a mark and each text
before another mark, so that they can be read back whatever they contain. What follows the
last text is not read.

## Main definitions

* `Framed.print`, `Framed.read` — several texts as one, and back

## Main results

* `Framed.read_print_append` — what is printed is read back
-/

namespace Foundation.Framed

def printChars (text : List Char) : List Char := text.flatMap (fun c => ['x', c]) ++ ['y']

def readChars : List Char → Option (List Char × List Char)
  | 'y' :: rest => some ([], rest)
  | 'x' :: c :: rest => (readChars rest).map fun found => (c :: found.1, found.2)
  | _ => none

theorem readChars_printChars (text rest : List Char) :
    readChars (printChars text ++ rest) = some (text, rest) := by
  induction text with
  | nil => rfl
  | cons c text ih =>
    have hcons : printChars (c :: text) ++ rest = 'x' :: c :: (printChars text ++ rest) := by
      simp [printChars]
    rw [hcons, readChars, ih]
    rfl

def printAll (texts : List String) : List Char :=
  texts.flatMap (fun text => 't' :: printChars text.toList) ++ ['e']

/-- At most as many texts as there are characters. -/
def readAll : ℕ → List Char → Option (List String)
  | _, 'e' :: _ => some []
  | fuel + 1, 't' :: rest => do
    let (text, rest) ← readChars rest
    let texts ← readAll fuel rest
    return String.ofList text :: texts
  | _, _ => none

theorem readAll_printAll (texts : List String) (rest : List Char) {fuel : ℕ}
    (h : texts.length ≤ fuel) : readAll fuel (printAll texts ++ rest) = some texts := by
  induction texts generalizing fuel with
  | nil => cases fuel <;> rfl
  | cons text texts ih =>
    cases fuel with
    | zero => exact absurd h (by simp)
    | succ fuel =>
      have hcons : printAll (text :: texts) ++ rest =
          't' :: (printChars text.toList ++ (printAll texts ++ rest)) := by
        simp [printAll]
      rw [hcons, readAll, readChars_printChars]
      simp [ih (Nat.le_of_succ_le_succ h)]

def print (texts : List String) : String := String.ofList (printAll texts)

def read (text : String) : Option (List String) := readAll text.length text.toList

theorem length_le_printAll (texts : List String) : texts.length ≤ (printAll texts).length := by
  induction texts with
  | nil => exact Nat.zero_le _
  | cons text texts ih =>
    simp only [printAll, List.flatMap_cons, List.length_append, List.length_cons] at ih ⊢
    omega

/-- What is printed is read back, whatever follows it. -/
theorem read_print_append (texts : List String) (rest : String) :
    read (print texts ++ rest) = some texts := by
  rw [read, print, String.toList_append, String.toList_ofList]
  apply readAll_printAll
  rw [String.length_append, String.length_ofList]
  exact Nat.le_trans (length_le_printAll texts) (Nat.le_add_right _ _)

end Foundation.Framed
