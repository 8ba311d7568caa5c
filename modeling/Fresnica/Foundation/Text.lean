import Mathlib.Data.List.Basic
import Mathlib.Data.List.DropRight

/-!
# Text

White space is the Unicode property of that name, and trimming takes it off both
ends of a text. What `strip` takes off are the separators of ASCII as well.

## Main definitions

* `Text.isWhitespace`, `Text.isSpace` — the two kinds of white space
* `Text.trimBy`, `Text.trim`, `Text.strip`, `Text.trimMatches`, `Text.isBlank`

## Main results

* `Text.trimBy_of_forall_not` — trimming a text without white space
* `Text.length_trim` — a trimmed text is shorter, or the same
* `Text.trimBy_trimBy`, `Text.trimBy_of_trimBy` — trimming again, and after some was taken off
* `Text.trim_append_singleton` — trimming after white space is added at the end
-/

namespace Foundation.Text

/-- The Unicode property `White_Space`. -/
def isWhitespace (c : Char) : Bool :=
  let n := c.toNat
  (9 ≤ n && n ≤ 13) || n == 0x20 || n == 0x85 || n == 0xA0 || n == 0x1680 ||
    (0x2000 ≤ n && n ≤ 0x200A) || n == 0x2028 || n == 0x2029 || n == 0x202F || n == 0x205F ||
    n == 0x3000

/-- White space, and the separators of ASCII. -/
def isSpace (c : Char) : Bool := isWhitespace c || (28 ≤ c.toNat && c.toNat ≤ 31)

/-- The text without the characters at either end that satisfy a predicate. -/
def trimBy (p : Char → Bool) (text : String) : String :=
  String.ofList ((text.toList.dropWhile p).rdropWhile p)

/-- The text without white space at either end. -/
def trim (text : String) : String := trimBy isWhitespace text

/-- The text without white space and separators at either end. -/
def strip (text : String) : String := trimBy isSpace text

/-- The text without a character at either end. -/
def trimMatches (c : Char) (text : String) : String := trimBy (· = c) text

/-- Nothing is left of the text after trimming. -/
def isBlank (text : String) : Bool := (trim text).isEmpty

variable {p q : Char → Bool} {text : String}

theorem toList_trimBy : (trimBy p text).toList = (text.toList.dropWhile p).rdropWhile p :=
  String.toList_ofList

theorem trimBy_of_forall_not (h : ∀ c ∈ text.toList, p c = false) : trimBy p text = text := by
  have hstart : text.toList.dropWhile p = text.toList := by
    rw [List.dropWhile_eq_self_iff]
    intro hlength
    simp [h _ (List.getElem_mem hlength)]
  have hend : text.toList.rdropWhile p = text.toList := by
    rw [List.rdropWhile_eq_self_iff]
    intro hne
    simp [h _ (List.getLast_mem hne)]
  rw [trimBy, hstart, hend, String.ofList_toList]

theorem isSpace_of_isWhitespace {c : Char} (h : isWhitespace c = true) : isSpace c = true := by
  rw [isSpace, h, Bool.true_or]

/-- Trimming takes characters off, or nothing. -/
theorem length_trim (text : String) : (trim text).length ≤ text.length ∧
    ((trim text).length = text.length → trim text = text) := by
  have hstart : (trim text).toList <+: text.toList.dropWhile isWhitespace := by
    rw [trim, toList_trimBy]
    exact List.rdropWhile_prefix _ _
  have hend : text.toList.dropWhile isWhitespace <:+ text.toList := List.dropWhile_suffix _
  have hle := hstart.length_le
  have hle' := hend.length_le
  rw [← String.length_toList, ← String.length_toList]
  refine ⟨Nat.le_trans hle hle', fun hlength => String.toList_injective ?_⟩
  rw [hstart.eq_of_length (by omega), hend.eq_of_length (by omega)]

/-- Nothing is left to trim of a text that was trimmed of as much. -/
theorem trimBy_trimBy (h : ∀ c, q c = true → p c = true) :
    trimBy q (trimBy p text) = trimBy p text := by
  have hstart : (trimBy p text).toList.dropWhile q = (trimBy p text).toList := by
    rw [List.dropWhile_eq_self_iff, toList_trimBy]
    intro hlength hwhite
    have hbefore := List.rdropWhile_prefix p (text.toList.dropWhile p)
    have hpos : 0 < (text.toList.dropWhile p).length := hlength.trans_le hbefore.length_le
    rw [hbefore.getElem hlength] at hwhite
    exact List.dropWhile_get_zero_not p text.toList hpos (h _ hwhite)
  have hend : (trimBy p text).toList.rdropWhile q = (trimBy p text).toList := by
    rw [List.rdropWhile_eq_self_iff]
    intro hne hwhite
    have hlast : (trimBy p text).toList.rdropWhile p = (trimBy p text).toList := by
      rw [toList_trimBy, List.rdropWhile_idempotent]
    exact (List.rdropWhile_eq_self_iff.mp hlast) hne (h _ hwhite)
  apply String.toList_injective
  rw [toList_trimBy, hstart, hend]

/-- Trimming twice is trimming once. -/
theorem trim_trim (text : String) : trim (trim text) = trim text :=
  trimBy_trimBy fun _ hwhite => hwhite

theorem strip_strip (text : String) : strip (strip text) = strip text :=
  trimBy_trimBy fun _ hspace => hspace

theorem trim_strip (text : String) : trim (strip text) = strip text :=
  trimBy_trimBy fun _ => isSpace_of_isWhitespace

theorem rdropWhile_dropWhile_concat {cs : List Char} {c : Char} (hc : p c = true) :
    ((cs ++ [c]).dropWhile p).rdropWhile p = (cs.dropWhile p).rdropWhile p := by
  rw [List.dropWhile_append]
  split_ifs with hblank
  · rw [List.isEmpty_iff] at hblank
    simp [hblank, hc]
  · rw [List.rdropWhile_concat_pos _ _ _ hc]

/-- Taking less off first makes no difference. -/
theorem trimBy_of_trimBy (h : ∀ c, q c = true → p c = true) (text : String) :
    trimBy p (trimBy q text) = trimBy p text := by
  -- what the first trim drops, the second would drop
  have hstart (cs : List Char) : (cs.dropWhile q).dropWhile p = cs.dropWhile p := by
    induction cs with
    | nil => rfl
    | cons c cs ih =>
      rw [List.dropWhile_cons]
      split_ifs with hq
      · rw [ih, List.dropWhile_cons_of_pos (h c hq)]
      · rfl
  have hend (cs : List Char) :
      ((cs.rdropWhile q).dropWhile p).rdropWhile p = (cs.dropWhile p).rdropWhile p := by
    induction cs using List.reverseRecOn with
    | nil => rfl
    | append_singleton cs c ih =>
      rw [List.rdropWhile_concat]
      split_ifs with hq
      · rw [ih, rdropWhile_dropWhile_concat (h c hq)]
      · rfl
  apply String.toList_injective
  rw [toList_trimBy, toList_trimBy, hend, hstart, toList_trimBy]

theorem strip_trim (text : String) : strip (trim text) = strip text :=
  trimBy_of_trimBy (fun _ => isSpace_of_isWhitespace) text

/-- White space at the end is taken off. -/
theorem trim_append_singleton (text : String) {c : Char} (hc : isWhitespace c = true) :
    trim (text ++ String.ofList [c]) = trim text := by
  apply String.toList_injective
  rw [trim, toList_trimBy, String.toList_append, String.toList_ofList,
    rdropWhile_dropWhile_concat hc, trim, toList_trimBy]

end Foundation.Text
