import Mathlib.Data.List.Basic

/-!
# UTF-8 texts in byte strings

A byte string is read as a text character by character. A lossy reading writes a
replacement character for the longest beginning of a character that is not
completed, and for a byte that begins none. So a text without the replacement
character is read from its own bytes, and from no others.

## Main definitions

* `Utf8.bytes` — the bytes of a text
* `fromUtf8Lossy` — the lossy reading

## Main results

* `fromUtf8Lossy_eq_iff` — the byte strings that read as a text without replacements
* `Utf8.fromUTF8?_eq_some_iff` — a strict reading is of the text's own bytes
-/

namespace Foundation

/-- The bytes of a text. -/
def Utf8.bytes (text : String) : List UInt8 := text.toList.flatMap String.utf8EncodeChar

namespace Utf8

/-- The character in place of bytes that encode none. -/
def replacement : Char := Char.ofNat 0xFFFD

/-- The least and greatest byte at each place after a first byte. -/
def continuations (first : UInt8) : List (UInt8 × UInt8) :=
  let tail : UInt8 × UInt8 := (0x80, 0xBF)
  if 0xC2 ≤ first ∧ first ≤ 0xDF then [tail]
  else if first = 0xE0 then [(0xA0, 0xBF), tail]
  else if first = 0xED then [(0x80, 0x9F), tail]
  else if 0xE1 ≤ first ∧ first ≤ 0xEF then [tail, tail]
  else if first = 0xF0 then [(0x90, 0xBF), tail, tail]
  else if 0xF1 ≤ first ∧ first ≤ 0xF3 then [tail, tail, tail]
  else if first = 0xF4 then [(0x80, 0x8F), tail, tail]
  else []

/-- How many of the bytes stay within their ranges. -/
def continued : List (UInt8 × UInt8) → List UInt8 → ℕ
  | (least, greatest) :: ranges, byte :: rest =>
    if least ≤ byte ∧ byte ≤ greatest then continued ranges rest + 1 else 0
  | _, _ => 0

/-- The first character, and how many bytes it takes after the first one. -/
def lossyChar (first : UInt8) (rest : List UInt8) : Char × ℕ :=
  match (first :: rest).toByteArray.utf8DecodeChar? 0 with
  | some c => (c, c.utf8Size - 1)
  | none => (replacement, continued (continuations first) rest)

def lossyChars : List UInt8 → List Char
  | [] => []
  | first :: rest =>
    let (c, taken) := lossyChar first rest
    c :: lossyChars (rest.drop taken)
termination_by bytes => bytes.length

end Utf8

/-- The text of a byte string, with replacements where it is not UTF-8. -/
def fromUtf8Lossy (bytes : List UInt8) : String := String.ofList (Utf8.lossyChars bytes)

namespace Utf8

variable {bytes rest : List UInt8} {first : UInt8} {c : Char} {cs : List Char}

/-- A decoded character stands at the front with its own bytes. -/
theorem utf8DecodeChar?_eq_some_iff :
    bytes.toByteArray.utf8DecodeChar? 0 = some c ↔
      ∃ after, bytes = String.utf8EncodeChar c ++ after := by
  constructor
  · intro h
    obtain ⟨after, hafter⟩ := ByteArray.exists_of_utf8DecodeChar?_eq_some h
    refine ⟨after.data.toList, ?_⟩
    have hdata := congrArg (fun b : ByteArray => b.data.toList) hafter
    simpa using hdata
  · rintro ⟨after, rfl⟩
    rw [List.toByteArray_append]
    exact ByteArray.utf8DecodeChar?_utf8EncodeChar_append

theorem lossyChars_encode (after : List UInt8) :
    lossyChars (String.utf8EncodeChar c ++ after) = c :: lossyChars after := by
  cases hbytes : String.utf8EncodeChar c ++ after with
  | nil => simp [String.utf8EncodeChar_ne_nil] at hbytes
  | cons first rest =>
    have hdecode : (first :: rest).toByteArray.utf8DecodeChar? 0 = some c :=
      utf8DecodeChar?_eq_some_iff.mpr ⟨after, hbytes.symm⟩
    have hdrop : rest.drop (c.utf8Size - 1) = after := by
      have hlength := String.length_utf8EncodeChar c
      have hpos := c.utf8Size_pos
      have hall := congrArg (List.drop c.utf8Size) hbytes
      rw [List.drop_left' hlength, ← Nat.sub_add_cancel hpos, List.drop_succ_cons] at hall
      exact hall.symm
    simp [lossyChars, lossyChar, hdecode, hdrop]

/-- A reading without replacements is of the characters' own bytes. -/
theorem lossyChars_eq_iff (hcs : replacement ∉ cs) :
    lossyChars bytes = cs ↔ bytes = cs.flatMap String.utf8EncodeChar := by
  constructor
  · intro h
    induction cs generalizing bytes with
    | nil =>
      cases bytes with
      | nil => rfl
      | cons first rest => simp [lossyChars] at h
    | cons c cs ih =>
      cases bytes with
      | nil => simp [lossyChars] at h
      | cons first rest =>
        cases hdecode : (first :: rest).toByteArray.utf8DecodeChar? 0 with
        | none =>
          -- what encodes no character would have left a replacement
          simp only [lossyChars, lossyChar, hdecode, List.cons.injEq] at h
          exact absurd (h.1 ▸ List.mem_cons_self) hcs
        | some d =>
          obtain ⟨after, hafter⟩ := utf8DecodeChar?_eq_some_iff.mp hdecode
          rw [hafter, lossyChars_encode, List.cons.injEq] at h
          obtain ⟨rfl, h⟩ := h
          rw [hafter, ih (fun hmem => hcs (List.mem_cons_of_mem _ hmem)) h, List.flatMap_cons]
  · rintro rfl
    induction cs with
    | nil => simp [lossyChars]
    | cons c cs ih =>
      rw [List.flatMap_cons, lossyChars_encode, ih fun hmem => hcs (List.mem_cons_of_mem _ hmem)]

end Utf8

/-- A text is read from its own bytes. -/
theorem fromUtf8Lossy_bytes (text : String) : fromUtf8Lossy (Utf8.bytes text) = text := by
  have hchars : ∀ cs : List Char,
      Utf8.lossyChars (cs.flatMap String.utf8EncodeChar) = cs := by
    intro cs
    induction cs with
    | nil => simp [Utf8.lossyChars]
    | cons c cs ih => rw [List.flatMap_cons, Utf8.lossyChars_encode, ih]
  rw [fromUtf8Lossy, Utf8.bytes, hchars, String.ofList_toList]

namespace Utf8

/-- Texts with the same bytes are the same. -/
theorem bytes_inj {text text' : String} : bytes text = bytes text' ↔ text = text' := by
  constructor
  · intro h
    rw [← fromUtf8Lossy_bytes text, h, fromUtf8Lossy_bytes]
  · exact congrArg bytes

theorem toByteArray_bytes (text : String) : (bytes text).toByteArray = text.toByteArray := by
  rw [← String.utf8Encode_toList]
  rfl

/-- A text is read from its own bytes, and from no others. -/
theorem fromUTF8?_eq_some_iff {read : List UInt8} {text : String} :
    String.fromUTF8? read.toByteArray = some text ↔ bytes text = read := by
  have hread : String.fromUTF8? read.toByteArray = some text ↔
      text.toByteArray = read.toByteArray := by
    unfold String.fromUTF8?
    constructor
    · intro h
      split at h
      · rw [← Option.some.inj h]
        rfl
      · cases h
    · intro h
      rw [dif_pos (h ▸ text.isValidUTF8)]
      exact congrArg some (String.toByteArray_inj.mp h.symm)
  rw [hread, ← toByteArray_bytes]
  constructor
  · intro h
    simpa using congrArg (fun b : ByteArray => b.data.toList) h
  · intro h
    rw [h]

theorem toList_loop (read : ByteArray) (i : ℕ) (r : List UInt8) :
    ByteArray.toList.loop read i r = r.reverse ++ read.data.toList.drop i := by
  fun_induction ByteArray.toList.loop read i r with
  | case1 i r h ih =>
    rw [ih, List.reverse_cons, List.append_assoc]
    congr 1
    have hi : i < read.data.toList.length := by simpa using h
    rw [List.drop_eq_getElem_cons hi]
    simp [ByteArray.get!, h]
  | case2 i r h =>
    rw [List.drop_eq_nil_of_le (by simpa using h), List.append_nil]

/-- The bytes of a text, as the list of its byte array. -/
theorem toList_toUTF8 (text : String) : text.toUTF8.toList = bytes text := by
  have hdata : text.toUTF8.data.toList = bytes text := by
    change text.toByteArray.data.toList = bytes text
    rw [← toByteArray_bytes, List.data_toByteArray]
  rw [← hdata]
  exact toList_loop text.toUTF8 0 []

theorem utf8EncodeChar_ascii : ∀ n < 128,
    String.utf8EncodeChar (Char.ofNat n) = [UInt8.ofNat n] := by decide +kernel

/-- A text of ASCII bytes has these bytes. -/
theorem bytes_ascii {ascii : List UInt8} (h : ∀ byte ∈ ascii, byte.toNat < 128) :
    bytes (String.ofList (ascii.map fun byte => Char.ofNat byte.toNat)) = ascii := by
  rw [bytes, String.toList_ofList]
  induction ascii with
  | nil => rfl
  | cons byte ascii ih =>
    rw [List.forall_mem_cons] at h
    rw [List.map_cons, List.flatMap_cons, ih h.2, utf8EncodeChar_ascii _ h.1, UInt8.ofNat_toNat,
      List.singleton_append]

end Utf8

/-- A text without replacements is read from its own bytes alone. -/
theorem fromUtf8Lossy_eq_iff {bytes : List UInt8} {text : String}
    (htext : Utf8.replacement ∉ text.toList) :
    fromUtf8Lossy bytes = text ↔ bytes = Utf8.bytes text := by
  rw [fromUtf8Lossy, Utf8.bytes, ← Utf8.lossyChars_eq_iff htext]
  constructor
  · rintro rfl
    rw [String.toList_ofList]
  · intro h
    rw [h, String.ofList_toList]

end Foundation
