import Fresnica.Foundation.Utf8
import Mathlib.Tactic.Common

/-!
# Form-urlencoded queries

A query is a list of names and values, written as a byte string: pairs are separated by an
ampersand, a name is separated from its value by an equals sign, and every byte that is not
a letter, a digit or one of four marks is written as a percent sign and two hexadecimal
digits, or as a plus sign where it is a space. A reader splits first and decodes afterwards,
so what a name or a value contains never reaches the separators.

## Main definitions

* `byteSerialize` — the bytes that stand for a name or a value
* `parse` — the names and values of a query
* `appendPair` — a query with one more pair

## Main results

* `decode_byteSerialize` — a component is read back
* `parse_appendPair` — a pair is added behind the ones that were there
-/

namespace Foundation.FormUrlencoded

abbrev ampersand : UInt8 := 38

abbrev equalsSign : UInt8 := 61

abbrev percentSign : UInt8 := 37

abbrev plusSign : UInt8 := 43

abbrev space : UInt8 := 32

/-! ### Components -/

/-- Letters, digits and `*-._` stand for themselves. -/
def isUnchanged (byte : UInt8) : Bool :=
  byte = 42 ∨ byte = 45 ∨ byte = 46 ∨ (48 ≤ byte ∧ byte ≤ 57) ∨ (65 ≤ byte ∧ byte ≤ 90) ∨
    byte = 95 ∨ (97 ≤ byte ∧ byte ≤ 122)

def hexDigit (n : ℕ) : UInt8 := UInt8.ofNat (if n < 10 then 48 + n else 55 + n)

def hexValue? (byte : UInt8) : Option ℕ :=
  if 48 ≤ byte ∧ byte ≤ 57 then some (byte.toNat - 48)
  else if 65 ≤ byte ∧ byte ≤ 70 then some (byte.toNat - 55)
  else if 97 ≤ byte ∧ byte ≤ 102 then some (byte.toNat - 87)
  else none

def serializeByte (byte : UInt8) : List UInt8 :=
  if isUnchanged byte then [byte]
  else if byte = space then [plusSign]
  else [percentSign, hexDigit (byte.toNat / 16), hexDigit (byte.toNat % 16)]

def byteSerialize (bytes : List UInt8) : List UInt8 := bytes.flatMap serializeByte

def replacePlus (bytes : List UInt8) : List UInt8 :=
  bytes.map fun byte => if byte = plusSign then space else byte

/-- The byte of two hexadecimal digits. -/
def hexByte? (high low : UInt8) : Option UInt8 := do
  let high ← hexValue? high
  let low ← hexValue? low
  return UInt8.ofNat (high * 16 + low)

/-- A percent sign that no two hexadecimal digits follow stands for itself. -/
def percentDecode : List UInt8 → List UInt8
  | byte :: high :: low :: rest =>
    match if byte = percentSign then hexByte? high low else none with
    | some value => value :: percentDecode rest
    | none => byte :: percentDecode (high :: low :: rest)
  | bytes => bytes

def decode (bytes : List UInt8) : String := fromUtf8Lossy (percentDecode (replacePlus bytes))

/-! ### Pairs -/

/-- The name before the first equals sign, and the value after it. -/
def parsePair (pair : List UInt8) : String × String :=
  (decode (pair.takeWhile (· ≠ equalsSign)), decode ((pair.dropWhile (· ≠ equalsSign)).drop 1))

def parse (query : List UInt8) : List (String × String) :=
  ((query.splitOn ampersand).filter (· ≠ [])).map parsePair

def serializePair (name value : String) : List UInt8 :=
  byteSerialize (Utf8.bytes name) ++ equalsSign :: byteSerialize (Utf8.bytes value)

/-- The query with one more pair, after a separator unless it is the first. -/
def appendPair (query : List UInt8) (name value : String) : List UInt8 :=
  (if query = [] then [] else query ++ [ampersand]) ++ serializePair name value

/-! ### Reading back -/

variable {byte : UInt8} {bytes rest query : List UInt8} {name value : String}

theorem hexValue?_hexDigit : ∀ n < 16, hexValue? (hexDigit n) = some n := by decide

theorem hexDigit_ne : ∀ n < 16, hexDigit n ≠ ampersand ∧ hexDigit n ≠ equalsSign ∧
    hexDigit n ≠ plusSign := by decide

theorem ne_of_isUnchanged (h : isUnchanged byte = true) :
    byte ≠ ampersand ∧ byte ≠ equalsSign ∧ byte ≠ plusSign ∧ byte ≠ percentSign := by
  refine ⟨?_, ?_, ?_, ?_⟩ <;> intro hbyte <;> rw [hbyte] at h <;> exact absurd h (by decide)

theorem percentDecode_cons_of_ne (h : byte ≠ percentSign) :
    percentDecode (byte :: rest) = byte :: percentDecode rest := by
  cases rest with
  | nil => simp only [percentDecode]
  | cons high rest =>
    cases rest with
    | nil => simp only [percentDecode]
    | cons low after => rw [percentDecode, if_neg h]

theorem percentDecode_percent {high low : ℕ} (hhigh : high < 16) (hlow : low < 16) :
    percentDecode (percentSign :: hexDigit high :: hexDigit low :: rest) =
      UInt8.ofNat (high * 16 + low) :: percentDecode rest := by
  have hbyte : hexByte? (hexDigit high) (hexDigit low) = some (UInt8.ofNat (high * 16 + low)) := by
    rw [hexByte?, hexValue?_hexDigit high hhigh, hexValue?_hexDigit low hlow]
    rfl
  rw [percentDecode, if_pos rfl, hbyte]

/-- One byte is read back from what stands for it. -/
theorem percentDecode_serializeByte :
    percentDecode (replacePlus (serializeByte byte) ++ rest) = byte :: percentDecode rest := by
  rw [serializeByte]
  split_ifs with hunchanged hspace
  · obtain ⟨-, -, hplus, hpercent⟩ := ne_of_isUnchanged hunchanged
    rw [replacePlus, List.map_singleton, if_neg hplus]
    exact percentDecode_cons_of_ne hpercent
  · rw [hspace]
    exact percentDecode_cons_of_ne (by decide)
  · have hlt := byte.toNat_lt
    have hhigh : byte.toNat / 16 < 16 := by omega
    have hlow : byte.toNat % 16 < 16 := by omega
    have hbyte : UInt8.ofNat (byte.toNat / 16 * 16 + byte.toNat % 16) = byte := by
      rw [Nat.div_add_mod', UInt8.ofNat_toNat]
    simp only [replacePlus, List.map_cons, List.map_nil, List.cons_append, List.nil_append,
      if_neg (hexDigit_ne _ hhigh).2.2, if_neg (hexDigit_ne _ hlow).2.2]
    rw [if_neg (by decide), percentDecode_percent hhigh hlow, hbyte]

theorem percentDecode_byteSerialize :
    percentDecode (replacePlus (byteSerialize bytes)) = bytes := by
  induction bytes with
  | nil => simp only [byteSerialize, replacePlus, List.flatMap_nil, List.map_nil, percentDecode]
  | cons byte bytes ih =>
    have hsplit : replacePlus (byteSerialize (byte :: bytes)) =
        replacePlus (serializeByte byte) ++ replacePlus (byteSerialize bytes) := by
      rw [byteSerialize, List.flatMap_cons, replacePlus, List.map_append]
      rfl
    rw [hsplit, percentDecode_serializeByte, ih]

/-- A name or a value is read back. -/
theorem decode_byteSerialize (text : String) : decode (byteSerialize (Utf8.bytes text)) = text := by
  rw [decode, percentDecode_byteSerialize, fromUtf8Lossy_bytes]

/-- Nothing that stands for a byte is a separator. -/
theorem ne_of_mem_byteSerialize (h : byte ∈ byteSerialize bytes) :
    byte ≠ ampersand ∧ byte ≠ equalsSign := by
  obtain ⟨source, -, hmem⟩ := List.mem_flatMap.mp h
  have hlt := source.toNat_lt
  rw [serializeByte] at hmem
  split_ifs at hmem with hunchanged hspace
  · obtain rfl := List.mem_singleton.mp hmem
    exact ⟨(ne_of_isUnchanged hunchanged).1, (ne_of_isUnchanged hunchanged).2.1⟩
  · obtain rfl := List.mem_singleton.mp hmem
    decide
  · simp only [List.mem_cons, List.not_mem_nil, or_false] at hmem
    rcases hmem with rfl | rfl | rfl
    · decide
    · exact ⟨(hexDigit_ne _ (by omega)).1, (hexDigit_ne _ (by omega)).2.1⟩
    · exact ⟨(hexDigit_ne _ (by omega)).1, (hexDigit_ne _ (by omega)).2.1⟩

theorem parsePair_serializePair (name value : String) :
    parsePair (serializePair name value) = (name, value) := by
  have hname : ∀ byte ∈ byteSerialize (Utf8.bytes name), decide (byte ≠ equalsSign) = true := by
    intro byte hbyte
    exact decide_eq_true (ne_of_mem_byteSerialize hbyte).2
  rw [parsePair, serializePair, List.takeWhile_append_of_pos hname,
    List.dropWhile_append_of_pos hname, List.takeWhile_cons_of_neg (by decide),
    List.dropWhile_cons_of_neg (by decide), List.append_nil, List.drop_one, List.tail_cons,
    decode_byteSerialize, decode_byteSerialize]

theorem splitOn_serializePair (name value : String) :
    (serializePair name value).splitOn ampersand = [serializePair name value] := by
  apply List.splitOn_eq_singleton
  intro hmem
  rw [serializePair, List.mem_append, List.mem_cons] at hmem
  rcases hmem with hmem | hmem | hmem
  · exact (ne_of_mem_byteSerialize hmem).1 rfl
  · exact absurd hmem (by decide)
  · exact (ne_of_mem_byteSerialize hmem).1 rfl

theorem parse_serializePair (name value : String) :
    parse (serializePair name value) = [(name, value)] := by
  have hkept : [serializePair name value].filter (· ≠ []) = [serializePair name value] := by
    simp [serializePair]
  rw [parse, splitOn_serializePair, hkept, List.map_singleton, parsePair_serializePair]

/-- A pair is added behind the ones that were there. -/
theorem parse_appendPair :
    parse (appendPair query name value) = parse query ++ [(name, value)] := by
  rw [appendPair]
  split_ifs with hquery
  · rw [hquery, List.nil_append, parse_serializePair]
    rfl
  · rw [List.append_assoc, List.singleton_append, parse, List.splitOn_append_cons_self,
      List.filter_append, List.map_append, ← parse, ← parse, parse_serializePair]

end Foundation.FormUrlencoded
