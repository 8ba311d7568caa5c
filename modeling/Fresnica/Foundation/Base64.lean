import Mathlib.Data.Nat.Notation

/-!
# Base 64

Three bytes are written as four symbols of six bits. At the end, one or two bytes are
written as two or three symbols, and the four are filled up with padding. A decoder accepts
no symbol after padding, and no bits that belong to no byte.

## Main definitions

* `Base64.encode`, `Base64.decode` — bytes as a text, and back

## Main results

* `Base64.decode_encode` — what is written is read back
-/

namespace Foundation.Base64

def alphabet : List Char :=
  "ABCDEFGHIJKLMNOPQRSTUVWXYZabcdefghijklmnopqrstuvwxyz0123456789+/".toList

/-- The symbol of six bits. -/
def symbol (bits : ℕ) : Char := alphabet.getD bits 'A'

/-- The six bits of a symbol. -/
def bits? (c : Char) : Option ℕ := alphabet.idxOf? c

theorem bits?_symbol : ∀ bits < 64, bits? (symbol bits) = some bits := by decide +kernel

theorem symbol_ne : ∀ bits < 64, symbol bits ≠ '=' := by decide +kernel

def encodeChars : List UInt8 → List Char
  | a :: b :: c :: rest =>
    symbol (a.toNat / 4) :: symbol (a.toNat % 4 * 16 + b.toNat / 16) ::
      symbol (b.toNat % 16 * 4 + c.toNat / 64) :: symbol (c.toNat % 64) :: encodeChars rest
  | [a, b] =>
    [symbol (a.toNat / 4), symbol (a.toNat % 4 * 16 + b.toNat / 16),
      symbol (b.toNat % 16 * 4), '=']
  | [a] => [symbol (a.toNat / 4), symbol (a.toNat % 4 * 16), '=', '=']
  | [] => []

/-- The bytes of the last four symbols, of which some are padding. -/
def decodeLast (p q : ℕ) (r : Char) : Option (List UInt8) :=
  let first := UInt8.ofNat (p * 4 + q / 16)
  if r = '=' then if q % 16 = 0 then some [first] else none
  else do
    let r ← bits? r
    if r % 4 = 0 then some [first, UInt8.ofNat (q % 16 * 16 + r / 4)] else none

def decodeChars : List Char → Option (List UInt8)
  | p :: q :: r :: s :: rest => do
    let p ← bits? p
    let q ← bits? q
    if s = '=' then if rest = [] then decodeLast p q r else none
    else do
      let r ← bits? r
      let s ← bits? s
      let bytes ← decodeChars rest
      return UInt8.ofNat (p * 4 + q / 16) :: UInt8.ofNat (q % 16 * 16 + r / 4) ::
        UInt8.ofNat (r % 4 * 64 + s) :: bytes
  | [] => some []
  | _ => none

theorem ofNat_eq {byte : UInt8} {n : ℕ} (h : n = byte.toNat) : UInt8.ofNat n = byte := by
  rw [h, UInt8.ofNat_toNat]

theorem decodeChars_encodeChars (bytes : List UInt8) :
    decodeChars (encodeChars bytes) = some bytes := by
  induction bytes using encodeChars.induct with
  -- three bytes in four symbols; what is left of a byte goes to the next symbol
  | case1 a b c rest ih =>
    have ha := a.toNat_lt
    have hb := b.toNat_lt
    have hc := c.toNat_lt
    rw [encodeChars, decodeChars, bits?_symbol _ (by omega), bits?_symbol _ (by omega),
      bits?_symbol _ (by omega), bits?_symbol _ (by omega), ih]
    have hs : symbol (c.toNat % 64) ≠ '=' := symbol_ne _ (by omega)
    have hfirst : UInt8.ofNat (a.toNat / 4 * 4 + (a.toNat % 4 * 16 + b.toNat / 16) / 16) = a :=
      ofNat_eq (by omega)
    have hsecond : UInt8.ofNat ((a.toNat % 4 * 16 + b.toNat / 16) % 16 * 16 +
        (b.toNat % 16 * 4 + c.toNat / 64) / 4) = b := ofNat_eq (by omega)
    have hthird : UInt8.ofNat ((b.toNat % 16 * 4 + c.toNat / 64) % 4 * 64 + c.toNat % 64) = c :=
      ofNat_eq (by omega)
    simp only [Option.bind_eq_bind, Option.bind_some, if_neg hs, hfirst, hsecond, hthird]
    rfl
  -- two bytes at the end leave two bits of padding, which have to be zero, and one byte four
  | case2 a b =>
    have ha := a.toNat_lt
    have hb := b.toNat_lt
    have hr : symbol (b.toNat % 16 * 4) ≠ '=' := symbol_ne _ (by omega)
    have hfirst : UInt8.ofNat (a.toNat / 4 * 4 + (a.toNat % 4 * 16 + b.toNat / 16) / 16) = a :=
      ofNat_eq (by omega)
    have hsecond : UInt8.ofNat ((a.toNat % 4 * 16 + b.toNat / 16) % 16 * 16 +
        b.toNat % 16 * 4 / 4) = b := ofNat_eq (by omega)
    have hpadding : b.toNat % 16 * 4 % 4 = 0 := by omega
    rw [encodeChars, decodeChars, bits?_symbol _ (by omega), bits?_symbol _ (by omega)]
    simp only [Option.bind_eq_bind, Option.bind_some, if_true, decodeLast, if_neg hr,
      bits?_symbol (b.toNat % 16 * 4) (by omega), if_pos hpadding, hfirst, hsecond]
  | case3 a =>
    have ha := a.toNat_lt
    have hfirst : UInt8.ofNat (a.toNat / 4 * 4 + a.toNat % 4 * 16 / 16) = a :=
      ofNat_eq (by omega)
    have hpadding : a.toNat % 4 * 16 % 16 = 0 := by omega
    rw [encodeChars, decodeChars, bits?_symbol _ (by omega), bits?_symbol _ (by omega)]
    simp only [Option.bind_eq_bind, Option.bind_some, if_true, decodeLast, if_pos hpadding,
      hfirst]
  | case4 => rfl

def encode (bytes : List UInt8) : String := String.ofList (encodeChars bytes)

def decode (text : String) : Option (List UInt8) := decodeChars text.toList

/-- What is written is read back. -/
theorem decode_encode (bytes : List UInt8) : decode (encode bytes) = some bytes := by
  rw [decode, encode, String.toList_ofList, decodeChars_encodeChars]

end Foundation.Base64
