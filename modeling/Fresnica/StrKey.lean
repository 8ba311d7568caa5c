import Fresnica.Foundation.Codec
import Fresnica.Foundation.Text
import Fresnica.Xdr

/-!
# Text form of keys

Accounts and signers are named by texts: a version byte, the key and a checksum
in base 32. The client prints and parses them through the strkey crate, so the
model takes the two codecs as a parameter, `StrKey`, that knows the crate's
contract: a text is parsed to a key exactly when it is what that key prints as.
`Sep23.strKey` is the standard codec, and shows that the contract can be met.

## Main definitions

* `StrKey` — the codecs, with their contract
* `Sep23.encode`, `Sep23.decode` — versioned base-32 texts with a checksum
* `Sep23.strKey` — the standard codecs

## Main results

* `StrKey.publicKey_injective`, `StrKey.signerKey_injective`
* `Sep23.decode_eq_some_iff` — the standard decoder is canonical
-/

namespace Fresnica

open Foundation

/-- The text codecs of account ids and signer keys. -/
structure StrKey where
  publicKey : Uint256 → String
  publicKeyOf? : String → Option Uint256
  signerKey : SignerKey → String
  signerKeyOf? : String → Option SignerKey
  publicKeyOf?_eq_some_iff : ∀ {text key}, publicKeyOf? text = some key ↔ publicKey key = text
  signerKeyOf?_eq_some_iff : ∀ {text key}, signerKeyOf? text = some key ↔ signerKey key = text
  signerKey_ed25519 : ∀ key, signerKey (.ed25519 key) = publicKey key
  trim_signerKey : ∀ key, Text.trim (signerKey key) = signerKey key

namespace StrKey

variable {strKey : StrKey}

theorem publicKey_injective (strKey : StrKey) : Function.Injective strKey.publicKey := by
  intro key key' h
  have hkey := strKey.publicKeyOf?_eq_some_iff.mpr h
  exact Option.some_inj.mp (hkey.symm.trans (strKey.publicKeyOf?_eq_some_iff.mpr rfl))

theorem signerKey_injective (strKey : StrKey) : Function.Injective strKey.signerKey := by
  intro key key' h
  have hkey := strKey.signerKeyOf?_eq_some_iff.mpr h
  exact Option.some_inj.mp (hkey.symm.trans (strKey.signerKeyOf?_eq_some_iff.mpr rfl))

/-- A text that is a signer key and, trimmed, a public key is the signer key of that
public key. -/
theorem signerKeyOf?_eq_ed25519 {text : String} {signer : SignerKey} {key : Uint256}
    (hsigner : strKey.signerKeyOf? text = some signer)
    (hkey : strKey.publicKeyOf? (Text.trim text) = some key) : signer = .ed25519 key := by
  obtain rfl := strKey.signerKeyOf?_eq_some_iff.mp hsigner
  rw [strKey.trim_signerKey, strKey.publicKeyOf?_eq_some_iff, ← strKey.signerKey_ed25519] at hkey
  exact (strKey.signerKey_injective hkey).symm

end StrKey

namespace Sep23

/-! ### Base 32 -/

def alphabet : List Char := "ABCDEFGHIJKLMNOPQRSTUVWXYZ234567".toList

/-- The symbol of a five-bit group. -/
def symbol (d : ℕ) : Char := alphabet.getD d 'A'

/-- The five-bit group of a symbol. -/
def symbolValue (c : Char) : Option ℕ := alphabet.idxOf? c

theorem symbolValue_symbol : ∀ d < 32, symbolValue (symbol d) = some d := by decide

/-- The number of symbols for `n` bytes. -/
def symbolCount (n : ℕ) : ℕ := (8 * n + 4) / 5

def base32 (bytes : List UInt8) : String :=
  let bits := 5 * symbolCount bytes.length - 8 * bytes.length
  String.ofList ((Positional.digits 32 (symbolCount bytes.length)
    (Positional.value 256 (bytes.map UInt8.toNat) * 2 ^ bits)).map symbol)

/-- The bytes of a base-32 text. Bits left over after the last byte are dropped. -/
def base32Bytes (text : String) : Option (List UInt8) := do
  let ds ← text.toList.mapM symbolValue
  let n := 5 * ds.length / 8
  return (Positional.digits 256 n
    (Positional.value 32 ds / 2 ^ (5 * ds.length - 8 * n))).map UInt8.ofNat

theorem mapM_symbolValue {ds : List ℕ} (h : ∀ d ∈ ds, d < 32) :
    (ds.map symbol).mapM symbolValue = some ds := by
  induction ds with
  | nil => rfl
  | cons d ds ih =>
    have hd := symbolValue_symbol d (h d List.mem_cons_self)
    have hds := ih fun d' hd' => h d' (List.mem_cons_of_mem _ hd')
    simp [List.mapM_cons, hd, hds]

theorem base32Bytes_base32 (bytes : List UInt8) : base32Bytes (base32 bytes) = some bytes := by
  have hbyte : ∀ d ∈ bytes.map UInt8.toNat, d < 256 := by
    intro d hd
    obtain ⟨byte, -, rfl⟩ := List.mem_map.mp hd
    exact byte.toNat_lt
  have hcount : 8 * bytes.length ≤ 5 * symbolCount bytes.length ∧
      5 * symbolCount bytes.length / 8 = bytes.length := by
    unfold symbolCount
    omega
  have hlt := Positional.value_lt hbyte
  rw [List.length_map] at hlt
  -- the shifted number still fits the symbols, so no digit is lost
  have hpow : (32 : ℕ) ^ symbolCount bytes.length =
      256 ^ bytes.length * 2 ^ (5 * symbolCount bytes.length - 8 * bytes.length) := by
    rw [show (32 : ℕ) = 2 ^ 5 from rfl, show (256 : ℕ) = 2 ^ 8 from rfl, ← pow_mul, ← pow_mul,
      ← pow_add, Nat.add_sub_cancel' hcount.1]
  have hmod := Nat.mod_eq_of_lt (hpow ▸ Nat.mul_lt_mul_of_pos_right hlt (by positivity))
  rw [base32Bytes, base32, String.toList_ofList,
    mapM_symbolValue (Positional.digits_lt (by decide))]
  simp only [Option.bind_eq_bind, Option.bind_some, Positional.length_digits,
    Positional.value_digits, hcount.2, hmod]
  rw [Nat.mul_div_cancel _ (by positivity)]
  have hdigits := Positional.digits_value hbyte
  rw [List.length_map] at hdigits
  simp [hdigits, Function.comp_def]

theorem isSpace_symbol (d : ℕ) : Text.isSpace (symbol d) = false := by
  have hall : alphabet.all (fun c => !Text.isSpace c) = true := by decide
  rw [symbol, List.getD_eq_getElem?_getD]
  cases h : alphabet[d]? with
  | none => decide
  | some c => simpa using List.all_eq_true.mp hall c (List.mem_of_getElem? h)

theorem strip_base32 (bytes : List UInt8) : Text.strip (base32 bytes) = base32 bytes := by
  refine Text.trimBy_of_forall_not fun c hc => ?_
  rw [base32, String.toList_ofList] at hc
  obtain ⟨d, -, rfl⟩ := List.mem_map.mp hc
  exact isSpace_symbol d

theorem trim_base32 (bytes : List UInt8) : Text.trim (base32 bytes) = base32 bytes := by
  rw [← strip_base32, Text.trim_strip]

/-! ### Versioned texts with a checksum -/

/-- One bit of the CRC-16/XMODEM division. -/
def crcShift (crc : ℕ) : ℕ := (2 * crc) ^^^ (if 32768 ≤ crc then 0x11021 else 0)

def crc16 (bytes : List UInt8) : ℕ :=
  bytes.foldl (fun crc byte => crcShift^[8] (crc ^^^ (256 * byte.toNat))) 0

/-- The version, the payload and the checksum, low byte first. -/
def frame (version : UInt8) (payload : List UInt8) : List UInt8 :=
  let bytes := version :: payload
  bytes ++ [UInt8.ofNat (crc16 bytes % 256), UInt8.ofNat (crc16 bytes / 256)]

def encode (content : UInt8 × List UInt8) : String := base32 (frame content.1 content.2)

def read (text : String) : Option (UInt8 × List UInt8) := do
  match ← base32Bytes text with
  | [] => none
  | version :: rest => some (version, rest.take (rest.length - 2))

def decode : String → Option (UInt8 × List UInt8) := canonical encode read

theorem decode_eq_some_iff {text : String} {content : UInt8 × List UInt8} :
    decode text = some content ↔ encode content = text := by
  refine canonical_eq_some_iff fun ⟨version, payload⟩ => ?_
  rw [encode, read, base32Bytes_base32]
  simp [frame]

/-! ### Keys -/

/-- Four bytes, the most significant first. -/
def be32 (n : ℕ) : List UInt8 := (Positional.digits 256 4 n).map UInt8.ofNat

/-- The bytes that make a payload's length a multiple of four. -/
def padding (n : ℕ) : List UInt8 := List.replicate ((4 - n % 4) % 4) 0

def signerKeyContent : SignerKey → UInt8 × List UInt8
  | .ed25519 key => (48, key.toList)
  | .preAuthTx hash => (152, hash.toList)
  | .hashX hash => (184, hash.toList)
  | .ed25519SignedPayload key payload =>
    (120, key.toList ++ (be32 payload.val.length ++ (payload.val ++
      padding payload.val.length)))

def uint256Of? (bytes : List UInt8) : Option Uint256 :=
  if h : bytes.length = 32 then some ⟨bytes.toArray, by simpa using h⟩ else none

theorem uint256Of?_toList (key : Uint256) : uint256Of? key.toList = some key := by
  simp [uint256Of?, Vector.toList]

def signerKeyOfContent : UInt8 × List UInt8 → Option SignerKey
  | (48, bytes) => (uint256Of? bytes).map .ed25519
  | (152, bytes) => (uint256Of? bytes).map .preAuthTx
  | (184, bytes) => (uint256Of? bytes).map .hashX
  | (120, bytes) => do
    let key ← uint256Of? (bytes.take 32)
    let length := Positional.value 256 (((bytes.drop 32).take 4).map UInt8.toNat)
    let payload := (bytes.drop 36).take length
    if h : payload.length ≤ 64 then some (.ed25519SignedPayload key ⟨payload, h⟩) else none
  | _ => none

theorem map_toNat_be32 (n : ℕ) :
    (be32 n).map UInt8.toNat = Positional.digits 256 4 n := by
  rw [be32, List.map_map, List.map_congr_left, List.map_id]
  intro d hd
  exact UInt8.toNat_ofNat_of_lt' (Positional.digits_lt (by decide) d hd)

theorem signerKeyOfContent_signerKeyContent (key : SignerKey) :
    signerKeyOfContent (signerKeyContent key) = some key := by
  cases key with
  | ed25519 key => simp [signerKeyContent, signerKeyOfContent, uint256Of?_toList]
  | preAuthTx hash => simp [signerKeyContent, signerKeyOfContent, uint256Of?_toList]
  | hashX hash => simp [signerKeyContent, signerKeyOfContent, uint256Of?_toList]
  | ed25519SignedPayload key payload =>
    obtain ⟨bytes, hlen⟩ := payload
    have hbe : (be32 bytes.length).length = 4 := by simp [be32]
    have hvalue : Positional.value 256 ((be32 bytes.length).map UInt8.toNat) = bytes.length := by
      rw [map_toNat_be32, Positional.value_digits, Nat.mod_eq_of_lt (by omega)]
    have hfour : (be32 bytes.length ++ (bytes ++ padding bytes.length)).take 4 =
        be32 bytes.length := by
      rw [← hbe, List.take_left]
    have hpayload : (key.toList ++ (be32 bytes.length ++ (bytes ++
        padding bytes.length))).drop 36 = bytes ++ padding bytes.length := by
      rw [show 36 = key.toList.length + (be32 bytes.length).length by simp [hbe],
        List.drop_length_add_append, List.drop_left]
    simp [signerKeyContent, signerKeyOfContent, hpayload, hfour, hvalue, uint256Of?_toList, hlen]

def publicKeyOf? (text : String) : Option Uint256 := do
  match ← decode text with
  | (48, bytes) => uint256Of? bytes
  | _ => none

/-- The standard codecs. -/
def strKey : StrKey where
  publicKey key := encode (48, key.toList)
  publicKeyOf? := canonical (fun key => encode (48, key.toList)) publicKeyOf?
  signerKey key := encode (signerKeyContent key)
  signerKeyOf? := canonical (fun key => encode (signerKeyContent key)) fun text =>
    (decode text).bind signerKeyOfContent
  publicKeyOf?_eq_some_iff {text key} := canonical_eq_some_iff fun key => by
    simp [publicKeyOf?, decode_eq_some_iff.mpr rfl, uint256Of?_toList]
  signerKeyOf?_eq_some_iff {text key} := canonical_eq_some_iff fun key => by
    rw [decode_eq_some_iff.mpr rfl, Option.bind_some, signerKeyOfContent_signerKeyContent]
  signerKey_ed25519 key := rfl
  trim_signerKey key := trim_base32 _

example : strKey.publicKey (Vector.replicate 32 0) =
    "GAAAAAAAAAAAAAAAAAAAAAAAAAAAAAAAAAAAAAAAAAAAAAAAAAAAAWHF" := by decide +kernel

end Sep23

end Fresnica
