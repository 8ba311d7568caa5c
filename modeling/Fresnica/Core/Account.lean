import Fresnica.StrKey
import Fresnica.Core.Sdk

/-!
# Account identities

An account is named by a text: a classic account by its public key, a contract by its
identifier, and a muxed account by a public key with a number. The strkey and XDR crates
read and print these texts, and `AccountCodec` is what is known of them.

## Main definitions

* `AccountCodec` — the texts of accounts, with their contract
* `AccountIdentity.parse`, `parseAccount` — the identity that a text names
* `Sep23.accountCodec` — the standard texts

## Main results

* `parseAccount_eq_classic` — the texts of classic accounts
-/

namespace Fresnica

open Foundation

/-- What a versioned text stands for. -/
inductive Strkey
  | publicKeyEd25519 (key : Uint256)
  | contract (id : Uint256)
  | other
  deriving DecidableEq

/-- The texts of accounts: a versioned text is read as a public key exactly when it is the
text of that key, and the texts of muxed accounts are read back. -/
structure AccountCodec extends StrKey where
  fromString : String → Option Strkey
  muxedEd25519 : U64 → Uint256 → String
  muxedAccountOf? : String → Option MuxedAccount
  fromString_eq_publicKey_iff :
    ∀ {text key}, fromString text = some (.publicKeyEd25519 key) ↔ publicKey key = text
  muxedAccountOf?_publicKey : ∀ key, muxedAccountOf? (publicKey key) = some (.ed25519 key)
  muxedAccountOf?_muxedEd25519 :
    ∀ id key, muxedAccountOf? (muxedEd25519 id key) = some (.muxedEd25519 id key)
  trim_muxedEd25519 : ∀ id key, Text.trim (muxedEd25519 id key) = muxedEd25519 id key

namespace AccountCodec

/-- The text of a muxed account, which is a public key alone where it has no number. -/
def muxedAccount (codec : AccountCodec) : MuxedAccount → String
  | .ed25519 key => codec.publicKey key
  | .muxedEd25519 id key => codec.muxedEd25519 id key

variable {codec : AccountCodec}

theorem muxedAccountOf?_muxedAccount (account : MuxedAccount) :
    codec.muxedAccountOf? (codec.muxedAccount account) = some account := by
  cases account with
  | ed25519 key => exact codec.muxedAccountOf?_publicKey key
  | muxedEd25519 id key => exact codec.muxedAccountOf?_muxedEd25519 id key

theorem trim_publicKey (key : Uint256) :
    Text.trim (codec.publicKey key) = codec.publicKey key := by
  rw [← codec.signerKey_ed25519]
  exact codec.trim_signerKey _

end AccountCodec

inductive AccountKind
  | classic
  | contract
  deriving DecidableEq, Repr

structure AccountIdentity where
  kind : AccountKind
  address : String
  publicKey : Option String
  deriving DecidableEq, Repr

inductive AccountError
  | invalidAddress
  | unsupportedAddressKind
  deriving DecidableEq, Repr

def AccountError.text : AccountError → String
  | .invalidAddress => "invalid Stellar address"
  | .unsupportedAddressKind => "unsupported Stellar address kind"

section Parse

variable (codec : AccountCodec)

def AccountIdentity.parse (address : String) : Except AccountError AccountIdentity :=
  let address := Text.trim address
  match codec.fromString address with
  | none => .error .invalidAddress
  | some (.publicKeyEd25519 _) => .ok ⟨.classic, address, some address⟩
  | some (.contract _) => .ok ⟨.contract, address, none⟩
  | some .other => .error .unsupportedAddressKind

def parseAccount (address : String) : Except SdkError AccountIdentity :=
  mapErr (fun error => SdkError.invalidInput error.text) (AccountIdentity.parse codec address)

end Parse

variable {codec : AccountCodec} {address : String}

/-- A text is the address of a classic account exactly when it is the text of a key. -/
theorem parseAccount_eq_classic :
    (∃ identity, parseAccount codec address = .ok identity ∧ identity.kind = .classic ∧
      identity.address = address) ↔ ∃ key, codec.publicKey key = address := by
  rw [parseAccount, AccountIdentity.parse]
  constructor
  -- only the text of a public key is read as a classic account
  · rintro ⟨identity, hparse, hkind, haddress⟩
    cases hread : codec.fromString (Text.trim address) with
    | none => simp [hread, mapErr] at hparse
    | some strkey =>
      cases strkey with
      | publicKeyEd25519 key =>
        simp only [hread, mapErr, Except.ok.injEq] at hparse
        subst hparse
        rw [show Text.trim address = address from haddress] at hread
        exact ⟨key, codec.fromString_eq_publicKey_iff.mp hread⟩
      | contract id =>
        simp only [hread, mapErr, Except.ok.injEq] at hparse
        subst hparse
        simp at hkind
      | other => simp [hread, mapErr] at hparse
  · rintro ⟨key, rfl⟩
    rw [AccountCodec.trim_publicKey, codec.fromString_eq_publicKey_iff.mpr rfl]
    exact ⟨_, rfl, rfl, rfl⟩

namespace Sep23

/-! ### The standard texts -/

/-- Eight bytes, the most significant first. -/
def be64 (n : ℕ) : List UInt8 := (Positional.digits 256 8 n).map UInt8.ofNat

/-- The number of eight bytes. -/
def be64Value (bytes : List UInt8) : Option U64 :=
  BoundedInt.ofInt? (Positional.value 256 (bytes.map UInt8.toNat) : ℕ)

theorem be64Value_be64 (id : U64) : be64Value (be64 id.val.toNat) = some id := by
  have hlo := id.lo_le
  have hhi := id.le_hi
  have hbytes : (be64 id.val.toNat).map UInt8.toNat = Positional.digits 256 8 id.val.toNat := by
    rw [be64, List.map_map, List.map_congr_left, List.map_id]
    intro d hd
    exact UInt8.toNat_ofNat_of_lt' (Positional.digits_lt (by decide) d hd)
  have hlt : id.val.toNat < 256 ^ 8 := by
    norm_num
    omega
  rw [be64Value, hbytes, Positional.value_digits, Nat.mod_eq_of_lt hlt,
    BoundedInt.ofInt?_eq_some_iff]
  omega

/-- The key, and then the number. -/
def muxedContent (id : U64) (key : Uint256) : UInt8 × List UInt8 :=
  (96, key.toList ++ be64 id.val.toNat)

def muxedOfContent : UInt8 × List UInt8 → Option MuxedAccount
  | (48, bytes) => (uint256Of? bytes).map .ed25519
  | (96, bytes) => do
    let key ← uint256Of? (bytes.take 32)
    let id ← be64Value (bytes.drop 32)
    return .muxedEd25519 id key
  | _ => none

/-- The kind of a versioned text. -/
def strkeyOfContent : UInt8 × List UInt8 → Option Strkey
  | (48, bytes) => (uint256Of? bytes).map .publicKeyEd25519
  | (16, bytes) => (uint256Of? bytes).map .contract
  | _ => some .other

theorem strkeyOfContent_eq_publicKey {content : UInt8 × List UInt8} {key : Uint256} :
    strkeyOfContent content = some (.publicKeyEd25519 key) ↔ content = (48, key.toList) := by
  constructor
  · intro h
    unfold strkeyOfContent at h
    split at h
    · rename_i bytes
      simp only [Option.map_eq_some_iff, Strkey.publicKeyEd25519.injEq, exists_eq_right] at h
      unfold uint256Of? at h
      split_ifs at h
      obtain rfl := Option.some.inj h
      simp [Vector.toList]
    · simp at h
    · simp at h
  · rintro rfl
    simp [strkeyOfContent, uint256Of?_toList]

/-- The standard texts of accounts. -/
def accountCodec : AccountCodec where
  toStrKey := strKey
  fromString text := (decode text).bind strkeyOfContent
  muxedEd25519 id key := encode (muxedContent id key)
  muxedAccountOf? text := (decode text).bind muxedOfContent
  fromString_eq_publicKey_iff {text key} := by
    rw [Option.bind_eq_some_iff]
    constructor
    · rintro ⟨content, hdecode, hcontent⟩
      rw [strkeyOfContent_eq_publicKey.mp hcontent, decode_eq_some_iff] at hdecode
      exact hdecode
    · intro h
      exact ⟨_, decode_eq_some_iff.mpr h, strkeyOfContent_eq_publicKey.mpr rfl⟩
  muxedAccountOf?_publicKey key := by
    show (decode (encode (48, key.toList))).bind muxedOfContent = _
    rw [decode_eq_some_iff.mpr rfl]
    simp [muxedOfContent, uint256Of?_toList]
  muxedAccountOf?_muxedEd25519 id key := by
    have hkey : key.toList.length = 32 := by simp
    rw [decode_eq_some_iff.mpr rfl, Option.bind_some, muxedContent, muxedOfContent,
      List.take_left' hkey, List.drop_left' hkey, uint256Of?_toList, be64Value_be64]
    rfl
  trim_muxedEd25519 id key := trim_base32 _

example : accountCodec.muxedAccountOf?
    "MA7QYNF7SOWQ3GLR2BGMZEHXAVIRZA4KVWLTJJFC7MGXUA74P7UJUAAAAAAAAAABUTGI4" ≠ none := by
  decide +kernel

end Sep23

end Fresnica
