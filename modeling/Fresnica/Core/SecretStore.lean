import Mathlib.Data.Set.Defs
import Fresnica.Foundation.Json
import Fresnica.Foundation.Outcome
import Fresnica.Xdr

/-!
# Encrypted secrets

A secret is a JSON value that is encrypted under a key, which is derived from a password.
The envelope says how: envelopes of the first version use scrypt, and those of the second
one, which are the only ones that are made, argon2id. The envelope itself is a JSON value
of any shape, and is read before it is used.

The cipher, the two derivations and the texts of bytes and values are those of other crates
and enter as parameters. A ciphertext is opened only under the key, the nonce and the
associated data that it was sealed under.

## Main definitions

* `SecretCrates` — what the secret store uses of other crates
* `PasswordSecretEnvelope` — envelopes, and how they are read and written
* `SecretStore.encryptSecret`, `deriveUnlockKey`, `decryptSecretWithUnlockKey`,
  `decryptSecret` — the operations
* `CollisionFree` — passwords with keys of their own

## Main results

* `passwordSecretEnvelopeOf?_toValue` — an envelope that is written is read back
* `SecretStore.decryptSecret_eq` — a password opens what its key opens
* `SecretStore.decryptSecret_of_encryptSecret` — the password of a secret opens it
* `SecretStore.decryptSecret_other` — no other password does
-/

namespace Fresnica

open Foundation

inductive SecretStoreError
  | emptyPassword
  | invalidPassword
  | invalidUnlockKey
  | unsupportedEncryptionFormat
  | unsupportedKdfFormat
  | unsupportedKdfParameters
  | corrupted
  | authenticationFailed
  | randomUnavailable
  | cryptoFailure
  deriving DecidableEq, Repr

def SecretStoreError.text : SecretStoreError → String
  | .emptyPassword => "wallet password cannot be empty"
  | .invalidPassword => "invalid wallet password"
  | .invalidUnlockKey => "invalid wallet unlock key"
  | .unsupportedEncryptionFormat => "unsupported wallet encryption format"
  | .unsupportedKdfFormat => "unsupported wallet key derivation format"
  | .unsupportedKdfParameters => "unsupported wallet KDF parameters"
  | .corrupted => "wallet secret data is corrupted"
  | .authenticationFailed => "protected wallet secret failed authentication"
  | .randomUnavailable => "secure randomness is unavailable"
  | .cryptoFailure => "wallet secret cryptography failed"

/-- An object of texts and counters, with the members in the order of their names. -/
def IsFlat (value : Json) : Prop :=
  ∃ members, value = .object members ∧ (members.map Prod.fst).Pairwise (· < ·) ∧
    ∀ member ∈ members, (∃ text, member.2 = .string text) ∨
      ∃ count, member.2 = .number (.posInt count)

abbrev Salt := Vector UInt8 16

abbrev Nonce := Vector UInt8 12

/-- What the secret store uses of other crates: the two derivations with the parameters of
the wallet, the cipher, and the texts of bytes and of values. -/
structure SecretCrates where
  scrypt : (password : String) → Salt → Option Uint256
  argon2id : (password : String) → Salt → Option Uint256
  encrypt : (key : Uint256) → Nonce → (aad msg : List UInt8) → Option (List UInt8)
  decrypt : (key : Uint256) → Nonce → (aad ciphertext : List UInt8) → Option (List UInt8)
  encode : List UInt8 → String
  decode : String → Option (List UInt8)
  toVec : Json → Option (List UInt8)
  fromSlice : List UInt8 → Option Json
  decode_encode : ∀ bytes, decode (encode bytes) = some bytes
  decrypt_encrypt : ∀ {key nonce aad msg ciphertext},
    encrypt key nonce aad msg = some ciphertext → decrypt key nonce aad ciphertext = some msg
  decrypt_unique : ∀ {key nonce aad msg ciphertext key' nonce' aad' msg'},
    encrypt key nonce aad msg = some ciphertext →
    decrypt key' nonce' aad' ciphertext = some msg' → key' = key ∧ nonce' = nonce ∧ aad' = aad
  fromSlice_toVec : ∀ {payload bytes}, IsFlat payload → toVec payload = some bytes →
    fromSlice bytes = some payload

/-- Each of the passwords has a key, and no two of them have one key. -/
def CollisionFree (c : SecretCrates) (passwords : Set String) : Prop :=
  ∀ salt, ∀ password ∈ passwords, ∃ key, c.argon2id password salt = some key ∧
    ∀ other ∈ passwords, c.argon2id other salt = some key → other = password

/-! ### Envelopes -/

structure ScryptEnvelope where
  name : String
  n : U64
  r : U32
  p : U32
  salt : String
  deriving DecidableEq, Repr

structure Argon2idEnvelope where
  name : String
  memoryKib : U32
  iterations : U32
  parallelism : U32
  salt : String
  deriving DecidableEq, Repr

inductive PasswordKdfEnvelope
  | scrypt (kdf : ScryptEnvelope)
  | argon2id (kdf : Argon2idEnvelope)
  deriving DecidableEq, Repr

structure PasswordSecretEnvelope where
  version : U8
  cipher : String
  kdf : PasswordKdfEnvelope
  nonce : String
  ciphertext : String
  deriving DecidableEq, Repr

/-- The fields of a record, which is an object with these members and perhaps others, or an
array of just these items. -/
def structFields? (names : List String) : Json → Option (List Json)
  | .object members => names.mapM fun name => members.lookup name
  | .array items => if items.length = names.length then some items else none
  | _ => none

/-- A counter of some width. -/
def countOf? {hi : ℤ} (value : Json) : Option (BoundedInt 0 hi) := value.asU64?.bind (·.tryFrom)

def scryptEnvelopeOf? (value : Json) : Option ScryptEnvelope :=
  match structFields? ["name", "n", "r", "p", "salt"] value with
  | some [name, n, r, p, salt] => do
    return ⟨← name.asStr?, ← countOf? n, ← countOf? r, ← countOf? p, ← salt.asStr?⟩
  | _ => none

def argon2idEnvelopeOf? (value : Json) : Option Argon2idEnvelope :=
  match structFields? ["name", "memory_kib", "iterations", "parallelism", "salt"] value with
  | some [name, memoryKib, iterations, parallelism, salt] => do
    return ⟨← name.asStr?, ← countOf? memoryKib, ← countOf? iterations, ← countOf? parallelism,
      ← salt.asStr?⟩
  | _ => none

/-- The first kind that the value can be read as. -/
def passwordKdfEnvelopeOf? (value : Json) : Option PasswordKdfEnvelope :=
  ((scryptEnvelopeOf? value).map .scrypt).or ((argon2idEnvelopeOf? value).map .argon2id)

def passwordSecretEnvelopeOf? (value : Json) : Option PasswordSecretEnvelope :=
  match structFields? ["version", "cipher", "kdf", "nonce", "ciphertext"] value with
  | some [version, cipher, kdf, nonce, ciphertext] => do
    return ⟨← countOf? version, ← cipher.asStr?, ← passwordKdfEnvelopeOf? kdf,
      ← nonce.asStr?, ← ciphertext.asStr?⟩
  | _ => none

/-- A counter as a value. -/
def countValue {hi : ℤ} (count : BoundedInt 0 hi) : Json := .number (.posInt (.lit count.val))

def PasswordKdfEnvelope.toValue : PasswordKdfEnvelope → Json
  | .scrypt kdf => .object [("n", countValue kdf.n), ("name", .string kdf.name),
      ("p", countValue kdf.p), ("r", countValue kdf.r), ("salt", .string kdf.salt)]
  | .argon2id kdf => .object [("iterations", countValue kdf.iterations),
      ("memory_kib", countValue kdf.memoryKib), ("name", .string kdf.name),
      ("parallelism", countValue kdf.parallelism), ("salt", .string kdf.salt)]

def PasswordSecretEnvelope.toValue (envelope : PasswordSecretEnvelope) : Json :=
  .object [("cipher", .string envelope.cipher), ("ciphertext", .string envelope.ciphertext),
    ("kdf", envelope.kdf.toValue), ("nonce", .string envelope.nonce),
    ("version", countValue envelope.version)]

theorem countOf?_countValue {hi : ℤ} (count : BoundedInt 0 hi)
    (hhi : hi ≤ 18446744073709551615) :
    countOf? (countValue count) = some count := by
  have hval : (.lit count.val : U64).val = count.val :=
    BoundedInt.val_lit count.lo_le (count.le_hi.trans hhi)
  rw [countOf?, countValue, Json.asU64?, Option.bind_some, BoundedInt.tryFrom,
    BoundedInt.ofInt?_eq_some_iff, hval]

/-- A record of scrypt has no memory, and one of argon2id has no cost. -/
theorem passwordKdfEnvelopeOf?_toValue (kdf : PasswordKdfEnvelope) :
    passwordKdfEnvelopeOf? kdf.toValue = some kdf := by
  cases kdf with
  | scrypt kdf =>
    have hn := countOf?_countValue kdf.n (le_refl _)
    have hr := countOf?_countValue kdf.r (by decide)
    have hp := countOf?_countValue kdf.p (by decide)
    simp [passwordKdfEnvelopeOf?, scryptEnvelopeOf?, structFields?, PasswordKdfEnvelope.toValue,
      List.lookup_cons, Json.asStr?, hn, hr, hp]
  | argon2id kdf =>
    have hmemory := countOf?_countValue kdf.memoryKib (by decide)
    have hiterations := countOf?_countValue kdf.iterations (by decide)
    have hparallelism := countOf?_countValue kdf.parallelism (by decide)
    simp [passwordKdfEnvelopeOf?, scryptEnvelopeOf?, argon2idEnvelopeOf?, structFields?,
      PasswordKdfEnvelope.toValue, List.lookup_cons, Json.asStr?, hmemory, hiterations,
      hparallelism]

/-- An envelope that is written is read back. -/
theorem passwordSecretEnvelopeOf?_toValue (envelope : PasswordSecretEnvelope) :
    passwordSecretEnvelopeOf? envelope.toValue = some envelope := by
  have hversion := countOf?_countValue envelope.version (by decide)
  have hkdf := passwordKdfEnvelopeOf?_toValue envelope.kdf
  simp [passwordSecretEnvelopeOf?, structFields?, PasswordSecretEnvelope.toValue, List.lookup_cons,
    Json.asStr?, hversion, hkdf]

namespace SecretStore

/-! ### Operations -/

section Operations

variable (c : SecretCrates)

def aadV1 : List UInt8 := "fresnica-wallet-secret-v1".toUTF8.toList

def aadV2 : List UInt8 := "fresnica-wallet-secret-v2".toUTF8.toList

def scryptN : U64 := .lit 32768

def scryptR : U32 := .lit 8

def scryptP : U32 := .lit 1

def argon2MemoryKib : U32 := .lit 65536

def argon2Iterations : U32 := .lit 3

def argon2Parallelism : U32 := .lit 1

def validatePasswordEnvelope (envelope : PasswordSecretEnvelope) :
    Except SecretStoreError Unit := do
  ensure (envelope.cipher = "aes-256-gcm") .unsupportedEncryptionFormat
  -- each version goes with one key derivation
  match envelope.kdf with
  | .scrypt kdf =>
    if envelope.version = .lit 1 then do
      ensure (kdf.name = "scrypt") .unsupportedKdfFormat
      ensure ((kdf.n, kdf.r, kdf.p) = (scryptN, scryptR, scryptP)) .unsupportedKdfParameters
    else if envelope.version = .lit 2 then .error .unsupportedKdfFormat
    else .error .unsupportedEncryptionFormat
  | .argon2id kdf =>
    if envelope.version = .lit 2 then do
      ensure (kdf.name = "argon2id") .unsupportedKdfFormat
      ensure ((kdf.memoryKib, kdf.iterations, kdf.parallelism) =
        (argon2MemoryKib, argon2Iterations, argon2Parallelism)) .unsupportedKdfParameters
    else if envelope.version = .lit 1 then .error .unsupportedKdfFormat
    else .error .unsupportedEncryptionFormat

def passwordAad (version : U8) : Except SecretStoreError (List UInt8) :=
  if version = .lit 1 then .ok aadV1
  else if version = .lit 2 then .ok aadV2
  else .error .unsupportedEncryptionFormat

def decodeBase64 (value : String) : Except SecretStoreError (List UInt8) :=
  okOr (c.decode value) .corrupted

def decodeArray (n : ℕ) (value : String) : Except SecretStoreError (Vector UInt8 n) := do
  let bytes ← decodeBase64 c value
  if h : bytes.length = n then return ⟨bytes.toArray, by simpa using h⟩
  else throw .corrupted

def encodePayload (payload : Json) : Except SecretStoreError (List UInt8) :=
  okOr (c.toVec payload) .corrupted

def decodePayload (plaintext : List UInt8) : Except SecretStoreError Json :=
  okOr (c.fromSlice plaintext) .corrupted

/-- The random bytes of an encryption, if there are any. -/
structure Randomness where
  salt : Option Salt
  nonce : Option Nonce

/-- The envelope of a ciphertext. -/
def sealedEnvelope (salt : Salt) (nonce : Nonce) (ciphertext : List UInt8) :
    PasswordSecretEnvelope where
  version := .lit 2
  cipher := "aes-256-gcm"
  kdf := .argon2id ⟨"argon2id", argon2MemoryKib, argon2Iterations, argon2Parallelism,
    c.encode salt.toList⟩
  nonce := c.encode nonce.toList
  ciphertext := c.encode ciphertext

def encryptSecretV2WithMaterial (payload : Json) (password : String) (salt : Salt)
    (nonce : Nonce) : Except SecretStoreError PasswordSecretEnvelope := do
  ensure (¬ password.isEmpty) .emptyPassword
  let key ← okOr (c.argon2id password salt) .cryptoFailure
  let plaintext ← encodePayload c payload
  let ciphertext ← okOr (c.encrypt key nonce aadV2 plaintext) .cryptoFailure
  return sealedEnvelope c salt nonce ciphertext

def encryptSecret (random : Randomness) (payload : Json) (password : String) :
    Except SecretStoreError PasswordSecretEnvelope := do
  ensure (¬ password.isEmpty) .emptyPassword
  let salt ← okOr random.salt .randomUnavailable
  let nonce ← okOr random.nonce .randomUnavailable
  encryptSecretV2WithMaterial c payload password salt nonce

def deriveUnlockKey (envelope : PasswordSecretEnvelope) (password : String) :
    Except SecretStoreError Uint256 := do
  validatePasswordEnvelope envelope
  ensure (¬ password.isEmpty) .emptyPassword
  match envelope.kdf with
  | .scrypt kdf =>
    let salt ← decodeArray c 16 kdf.salt
    okOr (c.scrypt password salt) .cryptoFailure
  | .argon2id kdf =>
    let salt ← decodeArray c 16 kdf.salt
    okOr (c.argon2id password salt) .cryptoFailure

/-- A text that a key does not open shows that the key is wrong. -/
def unlockKeyError : SecretStoreError → SecretStoreError
  | .authenticationFailed => .invalidUnlockKey
  | other => other

def decryptSecretWithUnlockKey (envelope : PasswordSecretEnvelope) (unlockKey : Uint256) :
    Except SecretStoreError Json := do
  validatePasswordEnvelope envelope
  let nonce ← decodeArray c 12 envelope.nonce
  let ciphertext ← decodeBase64 c envelope.ciphertext
  let aad ← passwordAad envelope.version
  let plaintext ← mapErr unlockKeyError
    (okOr (c.decrypt unlockKey nonce aad ciphertext) .authenticationFailed)
  decodePayload c plaintext

/-- A key that a password does not fit is a wrong password. -/
def passwordError : SecretStoreError → SecretStoreError
  | .invalidUnlockKey => .invalidPassword
  | other => other

def decryptSecret (envelope : PasswordSecretEnvelope) (password : String) :
    Except SecretStoreError Json := do
  validatePasswordEnvelope envelope
  ensure (¬ password.isEmpty) .emptyPassword
  let key ← deriveUnlockKey c envelope password
  mapErr passwordError (decryptSecretWithUnlockKey c envelope key)

end Operations

variable {c : SecretCrates} {envelope : PasswordSecretEnvelope} {payload : Json}
  {password other : String} {passwords : Set String} {random : Randomness} {key : Uint256}

/-- A password opens what its key opens. -/
theorem decryptSecret_eq : decryptSecret c envelope password = (do
    let key ← deriveUnlockKey c envelope password
    mapErr passwordError (decryptSecretWithUnlockKey c envelope key)) := by
  rw [decryptSecret, deriveUnlockKey]
  cases validatePasswordEnvelope envelope with
  | error e => rfl
  | ok u =>
    rw [ok_bind, ok_bind]
    unfold ensure
    split_ifs <;> rfl

/-! ### What is encrypted -/

theorem decodeArray_encode {n : ℕ} (bytes : Vector UInt8 n) :
    decodeArray c n (c.encode bytes.toList) = .ok bytes := by
  rw [decodeArray, decodeBase64, c.decode_encode]
  exact dif_pos (by simp)

theorem validate_sealedEnvelope {salt : Salt} {nonce : Nonce} {ciphertext : List UInt8} :
    validatePasswordEnvelope (sealedEnvelope c salt nonce ciphertext) = .ok () := by
  rfl

theorem deriveUnlockKey_sealedEnvelope {salt : Salt} {nonce : Nonce} {ciphertext : List UInt8} :
    deriveUnlockKey c (sealedEnvelope c salt nonce ciphertext) password =
      if password.isEmpty then .error .emptyPassword
      else okOr (c.argon2id password salt) .cryptoFailure := by
  rw [deriveUnlockKey, validate_sealedEnvelope, ok_bind]
  unfold ensure
  by_cases hempty : password.isEmpty = true
  · rw [if_neg (not_not.mpr hempty), if_pos hempty, error_bind]
  · rw [if_pos hempty, if_neg hempty, ok_bind]
    change (decodeArray c 16 (c.encode salt.toList) >>= _) = _
    rw [decodeArray_encode, ok_bind]

theorem decryptSecretWithUnlockKey_sealedEnvelope {salt : Salt} {nonce : Nonce}
    {ciphertext : List UInt8} :
    decryptSecretWithUnlockKey c (sealedEnvelope c salt nonce ciphertext) key = (do
      let plaintext ← mapErr unlockKeyError
        (okOr (c.decrypt key nonce aadV2 ciphertext) .authenticationFailed)
      decodePayload c plaintext) := by
  rw [decryptSecretWithUnlockKey, validate_sealedEnvelope, ok_bind]
  change (decodeArray c 12 (c.encode nonce.toList) >>= _) = _
  rw [decodeArray_encode, ok_bind]
  change (okOr (c.decode (c.encode ciphertext)) _ >>= _) = _
  rw [c.decode_encode]
  rfl

/-- What an encryption has made. -/
theorem encryptSecret_eq_ok (h : encryptSecret c random payload password = .ok envelope) :
    ∃ salt nonce key plaintext ciphertext, password.isEmpty = false ∧
      c.argon2id password salt = some key ∧ c.toVec payload = some plaintext ∧
      c.encrypt key nonce aadV2 plaintext = some ciphertext ∧
      envelope = sealedEnvelope c salt nonce ciphertext := by
  rw [encryptSecret, ensure_bind_eq_ok] at h
  obtain ⟨hpassword, h⟩ := h
  obtain ⟨salt, -, h⟩ := bind_eq_ok.mp h
  obtain ⟨nonce, -, h⟩ := bind_eq_ok.mp h
  obtain ⟨-, h⟩ := ensure_bind_eq_ok.mp h
  obtain ⟨key, hkey, h⟩ := bind_eq_ok.mp h
  obtain ⟨plaintext, hplaintext, h⟩ := bind_eq_ok.mp h
  obtain ⟨ciphertext, hciphertext, h⟩ := bind_eq_ok.mp h
  exact ⟨salt, nonce, key, plaintext, ciphertext, Bool.eq_false_iff.mpr hpassword,
    okOr_eq_ok.mp hkey, okOr_eq_ok.mp hplaintext, okOr_eq_ok.mp hciphertext,
    (Except.ok.inj h).symm⟩

/-- The password of a secret opens it. -/
theorem decryptSecret_of_encryptSecret (hflat : IsFlat payload)
    (h : encryptSecret c random payload password = .ok envelope) :
    decryptSecret c envelope password = .ok payload := by
  obtain ⟨salt, nonce, key, plaintext, ciphertext, hpassword, hkey, hplaintext, hciphertext, rfl⟩ :=
    encryptSecret_eq_ok h
  rw [decryptSecret_eq, deriveUnlockKey_sealedEnvelope, hpassword, hkey]
  simp only [okOr, ok_bind, decryptSecretWithUnlockKey_sealedEnvelope,
    c.decrypt_encrypt hciphertext, mapErr, decodePayload, c.fromSlice_toVec hflat hplaintext,
    Bool.false_eq_true, if_false]

/-- No other password opens it. -/
theorem decryptSecret_other (hfree : CollisionFree c passwords) (hpassword : password ∈ passwords)
    (hother : other ∈ passwords) (hne : other ≠ password)
    (h : encryptSecret c random payload password = .ok envelope) :
    decryptSecret c envelope other = .error .emptyPassword ∨
      decryptSecret c envelope other = .error .invalidPassword := by
  obtain ⟨salt, nonce, key, plaintext, ciphertext, -, hkey, -, hciphertext, rfl⟩ :=
    encryptSecret_eq_ok h
  rw [decryptSecret_eq, deriveUnlockKey_sealedEnvelope]
  by_cases hempty : other.isEmpty = true
  · rw [if_pos hempty, error_bind]
    exact .inl rfl
  · obtain ⟨otherKey, hotherKey, hunique⟩ := hfree salt other hother
    -- another passcode derives another key, with which the text does not open
    have hkeys : otherKey ≠ key := by
      rintro rfl
      exact hne (hunique password hpassword hkey).symm
    have hdecrypt : c.decrypt otherKey nonce aadV2 ciphertext = none := by
      rw [Option.eq_none_iff_forall_ne_some]
      intro msg hmsg
      exact hkeys (c.decrypt_unique hciphertext hmsg).1
    right
    rw [if_neg hempty, hotherKey]
    simp only [okOr, ok_bind, decryptSecretWithUnlockKey_sealedEnvelope, hdecrypt, mapErr,
      unlockKeyError, error_bind, passwordError]

end SecretStore

end Fresnica
