import Fresnica.Core.ProtectedSigner
import Fresnica.Foundation.Base64
import Fresnica.Foundation.Framed
import Fresnica.Foundation.Utf8

/-!
# Protected signers at the client boundary

Clients reveal the material of a protected signer with a passcode, derive and check the key
that a passcode stands for, and protect the material again under another passcode. Each
operation reaches the secret on a way of its own, and its errors become codes at the end.

## Main definitions

* `CoreClientApi.reveal`, `deriveUnlockKey`, `validateUnlockKey`, `reprotect` — the operations
* `CoreClientApi.TellsOneStory` — what a client can rely on

## Main results

* `CoreClientApi.reveal_reprotect`, `reveal_reprotect_other` — what opens a signer that was
  protected again
* `CoreClientApi.tellsOneStory` — the operations agree
-/

namespace Fresnica

open Foundation

namespace CoreClientApi

/-! ### Errors -/

def invalidPasscode : SdkError := ⟨.invalidPasscode, "invalid wallet passcode"⟩

def invalidUnlockKey : SdkError := ⟨.invalidUnlockKey, "invalid wallet unlock key"⟩

def invalidProtectedData : SdkError :=
  ⟨.invalidProtectedData, "protected signer data is corrupted or unsupported"⟩

def classifySecretStoreError : SecretStoreError → SdkError
  | .emptyPassword | .invalidPassword => invalidPasscode
  | .invalidUnlockKey => invalidUnlockKey
  | .unsupportedEncryptionFormat | .unsupportedKdfFormat | .unsupportedKdfParameters
  | .corrupted | .authenticationFailed => invalidProtectedData
  | .randomUnavailable => .core SecretStoreError.randomUnavailable.text
  | .cryptoFailure => .core SecretStoreError.cryptoFailure.text

def classifyProtectionError : ProtectionError → SdkError
  | .secretStore error => classifySecretStoreError error
  | .unsupportedProtectionKind _ | .corruptedMetadata | .unsupportedFormat
  | .unsupportedVersion => invalidProtectedData
  | .providerUnavailable kind => .core (ProtectionError.providerUnavailable kind).text

def classifyProtectedSignerError : ProtectedSignerError → SdkError
  | .protection error => classifyProtectionError error
  | .invalidExpectedPublicKey => .invalidInput "expected_signer_public_key is invalid"
  | .identityMismatch => .identityMismatch
  | .signer _ | .derivation _ | .invalidSigningMaterial | .unsupportedSigningMaterial =>
    invalidProtectedData

def classifyWalletMaterialError : WalletMaterialError → SdkError
  | .signer error => .invalidInput error.message
  | .derivation error => .invalidInput error.text
  | .protection error => classifyProtectionError error

/-! ### Operations -/

structure ClientProtectedSoftwareSigner where
  signerPublicKey : String
  envelope : Json

section Operations

variable (c : WalletCrates) (random : SecretStore.Randomness)

def ensureExpectedSignerPublicKey (actualPublicKey : String) :
    Option String → Except SdkError Unit
  | none => .ok ()
  | some expected => do
    let expected ← mapErr (fun _ => SdkError.invalidInput "expected_signer_public_key is invalid")
      (AccountIdentity.parse c.accounts expected)
    ensure (expected.kind = .classic)
      (.invalidInput "expected_signer_public_key must be a classic G address")
    ensure (expected.publicKey = some actualPublicKey) .identityMismatch

def protectSecret (secret passcode : String) (expectedSignerPublicKey : Option String) :
    Except SdkError ClientProtectedSoftwareSigner := do
  let material ← mapErr classifyWalletMaterialError
    (ProtectedSigner.protectSecretSigningMaterial c random secret passcode)
  ensureExpectedSignerPublicKey c material.publicKey expectedSignerPublicKey
  return ⟨material.publicKey, material.envelope⟩

def protectMnemonic (mnemonic mnemonicPassphrase : String) (index : U64)
    (language : Option String) (passcode : String) (expectedSignerPublicKey : Option String) :
    Except SdkError ClientProtectedSoftwareSigner := do
  let material ← mapErr classifyWalletMaterialError
    (ProtectedSigner.protectMnemonicSigningMaterial c random mnemonic mnemonicPassphrase index
      language passcode)
  ensureExpectedSignerPublicKey c material.publicKey expectedSignerPublicKey
  return ⟨material.publicKey, material.envelope⟩

def reveal (envelope : Json) (passcode expectedSignerPublicKey : String) :
    Except SdkError ExportedSigningMaterial :=
  mapErr classifyProtectedSignerError
    (ProtectedSigner.exportSigningMaterial c envelope passcode expectedSignerPublicKey)

def deriveUnlockKey (envelope : Json) (passcode expectedSignerPublicKey : String) :
    Except SdkError Uint256 :=
  mapErr classifyProtectedSignerError
    (ProtectedSigner.deriveVerifiedUnlockKey c envelope passcode expectedSignerPublicKey)

def validateUnlockKey (envelope : Json) (unlockKey : Uint256) (expectedSignerPublicKey : String) :
    Except SdkError Unit := do
  let _ ← mapErr classifyProtectedSignerError
    (ProtectedSigner.unlockSoftwareSigner c envelope unlockKey expectedSignerPublicKey)

def reprotect (envelope : Json) (currentPasscode newPasscode expectedSignerPublicKey : String) :
    Except SdkError ClientProtectedSoftwareSigner := do
  match ← reveal c envelope currentPasscode expectedSignerPublicKey with
  | .secret secret => protectSecret c random secret newPasscode (some expectedSignerPublicKey)
  | .mnemonic mnemonic mnemonicPassphrase index language =>
    protectMnemonic c random mnemonic mnemonicPassphrase index (some language) newPasscode
      (some expectedSignerPublicKey)

end Operations

variable {c : WalletCrates} {random : SecretStore.Randomness} {envelope migrated : Json}
  {passcode newPasscode other expected : String} {material : ExportedSigningMaterial}
  {signer : ClientProtectedSoftwareSigner} {unlockKey : Uint256} {passcodes : Set String}

/-! ### Passcodes and keys -/

/-- A passcode reveals the material exactly when a key is derived from it. -/
theorem reveal_isOk_iff : (reveal c envelope passcode expected).isOk ↔
    (deriveUnlockKey c envelope passcode expected).isOk := by
  rw [reveal, deriveUnlockKey, ProtectedSigner.exportSigningMaterial_eq,
    ProtectedSigner.deriveVerifiedUnlockKey_eq]
  cases ProtectedSigner.opened c envelope passcode expected <;> exact Iff.rfl

/-- Where neither works, both fail alike. -/
theorem reveal_error_iff {error : SdkError} : reveal c envelope passcode expected = .error error ↔
    deriveUnlockKey c envelope passcode expected = .error error := by
  rw [reveal, deriveUnlockKey, ProtectedSigner.exportSigningMaterial_eq,
    ProtectedSigner.deriveVerifiedUnlockKey_eq]
  cases ProtectedSigner.opened c envelope passcode expected with
  | error e => simp [Except.map, mapErr]
  | ok found => simp [Except.map, mapErr]

/-- A derived key is accepted, and unlocks the signer that was expected. -/
theorem validateUnlockKey_of_derive
    (h : deriveUnlockKey c envelope passcode expected = .ok unlockKey) :
    validateUnlockKey c envelope unlockKey expected = .ok () ∧
      ∃ signer, ProtectedSigner.unlockSoftwareSigner c envelope unlockKey expected =
        .ok signer ∧ signer.publicKey = Text.trim expected := by
  obtain ⟨signer, hsigner, hkey⟩ :=
    ProtectedSigner.unlockSoftwareSigner_of_derive (mapErr_eq_ok.mp h)
  refine ⟨?_, signer, hsigner, hkey⟩
  rw [validateUnlockKey, hsigner]
  rfl

/-! ### Migration -/

theorem exists_migrated (envelope : Json) :
    ∃ migrated, ProtectionRegistry.migrateLegacyPassword envelope = .ok migrated := by
  rw [ProtectionRegistry.migrateLegacyPassword]
  split_ifs
  · exact ⟨_, rfl⟩
  · exact ⟨envelope, rfl⟩

/-- A migrated envelope is opened as before. -/
theorem reveal_migrated (h : ProtectionRegistry.migrateLegacyPassword envelope = .ok migrated) :
    reveal c migrated passcode expected = reveal c envelope passcode expected := by
  rw [reveal, reveal, ProtectedSigner.exportSigningMaterial_eq,
    ProtectedSigner.exportSigningMaterial_eq,
    ProtectedSigner.opened_congr (ProtectionRegistry.passwordProviderEnvelope_migrated h)]

theorem deriveUnlockKey_migrated
    (h : ProtectionRegistry.migrateLegacyPassword envelope = .ok migrated) :
    deriveUnlockKey c migrated passcode expected =
      deriveUnlockKey c envelope passcode expected := by
  rw [deriveUnlockKey, deriveUnlockKey, ProtectedSigner.deriveVerifiedUnlockKey_eq,
    ProtectedSigner.deriveVerifiedUnlockKey_eq,
    ProtectedSigner.opened_congr (ProtectionRegistry.passwordProviderEnvelope_migrated h)]

theorem validateUnlockKey_migrated
    (h : ProtectionRegistry.migrateLegacyPassword envelope = .ok migrated) :
    validateUnlockKey c migrated unlockKey expected =
      validateUnlockKey c envelope unlockKey expected := by
  unfold validateUnlockKey ProtectedSigner.unlockSoftwareSigner
    ProtectionRegistry.unprotectWithUnlockKey
  rw [ProtectionRegistry.passwordProviderEnvelope_migrated h]

/-! ### Protecting again -/

/-- The material that is revealed is protected again, without the white space around it. -/
theorem reprotect_eq_ok
    (h : reprotect c random envelope passcode newPasscode expected = .ok signer) :
    ∃ material, reveal c envelope passcode expected = .ok material ∧
      ProtectionRegistry.protect c.toSecretCrates random
        (ProtectedSigner.materialPayload material.trimmed) newPasscode =
        .ok signer.envelope := by
  obtain ⟨material, hmaterial, h⟩ := bind_eq_ok.mp h
  refine ⟨material, hmaterial, ?_⟩
  cases material with
  | secret secret =>
    obtain ⟨protected', hprotected, h⟩ := bind_eq_ok.mp h
    obtain ⟨-, h⟩ := unit_bind_eq_ok.mp h
    obtain rfl := Except.ok.inj h
    exact ProtectedSigner.protectSecretSigningMaterial_eq_ok (mapErr_eq_ok.mp hprotected)
  | mnemonic words passphrase index language =>
    obtain ⟨hlanguage, -⟩ :=
      ProtectedSigner.exportSigningMaterial_eq_ok (mapErr_eq_ok.mp hmaterial)
    obtain ⟨protected', hprotected, h⟩ := bind_eq_ok.mp h
    obtain ⟨-, h⟩ := unit_bind_eq_ok.mp h
    obtain rfl := Except.ok.inj h
    exact ProtectedSigner.protectMnemonicSigningMaterial_eq_ok hlanguage
      (mapErr_eq_ok.mp hprotected)

/-- The new passcode reveals the material. -/
theorem reveal_reprotect
    (h : reprotect c random envelope passcode newPasscode expected = .ok signer) :
    ∃ material, reveal c envelope passcode expected = .ok material ∧
      reveal c signer.envelope newPasscode expected = .ok material.trimmed := by
  obtain ⟨material, hmaterial, hprotect⟩ := reprotect_eq_ok h
  refine ⟨material, hmaterial, ?_⟩
  rw [reveal, ProtectedSigner.exportSigningMaterial_of_protect (mapErr_eq_ok.mp hmaterial)
    hprotect]
  rfl

/-- No other passcode reveals it. -/
theorem reveal_reprotect_other (hfree : CollisionFree c.toSecretCrates passcodes)
    (hnew : newPasscode ∈ passcodes) (hother : other ∈ passcodes) (hne : other ≠ newPasscode)
    (h : reprotect c random envelope passcode newPasscode expected = .ok signer) :
    reveal c signer.envelope other expected = .error invalidPasscode := by
  obtain ⟨material, -, hprotect⟩ := reprotect_eq_ok h
  rw [reveal, ProtectedSigner.exportSigningMaterial]
  cases ProtectionRegistry.unprotect_other hfree hnew hother hne hprotect with
  | inl hempty =>
    rw [hempty]
    rfl
  | inr hinvalid =>
    rw [hinvalid]
    rfl

/-- What a client can rely on for an envelope and an expected account, as long as the
passcodes in use have keys of their own. -/
structure TellsOneStory (c : WalletCrates) (passcodes : Set String) (envelope : Json)
    (expected : String) : Prop where
  /-- A passcode reveals the material exactly when a key is derived from it, and otherwise
  both fail with one error. -/
  reveal_derive : ∀ passcode,
    ((reveal c envelope passcode expected).isOk ↔
      (deriveUnlockKey c envelope passcode expected).isOk) ∧
    ∀ error, reveal c envelope passcode expected = .error error ↔
      deriveUnlockKey c envelope passcode expected = .error error
  /-- A derived key is accepted, and unlocks the signer that was expected. -/
  derive_validate : ∀ passcode unlockKey,
    deriveUnlockKey c envelope passcode expected = .ok unlockKey →
    validateUnlockKey c envelope unlockKey expected = .ok () ∧
      ∃ signer, ProtectedSigner.unlockSoftwareSigner c envelope unlockKey expected =
        .ok signer ∧ signer.publicKey = Text.trim expected
  /-- A migration is made once, and changes no result. -/
  migrate : ∃ migrated, ProtectionRegistry.migrateLegacyPassword envelope = .ok migrated ∧
    ProtectionRegistry.migrateLegacyPassword migrated = .ok migrated ∧
    (∀ passcode, reveal c migrated passcode expected = reveal c envelope passcode expected) ∧
    (∀ passcode, deriveUnlockKey c migrated passcode expected =
      deriveUnlockKey c envelope passcode expected) ∧
    ∀ unlockKey, validateUnlockKey c migrated unlockKey expected =
      validateUnlockKey c envelope unlockKey expected
  /-- A signer that is protected again is revealed with the new passcode, but for white
  space around its material, and with no other one. -/
  reprotect : ∀ random passcode newPasscode signer, newPasscode ∈ passcodes →
    CoreClientApi.reprotect c random envelope passcode newPasscode expected = .ok signer →
    (∃ material, reveal c envelope passcode expected = .ok material ∧
      reveal c signer.envelope newPasscode expected = .ok material.trimmed) ∧
    ∀ other ∈ passcodes, other ≠ newPasscode →
      ∃ error, reveal c signer.envelope other expected = .error error ∧
        error.code = .invalidPasscode

/-! ### Crates that meet the assumptions -/

/-- The name, the kind and the text of a member. -/
def memberTexts (member : String × Json) : List String :=
  match member.2 with
  | .string text => [member.1, "string", text]
  | .number (.posInt count) => [member.1, "count", Base64.encode (Sep23.be64 count.val.toNat)]
  | _ => []

def flatTexts : Json → List String
  | .object members => members.flatMap memberTexts
  | _ => []

def membersOfTexts : List String → Option (List (String × Json))
  | [] => some []
  | name :: kind :: text :: texts => do
    let members ← membersOfTexts texts
    if kind = "string" then return (name, .string text) :: members
    else
      let count ← (Base64.decode text).bind Sep23.be64Value
      return (name, .number (.posInt count)) :: members
  | _ => none

theorem membersOfTexts_flatTexts {payload : Json} (h : IsFlat payload) :
    (membersOfTexts (flatTexts payload)).map .object = some payload := by
  obtain ⟨members, rfl, -, hmembers⟩ := h
  rw [Option.map_eq_some_iff]
  refine ⟨members, ?_, rfl⟩
  rw [flatTexts]
  induction members with
  | nil => rfl
  | cons member members ih =>
    have hrest := ih fun other hother => hmembers other (List.mem_cons_of_mem _ hother)
    obtain ⟨name, value⟩ := member
    rw [List.flatMap_cons]
    cases hmembers (name, value) List.mem_cons_self with
    | inl hstring =>
      obtain ⟨text, rfl⟩ := hstring
      simp [memberTexts, membersOfTexts, hrest]
    | inr hcount =>
      obtain ⟨count, rfl⟩ := hcount
      simp [memberTexts, membersOfTexts, hrest, Base64.decode_encode, Sep23.be64Value_be64]

def vectorPasscode : String := "correct horse battery staple"

def vectorSalt : Salt := #v[0, 1, 2, 3, 4, 5, 6, 7, 8, 9, 10, 11, 12, 13, 14, 15]

def vectorNonce : Nonce := #v[32, 33, 34, 35, 36, 37, 38, 39, 40, 41, 42, 43]

def vectorKey : Uint256 :=
  #v[0x0d, 0x1a, 0x3c, 0x65, 0x23, 0xc8, 0xf0, 0x6e, 0x4e, 0x0a, 0xf9, 0xc5, 0x15, 0xaa, 0x5b,
    0x54, 0x48, 0xcf, 0xeb, 0xd6, 0x83, 0x8f, 0x2d, 0x52, 0xc3, 0xd8, 0xb6, 0xef, 0x8d, 0xdc,
    0x3c, 0x2e]

def vectorPlaintext : List UInt8 :=
  Utf8.bytes "\x7b\"kind\":\"secret\",\"secret\":\"SAMPLE-SECRET\"\x7d"

def vectorTexts : List String := ["kind", "string", "secret", "secret", "string", "SAMPLE-SECRET"]

def vectorCiphertext : List UInt8 :=
  (Base64.decode ("/gEam34IHOmryXAQDLviR572g1TWo3OVR8NVzWXNCv4pjxk0Ow/fSUqY2OJHrznr5Hz/0Ple" ++
    "3YQvQw==")).getD []

/-- The first byte of framed texts. -/
theorem head?_bytes_print (texts : List String) :
    (Utf8.bytes (Framed.print texts)).head? = some 116 ∨
      (Utf8.bytes (Framed.print texts)).head? = some 101 := by
  cases texts with
  | nil => exact .inr (by decide)
  | cons text texts =>
    left
    rw [Utf8.bytes, Framed.print, String.toList_ofList, Framed.printAll, List.flatMap_cons,
      List.cons_append, List.cons_append, List.flatMap_cons]
    rfl

theorem bytes_print_ne (texts : List String) :
    Utf8.bytes (Framed.print texts) ≠ vectorCiphertext ∧
      Utf8.bytes (Framed.print texts) ≠ vectorPlaintext := by
  have hciphertext : vectorCiphertext.head? = some 254 := by decide +kernel
  have hplaintext : vectorPlaintext.head? = some 123 := by decide +kernel
  constructor
  · intro heq
    have hhead := head?_bytes_print texts
    rw [heq, hciphertext] at hhead
    exact absurd hhead (by decide)
  · intro heq
    have hhead := head?_bytes_print texts
    rw [heq, hplaintext] at hhead
    exact absurd hhead (by decide)

theorem read_bytes_print (texts : List String) :
    Framed.read (fromUtf8Lossy (Utf8.bytes (Framed.print texts))) = some texts := by
  have hread := Framed.read_print_append texts ""
  rwa [String.append_empty, ← fromUtf8Lossy_bytes (Framed.print texts)] at hread

theorem encode_injective : Function.Injective Base64.encode := by
  intro bytes bytes' h
  have hdecode := congrArg Base64.decode h
  rw [Base64.decode_encode, Base64.decode_encode] at hdecode
  exact Option.some.inj hdecode

/-- A ciphertext that names its key, its nonce, its data and its plaintext. -/
def namedCiphertext (key : Uint256) (nonce : Nonce) (aad msg : List UInt8) : List UInt8 :=
  Utf8.bytes (Framed.print ([key.toList, nonce.toList, aad, msg].map Base64.encode))

def openNamed (key : Uint256) (nonce : Nonce) (aad ciphertext : List UInt8) :
    Option (List UInt8) :=
  match Framed.read (fromUtf8Lossy ciphertext) with
  | some [keyText, nonceText, aadText, msgText] =>
    if [keyText, nonceText, aadText] = [key.toList, nonce.toList, aad].map Base64.encode then
      Base64.decode msgText
    else none
  | _ => none

theorem namedCiphertext_ne {key : Uint256} {nonce : Nonce} {aad msg : List UInt8} :
    namedCiphertext key nonce aad msg ≠ vectorCiphertext :=
  (bytes_print_ne _).1

theorem openNamed_namedCiphertext {key key' : Uint256} {nonce nonce' : Nonce}
    {aad aad' msg : List UInt8} : openNamed key' nonce' aad' (namedCiphertext key nonce aad msg) =
      if key = key' ∧ nonce = nonce' ∧ aad = aad' then some msg else none := by
  rw [openNamed, namedCiphertext, read_bytes_print]
  simp [encode_injective.eq_iff, Base64.decode_encode, Vector.toList_inj]

/-- The crates, with their own answers for one envelope. -/
def vectorCrates : WalletCrates where
  scrypt _ _ := none
  argon2id password salt :=
    if password = vectorPasscode then
      if salt = vectorSalt then some vectorKey else some (Vector.replicate 32 1)
    else some (Vector.replicate 32 2)
  encrypt key nonce aad msg :=
    if key = vectorKey ∧ nonce = vectorNonce ∧ aad = SecretStore.aadV2 ∧ msg = vectorPlaintext then
      some vectorCiphertext
    else some (namedCiphertext key nonce aad msg)
  decrypt key nonce aad ciphertext :=
    if ciphertext = vectorCiphertext then
      if key = vectorKey ∧ nonce = vectorNonce ∧ aad = SecretStore.aadV2 then some vectorPlaintext
      else none
    else openNamed key nonce aad ciphertext
  encode := Base64.encode
  decode := Base64.decode
  toVec payload :=
    if flatTexts payload = vectorTexts then some vectorPlaintext
    else some (Utf8.bytes (Framed.print (flatTexts payload)))
  fromSlice bytes :=
    if bytes = vectorPlaintext then (membersOfTexts vectorTexts).map .object
    else ((Framed.read (fromUtf8Lossy bytes)).bind membersOfTexts).map .object
  decode_encode := Base64.decode_encode
  decrypt_encrypt {key nonce aad msg ciphertext} h := by
    split_ifs at h with hvector
    · obtain ⟨rfl, rfl, rfl, rfl⟩ := hvector
      rw [← Option.some.inj h, if_pos rfl, if_pos ⟨rfl, rfl, rfl⟩]
    · rw [← Option.some.inj h, if_neg namedCiphertext_ne, openNamed_namedCiphertext,
        if_pos ⟨rfl, rfl, rfl⟩]
  decrypt_unique {key nonce aad msg ciphertext key' nonce' aad' msg'} h h' := by
    split_ifs at h with hvector
    · obtain ⟨rfl, rfl, rfl, rfl⟩ := hvector
      rw [← Option.some.inj h, if_pos rfl] at h'
      split_ifs at h' with hsame
      exact hsame
    · rw [← Option.some.inj h, if_neg namedCiphertext_ne, openNamed_namedCiphertext] at h'
      split_ifs at h' with hsame
      exact ⟨hsame.1.symm, hsame.2.1.symm, hsame.2.2.symm⟩
  fromSlice_toVec {payload bytes} hflat h := by
    have hpayload := membersOfTexts_flatTexts hflat
    split_ifs at h with hvector
    · rw [← Option.some.inj h, if_pos rfl, ← hvector, hpayload]
    · rw [← Option.some.inj h, if_neg (bytes_print_ne _).2, read_bytes_print, Option.bind_some,
        hpayload]
  accounts := Sep23.accountCodec
  privateKeyOf? _ := none
  verifyingKey := id
  parseIn _ _ := none
  toSeed _ _ := []
  derivePath _ _ := none

/-- The envelope of a text that is no secret key, as it was written before there were
wrappers. -/
def vectorEnvelope : Json :=
  .object [("cipher", .string "aes-256-gcm"),
    ("ciphertext", .string ("/gEam34IHOmryXAQDLviR572g1TWo3OVR8NVzWXNCv4pjxk0Ow/fSUqY2OJHrznr" ++
      "5Hz/0Ple3YQvQw==")),
    ("kdf", .object [("iterations", .number (.posInt (.lit 3))),
      ("memory_kib", .number (.posInt (.lit 65536))), ("name", .string "argon2id"),
      ("parallelism", .number (.posInt (.lit 1))),
      ("salt", .string "AAECAwQFBgcICQoLDA0ODw==")]),
    ("nonce", .string "ICEiIyQlJicoKSor"), ("version", .number (.posInt (.lit 2)))]

/-- The two passcodes have keys of their own under every salt. -/
theorem collisionFree_vector :
    CollisionFree vectorCrates.toSecretCrates {vectorPasscode, "Tr0ub4dor&3"} := by
  have hother : "Tr0ub4dor&3" ≠ vectorPasscode := by decide
  have hkeys : Vector.replicate 32 2 ≠ vectorKey ∧
      (Vector.replicate 32 2 : Uint256) ≠ Vector.replicate 32 1 := by
    decide +kernel
  intro salt password hpassword
  -- with any salt, the two passcodes have different keys
  have hvector : ∃ key, vectorCrates.argon2id vectorPasscode salt = some key ∧
      Vector.replicate 32 2 ≠ key := by
    have hrun : vectorCrates.argon2id vectorPasscode salt =
        if salt = vectorSalt then some vectorKey else some (Vector.replicate 32 1) := by
      simp only [vectorCrates, if_true]
    by_cases hsalt : salt = vectorSalt
    · exact ⟨vectorKey, hrun.trans (if_pos hsalt), hkeys.1⟩
    · exact ⟨Vector.replicate 32 1, hrun.trans (if_neg hsalt), hkeys.2⟩
  obtain ⟨key, hkey, hne⟩ := hvector
  have hsecond : vectorCrates.argon2id "Tr0ub4dor&3" salt = some (Vector.replicate 32 2) := by
    simp only [vectorCrates, if_neg hother]
  rw [Set.mem_insert_iff, Set.mem_singleton_iff] at hpassword
  cases hpassword with
  | inl hfirst =>
    rw [hfirst]
    refine ⟨key, hkey, ?_⟩
    intro other hmem hsame
    rw [Set.mem_insert_iff, Set.mem_singleton_iff] at hmem
    cases hmem with
    | inl h => exact h
    | inr h =>
      rw [h, hsecond] at hsame
      exact absurd (Option.some.inj hsame) hne
  | inr hlast =>
    rw [hlast]
    refine ⟨_, hsecond, ?_⟩
    intro other hmem hsame
    rw [Set.mem_insert_iff, Set.mem_singleton_iff] at hmem
    cases hmem with
    | inl h =>
      rw [h, hkey] at hsame
      exact absurd (Option.some.inj hsame).symm hne
    | inr h => exact h

/-- The operations agree for every envelope and every expected account. -/
theorem tellsOneStory (hfree : CollisionFree c.toSecretCrates passcodes) (envelope : Json)
    (expected : String) : TellsOneStory c passcodes envelope expected := by
  obtain ⟨migrated, hmigrated⟩ := exists_migrated envelope
  refine ⟨?_, ?_, ⟨migrated, hmigrated,
    ProtectionRegistry.migrateLegacyPassword_migrated hmigrated, ?_, ?_, ?_⟩, ?_⟩
  · intro passcode
    exact ⟨reveal_isOk_iff, fun error => reveal_error_iff⟩
  · intro passcode unlockKey hderive
    exact validateUnlockKey_of_derive hderive
  · intro passcode
    exact reveal_migrated hmigrated
  · intro passcode
    exact deriveUnlockKey_migrated hmigrated
  · intro unlockKey
    exact validateUnlockKey_migrated hmigrated
  · intro random passcode newPasscode signer hnew hsigner
    refine ⟨reveal_reprotect hsigner, ?_⟩
    intro other hother hne
    exact ⟨_, reveal_reprotect_other hfree hnew hother hne hsigner, rfl⟩

theorem tellsOneStory_vector :
    CollisionFree vectorCrates.toSecretCrates {vectorPasscode, "Tr0ub4dor&3"} ∧
    TellsOneStory vectorCrates {vectorPasscode, "Tr0ub4dor&3"} vectorEnvelope
      "GDLVVGABQKYQVN6VJP7NHSLEA45A5YLS6PNKMIZFV4BBU2HXA5IRVHUR" :=
  ⟨collisionFree_vector, tellsOneStory collisionFree_vector _ _⟩

end CoreClientApi

end Fresnica
