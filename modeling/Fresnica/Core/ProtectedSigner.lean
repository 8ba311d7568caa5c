import Fresnica.Core.Account
import Fresnica.Core.ProtectionRegistry

/-!
# Protected signers

The payload of a protected secret is the signing material of an account: a secret key, or a
mnemonic with the language, the passphrase and the index that a key is derived with. The
material is opened by a passcode or by an unlock key, and must then be that of the account
that was expected.

## Main definitions

* `WalletCrates` — what wallets use of other crates
* `deriveClassicSigner`, `SoftwareSigner.fromSecret` — the signers of the two materials
* `ProtectedSigner.signingMaterialFromPayload` — the material of a payload
* `ProtectedSigner.exportSigningMaterial`, `deriveVerifiedUnlockKey`, `unlockSoftwareSigner`
* `ProtectedSigner.protectSecretSigningMaterial`, `protectMnemonicSigningMaterial`

## Main results

* `ProtectedSigner.exportSigningMaterial_eq`, `deriveVerifiedUnlockKey_eq` — a passcode opens
  what its key opens
* `ProtectedSigner.signer_trimmed` — trimmed material has the same signer
* `ProtectedSigner.signingMaterialFromPayload_payload` — a payload has the material it was
  made of
-/

namespace Fresnica

open Foundation

/-! ### Derivation -/

inductive Language
  | english
  | simplifiedChinese
  | traditionalChinese
  | french
  | italian
  | japanese
  | korean
  | spanish
  deriving DecidableEq, Repr

def supportedMnemonicLanguages : List (String × Language) :=
  [("english", .english), ("chinese_simplified", .simplifiedChinese),
    ("chinese_traditional", .traditionalChinese), ("french", .french), ("italian", .italian),
    ("japanese", .japanese), ("korean", .korean), ("spanish", .spanish)]

inductive WalletDerivationError
  | unsupportedLanguage (language : String)
  | invalidMnemonic
  | ambiguousLanguage
  | invalidIndex
  deriving DecidableEq, Repr

def WalletDerivationError.text : WalletDerivationError → String
  | .unsupportedLanguage language => s!"unsupported mnemonic language: {language}"
  | .invalidMnemonic => "invalid Stellar mnemonic phrase"
  | .ambiguousLanguage => "mnemonic language is ambiguous; specify it explicitly"
  | .invalidIndex => "invalid Stellar account index"

/-- What wallets use of other crates: the texts of keys, the words of a mnemonic in a
language, and the keys that are derived from them. -/
structure WalletCrates extends SecretCrates where
  accounts : AccountCodec
  privateKeyOf? : String → Option Uint256
  verifyingKey : (signingKey : Uint256) → Uint256
  parseIn : Language → String → Option (List String)
  toSeed : (words : List String) → (passphrase : String) → List UInt8
  derivePath : (seed : List UInt8) → (path : String) → Option Uint256

structure SoftwareSigner where
  signingKey : Uint256
  publicKey : String
  deriving DecidableEq, Repr

def maxAccountIndex : ℤ := 2147483647

section Derivation

variable (c : WalletCrates)

def mnemonicLanguage (language : String) : Except WalletDerivationError Language :=
  okOr (supportedMnemonicLanguages.lookup language) (.unsupportedLanguage language)

/-- The only language that the mnemonic has words of. -/
def detectMnemonicLanguage (mnemonic : String) : Except WalletDerivationError String := do
  let mnemonic := Text.trim mnemonic
  let detected ← supportedMnemonicLanguages.foldlM (fun (detected : Option String) language => do
    if (c.parseIn language.2 mnemonic).isSome then do
      ensure detected.isNone WalletDerivationError.ambiguousLanguage
      return some language.1
    else return detected) none
  okOr detected .invalidMnemonic

def deriveKey (mnemonic passphrase : String) (index : U64) (language : String) :
    Except WalletDerivationError Uint256 := do
  ensure (index.val ≤ maxAccountIndex) .invalidIndex
  let language ← mnemonicLanguage language
  let words ← okOr (c.parseIn language (Text.trim mnemonic)) .invalidMnemonic
  okOr (c.derivePath (c.toSeed words passphrase) s!"m/44'/148'/{index.val}'") .invalidIndex

def deriveClassicPublicKey (mnemonic passphrase : String) (index : U64) (language : String) :
    Except WalletDerivationError String := do
  let key ← deriveKey c mnemonic passphrase index language
  return c.accounts.publicKey (c.verifyingKey key)

namespace SoftwareSigner

def fromSigningKey (signingKey : Uint256) : SoftwareSigner :=
  ⟨signingKey, c.accounts.publicKey (c.verifyingKey signingKey)⟩

def fromSecret (secret : String) : Except SignerError SoftwareSigner := do
  let key ← okOr (c.privateKeyOf? (Text.trim secret)) .invalidSecret
  return fromSigningKey c key

end SoftwareSigner

def deriveClassicSigner (mnemonic passphrase : String) (index : U64) (language : String) :
    Except WalletDerivationError SoftwareSigner := do
  let key ← deriveKey c mnemonic passphrase index language
  return SoftwareSigner.fromSigningKey c key

end Derivation

/-! ### Signing material -/

inductive ExportedSigningMaterial
  | secret (secret : String)
  | mnemonic (mnemonic mnemonicPassphrase : String) (index : U64) (language : String)
  deriving DecidableEq, Repr

inductive ProtectedSignerError
  | protection (error : ProtectionError)
  | signer (error : SignerError)
  | derivation (error : WalletDerivationError)
  | invalidSigningMaterial
  | unsupportedSigningMaterial
  | invalidExpectedPublicKey
  | identityMismatch
  deriving DecidableEq, Repr

inductive WalletMaterialError
  | protection (error : ProtectionError)
  | signer (error : SignerError)
  | derivation (error : WalletDerivationError)
  deriving DecidableEq, Repr

namespace ExportedSigningMaterial

def signer (c : WalletCrates) :
    ExportedSigningMaterial → Except ProtectedSignerError SoftwareSigner
  | .secret text => mapErr .signer (SoftwareSigner.fromSecret c text)
  | .mnemonic words passphrase index language =>
    mapErr .derivation (deriveClassicSigner c words passphrase index language)

/-- The material without the white space around it. -/
def trimmed : ExportedSigningMaterial → ExportedSigningMaterial
  | .secret text => .secret (Text.trim text)
  | .mnemonic words passphrase index language =>
    .mnemonic (Text.trim words) passphrase index language

end ExportedSigningMaterial

namespace ProtectedSigner

def takeString (object : Json) (key : String) : Except ProtectedSignerError String :=
  match object.get? key with
  | some (.string value) => .ok value
  | _ => .error .invalidSigningMaterial

def takeOptionalSensitiveString (object : Json) (key : String) :
    Except ProtectedSignerError (Option String) :=
  match object.get? key with
  | none | some .null => .ok none
  | some (.string value) => .ok (some value)
  | _ => .error .invalidSigningMaterial

def takeOptionalIndex (object : Json) (key : String) : Except ProtectedSignerError U64 :=
  match object.get? key with
  | none | some .null => .ok (.lit 0)
  | some (.number (.posInt value)) => .ok value
  | _ => .error .invalidSigningMaterial

section Operations

variable (c : WalletCrates)

def takeOptionalLanguage (object : Json) (key mnemonic : String) :
    Except ProtectedSignerError String :=
  match object.get? key with
  | none | some .null => mapErr .derivation (detectMnemonicLanguage c mnemonic)
  | some (.string value) => do
    ensure (¬ value.isEmpty) .invalidSigningMaterial
    return value
  | _ => .error .invalidSigningMaterial

def signingMaterialFromPayload (payload : Json) :
    Except ProtectedSignerError ExportedSigningMaterial := do
  ensure payload.isObject .invalidSigningMaterial
  let secret ← takeOptionalSensitiveString payload "secret"
  let mnemonic ← takeOptionalSensitiveString payload "mnemonic"
  let passphrase ← takeOptionalSensitiveString payload "mnemonic_passphrase"
  let kind ← takeString payload "kind"
  if kind = "secret" then do
    let secret ← okOr secret .invalidSigningMaterial
    return .secret secret
  else if kind = "mnemonic" then do
    let mnemonic ← okOr mnemonic .invalidSigningMaterial
    let index ← takeOptionalIndex payload "index"
    let language ← takeOptionalLanguage c payload "language" mnemonic
    return .mnemonic mnemonic (passphrase.getD "") index language
  else throw .unsupportedSigningMaterial

def softwareSignerFromPayload (payload : Json) : Except ProtectedSignerError SoftwareSigner := do
  let material ← signingMaterialFromPayload c payload
  material.signer c

def ensureExpectedIdentity (signer : SoftwareSigner) (expectedPublicKey : String) :
    Except ProtectedSignerError Unit := do
  let expected ← okOr (c.accounts.publicKeyOf? (Text.trim expectedPublicKey))
    .invalidExpectedPublicKey
  ensure (signer.publicKey = c.accounts.publicKey expected) .identityMismatch

/-- A key that a passcode does not fit is a wrong passcode. -/
def mapPasscodeVerificationError : ProtectionError → ProtectedSignerError
  | .secretStore .invalidUnlockKey => .protection (.secretStore .invalidPassword)
  | other => .protection other

def deriveVerifiedUnlockKey (envelope : Json) (passcode expectedPublicKey : String) :
    Except ProtectedSignerError Uint256 := do
  let unlockKey ← mapErr .protection
    (ProtectionRegistry.deriveUnlockKey c.toSecretCrates envelope passcode)
  let payload ← mapErr mapPasscodeVerificationError
    (ProtectionRegistry.unprotectWithUnlockKey c.toSecretCrates envelope unlockKey)
  let signer ← softwareSignerFromPayload c payload
  ensureExpectedIdentity c signer expectedPublicKey
  return unlockKey

def unlockSoftwareSigner (envelope : Json) (unlockKey : Uint256) (expectedPublicKey : String) :
    Except ProtectedSignerError SoftwareSigner := do
  let payload ← mapErr .protection
    (ProtectionRegistry.unprotectWithUnlockKey c.toSecretCrates envelope unlockKey)
  let signer ← softwareSignerFromPayload c payload
  ensureExpectedIdentity c signer expectedPublicKey
  return signer

def exportSigningMaterial (envelope : Json) (passcode expectedPublicKey : String) :
    Except ProtectedSignerError ExportedSigningMaterial := do
  let payload ← mapErr .protection
    (ProtectionRegistry.unprotect c.toSecretCrates envelope passcode)
  let material ← signingMaterialFromPayload c payload
  let signer ← material.signer c
  ensureExpectedIdentity c signer expectedPublicKey
  return material

/-! ### New envelopes -/

structure ProtectedWalletMaterial where
  publicKey : String
  envelope : Json

def protectSecretSigningMaterial (random : SecretStore.Randomness) (secret passcode : String) :
    Except WalletMaterialError ProtectedWalletMaterial := do
  let secret := Text.trim secret
  let signer ← mapErr .signer (SoftwareSigner.fromSecret c secret)
  let payload := Json.object [("kind", .string "secret"), ("secret", .string secret)]
  let envelope ← mapErr .protection
    (ProtectionRegistry.protect c.toSecretCrates random payload passcode)
  return ⟨signer.publicKey, envelope⟩

def protectMnemonicSigningMaterial (random : SecretStore.Randomness)
    (mnemonic mnemonicPassphrase : String) (index : U64) (language : Option String)
    (passcode : String) : Except WalletMaterialError ProtectedWalletMaterial := do
  let mnemonic := Text.trim mnemonic
  -- an empty language counts as none given
  let language ← match language.filter (¬ ·.isEmpty) with
    | some language => pure language
    | none => mapErr .derivation (detectMnemonicLanguage c mnemonic)
  let publicKey ← mapErr .derivation
    (deriveClassicPublicKey c mnemonic mnemonicPassphrase index language)
  let payload := Json.object [("index", .number (.posInt index)), ("kind", .string "mnemonic"),
    ("language", .string language), ("mnemonic", .string mnemonic),
    ("mnemonic_passphrase", .string mnemonicPassphrase)]
  let envelope ← mapErr .protection
    (ProtectionRegistry.protect c.toSecretCrates random payload passcode)
  return ⟨publicKey, envelope⟩

end Operations

variable {c : WalletCrates} {envelope envelope' payload : Json} {passcode expected : String}
  {material : ExportedSigningMaterial} {signer : SoftwareSigner} {unlockKey : Uint256}

/-! ### Passcodes and their keys -/

/-- The key of a passcode and the material that it opens. -/
def opened (c : WalletCrates) (envelope : Json) (passcode expected : String) :
    Except ProtectedSignerError (Uint256 × ExportedSigningMaterial) := do
  let unlockKey ← mapErr .protection
    (ProtectionRegistry.deriveUnlockKey c.toSecretCrates envelope passcode)
  let payload ← mapErr mapPasscodeVerificationError
    (ProtectionRegistry.unprotectWithUnlockKey c.toSecretCrates envelope unlockKey)
  let material ← signingMaterialFromPayload c payload
  let signer ← material.signer c
  ensureExpectedIdentity c signer expected
  return (unlockKey, material)

/-- The material of a passcode is exported. -/
theorem exportSigningMaterial_eq : exportSigningMaterial c envelope passcode expected =
    (opened c envelope passcode expected).map Prod.snd := by
  rw [exportSigningMaterial, opened, ProtectionRegistry.unprotect_eq]
  cases ProtectionRegistry.deriveUnlockKey c.toSecretCrates envelope passcode with
  | error e => rfl
  | ok key =>
    simp only [ok_bind, mapErr]
    cases ProtectionRegistry.unprotectWithUnlockKey c.toSecretCrates envelope key with
    -- an error of the envelope is reported in either function as the same one
    | error e =>
      cases e with
      | secretStore error => cases error <;> rfl
      | _ => rfl
    | ok payload =>
      simp only [ok_bind]
      cases signingMaterialFromPayload c payload with
      | error e => rfl
      | ok material =>
        simp only [ok_bind]
        cases material.signer c with
        | error e => rfl
        | ok signer =>
          simp only [ok_bind]
          cases ensureExpectedIdentity c signer expected <;> rfl

/-- The key of a passcode is derived. -/
theorem deriveVerifiedUnlockKey_eq : deriveVerifiedUnlockKey c envelope passcode expected =
    (opened c envelope passcode expected).map Prod.fst := by
  rw [deriveVerifiedUnlockKey, opened]
  cases ProtectionRegistry.deriveUnlockKey c.toSecretCrates envelope passcode with
  | error e => rfl
  | ok key =>
    simp only [ok_bind, mapErr]
    cases ProtectionRegistry.unprotectWithUnlockKey c.toSecretCrates envelope key with
    | error e => rfl
    | ok payload =>
      simp only [ok_bind, softwareSignerFromPayload]
      cases signingMaterialFromPayload c payload with
      | error e => rfl
      | ok material =>
        simp only [ok_bind]
        cases material.signer c with
        | error e => rfl
        | ok signer =>
          simp only [ok_bind]
          cases ensureExpectedIdentity c signer expected <;> rfl

/-- The signer that is expected is the one of the text. -/
theorem ensureExpectedIdentity_eq_ok : ensureExpectedIdentity c signer expected = .ok () ↔
    ∃ key, c.accounts.publicKey key = Text.trim expected ∧
      signer.publicKey = Text.trim expected := by
  rw [ensureExpectedIdentity]
  constructor
  · intro h
    obtain ⟨key, hkey, h⟩ := bind_eq_ok.mp h
    have htext := c.accounts.publicKeyOf?_eq_some_iff.mp (okOr_eq_ok.mp hkey)
    exact ⟨key, htext, (ensure_eq_ok.mp h).trans htext⟩
  · intro ⟨key, htext, hsigner⟩
    rw [c.accounts.publicKeyOf?_eq_some_iff.mpr htext]
    exact ensure_eq_ok.mpr (hsigner.trans htext.symm)

/-- A derived key unlocks the signer that was expected. -/
theorem unlockSoftwareSigner_of_derive
    (h : deriveVerifiedUnlockKey c envelope passcode expected = .ok unlockKey) :
    ∃ signer, unlockSoftwareSigner c envelope unlockKey expected = .ok signer ∧
      signer.publicKey = Text.trim expected := by
  rw [deriveVerifiedUnlockKey] at h
  obtain ⟨key, -, h⟩ := bind_eq_ok.mp h
  obtain ⟨payload, hpayload, h⟩ := bind_eq_ok.mp h
  obtain ⟨signer, hsigner, h⟩ := bind_eq_ok.mp h
  obtain ⟨hidentity, h⟩ := unit_bind_eq_ok.mp h
  obtain rfl := Except.ok.inj h
  refine ⟨signer, ?_, (ensureExpectedIdentity_eq_ok.mp hidentity).choose_spec.2⟩
  rw [unlockSoftwareSigner, mapErr_eq_ok.mp hpayload]
  simp only [mapErr, ok_bind, hsigner, hidentity, pure_eq_ok]

/-- Everything is read from the envelope in the wrapper. -/
theorem opened_congr (h : ProtectionRegistry.passwordProviderEnvelope envelope' =
      ProtectionRegistry.passwordProviderEnvelope envelope) :
    opened c envelope' passcode expected = opened c envelope passcode expected := by
  unfold opened ProtectionRegistry.deriveUnlockKey ProtectionRegistry.unprotectWithUnlockKey
  rw [h]

/-! ### Material and its payload -/

/-- The payload that material is protected as. -/
def materialPayload : ExportedSigningMaterial → Json
  | .secret text => .object [("kind", .string "secret"), ("secret", .string text)]
  | .mnemonic words passphrase index language => .object [("index", .number (.posInt index)),
      ("kind", .string "mnemonic"), ("language", .string language), ("mnemonic", .string words),
      ("mnemonic_passphrase", .string passphrase)]

/-- A mnemonic has a language. -/
def HasLanguage : ExportedSigningMaterial → Prop
  | .secret _ => True
  | .mnemonic _ _ _ language => language ≠ ""

theorem isFlat_materialPayload (material : ExportedSigningMaterial) :
    IsFlat (materialPayload material) := by
  cases material with
  | secret text =>
    refine ⟨_, rfl, (by decide : ["kind", "secret"].Pairwise (· < ·)), ?_⟩
    intro member hmember
    simp only [List.mem_cons, List.not_mem_nil, or_false] at hmember
    rcases hmember with rfl | rfl
    all_goals exact .inl ⟨_, rfl⟩
  | mnemonic words passphrase index language =>
    have hnames : ["index", "kind", "language", "mnemonic", "mnemonic_passphrase"].Pairwise
        (· < ·) := by
      decide
    refine ⟨_, rfl, hnames, ?_⟩
    intro member hmember
    simp only [List.mem_cons, List.not_mem_nil, or_false] at hmember
    rcases hmember with rfl | rfl | rfl | rfl | rfl
    · exact .inr ⟨_, rfl⟩
    all_goals exact .inl ⟨_, rfl⟩

/-- A payload has the material that it was made of. -/
theorem signingMaterialFromPayload_payload (h : HasLanguage material) :
    signingMaterialFromPayload c (materialPayload material) = .ok material := by
  cases material with
  | secret text => rfl
  | mnemonic words passphrase index language =>
    have hlanguage : takeOptionalLanguage c
        (materialPayload (.mnemonic words passphrase index language)) "language" words =
        .ok language := by
      change (ensure (¬ language.isEmpty = true) _ >>= _) = _
      exact ensure_bind_eq_ok.mpr ⟨mt String.isEmpty_iff.mp h, rfl⟩
    unfold signingMaterialFromPayload
    change (takeOptionalLanguage c (materialPayload (.mnemonic words passphrase index language))
      "language" words >>= _) = _
    rw [hlanguage]
    rfl

/-- Trimmed material has the same signer. -/
theorem signer_trimmed : material.trimmed.signer c = material.signer c := by
  cases material with
  | secret text =>
    simp only [ExportedSigningMaterial.trimmed, ExportedSigningMaterial.signer,
      SoftwareSigner.fromSecret, Text.trim_trim]
  | mnemonic words passphrase index language =>
    simp only [ExportedSigningMaterial.trimmed, ExportedSigningMaterial.signer,
      deriveClassicSigner, deriveKey, Text.trim_trim]

/-- A language that is detected has a name. -/
theorem detectMnemonicLanguage_ne {mnemonic language : String}
    (h : detectMnemonicLanguage c mnemonic = .ok language) : language ≠ "" := by
  -- a language that is detected is one of the table
  have hloop : ∀ (languages : List (String × Language)) (detected result : Option String),
      (∀ known ∈ languages, known.1 ≠ "") → (∀ name, detected = some name → name ≠ "") →
      languages.foldlM (fun (detected : Option String) language => do
        if (c.parseIn language.2 (Text.trim mnemonic)).isSome then do
          ensure detected.isNone WalletDerivationError.ambiguousLanguage
          return some language.1
        else return detected) detected = .ok result →
      ∀ name, result = some name → name ≠ "" := by
    intro languages
    induction languages with
    | nil =>
      intro detected result _ hdetected hresult
      rw [← Except.ok.inj hresult]
      exact hdetected
    | cons known languages ih =>
      intro detected result hknown hdetected hresult
      rw [List.foldlM_cons] at hresult
      obtain ⟨next, hnext, hrest⟩ := bind_eq_ok.mp hresult
      apply ih next result (fun other hother => hknown other (List.mem_cons_of_mem _ hother)) ?_
        hrest
      split_ifs at hnext with hparse
      · obtain ⟨-, hname⟩ := ensure_bind_eq_ok.mp hnext
        intro name heq
        rw [← Except.ok.inj hname] at heq
        rw [← Option.some.inj heq]
        exact hknown known List.mem_cons_self
      · rw [← Except.ok.inj hnext]
        exact hdetected
  obtain ⟨detected, hdetected, hsome⟩ := bind_eq_ok.mp h
  exact hloop supportedMnemonicLanguages none detected (by decide) nofun hdetected language
    (okOr_eq_ok.mp hsome)

theorem takeOptionalLanguage_ne {object : Json} {key mnemonic language : String}
    (h : takeOptionalLanguage c object key mnemonic = .ok language) : language ≠ "" := by
  rw [takeOptionalLanguage] at h
  split at h
  · exact detectMnemonicLanguage_ne (mapErr_eq_ok.mp h)
  · exact detectMnemonicLanguage_ne (mapErr_eq_ok.mp h)
  · obtain ⟨hname, h⟩ := ensure_bind_eq_ok.mp h
    rw [← Except.ok.inj h]
    exact mt String.isEmpty_iff.mpr hname
  · cases h

/-- A mnemonic that is opened has a language. -/
theorem hasLanguage_of_payload (h : signingMaterialFromPayload c payload = .ok material) :
    HasLanguage material := by
  obtain ⟨-, h⟩ := ensure_bind_eq_ok.mp h
  obtain ⟨secret, -, h⟩ := bind_eq_ok.mp h
  obtain ⟨mnemonic, -, h⟩ := bind_eq_ok.mp h
  obtain ⟨passphrase, -, h⟩ := bind_eq_ok.mp h
  obtain ⟨kind, -, h⟩ := bind_eq_ok.mp h
  split_ifs at h
  · obtain ⟨text, -, h⟩ := bind_eq_ok.mp h
    rw [← Except.ok.inj h]
    trivial
  · obtain ⟨words, -, h⟩ := bind_eq_ok.mp h
    obtain ⟨index, -, h⟩ := bind_eq_ok.mp h
    obtain ⟨language, hlanguage, h⟩ := bind_eq_ok.mp h
    rw [← Except.ok.inj h]
    exact takeOptionalLanguage_ne hlanguage

/-! ### Protecting material -/

variable {random : SecretStore.Randomness} {protected' : ProtectedWalletMaterial}

theorem protectSecretSigningMaterial_eq_ok {secret : String}
    (h : protectSecretSigningMaterial c random secret passcode = .ok protected') :
    ProtectionRegistry.protect c.toSecretCrates random
      (materialPayload (ExportedSigningMaterial.secret secret).trimmed) passcode =
      .ok protected'.envelope := by
  obtain ⟨signer, -, h⟩ := bind_eq_ok.mp h
  obtain ⟨envelope, henvelope, h⟩ := bind_eq_ok.mp h
  obtain rfl := Except.ok.inj h
  exact mapErr_eq_ok.mp henvelope

theorem protectMnemonicSigningMaterial_eq_ok {words passphrase language : String} {index : U64}
    (hlanguage : language ≠ "")
    (h : protectMnemonicSigningMaterial c random words passphrase index (some language) passcode =
      .ok protected') :
    ProtectionRegistry.protect c.toSecretCrates random
      (materialPayload (ExportedSigningMaterial.mnemonic words passphrase index language).trimmed)
      passcode = .ok protected'.envelope := by
  have hfilter : (some language).filter (¬ ·.isEmpty) = some language := by
    rw [Option.filter_some, if_pos]
    simpa using hlanguage
  rw [protectMnemonicSigningMaterial, hfilter] at h
  obtain ⟨name, hname, h⟩ := bind_eq_ok.mp h
  obtain rfl := Except.ok.inj hname
  obtain ⟨publicKey, -, h⟩ := bind_eq_ok.mp h
  obtain ⟨envelope, henvelope, h⟩ := bind_eq_ok.mp h
  obtain rfl := Except.ok.inj h
  exact mapErr_eq_ok.mp henvelope

/-- What is exported has a signer, which is the one that was expected. -/
theorem exportSigningMaterial_eq_ok
    (h : exportSigningMaterial c envelope passcode expected = .ok material) :
    HasLanguage material ∧ ∃ signer, material.signer c = .ok signer ∧
      ensureExpectedIdentity c signer expected = .ok () := by
  obtain ⟨payload, -, h⟩ := bind_eq_ok.mp h
  obtain ⟨found, hfound, h⟩ := bind_eq_ok.mp h
  obtain ⟨signer, hsigner, h⟩ := bind_eq_ok.mp h
  obtain ⟨hidentity, h⟩ := unit_bind_eq_ok.mp h
  obtain rfl := Except.ok.inj h
  exact ⟨hasLanguage_of_payload hfound, signer, hsigner, hidentity⟩

/-- Material that is protected trimmed is exported trimmed, for the same account. -/
theorem exportSigningMaterial_of_protect {newPasscode : String}
    (h : exportSigningMaterial c envelope passcode expected = .ok material)
    (hprotect : ProtectionRegistry.protect c.toSecretCrates random
      (materialPayload material.trimmed) newPasscode = .ok envelope') :
    exportSigningMaterial c envelope' newPasscode expected = .ok material.trimmed := by
  obtain ⟨hlanguage, signer, hsigner, hidentity⟩ := exportSigningMaterial_eq_ok h
  have hpayload : signingMaterialFromPayload c (materialPayload material.trimmed) =
      .ok material.trimmed := by
    apply signingMaterialFromPayload_payload
    cases material with
    | secret => trivial
    | mnemonic => exact hlanguage
  rw [exportSigningMaterial,
    ProtectionRegistry.unprotect_of_protect (isFlat_materialPayload _) hprotect]
  simp only [mapErr, ok_bind, hpayload, signer_trimmed, hsigner, hidentity, pure_eq_ok]

/-! ### Opening what was protected -/

/-- The signer of material has the text of a key. -/
theorem exists_key_of_signer (h : material.signer c = .ok signer) :
    ∃ key, c.accounts.publicKey key = signer.publicKey := by
  cases material with
  | secret text =>
    obtain ⟨key, -, h⟩ := bind_eq_ok.mp (mapErr_eq_ok.mp h)
    obtain rfl := Except.ok.inj h
    exact ⟨_, rfl⟩
  | mnemonic words passphrase index language =>
    obtain ⟨key, -, h⟩ := bind_eq_ok.mp (mapErr_eq_ok.mp h)
    obtain rfl := Except.ok.inj h
    exact ⟨_, rfl⟩

/-- Material that is protected is exported again for the account of its signer. -/
theorem exportSigningMaterial_of_signer (hlanguage : HasLanguage material)
    (hsigner : material.signer c = .ok signer)
    (hprotect : ProtectionRegistry.protect c.toSecretCrates random (materialPayload material)
      passcode = .ok envelope) :
    exportSigningMaterial c envelope passcode signer.publicKey = .ok material := by
  obtain ⟨key, hkey⟩ := exists_key_of_signer hsigner
  have hidentity : ensureExpectedIdentity c signer signer.publicKey = .ok () := by
    rw [ensureExpectedIdentity_eq_ok, ← hkey, AccountCodec.trim_publicKey]
    exact ⟨key, rfl, rfl⟩
  rw [exportSigningMaterial,
    ProtectionRegistry.unprotect_of_protect (isFlat_materialPayload _) hprotect]
  simp only [mapErr, ok_bind, signingMaterialFromPayload_payload hlanguage, hsigner, hidentity,
    pure_eq_ok]

/-- A secret key that is protected has a signer, which is the one that is named. -/
theorem signer_of_protectSecret {secret : String}
    (h : protectSecretSigningMaterial c random secret passcode = .ok protected') :
    ∃ signer, (ExportedSigningMaterial.secret secret).trimmed.signer c = .ok signer ∧
      signer.publicKey = protected'.publicKey := by
  obtain ⟨signer, hsigner, h⟩ := bind_eq_ok.mp h
  obtain ⟨envelope, -, h⟩ := bind_eq_ok.mp h
  obtain rfl := Except.ok.inj h
  refine ⟨signer, ?_, rfl⟩
  exact mapErr_eq_ok.mpr (mapErr_eq_ok.mp hsigner)

/-- So has a mnemonic, in the language that was given or detected. -/
theorem signer_of_protectMnemonic {words passphrase : String} {index : U64}
    {language : Option String}
    (h : protectMnemonicSigningMaterial c random words passphrase index language passcode =
      .ok protected') :
    ∃ material signer, HasLanguage material ∧ material.signer c = .ok signer ∧
      signer.publicKey = protected'.publicKey ∧
      ProtectionRegistry.protect c.toSecretCrates random (materialPayload material) passcode =
        .ok protected'.envelope := by
  -- a language that was given is not empty, and one that was detected has a name
  have hnamed : ∃ name, name ≠ "" ∧ (do
      let publicKey ← mapErr WalletMaterialError.derivation
        (deriveClassicPublicKey c (Text.trim words) passphrase index name)
      let envelope ← mapErr WalletMaterialError.protection
        (ProtectionRegistry.protect c.toSecretCrates random
          (materialPayload (.mnemonic (Text.trim words) passphrase index name)) passcode)
      return (⟨publicKey, envelope⟩ : ProtectedWalletMaterial)) = .ok protected' := by
    cases hgiven : language.filter (¬ ·.isEmpty) with
    | some given =>
      rw [protectMnemonicSigningMaterial, hgiven] at h
      have hne := (Option.filter_eq_some_iff.mp hgiven).2
      exact ⟨given, mt String.isEmpty_iff.mpr (of_decide_eq_true hne), h⟩
    | none =>
      rw [protectMnemonicSigningMaterial, hgiven] at h
      obtain ⟨name, hname, h⟩ := bind_eq_ok.mp h
      exact ⟨name, detectMnemonicLanguage_ne (mapErr_eq_ok.mp hname), h⟩
  obtain ⟨name, hne, h⟩ := hnamed
  obtain ⟨publicKey, hkey, h⟩ := bind_eq_ok.mp h
  obtain ⟨envelope, henvelope, h⟩ := bind_eq_ok.mp h
  obtain rfl := Except.ok.inj h
  obtain ⟨key, hderived, hpublic⟩ := bind_eq_ok.mp (mapErr_eq_ok.mp hkey)
  obtain rfl := Except.ok.inj hpublic
  refine ⟨.mnemonic (Text.trim words) passphrase index name, SoftwareSigner.fromSigningKey c key,
    hne, ?_, rfl, mapErr_eq_ok.mp henvelope⟩
  rw [ExportedSigningMaterial.signer, deriveClassicSigner, hderived]
  rfl

end ProtectedSigner

end Fresnica
