import Fresnica.Core.ClientApi
import Fresnica.Python.WalletStorage

/-!
# The process client

The wallet layer leaves protected signers to the core, which it reaches through a process. A
method of the client returns what the core returns, and raises an exception whose class says
what the code of the core's error says; the messages of wrong passwords, wrong keys and other
signers are the client's own.

An account index is any integer here, and the process takes those of 32 bits.

## Main definitions

* `FresnicaProcessClient.protectSecret`, `protectMnemonic`, `generateMnemonic`, `reprotect`
* `FresnicaProcessClient.deriveVerifiedUnlockKey`, `validateUnlockKey`, `reveal`

## Main results

* `isProtected_of_protectSecret`, `isProtected_of_protectMnemonic`,
  `isProtected_of_generateMnemonic`, `isProtected_of_reprotect` — the passcode of a new envelope
  opens it, for a signer that is the expected one
* `validateUnlockKey_of_derive` — a derived key is accepted
-/

namespace Fresnica.Python

open Foundation

structure ProtectedSoftwareSignerResult where
  signerPublicKey : String
  envelope : Json

structure GeneratedMnemonicResult where
  signerPublicKey : String
  envelope : Json
  mnemonic : String
  language : String
  index : ℤ

namespace FresnicaProcessClient

/-! ### Exceptions -/

def invalidPassword : WalletError := ⟨.invalidPassword, "Invalid wallet password"⟩

def invalidUnlockKey : WalletError := ⟨.invalidUnlockKey, "Invalid wallet unlock key"⟩

def signerMismatch : WalletError :=
  ⟨.walletLocked, "Signer identity does not match expected signer"⟩

/-- The exception of an operation without a passcode to check. -/
def protectError (error : SdkError) : WalletError :=
  match error.code with
  | .identityMismatch => signerMismatch
  | _ => ⟨.wallet, error.message⟩

/-- The exception of an operation with a passcode. -/
def passcodeError (error : SdkError) : WalletError :=
  match error.code with
  | .invalidPasscode => invalidPassword
  | .identityMismatch => signerMismatch
  | _ => ⟨.wallet, error.message⟩

/-- The exception of an operation with an unlock key. -/
def unlockKeyError (error : SdkError) : WalletError :=
  match error.code with
  | .invalidUnlockKey => invalidUnlockKey
  | .identityMismatch => signerMismatch
  | _ => ⟨.wallet, error.message⟩

/-- The error of the process for a field that has no value of its kind. -/
def invalidField (field : String) : WalletError :=
  ⟨.wallet, s!"invalid or missing field: {field}"⟩

/-- A number as the process takes it. -/
def takeU32 (field : String) (value : ℤ) : Except WalletError U64 := do
  let value : U32 ← okOr (BoundedInt.ofInt? value) (invalidField field)
  okOr value.tryFrom (invalidField field)

/-! ### Methods -/

section Methods

variable (c : WalletCrates) (random : SecretStore.Randomness)

def parseAccount (address : String) : Except WalletError AccountIdentity :=
  mapErr (fun error => ⟨.wallet, error.message⟩) (Fresnica.parseAccount c.accounts address)

def protectSecret (secret passcode : String) (expectedSignerPublicKey : Option String) :
    Except WalletError ProtectedSoftwareSignerResult := do
  let signer ← mapErr protectError
    (CoreClientApi.protectSecret c random secret passcode expectedSignerPublicKey)
  return ⟨signer.signerPublicKey, signer.envelope⟩

def protectMnemonic (mnemonic passcode mnemonicPassphrase : String) (index : ℤ)
    (language : Option String) (expectedSignerPublicKey : Option String) :
    Except WalletError ProtectedSoftwareSignerResult := do
  let index ← takeU32 "index" index
  let signer ← mapErr protectError (CoreClientApi.protectMnemonic c random mnemonic
    mnemonicPassphrase index language passcode expectedSignerPublicKey)
  return ⟨signer.signerPublicKey, signer.envelope⟩

/-- The bytes of entropy for a strength in bits. -/
def entropyBytes : ℤ → Option ℕ
  | 128 => some 16
  | 160 => some 20
  | 192 => some 24
  | 224 => some 28
  | 256 => some 32
  | _ => none

/-- The entropy that the system has, and the words that spell it. -/
structure MnemonicCrates where
  entropy : (bytes : ℕ) → Option (List UInt8)
  fromEntropyIn : Language → List UInt8 → Option String

def invalidStrength : WalletError := ⟨.wallet, "invalid mnemonic entropy strength"⟩

def generateMnemonicPhrase (crates : MnemonicCrates) (language : String) (strength : ℤ) :
    Except WalletError String := do
  let bytes ← okOr (entropyBytes strength) invalidStrength
  let entropy ← okOr (crates.entropy bytes) ⟨.wallet, "secure randomness is unavailable"⟩
  let spelled ← mapErr (fun error => ⟨.wallet, WalletDerivationError.text error⟩)
    (mnemonicLanguage language)
  okOr (crates.fromEntropyIn spelled entropy) invalidStrength

def generateMnemonic (crates : MnemonicCrates) (passcode mnemonicPassphrase : String) (index : ℤ)
    (language : String) (strength : ℤ) : Except WalletError GeneratedMnemonicResult := do
  let _ ← takeU32 "strength" strength
  let taken ← takeU32 "index" index
  let mnemonic ← generateMnemonicPhrase crates language strength
  let material ← mapErr
    (fun error => protectError (CoreClientApi.classifyWalletMaterialError error))
    (ProtectedSigner.protectMnemonicSigningMaterial c random mnemonic mnemonicPassphrase taken
      (some language) passcode)
  return ⟨material.publicKey, material.envelope, mnemonic, language, index⟩

def reprotect (envelope : Json) (currentPasscode newPasscode expectedSignerPublicKey : String) :
    Except WalletError ProtectedSoftwareSignerResult := do
  let signer ← mapErr passcodeError
    (CoreClientApi.reprotect c random envelope currentPasscode newPasscode expectedSignerPublicKey)
  return ⟨signer.signerPublicKey, signer.envelope⟩

def deriveVerifiedUnlockKey (envelope : Json) (passcode expectedSignerPublicKey : String) :
    Except WalletError Uint256 :=
  mapErr passcodeError (CoreClientApi.deriveUnlockKey c envelope passcode expectedSignerPublicKey)

def validateUnlockKey (envelope : Json) (unlockKey : Uint256) (expectedSignerPublicKey : String) :
    Except WalletError Unit :=
  mapErr unlockKeyError
    (CoreClientApi.validateUnlockKey c envelope unlockKey expectedSignerPublicKey)

def reveal (envelope : Json) (passcode expectedSignerPublicKey : String) :
    Except WalletError ExportedSigningMaterial :=
  mapErr passcodeError (CoreClientApi.reveal c envelope passcode expectedSignerPublicKey)

end Methods

/-! ### What opens a new envelope -/

/-- The passcode opens the envelope for the account. -/
def Opens (c : WalletCrates) (envelope : Json) (passcode expected : String) : Prop :=
  ∃ unlockKey, deriveVerifiedUnlockKey c envelope passcode expected = .ok unlockKey

/-- A new envelope: its signer has the text of a key, and its passcode opens it. -/
structure IsProtected (c : WalletCrates) (passcode signerPublicKey : String) (envelope : Json) :
    Prop where
  key : ∃ key, c.accounts.publicKey key = signerPublicKey
  opens : Opens c envelope passcode signerPublicKey

variable {c : WalletCrates} {random : SecretStore.Randomness} {crates : MnemonicCrates}
  {envelope : Json} {secret mnemonic mnemonicPassphrase passcode newPasscode expected : String}
  {expected? : Option String} {language : String} {language? : Option String} {index strength : ℤ}
  {unlockKey : Uint256} {result : ProtectedSoftwareSignerResult}
  {generated : GeneratedMnemonicResult}

theorem opens_iff_reveal :
    Opens c envelope passcode expected ↔ ∃ material, reveal c envelope passcode expected =
      .ok material := by
  have hboth : (CoreClientApi.reveal c envelope passcode expected).isOk ↔
      (CoreClientApi.deriveUnlockKey c envelope passcode expected).isOk :=
    CoreClientApi.reveal_isOk_iff
  unfold Opens deriveVerifiedUnlockKey reveal
  cases hreveal : CoreClientApi.reveal c envelope passcode expected with
  | error revealError =>
    cases hderive : CoreClientApi.deriveUnlockKey c envelope passcode expected with
    | error deriveError => simp [mapErr]
    | ok key => simp [hreveal, hderive, Except.isOk, Except.toBool] at hboth
  | ok material =>
    cases hderive : CoreClientApi.deriveUnlockKey c envelope passcode expected with
    | error deriveError => simp [hreveal, hderive, Except.isOk, Except.toBool] at hboth
    | ok key => simp [mapErr]

theorem opens_of_export {material : ExportedSigningMaterial}
    (h : ProtectedSigner.exportSigningMaterial c envelope passcode expected = .ok material) :
    Opens c envelope passcode expected :=
  opens_iff_reveal.mpr ⟨material, mapErr_eq_ok.mpr (mapErr_eq_ok.mpr h)⟩

/-- The signer that a caller expected is the one of the text. -/
theorem ensureExpectedSignerPublicKey_eq_ok {actual : String}
    (h : CoreClientApi.ensureExpectedSignerPublicKey c actual (some expected) = .ok ()) :
    actual = Text.trim expected := by
  obtain ⟨identity, hidentity, h⟩ := bind_eq_ok.mp h
  obtain ⟨-, h⟩ := ensure_bind_eq_ok.mp h
  have hkey := ensure_eq_ok.mp h
  have hparse := mapErr_eq_ok.mp hidentity
  rw [AccountIdentity.parse] at hparse
  split at hparse
  · cases hparse
  · obtain rfl := Except.ok.inj hparse
    exact (Option.some.inj hkey).symm
  · obtain rfl := Except.ok.inj hparse
    cases hkey
  · cases hparse

/-- A mnemonic that is protected is opened by the passcode. -/
theorem isProtected_of_mnemonic {taken : U64} {material : ProtectedSigner.ProtectedWalletMaterial}
    (h : ProtectedSigner.protectMnemonicSigningMaterial c random mnemonic mnemonicPassphrase taken
      language? passcode = .ok material) :
    IsProtected c passcode material.publicKey material.envelope := by
  obtain ⟨exported, signer, hlanguage, hsigner, hkey, hprotect⟩ :=
    ProtectedSigner.signer_of_protectMnemonic h
  have hexport := ProtectedSigner.exportSigningMaterial_of_signer hlanguage hsigner hprotect
  exact ⟨hkey ▸ ProtectedSigner.exists_key_of_signer hsigner, opens_of_export (hkey ▸ hexport)⟩

variable {signer : CoreClientApi.ClientProtectedSoftwareSigner}

theorem protectSecret_eq_ok
    (h : CoreClientApi.protectSecret c random secret passcode expected? = .ok signer) :
    IsProtected c passcode signer.signerPublicKey signer.envelope ∧
      ∀ text, expected? = some text → signer.signerPublicKey = Text.trim text := by
  obtain ⟨material, hmaterial, h⟩ := bind_eq_ok.mp h
  obtain ⟨hexpected, h⟩ := unit_bind_eq_ok.mp h
  obtain rfl := Except.ok.inj h
  have hprotect := ProtectedSigner.protectSecretSigningMaterial_eq_ok (mapErr_eq_ok.mp hmaterial)
  obtain ⟨found, hsigner, hkey⟩ :=
    ProtectedSigner.signer_of_protectSecret (mapErr_eq_ok.mp hmaterial)
  have hlanguage : ProtectedSigner.HasLanguage (ExportedSigningMaterial.secret secret).trimmed :=
    trivial
  have hexport := ProtectedSigner.exportSigningMaterial_of_signer hlanguage hsigner hprotect
  refine ⟨⟨?_, ?_⟩, ?_⟩
  · exact hkey ▸ ProtectedSigner.exists_key_of_signer hsigner
  · exact opens_of_export (hkey ▸ hexport)
  · rintro text rfl
    exact ensureExpectedSignerPublicKey_eq_ok hexpected

theorem protectMnemonic_eq_ok {taken : U64}
    (h : CoreClientApi.protectMnemonic c random mnemonic mnemonicPassphrase taken language?
      passcode expected? = .ok signer) :
    IsProtected c passcode signer.signerPublicKey signer.envelope ∧
      ∀ text, expected? = some text → signer.signerPublicKey = Text.trim text := by
  obtain ⟨protected', hprotected, h⟩ := bind_eq_ok.mp h
  obtain ⟨hexpected, h⟩ := unit_bind_eq_ok.mp h
  obtain rfl := Except.ok.inj h
  refine ⟨isProtected_of_mnemonic (mapErr_eq_ok.mp hprotected), ?_⟩
  rintro text rfl
  exact ensureExpectedSignerPublicKey_eq_ok hexpected

/-! ### The methods -/

/-- A secret key that is protected is opened by the passcode. -/
theorem isProtected_of_protectSecret
    (h : protectSecret c random secret passcode expected? = .ok result) :
    IsProtected c passcode result.signerPublicKey result.envelope ∧
      ∀ text, expected? = some text → result.signerPublicKey = Text.trim text := by
  obtain ⟨signer, hsigner, h⟩ := bind_eq_ok.mp h
  obtain rfl := Except.ok.inj h
  exact protectSecret_eq_ok (mapErr_eq_ok.mp hsigner)

/-- So is a mnemonic. -/
theorem isProtected_of_protectMnemonic
    (h : protectMnemonic c random mnemonic passcode mnemonicPassphrase index language? expected? =
      .ok result) :
    IsProtected c passcode result.signerPublicKey result.envelope ∧
      ∀ text, expected? = some text → result.signerPublicKey = Text.trim text := by
  obtain ⟨taken, -, h⟩ := bind_eq_ok.mp h
  obtain ⟨signer, hsigner, h⟩ := bind_eq_ok.mp h
  obtain rfl := Except.ok.inj h
  exact protectMnemonic_eq_ok (mapErr_eq_ok.mp hsigner)

/-- And one that is generated. -/
theorem isProtected_of_generateMnemonic
    (h : generateMnemonic c random crates passcode mnemonicPassphrase index language strength =
      .ok generated) : IsProtected c passcode generated.signerPublicKey generated.envelope := by
  obtain ⟨_, -, h⟩ := bind_eq_ok.mp h
  obtain ⟨taken, -, h⟩ := bind_eq_ok.mp h
  obtain ⟨phrase, -, h⟩ := bind_eq_ok.mp h
  obtain ⟨material, hmaterial, h⟩ := bind_eq_ok.mp h
  obtain rfl := Except.ok.inj h
  exact isProtected_of_mnemonic (mapErr_eq_ok.mp hmaterial)

/-- A signer that is protected again is opened by the new passcode, and is the same one. -/
theorem isProtected_of_reprotect
    (h : reprotect c random envelope passcode newPasscode expected = .ok result) :
    IsProtected c newPasscode result.signerPublicKey result.envelope ∧
      result.signerPublicKey = Text.trim expected := by
  obtain ⟨signer, hsigner, h⟩ := bind_eq_ok.mp h
  obtain rfl := Except.ok.inj h
  obtain ⟨material, -, hsigner⟩ := bind_eq_ok.mp (mapErr_eq_ok.mp hsigner)
  cases material with
  | secret secret =>
    obtain ⟨hprotected, hexpected⟩ := protectSecret_eq_ok hsigner
    exact ⟨hprotected, hexpected expected rfl⟩
  | mnemonic words passphrase index language =>
    obtain ⟨hprotected, hexpected⟩ := protectMnemonic_eq_ok hsigner
    exact ⟨hprotected, hexpected expected rfl⟩

/-- A key that is derived is accepted. -/
theorem validateUnlockKey_of_derive
    (h : deriveVerifiedUnlockKey c envelope passcode expected = .ok unlockKey) :
    validateUnlockKey c envelope unlockKey expected = .ok () :=
  mapErr_eq_ok.mpr (CoreClientApi.validateUnlockKey_of_derive (mapErr_eq_ok.mp h)).1

end FresnicaProcessClient

end Fresnica.Python
