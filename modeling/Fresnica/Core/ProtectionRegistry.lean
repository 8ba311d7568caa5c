import Fresnica.Core.SecretStore

/-!
# Protected secrets

A protected secret is an envelope of the secret store, in a wrapper that names the kind of
protection, or bare, as it was written before there were wrappers. The registry has the
password provider and no other one.

## Main definitions

* `ProtectionRegistry.kindFor`, `passwordProviderEnvelope` — the envelope in its wrapper
* `ProtectionRegistry.protect`, `unprotect`, `deriveUnlockKey`, `unprotectWithUnlockKey`
* `ProtectionRegistry.migrateLegacyPassword` — the wrapper of a bare envelope

## Main results

* `ProtectionRegistry.unprotect_eq` — a password opens what its key opens
* `ProtectionRegistry.migrateLegacyPassword_migrated` — a wrapper is not wrapped again
* `ProtectionRegistry.passwordProviderEnvelope_migrated` — and has the same envelope in it
* `ProtectionRegistry.unprotect_of_protect`, `unprotect_other` — what opens a protected secret
-/

namespace Fresnica

open Foundation

inductive ProtectionError
  | secretStore (error : SecretStoreError)
  | providerUnavailable (kind : String)
  | unsupportedProtectionKind (kind : String)
  | corruptedMetadata
  | unsupportedFormat
  | unsupportedVersion
  deriving DecidableEq, Repr

def ProtectionError.text : ProtectionError → String
  | .secretStore error => error.text
  | .providerUnavailable kind => s!"protection provider is not available: {kind}"
  | .unsupportedProtectionKind kind => s!"unsupported wallet protection kind: {kind}"
  | .corruptedMetadata => "wallet protection metadata is corrupted"
  | .unsupportedFormat => "unsupported wallet protection format"
  | .unsupportedVersion => "unsupported wallet protection version"

def protectedSecretFormat : String := "fresnica-protected-secret"

def protectedSecretVersion : U64 := .lit 1

namespace ProtectionRegistry

def isLegacyPassword (envelope : Json) : Bool :=
  envelope.isObject ∧ (envelope.get? "format").bind Json.asStr? ≠ some protectedSecretFormat ∧
    (envelope.get? "cipher").bind Json.asStr? = some "aes-256-gcm" ∧
    (envelope.get? "kdf").isSome

def kindFor (envelope : Json) : Except ProtectionError String := do
  ensure envelope.isObject .corruptedMetadata
  if (envelope.get? "format").bind Json.asStr? = some protectedSecretFormat then do
    ensure ((envelope.get? "version").bind Json.asU64? = some protectedSecretVersion)
      .unsupportedVersion
    okOr (((envelope.get? "protection").bind fun protection => protection.get? "type").bind
      Json.asStr?) .corruptedMetadata
  else if isLegacyPassword envelope then return "password"
  else throw .unsupportedFormat

/-- The provider of a kind, of which there is one. -/
def provider (kind : String) : Except ProtectionError Unit :=
  ensure (kind = "password") (.providerUnavailable kind)

def passwordProviderEnvelope (envelope : Json) : Except ProtectionError Json := do
  let kind ← kindFor envelope
  ensure (kind = "password") (.unsupportedProtectionKind kind)
  if isLegacyPassword envelope then return envelope
  else okOr (envelope.get? "payload") .corruptedMetadata

def wrap (kind : String) (providerEnvelope : Json) : Except ProtectionError Json := do
  provider kind
  return .object [("format", .string protectedSecretFormat), ("payload", providerEnvelope),
    ("protection", .object [("type", .string kind)]),
    ("version", .number (.posInt protectedSecretVersion))]

def migrateLegacyPassword (envelope : Json) : Except ProtectionError Json :=
  if isLegacyPassword envelope then wrap "password" envelope else .ok envelope

section Operations

variable (c : SecretCrates)

def protect (random : SecretStore.Randomness) (payload : Json) (password : String) :
    Except ProtectionError Json := do
  provider "password"
  let envelope ← mapErr .secretStore (SecretStore.encryptSecret c random payload password)
  wrap "password" envelope.toValue

def unprotect (envelope : Json) (password : String) : Except ProtectionError Json := do
  let providerEnvelope ← passwordProviderEnvelope envelope
  provider "password"
  let envelope ← okOr (passwordSecretEnvelopeOf? providerEnvelope) .corruptedMetadata
  mapErr .secretStore (SecretStore.decryptSecret c envelope password)

def deriveUnlockKey (envelope : Json) (password : String) : Except ProtectionError Uint256 := do
  let providerEnvelope ← passwordProviderEnvelope envelope
  let envelope ← okOr (passwordSecretEnvelopeOf? providerEnvelope) .corruptedMetadata
  mapErr .secretStore (SecretStore.deriveUnlockKey c envelope password)

def unprotectWithUnlockKey (envelope : Json) (unlockKey : Uint256) :
    Except ProtectionError Json := do
  let providerEnvelope ← passwordProviderEnvelope envelope
  let envelope ← okOr (passwordSecretEnvelopeOf? providerEnvelope) .corruptedMetadata
  mapErr .secretStore (SecretStore.decryptSecretWithUnlockKey c envelope unlockKey)

end Operations

/-- A key that a password does not fit is a wrong password. -/
def passwordError : ProtectionError → ProtectionError
  | .secretStore .invalidUnlockKey => .secretStore .invalidPassword
  | other => other

variable {c : SecretCrates} {envelope migrated payload : Json} {password other kind : String}
  {passwords : Set String} {random : SecretStore.Randomness}

theorem provider_password : provider "password" = .ok () := rfl

/-- A password opens what its key opens. -/
theorem unprotect_eq : unprotect c envelope password = (do
    let key ← deriveUnlockKey c envelope password
    mapErr passwordError (unprotectWithUnlockKey c envelope key)) := by
  unfold unprotect deriveUnlockKey unprotectWithUnlockKey
  cases passwordProviderEnvelope envelope with
  | error e => rfl
  | ok providerEnvelope =>
    simp only [provider_password, ok_bind, SecretStore.decryptSecret_eq]
    cases passwordSecretEnvelopeOf? providerEnvelope with
    | none => rfl
    | some envelope =>
      simp only [okOr, ok_bind]
      cases SecretStore.deriveUnlockKey c envelope password with
      | error e => rfl
      | ok key =>
        simp only [mapErr, ok_bind]
        cases SecretStore.decryptSecretWithUnlockKey c envelope key with
        | ok payload => rfl
        | error e => cases e <;> rfl

/-! ### Wrappers -/

/-- A wrapper is not a bare envelope. -/
theorem isLegacyPassword_wrap {wrapped : Json} (h : wrap "password" envelope = .ok wrapped) :
    isLegacyPassword wrapped = false := by
  obtain rfl := Except.ok.inj h
  rfl

/-- The wrapper has the envelope in it. -/
theorem passwordProviderEnvelope_wrap {wrapped : Json}
    (h : wrap "password" envelope = .ok wrapped) :
    passwordProviderEnvelope wrapped = .ok envelope := by
  obtain rfl := Except.ok.inj h
  rfl

theorem passwordProviderEnvelope_legacy (h : isLegacyPassword envelope = true) :
    passwordProviderEnvelope envelope = .ok envelope := by
  have hparts := h
  rw [isLegacyPassword, decide_eq_true_iff] at hparts
  obtain ⟨hobject, hformat, -, -⟩ := hparts
  have hkind : kindFor envelope = .ok "password" := by
    rw [kindFor, ensure_bind_eq_ok, if_neg hformat, if_pos h]
    exact ⟨hobject, rfl⟩
  rw [passwordProviderEnvelope, hkind, ok_bind, if_pos h]
  rfl

/-- A wrapper is not wrapped again. -/
theorem migrateLegacyPassword_migrated (h : migrateLegacyPassword envelope = .ok migrated) :
    migrateLegacyPassword migrated = .ok migrated := by
  rw [migrateLegacyPassword] at h
  split_ifs at h with hlegacy
  · rw [migrateLegacyPassword, isLegacyPassword_wrap h]
    rfl
  · obtain rfl := Except.ok.inj h
    rw [migrateLegacyPassword, if_neg hlegacy]

/-- A migrated envelope has the same envelope of the secret store in it. -/
theorem passwordProviderEnvelope_migrated (h : migrateLegacyPassword envelope = .ok migrated) :
    passwordProviderEnvelope migrated = passwordProviderEnvelope envelope := by
  rw [migrateLegacyPassword] at h
  split_ifs at h with hlegacy
  · rw [passwordProviderEnvelope_wrap h, passwordProviderEnvelope_legacy hlegacy]
  · obtain rfl := Except.ok.inj h
    rfl

/-! ### What is protected -/

theorem protect_eq_ok (h : protect c random payload password = .ok envelope) :
    ∃ secret, SecretStore.encryptSecret c random payload password = .ok secret ∧
      passwordProviderEnvelope envelope = .ok secret.toValue := by
  rw [protect, provider_password, ok_bind] at h
  obtain ⟨secret, hsecret, h⟩ := bind_eq_ok.mp h
  exact ⟨secret, mapErr_eq_ok.mp hsecret, passwordProviderEnvelope_wrap h⟩

theorem unprotect_of_toValue {secret : PasswordSecretEnvelope}
    (h : passwordProviderEnvelope envelope = .ok secret.toValue) :
    unprotect c envelope password =
      mapErr .secretStore (SecretStore.decryptSecret c secret password) := by
  rw [unprotect, h]
  simp only [ok_bind, provider_password, passwordSecretEnvelopeOf?_toValue, okOr]

/-- The password of a protected payload opens it. -/
theorem unprotect_of_protect (hflat : IsFlat payload)
    (h : protect c random payload password = .ok envelope) :
    unprotect c envelope password = .ok payload := by
  obtain ⟨secret, hsecret, henvelope⟩ := protect_eq_ok h
  rw [unprotect_of_toValue henvelope, SecretStore.decryptSecret_of_encryptSecret hflat hsecret]
  rfl

/-- No other password opens it. -/
theorem unprotect_other (hfree : CollisionFree c passwords) (hpassword : password ∈ passwords)
    (hother : other ∈ passwords) (hne : other ≠ password)
    (h : protect c random payload password = .ok envelope) :
    unprotect c envelope other = .error (.secretStore .emptyPassword) ∨
      unprotect c envelope other = .error (.secretStore .invalidPassword) := by
  obtain ⟨secret, hsecret, henvelope⟩ := protect_eq_ok h
  rw [unprotect_of_toValue henvelope]
  cases SecretStore.decryptSecret_other hfree hpassword hother hne hsecret with
  | inl hempty =>
    rw [hempty]
    exact .inl rfl
  | inr hinvalid =>
    rw [hinvalid]
    exact .inr rfl

end ProtectionRegistry

end Fresnica
