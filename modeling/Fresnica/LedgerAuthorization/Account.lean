import Fresnica.Asset
import Fresnica.LedgerAuthorization.Classic

/-!
# Account authorization from Horizon

The thresholds and signers of an account are read from the account that Horizon returned. Every
signer has to be of the type that its key says, and to be listed once.

## Main definitions

* `LedgerAccountAuthorization.fromHorizon` — the authorization state of an account

## Main results

* `LedgerAccountAuthorization.fromHorizon_sound` — its signers are distinct, and their keys can
  be checked
-/

namespace Fresnica

open Foundation

def jsonString (value : Json) (field label : String) : Except String String :=
  okOr (text value field) s!"{label} is missing {field}"

/-- The value as a byte, if it is one. -/
def byteOf? (value : U64) : Option (Fin 256) :=
  if h : value.val.toNat < 256 then some ⟨value.val.toNat, h⟩ else none

def jsonU8 (value : Json) (field label : String) : Except String (Fin 256) :=
  okOr (value.get? field >>= Json.asU64? >>= byteOf?) s!"{label} is missing {field}"

def horizonSignerKind : String → Except String LedgerSignerKind
  | "ed25519_public_key" => .ok .ed25519PublicKey
  | "preauth_tx" => .ok .preauthorizedTransaction
  | "sha256_hash" => .ok .hashX
  | "ed25519_signed_payload" => .ok .ed25519SignedPayload
  | other => .error s!"unsupported Horizon signer type: {other}"

section Definitions

variable (strKey : StrKey)

def horizonSigner (signer : Json) : Except String WeightedLedgerSigner := do
  let key ← jsonString signer "key" "Horizon signer"
  let signerType ← jsonString signer "type" "Horizon signer"
  let expectedKind ← horizonSignerKind signerType
  let signerKey ← okOr (strKey.signerKeyOf? key) "Horizon signer has an invalid StrKey"
  ensure (signerKey.kind = expectedKind)
    s!"Horizon signer type {signerType} does not match signer key"
  let weight ← jsonU8 signer "weight" "Horizon signer"
  return ⟨⟨expectedKind, key⟩, weight⟩

/-- One more signer, whose condition is new. -/
def pushSigner (signers : List WeightedLedgerSigner) (raw : Json) :
    Except String (List WeightedLedgerSigner) := do
  let signer ← horizonSigner strKey raw
  ensure (signer.condition ∉ signers.map (·.condition))
    "Horizon account authorization contains a duplicate signer"
  return signers ++ [signer]

def LedgerAccountAuthorization.fromHorizon (account : Json) :
    Except String LedgerAccountAuthorization := do
  let accountId ← jsonString account "account_id" "Horizon account authorization"
  -- the id has to be that of a classic account, but its text is kept, not its key
  let _ ← okOr (strKey.publicKeyOf? accountId)
    "Horizon account authorization has an invalid account_id"
  let thresholds ← okOr (account.get? "thresholds")
    "Horizon account authorization is missing thresholds"
  let lowThreshold ← jsonU8 thresholds "low_threshold" "Horizon account thresholds"
  let mediumThreshold ← jsonU8 thresholds "med_threshold" "Horizon account thresholds"
  let highThreshold ← jsonU8 thresholds "high_threshold" "Horizon account thresholds"
  let rawSigners ← okOr (account.get? "signers" >>= Json.asArray?)
    "Horizon account authorization is missing signers"
  let signers ← rawSigners.foldlM (pushSigner strKey) []
  return ⟨accountId, lowThreshold, mediumThreshold, highThreshold, signers⟩

end Definitions

variable {strKey : StrKey} {raw : Json} {rawSigners : List Json}
variable {signer : WeightedLedgerSigner} {signers signers' : List WeightedLedgerSigner}

/-- The key of the signer is one of the kind that its condition says. -/
def WeightedLedgerSigner.Checkable (strKey : StrKey) (signer : WeightedLedgerSigner) : Prop :=
  ∃ key, strKey.signerKeyOf? signer.condition.key = some key ∧ key.kind = signer.condition.kind

theorem horizonSigner_checkable (h : horizonSigner strKey raw = .ok signer) :
    signer.Checkable strKey := by
  obtain ⟨key, -, h⟩ := bind_eq_ok.mp h
  obtain ⟨signerType, -, h⟩ := bind_eq_ok.mp h
  obtain ⟨kind, -, h⟩ := bind_eq_ok.mp h
  obtain ⟨signerKey, hsignerKey, h⟩ := bind_eq_ok.mp h
  obtain ⟨hkind, h⟩ := ensure_bind_eq_ok.mp h
  obtain ⟨weight, -, hresult⟩ := bind_eq_ok.mp h
  rw [← Except.ok.inj hresult]
  exact ⟨signerKey, okOr_eq_ok.mp hsignerKey, hkind⟩

/-- The signers that were read are distinct, and their keys can be checked. -/
structure SoundSigners (strKey : StrKey) (signers : List WeightedLedgerSigner) : Prop where
  nodup : (signers.map (·.condition)).Nodup
  checkable : ∀ signer ∈ signers, signer.Checkable strKey

theorem SoundSigners.push (h : SoundSigners strKey signers)
    (hpush : pushSigner strKey signers raw = .ok signers') : SoundSigners strKey signers' := by
  obtain ⟨signer, hsigner, hpush⟩ := bind_eq_ok.mp hpush
  obtain ⟨hnew, hresult⟩ := ensure_bind_eq_ok.mp hpush
  rw [← Except.ok.inj hresult]
  constructor
  · rw [List.map_append, List.nodup_append]
    refine ⟨h.nodup, List.nodup_singleton _, ?_⟩
    intro condition hmem other hother
    rw [List.map_singleton, List.mem_singleton] at hother
    rw [hother]
    exact ne_of_mem_of_not_mem hmem hnew
  · intro other hother
    rcases List.mem_append.mp hother with hmem | hmem
    · exact h.checkable other hmem
    · rw [List.mem_singleton.mp hmem]
      exact horizonSigner_checkable hsigner

theorem SoundSigners.foldlM (h : SoundSigners strKey signers)
    (hread : rawSigners.foldlM (pushSigner strKey) signers = .ok signers') :
    SoundSigners strKey signers' := by
  induction rawSigners generalizing signers with
  | nil => rwa [← Except.ok.inj hread]
  | cons raw rawSigners ih =>
    rw [List.foldlM_cons] at hread
    obtain ⟨next, hpush, hrest⟩ := bind_eq_ok.mp hread
    exact ih (h.push hpush) hrest

/-- The signers of an account are distinct, and their keys can be checked; its id is an address. -/
theorem LedgerAccountAuthorization.fromHorizon_sound {account : LedgerAccountAuthorization}
    (h : fromHorizon strKey raw = .ok account) :
    SoundSigners strKey account.signers ∧
      (strKey.publicKeyOf? account.accountId).isSome = true := by
  obtain ⟨accountId, -, h⟩ := bind_eq_ok.mp h
  obtain ⟨key, hkey, h⟩ := bind_eq_ok.mp h
  obtain ⟨thresholds, -, h⟩ := bind_eq_ok.mp h
  obtain ⟨low, -, h⟩ := bind_eq_ok.mp h
  obtain ⟨medium, -, h⟩ := bind_eq_ok.mp h
  obtain ⟨high, -, h⟩ := bind_eq_ok.mp h
  obtain ⟨rawSigners, -, h⟩ := bind_eq_ok.mp h
  obtain ⟨signers, hsigners, hresult⟩ := bind_eq_ok.mp h
  rw [← Except.ok.inj hresult]
  have hempty : SoundSigners strKey [] := ⟨List.nodup_nil, by simp⟩
  exact ⟨hempty.foldlM hsigners, by rw [okOr_eq_ok.mp hkey]; rfl⟩

end Fresnica
