import Fresnica.Core.Transaction
import Fresnica.LedgerAuthorization.Plan

/-!
# Satisfied conditions of an envelope

Which conditions of a plan the signatures of an envelope satisfy is decided
condition by condition. Signing more never loses one, and a signature of a key
satisfies the Ed25519 condition of that key.

## Main definitions

* `satisfiedTransactionConditions` — the conditions of a plan that an envelope satisfies
* `satisfiedEd25519Conditions` — those that an Ed25519 signature satisfies

## Main results

* `satisfiedTransactionConditions_eq_ok` — when the check succeeds, and what it returns
* `satisfiedTransactionConditions_mono`, `satisfiedEd25519Conditions_mono` — more signatures
  satisfy as much
-/

namespace Fresnica

open Foundation

section Errors

variable {Bytes Digest : Type} (p : Primitives Bytes Digest)

def transactionXdrBytes (envelope : TransactionEnvelope) : Except String Bytes :=
  mapErr TransactionSigningError.message (transactionEnvelopeXdr p envelope)

def parseTransactionXdr (xdr : Bytes) : Except String TransactionEnvelope :=
  mapErr (fun error => s!"invalid Stellar transaction XDR: {error.message}")
    (parseTransactionEnvelopeXdr p xdr)

/-- Whether the envelope satisfies one condition. -/
def satisfiesCondition (envelope : TransactionEnvelope) (networkPassphrase : String)
    (condition : LedgerSignerCondition) : Except String Bool := do
  let signer ← okOr (p.strKey.signerKeyOf? condition.key)
    "Ledger authorization contains an invalid signer key"
  mapErr (fun error => s!"Unable to verify transaction signer condition: {error.message}")
    (transactionEnvelopeSatisfiesSignerKey p envelope networkPassphrase signer)

def satisfiedTransactionConditions (plan : LedgerAuthorizationPlan)
    (envelope : TransactionEnvelope) (networkPassphrase : String) :
    Except String (BTreeSet LedgerSignerCondition) :=
  BTreeSet.filterM (satisfiesCondition p envelope networkPassphrase) plan.signerConditions

/-- Whether the condition is of an Ed25519 key with a valid signature on the envelope. -/
def satisfiesEd25519 (envelope : TransactionEnvelope) (networkPassphrase : String)
    (condition : LedgerSignerCondition) : Except String Bool :=
  if condition.kind = .ed25519PublicKey then
    mapErr (fun error => s!"Unable to verify existing transaction signature: {error.message}")
      (transactionEnvelopeHasValidSignature p envelope networkPassphrase condition.key)
  else .ok false

def satisfiedEd25519Conditions (plan : LedgerAuthorizationPlan) (envelope : TransactionEnvelope)
    (networkPassphrase : String) : Except String (BTreeSet LedgerSignerCondition) :=
  BTreeSet.filterM (satisfiesEd25519 p envelope networkPassphrase) plan.signerConditions

end Errors

variable {Bytes Digest : Type} {p : Primitives Bytes Digest} {plan : LedgerAuthorizationPlan}
variable {envelope envelope' : TransactionEnvelope} {passphrase : String} {xdr : Bytes}
variable {condition : LedgerSignerCondition} {s : BTreeSet LedgerSignerCondition} {b : Bool}

theorem transactionXdrBytes_eq_ok :
    transactionXdrBytes p envelope = .ok xdr ↔ p.encode envelope = some xdr := by
  rw [transactionXdrBytes, mapErr_eq_ok, transactionEnvelopeXdr, okOr_eq_ok]

theorem parseTransactionXdr_eq_ok :
    parseTransactionXdr p xdr = .ok envelope ↔ p.decode xdr = some envelope := by
  rw [parseTransactionXdr, mapErr_eq_ok, parseTransactionEnvelopeXdr, okOr_eq_ok]

/-- What is decoded from an encoding is what was encoded. -/
theorem Primitives.eq_of_decode_encode (hencode : p.encode envelope = some xdr)
    (hdecode : p.decode xdr = some envelope') : envelope' = envelope :=
  p.encode_injective (p.decode_canonical hdecode) hencode

theorem satisfiesCondition_eq_ok :
    satisfiesCondition p envelope passphrase condition = .ok b ↔
      ∃ signer, p.strKey.signerKeyOf? condition.key = some signer ∧
        transactionEnvelopeSatisfiesSignerKey p envelope passphrase signer = .ok b := by
  simp only [satisfiesCondition, bind_eq_ok, okOr_eq_ok, mapErr_eq_ok]

theorem satisfiedTransactionConditions_eq_ok :
    satisfiedTransactionConditions p plan envelope passphrase = .ok s ↔
      (∀ c ∈ plan.signerConditions, ∃ b, satisfiesCondition p envelope passphrase c = .ok b) ∧
      ∀ c, c ∈ s ↔
        c ∈ plan.signerConditions ∧ satisfiesCondition p envelope passphrase c = .ok true :=
  BTreeSet.filterM_eq_ok

theorem satisfiesCondition_of_subset (hbody : envelope'.body = envelope.body)
    (hsub : ∀ s ∈ envelope.signatures, s ∈ envelope'.signatures)
    (h : satisfiesCondition p envelope passphrase condition = .ok b) :
    ∃ b', satisfiesCondition p envelope' passphrase condition = .ok b' ∧
      (b = true → b' = true) := by
  obtain ⟨signer, hsigner, h⟩ := satisfiesCondition_eq_ok.mp h
  obtain ⟨b', h', hmono⟩ := satisfiesSignerKey_of_subset hbody hsub h
  exact ⟨b', satisfiesCondition_eq_ok.mpr ⟨signer, hsigner, h'⟩, hmono⟩

/-- More signatures on the same body satisfy at least the same conditions. -/
theorem satisfiedTransactionConditions_mono (hbody : envelope'.body = envelope.body)
    (hsub : ∀ s ∈ envelope.signatures, s ∈ envelope'.signatures)
    (h : satisfiedTransactionConditions p plan envelope passphrase = .ok s) :
    ∃ s', satisfiedTransactionConditions p plan envelope' passphrase = .ok s' ∧
      ∀ c ∈ s, c ∈ s' :=
  BTreeSet.filterM_mono h fun _ _ _ hb => satisfiesCondition_of_subset hbody hsub hb

/-! ### Ed25519 conditions -/

/-- A signature is looked for by the address of its key as it is by the condition of the key. -/
theorem hasValidSignature_eq_ok {key : String} :
    transactionEnvelopeHasValidSignature p envelope passphrase key = .ok b ↔
      (p.strKey.publicKeyOf? key).isSome = true ∧
        satisfiesCondition p envelope passphrase (.ed25519 key) = .ok b := by
  rw [satisfiesCondition_eq_ok]
  constructor
  · intro h
    obtain ⟨uint, hkey, h⟩ := bind_eq_ok.mp h
    have hpublic := okOr_eq_ok.mp hkey
    have hsigner : p.strKey.signerKeyOf? key = some (.ed25519 uint) := by
      rw [p.strKey.signerKeyOf?_eq_some_iff, p.strKey.signerKey_ed25519]
      exact p.strKey.publicKeyOf?_eq_some_iff.mp hpublic
    exact ⟨by rw [hpublic]; rfl, _, hsigner, h⟩
  · intro h
    obtain ⟨hsome, signer, hsigner, h⟩ := h
    obtain ⟨uint, hpublic⟩ := Option.isSome_iff_exists.mp hsome
    have hsame : p.strKey.signerKey signer = p.strKey.signerKey (.ed25519 uint) := by
      rw [p.strKey.signerKey_ed25519, p.strKey.publicKeyOf?_eq_some_iff.mp hpublic]
      exact p.strKey.signerKeyOf?_eq_some_iff.mp hsigner
    obtain rfl := p.strKey.signerKey_injective hsame
    exact bind_eq_ok.mpr ⟨uint, okOr_eq_ok.mpr hpublic, h⟩

theorem satisfiesEd25519_of_kind (h : condition.kind = .ed25519PublicKey) :
    satisfiesEd25519 p envelope passphrase condition = .ok b ↔
      transactionEnvelopeHasValidSignature p envelope passphrase condition.key = .ok b := by
  rw [satisfiesEd25519, if_pos h, mapErr_eq_ok]

theorem satisfiesEd25519_eq_true : satisfiesEd25519 p envelope passphrase condition = .ok true ↔
    condition.kind = .ed25519PublicKey ∧
      transactionEnvelopeHasValidSignature p envelope passphrase condition.key = .ok true := by
  by_cases hkind : condition.kind = .ed25519PublicKey
  · rw [satisfiesEd25519_of_kind hkind, and_iff_right hkind]
  · rw [satisfiesEd25519, if_neg hkind]
    exact iff_of_false (by simp) fun h => hkind h.1

theorem satisfiesEd25519_of_subset (hbody : envelope'.body = envelope.body)
    (hsub : ∀ s ∈ envelope.signatures, s ∈ envelope'.signatures)
    (h : satisfiesEd25519 p envelope passphrase condition = .ok b) :
    ∃ b', satisfiesEd25519 p envelope' passphrase condition = .ok b' ∧ (b = true → b' = true) := by
  by_cases hkind : condition.kind = .ed25519PublicKey
  · obtain ⟨hpublic, hcondition⟩ :=
      hasValidSignature_eq_ok.mp ((satisfiesEd25519_of_kind hkind).mp h)
    obtain ⟨b', hb', hmono⟩ := satisfiesCondition_of_subset hbody hsub hcondition
    exact ⟨b', (satisfiesEd25519_of_kind hkind).mpr
      (hasValidSignature_eq_ok.mpr ⟨hpublic, hb'⟩), hmono⟩
  · rw [satisfiesEd25519, if_neg hkind] at h
    exact ⟨b, by rw [satisfiesEd25519, if_neg hkind]; exact h, id⟩

theorem satisfiedEd25519Conditions_eq_ok :
    satisfiedEd25519Conditions p plan envelope passphrase = .ok s ↔
      (∀ c ∈ plan.signerConditions, ∃ b, satisfiesEd25519 p envelope passphrase c = .ok b) ∧
      ∀ c, c ∈ s ↔
        c ∈ plan.signerConditions ∧ satisfiesEd25519 p envelope passphrase c = .ok true :=
  BTreeSet.filterM_eq_ok

theorem satisfiedEd25519Conditions_mono (hbody : envelope'.body = envelope.body)
    (hsub : ∀ s ∈ envelope.signatures, s ∈ envelope'.signatures)
    (h : satisfiedEd25519Conditions p plan envelope passphrase = .ok s) :
    ∃ s', satisfiedEd25519Conditions p plan envelope' passphrase = .ok s' ∧ ∀ c ∈ s, c ∈ s' :=
  BTreeSet.filterM_mono h fun _ _ _ hb => satisfiesEd25519_of_subset hbody hsub hb

end Fresnica
