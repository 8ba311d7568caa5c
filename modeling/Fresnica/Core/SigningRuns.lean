import Fresnica.Core.Transaction
import Fresnica.Foundation.Run

/-!
# Sequences of signings

An envelope is signed by any number of signers, one after the other, some of which may
fail. Signatures are only ever appended, and the body is never touched. When signers
answer by what they are asked to sign, their signatures are the same in every order, so
the same conditions end up satisfied.

## Main definitions

* `TransactionSigningStep` — one signing, whatever it returns
* `ClassicSigner.Deterministic` — the answer depends on the hash and the network alone
* `SignedByAll` — every signer of a list has succeeded

## Main results

* `TransactionSigningStep.appends` — what a signing adds
* `SignedByAll.signatures_perm` — the signatures of one set of signers
* `transaction_signing_appends`
-/

namespace Fresnica

open Foundation

section Definitions

variable {Bytes Digest : Type} (p : Primitives Bytes Digest)

/-- One signing with a signer, for a network, whatever it returns. -/
def TransactionSigningStep (envelope : TransactionEnvelope)
    (call : String × ClassicSigner Bytes Digest) (envelope' : TransactionEnvelope) : Prop :=
  ∃ result, signTransactionEnvelopeInPlace p call.1 call.2 envelope = (result, envelope')

/-- The answer depends on the transaction hash and the network alone. -/
def ClassicSigner.Deterministic (signer : ClassicSigner Bytes Digest) : Prop :=
  ∀ request request', request.transactionHash = request'.transactionHash →
    request.networkPassphrase = request'.networkPassphrase →
    signer.signTransaction request = signer.signTransaction request'

/-- Every signer succeeds, one after the other. -/
def SignedByAll (networkPassphrase : String) (envelope : TransactionEnvelope)
    (signers : List (ClassicSigner Bytes Digest)) (final : TransactionEnvelope) : Prop :=
  Run (fun envelope signer envelope' =>
    signTransactionEnvelopeInPlace p networkPassphrase signer envelope = (.ok (), envelope'))
    envelope signers final

end Definitions

variable {Bytes Digest : Type} {p : Primitives Bytes Digest}
variable {envelope envelope' final final' : TransactionEnvelope} {networkPassphrase : String}
variable {signer : ClassicSigner Bytes Digest} {call : String × ClassicSigner Bytes Digest}
variable {calls : List (String × ClassicSigner Bytes Digest)} {signerKey : SignerKey}
variable {signers signers' : List (ClassicSigner Bytes Digest)}

/-- A signing leaves the envelope as it was, or appends one signature within the limit. -/
theorem TransactionSigningStep.appends (h : TransactionSigningStep p envelope call envelope') :
    envelope' = envelope ∨ ∃ decorated, envelope.signatures.length + 1 ≤ maxSignatures ∧
      envelope' = envelope.withSignatures (envelope.signatures ++ [decorated]) := by
  obtain ⟨result, h⟩ := h
  cases result with
  | error e => exact Or.inl (signTransactionEnvelopeInPlace_atomic _ _ _ h)
  | ok _ =>
    have hsign := signTransactionEnvelopeInPlace_eq_ok.mp h
    simp only [signTransactionEnvelope, bind_eq_ok, ensure_eq_ok, pure_eq_ok,
      Except.ok.injEq] at hsign
    obtain ⟨_, -, _, -, _, -, _, -, _, -, _, -, _, hlength, rfl⟩ := hsign
    exact Or.inr ⟨_, hlength, rfl⟩

theorem TransactionSigningStep.body_eq (h : TransactionSigningStep p envelope call envelope') :
    envelope'.body = envelope.body := by
  rcases h.appends with rfl | ⟨decorated, -, rfl⟩
  · rfl
  · exact TransactionEnvelope.body_withSignatures _ _

theorem TransactionSigningStep.length_le (h : TransactionSigningStep p envelope call envelope')
    (hlength : envelope.signatures.length ≤ maxSignatures) :
    envelope'.signatures.length ≤ maxSignatures := by
  rcases h.appends with rfl | ⟨decorated, hroom, rfl⟩
  · exact hlength
  · rw [TransactionEnvelope.signatures_withSignatures, List.length_append]
    exact hroom

theorem TransactionSigningStep.subset (h : TransactionSigningStep p envelope call envelope') :
    ∀ s ∈ envelope.signatures, s ∈ envelope'.signatures := by
  intro s hs
  rcases h.appends with rfl | ⟨decorated, -, rfl⟩
  · exact hs
  · rw [TransactionEnvelope.signatures_withSignatures]
    exact List.mem_append_left _ hs

/-- A condition that is satisfied stays satisfied. -/
theorem TransactionSigningStep.satisfies
    (hstep : TransactionSigningStep p envelope call envelope')
    (h : transactionEnvelopeSatisfiesSignerKey p envelope networkPassphrase signerKey =
      .ok true) :
    transactionEnvelopeSatisfiesSignerKey p envelope' networkPassphrase signerKey = .ok true := by
  obtain ⟨b, hb, htrue⟩ := satisfiesSignerKey_of_subset hstep.body_eq hstep.subset h
  rw [hb, htrue rfl]

/-! ### Order -/

/-- The signature a deterministic signer gives a transaction. -/
theorem signTransactionEnvelopeInPlace_decorated {hash : Digest} (xdr : Bytes)
    (hsigner : signer.Deterministic) (hhash : p.hash networkPassphrase envelope.body = some hash)
    (h : signTransactionEnvelopeInPlace p networkPassphrase signer envelope =
      (.ok (), envelope')) :
    ∃ signature hint, signer.signTransaction ⟨hash, xdr, networkPassphrase⟩ = .ok signature ∧
      signer.signatureHint p = .ok hint ∧
      envelope' = envelope.withSignatures
        (envelope.signatures ++ [⟨hint, signature.toList⟩]) := by
  have hsign := signTransactionEnvelopeInPlace_eq_ok.mp h
  simp only [signTransactionEnvelope, transactionHash, bind_eq_ok, okOr_eq_ok, mapErr_eq_ok,
    pure_eq_ok, Except.ok.injEq] at hsign
  obtain ⟨hash', hhash', xdr', -, signature, hsignature, _, -, hint, hhint, _, -, _, -, rfl⟩ :=
    hsign
  obtain rfl := Option.some.inj (hhash.symm.trans hhash')
  refine ⟨signature, hint, ?_, hhint, rfl⟩
  rw [← hsignature]
  exact hsigner _ _ rfl rfl

theorem SignedByAll.body_eq (h : SignedByAll p networkPassphrase envelope signers final) :
    final.body = envelope.body := by
  induction h with
  | nil => rfl
  | snoc _ hstep ih =>
    have hlast : TransactionSigningStep p _ (networkPassphrase, _) _ := ⟨_, hstep⟩
    exact hlast.body_eq.trans ih

/-- The signature of a signer, as far as it answers. -/
def decoratedBy (p : Primitives Bytes Digest) (networkPassphrase : String) (hash : Digest)
    (xdr : Bytes) (signer : ClassicSigner Bytes Digest) : Option DecoratedSignature :=
  match signer.signTransaction ⟨hash, xdr, networkPassphrase⟩, signer.signatureHint p with
  | .ok signature, .ok hint => some ⟨hint, signature.toList⟩
  | _, _ => none

/-- Deterministic signers append the signatures they give the transaction. -/
theorem SignedByAll.signatures_eq {hash : Digest} (xdr : Bytes)
    (h : SignedByAll p networkPassphrase envelope signers final)
    (hsigners : ∀ signer ∈ signers, signer.Deterministic)
    (hhash : p.hash networkPassphrase envelope.body = some hash) :
    final.signatures = envelope.signatures ++
      signers.filterMap (decoratedBy p networkPassphrase hash xdr) := by
  induction h with
  | nil => simp
  | snoc hrun hstep ih =>
    rename_i before middle last signer
    have hbefore := ih fun signer hmem => hsigners signer (List.mem_append_left _ hmem)
    have hmiddle : p.hash networkPassphrase middle.body = some hash := by
      have hsame : SignedByAll p networkPassphrase envelope before middle := hrun
      rw [hsame.body_eq]
      exact hhash
    have hlast := hsigners signer (List.mem_append_right _ (List.mem_singleton_self _))
    obtain ⟨signature, hint, hsignature, hhint, rfl⟩ :=
      signTransactionEnvelopeInPlace_decorated xdr hlast hmiddle hstep
    have hdecorated : decoratedBy p networkPassphrase hash xdr signer =
        some ⟨hint, signature.toList⟩ := by
      simp only [decoratedBy, hsignature, hhint]
    rw [TransactionEnvelope.signatures_withSignatures, hbefore, List.filterMap_append,
      List.append_assoc, List.filterMap_cons, hdecorated, List.filterMap_nil]

/-- Without signers nothing happens; a signing has a hash to sign and an encoding. -/
theorem SignedByAll.eq_or (h : SignedByAll p networkPassphrase envelope signers final) :
    signers = [] ∧ final = envelope ∨
      (∃ hash, p.hash networkPassphrase envelope.body = some hash) ∧ Nonempty Bytes := by
  cases h with
  | nil => exact Or.inl ⟨rfl, rfl⟩
  | snoc hrun hstep =>
    rename_i before middle signer
    have hsame : SignedByAll p networkPassphrase envelope before middle := hrun
    have hsign := signTransactionEnvelopeInPlace_eq_ok.mp hstep
    simp only [signTransactionEnvelope, transactionHash, bind_eq_ok, okOr_eq_ok] at hsign
    obtain ⟨hash, hhash, xdr, -, -⟩ := hsign
    rw [hsame.body_eq] at hhash
    exact Or.inr ⟨⟨hash, hhash⟩, ⟨xdr⟩⟩

/-- In any order, deterministic signers leave the same signatures. -/
theorem SignedByAll.signatures_perm
    (h : SignedByAll p networkPassphrase envelope signers final)
    (h' : SignedByAll p networkPassphrase envelope signers' final')
    (hperm : signers.Perm signers') (hsigners : ∀ signer ∈ signers, signer.Deterministic) :
    final.signatures.Perm final'.signatures := by
  rcases h.eq_or with ⟨rfl, rfl⟩ | ⟨⟨hash, hhash⟩, ⟨xdr⟩⟩
  · rcases h'.eq_or with ⟨-, rfl⟩ | ⟨⟨hash, hhash⟩, ⟨xdr⟩⟩
    · exact List.Perm.refl _
    · rw [h'.signatures_eq xdr (by simp [hperm.nil_eq.symm]) hhash, ← hperm.nil_eq]
      simp
  · have hsigners' : ∀ signer ∈ signers', signer.Deterministic := by
      intro signer hmem
      exact hsigners signer (hperm.mem_iff.mpr hmem)
    rw [h.signatures_eq xdr hsigners hhash, h'.signatures_eq xdr hsigners' hhash]
    exact (hperm.filterMap _).append_left _

/-- The same signatures on the same body satisfy the same conditions. -/
theorem satisfiesSignerKey_of_perm (hbody : envelope'.body = envelope.body)
    (hperm : envelope'.signatures.Perm envelope.signatures) :
    transactionEnvelopeSatisfiesSignerKey p envelope' networkPassphrase signerKey =
      transactionEnvelopeSatisfiesSignerKey p envelope networkPassphrase signerKey := by
  have hany : ∀ q : DecoratedSignature → Bool,
      envelope'.signatures.any q = envelope.signatures.any q := fun q => hperm.any_eq
  cases signerKey <;>
    simp only [transactionEnvelopeSatisfiesSignerKey, transactionHash, hbody, hany]

/-- A signing fails and changes nothing, or appends one signature: the signer's own
condition is then satisfied, and so is every condition that was. Over any signings the
hash stays, and no more than twenty signatures accumulate. Which conditions deterministic
signers leave satisfied does not depend on their order. -/
theorem transaction_signing_appends {Bytes Digest : Type} (p : Primitives Bytes Digest) :
    (∀ envelope envelope' networkPassphrase signer result,
      signTransactionEnvelopeInPlace p networkPassphrase signer envelope = (result, envelope') →
        ((∃ e, result = .error e) → envelope' = envelope) ∧
        (result = .ok () →
          (∃ decorated,
            envelope' = envelope.withSignatures (envelope.signatures ++ [decorated])) ∧
          (∃ key, p.strKey.publicKeyOf? signer.publicKey = some key ∧
            transactionEnvelopeSatisfiesSignerKey p envelope' networkPassphrase (.ed25519 key) =
              .ok true) ∧
          ∀ network condition,
            transactionEnvelopeSatisfiesSignerKey p envelope network condition = .ok true →
            transactionEnvelopeSatisfiesSignerKey p envelope' network condition = .ok true)) ∧
    (∀ envelope calls final, Run (TransactionSigningStep p) envelope calls final →
      (∀ network, transactionHash p final network = transactionHash p envelope network) ∧
      (envelope.signatures.length ≤ maxSignatures → final.signatures.length ≤ maxSignatures) ∧
      ∀ network condition,
        transactionEnvelopeSatisfiesSignerKey p envelope network condition = .ok true →
        transactionEnvelopeSatisfiesSignerKey p final network condition = .ok true) ∧
    ∀ envelope networkPassphrase signers signers' final final',
      (∀ signer ∈ signers, ClassicSigner.Deterministic signer) → signers.Perm signers' →
      SignedByAll p networkPassphrase envelope signers final →
      SignedByAll p networkPassphrase envelope signers' final' →
      ∀ network condition,
        transactionEnvelopeSatisfiesSignerKey p final network condition =
          transactionEnvelopeSatisfiesSignerKey p final' network condition := by
  refine ⟨?_, ?_, ?_⟩
  · intro envelope envelope' networkPassphrase signer result h
    refine ⟨?_, ?_⟩
    · rintro ⟨e, rfl⟩
      exact signTransactionEnvelopeInPlace_atomic _ _ _ h
    · rintro rfl
      have hsign := signTransactionEnvelopeInPlace_eq_ok.mp h
      have hstep : TransactionSigningStep p envelope (networkPassphrase, signer) envelope' :=
        ⟨_, h⟩
      obtain ⟨key, hash, decorated, hkey, -, -, -, hsigned⟩ := signTransactionEnvelope_ok hsign
      exact ⟨⟨decorated, hsigned⟩,
        ⟨key, hkey, satisfiesSignerKey_signTransactionEnvelope hsign hkey⟩,
        fun network condition => hstep.satisfies⟩
  -- by induction on the calls: each keeps the body, and what was satisfied before it
  · intro envelope calls final hrun
    induction hrun with
    | nil => exact ⟨fun _ => rfl, id, fun _ _ => id⟩
    | snoc _ hstep ih =>
      obtain ⟨hhash, hlength, hconditions⟩ := ih
      refine ⟨?_, fun h => hstep.length_le (hlength h), ?_⟩
      · intro network
        rw [← hhash network, transactionHash, hstep.body_eq, transactionHash]
      · intro network condition h
        exact hstep.satisfies (hconditions network condition h)
  -- the signatures are the same up to their order, and no condition looks at it
  · intro envelope networkPassphrase signers signers' final final' hsigners hperm h h' network
      condition
    exact satisfiesSignerKey_of_perm (h.body_eq.trans h'.body_eq.symm)
      (h.signatures_perm h' hperm hsigners)

end Fresnica
