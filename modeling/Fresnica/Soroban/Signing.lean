import Fresnica.LedgerAuthorization.Classic
import Fresnica.SigningCoordination.Providers
import Fresnica.Soroban.Prepared
import Fresnica.Transaction.Build

/-!
# Signing the envelope of a prepared Soroban transaction

The envelope is signed in place, after its bytes were compared with the authorized
ones. A call that fails before the first signature changes nothing. A call that
fails after it leaves an envelope with more signatures than the authorized bytes,
and from then on every call is refused.

## Main definitions

* `signPreparedSorobanWithProviders`
* `SignsPartially` — one selected signer signs and a later one fails
* `FailureKeeps` — a failed call leaves the transaction, and its prospects, as they were

## Main results

* `signPreparedSorobanWithProviders_failureKeeps_iff` — exactly when that is so
* `signPreparedSorobanWithProviders_stuck` — otherwise every later call fails
* `sign_second_signer_fails` — two signers of which the second fails
-/

namespace Fresnica

open Foundation

section Definitions

variable {Bytes Digest : Type} [DecidableEq Bytes] [DecidableEq Digest]
variable (p : Primitives Bytes Digest) (sdk : TransactionSdk Bytes Digest)
variable (loadPlan : PlanLoader) (access : SignerAccess Bytes Digest) (now : Instant)
variable (prepared : PreparedSorobanTransaction Bytes Digest)

/-- The checks before the envelope is signed, with the plan to sign for. -/
def PreparedSorobanTransaction.signingPlan : Except String LedgerAuthorizationPlan := do
  ensure (prepared.authorizedEnvelopeXdr.isSome = true)
    "Authorize the reviewed Soroban transaction before envelope signing"
  ensure (prepared.envelopeSigningComplete = false)
    "Soroban transaction envelope signing has already completed"
  prepared.assertReviewBinding p
  ensureTransactionNotExpired prepared.envelope now
  loadPlan prepared.envelope

def signPreparedSorobanWithProviders :
    Except String Unit × PreparedSorobanTransaction Bytes Digest :=
  match prepared.signingPlan p loadPlan now with
  | .error error => (.error error, prepared)
  | .ok authorization =>
    let (result, envelope) := signWithEd25519Providers p sdk authorization
      prepared.review.network access prepared.envelope
    let signed := { prepared with envelope }
    match result >>= fun _ => signed.assertSubmitBinding p with
    | .error error => (.error error, signed)
    | .ok _ => (.ok (), { signed with envelopeSigningComplete := true })

/-- The first selected signer signs, and a later one fails: its provider, its
system authentication, its passcode or the check of its signature. -/
def SignsPartially (vault : Vault Bytes Digest) : Prop :=
  ∃ plan signers first before key after signed signed' e,
    prepared.signingPlan p loadPlan now = .ok plan ∧
    signersFor p (fresnicaSdk p vault) plan prepared.review.network access prepared.envelope =
      .ok (signers, first :: before ++ key :: after) ∧
    signWithSelectedKey p (fresnicaSdk p vault) signers access.passcode prepared.review.network
      first prepared.envelope = .ok signed ∧
    forEach (signWithSelectedKey p (fresnicaSdk p vault) signers access.passcode
      prepared.review.network) before signed = (.ok (), signed') ∧
    signWithSelectedKey p (fresnicaSdk p vault) signers access.passcode prepared.review.network
      key signed' = .error e

/-- A call that fails leaves the transaction as it was, and a later call succeeds
when it would have succeeded then. -/
def FailureKeeps : Prop :=
  ∀ e, (signPreparedSorobanWithProviders p sdk loadPlan access now prepared).1 = .error e →
    let left := (signPreparedSorobanWithProviders p sdk loadPlan access now prepared).2
    left = prepared ∧ ∀ sdk loadPlan access now,
      (signPreparedSorobanWithProviders p sdk loadPlan access now left).1 = .ok () ↔
        (signPreparedSorobanWithProviders p sdk loadPlan access now prepared).1 = .ok ()

end Definitions

variable {Bytes Digest : Type} [DecidableEq Bytes] [DecidableEq Digest]
variable {p : Primitives Bytes Digest} {sdk : TransactionSdk Bytes Digest}
variable {vault : Vault Bytes Digest} {loadPlan : PlanLoader} {now : Instant}
variable {access : SignerAccess Bytes Digest} {e : String}
variable {prepared prepared' : PreparedSorobanTransaction Bytes Digest}
variable {plan : LedgerAuthorizationPlan}

theorem assertReviewBinding_of_signingPlan
    (h : prepared.signingPlan p loadPlan now = .ok plan) :
    prepared.assertReviewBinding p = .ok () := by
  simp only [PreparedSorobanTransaction.signingPlan, bind_eq_ok] at h
  obtain ⟨_, -, _, -, _, hbinding, -⟩ := h
  exact hbinding

/-- Where a call failed, and what it left behind. -/
theorem signPreparedSorobanWithProviders_error
    (h : signPreparedSorobanWithProviders p (fresnicaSdk p vault) loadPlan access now prepared =
      (.error e, prepared')) :
    prepared' = prepared ∨
      ∃ plan signers selected envelope, prepared.signingPlan p loadPlan now = .ok plan ∧
        signersFor p (fresnicaSdk p vault) plan prepared.review.network access prepared.envelope =
          .ok (signers, selected) ∧
        forEach (signWithSelectedKey p (fresnicaSdk p vault) signers access.passcode
          prepared.review.network) selected prepared.envelope = (.error e, envelope) ∧
        prepared' = { prepared with envelope } := by
  unfold signPreparedSorobanWithProviders at h
  cases hplan : prepared.signingPlan p loadPlan now with
  | error e' =>
    simp only [hplan, Prod.mk.injEq] at h
    exact Or.inl h.2.symm
  | ok plan =>
    simp only [hplan, signWithEd25519Providers_eq] at h
    cases hfor : signersFor p (fresnicaSdk p vault) plan prepared.review.network access
        prepared.envelope with
    | error e' =>
      simp only [hfor, error_bind, Prod.mk.injEq] at h
      exact Or.inl h.2.symm
    | ok result =>
      obtain ⟨signers, selected⟩ := result
      simp only [hfor] at h
      cases hloop : forEach (signWithSelectedKey p (fresnicaSdk p vault) signers access.passcode
          prepared.review.network) selected prepared.envelope with
      | mk result envelope =>
        cases result with
        | error e' =>
          simp only [hloop, error_bind, Prod.mk.injEq, Except.error.injEq] at h
          obtain ⟨rfl, rfl⟩ := h
          exact Or.inr ⟨plan, signers, selected, envelope, rfl, hfor, hloop, rfl⟩
        | ok _ =>
          -- the signatures leave the body alone, so the submission binding holds
          obtain ⟨_, _, hnetwork, -, hkeyed, -⟩ := signersFor_ok hfor
          have hbody := (forEach_signWithSelectedKey_signed hkeyed hnetwork hloop).body_eq
          have hbinding := PreparedSorobanTransaction.assertSubmitBinding_of_body_eq
            (assertReviewBinding_of_signingPlan hplan) hbody
          simp [hloop, hbinding] at h

/-- A partial signing fails, and the transaction it leaves is refused by every later
call. -/
theorem signPreparedSorobanWithProviders_stuck
    (h : SignsPartially p loadPlan access now prepared vault) :
    ∃ e left, signPreparedSorobanWithProviders p (fresnicaSdk p vault) loadPlan access now
        prepared = (.error e, left) ∧ left ≠ prepared ∧
      ∀ sdk loadPlan access now,
        (signPreparedSorobanWithProviders p sdk loadPlan access now left).1 ≠ .ok () := by
  obtain ⟨plan, signers, first, before, key, after, signed, signed', e, hplan, hfor, hfirst,
    hbefore, hkey⟩ := h
  obtain ⟨_, passphrase, hnetwork, -, hkeyed, -⟩ := signersFor_ok hfor
  have hloop := forEach_error_iff.mpr ⟨first :: before, key, after, rfl,
    (forEach_cons_ok hfirst).trans hbefore, hkey⟩
  have hsigned := forEach_signWithSelectedKey_signed hkeyed hnetwork
    ((forEach_cons_ok hfirst).trans hbefore)
  -- the first signature stays in the envelope, so it is not the prepared one
  have hne : signed' ≠ prepared.envelope := by
    intro heq
    have := hsigned.length_signatures
    rw [heq, List.length_cons] at this
    omega
  refine ⟨e, { prepared with envelope := signed' }, ?_, fun heq => hne (congrArg (·.envelope) heq),
    fun sdk loadPlan access now hok => ?_⟩
  · simp only [signPreparedSorobanWithProviders, hplan, signWithEd25519Providers_eq, hfor, hloop,
      error_bind]
  · have hxdr := (PreparedSorobanTransaction.assertReviewBinding_eq_ok.mp
      (assertReviewBinding_of_signingPlan hplan)).1
    unfold signPreparedSorobanWithProviders at hok
    split at hok
    · exact absurd hok (by simp)
    · rename_i hplan'
      have hxdr' := (PreparedSorobanTransaction.assertReviewBinding_eq_ok.mp
        (assertReviewBinding_of_signingPlan hplan')).1
      exact hne (p.encode_injective hxdr' hxdr)

/-- A failed call keeps the transaction, except where one signer signs before
another fails. -/
theorem signPreparedSorobanWithProviders_failureKeeps_iff :
    FailureKeeps p (fresnicaSdk p vault) loadPlan access now prepared ↔
      ¬ SignsPartially p loadPlan access now prepared vault := by
  constructor
  · rintro hkeeps hpartial
    obtain ⟨e, left, hcall, hne, -⟩ := signPreparedSorobanWithProviders_stuck hpartial
    obtain ⟨hleft, -⟩ := hkeeps e (by rw [hcall])
    rw [hcall] at hleft
    exact hne hleft
  · intro hpartial e he
    have hleft : (signPreparedSorobanWithProviders p (fresnicaSdk p vault) loadPlan access now
        prepared).2 = prepared := by
      rcases signPreparedSorobanWithProviders_error (Prod.ext he rfl) with
        h | ⟨plan, signers, selected, envelope, hplan, hfor, hloop, hleft⟩
      · exact h
      -- a loop that fails at its first key has written nothing
      · obtain ⟨before, key, after, rfl, hbefore, hkey⟩ := forEach_error_iff.mp hloop
        cases before with
        | nil =>
          obtain rfl : prepared.envelope = envelope := by simpa using hbefore
          exact hleft
        | cons first before =>
          cases hfirst : signWithSelectedKey p (fresnicaSdk p vault) signers access.passcode
              prepared.review.network first prepared.envelope with
          | error e' => simp [forEach_cons_error hfirst] at hbefore
          | ok signed =>
            rw [forEach_cons_ok hfirst] at hbefore
            exact absurd ⟨plan, signers, first, before, key, after, signed, envelope, e, hplan,
              hfor, hfirst, hbefore, hkey⟩ hpartial
    simp only [hleft, true_and, implies_true]

/-! ### Two signers of which the second fails -/

/-- The account of the example, signed for by two keys of weight one. -/
def twoSignerText : String := Sep23.strKey.publicKey (Vector.replicate 32 0)

def coSignerText : String := Sep23.strKey.publicKey (Vector.replicate 32 1)

def twoSignerAccount : LedgerAccountAuthorization where
  accountId := twoSignerText
  lowThreshold := 2
  mediumThreshold := 2
  highThreshold := 2
  signers := [⟨.ed25519 twoSignerText, 1⟩, ⟨.ed25519 coSignerText, 1⟩]

/-- A contract call that its source account authorizes. -/
def twoSignerCall : TransactionEnvelope :=
  let call : InvokeContractArgs :=
    ⟨.contract (Vector.replicate 32 7), "transfer".toUTF8.toList, []⟩
  .tx
    { sourceAccount := .ed25519 (Vector.replicate 32 0)
      fee := .lit 100
      seqNum := .lit 5
      cond := .time ⟨.lit 0, .lit 1700000300⟩
      memo := .none
      operations := [⟨none, .invokeHostFunction
        ⟨.invokeContract call, [⟨.sourceAccount, .mk (.contractFn call) []⟩]⟩⟩]
      ext := .v1 ⟨[], .lit 90⟩ }
    []

def twoSignerPrepared :
    PreparedSorobanTransaction TransactionEnvelope (String × TaggedTransaction) where
  envelope := twoSignerCall
  review :=
    { walletName := "main"
      feePayer := twoSignerText
      operationSource := twoSignerText
      contractId := "CADQOBYHA4DQOBYHA4DQOBYHA4DQOBYHA4DQOBYHA4DQOBYHA4DQP5KR"
      functionName := "transfer"
      argumentCount := 0
      authorizers := [twoSignerText]
      credentialTypes := ["source-account"]
      authEntryCount := 1
      totalFeeStroops := .lit 100
      resourceFeeStroops := .lit 90
      inclusionFeeStroops := .lit 10
      minResourceFeeStroops := .lit 90
      simulationLedger := .lit 1
      authorizationExpirationLedger := none
      network := "testnet"
      transactionHash := hex (List.replicate 31 0 ++ [5]) }
  reviewedEnvelopeXdr := twoSignerCall
  reviewedTransactionHash := ("Test SDF Network ; September 2015", twoSignerCall.body)
  authorizedEnvelopeXdr := some twoSignerCall
  authorizedTransactionHash := some ("Test SDF Network ; September 2015", twoSignerCall.body)
  envelopeSigningComplete := false

/-- One external signer answers, the other is disconnected. -/
def twoSignerAccess : SignerAccess TransactionEnvelope (String × TaggedTransaction) where
  wallets := .ok []
  passcode := none
  systemAuthProviders := []
  externalProviders :=
    [⟨coSignerText, fun _ => .ok (List.replicate 64 1)⟩,
      ⟨twoSignerText, fun _ => .error "device disconnected"⟩]

/-- No protected signer is opened in the example. -/
def twoSignerVault : Vault TransactionEnvelope (String × TaggedTransaction) where
  deriveUnlockKey _ _ _ := .error (.core "no protected signer")
  unprotect _ _ := .error (.core "no protected signer")

def twoSignerSigning : Except String Unit ×
    PreparedSorobanTransaction TransactionEnvelope (String × TaggedTransaction) :=
  signPreparedSorobanWithProviders Primitives.ideal (fresnicaSdk Primitives.ideal twoSignerVault)
    (fun envelope => planClassicLedgerAuthorization Sep23.strKey envelope [twoSignerAccount])
    twoSignerAccess 1700000000000000000 twoSignerPrepared

/-- The first signature stays on the envelope when the second signer fails. -/
theorem sign_second_signer_fails :
    ¬ FailureKeeps Primitives.ideal (fresnicaSdk Primitives.ideal twoSignerVault)
      (fun envelope => planClassicLedgerAuthorization Sep23.strKey envelope [twoSignerAccount])
      twoSignerAccess 1700000000000000000 twoSignerPrepared := by
  intro hkeeps
  have hcall : twoSignerSigning.1 =
      .error s!"External signer {twoSignerText} failed: device disconnected" ∧
      twoSignerSigning.2.envelope.signatures.length = 1 := by decide +kernel
  have hleft := (hkeeps _ hcall.1).1
  have hsignatures : twoSignerPrepared.envelope.signatures.length = 1 :=
    (congrArg (·.envelope.signatures.length) hleft).symm.trans hcall.2
  exact absurd hsignatures (by decide)

end Fresnica
