import Fresnica.Foundation.Run
import Fresnica.Soroban.Authorization
import Fresnica.Soroban.Signing
import Fresnica.Soroban.Submission

/-!
# The life of a prepared Soroban transaction

Between its review and its submission a transaction is authorized, signed and
submitted by calls that may fail and be repeated, in any order, and its envelope is
open to change between them. Whatever happens, an envelope that is handed to the
gateway is the reviewed one with signed authorization entries: the bytes bound in
review fix what can be authorized, and the hash bound in authorization fixes what
can be submitted.

## Main definitions

* `SorobanEvent`, `SorobanStep` — the calls, and the changes from outside
* `authorizations` — the envelopes that authorizations of a run have bound
* `Stage` — how far a transaction has come

## Main results

* `stage_of_run` — a transaction is at one of the stages after every run
* `submitted_is_reviewed` — what is submitted is what was reviewed
-/

namespace Fresnica

open Foundation

/-- A call with its result, or a change of the envelope from outside. -/
inductive SorobanEvent
  | authorize (result : Except String Unit) (envelope : TransactionEnvelope)
  | sign (result : Except String Unit)
  | submit (handed : Option TransactionEnvelope)
  | replace (envelope : TransactionEnvelope)

/-- The envelope that an authorization bound. -/
def SorobanEvent.authorized? : SorobanEvent → Option TransactionEnvelope
  | .authorize (.ok _) envelope => some envelope
  | .authorize (.error _) _ | .sign _ | .submit _ | .replace _ => none

def authorizations (events : List SorobanEvent) : List TransactionEnvelope :=
  events.filterMap (·.authorized?)

section Step

variable {Bytes Digest EntryBytes : Type}
variable [DecidableEq Bytes] [DecidableEq Digest] [DecidableEq EntryBytes]

/-- One call, with any signing functions, wallets, providers, plan, clock and gateway,
or an arbitrary change of the envelope. -/
inductive SorobanStep (p : Primitives Bytes Digest) (codec : AuthorizationCodec EntryBytes) :
    PreparedSorobanTransaction Bytes Digest → SorobanEvent →
      PreparedSorobanTransaction Bytes Digest → Prop
  | authorize {prepared prepared' : PreparedSorobanTransaction Bytes Digest}
      {result : Except String Unit} (sdk : AuthorizationSdk EntryBytes) (wallets : WalletList)
      (passcode : Option String) (systemAuthProviders : List SystemAuthUnlockProvider) :
      authorizePreparedSorobanWithSystemAuth p codec sdk wallets passcode systemAuthProviders
        prepared = (result, prepared') →
      SorobanStep p codec prepared (.authorize result prepared'.envelope) prepared'
  | sign {prepared prepared' : PreparedSorobanTransaction Bytes Digest}
      {result : Except String Unit} (sdk : TransactionSdk Bytes Digest) (loadPlan : PlanLoader)
      (access : SignerAccess Bytes Digest) (now : Instant) :
      signPreparedSorobanWithProviders p sdk loadPlan access now prepared = (result, prepared') →
      SorobanStep p codec prepared (.sign result) prepared'
  | submit {prepared : PreparedSorobanTransaction Bytes Digest} (rpc : RpcGateway) :
      SorobanStep p codec prepared (.submit (sorobanHandOff p prepared rpc.network).toOption)
        prepared
  | replace {prepared : PreparedSorobanTransaction Bytes Digest}
      (envelope : TransactionEnvelope) :
      SorobanStep p codec prepared (.replace envelope) { prepared with envelope }

end Step

variable {Bytes Digest EntryBytes : Type} {p : Primitives Bytes Digest}
variable {codec : AuthorizationCodec EntryBytes}
variable {review : SorobanReview} {envelope : TransactionEnvelope} {events : List SorobanEvent}
variable {prepared prepared' : PreparedSorobanTransaction Bytes Digest} {event : SorobanEvent}
variable {sdk : TransactionSdk Bytes Digest} {loadPlan : PlanLoader}
variable {access : SignerAccess Bytes Digest} {now : Instant} {result : Except String Unit}

/-! ### Stages -/

/-- How far a transaction has come that was bound for review with the given envelope.
The envelope it carries now is not mentioned: it can be anything. -/
inductive Stage (p : Primitives Bytes Digest) (review : SorobanReview)
    (envelope : TransactionEnvelope) : List SorobanEvent →
      PreparedSorobanTransaction Bytes Digest → Prop
  /-- Nothing is authorized. -/
  | reviewed {events : List SorobanEvent} {current : TransactionEnvelope} {xdr : Bytes}
      {hash : Digest} : authorizations events = [] → p.encode envelope = some xdr →
      Stage p review envelope events ⟨current, review, xdr, hash, none, none, false⟩
  /-- An authorization bound the bytes of an envelope that has no hash. -/
  | unhashed {events : List SorobanEvent} {current bound : TransactionEnvelope}
      {reviewedXdr xdr : Bytes} {reviewedHash : Digest} {e : String} :
      p.encode bound = some xdr → transactionHashBytes p bound review.network = .error e →
      Stage p review envelope events
        ⟨current, review, reviewedXdr, reviewedHash, some xdr, none, false⟩
  /-- An authorization bound an envelope, once and for all. -/
  | authorized {events : List SorobanEvent} {current bound : TransactionEnvelope}
      {reviewedXdr xdr : Bytes} {reviewedHash hash : Digest} {complete : Bool} :
      authorizations events = [bound] → p.encode bound = some xdr →
      transactionHashBytes p bound review.network = .ok hash →
      bound.body.withoutAuthSignatures = envelope.body.withoutAuthSignatures →
      (complete = true → .sign (.ok ()) ∈ events) →
      Stage p review envelope events
        ⟨current, review, reviewedXdr, reviewedHash, some xdr, some hash, complete⟩

theorem authorizations_append_of_none (h : event.authorized? = none) :
    authorizations (events ++ [event]) = authorizations events := by
  simp [authorizations, h]

/-- A change of the envelope leaves the stage as it is. -/
theorem Stage.replace (h : Stage p review envelope events prepared)
    (hevent : event.authorized? = none) (current : TransactionEnvelope) :
    Stage p review envelope (events ++ [event]) { prepared with envelope := current } := by
  cases h with
  | reviewed hnone hxdr => exact .reviewed (by rwa [authorizations_append_of_none hevent]) hxdr
  | unhashed hxdr hhash => exact .unhashed hxdr hhash
  | authorized hone hxdr hhash hbody hcomplete =>
    refine .authorized (by rwa [authorizations_append_of_none hevent]) hxdr hhash hbody fun h => ?_
    exact List.mem_append_left _ (hcomplete h)

variable [DecidableEq Bytes] [DecidableEq Digest]

/-- Signing needs an authorized envelope, changes the envelope alone when it fails,
and completes when it succeeds. -/
theorem signPreparedSorobanWithProviders_cases
    (h : signPreparedSorobanWithProviders p sdk loadPlan access now prepared =
      (result, prepared')) :
    (∃ e envelope, result = .error e ∧ prepared' = { prepared with envelope }) ∨
      result = .ok () ∧ prepared.assertReviewBinding p = .ok () ∧
        prepared.authorizedEnvelopeXdr.isSome = true ∧ ∃ envelope,
          prepared' = { prepared with envelope, envelopeSigningComplete := true } := by
  unfold signPreparedSorobanWithProviders at h
  cases hplan : prepared.signingPlan p loadPlan now with
  | error e =>
    simp only [hplan, Prod.mk.injEq] at h
    exact Or.inl ⟨e, prepared.envelope, h.1.symm, h.2.symm⟩
  | ok plan =>
    have hauthorized := (ensure_bind_eq_ok.mp hplan).1
    simp only [hplan] at h
    split at h
    · obtain ⟨rfl, rfl⟩ := Prod.mk.inj h
      exact Or.inl ⟨_, _, rfl, rfl⟩
    · obtain ⟨rfl, rfl⟩ := Prod.mk.inj h
      exact Or.inr ⟨rfl, assertReviewBinding_of_signingPlan hplan, hauthorized, _, rfl⟩

variable [DecidableEq EntryBytes]

theorem stage_authorize (h : Stage p review envelope events prepared)
    {sdk : AuthorizationSdk EntryBytes} {wallets : WalletList} {passcode : Option String}
    {systemAuthProviders : List SystemAuthUnlockProvider}
    (hcall : authorizePreparedSorobanWithSystemAuth p codec sdk wallets passcode
      systemAuthProviders prepared = (result, prepared')) :
    Stage p review envelope (events ++ [.authorize result prepared'.envelope]) prepared' := by
  rcases authorizePreparedSoroban_cases hcall with
    ⟨⟨e, rfl⟩, rfl⟩ | ⟨hbinding, hnone, bound, hbody, hcases⟩
  · exact h.replace rfl prepared'.envelope
  cases h with
  | unhashed hxdr hhash => exact absurd hnone (by simp)
  | authorized hone hxdr hhash hsame hcomplete => exact absurd hnone (by simp)
  | reviewed hempty hxdr =>
    rename_i current xdr hash
    -- the bytes compared are those of the reviewed envelope
    obtain ⟨hencode, -⟩ := PreparedSorobanTransaction.assertReviewBinding_eq_ok.mp hbinding
    obtain rfl : current = envelope := p.encode_injective hencode hxdr
    rcases hcases with ⟨⟨e, rfl⟩, rfl⟩ | ⟨boundXdr, hboundXdr, ⟨⟨e, rfl, hhash⟩, rfl⟩ |
      ⟨rfl, boundHash, hhash, rfl⟩⟩
    · exact .reviewed (by rwa [authorizations_append_of_none rfl]) hxdr
    · exact .unhashed hboundXdr hhash
    · refine .authorized ?_ hboundXdr hhash hbody (by simp)
      simp only [authorizations, List.filterMap_append] at hempty ⊢
      rw [hempty]
      rfl

theorem stage_sign (h : Stage p review envelope events prepared)
    (hcall : signPreparedSorobanWithProviders p sdk loadPlan access now prepared =
      (result, prepared')) :
    Stage p review envelope (events ++ [.sign result]) prepared' := by
  rcases signPreparedSorobanWithProviders_cases hcall with
    ⟨e, current, rfl, rfl⟩ | ⟨rfl, hbinding, hsome, current, rfl⟩
  · exact h.replace rfl current
  obtain ⟨hencode, hhash'⟩ := PreparedSorobanTransaction.assertReviewBinding_eq_ok.mp hbinding
  cases h with
  | reviewed hnone hxdr => exact absurd hsome (by simp)
  | unhashed hxdr hhash =>
    -- the envelope with the bound bytes has no hash, so it cannot pass the comparison
    rename_i current bound reviewedXdr xdr reviewedHash e
    obtain rfl : current = bound := p.encode_injective hencode hxdr
    exact absurd (hhash.symm.trans hhash') (by simp)
  | authorized hone hxdr hhash hbody hcomplete =>
    refine .authorized (by rwa [authorizations_append_of_none rfl]) hxdr hhash hbody fun _ => ?_
    exact List.mem_append_right _ (List.mem_singleton_self _)

theorem stage_step (h : Stage p review envelope events prepared)
    (hstep : SorobanStep p codec prepared event prepared') :
    Stage p review envelope (events ++ [event]) prepared' := by
  cases hstep with
  | authorize sdk wallets passcode systemAuthProviders hcall => exact stage_authorize h hcall
  | sign sdk loadPlan access now hcall => exact stage_sign h hcall
  | submit rpc => exact h.replace rfl prepared.envelope
  | replace current => exact h.replace rfl current

/-- After every run a transaction is at one of the stages. -/
theorem stage_of_run (hprepared : bindReviewedEnvelope p review envelope = .ok prepared)
    (hrun : Run (SorobanStep p codec) prepared events prepared') :
    Stage p review envelope events prepared' := by
  obtain ⟨xdr, hash, hxdr, -, rfl⟩ := bindReviewedEnvelope_eq_ok.mp hprepared
  exact hrun.history (P := Stage p review envelope) (.reviewed rfl hxdr)
    fun _ _ _ _ _ hstage hstep => stage_step hstage hstep

/-! ### What is submitted -/

/-- Every envelope that is handed over has the hash that the one successful
authorization bound, and the reviewed body up to the signatures of its entries. -/
theorem submitted_is_reviewed
    (hprepared : bindReviewedEnvelope p review envelope = .ok prepared)
    (hrun : Run (SorobanStep p codec) prepared events prepared') :
    ∀ before handed after, events = before ++ .submit (some handed) :: after →
      ∃ bound hash, authorizations before = [bound] ∧ .sign (.ok ()) ∈ before ∧
        transactionHashBytes p bound review.network = .ok hash ∧
        transactionHashBytes p handed review.network = .ok hash ∧
        handed.body = bound.body ∧
        handed.body.withoutAuthSignatures = envelope.body.withoutAuthSignatures := by
  rintro before handed after rfl
  obtain ⟨current, _, hbefore, hsubmit, -⟩ := hrun.split
  have hstage := stage_of_run hprepared hbefore
  generalize hevent : SorobanEvent.submit (some handed) = event at hsubmit
  cases hsubmit with
  | authorize | sign | replace => exact absurd hevent (by simp)
  | submit rpc =>
    have hhanded : (sorobanHandOff p current rpc.network).toOption = some handed :=
      (SorobanEvent.submit.inj hevent).symm
    cases hhandOff : sorobanHandOff p current rpc.network with
    | error e => simp [hhandOff, Except.toOption] at hhanded
    | ok sent =>
      obtain rfl : sent = handed := by simpa [hhandOff, Except.toOption] using hhanded
      obtain ⟨hcomplete, -, hhash', rfl⟩ := sorobanHandOff_eq_ok.mp hhandOff
      -- only an authorized and signed envelope is complete
      cases hstage with
      | reviewed => exact absurd hcomplete (by simp)
      | unhashed => exact absurd hcomplete (by simp)
      | authorized hone hxdr hhash hbody hsigned =>
        have hsame := body_eq_of_transactionHashBytes hhash hhash'
        exact ⟨_, _, hone, hsigned hcomplete, hhash, hhash', hsame, hsame ▸ hbody⟩

/-! ### A run that submits -/

/-- An account with one key, and its wallet. -/
def soleSignerText : String := Sep23.strKey.publicKey (Vector.replicate 32 0)

def soleSignerAccount : LedgerAccountAuthorization where
  accountId := soleSignerText
  lowThreshold := 1
  mediumThreshold := 1
  highThreshold := 1
  signers := [⟨.ed25519 soleSignerText, 1⟩]

def soleSignerWallet : WalletRecord where
  name := "main"
  address := soleSignerText
  walletType := "standard"
  network := "testnet"
  secret := some "protected"

/-- An authorization of the account with its own credentials. -/
def detachedEntry (signature : ScVal) : SorobanAuthorizationEntry where
  credentials := .address ⟨.account (Vector.replicate 32 0), .lit 7, .lit 100, signature⟩
  rootInvocation := .mk (.contractFn ⟨.contract (Vector.replicate 32 7), [], []⟩) []

def detachedCall : TransactionEnvelope :=
  .tx
    { sourceAccount := .ed25519 (Vector.replicate 32 0)
      fee := .lit 100
      seqNum := .lit 5
      cond := .time ⟨.lit 0, .lit 1700000300⟩
      memo := .none
      operations := [⟨none, .invokeHostFunction
        ⟨.invokeContract ⟨.contract (Vector.replicate 32 7), [], []⟩, [detachedEntry .void]⟩⟩]
      ext := .v1 ⟨[], .lit 90⟩ }
    []

def detachedReview : SorobanReview where
  walletName := "main"
  feePayer := soleSignerText
  operationSource := soleSignerText
  contractId := "CADQOBYHA4DQOBYHA4DQOBYHA4DQOBYHA4DQOBYHA4DQOBYHA4DQP5KR"
  functionName := ""
  argumentCount := 0
  authorizers := [soleSignerText]
  credentialTypes := ["address"]
  authEntryCount := 1
  totalFeeStroops := .lit 100
  resourceFeeStroops := .lit 90
  inclusionFeeStroops := .lit 10
  minResourceFeeStroops := .lit 90
  simulationLedger := .lit 1
  authorizationExpirationLedger := some (.lit 100)
  network := "testnet"
  transactionHash := hex (List.replicate 31 0 ++ [5])

def detachedPrepared :
    PreparedSorobanTransaction TransactionEnvelope (String × TaggedTransaction) :=
  ⟨detachedCall, detachedReview, detachedCall,
    ("Test SDF Network ; September 2015", detachedCall.body), none, none, false⟩

/-- Entries that stand for their own encoding. -/
def AuthorizationCodec.ideal : AuthorizationCodec SorobanAuthorizationEntry := ⟨.ok, .ok⟩

/-- An entry signer that puts a signature vector in. -/
def detachedSdk : AuthorizationSdk SorobanAuthorizationEntry where
  signSorobanAuthorizationXdr _ _ _ entry _ := .ok entry
  signSorobanAuthorizationXdrWithPasscode _ _ _ _ _ := .ok (detachedEntry (.vec (some [])))

def soleSignerAccess : SignerAccess TransactionEnvelope (String × TaggedTransaction) where
  wallets := .ok [soleSignerWallet]
  passcode := none
  systemAuthProviders := []
  externalProviders := [⟨soleSignerText, fun _ => .ok (List.replicate 64 0)⟩]

def detachedAuthorized : Except String Unit ×
    PreparedSorobanTransaction TransactionEnvelope (String × TaggedTransaction) :=
  authorizePreparedSorobanWithSystemAuth Primitives.ideal AuthorizationCodec.ideal detachedSdk
    (.ok [soleSignerWallet]) (some "passcode") [] detachedPrepared

def detachedSigned : Except String Unit ×
    PreparedSorobanTransaction TransactionEnvelope (String × TaggedTransaction) :=
  signPreparedSorobanWithProviders Primitives.ideal
    (fresnicaSdk Primitives.ideal twoSignerVault)
    (fun envelope => planClassicLedgerAuthorization Sep23.strKey envelope [soleSignerAccount])
    soleSignerAccess 1700000000000000000 detachedAuthorized.2

/-- The gateway accepts what it is handed. -/
def testnetRpc : RpcGateway where
  network := "testnet"
  submitTransaction _ := .ok (hex (List.replicate 31 0 ++ [5]))
  transactionStatus _ _ := .ok (.success none)

theorem submitted_is_reviewed_detached :
    ∃ bound hash,
      authorizations [.authorize detachedAuthorized.1 detachedAuthorized.2.envelope,
        .sign detachedSigned.1] = [bound] ∧
      .sign (.ok ()) ∈ [SorobanEvent.authorize detachedAuthorized.1 detachedAuthorized.2.envelope,
        .sign detachedSigned.1] ∧
      transactionHashBytes Primitives.ideal bound "testnet" = .ok hash ∧
      transactionHashBytes Primitives.ideal detachedSigned.2.envelope "testnet" = .ok hash ∧
      detachedSigned.2.envelope.body = bound.body ∧
      detachedSigned.2.envelope.body.withoutAuthSignatures =
        detachedCall.body.withoutAuthSignatures := by
  have hprepared : bindReviewedEnvelope Primitives.ideal detachedReview detachedCall =
      .ok detachedPrepared := rfl
  have hhanded : (sorobanHandOff Primitives.ideal detachedSigned.2 "testnet").toOption =
      some detachedSigned.2.envelope := by decide +kernel
  have hauthorize : SorobanStep Primitives.ideal AuthorizationCodec.ideal detachedPrepared
      (.authorize detachedAuthorized.1 detachedAuthorized.2.envelope) detachedAuthorized.2 :=
    .authorize detachedSdk (.ok [soleSignerWallet]) (some "passcode") [] Prod.mk.eta.symm
  have hsign : SorobanStep Primitives.ideal AuthorizationCodec.ideal detachedAuthorized.2
      (.sign detachedSigned.1) detachedSigned.2 :=
    .sign (fresnicaSdk Primitives.ideal twoSignerVault)
      (fun envelope => planClassicLedgerAuthorization Sep23.strKey envelope [soleSignerAccount])
      soleSignerAccess 1700000000000000000 Prod.mk.eta.symm
  have hsubmit : SorobanStep Primitives.ideal AuthorizationCodec.ideal detachedSigned.2
      (.submit (some detachedSigned.2.envelope)) detachedSigned.2 := by
    rw [← hhanded]
    exact .submit testnetRpc
  exact submitted_is_reviewed hprepared (((Run.nil.snoc hauthorize).snoc hsign).snoc hsubmit)
    _ _ [] rfl

end Fresnica
