import Fresnica.Foundation.InPlace
import Fresnica.Soroban.Prepared

/-!
# Authorizing a Soroban transaction in the Python reference

The service asks the signer of each authorization entry for a signed entry, and puts it in
the place of the reviewed one in the envelope, entry by entry. The envelope is the one of
the prepared transaction, so that a later entry that fails leaves the earlier ones signed.

The texts of entries, addresses and envelopes enter as parameters, and nothing is assumed
about them. The answers of a signer depend on the position of the entry that it is asked
for, since a signer may count its calls.

## Main definitions

* `Envelope`, `SorobanRpcAdapter` — the envelope, and what is done with it
* `AuthorizationSigner` — what a signer does with an entry
* `PreparedSorobanTransaction`, `assertReviewBinding` — the transaction and its bindings
* `authorizeEntry`, `authorize` — one entry, and all of them

## Main results

* `authorizeEntry_eq_ok` — what puts an entry in the place of another one
* `forEach_authorizeEntry` — what the loop leaves behind
-/

namespace Fresnica.Python.Soroban

open Foundation

/-- The exceptions of the services, and those of the signers. -/
inductive SorobanError
  | transaction (message : String) (details : Option String)
  | signer (message : String)
  | raised (exception : String)
  deriving DecidableEq, Repr

/-! ### Envelopes -/

/-- A transaction, in the first format or in the second one, for a network. -/
structure Envelope where
  networkPassphrase : String
  v1 : Bool
  transaction : Transaction
  signatures : List DecoratedSignature
  deriving DecidableEq, Repr

structure SorobanAuthorizationEntryFacts where
  index : ℕ
  entryXdr : String
  authorizer : String
  credentialType : String
  nonce : Option I64
  signatureExpirationLedger : Option U32
  rootInvocationXdr : String
  deriving DecidableEq, Repr

/-- What a text is not parsed for: a value or type error, or another one. -/
structure XdrError where
  isValueOrTypeError : Bool
  text : String

/-- The network of the adapter, and the texts of the SDK. -/
structure SorobanRpcAdapter where
  passphrase : String
  entryToXdr : SorobanAuthorizationEntry → String
  entryFromXdr : String → Except XdrError SorobanAuthorizationEntry
  invocationToXdr : SorobanAuthorizedInvocation → String
  address : ScAddress → String
  universalAccountId : MuxedAccount → String
  toXdr : Envelope → String
  hashHex : Envelope → String

def addressCredentials : SorobanCredentials → Option SorobanAddressCredentials
  | .address credentials | .addressV2 credentials => some credentials
  | .addressWithDelegates credentials => some credentials.addressCredentials
  | .sourceAccount => none

namespace Envelope

/-- The envelope with other authorization entries in its only operation. -/
def withAuth (envelope : Envelope) (source : Option MuxedAccount) (invoke : InvokeHostFunctionOp)
    (auth : List SorobanAuthorizationEntry) : Envelope :=
  { envelope with transaction := { envelope.transaction with
      operations := [⟨source, .invokeHostFunction { invoke with auth }⟩] } }

end Envelope

namespace SorobanRpcAdapter

variable (a : SorobanRpcAdapter)

/-- The only operation of the envelope with its own source, and the accounts of the
transaction and of the operation. -/
def invokeOperation (envelope : Envelope) :
    Except SorobanError ((Option MuxedAccount × InvokeHostFunctionOp) × String × String) := do
  ensure (envelope.networkPassphrase = a.passphrase)
    (.transaction "Soroban transaction network does not match adapter" none)
  ensure envelope.v1
    (.transaction "Soroban RefPython v1 requires a TransactionEnvelope v1" none)
  match envelope.transaction.operations with
  | [⟨source, .invokeHostFunction invoke⟩] =>
    ensure (invoke.hostFunction matches .invokeContract _)
      (.transaction "Soroban RefPython v1 supports only invoke-contract host functions" none)
    let transactionSource := a.universalAccountId envelope.transaction.sourceAccount
    return ((source, invoke), transactionSource,
      (source.map a.universalAccountId).getD transactionSource)
  | [_] => throw (.transaction "Soroban RefPython v1 supports only InvokeHostFunction" none)
  | _ => throw (.transaction "Soroban RefPython v1 requires exactly one operation" none)

/-- The authorizer and the type of the credentials. -/
def authorizationIdentity (credentials : SorobanCredentials) (operationSource : String) :
    String × String :=
  match credentials with
  | .sourceAccount => (operationSource, "source-account")
  | .address credentials => (a.address credentials.address, "address")
  | .addressV2 credentials => (a.address credentials.address, "address-v2")
  | .addressWithDelegates credentials =>
    (a.address credentials.addressCredentials.address, "address-with-delegates")

def authorizationEntryFacts (operationSource : String) (index : ℕ)
    (entry : SorobanAuthorizationEntry) : SorobanAuthorizationEntryFacts :=
  let identity := a.authorizationIdentity entry.credentials operationSource
  let credential := addressCredentials entry.credentials
  { index
    entryXdr := a.entryToXdr entry
    authorizer := identity.1
    credentialType := identity.2
    nonce := credential.map (·.nonce)
    signatureExpirationLedger := credential.map (·.signatureExpirationLedger)
    rootInvocationXdr := a.invocationToXdr entry.rootInvocation }

/-- The facts of entries that stand from a position on. -/
def factsFrom (operationSource : String) (start : ℕ) :
    List SorobanAuthorizationEntry → List SorobanAuthorizationEntryFacts
  | [] => []
  | entry :: entries =>
    a.authorizationEntryFacts operationSource start entry ::
      factsFrom operationSource (start + 1) entries

def authorizationEntries (envelope : Envelope) :
    Except SorobanError (List SorobanAuthorizationEntryFacts) := do
  let ((_, invoke), _, operationSource) ← a.invokeOperation envelope
  return a.factsFrom operationSource 0 invoke.auth

/-- A text that is not parsed as an entry. -/
def invalidEntry (error : XdrError) : SorobanError :=
  if error.isValueOrTypeError then
    .transaction "Signed Soroban authorization entry is invalid" (some error.text)
  else .raised error.text

def inspectAuthorizationEntryXdr (entryXdr operationSource : String) (index : ℕ) :
    Except SorobanError SorobanAuthorizationEntryFacts := do
  let entry ← mapErr invalidEntry (a.entryFromXdr entryXdr)
  return a.authorizationEntryFacts operationSource index entry

def replaceAuthorizationEntry (envelope : Envelope) (index : ℕ)
    (expectedEntryXdr signedEntryXdr : String) : Except SorobanError Envelope := do
  let ((source, invoke), _, _) ← a.invokeOperation envelope
  let current ← okOr invoke.auth[index]?
    (.transaction "Soroban authorization entry index changed" none)
  ensure (a.entryToXdr current = expectedEntryXdr)
    (.transaction "Soroban authorization entry changed after review; prepare it again" none)
  let signed ← mapErr invalidEntry (a.entryFromXdr signedEntryXdr)
  return envelope.withAuth source invoke (invoke.auth.set index signed)

end SorobanRpcAdapter

/-! ### The prepared transaction -/

/-- What the authorization reads of the review. -/
structure SorobanReview where
  operationSource : String
  authEntryCount : ℕ
  deriving DecidableEq, Repr

structure PreparedSorobanTransaction where
  envelope : Envelope
  review : SorobanReview
  reviewedEnvelopeXdr : String
  reviewedTransactionHash : String
  authorizedEnvelopeXdr : Option String
  authorizedTransactionHash : Option String
  deriving DecidableEq, Repr

/-- `first or second`, where an empty text is no text. -/
def orElse (first : Option String) (second : String) : String :=
  (first.filter fun text => !text.isEmpty).getD second

namespace PreparedSorobanTransaction

variable (a : SorobanRpcAdapter) (prepared : PreparedSorobanTransaction)

def signingTransactionHash : String :=
  orElse prepared.authorizedTransactionHash prepared.reviewedTransactionHash

def assertReviewBinding : Except SorobanError Unit := do
  let expectedXdr := orElse prepared.authorizedEnvelopeXdr prepared.reviewedEnvelopeXdr
  ensure (¬ (a.toXdr prepared.envelope ≠ expectedXdr ∨
      a.hashHex prepared.envelope ≠ prepared.signingTransactionHash))
    (.transaction "Soroban transaction changed after review; prepare and review it again" none)

def bindAuthorizedEnvelope : PreparedSorobanTransaction :=
  { prepared with
    authorizedEnvelopeXdr := some (a.toXdr prepared.envelope)
    authorizedTransactionHash := some (a.hashHex prepared.envelope) }

end PreparedSorobanTransaction

/-! ### Authorization -/

/-- What a signer returns, if it does not raise an exception. -/
inductive Answer
  | text (text : String)
  | other
  deriving DecidableEq, Repr

/-- A signer, which may not be able to sign entries. It is asked with the position of the
entry, its text and the passphrase of the network. -/
structure AuthorizationSigner where
  signSorobanAuthorizationEntry : Option (ℕ → String → String → Except String Answer)

/-- The names of the fields that differ. -/
def changedFields (reviewed signed : SorobanAuthorizationEntryFacts) : List String :=
  [("index", decide (reviewed.index = signed.index)),
    ("authorizer", decide (reviewed.authorizer = signed.authorizer)),
    ("credential_type", decide (reviewed.credentialType = signed.credentialType)),
    ("nonce", decide (reviewed.nonce = signed.nonce)),
    ("signature_expiration_ledger",
      decide (reviewed.signatureExpirationLedger = signed.signatureExpirationLedger)),
    ("root_invocation_xdr", decide (reviewed.rootInvocationXdr = signed.rootInvocationXdr))
  ].filterMap fun field => if field.2 then none else some field.1

def validateSignedAuthorization (reviewed signed : SorobanAuthorizationEntryFacts) :
    Except SorobanError Unit :=
  let changed := changedFields reviewed signed
  ensure (changed = [])
    (.transaction "Soroban authorization signer changed reviewed authorization meaning"
      (some ("changed fields: " ++ ", ".intercalate changed)))

section Authorize

variable (a : SorobanRpcAdapter) (signersByAuthorizer : String → Option AuthorizationSigner)

/-- The text of the signed entry. -/
def signEntry (entry : SorobanAuthorizationEntryFacts) : Except SorobanError String := do
  ensure (entry.credentialType ∈ ["address", "address-v2"])
    (.transaction s!"Unsupported detached Soroban authorization: {entry.credentialType}" none)
  ensure (entry.authorizer.startsWith "G")
    (.transaction
      "Unsupported detached Soroban authorizer; only Classic G accounts are supported" none)
  let signer ← okOr (signersByAuthorizer entry.authorizer)
    (.signer s!"No signer capability provided for Soroban authorizer {entry.authorizer}")
  let sign ← okOr signer.signSorobanAuthorizationEntry
    (.signer "Selected signer cannot sign Soroban authorization entries")
  match ← mapErr .raised (sign entry.index entry.entryXdr a.passphrase) with
  | .text signedXdr =>
    ensure (signedXdr ≠ entry.entryXdr)
      (.signer "Soroban authorization signer returned no signed entry")
    return signedXdr
  | .other => throw (.signer "Soroban authorization signer returned no signed entry")

/-- One pass of the loop over the entries. -/
def authorizeEntry (operationSource : String) (entry : SorobanAuthorizationEntryFacts)
    (envelope : Envelope) : Except SorobanError Envelope :=
  if entry.credentialType = "source-account" then .ok envelope
  else do
    let signedXdr ← signEntry a signersByAuthorizer entry
    let signed ← a.inspectAuthorizationEntryXdr signedXdr operationSource entry.index
    validateSignedAuthorization entry signed
    a.replaceAuthorizationEntry envelope entry.index entry.entryXdr signedXdr

/-- The entries of a transaction that is as it was reviewed. -/
def reviewedEntries (prepared : PreparedSorobanTransaction) :
    Except SorobanError (List SorobanAuthorizationEntryFacts) := do
  prepared.assertReviewBinding a
  let entries ← a.authorizationEntries prepared.envelope
  ensure (entries.length = prepared.review.authEntryCount)
    (.transaction "Soroban authorization entry count changed after review" none)
  return entries

def authorize (prepared : PreparedSorobanTransaction) :
    Except SorobanError Unit × PreparedSorobanTransaction :=
  match reviewedEntries a prepared with
  | .error error => (.error error, prepared)
  | .ok entries =>
    let (result, envelope) := forEach
      (authorizeEntry a signersByAuthorizer prepared.review.operationSource) entries
      prepared.envelope
    match result with
    | .error error => (.error error, { prepared with envelope })
    | .ok () => (.ok (), { prepared with envelope }.bindAuthorizedEnvelope a)

end Authorize

/-! ### What the signers do with an entry -/

/-- All that a signer has to keep of an entry. -/
def meaning (a : SorobanRpcAdapter) (entry : SorobanAuthorizationEntry) :
    Option (String × String) × Option I64 × Option U32 × String :=
  let identity := match entry.credentials with
    | .sourceAccount => none
    | credentials => some (a.authorizationIdentity credentials "")
  let credential := addressCredentials entry.credentials
  (identity, credential.map (·.nonce), credential.map (·.signatureExpirationLedger),
    a.invocationToXdr entry.rootInvocation)

/-- The address of credentials that the service has signed. -/
def detachedAddress : SorobanCredentials → Option ScAddress
  | .address credentials | .addressV2 credentials => some credentials.address
  | .sourceAccount | .addressWithDelegates _ => none

/-- The entry at a position has the address of an account, and the signer of the account
answers with another text, of an entry with the same meaning. -/
def Answered (a : SorobanRpcAdapter) (signers : String → Option AuthorizationSigner)
    (index : ℕ) (entry signed : SorobanAuthorizationEntry) : Prop :=
  ∃ address signer sign text, detachedAddress entry.credentials = some address ∧
    (a.address address).startsWith "G" ∧ signers (a.address address) = some signer ∧
    signer.signSorobanAuthorizationEntry = some sign ∧
    sign index (a.entryToXdr entry) a.passphrase = .ok (.text text) ∧
    text ≠ a.entryToXdr entry ∧ a.entryFromXdr text = .ok signed ∧
    meaning a signed = meaning a entry

/-- An entry of the source account stays, and another one takes the place of an entry that
is signed. -/
def Authorized (a : SorobanRpcAdapter) (signers : String → Option AuthorizationSigner)
    (index : ℕ) (entry signed : SorobanAuthorizationEntry) : Prop :=
  entry.credentials = .sourceAccount ∧ signed = entry ∨ Answered a signers index entry signed

variable {a : SorobanRpcAdapter} {signers : String → Option AuthorizationSigner}
  {entry signed other : SorobanAuthorizationEntry} {envelope envelope' : Envelope}
  {source : Option MuxedAccount} {invoke : InvokeHostFunctionOp} {sources : String × String}
  {auth before rest : List SorobanAuthorizationEntry} {index : ℕ}
  {operationSource reviewSource : String}

/-- A signer gives one answer. -/
theorem Authorized.unique (h : Authorized a signers index entry signed)
    (h' : Authorized a signers index entry other) : other = signed := by
  cases h with
  | inl hsource =>
    cases h' with
    | inl hsource' => exact hsource'.2.trans hsource.2.symm
    | inr hanswer =>
      obtain ⟨address, _, _, _, haddress, -⟩ := hanswer
      rw [hsource.1] at haddress
      exact absurd haddress nofun
  | inr hanswer =>
    obtain ⟨address, signer, sign, text, haddress, -, hsigner, hsign, htext, -, hentry,
      -⟩ := hanswer
    cases h' with
    | inl hsource =>
      rw [hsource.1] at haddress
      exact absurd haddress nofun
    | inr hanswer' =>
      obtain ⟨address', signer', sign', text', haddress', -, hsigner', hsign', htext', -, hentry',
        -⟩ := hanswer'
      -- the same signer is asked for the same entry
      obtain rfl := Option.some.inj (haddress.symm.trans haddress')
      obtain rfl := Option.some.inj (hsigner.symm.trans hsigner')
      obtain rfl := Option.some.inj (hsign.symm.trans hsign')
      obtain rfl := Answer.text.inj (Except.ok.inj (htext.symm.trans htext'))
      exact Except.ok.inj (hentry'.symm.trans hentry)

theorem changedFields_eq_nil {reviewed signed : SorobanAuthorizationEntryFacts} :
    changedFields reviewed signed = [] ↔
      reviewed = { signed with entryXdr := reviewed.entryXdr } := by
  obtain ⟨i, x, b, t, n, e, r⟩ := reviewed
  obtain ⟨i', x', b', t', n', e', r'⟩ := signed
  simp [changedFields]

/-- The facts of an entry that is signed are the ones of the reviewed entry, but for their
text, exactly when the meaning is the same. -/
theorem facts_eq_iff {address : ScAddress} (h : detachedAddress entry.credentials = some address) :
    a.authorizationEntryFacts operationSource index entry =
        { a.authorizationEntryFacts reviewSource index signed with
          entryXdr := a.entryToXdr entry } ↔
      meaning a signed = meaning a entry := by
  obtain ⟨credentials, root⟩ := entry
  obtain ⟨credentials', root'⟩ := signed
  cases credentials with
  | sourceAccount => exact absurd h nofun
  | addressWithDelegates c => exact absurd h nofun
  | address c =>
    cases credentials' <;> simp [SorobanRpcAdapter.authorizationEntryFacts, meaning,
      SorobanRpcAdapter.authorizationIdentity, addressCredentials, eq_comm]
  | addressV2 c =>
    cases credentials' <;> simp [SorobanRpcAdapter.authorizationEntryFacts, meaning,
      SorobanRpcAdapter.authorizationIdentity, addressCredentials, eq_comm]

/-! ### The only operation -/

theorem invokeOperation_eq_ok :
    a.invokeOperation envelope = .ok ((source, invoke), sources) ↔
      envelope.networkPassphrase = a.passphrase ∧ envelope.v1 = true ∧
      envelope.transaction.operations = [⟨source, .invokeHostFunction invoke⟩] ∧
      (invoke.hostFunction matches .invokeContract _) = true ∧
      sources = (a.universalAccountId envelope.transaction.sourceAccount,
        (source.map a.universalAccountId).getD
          (a.universalAccountId envelope.transaction.sourceAccount)) := by
  rw [SorobanRpcAdapter.invokeOperation, ensure_bind_eq_ok, ensure_bind_eq_ok]
  apply and_congr_right
  intro _
  apply and_congr_right
  intro _
  -- one operation that invokes, one that does not, or another number of them
  split
  · next source' invoke' hoperations =>
    rw [hoperations, ensure_bind_eq_ok, pure_eq_ok]
    constructor
    · intro ⟨hcontract, hresult⟩
      cases hresult
      exact ⟨rfl, hcontract, rfl⟩
    · intro ⟨hsame, hcontract, hsources⟩
      cases hsame
      exact ⟨hcontract, by rw [hsources]⟩
  · next operation hother hoperations =>
    constructor
    · exact nofun
    · intro ⟨hsame, _⟩
      rw [hoperations] at hsame
      exact absurd (List.singleton_inj.mp hsame) (hother source invoke)
  · next hother =>
    constructor
    · exact nofun
    · intro ⟨hsame, _⟩
      exact absurd hsame (hother _)

/-- Other entries leave the rest of the operation as it is. -/
theorem invokeOperation_withAuth
    (h : a.invokeOperation envelope = .ok ((source, invoke), sources)) :
    a.invokeOperation (envelope.withAuth source invoke auth) =
      .ok ((source, { invoke with auth }), sources) := by
  obtain ⟨hnetwork, hv1, -, hcontract, hsources⟩ := invokeOperation_eq_ok.mp h
  exact invokeOperation_eq_ok.mpr ⟨hnetwork, hv1, rfl, hcontract, hsources⟩

theorem withAuth_self (h : a.invokeOperation envelope = .ok ((source, invoke), sources)) :
    envelope.withAuth source invoke invoke.auth = envelope := by
  obtain ⟨-, -, hoperations, -, -⟩ := invokeOperation_eq_ok.mp h
  rw [Envelope.withAuth, ← hoperations]

/-- The entries of an envelope are those that it was given. -/
theorem withAuth_injective (envelope : Envelope) (source : Option MuxedAccount)
    (invoke : InvokeHostFunctionOp) : Function.Injective (envelope.withAuth source invoke) := by
  intro auth auth' h
  simpa [Envelope.withAuth] using h

/-! ### One entry -/

theorem authorizeEntry_source (h : entry.credentials = .sourceAccount) :
    authorizeEntry a signers reviewSource
      (a.authorizationEntryFacts operationSource index entry) envelope = .ok envelope := by
  rw [authorizeEntry, SorobanRpcAdapter.authorizationEntryFacts, h]
  exact if_pos rfl

theorem credentialType_ne (h : entry.credentials ≠ .sourceAccount) :
    (a.authorizationEntryFacts operationSource index entry).credentialType ≠
      "source-account" := by
  obtain ⟨credentials, root⟩ := entry
  cases credentials with
  | sourceAccount => exact absurd rfl h
  | address c => exact (by decide : "address" ≠ "source-account")
  | addressV2 c => exact (by decide : "address-v2" ≠ "source-account")
  | addressWithDelegates c => exact (by decide : "address-with-delegates" ≠ "source-account")

/-- The credentials that the service has signed. -/
theorem credentialType_mem_iff :
    (a.authorizationEntryFacts operationSource index entry).credentialType ∈
        ["address", "address-v2"] ↔
      ∃ address, detachedAddress entry.credentials = some address := by
  obtain ⟨credentials, root⟩ := entry
  cases credentials <;> simp [SorobanRpcAdapter.authorizationEntryFacts,
    SorobanRpcAdapter.authorizationIdentity, detachedAddress]

theorem authorizer_of_detached {address : ScAddress}
    (h : detachedAddress entry.credentials = some address) :
    (a.authorizationEntryFacts operationSource index entry).authorizer = a.address address := by
  obtain ⟨credentials, root⟩ := entry
  cases credentials with
  | sourceAccount => exact absurd h nofun
  | addressWithDelegates c => exact absurd h nofun
  | address c => exact congrArg a.address (Option.some.inj h)
  | addressV2 c => exact congrArg a.address (Option.some.inj h)

/-- The signer of the entry answers with another text. -/
theorem signEntry_eq_ok {text : String} :
    signEntry a signers (a.authorizationEntryFacts operationSource index entry) = .ok text ↔
      ∃ address signer sign, detachedAddress entry.credentials = some address ∧
        (a.address address).startsWith "G" ∧ signers (a.address address) = some signer ∧
        signer.signSorobanAuthorizationEntry = some sign ∧
        sign index (a.entryToXdr entry) a.passphrase = .ok (.text text) ∧
        text ≠ a.entryToXdr entry := by
  rw [signEntry, ensure_bind_eq_ok, credentialType_mem_iff]
  constructor
  · intro ⟨⟨address, haddress⟩, h⟩
    rw [authorizer_of_detached haddress, ensure_bind_eq_ok] at h
    obtain ⟨hclassic, h⟩ := h
    obtain ⟨signer, hsigner, h⟩ := bind_eq_ok.mp h
    obtain ⟨sign, hsign, h⟩ := bind_eq_ok.mp h
    obtain ⟨answer, hanswer, h⟩ := bind_eq_ok.mp h
    -- an answer that is no text is refused
    cases answer with
    | other => cases h
    | text answer =>
      rw [ensure_bind_eq_ok] at h
      obtain ⟨hne, htext⟩ := h
      obtain rfl := Except.ok.inj htext
      exact ⟨address, signer, sign, haddress, hclassic, okOr_eq_ok.mp hsigner,
        okOr_eq_ok.mp hsign, mapErr_eq_ok.mp hanswer, hne⟩
  · intro ⟨address, signer, sign, haddress, hclassic, hsigner, hsign, hanswer, hne⟩
    refine ⟨⟨address, haddress⟩, ?_⟩
    rw [authorizer_of_detached haddress, ensure_bind_eq_ok]
    refine ⟨hclassic, bind_eq_ok.mpr ⟨signer, okOr_eq_ok.mpr hsigner, bind_eq_ok.mpr ⟨sign,
      okOr_eq_ok.mpr hsign, bind_eq_ok.mpr ⟨.text text, mapErr_eq_ok.mpr hanswer, ?_⟩⟩⟩⟩
    exact ensure_bind_eq_ok.mpr ⟨hne, rfl⟩

theorem inspect_eq_ok {text : String} {facts : SorobanAuthorizationEntryFacts} :
    a.inspectAuthorizationEntryXdr text operationSource index = .ok facts ↔
      ∃ signed, a.entryFromXdr text = .ok signed ∧
        facts = a.authorizationEntryFacts operationSource index signed := by
  simp only [SorobanRpcAdapter.inspectAuthorizationEntryXdr, bind_eq_ok, mapErr_eq_ok, pure_eq_ok,
    Except.ok.injEq, eq_comm (a := facts)]

/-- The entry that was reviewed is still there. -/
theorem replace_eq_ok (hoperation : a.invokeOperation envelope = .ok ((source, invoke), sources))
    (hentry : invoke.auth[index]? = some entry) {text : String} :
    a.replaceAuthorizationEntry envelope index (a.entryToXdr entry) text = .ok envelope' ↔
      ∃ signed, a.entryFromXdr text = .ok signed ∧
        envelope' = envelope.withAuth source invoke (invoke.auth.set index signed) := by
  rw [SorobanRpcAdapter.replaceAuthorizationEntry, hoperation, ok_bind]
  simp only [hentry, okOr, ok_bind, ensure, if_true, bind_eq_ok, mapErr_eq_ok, pure_eq_ok,
    Except.ok.injEq, eq_comm (a := envelope')]

/-- An entry takes the place of the one that was reviewed exactly when the signer answers
with it. -/
theorem authorizeEntry_eq_ok
    (hoperation : a.invokeOperation envelope = .ok ((source, invoke), sources))
    (hentry : invoke.auth[index]? = some entry) :
    authorizeEntry a signers reviewSource
        (a.authorizationEntryFacts operationSource index entry) envelope = .ok envelope' ↔
      ∃ signed, Authorized a signers index entry signed ∧
        envelope' = envelope.withAuth source invoke (invoke.auth.set index signed) := by
  by_cases hsource : entry.credentials = .sourceAccount
  -- the source account signs with the transaction, and its entry stays as it is
  · have hsame : envelope.withAuth source invoke (invoke.auth.set index entry) = envelope := by
      obtain ⟨hlt, hget⟩ := List.getElem?_eq_some_iff.mp hentry
      rw [← hget, List.set_getElem_self, withAuth_self hoperation]
    rw [authorizeEntry_source hsource]
    constructor
    · intro h
      exact ⟨entry, .inl ⟨hsource, rfl⟩, (Except.ok.inj h).symm.trans hsame.symm⟩
    · intro ⟨signed, hsigned, henvelope⟩
      rw [Authorized.unique (.inl ⟨hsource, rfl⟩) hsigned, hsame] at henvelope
      rw [henvelope]
  · rw [authorizeEntry, if_neg (credentialType_ne hsource), bind_eq_ok]
    constructor
    · intro ⟨text, htext, h⟩
      obtain ⟨address, signer, sign, haddress, hclassic, hsigner, hsign, hanswer, hne⟩ :=
        signEntry_eq_ok.mp htext
      obtain ⟨facts, hfacts, h⟩ := bind_eq_ok.mp h
      obtain ⟨signed, hsigned, rfl⟩ := inspect_eq_ok.mp hfacts
      obtain ⟨hmeaning, h⟩ := ensure_bind_eq_ok.mp h
      rw [changedFields_eq_nil] at hmeaning
      refine ⟨signed, .inr ⟨address, signer, sign, text, haddress, hclassic, hsigner, hsign,
        hanswer, hne, hsigned, (facts_eq_iff haddress).mp hmeaning⟩, ?_⟩
      obtain ⟨other, hother, rfl⟩ := (replace_eq_ok hoperation hentry).mp h
      rw [Except.ok.inj (hsigned.symm.trans hother)]
    · intro ⟨signed, hsigned, henvelope⟩
      obtain ⟨address, signer, sign, text, haddress, hclassic, hsigner, hsign, hanswer, hne,
        hsigned, hmeaning⟩ := hsigned.resolve_left (fun h => hsource h.1)
      refine ⟨text, signEntry_eq_ok.mpr ⟨address, signer, sign, haddress, hclassic, hsigner,
        hsign, hanswer, hne⟩, ?_⟩
      rw [bind_eq_ok]
      refine ⟨_, inspect_eq_ok.mpr ⟨signed, hsigned, rfl⟩, ?_⟩
      apply ensure_bind_eq_ok.mpr
      constructor
      · rw [changedFields_eq_nil]
        exact (facts_eq_iff haddress).mpr hmeaning
      · exact (replace_eq_ok hoperation hentry).mpr ⟨signed, hsigned, henvelope⟩

/-! ### The loop -/

/-- The entries that take the places of others, from a position on. -/
inductive AllAuthorized (a : SorobanRpcAdapter) (signers : String → Option AuthorizationSigner) :
    ℕ → List SorobanAuthorizationEntry → List SorobanAuthorizationEntry → Prop
  | nil {index : ℕ} : AllAuthorized a signers index [] []
  | cons {index : ℕ} {entry signed : SorobanAuthorizationEntry}
      {entries answers : List SorobanAuthorizationEntry} :
      Authorized a signers index entry signed →
      AllAuthorized a signers (index + 1) entries answers →
      AllAuthorized a signers index (entry :: entries) (signed :: answers)

theorem forEach_authorizeEntry {done : List SorobanAuthorizationEntry}
    (hoperation : a.invokeOperation envelope = .ok ((source, invoke), sources))
    (hauth : invoke.auth = done ++ (before ++ rest)) :
    forEach (authorizeEntry a signers reviewSource)
        (a.factsFrom operationSource done.length before) envelope = (.ok (), envelope') ↔
      ∃ answers, AllAuthorized a signers done.length before answers ∧
        envelope' = envelope.withAuth source invoke (done ++ (answers ++ rest)) := by
  -- the induction is on the entries that are left; those that are done move to `done`
  induction before generalizing done envelope invoke with
  | nil =>
    have hself : envelope.withAuth source invoke (done ++ ([] ++ rest)) = envelope := by
      rw [← hauth, withAuth_self hoperation]
    constructor
    · intro h
      exact ⟨[], .nil, (Prod.mk.inj h).2.symm.trans hself.symm⟩
    · intro ⟨answers, hanswers, henvelope⟩
      cases hanswers
      rw [henvelope, hself]
      rfl
  | cons entry before ih =>
    have hentry : invoke.auth[done.length]? = some entry := by
      rw [hauth, List.getElem?_append_right (Nat.le_refl _), Nat.sub_self]
      rfl
    rw [SorobanRpcAdapter.factsFrom]
    cases hstep : authorizeEntry a signers reviewSource
        (a.authorizationEntryFacts operationSource done.length entry) envelope with
    | error e =>
      rw [forEach_cons_error hstep]
      constructor
      · intro h
        exact absurd (Prod.mk.inj h).1 nofun
      · intro ⟨answers, hanswers, _⟩
        cases hanswers with
        | cons hentry' _ =>
          rw [(authorizeEntry_eq_ok hoperation hentry).mpr ⟨_, hentry', rfl⟩] at hstep
          exact absurd hstep nofun
    | ok next =>
      -- the next pass finds the answer at the end of what is done
      obtain ⟨signed, hsigned, rfl⟩ := (authorizeEntry_eq_ok hoperation hentry).mp hstep
      have hset : invoke.auth.set done.length signed = done ++ [signed] ++ (before ++ rest) := by
        rw [hauth, List.set_append_right _ _ (Nat.le_refl _), Nat.sub_self, List.append_assoc]
        rfl
      have hlength : done.length + 1 = (done ++ [signed]).length := by
        rw [List.length_append, List.length_singleton]
      rw [forEach_cons_ok hstep, hlength,
        ih (invokeOperation_withAuth hoperation) hset, ← hlength]
      constructor
      · intro ⟨answers, hanswers, henvelope⟩
        refine ⟨signed :: answers, .cons hsigned hanswers, ?_⟩
        rw [henvelope, List.append_assoc]
        rfl
      · intro ⟨answers, hanswers, henvelope⟩
        cases hanswers with
        | cons hentry' hrest =>
          obtain rfl := hsigned.unique hentry'
          refine ⟨_, hrest, ?_⟩
          rw [henvelope, List.append_assoc]
          rfl
/-- The loop over the first entries. -/
theorem forEach_authorizeEntry_zero
    (hoperation : a.invokeOperation envelope = .ok ((source, invoke), sources))
    (hauth : invoke.auth = before ++ rest) :
    forEach (authorizeEntry a signers reviewSource)
        (a.factsFrom operationSource 0 before) envelope = (.ok (), envelope') ↔
      ∃ answers, AllAuthorized a signers 0 before answers ∧
        envelope' = envelope.withAuth source invoke (answers ++ rest) := by
  rw [← List.nil_append (before ++ rest)] at hauth
  apply forEach_authorizeEntry hoperation hauth

end Fresnica.Python.Soroban
