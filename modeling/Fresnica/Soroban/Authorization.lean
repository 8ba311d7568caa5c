import Fresnica.Soroban.Prepared

/-!
# Authorizing a prepared Soroban transaction

Every authorization entry with credentials of its own is encoded, signed by the
local signer of its authorizer, and put back, provided that nothing but its
signature changed. The envelope with the signed entries is then bound in place of
the reviewed one.

The entry codec and the signing functions of the core enter as parameters; nothing
is assumed about either.

## Main definitions

* `AuthorizationCodec`, `AuthorizationSdk` — the encoded entries, and who signs them
* `validateSignedAuthorization` — the comparison of a signed entry with the reviewed one
* `authorizePreparedSorobanWithSystemAuth`
* `TaggedTransaction.withoutAuthSignatures` — a body without the signatures of its entries

## Main results

* `validateSignedAuthorization_ok` — an accepted entry differs in its signature alone
* `body_of_replaceInvokeAuthEntries` — and so does the body
* `authorizePreparedSoroban_cases` — what an authorization can do
-/

namespace Fresnica

open Foundation

structure AuthorizationCodec (EntryBytes : Type) where
  encode : SorobanAuthorizationEntry → Except String EntryBytes
  decode : EntryBytes → Except String SorobanAuthorizationEntry

structure AuthorizationSdk (EntryBytes : Type) where
  signSorobanAuthorizationXdr : (protectedJson : String) → (unlockKey : List UInt8) →
    (expected : String) → (entryXdr : EntryBytes) → (networkPassphrase : String) →
    Except SdkError EntryBytes
  signSorobanAuthorizationXdrWithPasscode : (protectedJson passcode expected : String) →
    (entryXdr : EntryBytes) → (networkPassphrase : String) → Except SdkError EntryBytes

/-! ### Entries -/

def setSignatureVoid (entry : SorobanAuthorizationEntry) :
    Except String SorobanAuthorizationEntry :=
  match entry.credentials with
  | .address credentials =>
    .ok { entry with credentials := .address { credentials with signature := .void } }
  | .addressV2 credentials =>
    .ok { entry with credentials := .addressV2 { credentials with signature := .void } }
  | .addressWithDelegates _ =>
    .error "Delegated Soroban authorization requires a concrete provider"
  | .sourceAccount =>
    .error "Source-account authorization does not carry a detached signature"

def validateSignedAuthorization (reviewed signed : SorobanAuthorizationEntry) :
    Except String Unit := do
  let reviewedSemantics ← setSignatureVoid reviewed
  let signedSemantics ← setSignatureVoid signed
  ensure (reviewedSemantics = signedSemantics)
    "Soroban signer changed reviewed authorization meaning"
  ensure (reviewed ≠ signed) "Soroban authorization signer returned no signature"

def requireInvokeHostFunction (envelope : TransactionEnvelope) :
    Except String (Transaction × Option MuxedAccount × InvokeHostFunctionOp ×
      List DecoratedSignature) :=
  match envelope with
  | .txV0 .. | .txFeeBump .. => .error "Soroban v1 requires a TransactionEnvelope v1"
  | .tx tx signatures =>
    match tx.operations with
    | [⟨source, .invokeHostFunction invoke⟩] => .ok (tx, source, invoke, signatures)
    | [_] => .error "Soroban v1 supports only InvokeHostFunction"
    | _ => .error "Soroban v1 requires exactly one InvokeHostFunction operation"

def invokeAuthEntries (envelope : TransactionEnvelope) :
    Except String (List SorobanAuthorizationEntry) := do
  let (_, _, invoke, _) ← requireInvokeHostFunction envelope
  return invoke.auth

/-- The most entries a vector can hold. -/
def maxAuthorizationEntries : ℕ := 4294967295

def replaceInvokeAuthEntries (envelope : TransactionEnvelope)
    (entries : List SorobanAuthorizationEntry) : Except String TransactionEnvelope := do
  let (tx, source, invoke, signatures) ← requireInvokeHostFunction envelope
  ensure (entries.length ≤ maxAuthorizationEntries) "Too many Soroban authorization entries"
  return .tx
    { tx with operations := [⟨source, .invokeHostFunction { invoke with auth := entries }⟩] }
    signatures

/-! ### Signing the entries -/

section Definitions

variable {Bytes Digest EntryBytes : Type} (p : Primitives Bytes Digest)
variable (codec : AuthorizationCodec EntryBytes) (sdk : AuthorizationSdk EntryBytes)

def directClassicAuthorizer (credentials : SorobanAddressCredentials) : Except String String :=
  match credentials.address with
  | .account id => .ok (p.strKey.publicKey id)
  | .contract _ | .other _ => .error
      "Unsupported detached Soroban authorizer; only Classic G accounts are supported"

def authorizationEntryXdr (entry : SorobanAuthorizationEntry) : Except String EntryBytes :=
  mapErr (fun error => s!"Unable to encode Soroban authorization: {error}") (codec.encode entry)

def parseAuthorizationEntryXdr (encoded : EntryBytes) : Except String SorobanAuthorizationEntry :=
  mapErr (fun error => s!"Signed Soroban authorization is invalid: {error}")
    (codec.decode encoded)

def signAuthorizationEntryWithUnlockKey (record : WalletRecord)
    (network expectedAuthorizer : String) (entryXdr : EntryBytes) (unlockKey : List UInt8) :
    Except String EntryBytes := do
  let protectedJson ← protectedSigner record
  let passphrase ← networkPassphrase network
  mapErr (fun error : SdkError => match error.code with
      | .invalidUnlockKey => "Unable to unlock Soroban authorizer: invalid system-auth unlock key"
      | _ => s!"Unable to sign Soroban authorization: {error.message}")
    (sdk.signSorobanAuthorizationXdr protectedJson unlockKey expectedAuthorizer entryXdr
      passphrase)

def signAuthorizationEntry (record : WalletRecord) (network expectedAuthorizer : String)
    (entryXdr : EntryBytes) (passcode : String) : Except String EntryBytes := do
  let protectedJson ← protectedSigner record
  let passphrase ← networkPassphrase network
  mapErr (fun error : SdkError => match error.code with
      | .invalidPasscode => "Unable to unlock Soroban authorizer: invalid Fresnica passcode"
      | _ => s!"Unable to sign Soroban authorization: {error.message}")
    (sdk.signSorobanAuthorizationXdrWithPasscode protectedJson passcode expectedAuthorizer
      entryXdr passphrase)

/-- The signers of the entries, by address. -/
structure AuthorizerMaps where
  signers : BTreeMap String WalletRecord
  systemAuth : BTreeMap String SystemAuthUnlockProvider

/-- The encoded entry, signed by the local signer of its authorizer. -/
def signForAuthorizer (maps : AuthorizerMaps) (passcode : Option String)
    (network authorizer : String) (unsigned : EntryBytes) (signer : WalletRecord) :
    Except String EntryBytes :=
  match maps.systemAuth[authorizer]? with
  | some provider => do
    let slot ← systemAuthSlot p signer
    let unlockKey ← releaseUnlockKey provider authorizer slot
    signAuthorizationEntryWithUnlockKey sdk signer network authorizer unsigned unlockKey
  | none => do
    let passcode ← okOr passcode localSoftwarePassphraseRequired
    signAuthorizationEntry sdk signer network authorizer unsigned passcode

/-- An entry with address credentials, signed. -/
def signReviewedEntry [DecidableEq EntryBytes] (maps : AuthorizerMaps)
    (passcode : Option String) (network : String)
    (credentials : SorobanAddressCredentials) (entry : SorobanAuthorizationEntry) :
    Except String SorobanAuthorizationEntry := do
  let authorizer ← directClassicAuthorizer p credentials
  let signer ← okOr maps.signers[authorizer]?
    s!"No local signer capability for Soroban authorizer {authorizer}"
  let unsigned ← authorizationEntryXdr codec entry
  let signed ← signForAuthorizer p sdk maps passcode network authorizer unsigned signer
  ensure (signed ≠ unsigned) "Soroban authorization signer returned no signature"
  let signedEntry ← parseAuthorizationEntryXdr codec signed
  validateSignedAuthorization entry signedEntry
  return signedEntry

def authorizeEntry [DecidableEq EntryBytes] (maps : AuthorizerMaps)
    (passcode : Option String) (network : String) (entry : SorobanAuthorizationEntry) :
    Except String SorobanAuthorizationEntry :=
  match entry.credentials with
  | .sourceAccount => .ok entry
  | .address credentials | .addressV2 credentials =>
    signReviewedEntry p codec sdk maps passcode network credentials entry
  | .addressWithDelegates _ =>
    .error "Delegated Soroban authorization requires a concrete provider"

variable [DecidableEq EntryBytes] [DecidableEq Bytes] [DecidableEq Digest]
variable (wallets : WalletList) (passcode : Option String)
variable (systemAuthProviders : List SystemAuthUnlockProvider)

/-- The envelope with every entry authorized; nothing is changed before it is there. -/
def authorizedEnvelope (prepared : PreparedSorobanTransaction Bytes Digest) :
    Except String TransactionEnvelope := do
  prepared.assertReviewBinding p
  ensure (prepared.authorizedEnvelopeXdr.isNone = true)
    "Soroban authorization has already been applied"
  let network := prepared.review.network
  let signers ← localSigningRecords wallets network
  let systemAuth ← systemAuthProviderMap signers systemAuthProviders
  let entries ← invokeAuthEntries prepared.envelope
  ensure (entries.length = prepared.review.authEntryCount)
    "Soroban authorization entry count changed after review"
  let entries ← entries.mapM (authorizeEntry p codec sdk ⟨signers, systemAuth⟩ passcode network)
  replaceInvokeAuthEntries prepared.envelope entries

def authorizePreparedSorobanWithSystemAuth
    (prepared : PreparedSorobanTransaction Bytes Digest) :
    Except String Unit × PreparedSorobanTransaction Bytes Digest :=
  match authorizedEnvelope p codec sdk wallets passcode systemAuthProviders prepared with
  | .error error => (.error error, prepared)
  | .ok envelope =>
    let (result, bound) := { prepared with envelope }.bindAuthorizedEnvelope p
    (result >>= fun _ => bound.assertReviewBinding p, bound)

def authorizePreparedSoroban (wallets : WalletList) (passcode : String)
    (prepared : PreparedSorobanTransaction Bytes Digest) :
    Except String Unit × PreparedSorobanTransaction Bytes Digest :=
  authorizePreparedSorobanWithSystemAuth p codec sdk wallets (some passcode) [] prepared

end Definitions

/-! ### What an authorization changes -/

/-- The credentials without their own signature. -/
def SorobanCredentials.withoutSignature : SorobanCredentials → SorobanCredentials
  | .address credentials => .address { credentials with signature := .void }
  | .addressV2 credentials => .addressV2 { credentials with signature := .void }
  | credentials => credentials

def SorobanAuthorizationEntry.withoutSignature (entry : SorobanAuthorizationEntry) :
    SorobanAuthorizationEntry :=
  { entry with credentials := entry.credentials.withoutSignature }

def Operation.withoutAuthSignatures (operation : Operation) : Operation :=
  match operation.body with
  | .invokeHostFunction invoke => { operation with
      body := .invokeHostFunction
        { invoke with auth := invoke.auth.map (·.withoutSignature) } }
  | _ => operation

/-- The body without the signatures of its authorization entries. -/
def TaggedTransaction.withoutAuthSignatures : TaggedTransaction → TaggedTransaction
  | .tx t => .tx { t with operations := t.operations.map (·.withoutAuthSignatures) }
  | .txFeeBump t => .txFeeBump t

variable {entry entry' : SorobanAuthorizationEntry} {envelope envelope' : TransactionEnvelope}
variable {entries entries' : List SorobanAuthorizationEntry}

theorem setSignatureVoid_ok (h : setSignatureVoid entry = .ok entry') :
    entry' = entry.withoutSignature := by
  obtain ⟨credentials, rootInvocation⟩ := entry
  cases credentials with
  | address credentials | addressV2 credentials => exact (Except.ok.inj h).symm
  | addressWithDelegates credentials | sourceAccount => exact absurd h (by simp [setSignatureVoid])

/-- A signed entry that is accepted differs in its signature, and in nothing else. -/
theorem validateSignedAuthorization_ok (h : validateSignedAuthorization entry entry' = .ok ()) :
    entry'.withoutSignature = entry.withoutSignature ∧ entry' ≠ entry := by
  unfold validateSignedAuthorization at h
  obtain ⟨reviewed, hreviewed, h⟩ := bind_eq_ok.mp h
  obtain ⟨signed, hsigned, h⟩ := bind_eq_ok.mp h
  obtain ⟨hsame, h⟩ := ensure_bind_eq_ok.mp h
  rw [setSignatureVoid_ok hreviewed, setSignatureVoid_ok hsigned] at hsame
  exact ⟨hsame.symm, fun heq => ensure_eq_ok.mp h heq.symm⟩

theorem requireInvokeHostFunction_eq_ok {tx : Transaction} {source : Option MuxedAccount}
    {invoke : InvokeHostFunctionOp} {signatures : List DecoratedSignature} :
    requireInvokeHostFunction envelope = .ok (tx, source, invoke, signatures) ↔
      envelope = .tx tx signatures ∧ tx.operations = [⟨source, .invokeHostFunction invoke⟩] := by
  unfold requireInvokeHostFunction
  constructor
  · intro h
    split at h
    · exact absurd h (by simp)
    · exact absurd h (by simp)
    · split at h
      · rename_i hoperations
        simp only [Except.ok.injEq, Prod.mk.injEq] at h
        obtain ⟨rfl, rfl, rfl, rfl⟩ := h
        exact ⟨rfl, hoperations⟩
      · exact absurd h (by simp)
      · exact absurd h (by simp)
  · rintro ⟨rfl, hoperations⟩
    simp only [hoperations]

/-- Entries that differ in their signatures make bodies that differ in them. -/
theorem body_of_replaceInvokeAuthEntries (hentries : invokeAuthEntries envelope = .ok entries)
    (hsame : entries'.map (·.withoutSignature) = entries.map (·.withoutSignature))
    (h : replaceInvokeAuthEntries envelope entries' = .ok envelope') :
    envelope'.body.withoutAuthSignatures = envelope.body.withoutAuthSignatures := by
  obtain ⟨⟨tx, source, invoke, signatures⟩, hinvoke, hentries⟩ := bind_eq_ok.mp hentries
  obtain rfl := Except.ok.inj hentries
  obtain ⟨rfl, hoperations⟩ := requireInvokeHostFunction_eq_ok.mp hinvoke
  rw [replaceInvokeAuthEntries, hinvoke, ok_bind] at h
  obtain ⟨-, h⟩ := ensure_bind_eq_ok.mp h
  obtain rfl := Except.ok.inj h
  simp [TransactionEnvelope.body, TaggedTransaction.withoutAuthSignatures, hoperations,
    Operation.withoutAuthSignatures, hsame]

variable {Bytes Digest EntryBytes : Type} [DecidableEq EntryBytes]
variable {p : Primitives Bytes Digest} {codec : AuthorizationCodec EntryBytes}
variable {sdk : AuthorizationSdk EntryBytes} {wallets : WalletList} {passcode : Option String}
variable {systemAuthProviders : List SystemAuthUnlockProvider} {maps : AuthorizerMaps}
variable {network : String} {prepared prepared' : PreparedSorobanTransaction Bytes Digest}
variable {result : Except String Unit}

theorem authorizeEntry_ok
    (h : authorizeEntry p codec sdk maps passcode network entry = .ok entry') :
    entry'.withoutSignature = entry.withoutSignature := by
  have hsigned : ∀ credentials,
      signReviewedEntry p codec sdk maps passcode network credentials entry = .ok entry' →
        entry'.withoutSignature = entry.withoutSignature := by
    intro credentials h
    simp only [signReviewedEntry, bind_eq_ok, pure_eq_ok, Except.ok.injEq] at h
    obtain ⟨_, -, _, -, _, -, _, -, _, -, signedEntry, -, _, hvalid, rfl⟩ := h
    exact (validateSignedAuthorization_ok hvalid).1
  unfold authorizeEntry at h
  split at h
  · obtain rfl := Except.ok.inj h
    rfl
  · exact hsigned _ h
  · exact hsigned _ h
  · exact absurd h (by simp)

theorem authorizeEntries_ok
    (h : entries.mapM (authorizeEntry p codec sdk maps passcode network) = .ok entries') :
    entries'.map (·.withoutSignature) = entries.map (·.withoutSignature) := by
  induction entries generalizing entries' with
  | nil =>
    obtain rfl := Except.ok.inj h
    rfl
  | cons entry entries ih =>
    rw [List.mapM_cons] at h
    obtain ⟨signed, hsigned, h⟩ := bind_eq_ok.mp h
    obtain ⟨rest, hrest, h⟩ := bind_eq_ok.mp h
    obtain rfl := Except.ok.inj h
    rw [List.map_cons, List.map_cons, authorizeEntry_ok hsigned, ih hrest]

variable [DecidableEq Bytes] [DecidableEq Digest]

theorem authorizedEnvelope_ok
    (h : authorizedEnvelope p codec sdk wallets passcode systemAuthProviders prepared =
      .ok envelope) :
    prepared.assertReviewBinding p = .ok () ∧ prepared.authorizedEnvelopeXdr = none ∧
      envelope.body.withoutAuthSignatures =
        prepared.envelope.body.withoutAuthSignatures := by
  simp only [authorizedEnvelope, bind_eq_ok, ensure_eq_ok, Option.isNone_iff_eq_none] at h
  obtain ⟨_, hbinding, _, hnone, _, -, _, -, entries, hentries, _, -, entries', hsigned,
    hreplace⟩ := h
  exact ⟨hbinding, hnone,
    body_of_replaceInvokeAuthEntries hentries (authorizeEntries_ok hsigned) hreplace⟩

/-- An authorization fails and changes nothing, fails while it binds the envelope, or
binds an envelope that differs from the reviewed one in the signatures of its
entries. -/
theorem authorizePreparedSoroban_cases
    (h : authorizePreparedSorobanWithSystemAuth p codec sdk wallets passcode systemAuthProviders
      prepared = (result, prepared')) :
    (∃ e, result = .error e) ∧ prepared' = prepared ∨
    prepared.assertReviewBinding p = .ok () ∧ prepared.authorizedEnvelopeXdr = none ∧
      ∃ envelope, envelope.body.withoutAuthSignatures =
          prepared.envelope.body.withoutAuthSignatures ∧
        ((∃ e, result = .error e) ∧ prepared' = { prepared with envelope } ∨
          ∃ xdr, p.encode envelope = some xdr ∧
            ((∃ e, result = .error e ∧
                transactionHashBytes p envelope prepared.review.network = .error e) ∧
                prepared' = { prepared with envelope, authorizedEnvelopeXdr := some xdr } ∨
              result = .ok () ∧ ∃ hash,
                transactionHashBytes p envelope prepared.review.network = .ok hash ∧
                prepared' = { prepared with
                  envelope
                  authorizedEnvelopeXdr := some xdr
                  authorizedTransactionHash := some hash })) := by
  unfold authorizePreparedSorobanWithSystemAuth at h
  split at h
  · obtain ⟨rfl, rfl⟩ := Prod.mk.inj h
    exact Or.inl ⟨⟨_, rfl⟩, rfl⟩
  rename_i envelope hauthorized
  obtain ⟨hbinding, hnone, hbody⟩ := authorizedEnvelope_ok hauthorized
  refine Or.inr ⟨hbinding, hnone, envelope, hbody, ?_⟩
  simp only [PreparedSorobanTransaction.bindAuthorizedEnvelope] at h
  cases hxdr : transactionXdrBytes p envelope with
  | error e =>
    simp only [hxdr, error_bind, Prod.mk.injEq] at h
    obtain ⟨rfl, rfl⟩ := h
    exact Or.inl ⟨⟨_, rfl⟩, rfl⟩
  | ok xdr =>
    have hencode := transactionXdrBytes_eq_ok.mp hxdr
    refine Or.inr ⟨xdr, hencode, ?_⟩
    cases hhash : transactionHashBytes p envelope prepared.review.network with
    | error e =>
      simp only [hxdr, hhash, error_bind, Prod.mk.injEq] at h
      obtain ⟨rfl, rfl⟩ := h
      exact Or.inl ⟨⟨_, rfl, rfl⟩, rfl⟩
    | ok hash =>
      simp only [hxdr, hhash, ok_bind, Prod.mk.injEq] at h
      obtain ⟨rfl, rfl⟩ := h
      -- what was just bound passes the comparison
      exact Or.inr ⟨PreparedSorobanTransaction.assertReviewBinding_eq_ok.mpr ⟨hencode, hhash⟩,
        hash, rfl, rfl⟩

end Fresnica
