import Fresnica.Foundation.InPlace
import Fresnica.LedgerAuthorization.Satisfied
import Fresnica.SigningCoordination.Selection
import Fresnica.Wallet

/-!
# Signing with the selected signers

The selected keys sign one after the other. Each is served by an external provider,
by a local signer that a system-auth provider unlocks, or by a local signer opened
with the passcode; the envelope is replaced after every signature. A failing signer
ends the loop, and the signatures collected before it stay on the envelope.

## Main definitions

* `SignerAccess` — what the caller offers to sign with
* `prepareSigning` — the checks before anything is signed, and the selection
* `signWithSelectedKey` — one signature
* `signNeededWithEd25519Providers`, `signWithEd25519Providers` — the whole procedure
* `signWithLocalEd25519` — the procedure with local signers only

## Main results

* `signWithSelectedKey_signed` — a signer adds one signature, of its own key
* `satisfied_of_signed` — once all selected keys have signed, the plan is satisfied
* `signWithEd25519Providers_eq` — so the whole procedure fails only where its
  preparation or its loop does
-/

namespace Fresnica

open Foundation

/-- Loads the authorization plan of an envelope from the ledger. -/
abbrev PlanLoader := TransactionEnvelope → Except String LedgerAuthorizationPlan

/-- The wallets, and what the caller can unlock or sign with. -/
structure SignerAccess (Bytes Digest : Type) where
  wallets : WalletList
  passcode : Option String
  systemAuthProviders : List SystemAuthUnlockProvider
  externalProviders : List (ExternalEd25519SigningProvider Bytes Digest)

/-- The signers by public key. -/
structure SignerMaps (Bytes Digest : Type) where
  records : BTreeMap String WalletRecord
  systemAuth : BTreeMap String SystemAuthUnlockProvider
  external : BTreeMap String (ExternalEd25519SigningProvider Bytes Digest)

section Definitions

variable {Bytes Digest : Type} (p : Primitives Bytes Digest) (sdk : TransactionSdk Bytes Digest)

def externalProviderMap (providers : List (ExternalEd25519SigningProvider Bytes Digest)) :
    Except String (BTreeMap String (ExternalEd25519SigningProvider Bytes Digest)) :=
  providers.foldlM (fun map provider => do
    ensure (provider.publicKey ∉ map)
      s!"duplicate external Ed25519 signer provider: {provider.publicKey}"
    return map.insert provider.publicKey provider) ∅

def signerMaps (access : SignerAccess Bytes Digest) (network : String) :
    Except String (SignerMaps Bytes Digest) := do
  let records ← localSigningRecords access.wallets network
  let systemAuth ← systemAuthProviderMap records access.systemAuthProviders
  let external ← externalProviderMap access.externalProviders
  match external.keys.find? fun key => systemAuth.contains key with
  | some key => throw s!"signer {key} is configured as both system-auth and external provider"
  | none => return ⟨records, systemAuth, external⟩

/-- The keys that may be selected. -/
def SignerMaps.available (signers : SignerMaps Bytes Digest) (excludedKeys : BTreeSet String) :
    BTreeSet String :=
  .ofList ((signers.records.keys ++ signers.external.keys).filter (· ∉ excludedKeys))

/-- The key is opened with the passcode. -/
def SignerMaps.needsPasscode (signers : SignerMaps Bytes Digest) (key : String) : Bool :=
  key ∉ signers.external ∧ key ∉ signers.systemAuth

/-- The passcode opens every selected signer that needs it. -/
def preflightPasscode (signers : SignerMaps Bytes Digest) (passcode : Option String)
    (selected : List String) : Except String Unit := do
  let localSelected := selected.filter signers.needsPasscode
  if localSelected ≠ [] then
    let passcode ← okOr passcode localSoftwarePassphraseRequired
    forM localSelected fun key => do
      let record ← okOr signers.records[key]? "selected local signer must come from local records"
      verifyPasscode sdk record passcode

/-- Everything that is checked before the first signature, with the selection. -/
def prepareSigning (plan : LedgerAuthorizationPlan) (satisfied : BTreeSet LedgerSignerCondition)
    (excludedKeys : BTreeSet String) (minimumSignatures : ℕ) (network : String)
    (access : SignerAccess Bytes Digest) :
    Except String (SignerMaps Bytes Digest × List String) := do
  let _ ← networkPassphrase network
  let signers ← signerMaps access network
  let selected ← selectEd25519Signers plan satisfied (signers.available excludedKeys)
    minimumSignatures
  preflightPasscode sdk signers access.passcode selected
  return (signers, selected)

def encodeBeforeSigning (envelope : TransactionEnvelope) : Except String Bytes :=
  mapErr (fun error => s!"Unable to encode transaction before signing: {error}")
    (transactionXdrBytes p envelope)

def signWithExternalProvider (provider : ExternalEd25519SigningProvider Bytes Digest)
    (key networkPassphrase : String) (transactionXdr : Bytes) : Except String Bytes := do
  let request ← mapErr (fun error : SdkError =>
      s!"Unable to prepare external signing request: {error.message}")
    (sdk.prepareEd25519Signing transactionXdr networkPassphrase)
  let signature ← mapErr (fun error => s!"External signer {key} failed: {error}")
    (provider.signRequest request)
  mapErr (fun error : SdkError =>
      s!"External signer {key} returned an invalid signature: {error.message}")
    (sdk.applyEd25519Signature transactionXdr networkPassphrase key signature)

/-- One round of the signing loop: the envelope with the signature of one selected
key. -/
def signWithSelectedKey (signers : SignerMaps Bytes Digest) (passcode : Option String)
    (network : String) (key : String) (envelope : TransactionEnvelope) :
    Except String TransactionEnvelope := do
  let passphrase ← networkPassphrase network
  match signers.external[key]? with
  | some provider => do
    let transactionXdr ← encodeBeforeSigning p envelope
    let signedXdr ← signWithExternalProvider sdk provider key passphrase transactionXdr
    parseTransactionXdr p signedXdr
  | none => do
    let record ← okOr signers.records[key]?
      "selected signer must be available locally or externally"
    let transactionXdr ← encodeBeforeSigning p envelope
    match signers.systemAuth[key]? with
    | some provider => do
      let slot ← systemAuthSlot p record
      let unlockKey ← releaseUnlockKey provider key slot
      let signedXdr ← signTransactionXdrWithUnlockKey sdk record network transactionXdr unlockKey
      parseTransactionXdr p signedXdr
    | none => do
      let passcode ← okOr passcode "local signer passcode was preflighted"
      let signedXdr ← signTransactionXdrWithPasscode sdk record network transactionXdr passcode
      parseTransactionXdr p signedXdr

def signNeededWithEd25519Providers (plan : LedgerAuthorizationPlan)
    (satisfied : BTreeSet LedgerSignerCondition) (excludedKeys : BTreeSet String)
    (minimumSignatures : ℕ) (network : String) (access : SignerAccess Bytes Digest)
    (envelope : TransactionEnvelope) : Except String Unit × TransactionEnvelope :=
  match prepareSigning sdk plan satisfied excludedKeys minimumSignatures network access with
  | .error error => (.error error, envelope)
  | .ok (signers, selected) =>
    forEach (signWithSelectedKey p sdk signers access.passcode network) selected envelope

/-- The conditions of the plan that the envelope satisfies on the network. -/
def satisfiedOnNetwork (plan : LedgerAuthorizationPlan) (network : String)
    (envelope : TransactionEnvelope) : Except String (BTreeSet LedgerSignerCondition) := do
  let passphrase ← networkPassphrase network
  satisfiedTransactionConditions p plan envelope passphrase

def ensureSatisfied (plan : LedgerAuthorizationPlan) (network : String)
    (envelope : TransactionEnvelope) : Except String Unit := do
  let satisfied ← satisfiedOnNetwork p plan network envelope
  ensure (plan.isSatisfiableBy satisfied = true)
    "Signing Coordination did not satisfy ledger authorization"

def signWithEd25519Providers (plan : LedgerAuthorizationPlan) (network : String)
    (access : SignerAccess Bytes Digest) (envelope : TransactionEnvelope) :
    Except String Unit × TransactionEnvelope :=
  match satisfiedOnNetwork p plan network envelope with
  | .error error => (.error error, envelope)
  | .ok satisfied =>
    let (result, signed) :=
      signNeededWithEd25519Providers p sdk plan satisfied ∅ 0 network access envelope
    (result >>= fun _ => ensureSatisfied p plan network signed, signed)

/-! ### Local signers only -/

/-- One round of the loop over local signers. -/
def signWithLocalKey (records : BTreeMap String WalletRecord) (passcode network key : String)
    (envelope : TransactionEnvelope) : Except String TransactionEnvelope := do
  let record ← okOr records[key]? "selected signer must come from local records"
  let transactionXdr ← encodeBeforeSigning p envelope
  let signedXdr ← signTransactionXdrWithPasscode sdk record network transactionXdr passcode
  parseTransactionXdr p signedXdr

/-- The local signers, and the keys selected among them. -/
def prepareLocalSigning (plan : LedgerAuthorizationPlan)
    (satisfied : BTreeSet LedgerSignerCondition) (excludedKeys : BTreeSet String)
    (minimumSignatures : ℕ) (network : String) (wallets : WalletList) :
    Except String (BTreeMap String WalletRecord × List String) := do
  let records ← localSigningRecords wallets network
  let localSigners := .ofList (records.keys.filter (· ∉ excludedKeys))
  let selected ← selectLocalEd25519Signers plan satisfied localSigners minimumSignatures
  return (records, selected)

def signNeededLocalEd25519 (plan : LedgerAuthorizationPlan)
    (satisfied : BTreeSet LedgerSignerCondition) (excludedKeys : BTreeSet String)
    (minimumSignatures : ℕ) (network : String) (wallets : WalletList) (passcode : String)
    (envelope : TransactionEnvelope) : Except String Unit × TransactionEnvelope :=
  match prepareLocalSigning plan satisfied excludedKeys minimumSignatures network wallets with
  | .error error => (.error error, envelope)
  | .ok (records, selected) =>
    forEach (signWithLocalKey p sdk records passcode network) selected envelope

def signWithLocalEd25519 (plan : LedgerAuthorizationPlan) (network : String)
    (wallets : WalletList) (passcode : String) (envelope : TransactionEnvelope) :
    Except String Unit × TransactionEnvelope :=
  match satisfiedOnNetwork p plan network envelope with
  | .error error => (.error error, envelope)
  | .ok satisfied =>
    let (result, signed) :=
      signNeededLocalEd25519 p sdk plan satisfied ∅ 0 network wallets passcode envelope
    (result >>= fun _ => ensureSatisfied p plan network signed, signed)

end Definitions

/-! ### One signature -/

variable {Bytes Digest : Type} {p : Primitives Bytes Digest} {vault : Vault Bytes Digest}
variable {signers : SignerMaps Bytes Digest} {access : SignerAccess Bytes Digest}
variable {plan : LedgerAuthorizationPlan} {satisfied : BTreeSet LedgerSignerCondition}
variable {envelope envelope' envelope'' : TransactionEnvelope} {passcode : Option String}
variable {network passphrase key e : String} {keys keys' : List String} {xdr xdr' : Bytes}

/-- Every local signer is listed under its own address. -/
def SignerMaps.Keyed (signers : SignerMaps Bytes Digest) : Prop :=
  ∀ key (record : WalletRecord), signers.records[key]? = some record → record.address = key

theorem signerMaps_keyed (h : signerMaps access network = .ok signers) : signers.Keyed := by
  unfold signerMaps at h
  obtain ⟨records, hrecords, h⟩ := bind_eq_ok.mp h
  obtain ⟨systemAuth, -, h⟩ := bind_eq_ok.mp h
  obtain ⟨external, -, h⟩ := bind_eq_ok.mp h
  split at h
  · exact absurd h (by simp)
  · obtain rfl := Except.ok.inj h
    exact fun key record => address_of_localSigningRecords hrecords

theorem signWithExternalProvider_ok
    {provider : ExternalEd25519SigningProvider Bytes Digest}
    (h : signWithExternalProvider (fresnicaSdk p vault) provider key passphrase xdr = .ok xdr') :
    SignsFor p passphrase key xdr xdr' := by
  unfold signWithExternalProvider at h
  obtain ⟨_, -, h⟩ := bind_eq_ok.mp h
  obtain ⟨signature, -, h⟩ := bind_eq_ok.mp h
  exact applyEd25519Signature_ok (mapErr_eq_ok.mp h)

theorem signTransactionXdrWithUnlockKey_ok {record : WalletRecord} {unlockKey : List UInt8}
    (hnetwork : networkPassphrase network = .ok passphrase)
    (h : signTransactionXdrWithUnlockKey (fresnicaSdk p vault) record network xdr unlockKey =
      .ok xdr') : SignsFor p passphrase record.address xdr xdr' := by
  unfold signTransactionXdrWithUnlockKey at h
  obtain ⟨_, -, h⟩ := bind_eq_ok.mp h
  rw [hnetwork, ok_bind, mapErr_eq_ok] at h
  exact signTransactionXdr_ok h

theorem signTransactionXdrWithPasscode_signsFor {record : WalletRecord} {passcode : String}
    (hnetwork : networkPassphrase network = .ok passphrase)
    (h : signTransactionXdrWithPasscode (fresnicaSdk p vault) record network xdr passcode =
      .ok xdr') : SignsFor p passphrase record.address xdr xdr' := by
  unfold signTransactionXdrWithPasscode at h
  obtain ⟨_, -, h⟩ := bind_eq_ok.mp h
  rw [hnetwork, ok_bind, mapErr_eq_ok] at h
  exact signTransactionXdrWithPasscode_ok h

/-- A round goes through the encoded envelope, whoever signs. -/
theorem signWithSelectedKey_signsFor (hkeyed : signers.Keyed)
    (hnetwork : networkPassphrase network = .ok passphrase)
    (h : signWithSelectedKey p (fresnicaSdk p vault) signers passcode network key envelope =
      .ok envelope') :
    ∃ xdr xdr', p.encode envelope = some xdr ∧ p.decode xdr' = some envelope' ∧
      SignsFor p passphrase key xdr xdr' := by
  simp only [signWithSelectedKey, hnetwork, ok_bind] at h
  split at h
  · obtain ⟨xdr, hxdr, h⟩ := bind_eq_ok.mp h
    obtain ⟨xdr', hsigned, h⟩ := bind_eq_ok.mp h
    exact ⟨xdr, xdr', transactionXdrBytes_eq_ok.mp (mapErr_eq_ok.mp hxdr),
      parseTransactionXdr_eq_ok.mp h, signWithExternalProvider_ok hsigned⟩
  · obtain ⟨record, hrecord, h⟩ := bind_eq_ok.mp h
    obtain ⟨xdr, hxdr, h⟩ := bind_eq_ok.mp h
    have hxdr := transactionXdrBytes_eq_ok.mp (mapErr_eq_ok.mp hxdr)
    have haddress := hkeyed key record (okOr_eq_ok.mp hrecord)
    split at h
    · obtain ⟨_, -, h⟩ := bind_eq_ok.mp h
      obtain ⟨_, -, h⟩ := bind_eq_ok.mp h
      obtain ⟨xdr', hsigned, h⟩ := bind_eq_ok.mp h
      exact ⟨xdr, xdr', hxdr, parseTransactionXdr_eq_ok.mp h,
        haddress ▸ signTransactionXdrWithUnlockKey_ok hnetwork hsigned⟩
    · obtain ⟨_, -, h⟩ := bind_eq_ok.mp h
      obtain ⟨xdr', hsigned, h⟩ := bind_eq_ok.mp h
      exact ⟨xdr, xdr', hxdr, parseTransactionXdr_eq_ok.mp h,
        haddress ▸ signTransactionXdrWithPasscode_signsFor hnetwork hsigned⟩

/-! ### The signing loop -/

/-- What signing with a list of keys makes of an envelope: the same body, one more
signature for each key, and the condition of each key satisfied. -/
structure SignedBy (p : Primitives Bytes Digest) (passphrase : String) (keys : List String)
    (envelope envelope' : TransactionEnvelope) : Prop where
  signatures : ∃ added, envelope' = envelope.withSignatures (envelope.signatures ++ added) ∧
    added.length = keys.length
  satisfies : ∀ key ∈ keys, ∀ b, satisfiesCondition p envelope passphrase (.ed25519 key) = .ok b →
    satisfiesCondition p envelope' passphrase (.ed25519 key) = .ok true

namespace SignedBy

theorem body_eq (h : SignedBy p passphrase keys envelope envelope') :
    envelope'.body = envelope.body := by
  obtain ⟨added, rfl, -⟩ := h.signatures
  exact TransactionEnvelope.body_withSignatures envelope _

theorem length_signatures (h : SignedBy p passphrase keys envelope envelope') :
    envelope'.signatures.length = envelope.signatures.length + keys.length := by
  obtain ⟨added, rfl, hlength⟩ := h.signatures
  rw [TransactionEnvelope.signatures_withSignatures, List.length_append, hlength]

theorem signatures_subset (h : SignedBy p passphrase keys envelope envelope') :
    ∀ s ∈ envelope.signatures, s ∈ envelope'.signatures := by
  obtain ⟨added, rfl, -⟩ := h.signatures
  intro s hs
  rw [TransactionEnvelope.signatures_withSignatures]
  exact List.mem_append_left _ hs

theorem refl : SignedBy p passphrase [] envelope envelope where
  signatures := ⟨[], by simp, rfl⟩
  satisfies := by simp

theorem trans (h : SignedBy p passphrase keys envelope envelope')
    (h' : SignedBy p passphrase keys' envelope' envelope'') :
    SignedBy p passphrase (keys ++ keys') envelope envelope'' where
  signatures := by
    obtain ⟨added, rfl, hlength⟩ := h.signatures
    obtain ⟨added', rfl, hlength'⟩ := h'.signatures
    exact ⟨added ++ added', by simp, by simp [hlength, hlength']⟩
  satisfies key hkey b hb := by
    rcases List.mem_append.mp hkey with hkey | hkey
    · obtain ⟨b', hb', hmono⟩ := satisfiesCondition_of_subset h'.body_eq h'.signatures_subset
        (h.satisfies key hkey b hb)
      rw [hb', hmono rfl]
    · obtain ⟨b', hb', -⟩ := satisfiesCondition_of_subset h.body_eq h.signatures_subset hb
      exact h'.satisfies key hkey b' hb'

end SignedBy

/-- A round adds one signature, and it is valid for the selected key. -/
theorem signWithSelectedKey_signed (hkeyed : signers.Keyed)
    (hnetwork : networkPassphrase network = .ok passphrase)
    (h : signWithSelectedKey p (fresnicaSdk p vault) signers passcode network key envelope =
      .ok envelope') : SignedBy p passphrase [key] envelope envelope' := by
  obtain ⟨xdr, xdr', hxdr, hxdr', decoded, signed, signer, uint, hdecode, hencode, hkey, hsigner,
    hsign⟩ := signWithSelectedKey_signsFor hkeyed hnetwork h
  obtain rfl := p.eq_of_decode_encode hxdr hdecode
  obtain rfl := p.eq_of_decode_encode hencode hxdr'
  have hpublic : p.strKey.publicKeyOf? signer.publicKey = some uint :=
    p.strKey.publicKeyOf?_eq_some_iff.mpr hsigner.symm
  constructor
  · obtain ⟨_, _, decorated, -, -, -, -, rfl⟩ := signTransactionEnvelope_ok hsign
    exact ⟨[decorated], rfl, rfl⟩
  · rintro key' hkey' b hb
    obtain rfl := List.mem_singleton.mp hkey'
    obtain ⟨signerKey, hsignerKey, -⟩ := satisfiesCondition_eq_ok.mp hb
    -- the condition's text is a key of the plan, and the key that signed is read off the same text
    obtain rfl := StrKey.signerKeyOf?_eq_ed25519 hsignerKey hkey
    exact satisfiesCondition_eq_ok.mpr
      ⟨_, hsignerKey, satisfiesSignerKey_signTransactionEnvelope hsign hpublic⟩

theorem forEach_signWithSelectedKey_signed (hkeyed : signers.Keyed)
    (hnetwork : networkPassphrase network = .ok passphrase)
    (h : forEach (signWithSelectedKey p (fresnicaSdk p vault) signers passcode network) keys
      envelope = (.ok (), envelope')) : SignedBy p passphrase keys envelope envelope' :=
  forEach_ok_preserves (R := SignedBy p passphrase) (fun _ => SignedBy.refl)
    (fun hstep hrest => (signWithSelectedKey_signed hkeyed hnetwork hstep).trans hrest) h

/-- The loop leaves an envelope with an encoding when it began with one. -/
theorem forEach_signWithSelectedKey_encodes (hkeyed : signers.Keyed)
    (hnetwork : networkPassphrase network = .ok passphrase)
    (h : forEach (signWithSelectedKey p (fresnicaSdk p vault) signers passcode network) keys
      envelope = (.ok (), envelope')) (hencode : ∃ xdr, p.encode envelope = some xdr) :
    ∃ xdr, p.encode envelope' = some xdr := by
  refine forEach_ok_preserves (R := fun _ envelope envelope' =>
    (∃ xdr, p.encode envelope = some xdr) → ∃ xdr, p.encode envelope' = some xdr)
    (fun _ => id) ?_ h hencode
  intro key keys envelope envelope' envelope'' hstep hrest _
  obtain ⟨_, xdr', -, hdecode, -⟩ := signWithSelectedKey_signsFor hkeyed hnetwork hstep
  exact hrest ⟨xdr', p.decode_canonical hdecode⟩

/-! ### The whole procedure -/

/-- The keys that may be selected are not excluded. -/
theorem not_mem_of_available {excludedKeys : BTreeSet String}
    (h : key ∈ signers.available excludedKeys) : key ∉ excludedKeys := by
  rw [SignerMaps.available, Std.ExtTreeSet.mem_ofList, List.contains_iff_mem,
    List.mem_filter] at h
  simpa using h.2

/-- The signers of a call and the keys selected among them. -/
def signersFor (p : Primitives Bytes Digest) (sdk : TransactionSdk Bytes Digest)
    (plan : LedgerAuthorizationPlan) (network : String) (access : SignerAccess Bytes Digest)
    (envelope : TransactionEnvelope) : Except String (SignerMaps Bytes Digest × List String) := do
  let satisfied ← satisfiedOnNetwork p plan network envelope
  prepareSigning sdk plan satisfied ∅ 0 network access

theorem satisfiedOnNetwork_eq_ok :
    satisfiedOnNetwork p plan network envelope = .ok satisfied ↔
      ∃ passphrase, networkPassphrase network = .ok passphrase ∧
        satisfiedTransactionConditions p plan envelope passphrase = .ok satisfied := by
  simp only [satisfiedOnNetwork, bind_eq_ok]

/-- The keys that were selected satisfy the plan, and are as many as were asked for. -/
theorem prepareSigning_ok {sdk : TransactionSdk Bytes Digest} {excludedKeys : BTreeSet String}
    {minimumSignatures : ℕ}
    (h : prepareSigning sdk plan satisfied excludedKeys minimumSignatures network access =
      .ok (signers, keys)) :
    signers.Keyed ∧
      ∃ t, Selection (signers.available excludedKeys) plan.signerConditions satisfied t keys ∧
        plan.isSatisfiableBy t = true ∧ minimumSignatures ≤ ed25519Count t := by
  obtain ⟨_, -, h⟩ := bind_eq_ok.mp h
  obtain ⟨signers', hsigners, h⟩ := bind_eq_ok.mp h
  obtain ⟨selected, hselected, h⟩ := bind_eq_ok.mp h
  obtain ⟨_, -, h⟩ := bind_eq_ok.mp h
  obtain ⟨rfl, rfl⟩ := Prod.mk.inj (Except.ok.inj h)
  exact ⟨signerMaps_keyed hsigners, selectEd25519Signers_ok hselected⟩

/-- A call that succeeds has selected keys, and each of them has signed. -/
theorem signNeededWithEd25519Providers_ok {sdk : TransactionSdk Bytes Digest}
    {excludedKeys : BTreeSet String} {minimumSignatures : ℕ}
    (h : signNeededWithEd25519Providers p sdk plan satisfied excludedKeys minimumSignatures network
      access envelope = (.ok (), envelope')) :
    ∃ signers keys, prepareSigning sdk plan satisfied excludedKeys minimumSignatures network
        access = .ok (signers, keys) ∧
      forEach (signWithSelectedKey p sdk signers access.passcode network) keys envelope =
        (.ok (), envelope') := by
  unfold signNeededWithEd25519Providers at h
  split at h
  · exact absurd (Prod.mk.inj h).1 (by simp)
  · rename_i signers selected hprepare
    exact ⟨signers, selected, hprepare, h⟩

theorem signersFor_ok {sdk : TransactionSdk Bytes Digest}
    (h : signersFor p sdk plan network access envelope = .ok (signers, keys)) :
    ∃ satisfied passphrase, networkPassphrase network = .ok passphrase ∧
      satisfiedTransactionConditions p plan envelope passphrase = .ok satisfied ∧
      signers.Keyed ∧
      ∃ t, Selection (signers.available ∅) plan.signerConditions satisfied t keys ∧
        plan.isSatisfiableBy t = true := by
  obtain ⟨satisfied, hsatisfied, h⟩ := bind_eq_ok.mp h
  obtain ⟨passphrase, hnetwork, hsatisfied⟩ := satisfiedOnNetwork_eq_ok.mp hsatisfied
  obtain ⟨hkeyed, t, hsel, hplan, -⟩ := prepareSigning_ok h
  exact ⟨satisfied, passphrase, hnetwork, hsatisfied, hkeyed, t, hsel, hplan⟩

/-- Once every selected key has signed, the plan is satisfied. -/
theorem satisfied_of_signed {t : BTreeSet LedgerSignerCondition} {available : BTreeSet String}
    (hnetwork : networkPassphrase network = .ok passphrase)
    (hsatisfied : satisfiedTransactionConditions p plan envelope passphrase = .ok satisfied)
    (hsel : Selection available plan.signerConditions satisfied t keys)
    (hplan : plan.isSatisfiableBy t = true)
    (hsigned : SignedBy p passphrase keys envelope envelope') :
    ensureSatisfied p plan network envelope' = .ok () := by
  obtain ⟨satisfied', hsatisfied', hmono⟩ :=
    satisfiedTransactionConditions_mono hsigned.body_eq hsigned.signatures_subset hsatisfied
  have hsub : ∀ c ∈ t, c ∈ satisfied' := by
    intro c hc
    rcases (hsel.extends_ed25519.mem_iff c).mp hc with hc | hc
    · exact hmono c hc
    · obtain ⟨key, hkey, rfl⟩ := List.mem_map.mp hc
      obtain ⟨b, hb⟩ := (satisfiedTransactionConditions_eq_ok.mp hsatisfied).1 _
        (hsel.mem_conditions key hkey)
      exact ((satisfiedTransactionConditions_eq_ok.mp hsatisfied').2 _).mpr
        ⟨hsel.mem_conditions key hkey, hsigned.satisfies key hkey b hb⟩
  rw [ensureSatisfied, satisfiedOnNetwork_eq_ok.mpr ⟨passphrase, hnetwork, hsatisfied'⟩, ok_bind,
    ensure_eq_ok]
  exact LedgerAuthorizationPlan.isSatisfiableBy_mono hsub hplan

/-- A call is its preparation followed by the loop: the check after the loop always
passes. -/
theorem signWithEd25519Providers_eq :
    signWithEd25519Providers p (fresnicaSdk p vault) plan network access envelope =
      match signersFor p (fresnicaSdk p vault) plan network access envelope with
      | .error error => (.error error, envelope)
      | .ok (signers, selected) =>
        forEach (signWithSelectedKey p (fresnicaSdk p vault) signers access.passcode network)
          selected envelope := by
  cases hfor : signersFor p (fresnicaSdk p vault) plan network access envelope with
  | error error =>
    rcases bind_eq_error.mp hfor with h | ⟨satisfied, hsatisfied, h⟩
    · simp [signWithEd25519Providers, h]
    · simp [signWithEd25519Providers, hsatisfied, signNeededWithEd25519Providers, h]
  | ok result =>
    obtain ⟨signers, selected⟩ := result
    obtain ⟨satisfied, passphrase, hnetwork, hsatisfied, hkeyed, t, hsel, hplan⟩ :=
      signersFor_ok hfor
    have hsat := satisfiedOnNetwork_eq_ok.mpr ⟨passphrase, hnetwork, hsatisfied⟩
    have hprepare : prepareSigning (fresnicaSdk p vault) plan satisfied ∅ 0 network access =
        .ok (signers, selected) := by
      rwa [signersFor, hsat, ok_bind] at hfor
    simp only [signWithEd25519Providers, hsat, signNeededWithEd25519Providers, hprepare]
    cases hloop : forEach (signWithSelectedKey p (fresnicaSdk p vault) signers access.passcode
        network) selected envelope with
    | mk result signed =>
      cases result with
      | error error => rfl
      -- the signatures that were added complete the plan
      | ok =>
        have hsigned := forEach_signWithSelectedKey_signed hkeyed hnetwork hloop
        simp [satisfied_of_signed hnetwork hsatisfied hsel hplan hsigned]

end Fresnica
