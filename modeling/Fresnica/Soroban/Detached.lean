import Fresnica.Soroban.Assemble
import Fresnica.Soroban.AuthorizationSdk
import Fresnica.Transaction.Submission

/-!
# Detached token transfers

A wallet can authorize a token transfer in a transaction that it never sees: it receives the
preimage of an authorization, and gives back one signature over its hash. The preimage comes from
a server, so it is read, an authorization entry of the wallet is rebuilt from what it says, and
the preimage of that entry has to be the bytes that were received. What is left open by then is
only what the review shows.

## Main definitions

* `prepareDetachedTokenTransferAuthorization` — the checks, and the review
* `signDetachedTokenTransferAuthorizationWithSystemAuth` — the signature
* `DetachedTransfer` — what a preimage of a transfer says, with its `preimage` and its `entry`

## Main results

* `prepareDetachedTokenTransferAuthorization_ok`, `RequestedTransfer.prepare` — which preimages
  are accepted
* `review_injective` — the review tells two preimages apart
* `signDetachedTokenTransferAuthorization_ok` — what is returned is a signature over the preimage
* `detachedTransfer_exact` — all three
-/

namespace Fresnica

open Foundation

structure DetachedTokenTransferAuthorizationRequest (PreimageBytes : Type) where
  wallet : Option String
  tokenContractId : String
  destination : String
  amount : I128
  authorizationPreimageXdr : PreimageBytes
  deriving DecidableEq, Repr

structure DetachedTokenTransferAuthorizationReview where
  network : String
  walletName : String
  authorizer : String
  credentialType : String
  tokenContractId : String
  destination : String
  amount : I128
  nonce : I64
  signatureExpirationLedger : U32
  deriving DecidableEq, Repr

structure PreparedDetachedTokenTransferAuthorization (EntryBytes PreimageBytes : Type) where
  review : DetachedTokenTransferAuthorizationReview
  entry : SorobanAuthorizationEntry
  unsignedEntryXdr : EntryBytes
  authorizationPreimageXdr : PreimageBytes
  deriving DecidableEq, Repr

/-! ### The parts of a transfer -/

theorem joinI128_bounds (hi : I64) (lo : U64) :
    -170141183460469231731687303715884105728 ≤ hi.val * 18446744073709551616 + lo.val ∧
      hi.val * 18446744073709551616 + lo.val ≤ 170141183460469231731687303715884105727 := by
  have := hi.lo_le
  have := hi.le_hi
  have := lo.lo_le
  have := lo.le_hi
  omega

/-- The low half fills the bits that the shift of the high half has left. -/
def joinI128 (hi : I64) (lo : U64) : I128 where
  val := hi.val * 18446744073709551616 + lo.val
  lo_le := (joinI128_bounds hi lo).1
  le_hi := (joinI128_bounds hi lo).2

def scvalI128 (value : ScVal) (label : String) : Except String I128 :=
  match value with
  | .scalar (.i128 hi lo) => .ok (joinI128 hi lo)
  | _ => .error s!"detached token {label} must be an i128"

/-- What a preimage authorizes, with the credentials that are rebuilt from it. -/
structure DetachedParts where
  credentialType : String
  nonce : I64
  signatureExpirationLedger : U32
  invocation : SorobanAuthorizedInvocation
  credentials : SorobanCredentials
  deriving DecidableEq, Repr

def detachedParts (walletAddress : ScAddress) (preimage : HashIdPreimage) :
    Except String DetachedParts :=
  match preimage with
  | .sorobanAuthorization value => .ok
    { credentialType := "address"
      nonce := value.nonce
      signatureExpirationLedger := value.signatureExpirationLedger
      invocation := value.invocation
      -- a preimage of this kind binds no address, and the wallet's is put in
      credentials := .address
        ⟨walletAddress, value.nonce, value.signatureExpirationLedger, .void⟩ }
  | .sorobanAuthorizationWithAddress value => do
    ensure (value.address = walletAddress)
      "Soroban authorization preimage authorizer does not match selected wallet"
    return {
      credentialType := "address-v2"
      nonce := value.nonce
      signatureExpirationLedger := value.signatureExpirationLedger
      invocation := value.invocation
      credentials := .addressV2
        ⟨value.address, value.nonce, value.signatureExpirationLedger, .void⟩ }
  | .other _ => .error "detached token transfer requires a Soroban authorization preimage"

/-- The call at the root, when there is none below it. -/
def transferCall (invocation : SorobanAuthorizedInvocation) : Except String InvokeContractArgs := do
  ensure (invocation.subInvocations.isEmpty = true)
    "detached token transfer authorization must not contain sub-invocations"
  match invocation.function with
  | .contractFn call => .ok call
  | .createContract _ =>
    .error "detached token transfer authorization must authorize a contract function"

def transferArguments (args : List ScVal) : Except String (ScVal × ScVal × ScVal) :=
  match args with
  | [sender, receiver, amount] => .ok (sender, receiver, amount)
  | _ => .error
    s!"detached token transfer authorization has {args.length} arguments; expected 3"

section Definitions

variable {Bytes Digest EntryBytes PreimageBytes : Type}
variable (p : Primitives Bytes Digest) (crates : SimulationCrates)
variable (xdr : AuthorizationXdr EntryBytes PreimageBytes)

def classicAccountScAddress (publicKey : String) : Except String ScAddress := do
  let key ← okOr (p.strKey.publicKeyOf? publicKey) "invalid detached token transfer authorizer"
  return .account key

def scvalAddressString (value : ScVal) (label : String) : Except String String :=
  match value with
  | .scalar (.address address) => scAddressString p crates address
  | _ => .error s!"detached token {label} must be an address"

/-- The token, the destination and the amount of a call that is the requested transfer. -/
def reviewedTransfer (request : DetachedTokenTransferAuthorizationRequest PreimageBytes)
    (walletAddress : String) (call : InvokeContractArgs) :
    Except String (String × String × I128) := do
  let contractId ← scAddressString p crates call.contractAddress
  ensure (contractId = request.tokenContractId)
    s!"detached token transfer contract {contractId} does not match expected {
      request.tokenContractId}"
  ensure (fromUtf8Lossy call.functionName = "transfer")
    "detached token transfer authorization must call transfer"
  let (sender, receiver, value) ← transferArguments call.args
  let source ← scvalAddressString p crates sender "transfer from"
  ensure (source = walletAddress)
    s!"detached token transfer from {source} does not match wallet {walletAddress}"
  let destination ← scvalAddressString p crates receiver "transfer destination"
  ensure (destination = request.destination)
    s!"detached token transfer destination {destination} does not match expected {
      request.destination}"
  let amount ← scvalI128 value "transfer amount"
  ensure (amount = request.amount)
    s!"detached token transfer amount {amount.val} does not match expected {request.amount.val}"
  return (contractId, destination, amount)

/-- The preimage of an encoded entry, on a network. -/
def entryPreimageXdr (network : String) (entryXdr : EntryBytes) : Except String PreimageBytes := do
  let passphrase ← networkPassphrase network
  let signing ← mapErr (fun error : SdkError =>
      s!"Unable to validate Soroban authorization: {error.message}")
    (sdkPrepareSorobanAuthorizationSigning p xdr entryXdr passphrase)
  return signing.authorizationPreimageXdr

variable [DecidableEq EntryBytes] [DecidableEq PreimageBytes]

def prepareDetachedTokenTransferAuthorization (resolve : WalletResolver) (network : String)
    (request : DetachedTokenTransferAuthorizationRequest PreimageBytes) :
    Except String (PreparedDetachedTokenTransferAuthorization EntryBytes PreimageBytes) := do
  ensure (¬ request.amount.val ≤ 0) "detached token transfer amount must be positive"
  let wallet ← resolveNetworkWallet resolve network request.wallet
  let walletAddress ← classicAccountScAddress p wallet.address
  let preimage ← mapErr (fun error => s!"invalid Soroban authorization preimage XDR: {error}")
    (xdr.preimage.fromXdr xdrDecodeMaxDepth request.authorizationPreimageXdr)
  let parts ← detachedParts walletAddress preimage
  let entry : SorobanAuthorizationEntry := ⟨parts.credentials, parts.invocation⟩
  let call ← transferCall entry.rootInvocation
  let (contractId, destination, amount) ← reviewedTransfer p crates request wallet.address call
  let unsignedEntryXdr ← authorizationEntryXdr (authorizationCodec xdr) entry
  -- the entry was built from the preimage, and its own preimage has to be the bytes given
  let preimageXdr ← entryPreimageXdr p xdr network unsignedEntryXdr
  ensure (preimageXdr = request.authorizationPreimageXdr)
    "Soroban authorization preimage does not match the selected network and authorizer"
  return {
    review := {
      network := network
      walletName := wallet.name
      authorizer := wallet.address
      credentialType := parts.credentialType
      tokenContractId := contractId
      destination := destination
      amount := amount
      nonce := parts.nonce
      signatureExpirationLedger := parts.signatureExpirationLedger }
    entry := entry
    unsignedEntryXdr := unsignedEntryXdr
    authorizationPreimageXdr := request.authorizationPreimageXdr }

/-! ### The signature -/

def PreparedDetachedTokenTransferAuthorization.assertReviewBinding
    (prepared : PreparedDetachedTokenTransferAuthorization EntryBytes PreimageBytes) :
    Except String Unit := do
  let currentXdr ← authorizationEntryXdr (authorizationCodec xdr) prepared.entry
  ensure (currentXdr = prepared.unsignedEntryXdr)
    "Soroban authorization changed after review; prepare and review it again"
  let preimageXdr ← entryPreimageXdr p xdr prepared.review.network currentXdr
  ensure (preimageXdr = prepared.authorizationPreimageXdr)
    "Soroban authorization preimage does not match the reviewed network and authorizer"

/-- The public key and the signature among the fields read so far. -/
abbrev SignatureFields := Option (List UInt8) × Option (List UInt8)

def signatureFieldStep (fields : SignatureFields) (field : ScVal × ScVal) :
    Except String SignatureFields := do
  let key ← match field.1 with
    | .symbol key => .ok key
    | _ => .error "signed Soroban authorization signature key is malformed"
  let value ← match field.2 with
    | .bytes value => .ok value
    | _ => .error "signed Soroban authorization signature value is malformed"
  match fromUtf8Lossy key with
  | "public_key" => .ok (some value, fields.2)
  | "signature" => .ok (fields.1, some value)
  | _ => .error "signed Soroban authorization signature contains unknown fields"

/-- The fields of the only signature of an entry. -/
def standardSignatureFields (entry : SorobanAuthorizationEntry) :
    Except String (List (ScVal × ScVal)) := do
  let signature ← match entry.credentials with
    | .address credentials | .addressV2 credentials => .ok credentials.signature
    | .sourceAccount | .addressWithDelegates _ =>
      .error "signed Soroban authorization has unsupported credentials"
  let values ← match signature with
    | .vec (some values) => .ok values
    | _ => .error "signed Soroban authorization has no standard signature vector"
  match values with
  | [.map (some fields)] => .ok fields
  | [_] => .error "signed Soroban authorization signature is malformed"
  | _ => .error "signed Soroban authorization must contain exactly one signature"

def extractStandardEd25519Signature (entry : SorobanAuthorizationEntry)
    (expectedPublicKey : String) : Except String (List UInt8) := do
  let fields ← standardSignatureFields entry
  let (publicKey, signature) ← fields.foldlM signatureFieldStep (none, none)
  let expected ← okOr (p.strKey.publicKeyOf? expectedPublicKey)
    "invalid expected Soroban authorization signer"
  ensure (publicKey = some expected.toList)
    "signed Soroban authorization was produced by the wrong public key"
  let signature ← okOr signature
    "signed Soroban authorization signature is missing signature bytes"
  ensure (signature.length = 64)
    "signed Soroban authorization signature must contain 64 bytes"
  return signature

def signDetachedTokenTransferAuthorizationWithSystemAuth (sdk : AuthorizationSdk EntryBytes)
    (wallets : WalletList) (passcode : Option String)
    (systemAuthProviders : List SystemAuthUnlockProvider)
    (prepared : PreparedDetachedTokenTransferAuthorization EntryBytes PreimageBytes) :
    Except String (List UInt8) := do
  prepared.assertReviewBinding p xdr
  let network := prepared.review.network
  let authorizer := prepared.review.authorizer
  let signers ← localSigningRecords wallets network
  let systemAuth ← systemAuthProviderMap signers systemAuthProviders
  let signer ← okOr signers[authorizer]?
    s!"No local signer capability for Soroban authorizer {authorizer}"
  let signed ← signForAuthorizer p sdk ⟨signers, systemAuth⟩ passcode network authorizer
    prepared.unsignedEntryXdr signer
  let signedEntry ← parseAuthorizationEntryXdr (authorizationCodec xdr) signed
  validateSignedAuthorization prepared.entry signedEntry
  extractStandardEd25519Signature p signedEntry authorizer

def signDetachedTokenTransferAuthorization (sdk : AuthorizationSdk EntryBytes)
    (wallets : WalletList) (passcode : String)
    (prepared : PreparedDetachedTokenTransferAuthorization EntryBytes PreimageBytes) :
    Except String (List UInt8) :=
  signDetachedTokenTransferAuthorizationWithSystemAuth p xdr sdk wallets (some passcode) []
    prepared

end Definitions

/-! ### What a preimage of a transfer says -/

theorem halves_bounds (amount : I128) :
    (-9223372036854775808 ≤ amount.val / 18446744073709551616 ∧
      amount.val / 18446744073709551616 ≤ 9223372036854775807) ∧
    0 ≤ amount.val % 18446744073709551616 ∧
      amount.val % 18446744073709551616 ≤ 18446744073709551615 := by
  have := amount.lo_le
  have := amount.le_hi
  omega

def highHalf (amount : I128) : I64 where
  val := amount.val / 18446744073709551616
  lo_le := (halves_bounds amount).1.1
  le_hi := (halves_bounds amount).1.2

def lowHalf (amount : I128) : U64 where
  val := amount.val % 18446744073709551616
  lo_le := (halves_bounds amount).2.1
  le_hi := (halves_bounds amount).2.2

theorem joinI128_eq_iff {hi : I64} {lo : U64} {amount : I128} :
    joinI128 hi lo = amount ↔ hi = highHalf amount ∧ lo = lowHalf amount := by
  have := lo.lo_le
  have := lo.le_hi
  rw [← BoundedInt.val_inj, ← BoundedInt.val_inj, ← BoundedInt.val_inj]
  simp only [joinI128, highHalf, lowHalf]
  omega

/-- A transfer that an account authorizes, with or without its address in the preimage. -/
structure DetachedTransfer where
  addressBound : Bool
  owner : Uint256
  token : ScAddress
  receiver : ScAddress
  amount : I128
  nonce : I64
  signatureExpirationLedger : U32
  deriving DecidableEq, Repr

namespace DetachedTransfer

variable (t : DetachedTransfer)

/-- `transfer(owner, receiver, amount)` on the token, and no call below. -/
def invocation : SorobanAuthorizedInvocation :=
  .mk (.contractFn ⟨t.token, Utf8.bytes "transfer",
    [.scalar (.address (.account t.owner)), .scalar (.address t.receiver),
      .scalar (.i128 (highHalf t.amount) (lowHalf t.amount))]⟩) []

def preimage (networkId : Uint256) : HashIdPreimage :=
  match t.addressBound with
  | false => .sorobanAuthorization
    ⟨networkId, t.nonce, t.signatureExpirationLedger, t.invocation⟩
  | true => .sorobanAuthorizationWithAddress
    ⟨networkId, t.nonce, t.signatureExpirationLedger, .account t.owner, t.invocation⟩

def credentials : SorobanCredentials :=
  match t.addressBound with
  | false => .address ⟨.account t.owner, t.nonce, t.signatureExpirationLedger, .void⟩
  | true => .addressV2 ⟨.account t.owner, t.nonce, t.signatureExpirationLedger, .void⟩

def entry : SorobanAuthorizationEntry := ⟨t.credentials, t.invocation⟩

def credentialType : String :=
  match t.addressBound with
  | false => "address"
  | true => "address-v2"

def parts : DetachedParts :=
  ⟨t.credentialType, t.nonce, t.signatureExpirationLedger, t.invocation, t.credentials⟩

end DetachedTransfer

/-- A contract id is printed as a text of its own, that is no account's either. -/
structure ContractTexts (strKey : StrKey) (contract : Uint256 → String) : Prop where
  injective : Function.Injective contract
  ne_publicKey : ∀ id key, contract id ≠ strKey.publicKey key

/-- The values of a transfer are not nested deeper than the codecs allow. -/
structure ShallowTransfers {EntryBytes PreimageBytes : Type}
    (xdr : AuthorizationXdr EntryBytes PreimageBytes) : Prop where
  preimage : ∀ (t : DetachedTransfer) networkId,
    xdr.preimage.depth (t.preimage networkId) ≤ xdrDecodeMaxDepth
  entry : ∀ t : DetachedTransfer, xdr.entry.depth t.entry ≤ xdrDecodeMaxDepth

section Specification

variable {Bytes Digest EntryBytes PreimageBytes : Type}
variable (p : Primitives Bytes Digest) (crates : SimulationCrates)
variable (xdr : AuthorizationXdr EntryBytes PreimageBytes)
variable (request : DetachedTokenTransferAuthorizationRequest PreimageBytes)
variable (network : String) (wallet : WalletRecord) (t : DetachedTransfer)

/-- The transfer is the one that a wallet is asked to authorize, and it is positive. -/
structure RequestedTransfer : Prop where
  positive : 0 < request.amount.val
  owner : p.strKey.publicKeyOf? wallet.address = some t.owner
  token : scAddressString p crates t.token = .ok request.tokenContractId
  receiver : scAddressString p crates t.receiver = .ok request.destination
  amount : t.amount = request.amount

def reviewOf : DetachedTokenTransferAuthorizationReview where
  network := network
  walletName := wallet.name
  authorizer := wallet.address
  credentialType := t.credentialType
  tokenContractId := request.tokenContractId
  destination := request.destination
  amount := request.amount
  nonce := t.nonce
  signatureExpirationLedger := t.signatureExpirationLedger

def preparedOf : PreparedDetachedTokenTransferAuthorization EntryBytes PreimageBytes where
  review := reviewOf request network wallet t
  entry := t.entry
  unsignedEntryXdr := xdr.entry.encoding t.entry
  authorizationPreimageXdr := request.authorizationPreimageXdr

end Specification

/-! ### The checks -/

variable {Bytes Digest EntryBytes PreimageBytes : Type}
variable {p : Primitives Bytes Digest} {crates : SimulationCrates}
variable {xdr : AuthorizationXdr EntryBytes PreimageBytes}
variable {request request' : DetachedTokenTransferAuthorizationRequest PreimageBytes}
variable {prepared prepared' : PreparedDetachedTokenTransferAuthorization EntryBytes PreimageBytes}
variable {resolve : WalletResolver} {network walletAddress label text : String}
variable {wallet : WalletRecord} {t : DetachedTransfer} {owner : Uint256}
variable {address address' token receiver : ScAddress} {amount : I128} {value : ScVal}
variable {invocation : SorobanAuthorizedInvocation} {call : InvokeContractArgs}
variable {preimage : HashIdPreimage} {parts : DetachedParts}

theorem scAddressString_inj (hcontract : ContractTexts p.strKey crates.contract)
    (h : scAddressString p crates address = .ok text)
    (h' : scAddressString p crates address' = .ok text) : address = address' := by
  rw [← h'] at h
  cases address with
  | account id =>
    cases address' with
    | account id' => rw [p.strKey.publicKey_injective (Except.ok.inj h)]
    | contract id' => exact absurd (Except.ok.inj h).symm (hcontract.ne_publicKey id' id)
    | other encoded => cases h
  | contract id =>
    cases address' with
    | account id' => exact absurd (Except.ok.inj h) (hcontract.ne_publicKey id id')
    | contract id' => rw [hcontract.injective (Except.ok.inj h)]
    | other encoded => cases h
  | other encoded => cases h'.symm.trans h.symm

theorem scvalI128_eq_ok :
    scvalI128 value label = .ok amount ↔
      value = .scalar (.i128 (highHalf amount) (lowHalf amount)) := by
  constructor
  · intro h
    unfold scvalI128 at h
    split at h
    · rename_i hi lo
      obtain ⟨rfl, rfl⟩ := joinI128_eq_iff.mp (Except.ok.inj h)
      rfl
    · cases h
  · intro h
    rw [h, scvalI128, joinI128_eq_iff.mpr ⟨rfl, rfl⟩]

theorem scvalAddressString_eq_ok :
    scvalAddressString p crates value label = .ok text ↔
      ∃ address, value = .scalar (.address address) ∧
        scAddressString p crates address = .ok text := by
  constructor
  · intro h
    unfold scvalAddressString at h
    split at h
    · exact ⟨_, rfl, h⟩
    · cases h
  · intro h
    obtain ⟨address, rfl, h⟩ := h
    exact h

theorem transferCall_eq_ok :
    transferCall invocation = .ok call ↔ invocation = .mk (.contractFn call) [] := by
  obtain ⟨function, subInvocations⟩ := invocation
  rw [transferCall, ensure_bind_eq_ok, List.isEmpty_iff]
  cases function with
  | contractFn call' =>
    simp [SorobanAuthorizedInvocation.function, SorobanAuthorizedInvocation.subInvocations,
      and_comm]
  | createContract encoded => simp [SorobanAuthorizedInvocation.function]

theorem transferArguments_eq_ok {args : List ScVal} {sender receiver : ScVal} :
    transferArguments args = .ok (sender, receiver, value) ↔ args = [sender, receiver, value] := by
  constructor
  · intro h
    unfold transferArguments at h
    split at h
    · simp only [Except.ok.injEq, Prod.mk.injEq] at h
      obtain ⟨rfl, rfl, rfl⟩ := h
      rfl
    · cases h
  · intro h
    rw [h]
    rfl

theorem classicAccountScAddress_eq_ok :
    classicAccountScAddress p walletAddress = .ok address ↔
      ∃ key, p.strKey.publicKeyOf? walletAddress = some key ∧ address = .account key := by
  simp only [classicAccountScAddress, bind_eq_ok, okOr_eq_ok, pure_eq_ok, Except.ok.injEq]
  exact exists_congr fun key => and_congr_right fun _ => eq_comm

theorem scAddressString_account (h : p.strKey.publicKeyOf? text = some owner) :
    scAddressString p crates (.account owner) = .ok text :=
  congrArg Except.ok (p.strKey.publicKeyOf?_eq_some_iff.mp h)

/-- The call that is reviewed is the transfer that was requested, and no other. -/
theorem reviewedTransfer_eq_ok (hcontract : ContractTexts p.strKey crates.contract)
    (howner : p.strKey.publicKeyOf? walletAddress = some owner)
    {reviewed : String × String × I128} :
    reviewedTransfer p crates request walletAddress call = .ok reviewed ↔
      ∃ token receiver, scAddressString p crates token = .ok request.tokenContractId ∧
        scAddressString p crates receiver = .ok request.destination ∧
        call = ⟨token, Utf8.bytes "transfer", [.scalar (.address (.account owner)),
          .scalar (.address receiver),
          .scalar (.i128 (highHalf request.amount) (lowHalf request.amount))]⟩ ∧
        reviewed = (request.tokenContractId, request.destination, request.amount) := by
  obtain ⟨token, functionName, args⟩ := call
  have hname : fromUtf8Lossy functionName = "transfer" ↔ functionName = Utf8.bytes "transfer" :=
    fromUtf8Lossy_eq_iff (by decide)
  have howner' : scAddressString p crates (.account owner) = .ok walletAddress :=
    scAddressString_account howner
  constructor
  · intro h
    obtain ⟨contractId, htoken, h⟩ := bind_eq_ok.mp h
    obtain ⟨hsame, h⟩ := ensure_bind_eq_ok.mp h
    obtain ⟨hfunction, h⟩ := ensure_bind_eq_ok.mp h
    obtain ⟨⟨sender, destination, value⟩, hargs, h⟩ := bind_eq_ok.mp h
    obtain ⟨source, hsource, h⟩ := bind_eq_ok.mp h
    obtain ⟨hwallet, h⟩ := ensure_bind_eq_ok.mp h
    obtain ⟨destinationText, hdestination, h⟩ := bind_eq_ok.mp h
    obtain ⟨hreceiver, h⟩ := ensure_bind_eq_ok.mp h
    obtain ⟨amount, hamount, h⟩ := bind_eq_ok.mp h
    obtain ⟨hvalue, hresult⟩ := ensure_bind_eq_ok.mp h
    subst hsame hwallet hreceiver hvalue
    obtain ⟨from', rfl, hfrom⟩ := scvalAddressString_eq_ok.mp hsource
    obtain ⟨receiver, rfl, hreceiver⟩ := scvalAddressString_eq_ok.mp hdestination
    -- the sender prints as the wallet, and no other address does
    obtain rfl := scAddressString_inj hcontract hfrom howner'
    refine ⟨token, receiver, htoken, hreceiver, ?_, (Except.ok.inj hresult).symm⟩
    have hlist : args = [_, _, value] := transferArguments_eq_ok.mp hargs
    rw [hname.mp hfunction, hlist, scvalI128_eq_ok.mp hamount]
  · intro h
    obtain ⟨token', receiver, htoken, hreceiver, hcall, rfl⟩ := h
    obtain ⟨rfl, rfl, rfl⟩ := InvokeContractArgs.mk.inj hcall
    refine bind_eq_ok.mpr ⟨_, htoken, ensure_bind_eq_ok.mpr ⟨rfl, ensure_bind_eq_ok.mpr
      ⟨hname.mpr rfl, bind_eq_ok.mpr ⟨_, rfl, ?_⟩⟩⟩⟩
    refine bind_eq_ok.mpr ⟨_, howner', ensure_bind_eq_ok.mpr ⟨rfl, ?_⟩⟩
    refine bind_eq_ok.mpr ⟨_, hreceiver, ensure_bind_eq_ok.mpr ⟨rfl, ?_⟩⟩
    exact bind_eq_ok.mpr ⟨_, scvalI128_eq_ok.mpr rfl, ensure_bind_eq_ok.mpr ⟨rfl, rfl⟩⟩

/-- The parts of the preimage of a transfer. -/
theorem detachedParts_preimage (networkId : Uint256) :
    detachedParts (.account t.owner) (t.preimage networkId) = .ok t.parts := by
  obtain ⟨addressBound, owner, token, receiver, amount, nonce, expiration⟩ := t
  cases addressBound with
  | false => rfl
  | true => exact ensure_bind_eq_ok.mpr ⟨rfl, rfl⟩

/-- A preimage whose parts are those of a transfer is the preimage of one. -/
theorem exists_transfer_of_parts
    (h : detachedParts (.account owner) preimage = .ok parts)
    (hinvocation : parts.invocation = .mk (.contractFn ⟨token, Utf8.bytes "transfer",
      [.scalar (.address (.account owner)), .scalar (.address receiver),
        .scalar (.i128 (highHalf amount) (lowHalf amount))]⟩) []) :
    ∃ (t : DetachedTransfer) (networkId : Uint256), t.owner = owner ∧ t.token = token ∧
      t.receiver = receiver ∧ t.amount = amount ∧ preimage = t.preimage networkId ∧
      parts = t.parts := by
  cases preimage with
  | sorobanAuthorization value =>
    obtain ⟨networkId, nonce, expiration, invocation⟩ := value
    rw [← Except.ok.inj h] at hinvocation ⊢
    obtain rfl := hinvocation
    exact ⟨⟨false, owner, token, receiver, amount, nonce, expiration⟩, networkId, rfl, rfl, rfl,
      rfl, rfl, rfl⟩
  | sorobanAuthorizationWithAddress value =>
    obtain ⟨networkId, nonce, expiration, address, invocation⟩ := value
    obtain ⟨rfl, hparts⟩ := ensure_bind_eq_ok.mp h
    rw [← Except.ok.inj hparts] at hinvocation ⊢
    obtain rfl := hinvocation
    exact ⟨⟨true, owner, token, receiver, amount, nonce, expiration⟩, networkId, rfl, rfl, rfl,
      rfl, rfl, rfl⟩
  | other encoded => cases h

theorem sorobanAuthorizationPreimage_entry (passphrase : String) :
    sorobanAuthorizationPreimage p t.entry passphrase =
      .ok (t.preimage (networkId p passphrase)) := by
  obtain ⟨addressBound, owner, token, receiver, amount, nonce, expiration⟩ := t
  cases addressBound with
  | false => rfl
  | true => rfl

theorem entryPreimageXdr_eq_ok {entryXdr : EntryBytes} {preimageXdr : PreimageBytes} :
    entryPreimageXdr p xdr network entryXdr = .ok preimageXdr ↔
      ∃ passphrase entry preimage, networkPassphrase network = .ok passphrase ∧
        xdr.entry.encoding entry = entryXdr ∧ xdr.entry.depth entry ≤ xdrDecodeMaxDepth ∧
        sorobanAuthorizationPreimage p entry passphrase = .ok preimage ∧
        xdr.preimage.depth preimage ≤ noDepthLimit ∧
        xdr.preimage.encoding preimage = preimageXdr := by
  simp only [entryPreimageXdr, bind_eq_ok, mapErr_eq_ok, pure_eq_ok, Except.ok.injEq,
    sdkPrepareSorobanAuthorizationSigning_eq_ok]
  constructor
  · intro h
    obtain ⟨passphrase, hpassphrase, _, ⟨entry, preimage, hentry, hdepth, hpreimage, hlimit, rfl⟩,
      rfl⟩ := h
    exact ⟨passphrase, entry, preimage, hpassphrase, hentry, hdepth, hpreimage, hlimit, rfl⟩
  · intro h
    obtain ⟨passphrase, entry, preimage, hpassphrase, hentry, hdepth, hpreimage, hlimit, rfl⟩ := h
    exact ⟨passphrase, hpassphrase, _,
      ⟨entry, preimage, hentry, hdepth, hpreimage, hlimit, rfl⟩, rfl⟩

/-! ### The review -/

/-- Two reviews of one account show the same transfer. -/
structure SameReview (review review' : DetachedTokenTransferAuthorizationReview) : Prop where
  authorizer : review.authorizer = review'.authorizer
  credentialType : review.credentialType = review'.credentialType
  tokenContractId : review.tokenContractId = review'.tokenContractId
  destination : review.destination = review'.destination
  amount : review.amount = review'.amount
  nonce : review.nonce = review'.nonce
  signatureExpirationLedger :
    review.signatureExpirationLedger = review'.signatureExpirationLedger

theorem DetachedTransfer.credentialType_inj {t' : DetachedTransfer} :
    t.credentialType = t'.credentialType ↔ t.addressBound = t'.addressBound := by
  unfold credentialType
  cases t.addressBound <;> cases t'.addressBound <;> simp

/-- The review of a transfer tells what the transfer is. -/
theorem RequestedTransfer.eq_of_sameReview {wallet' : WalletRecord} {t' : DetachedTransfer}
    (hcontract : ContractTexts p.strKey crates.contract)
    (h : RequestedTransfer p crates request wallet t)
    (h' : RequestedTransfer p crates request' wallet' t')
    (hsame : SameReview (reviewOf request network wallet t)
      (reviewOf request' network wallet' t')) : t = t' := by
  have hbound := DetachedTransfer.credentialType_inj.mp hsame.credentialType
  have howner : t.owner = t'.owner := by
    have hwallet : wallet.address = wallet'.address := hsame.authorizer
    exact Option.some.inj (h.owner.symm.trans (hwallet ▸ h'.owner))
  have htoken : t.token = t'.token := by
    have htext : request.tokenContractId = request'.tokenContractId := hsame.tokenContractId
    exact scAddressString_inj hcontract h.token (htext ▸ h'.token)
  have hreceiver : t.receiver = t'.receiver := by
    have htext : request.destination = request'.destination := hsame.destination
    exact scAddressString_inj hcontract h.receiver (htext ▸ h'.receiver)
  have hamount : t.amount = t'.amount := h.amount.trans (hsame.amount.trans h'.amount.symm)
  obtain ⟨addressBound, owner, token, receiver, amount, nonce, expiration⟩ := t
  rw [DetachedTransfer.mk.injEq]
  exact ⟨hbound, howner, htoken, hreceiver, hamount, hsame.nonce,
    hsame.signatureExpirationLedger⟩

/-! ### What is accepted -/

variable [DecidableEq PreimageBytes]

/-- What is accepted is the preimage of the requested transfer, for the network and the wallet. -/
theorem prepareDetachedTokenTransferAuthorization_ok
    (hcontract : ContractTexts p.strKey crates.contract)
    (h : prepareDetachedTokenTransferAuthorization p crates xdr resolve network request =
      .ok prepared) :
    ∃ wallet passphrase t, resolveNetworkWallet resolve network request.wallet = .ok wallet ∧
      networkPassphrase network = .ok passphrase ∧ RequestedTransfer p crates request wallet t ∧
      xdr.preimage.encoding (t.preimage (networkId p passphrase)) =
        request.authorizationPreimageXdr ∧
      prepared = preparedOf xdr request network wallet t := by
  obtain ⟨hpositive, h⟩ := ensure_bind_eq_ok.mp h
  obtain ⟨wallet, hwallet, h⟩ := bind_eq_ok.mp h
  obtain ⟨walletAddress, haddress, h⟩ := bind_eq_ok.mp h
  obtain ⟨preimage, hpreimage, h⟩ := bind_eq_ok.mp h
  obtain ⟨parts, hparts, h⟩ := bind_eq_ok.mp h
  obtain ⟨call, hcall, h⟩ := bind_eq_ok.mp h
  obtain ⟨⟨contractId, destination, amount⟩, hreviewed, h⟩ := bind_eq_ok.mp h
  obtain ⟨unsignedEntryXdr, hentry, h⟩ := bind_eq_ok.mp h
  obtain ⟨preimageXdr, hrebuilt, h⟩ := bind_eq_ok.mp h
  obtain ⟨hsame, hresult⟩ := ensure_bind_eq_ok.mp h
  obtain ⟨owner, howner, rfl⟩ := classicAccountScAddress_eq_ok.mp haddress
  obtain ⟨token, receiver, htoken, hreceiver, rfl, hreview⟩ :=
    (reviewedTransfer_eq_ok hcontract howner).mp hreviewed
  obtain ⟨t, receivedId, rfl, rfl, rfl, hamount, rfl, rfl⟩ :=
    exists_transfer_of_parts hparts (transferCall_eq_ok.mp hcall)
  obtain ⟨-, hencoding⟩ := XdrCodec.toXdr_eq_ok.mp (mapErr_eq_ok.mp hentry)
  obtain ⟨passphrase, entry, rebuilt, hpassphrase, hdecoded, -, hentryPreimage, -, hbytes⟩ :=
    entryPreimageXdr_eq_ok.mp hrebuilt
  -- the entry that is rebuilt is the one that was made, and its preimage the one that was given
  obtain rfl : entry = t.entry := xdr.entry.encoding_injective (hdecoded.trans hencoding.symm)
  rw [sorobanAuthorizationPreimage_entry] at hentryPreimage
  obtain rfl := Except.ok.inj hentryPreimage
  refine ⟨wallet, passphrase, t, hwallet, hpassphrase,
    ⟨not_le.mp hpositive, howner, htoken, hreceiver, hamount⟩, hbytes.trans hsame, ?_⟩
  obtain ⟨rfl, hrest⟩ := Prod.mk.inj hreview
  obtain ⟨rfl, rfl⟩ := Prod.mk.inj hrest
  rw [← Except.ok.inj hresult, ← hencoding]
  rfl

/-- The preimage of a transfer that is requested is accepted. -/
theorem RequestedTransfer.prepare (hshallow : ShallowTransfers xdr)
    (hcontract : ContractTexts p.strKey crates.contract) {passphrase : String}
    (hwallet : resolveNetworkWallet resolve network request.wallet = .ok wallet)
    (hpassphrase : networkPassphrase network = .ok passphrase)
    (ht : RequestedTransfer p crates request wallet t)
    (hpreimage : xdr.preimage.encoding (t.preimage (networkId p passphrase)) =
      request.authorizationPreimageXdr) :
    prepareDetachedTokenTransferAuthorization p crates xdr resolve network request =
      .ok (preparedOf xdr request network wallet t) := by
  have haddress : classicAccountScAddress p wallet.address = .ok (.account t.owner) :=
    classicAccountScAddress_eq_ok.mpr ⟨t.owner, ht.owner, rfl⟩
  have hdecoded : xdr.preimage.fromXdr xdrDecodeMaxDepth request.authorizationPreimageXdr =
      .ok (t.preimage (networkId p passphrase)) :=
    XdrCodec.fromXdr_eq_ok.mpr ⟨hpreimage, hshallow.preimage t _⟩
  have hcall : transferCall t.invocation = .ok ⟨t.token, Utf8.bytes "transfer",
      [.scalar (.address (.account t.owner)), .scalar (.address t.receiver),
        .scalar (.i128 (highHalf t.amount) (lowHalf t.amount))]⟩ := transferCall_eq_ok.mpr rfl
  have hentry : authorizationEntryXdr (authorizationCodec xdr) t.entry =
      .ok (xdr.entry.encoding t.entry) :=
    mapErr_eq_ok.mpr (XdrCodec.toXdr_eq_ok.mpr ⟨hshallow.entry t, rfl⟩)
  have hrebuilt : entryPreimageXdr p xdr network (xdr.entry.encoding t.entry) =
      .ok request.authorizationPreimageXdr :=
    entryPreimageXdr_eq_ok.mpr ⟨passphrase, t.entry, _, hpassphrase, rfl, hshallow.entry t,
      sorobanAuthorizationPreimage_entry passphrase,
      (hshallow.preimage t _).trans (by decide), hpreimage⟩
  -- the checks pass in their order
  refine ensure_bind_eq_ok.mpr ⟨not_le.mpr ht.positive, bind_eq_ok.mpr ⟨wallet, hwallet, ?_⟩⟩
  refine bind_eq_ok.mpr ⟨_, haddress, bind_eq_ok.mpr ⟨_, mapErr_eq_ok.mpr hdecoded, ?_⟩⟩
  refine bind_eq_ok.mpr ⟨_, detachedParts_preimage _, bind_eq_ok.mpr ⟨_, hcall, ?_⟩⟩
  refine bind_eq_ok.mpr ⟨_, (reviewedTransfer_eq_ok hcontract ht.owner).mpr
    ⟨t.token, t.receiver, ht.token, ht.receiver, by rw [ht.amount], rfl⟩, ?_⟩
  refine bind_eq_ok.mpr ⟨_, hentry, bind_eq_ok.mpr ⟨_, hrebuilt, ?_⟩⟩
  exact ensure_bind_eq_ok.mpr ⟨rfl, rfl⟩

/-- Two preimages that are accepted on a network with one review are one preimage. -/
theorem review_injective (hcontract : ContractTexts p.strKey crates.contract)
    (h : prepareDetachedTokenTransferAuthorization p crates xdr resolve network request =
      .ok prepared)
    (h' : prepareDetachedTokenTransferAuthorization p crates xdr resolve network request' =
      .ok prepared') (hsame : SameReview prepared.review prepared'.review) :
    request.authorizationPreimageXdr = request'.authorizationPreimageXdr := by
  obtain ⟨wallet, passphrase, t, -, hpassphrase, ht, hpreimage, rfl⟩ :=
    prepareDetachedTokenTransferAuthorization_ok hcontract h
  obtain ⟨wallet', passphrase', t', -, hpassphrase', ht', hpreimage', rfl⟩ :=
    prepareDetachedTokenTransferAuthorization_ok hcontract h'
  obtain rfl := ht.eq_of_sameReview hcontract ht' hsame
  obtain rfl := Except.ok.inj (hpassphrase.symm.trans hpassphrase')
  exact hpreimage.symm.trans hpreimage'

/-! ### What is signed -/

variable [DecidableEq EntryBytes]
variable {entry : SorobanAuthorizationEntry} {credentials : SorobanAddressCredentials}
variable {existing : List ScVal} {key : Uint256} {signature : Vector UInt8 64}
variable {vault : AuthorizationVault EntryBytes PreimageBytes} {wallets : WalletList}
variable {passcode : Option String} {systemAuthProviders : List SystemAuthUnlockProvider}
variable {returned : List UInt8} {authorizer : String}

/-- The only signature of an entry has fields. -/
theorem standardSignatureFields_withSignature {fields : List (ScVal × ScVal)} {values : List ScVal}
    (hdirect : entry.credentials.direct = .ok credentials)
    (h : standardSignatureFields (entry.withSignature (.vec (some values))) = .ok fields) :
    values = [.map (some fields)] := by
  obtain ⟨entryCredentials, invocation⟩ := entry
  cases entryCredentials with
  | address _ | addressV2 _ =>
    simp only [standardSignatureFields, SorobanAuthorizationEntry.withSignature,
      SorobanCredentials.withSignature, ok_bind] at h
    split at h
    · rw [Except.ok.inj h]
    · cases h
    · cases h
  | sourceAccount | addressWithDelegates _ => cases hdirect

/-- The fields that the core writes are the key and its signature. -/
theorem signatureFields_signatureMap :
    [(ScVal.symbol (Utf8.bytes "public_key"), ScVal.bytes key.toList),
      (ScVal.symbol (Utf8.bytes "signature"), ScVal.bytes signature.toList)].foldlM
        signatureFieldStep (none, none) = .ok (some key.toList, some signature.toList) := by
  simp [signatureFieldStep, fromUtf8Lossy_bytes]

/-- A signature that the core has added is returned when it is the only one, and of the key of
the authorizer. -/
theorem extractStandardEd25519Signature_ok
    (hdirect : entry.credentials.direct = .ok credentials)
    (h : extractStandardEd25519Signature p (entry.withSignature (.vec (some (existing ++
      [signatureMap key signature])))) authorizer = .ok returned) :
    p.strKey.publicKeyOf? authorizer = some key ∧ returned = signature.toList := by
  obtain ⟨fields, hfields, h⟩ := bind_eq_ok.mp h
  have hvalues := standardSignatureFields_withSignature hdirect hfields
  rw [List.append_eq_singleton_iff] at hvalues
  rcases hvalues with ⟨-, hmap⟩ | ⟨-, hnone⟩
  · obtain rfl : [(ScVal.symbol (Utf8.bytes "public_key"), ScVal.bytes key.toList),
        (ScVal.symbol (Utf8.bytes "signature"), ScVal.bytes signature.toList)] = fields := by
      simpa [signatureMap] using hmap
    rw [signatureFields_signatureMap, ok_bind] at h
    obtain ⟨expected, hexpected, h⟩ := bind_eq_ok.mp h
    obtain ⟨hkey, h⟩ := ensure_bind_eq_ok.mp h
    obtain ⟨returned', hreturned, h⟩ := bind_eq_ok.mp h
    obtain ⟨-, hresult⟩ := ensure_bind_eq_ok.mp h
    obtain rfl : key = expected := Vector.toList_inj.mp (Option.some.inj hkey)
    refine ⟨okOr_eq_ok.mp hexpected, ?_⟩
    rw [← Except.ok.inj hresult]
    exact (Option.some.inj (okOr_eq_ok.mp hreturned)).symm
  · exact absurd hnone (by simp)

theorem PreparedDetachedTokenTransferAuthorization.assertReviewBinding_ok
    (h : prepared.assertReviewBinding p xdr = .ok ()) :
    ∃ passphrase preimage, networkPassphrase prepared.review.network = .ok passphrase ∧
      xdr.entry.encoding prepared.entry = prepared.unsignedEntryXdr ∧
      sorobanAuthorizationPreimage p prepared.entry passphrase = .ok preimage ∧
      xdr.preimage.encoding preimage = prepared.authorizationPreimageXdr := by
  obtain ⟨currentXdr, hcurrent, h⟩ := bind_eq_ok.mp h
  obtain ⟨rfl, h⟩ := ensure_bind_eq_ok.mp h
  obtain ⟨preimageXdr, hrebuilt, hsame⟩ := bind_eq_ok.mp h
  obtain ⟨-, hentry⟩ := XdrCodec.toXdr_eq_ok.mp (mapErr_eq_ok.mp hcurrent)
  obtain ⟨passphrase, entry, preimage, hpassphrase, hdecoded, -, hpreimage, -, hbytes⟩ :=
    entryPreimageXdr_eq_ok.mp hrebuilt
  obtain rfl : entry = prepared.entry :=
    xdr.entry.encoding_injective (hdecoded.trans hentry.symm)
  exact ⟨passphrase, preimage, hpassphrase, hentry, hpreimage, hbytes.trans (ensure_eq_ok.mp hsame)⟩

/-- The bytes are a signature of the account over the hash of an encoded preimage. -/
def SignsPreimage (p : Primitives Bytes Digest) (xdr : AuthorizationXdr EntryBytes PreimageBytes)
    (authorizer : String) (preimageXdr : PreimageBytes) (returned : List UInt8) : Prop :=
  ∃ key signature, p.strKey.publicKeyOf? authorizer = some key ∧
    returned = Vector.toList (n := 64) signature ∧
    p.verifyStrict key (p.sha256 (xdr.preimageOctets preimageXdr)).toList returned = true

/-- What is returned is a signature over the preimage that was reviewed, of its authorizer. -/
theorem signDetachedTokenTransferAuthorization_ok
    (h : signDetachedTokenTransferAuthorizationWithSystemAuth p xdr
      (fresnicaAuthorizationSdk p xdr vault) wallets passcode systemAuthProviders prepared =
        .ok returned) :
    SignsPreimage p xdr prepared.review.authorizer prepared.authorizationPreimageXdr returned := by
  obtain ⟨_, hbinding, h⟩ := bind_eq_ok.mp h
  obtain ⟨signers, -, h⟩ := bind_eq_ok.mp h
  obtain ⟨systemAuth, -, h⟩ := bind_eq_ok.mp h
  obtain ⟨record, -, h⟩ := bind_eq_ok.mp h
  obtain ⟨signedXdr, hsign, h⟩ := bind_eq_ok.mp h
  obtain ⟨signedEntry, hparse, h⟩ := bind_eq_ok.mp h
  obtain ⟨_, -, hextract⟩ := bind_eq_ok.mp h
  obtain ⟨passphrase, preimage, hpassphrase, hentry, hpreimage, hbytes⟩ :=
    PreparedDetachedTokenTransferAuthorization.assertReviewBinding_ok hbinding
  obtain ⟨passphrase', hpassphrase', entry, credentials, existing, key, signature, preimage',
    hdecoded, hdirect, -, -, hpreimage', hvalid, hsigned⟩ := signForAuthorizer_ok hsign
  obtain rfl := Except.ok.inj (hpassphrase.symm.trans hpassphrase')
  obtain rfl : entry = prepared.entry :=
    xdr.entry.encoding_injective (hdecoded.trans hentry.symm)
  obtain rfl := Except.ok.inj (hpreimage.symm.trans hpreimage')
  -- the codec reads back the entry that the core has written
  obtain ⟨hparsed, -⟩ := XdrCodec.fromXdr_eq_ok.mp (mapErr_eq_ok.mp hparse)
  obtain rfl := xdr.entry.encoding_injective (hparsed.trans hsigned.symm)
  obtain ⟨hkey, rfl⟩ := extractStandardEd25519Signature_ok hdirect hextract
  refine ⟨key, signature, hkey, rfl, ?_⟩
  rw [← hbytes]
  exact hvalid

/-- A preimage is accepted exactly when it is the one of the requested transfer, for the network
and the wallet. The review tells accepted preimages apart, and what is signed after it, even if
the review was changed, is the preimage that was accepted, by the account that the review names. -/
theorem detachedTransfer_exact (p : Primitives Bytes Digest) (crates : SimulationCrates)
    (xdr : AuthorizationXdr EntryBytes PreimageBytes)
    (vault : AuthorizationVault EntryBytes PreimageBytes) (resolve : WalletResolver)
    (network : String) (hshallow : ShallowTransfers xdr)
    (hcontract : ContractTexts p.strKey crates.contract) :
    (∀ request : DetachedTokenTransferAuthorizationRequest PreimageBytes,
      (∃ prepared, prepareDetachedTokenTransferAuthorization p crates xdr resolve network request =
        .ok prepared) ↔
      ∃ wallet passphrase t, resolveNetworkWallet resolve network request.wallet = .ok wallet ∧
        networkPassphrase network = .ok passphrase ∧ RequestedTransfer p crates request wallet t ∧
        xdr.preimage.encoding (t.preimage (networkId p passphrase)) =
          request.authorizationPreimageXdr) ∧
    (∀ request request' prepared prepared',
      prepareDetachedTokenTransferAuthorization p crates xdr resolve network request =
        .ok prepared →
      prepareDetachedTokenTransferAuthorization p crates xdr resolve network request' =
        .ok prepared' →
      SameReview prepared.review prepared'.review →
      request.authorizationPreimageXdr = request'.authorizationPreimageXdr) ∧
    ∀ request prepared,
      prepareDetachedTokenTransferAuthorization p crates xdr resolve network request =
        .ok prepared →
      ∀ review wallets passcode systemAuthProviders returned,
        signDetachedTokenTransferAuthorizationWithSystemAuth p xdr
          (fresnicaAuthorizationSdk p xdr vault) wallets passcode systemAuthProviders
          { prepared with review } = .ok returned →
        SignsPreimage p xdr review.authorizer request.authorizationPreimageXdr returned := by
  refine ⟨?_, ?_, ?_⟩
  · intro request
    constructor
    · intro h
      obtain ⟨prepared, h⟩ := h
      obtain ⟨wallet, passphrase, t, hwallet, hpassphrase, ht, hpreimage, -⟩ :=
        prepareDetachedTokenTransferAuthorization_ok hcontract h
      exact ⟨wallet, passphrase, t, hwallet, hpassphrase, ht, hpreimage⟩
    · intro h
      obtain ⟨wallet, passphrase, t, hwallet, hpassphrase, ht, hpreimage⟩ := h
      exact ⟨_, ht.prepare hshallow hcontract hwallet hpassphrase hpreimage⟩
  · intro request request' prepared prepared' h h' hsame
    exact review_injective hcontract h h' hsame
  -- what is signed is made of the accepted parts, and the review is only shown
  · intro request prepared h review wallets passcode systemAuthProviders returned hsign
    obtain ⟨wallet, passphrase, t, -, -, -, -, rfl⟩ :=
      prepareDetachedTokenTransferAuthorization_ok hcontract h
    exact signDetachedTokenTransferAuthorization_ok hsign

/-! ### A transfer of ten units -/

theorem contractTexts_sep23 (crates : SimulationCrates)
    (h : crates.contract = fun id => Sep23.encode (16, id.toList)) :
    ContractTexts Sep23.strKey crates.contract where
  injective id id' hsame := by
    rw [h] at hsame
    have hcontent := Sep23.decode_eq_some_iff.mpr hsame
    rw [Sep23.decode_eq_some_iff.mpr rfl, Option.some.injEq, Prod.mk.injEq] at hcontent
    exact (Vector.toList_inj.mp hcontent.2).symm
  ne_publicKey id key hsame := by
    rw [h] at hsame
    have hcontent := Sep23.decode_eq_some_iff.mpr hsame
    rw [show Sep23.strKey.publicKey key = Sep23.encode (48, key.toList) from rfl,
      Sep23.decode_eq_some_iff.mpr rfl, Option.some.injEq, Prod.mk.injEq] at hcontent
    exact absurd hcontent.1 (by decide)

def tenUnits : DetachedTransfer where
  addressBound := true
  owner := Vector.replicate 32 1
  token := .contract (Vector.replicate 32 2)
  receiver := .account (Vector.replicate 32 3)
  amount := .lit 10
  nonce := .lit 7
  signatureExpirationLedger := .lit 1000

def tenUnitsWallet : WalletRecord where
  name := "main"
  address := Sep23.strKey.publicKey tenUnits.owner
  walletType := "software"
  network := "testnet"
  secret := some "protected"

def tenUnitsRequest : DetachedTokenTransferAuthorizationRequest HashIdPreimage where
  wallet := none
  tokenContractId := Sep23.encode (16, (Vector.replicate 32 2 : Uint256).toList)
  destination := Sep23.strKey.publicKey (Vector.replicate 32 3)
  amount := .lit 10
  authorizationPreimageXdr :=
    tenUnits.preimage (networkId Primitives.ideal "Test SDF Network ; September 2015")

/-- The preimage of ten units is accepted. -/
theorem detachedTransfer_exact_tenUnits :
    ∃ prepared, prepareDetachedTokenTransferAuthorization Primitives.ideal simulatedCrates
      idealAuthorizationXdr (fun _ => .ok tenUnitsWallet) "testnet" tenUnitsRequest =
        .ok prepared := by
  have hshallow : ShallowTransfers idealAuthorizationXdr :=
    ⟨fun _ _ => Nat.zero_le _, fun _ => Nat.zero_le _⟩
  have hcontract : ContractTexts Primitives.ideal.strKey simulatedCrates.contract :=
    contractTexts_sep23 simulatedCrates rfl
  have hrequested : RequestedTransfer Primitives.ideal simulatedCrates tenUnitsRequest
      tenUnitsWallet tenUnits :=
    { positive := by decide
      owner := Sep23.strKey.publicKeyOf?_eq_some_iff.mpr rfl
      token := rfl
      receiver := rfl
      amount := rfl }
  have hwallet : resolveNetworkWallet (fun _ => .ok tenUnitsWallet) "testnet"
      tenUnitsRequest.wallet = .ok tenUnitsWallet :=
    bind_eq_ok.mpr ⟨tenUnitsWallet, rfl, ensure_bind_eq_ok.mpr ⟨rfl, rfl⟩⟩
  exact ((detachedTransfer_exact Primitives.ideal simulatedCrates idealAuthorizationXdr
    ⟨fun _ _ _ => .error .invalidAuthorization, fun _ _ => .error .invalidAuthorization⟩
    (fun _ => .ok tenUnitsWallet) "testnet" hshallow hcontract).1 tenUnitsRequest).mpr
    ⟨tenUnitsWallet, _, tenUnits, hwallet, rfl, hrequested, rfl⟩

end Fresnica
