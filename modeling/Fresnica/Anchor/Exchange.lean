import Fresnica.Anchor.Challenge
import Fresnica.Anchor.Transfer
import Fresnica.Core.SecretStore
import Fresnica.LedgerAuthorization.Account
import Fresnica.SigningCoordination.Providers

/-!
# Exchanging a signed challenge

A challenge proves a login when the client account has signed it: with its medium weight, and
with one signature at least, where the server's own does not count. The exchange checks this on
the signed envelope before it contacts the token endpoint. Signing coordination has selected the
keys by the same count from what it was told is satisfied, so what it signs passes.

## Main definitions

* `sep10AuthorizationPlan` — what the client account asks for
* `exchangeAnchorSep10Challenge` — the gate, and the request behind it
* `signChallenge` — a verified challenge through signing coordination
* `ProvesLogin` — what a signed challenge has to show

## Main results

* `signedSep10Challenge_eq_ok` — what passes the gate
* `signedSep10Challenge_of_coordination` — what coordination signed passes it
* `exchange_fits_coordination` — both sides, for the plan of a client account
-/

namespace Fresnica

open Foundation

namespace Anchor

/-! ### The plan and the gate -/

/-- What a client account asks for: the medium threshold of an account on the ledger, and the
account's own key before it is there. -/
def sep10Requirement (strKey : StrKey) (ledgerAccount : Option Json) (accountId : String) :
    Except String AccountAuthorizationRequirement :=
  match ledgerAccount with
  | some raw => do
    let account ← mapErr (fun error => s!"Unable to interpret SEP-10 ledger authorization: {error}")
      (LedgerAccountAuthorization.fromHorizon strKey raw)
    ensure (account.accountId = accountId)
      "Horizon account authorization belongs to a different account"
    return ⟨account.accountId, account.mediumThreshold, [], account.signers⟩
  | none => do
    let _ ← okOr (strKey.publicKeyOf? accountId)
      "SEP-10 Client Account must be a Classic G address"
    return ⟨accountId, 1, [], [⟨.ed25519 accountId, 1⟩]⟩

def sep10AuthorizationPlan (strKey : StrKey) (ledgerAccount : Option Json) (accountId : String) :
    Except String LedgerAuthorizationPlan := do
  let requirement ← sep10Requirement strKey ledgerAccount accountId
  return ⟨[requirement], ∅⟩

structure AnchorSep10Challenge where
  transactionXdr : List UInt8
  webAuthEndpoint : String
  serverSigningKey : String
  deriving DecidableEq, Repr

/-- What the server answers when it is asked for a challenge. -/
structure Sep10ChallengeResponse where
  transaction : String
  networkPassphrase : Option String
  deriving DecidableEq, Repr

def validateSep10NetworkPassphrase (network : String) (serverNetworkPassphrase : Option String) :
    Except String Unit :=
  match serverNetworkPassphrase with
  | some server => do
    let passphrase ← networkPassphrase network
    ensure (server = passphrase)
      s!"SEP-10 server network_passphrase does not match local {network} configuration"
  | none => .ok ()

def tokenOf? (value : Json) : Option String :=
  match structFields? ["token"] value with
  | some [token] => token.asStr?
  | _ => none

section Definitions

variable {Digest : Type} (p : Primitives (List UInt8) Digest) (parse : UrlParser)

def sep10ChallengeUrl (webAuthEndpoint account : String) : Except String Url := do
  let url ← okOr (parse webAuthEndpoint) "WEB_AUTH_ENDPOINT must be a valid URL"
  validateAnchorHttpsUrl url "WEB_AUTH_ENDPOINT"
  return url.appendPair "account" account

/-- The challenge that the server answers with, once it is verified. What the server answers at a
URL is a parameter. -/
def prepareAnchorSep10Challenge (fetch : Url → Except String Sep10ChallengeResponse)
    (network account homeDomain : String) (capabilities : AnchorCapabilities) (nowUnix : U64) :
    Except String AnchorSep10Challenge := do
  let webAuthEndpoint ← okOr capabilities.webAuthUrl
    s!"{capabilities.domain} does not advertise a SEP-10 WEB_AUTH_ENDPOINT"
  let signingKey ← okOr capabilities.signingKey
    s!"{capabilities.domain} does not advertise a SEP-10 SIGNING_KEY"
  let url ← sep10ChallengeUrl parse webAuthEndpoint account
  let challenge ← fetch url
  validateSep10NetworkPassphrase network challenge.networkPassphrase
  let transactionXdr ← verifySep10Challenge p parse challenge.transaction
    ⟨network, account, signingKey, homeDomain, webAuthEndpoint⟩ nowUnix
  return ⟨transactionXdr, webAuthEndpoint, signingKey⟩

/-- What is sent to the token endpoint. -/
structure TokenRequest where
  url : Url
  transaction : String
  deriving DecidableEq, Repr

def sep10TokenRequest (webAuthEndpoint signedTransaction : String) :
    Except String TokenRequest := do
  let url ← okOr (parse webAuthEndpoint) "WEB_AUTH_ENDPOINT must be a valid URL"
  validateAnchorHttpsUrl url "WEB_AUTH_ENDPOINT"
  return ⟨url, signedTransaction⟩

/-- The token in an answer of the endpoint. -/
def sep10Token (webAuthEndpoint : String) (answer : ℕ × Json) : Except String String := do
  let (status, value) := answer
  ensure (200 ≤ status ∧ status < 300) (anchorHttpError "SEP-10" webAuthEndpoint status value)
  let token ← okOr (tokenOf? value) s!"Invalid SEP-10 token response from {webAuthEndpoint}"
  ensure (Text.isBlank token = false) "SEP-10 token response did not include a token"
  return token

/-- What the token endpoint answers to a request is a parameter. -/
def exchangeSep10Challenge (post : TokenRequest → Except String (ℕ × Json))
    (webAuthEndpoint signedTransaction : String) : Except String String := do
  let request ← sep10TokenRequest parse webAuthEndpoint signedTransaction
  let answer ← post request
  sep10Token webAuthEndpoint answer

/-- The text of a signed challenge that passes the gate. -/
def signedSep10Challenge (network : String) (challenge : AnchorSep10Challenge)
    (authorization : LedgerAuthorizationPlan) (signedEnvelope : TransactionEnvelope) :
    Except String String := do
  let verifiedEnvelope ← parseTransactionXdr p challenge.transactionXdr
  let verified ← challengeTransaction verifiedEnvelope
  let signed ← challengeTransaction signedEnvelope
  ensure (signed = verified) "signed SEP-10 transaction does not match the verified challenge"
  let valid ← hasValidTransactionSignature p signedEnvelope network challenge.serverSigningKey
  ensure (valid = true) "signed SEP-10 challenge no longer contains the verified server signature"
  let passphrase ← networkPassphrase network
  let satisfied ← satisfiedEd25519Conditions p authorization signedEnvelope passphrase
  -- what the server has signed proves nothing about the client
  let satisfied := satisfied.erase (.ed25519 challenge.serverSigningKey)
  ensure (¬ (satisfied.isEmpty = true ∨ authorization.isSatisfiableBy satisfied = false))
    "signed SEP-10 challenge does not satisfy client ledger authorization"
  let signedXdr ← mapErr (fun error => s!"Unable to encode signed SEP-10 challenge: {error}")
    (transactionXdrBytes p signedEnvelope)
  return Base64.encode signedXdr

def exchangeAnchorSep10Challenge (post : TokenRequest → Except String (ℕ × Json))
    (network : String) (challenge : AnchorSep10Challenge)
    (authorization : LedgerAuthorizationPlan) (signedEnvelope : TransactionEnvelope) :
    Except String String := do
  let signedTransaction ← signedSep10Challenge p network challenge authorization signedEnvelope
  exchangeSep10Challenge parse post challenge.webAuthEndpoint signedTransaction

/-- A challenge through signing coordination: one signature at least is asked for, and the server
is neither counted nor asked. -/
def signChallenge (sdk : TransactionSdk (List UInt8) Digest) (network : String)
    (challenge : AnchorSep10Challenge) (plan : LedgerAuthorizationPlan)
    (access : SignerAccess (List UInt8) Digest) : Except String TransactionEnvelope := do
  let envelope ← parseTransactionXdr p challenge.transactionXdr
  let passphrase ← networkPassphrase network
  let satisfied ← satisfiedEd25519Conditions p plan envelope passphrase
  finished (signNeededWithEd25519Providers p sdk plan
    (satisfied.erase (.ed25519 challenge.serverSigningKey))
    ((∅ : BTreeSet String).insert challenge.serverSigningKey) 1 network access envelope)

end Definitions

/-! ### What the account asks for -/

/-- The weight and the signers that a client account asks for: those of its medium threshold, and
while it is not on the ledger, its own key. -/
inductive AsksFor (strKey : StrKey) :
    Option Json → String → Fin 256 → List WeightedLedgerSigner → Prop
  | account {raw : Json} {account : LedgerAccountAuthorization}
      (read : LedgerAccountAuthorization.fromHorizon strKey raw = .ok account) :
      AsksFor strKey (some raw) account.accountId account.mediumThreshold account.signers
  | unactivated {accountId : String} {key : Uint256}
      (address : strKey.publicKeyOf? accountId = some key) :
      AsksFor strKey none accountId 1 [⟨.ed25519 accountId, 1⟩]

variable {strKey : StrKey} {ledgerAccount : Option Json} {accountId : String}
variable {plan : LedgerAuthorizationPlan}

theorem sep10AuthorizationPlan_eq_ok :
    sep10AuthorizationPlan strKey ledgerAccount accountId = .ok plan ↔
      ∃ weight signers, AsksFor strKey ledgerAccount accountId weight signers ∧
        plan = ⟨[⟨accountId, weight, [], signers⟩], ∅⟩ := by
  constructor
  · intro h
    obtain ⟨requirement, hrequirement, hplan⟩ := bind_eq_ok.mp h
    rw [← Except.ok.inj hplan]
    -- the account of the ledger is asked, or the key of the address where there is none
    cases ledgerAccount with
    | some raw =>
      obtain ⟨account, hread, hrequirement⟩ := bind_eq_ok.mp hrequirement
      obtain ⟨rfl, hresult⟩ := ensure_bind_eq_ok.mp hrequirement
      rw [← Except.ok.inj hresult]
      exact ⟨_, _, .account (mapErr_eq_ok.mp hread), rfl⟩
    | none =>
      obtain ⟨key, hkey, hresult⟩ := bind_eq_ok.mp hrequirement
      rw [← Except.ok.inj hresult]
      exact ⟨_, _, .unactivated (okOr_eq_ok.mp hkey), rfl⟩
  · intro h
    obtain ⟨weight, signers, hasks, rfl⟩ := h
    refine bind_eq_ok.mpr ⟨_, ?_, rfl⟩
    cases hasks with
    | account hread =>
      exact bind_eq_ok.mpr ⟨_, mapErr_eq_ok.mpr hread, ensure_bind_eq_ok.mpr ⟨rfl, rfl⟩⟩
    | unactivated haddress => exact bind_eq_ok.mpr ⟨_, okOr_eq_ok.mpr haddress, rfl⟩

/-! ### Valid signatures of a plan -/

variable {Digest : Type} {p : Primitives (List UInt8) Digest} {parse : UrlParser}
variable {envelope envelope' signed : TransactionEnvelope} {passphrase network key : String}
variable {satisfied : BTreeSet LedgerSignerCondition} {condition : LedgerSignerCondition}
variable {challenge : AnchorSep10Challenge} {request : TokenRequest} {signedTransaction : String}

/-- What was satisfied stays so when keys of the plan sign, and theirs is satisfied as well. -/
theorem satisfiedEd25519Conditions_of_signed {keys : List String}
    (hsatisfied : satisfiedEd25519Conditions p plan envelope passphrase = .ok satisfied)
    (hkeys : ∀ key ∈ keys, .ed25519 key ∈ plan.signerConditions)
    (hsigned : SignedBy p passphrase keys envelope signed) :
    ∃ all, satisfiedEd25519Conditions p plan signed passphrase = .ok all ∧
      (∀ c ∈ satisfied, c ∈ all) ∧ ∀ key ∈ keys, .ed25519 key ∈ all := by
  obtain ⟨all, hall, hmono⟩ :=
    satisfiedEd25519Conditions_mono hsigned.body_eq hsigned.signatures_subset hsatisfied
  refine ⟨all, hall, hmono, ?_⟩
  intro key hkey
  have hplan := hkeys key hkey
  have hkind : (LedgerSignerCondition.ed25519 key).kind = .ed25519PublicKey := rfl
  obtain ⟨b, hb⟩ := (satisfiedEd25519Conditions_eq_ok.mp hsatisfied).1 _ hplan
  obtain ⟨hpublic, hcondition⟩ :=
    hasValidSignature_eq_ok.mp ((satisfiesEd25519_of_kind hkind).mp hb)
  refine ((satisfiedEd25519Conditions_eq_ok.mp hall).2 _).mpr ⟨hplan, ?_⟩
  refine satisfiesEd25519_eq_true.mpr ⟨hkind, hasValidSignature_eq_ok.mpr ⟨hpublic, ?_⟩⟩
  exact hsigned.satisfies key hkey b hcondition

/-! ### The gate is sound -/

/-- The conditions that prove the login: Ed25519 conditions of the plan, but the server's, with a
valid signature. -/
def IsProof (p : Primitives (List UInt8) Digest) (passphrase server : String)
    (signed : TransactionEnvelope) (plan : LedgerAuthorizationPlan)
    (condition : LedgerSignerCondition) : Prop :=
  condition ∈ plan.signerConditions ∧ condition.kind = .ed25519PublicKey ∧
    condition.key ≠ server ∧
    transactionEnvelopeHasValidSignature p signed passphrase condition.key = .ok true

/-- The envelope is the verified challenge, with the server's signature, and with proofs of the
client that reach the weight. -/
structure ProvesLogin (p : Primitives (List UInt8) Digest) (network : String)
    (challenge : AnchorSep10Challenge) (plan : LedgerAuthorizationPlan) (weight : Fin 256)
    (signers : List WeightedLedgerSigner) (signed : TransactionEnvelope) : Prop where
  transaction : ∃ tx verified signatures,
    p.decode challenge.transactionXdr = some (.tx tx verified) ∧ signed = .tx tx signatures
  server : hasValidTransactionSignature p signed network challenge.serverSigningKey = .ok true
  client : ∃ passphrase proofs, networkPassphrase network = .ok passphrase ∧
    (∀ c, c ∈ proofs ↔ IsProof p passphrase challenge.serverSigningKey signed plan c) ∧
    (∃ c, c ∈ proofs) ∧ (weight : ℕ) ≤ signerWeight signers proofs

/-- Without the server's, the satisfied conditions are the proofs. -/
theorem mem_erase_server
    (h : satisfiedEd25519Conditions p plan envelope passphrase = .ok satisfied) (server : String)
    (condition : LedgerSignerCondition) :
    condition ∈ satisfied.erase (.ed25519 server) ↔
      IsProof p passphrase server envelope plan condition := by
  rw [BTreeSet.mem_erase_iff, (satisfiedEd25519Conditions_eq_ok.mp h).2,
    satisfiesEd25519_eq_true, IsProof, Ne, LedgerSignerCondition.eq_ed25519_iff]
  tauto

/-- The plan of one account and no extra signers asks for the weight of that account. -/
theorem isSatisfiableBy_single {weight : Fin 256} {signers : List WeightedLedgerSigner}
    {proofs : BTreeSet LedgerSignerCondition} :
    (⟨[⟨accountId, weight, [], signers⟩], ∅⟩ : LedgerAuthorizationPlan).isSatisfiableBy proofs =
      true ↔ (weight : ℕ) ≤ signerWeight signers proofs := by
  rw [LedgerAuthorizationPlan.isSatisfiableBy_iff]
  simp [AccountAuthorizationRequirement.availableWeight]

/-- The text of a signed challenge that passes the gate, in terms of what it checks. -/
theorem signedSep10Challenge_eq_ok :
    signedSep10Challenge p network challenge plan signed = .ok signedTransaction ↔
      (∃ tx verified signatures, p.decode challenge.transactionXdr = some (.tx tx verified) ∧
        signed = .tx tx signatures) ∧
      hasValidTransactionSignature p signed network challenge.serverSigningKey = .ok true ∧
      (∃ passphrase satisfied, networkPassphrase network = .ok passphrase ∧
        satisfiedEd25519Conditions p plan signed passphrase = .ok satisfied ∧
        (∃ c, c ∈ satisfied.erase (.ed25519 challenge.serverSigningKey)) ∧
        plan.isSatisfiableBy (satisfied.erase (.ed25519 challenge.serverSigningKey)) = true) ∧
      ∃ signedXdr, p.encode signed = some signedXdr ∧
        signedTransaction = Base64.encode signedXdr := by
  constructor
  · intro h
    obtain ⟨verifiedEnvelope, hparse, h⟩ := bind_eq_ok.mp h
    obtain ⟨verified, hverified, h⟩ := bind_eq_ok.mp h
    obtain ⟨tx, htx, h⟩ := bind_eq_ok.mp h
    obtain ⟨hsame, h⟩ := ensure_bind_eq_ok.mp h
    obtain ⟨valid, hvalid, h⟩ := bind_eq_ok.mp h
    obtain ⟨hserver, h⟩ := ensure_bind_eq_ok.mp h
    obtain ⟨passphrase, hpassphrase, h⟩ := bind_eq_ok.mp h
    obtain ⟨satisfied, hsatisfied, h⟩ := bind_eq_ok.mp h
    obtain ⟨hclient, h⟩ := ensure_bind_eq_ok.mp h
    obtain ⟨signedXdr, hxdr, hresult⟩ := bind_eq_ok.mp h
    -- someone besides the server has signed, and enough of them
    rw [not_or, Bool.not_eq_true, Bool.not_eq_false,
      BTreeSet.isEmpty_eq_false_iff] at hclient
    obtain ⟨verifiedSignatures, rfl⟩ := challengeTransaction_eq_ok.mp hverified
    obtain ⟨signatures, rfl⟩ := challengeTransaction_eq_ok.mp htx
    subst hsame hserver
    exact ⟨⟨tx, verifiedSignatures, signatures, parseTransactionXdr_eq_ok.mp hparse, rfl⟩, hvalid,
      ⟨passphrase, satisfied, hpassphrase, hsatisfied, hclient⟩,
      signedXdr, transactionXdrBytes_eq_ok.mp (mapErr_eq_ok.mp hxdr),
      (Except.ok.inj hresult).symm⟩
  · intro h
    obtain ⟨⟨tx, verified, signatures, hdecode, rfl⟩, hvalid,
      ⟨passphrase, satisfied, hpassphrase, hsatisfied, hsome, hplan⟩, signedXdr, hencode, rfl⟩ := h
    rw [signedSep10Challenge, parseTransactionXdr_eq_ok.mpr hdecode, ok_bind,
      challengeTransaction_eq_ok.mpr ⟨verified, rfl⟩, ok_bind,
      challengeTransaction_eq_ok.mpr ⟨signatures, rfl⟩, ok_bind]
    refine ensure_bind_eq_ok.mpr ⟨rfl, ?_⟩
    rw [hvalid, ok_bind]
    refine ensure_bind_eq_ok.mpr ⟨rfl, ?_⟩
    rw [hpassphrase, ok_bind, hsatisfied, ok_bind]
    refine ensure_bind_eq_ok.mpr ⟨?_, ?_⟩
    · rw [not_or, Bool.not_eq_true, Bool.not_eq_false,
        BTreeSet.isEmpty_eq_false_iff]
      exact ⟨hsome, hplan⟩
    · rw [transactionXdrBytes_eq_ok.mpr hencode]
      rfl

/-- What passes the gate proves the login. -/
theorem ProvesLogin.of_signed {weight : Fin 256} {signers : List WeightedLedgerSigner}
    (h : signedSep10Challenge p network challenge
      ⟨[⟨accountId, weight, [], signers⟩], ∅⟩ signed = .ok signedTransaction) :
    ProvesLogin p network challenge ⟨[⟨accountId, weight, [], signers⟩], ∅⟩ weight signers
      signed := by
  obtain ⟨htransaction, hserver, hclient, -⟩ := signedSep10Challenge_eq_ok.mp h
  obtain ⟨passphrase, satisfied, hpassphrase, hsatisfied, hsome, hplan⟩ := hclient
  refine ⟨htransaction, hserver, passphrase, _, hpassphrase, ?_, hsome, ?_⟩
  · exact mem_erase_server hsatisfied challenge.serverSigningKey
  · exact isSatisfiableBy_single.mp hplan

/-! ### What coordination signed -/

/-- A challenge that was verified: the server has signed it, and its endpoint can be reached. -/
structure Verified (p : Primitives (List UInt8) Digest) (parse : UrlParser) (network : String)
    (challenge : AnchorSep10Challenge) : Prop where
  decodes : ∃ tx signatures, p.decode challenge.transactionXdr = some (.tx tx signatures) ∧
    hasValidTransactionSignature p (.tx tx signatures) network challenge.serverSigningKey = .ok true
  endpoint : ∃ url, parse challenge.webAuthEndpoint = some url ∧
    validateAnchorHttpsUrl url "WEB_AUTH_ENDPOINT" = .ok ()

theorem webAuthDomain_url {endpoint host : String} (h : webAuthDomain parse endpoint = .ok host) :
    ∃ url, parse endpoint = some url ∧ validateAnchorHttpsUrl url "WEB_AUTH_ENDPOINT" = .ok () := by
  obtain ⟨url, hurl, h⟩ := bind_eq_ok.mp h
  obtain ⟨_, hvalid, -⟩ := bind_eq_ok.mp h
  exact ⟨url, okOr_eq_ok.mp hurl, hvalid⟩

theorem prepareAnchorSep10Challenge_verified
    {fetch : Url → Except String Sep10ChallengeResponse} {account homeDomain : String}
    {capabilities : AnchorCapabilities} {now : U64}
    (h : prepareAnchorSep10Challenge p parse fetch network account homeDomain capabilities now =
      .ok challenge) : Verified p parse network challenge := by
  obtain ⟨webAuthEndpoint, -, h⟩ := bind_eq_ok.mp h
  obtain ⟨signingKey, -, h⟩ := bind_eq_ok.mp h
  obtain ⟨url, -, h⟩ := bind_eq_ok.mp h
  obtain ⟨answer, -, h⟩ := bind_eq_ok.mp h
  obtain ⟨_, -, h⟩ := bind_eq_ok.mp h
  obtain ⟨transactionXdr, hverify, hresult⟩ := bind_eq_ok.mp h
  rw [← Except.ok.inj hresult]
  obtain ⟨tx, signatures, server, client, domain, host, -, hdecode, hserver, -, -, hhost, -,
    hsigned⟩ := ValidChallenge.of_verify hverify
  exact ⟨⟨tx, signatures, hdecode, (hasValidTransactionSignature_eq_ok hserver).mpr hsigned⟩,
    webAuthDomain_url hhost⟩

/-- The signature of the server stays when others sign. -/
theorem hasValidTransactionSignature_of_signed {keys : List String}
    (hsigned : SignedBy p passphrase keys envelope signed)
    (h : hasValidTransactionSignature p envelope network key = .ok true) :
    hasValidTransactionSignature p signed network key = .ok true := by
  obtain ⟨passphrase', hpassphrase, h⟩ := bind_eq_ok.mp h
  obtain ⟨hpublic, hcondition⟩ := hasValidSignature_eq_ok.mp (mapErr_eq_ok.mp h)
  obtain ⟨b, hb, hmono⟩ :=
    satisfiesCondition_of_subset hsigned.body_eq hsigned.signatures_subset hcondition
  rw [hmono rfl] at hb
  exact bind_eq_ok.mpr ⟨passphrase', hpassphrase,
    mapErr_eq_ok.mpr (hasValidSignature_eq_ok.mpr ⟨hpublic, hb⟩)⟩

/-- Every condition that signing coordination counted on is satisfied without the server. -/
theorem mem_erase_server_of_selection {keys : List String} {available : BTreeSet String}
    {t all : BTreeSet LedgerSignerCondition} {server : String}
    {conditions : BTreeSet LedgerSignerCondition}
    (hsel : Selection available conditions (satisfied.erase (.ed25519 server)) t keys)
    (hserver : server ∉ available) (hmono : ∀ c ∈ satisfied, c ∈ all)
    (hkeys : ∀ key ∈ keys, .ed25519 key ∈ all) :
    ∀ c ∈ t, c ∈ all.erase (.ed25519 server) := by
  intro c hc
  rw [BTreeSet.mem_erase_iff]
  rcases (hsel.extends_ed25519.mem_iff c).mp hc with hold | hnew
  · obtain ⟨hne, hmem⟩ := BTreeSet.mem_erase_iff.mp hold
    exact ⟨hne, hmono c hmem⟩
  -- a selected key is one that is available, and that of the server is not
  · obtain ⟨key, hkey, rfl⟩ := List.mem_map.mp hnew
    refine ⟨?_, hkeys key hkey⟩
    intro heq
    obtain ⟨-, rfl⟩ := LedgerSignerCondition.eq_ed25519_iff.mp heq
    exact hserver (hsel.mem_available key hkey)

/-- What signing coordination made of a verified challenge passes the gate. -/
theorem signedSep10Challenge_of_coordination {vault : Vault (List UInt8) Digest}
    {access : SignerAccess (List UInt8) Digest} (hverified : Verified p parse network challenge)
    (h : signChallenge p (fresnicaSdk p vault) network challenge plan access = .ok signed) :
    ∃ signedTransaction,
      signedSep10Challenge p network challenge plan signed = .ok signedTransaction := by
  obtain ⟨tx, signatures, hdecode, hserver⟩ := hverified.decodes
  obtain ⟨envelope, henvelope, h⟩ := bind_eq_ok.mp h
  obtain ⟨passphrase, hpassphrase, h⟩ := bind_eq_ok.mp h
  obtain ⟨satisfied, hsatisfied, hcall⟩ := bind_eq_ok.mp h
  obtain rfl : envelope = .tx tx signatures :=
    Option.some.inj ((parseTransactionXdr_eq_ok.mp henvelope).symm.trans hdecode)
  obtain ⟨signers, keys, hprepare, hloop⟩ :=
    signNeededWithEd25519Providers_ok (finished_eq_ok.mp hcall)
  obtain ⟨hkeyed, t, hsel, hplan, hcount⟩ := prepareSigning_ok hprepare
  have hsigned := forEach_signWithSelectedKey_signed hkeyed hpassphrase hloop
  obtain ⟨all, hall, hmono, hkeys⟩ :=
    satisfiedEd25519Conditions_of_signed hsatisfied hsel.mem_conditions hsigned
  have hexcluded : challenge.serverSigningKey ∉
      signers.available ((∅ : BTreeSet String).insert challenge.serverSigningKey) := fun hmem =>
    not_mem_of_available hmem Std.ExtTreeSet.mem_insert_self
  have hsub := mem_erase_server_of_selection hsel hexcluded hmono hkeys
  -- coordination counted a proof, and the gate counts it again
  obtain ⟨proof, hproof, -⟩ := BTreeSet.exists_mem_of_countP_pos (Nat.lt_of_lt_of_le one_pos hcount)
  obtain ⟨signedXdr, hencode⟩ := forEach_signWithSelectedKey_encodes hkeyed hpassphrase hloop
    ⟨_, p.decode_canonical hdecode⟩
  obtain ⟨added, hsame, -⟩ := hsigned.signatures
  exact ⟨_, signedSep10Challenge_eq_ok.mpr ⟨⟨tx, signatures, signatures ++ added, hdecode, hsame⟩,
    hasValidTransactionSignature_of_signed hsigned hserver,
    ⟨passphrase, all, hpassphrase, hall, ⟨proof, hsub proof hproof⟩,
      LedgerAuthorizationPlan.isSatisfiableBy_mono hsub hplan⟩, signedXdr, hencode, rfl⟩⟩

/-! ### The gate and coordination -/

/-- The token endpoint is contacted, with one request, whatever it answers. -/
def Contacts (exchange : (TokenRequest → Except String (ℕ × Json)) → Except String String)
    (webAuthEndpoint : String) : Prop :=
  ∃ request, ∀ post, exchange post = post request >>= sep10Token webAuthEndpoint

/-- The exchange fails before the token endpoint is contacted. -/
def Refuses (exchange : (TokenRequest → Except String (ℕ × Json)) → Except String String) : Prop :=
  ∃ error, ∀ post, exchange post = .error error

/-- The exchange posts what passed the gate, to an endpoint that can be reached. -/
theorem contacts_of_signed {url : Url}
    (h : signedSep10Challenge p network challenge plan signed = .ok signedTransaction)
    (hurl : parse challenge.webAuthEndpoint = some url)
    (hvalid : validateAnchorHttpsUrl url "WEB_AUTH_ENDPOINT" = .ok ()) :
    Contacts (fun post => exchangeAnchorSep10Challenge p parse post network challenge plan signed)
      challenge.webAuthEndpoint := by
  refine ⟨⟨url, signedTransaction⟩, fun post => ?_⟩
  simp only [exchangeAnchorSep10Challenge, h, ok_bind, exchangeSep10Challenge, sep10TokenRequest,
    okOr_eq_ok.mpr hurl, hvalid, pure_eq_ok]

/-- The exchange fails, or it has the proof of the login and contacts the endpoint. -/
theorem refuses_or_contacts {weight : Fin 256} {signers : List WeightedLedgerSigner}
    (hplan : plan = ⟨[⟨accountId, weight, [], signers⟩], ∅⟩) :
    Refuses (fun post =>
        exchangeAnchorSep10Challenge p parse post network challenge plan signed) ∨
      ProvesLogin p network challenge plan weight signers signed ∧
        Contacts (fun post =>
          exchangeAnchorSep10Challenge p parse post network challenge plan signed)
          challenge.webAuthEndpoint := by
  cases hgate : signedSep10Challenge p network challenge plan signed with
  | error error => exact Or.inl ⟨error, fun post => by simp [exchangeAnchorSep10Challenge, hgate]⟩
  | ok signedTransaction =>
    cases hrequest : sep10TokenRequest parse challenge.webAuthEndpoint signedTransaction with
    | error error =>
      refine Or.inl ⟨error, fun post => ?_⟩
      simp [exchangeAnchorSep10Challenge, hgate, exchangeSep10Challenge, hrequest]
    | ok request =>
      obtain ⟨url, hurl, hrest⟩ := bind_eq_ok.mp hrequest
      obtain ⟨_, hvalid, -⟩ := bind_eq_ok.mp hrest
      refine Or.inr ⟨?_, contacts_of_signed hgate (okOr_eq_ok.mp hurl) hvalid⟩
      subst hplan
      exact ProvesLogin.of_signed hgate

/-- With the plan of a client account, the exchange contacts the token endpoint only with what
proves the login, and it does so with whatever coordination signed of a verified challenge. -/
theorem exchange_fits_coordination (p : Primitives (List UInt8) Digest)
    (vault : Vault (List UInt8) Digest) (parse : UrlParser) (ledgerAccount : Option Json)
    (accountId : String) (plan : LedgerAuthorizationPlan)
    (hplan : sep10AuthorizationPlan p.strKey ledgerAccount accountId = .ok plan) :
    (∃ weight signers, AsksFor p.strKey ledgerAccount accountId weight signers ∧
      ∀ network challenge signed,
        Refuses (fun post =>
          exchangeAnchorSep10Challenge p parse post network challenge plan signed) ∨
        ProvesLogin p network challenge plan weight signers signed ∧
          Contacts (fun post =>
            exchangeAnchorSep10Challenge p parse post network challenge plan signed)
            challenge.webAuthEndpoint) ∧
    ∀ fetch network homeDomain capabilities now challenge access signed,
      prepareAnchorSep10Challenge p parse fetch network accountId homeDomain capabilities now =
        .ok challenge →
      signChallenge p (fresnicaSdk p vault) network challenge plan access = .ok signed →
      Contacts (fun post =>
        exchangeAnchorSep10Challenge p parse post network challenge plan signed)
        challenge.webAuthEndpoint := by
  constructor
  · obtain ⟨weight, signers, hasks, hsame⟩ := sep10AuthorizationPlan_eq_ok.mp hplan
    exact ⟨weight, signers, hasks, fun network challenge signed => refuses_or_contacts hsame⟩
  · intro fetch network homeDomain capabilities now challenge access signed hprepare hsign
    have hverified := prepareAnchorSep10Challenge_verified hprepare
    obtain ⟨url, hurl, hvalid⟩ := hverified.endpoint
    obtain ⟨signedTransaction, hgate⟩ := signedSep10Challenge_of_coordination hverified hsign
    exact contacts_of_signed hgate hurl hvalid

/-! ### A login -/

def clientSignature : List UInt8 :=
  exampleClient.toList ++
    exampleDigest ("Test SDF Network ; September 2015", .tx exampleChallenge)

/-- The challenge with the signature of the client. -/
def loginEnvelope : TransactionEnvelope :=
  .tx exampleChallenge (examplePassphrases.map exampleSignature ++
    [⟨signatureHint exampleClient.toList, clientSignature⟩])

def loginEncode (envelope : TransactionEnvelope) : Option (List UInt8) :=
  if envelope = exampleEnvelope then some [1]
  else if envelope = loginEnvelope then some [2]
  else none

def loginDecode (bytes : List UInt8) : Option TransactionEnvelope :=
  if bytes = [1] then some exampleEnvelope
  else if bytes = [2] then some loginEnvelope
  else none

theorem loginEncode_cases {bytes : List UInt8} (h : loginEncode envelope = some bytes) :
    envelope = exampleEnvelope ∧ bytes = [1] ∨ envelope = loginEnvelope ∧ bytes = [2] := by
  unfold loginEncode at h
  split_ifs at h with hheld hsigned
  · exact Or.inl ⟨hheld, (Option.some.inj h).symm⟩
  · exact Or.inr ⟨hsigned, (Option.some.inj h).symm⟩

theorem loginEncode_injective {bytes : List UInt8} (h : loginEncode envelope = some bytes)
    (h' : loginEncode envelope' = some bytes) : envelope = envelope' := by
  rcases loginEncode_cases h with ⟨rfl, rfl⟩ | ⟨rfl, rfl⟩ <;>
    rcases loginEncode_cases h' with ⟨rfl, hbytes⟩ | ⟨rfl, hbytes⟩
  · rfl
  · exact absurd hbytes (by decide)
  · exact absurd hbytes (by decide)
  · rfl

theorem loginEncode_of_decode {bytes : List UInt8} (h : loginDecode bytes = some envelope) :
    loginEncode envelope = some bytes := by
  unfold loginDecode at h
  split_ifs at h with h₁ h₂
  · rw [← Option.some.inj h, h₁, loginEncode, if_pos rfl]
  · have hne : loginEnvelope ≠ exampleEnvelope := by
      intro heq
      exact absurd (congrArg (·.signatures.length) heq) (by decide)
    rw [← Option.some.inj h, h₂, loginEncode, if_neg hne, if_pos rfl]

/-- Primitives that know two encodings, of the challenge and of the signed one. -/
def loginPrimitives : Primitives (List UInt8) (String × TaggedTransaction) :=
  { examplePrimitives with
    encode := loginEncode
    decode := loginDecode
    encode_injective := loginEncode_injective
    decode_canonical := loginEncode_of_decode }

/-- A vault that opens nothing. -/
def loginVault : Vault (List UInt8) (String × TaggedTransaction) where
  deriveUnlockKey _ _ _ := .error (.core "locked")
  unprotect _ _ := .error (.core "locked")

/-- The client signs with an external signer. -/
def loginAccess : SignerAccess (List UInt8) (String × TaggedTransaction) where
  wallets := .ok []
  passcode := none
  systemAuthProviders := []
  externalProviders := [⟨Sep23.strKey.publicKey exampleClient, fun _ => .ok clientSignature⟩]

def loginPlan : LedgerAuthorizationPlan :=
  ⟨[⟨Sep23.strKey.publicKey exampleClient, 1, [],
    [⟨.ed25519 (Sep23.strKey.publicKey exampleClient), 1⟩]⟩], ∅⟩

def loginCapabilities : AnchorCapabilities where
  domain := "anchor.example"
  sep6Url := none
  sep24Url := none
  webAuthUrl := some "https://auth.anchor.example/sep10"
  signingKey := some (Sep23.strKey.publicKey exampleServer)
  sep6DepositInfo := .null
  sep6WithdrawInfo := .null

def loginChallenge : AnchorSep10Challenge where
  transactionXdr := [1]
  webAuthEndpoint := "https://auth.anchor.example/sep10"
  serverSigningKey := Sep23.strKey.publicKey exampleServer

theorem loginChallenge_verify :
    verifySep10Challenge loginPrimitives exampleChallengeUrl "AQ==" (exampleLogin "testnet")
      (BoundedInt.lit 1100) = .ok [1] := by
  have h := ValidChallenge.of_verify (exampleVerify_networks.1)
  obtain ⟨tx, signatures, server, client, domain, host, hxdr, hdecode, hrest⟩ := h
  have hlogin : loginPrimitives.decode [1] = some (.tx tx signatures) := hdecode
  exact ValidChallenge.verify ⟨tx, signatures, server, client, domain, host, hxdr, hlogin, hrest⟩

theorem loginChallenge_prepare :
    prepareAnchorSep10Challenge loginPrimitives exampleChallengeUrl
      (fun _ => .ok ⟨"AQ==", none⟩) "testnet" (Sep23.strKey.publicKey exampleClient)
      "anchor.example." loginCapabilities (BoundedInt.lit 1100) = .ok loginChallenge := by
  have hurl : sep10ChallengeUrl exampleChallengeUrl "https://auth.anchor.example/sep10"
      (Sep23.strKey.publicKey exampleClient) = .ok
        ((⟨"https", "", none, some (.domain "auth.anchor.example"), none, "/sep10", none,
          none⟩ : Url).appendPair "account" (Sep23.strKey.publicKey exampleClient)) := by
    decide +kernel
  refine bind_eq_ok.mpr ⟨_, rfl, bind_eq_ok.mpr ⟨_, rfl, bind_eq_ok.mpr ⟨_, hurl, ?_⟩⟩⟩
  exact bind_eq_ok.mpr ⟨_, rfl, bind_eq_ok.mpr ⟨(), rfl,
    bind_eq_ok.mpr ⟨_, loginChallenge_verify, rfl⟩⟩⟩

/-- A client that is not on the ledger signs its challenge, and the token endpoint is contacted. -/
theorem exchange_fits_coordination_login :
    Contacts (fun post => exchangeAnchorSep10Challenge loginPrimitives exampleChallengeUrl post
      "testnet" loginChallenge loginPlan loginEnvelope) "https://auth.anchor.example/sep10" := by
  have hplan : sep10AuthorizationPlan Sep23.strKey none (Sep23.strKey.publicKey exampleClient) =
      .ok loginPlan :=
    sep10AuthorizationPlan_eq_ok.mpr ⟨_, _,
      .unactivated (Sep23.strKey.publicKeyOf?_eq_some_iff.mpr rfl), rfl⟩
  have hsign : signChallenge loginPrimitives (fresnicaSdk loginPrimitives loginVault) "testnet"
      loginChallenge loginPlan loginAccess = .ok loginEnvelope := by decide +kernel
  exact (exchange_fits_coordination loginPrimitives loginVault exampleChallengeUrl none
    (Sep23.strKey.publicKey exampleClient) loginPlan hplan).2 _ "testnet" "anchor.example."
    loginCapabilities (BoundedInt.lit 1100) loginChallenge loginAccess loginEnvelope
    loginChallenge_prepare hsign

end Anchor

end Fresnica
