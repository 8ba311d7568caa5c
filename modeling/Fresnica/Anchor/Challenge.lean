import Fresnica.Anchor.Http
import Fresnica.Foundation.Base64
import Fresnica.LedgerAuthorization.Satisfied
import Fresnica.Wallet

/-!
# Login challenges

An anchor lets a wallet log in by signing a transaction that can never be submitted: its
sequence number is zero, and it only writes data entries. The server has signed it, and it
says whose login it is: the first entry names the home domain and comes from the client's
account, and one entry names the domain of the endpoint. The transaction is read from the
text the server sent, so every part of it is checked before anyone signs it.

## Main definitions

* `verifySep10Challenge` — the checks, in their order
* `ChallengeTransaction` — what a challenge has to be
* `ValidChallenge` — a text that holds a signed challenge

## Main results

* `additionalOperations_eq_ok` — what the loop over the other operations accepts
* `verifySep10Challenge_eq_ok` — the checks accept exactly the valid challenges
* `verifySep10Challenge_accepts_and_binds` — and a challenge is for one login, with a signature
  for each network it is accepted on
-/

namespace Fresnica

open Foundation

namespace Anchor

/-! ### The checks -/

def transactionTimeBounds : Preconditions → Except String TimeBounds
  | .time bounds => .ok bounds
  | .v2 value => okOr value.timeBounds "SEP-10 challenge must include time bounds"
  | .none => .error "SEP-10 challenge must include time bounds"

def xdrString64 (value : List UInt8) : Except String String :=
  okOr (String.fromUTF8? value.toByteArray) "SEP-10 ManageData key is not UTF-8"

/-- The transaction of a classic envelope. -/
def challengeTransaction : TransactionEnvelope → Except String Transaction
  | .tx tx _ => .ok tx
  | .txV0 .. | .txFeeBump .. =>
    .error "SEP-10 challenge must use a classic transaction envelope"

/-- The name and value of a data entry. -/
def manageData (error : String) : OperationBody → Except String (List UInt8 × Option (List UInt8))
  | .manageData dataName dataValue => .ok (dataName, dataValue)
  | _ => .error error

def webAuthDomain (parse : UrlParser) (endpoint : String) : Except String String := do
  let url ← okOr (parse endpoint) "WEB_AUTH_ENDPOINT must be a valid URL"
  validateAnchorHttpsUrl url "WEB_AUTH_ENDPOINT"
  -- a URL that passed has a host
  return url.hostStr.getD ""

/-- The value of the entry that names the endpoint. -/
def webAuthDomainValue (expected : String) (seen : Bool) (dataValue : Option (List UInt8)) :
    Except String Bool := do
  ensure (seen = false) "SEP-10 challenge contains duplicate web_auth_domain operations"
  let value ← okOr dataValue "SEP-10 web_auth_domain value is missing"
  let value ← okOr (String.fromUTF8? value.toByteArray) "SEP-10 web_auth_domain is not UTF-8"
  ensure (value = expected) "SEP-10 web_auth_domain does not match WEB_AUTH_ENDPOINT"
  return true

/-- One operation after the first, and whether one has named the endpoint by then. -/
def additionalOperation (serverAccount : MuxedAccount) (expected : String) (seen : Bool)
    (operation : Operation) : Except String Bool := do
  let (dataName, dataValue) ← manageData "SEP-10 additional operations must be ManageData"
    operation.body
  let key ← xdrString64 dataName
  ensure (key ≠ "client_domain")
    "SEP-10 challenge contains an unexpected client_domain operation"
  ensure (operation.sourceAccount = some serverAccount)
    "SEP-10 additional operation source must be SIGNING_KEY"
  if key = "web_auth_domain" then webAuthDomainValue expected seen dataValue else return seen

section Definitions

variable {Digest : Type} (p : Primitives (List UInt8) Digest) (parse : UrlParser)

def classicMuxedAccount (address label : String) : Except String MuxedAccount := do
  let key ← okOr (p.strKey.publicKeyOf? address) s!"{label} must be a Classic G address"
  return .ed25519 key

def hasValidTransactionSignature (envelope : TransactionEnvelope)
    (network signerPublicKey : String) : Except String Bool := do
  let passphrase ← networkPassphrase network
  mapErr (fun error => s!"unable to verify transaction signature: {error.message}")
    (transactionEnvelopeHasValidSignature p envelope passphrase signerPublicKey)

/-- The login a challenge is requested for. -/
structure Login where
  network : String
  clientAccount : String
  serverSigningKey : String
  homeDomain : String
  webAuthEndpoint : String
  deriving DecidableEq, Repr

def verifySep10Challenge (challengeXdr : String) (login : Login) (nowUnix : U64) :
    Except String (List UInt8) := do
  let transactionXdr ← okOr (Base64.decode (Text.trim challengeXdr))
    "SEP-10 challenge transaction is not valid base64 XDR"
  let envelope ← parseTransactionXdr p transactionXdr
  let transaction ← challengeTransaction envelope
  let serverAccount ← classicMuxedAccount p login.serverSigningKey "SEP-10 SIGNING_KEY"
  let clientAccount ← classicMuxedAccount p login.clientAccount "SEP-10 client account"
  ensure (transaction.sourceAccount = serverAccount)
    "SEP-10 challenge source account does not match SIGNING_KEY"
  ensure (transaction.seqNum.val = 0) "SEP-10 challenge sequence number must be zero"
  ensure (transaction.memo = .none) "SEP-10 challenge contains an unexpected memo"
  let timeBounds ← transactionTimeBounds transaction.cond
  -- a challenge without an end is refused as well
  ensure (¬ (timeBounds.maxTime.val = 0 ∨ timeBounds.maxTime < timeBounds.minTime ∨
      nowUnix < timeBounds.minTime ∨ timeBounds.maxTime < nowUnix))
    "SEP-10 challenge is outside its valid time bounds"
  let first ← okOr transaction.operations.head? "SEP-10 challenge has no operations"
  ensure (first.sourceAccount = some clientAccount)
    "SEP-10 first operation source does not match the client account"
  let (dataName, dataValue) ← manageData "SEP-10 first operation must be ManageData" first.body
  let domain ← canonicalHomeDomain parse login.homeDomain
  let key ← xdrString64 dataName
  ensure (key = s!"{domain} auth") "SEP-10 first operation home-domain key is invalid"
  let nonce ← okOr dataValue "SEP-10 challenge nonce is missing"
  ensure (nonce.length = 64) "SEP-10 challenge nonce must be exactly 64 bytes"
  let expected ← webAuthDomain parse login.webAuthEndpoint
  -- any further operation is of the server, and one of them names the endpoint
  let seen ← transaction.operations.tail.foldlM (additionalOperation serverAccount expected) false
  ensure (seen = true) "SEP-10 challenge is missing web_auth_domain"
  let valid ← hasValidTransactionSignature p envelope login.network login.serverSigningKey
  ensure (valid = true) "SEP-10 challenge is not signed by SIGNING_KEY"
  return transactionXdr

end Definitions

/-! ### What a challenge is -/

/-- The operation is a data entry that is to name the endpoint. -/
def namesWebAuthDomain (operation : Operation) : Bool :=
  match operation.body with
  | .manageData dataName _ => dataName = Utf8.bytes "web_auth_domain"
  | _ => false

/-- The entry that names a host as the endpoint's. -/
def webAuthOperation (server : Uint256) (host : String) : Operation :=
  ⟨some (.ed25519 server), .manageData (Utf8.bytes "web_auth_domain") (some (Utf8.bytes host))⟩

/-- A data entry of the server whose name is a text, and not the name of a client's domain. -/
def IsServerEntry (server : Uint256) (operation : Operation) : Prop :=
  ∃ name dataValue, name ≠ "client_domain" ∧
    operation = ⟨some (.ed25519 server), .manageData (Utf8.bytes name) dataValue⟩

/-- The bounds of a transaction, plain or among other conditions. -/
def HasTimeBounds (cond : Preconditions) (bounds : TimeBounds) : Prop :=
  cond = .time bounds ∨ ∃ value, cond = .v2 value ∧ value.timeBounds = some bounds

/-- A transaction that is a challenge of a server for a client, at a time. -/
structure ChallengeTransaction (server client : Uint256) (domain host : String) (now : U64)
    (tx : Transaction) : Prop where
  source : tx.sourceAccount = .ed25519 server
  sequence : tx.seqNum.val = 0
  memo : tx.memo = .none
  time : ∃ bounds, HasTimeBounds tx.cond bounds ∧ bounds.maxTime.val ≠ 0 ∧
    bounds.minTime ≤ bounds.maxTime ∧ bounds.minTime ≤ now ∧ now ≤ bounds.maxTime
  operations : ∃ nonce rest, nonce.length = 64 ∧
    tx.operations = ⟨some (.ed25519 client),
      .manageData (Utf8.bytes s!"{domain} auth") (some nonce)⟩ :: rest ∧
    (∀ operation ∈ rest, IsServerEntry server operation) ∧
    rest.filter namesWebAuthDomain = [webAuthOperation server host]

section Specification

variable {Digest : Type} (p : Primitives (List UInt8) Digest) (parse : UrlParser)

/-- A signature of the key over the transaction, for a network. -/
def SignedFor (network : String) (key : Uint256) (tx : Transaction)
    (signatures : List DecoratedSignature) : Prop :=
  ∃ passphrase hash decorated, networkPassphrase network = .ok passphrase ∧
    p.hash passphrase (.tx tx) = some hash ∧ p.isVerifyingKey key = true ∧
    decorated ∈ signatures ∧
    decorated.verifies p (signatureHint key.toList) key (p.digestBytes hash) = true

/-- The text holds a challenge for the login, signed by the server. -/
def ValidChallenge (challengeXdr : String) (login : Login) (now : U64)
    (transactionXdr : List UInt8) : Prop :=
  ∃ tx signatures server client domain host,
    Base64.decode (Text.trim challengeXdr) = some transactionXdr ∧
    p.decode transactionXdr = some (.tx tx signatures) ∧
    p.strKey.publicKeyOf? login.serverSigningKey = some server ∧
    p.strKey.publicKeyOf? login.clientAccount = some client ∧
    canonicalHomeDomain parse login.homeDomain = .ok domain ∧
    webAuthDomain parse login.webAuthEndpoint = .ok host ∧
    ChallengeTransaction server client domain host now tx ∧
    SignedFor p login.network server tx signatures

end Specification

/-! ### The loop over the other operations -/

variable {server client : Uint256} {domain host expected name : String} {now : U64}
variable {operation : Operation} {operations : List Operation} {seen seen' : Bool}
variable {cond : Preconditions} {bounds : TimeBounds} {tx : Transaction}
variable {bytes : List UInt8} {text : String}

theorem transactionTimeBounds_eq_ok :
    transactionTimeBounds cond = .ok bounds ↔ HasTimeBounds cond bounds := by
  unfold HasTimeBounds
  cases cond with
  | none => simp [transactionTimeBounds]
  | time other => simp [transactionTimeBounds]
  | v2 value => simp [transactionTimeBounds, okOr_eq_ok]

theorem manageData_eq_ok {error : String} {body : OperationBody} {dataValue : Option (List UInt8)} :
    manageData error body = .ok (bytes, dataValue) ↔ body = .manageData bytes dataValue := by
  cases body <;> simp [manageData]

theorem xdrString64_eq_ok : xdrString64 bytes = .ok text ↔ Utf8.bytes text = bytes := by
  rw [xdrString64, okOr_eq_ok, Utf8.fromUTF8?_eq_some_iff]

theorem webAuthDomainValue_eq_ok {dataValue : Option (List UInt8)} :
    webAuthDomainValue expected seen dataValue = .ok seen' ↔
      seen = false ∧ dataValue = some (Utf8.bytes expected) ∧ seen' = true := by
  simp only [webAuthDomainValue, bind_eq_ok, ensure_eq_ok, okOr_eq_ok, pure_eq_ok,
    Except.ok.injEq, Utf8.fromUTF8?_eq_some_iff]
  constructor
  · intro h
    obtain ⟨_, hseen, value, hvalue, text, htext, _, rfl, rfl⟩ := h
    exact ⟨hseen, by rw [hvalue, htext], rfl⟩
  · intro h
    obtain ⟨hseen, hvalue, rfl⟩ := h
    exact ⟨(), hseen, _, hvalue, expected, rfl, (), rfl, rfl⟩

/-- A data entry of the server that does not name the endpoint is passed over, and one that
does has to be the first, and right. -/
theorem additionalOperation_eq_ok :
    additionalOperation (.ed25519 server) expected seen operation = .ok seen' ↔
      IsServerEntry server operation ∧
        (namesWebAuthDomain operation = false ∧ seen' = seen ∨
          seen = false ∧ operation = webAuthOperation server expected ∧ seen' = true) := by
  obtain ⟨source, body⟩ := operation
  constructor
  · intro h
    obtain ⟨⟨dataName, dataValue⟩, hbody, h⟩ := bind_eq_ok.mp h
    obtain ⟨key, hkey, h⟩ := bind_eq_ok.mp h
    obtain ⟨hclient, h⟩ := ensure_bind_eq_ok.mp h
    obtain ⟨hsource, hlast⟩ := ensure_bind_eq_ok.mp h
    obtain rfl := manageData_eq_ok.mp hbody
    obtain rfl := xdrString64_eq_ok.mp hkey
    obtain rfl : source = some (.ed25519 server) := hsource
    refine ⟨⟨key, dataValue, hclient, rfl⟩, ?_⟩
    -- only the entry of the web authentication domain is counted, and its value is checked
    by_cases hdomain : key = "web_auth_domain"
    · rw [if_pos hdomain] at hlast
      obtain ⟨hseen, hvalue, hseen'⟩ := webAuthDomainValue_eq_ok.mp hlast
      exact Or.inr ⟨hseen, by rw [hvalue, hdomain]; rfl, hseen'⟩
    · rw [if_neg hdomain] at hlast
      refine Or.inl ⟨?_, (Except.ok.inj hlast).symm⟩
      simpa [namesWebAuthDomain, Utf8.bytes_inj] using hdomain
  · intro h
    obtain ⟨⟨name, dataValue, hclient, hoperation⟩, hcase⟩ := h
    obtain ⟨rfl, rfl⟩ := Operation.mk.inj hoperation
    have hname : xdrString64 (Utf8.bytes name) = .ok name := xdrString64_eq_ok.mpr rfl
    rw [additionalOperation, manageData, ok_bind]
    simp only [hname, ok_bind]
    rw [ensure_bind_eq_ok]
    refine ⟨hclient, ensure_bind_eq_ok.mpr ⟨trivial, ?_⟩⟩
    rcases hcase with ⟨hother, rfl⟩ | ⟨rfl, heq, rfl⟩
    · have hdomain : name ≠ "web_auth_domain" := by
        simpa [namesWebAuthDomain, Utf8.bytes_inj] using hother
      rw [if_neg hdomain]
      rfl
    · simp only [webAuthOperation, Operation.mk.injEq, OperationBody.manageData.injEq,
        true_and] at heq
      rw [if_pos (Utf8.bytes_inj.mp heq.1)]
      exact webAuthDomainValue_eq_ok.mpr ⟨rfl, heq.2, rfl⟩

theorem namesWebAuthDomain_webAuthOperation :
    namesWebAuthDomain (webAuthOperation server host) = true := by
  simp [namesWebAuthDomain, webAuthOperation]

/-- After the endpoint has been named, no operation names it again. -/
theorem additionalOperations_seen :
    operations.foldlM (additionalOperation (.ed25519 server) expected) true = .ok seen' ↔
      (∀ operation ∈ operations, IsServerEntry server operation) ∧
        operations.filter namesWebAuthDomain = [] ∧ seen' = true := by
  induction operations with
  | nil => simp [eq_comm]
  | cons operation operations ih =>
    rw [List.foldlM_cons, bind_eq_ok, List.forall_mem_cons]
    constructor
    · intro h
      obtain ⟨mid, hstep, hrest⟩ := h
      obtain ⟨hentry, hcase⟩ := additionalOperation_eq_ok.mp hstep
      rcases hcase with ⟨hother, rfl⟩ | ⟨hseen, -, -⟩
      · obtain ⟨hentries, hnone, hseen'⟩ := ih.mp hrest
        refine ⟨⟨hentry, hentries⟩, ?_, hseen'⟩
        rw [List.filter_cons_of_neg (by simp [hother]), hnone]
      · cases hseen
    · intro h
      obtain ⟨⟨hentry, hentries⟩, hnone, hseen'⟩ := h
      obtain ⟨hother, hothers⟩ := List.forall_mem_cons.mp (List.filter_eq_nil_iff.mp hnone)
      exact ⟨true,
        additionalOperation_eq_ok.mpr ⟨hentry, Or.inl ⟨eq_false_of_ne_true hother, rfl⟩⟩,
        ih.mpr ⟨hentries, List.filter_eq_nil_iff.mpr hothers, hseen'⟩⟩

/-- The loop ends with the endpoint named when one operation has named it, and right. -/
theorem additionalOperations_eq_ok :
    operations.foldlM (additionalOperation (.ed25519 server) expected) false = .ok true ↔
      (∀ operation ∈ operations, IsServerEntry server operation) ∧
        operations.filter namesWebAuthDomain = [webAuthOperation server expected] := by
  induction operations with
  | nil => simp
  | cons operation operations ih =>
    rw [List.foldlM_cons, bind_eq_ok, List.forall_mem_cons]
    constructor
    · intro h
      obtain ⟨mid, hstep, hrest⟩ := h
      obtain ⟨hentry, hcase⟩ := additionalOperation_eq_ok.mp hstep
      rcases hcase with ⟨hother, rfl⟩ | ⟨-, rfl, rfl⟩
      · obtain ⟨hentries, hone⟩ := ih.mp hrest
        refine ⟨⟨hentry, hentries⟩, ?_⟩
        rw [List.filter_cons_of_neg (by simp [hother]), hone]
      -- the endpoint was named here, and the rest of the loop does not name it again
      · obtain ⟨hentries, hnone, -⟩ := additionalOperations_seen.mp hrest
        refine ⟨⟨hentry, hentries⟩, ?_⟩
        rw [List.filter_cons_of_pos namesWebAuthDomain_webAuthOperation, hnone]
    · intro h
      obtain ⟨⟨hentry, hentries⟩, hone⟩ := h
      cases hnames : namesWebAuthDomain operation with
      | false =>
        rw [List.filter_cons_of_neg (by simp [hnames])] at hone
        exact ⟨false, additionalOperation_eq_ok.mpr ⟨hentry, Or.inl ⟨hnames, rfl⟩⟩,
          ih.mpr ⟨hentries, hone⟩⟩
      | true =>
        rw [List.filter_cons_of_pos hnames] at hone
        obtain ⟨rfl, hnone⟩ := List.cons.inj hone
        exact ⟨true, additionalOperation_eq_ok.mpr ⟨hentry, Or.inr ⟨rfl, rfl, rfl⟩⟩,
          additionalOperations_seen.mpr ⟨hentries, hnone, rfl⟩⟩

/-! ### Accepted challenges -/

variable {Digest : Type} {p : Primitives (List UInt8) Digest} {parse : UrlParser}
variable {envelope : TransactionEnvelope} {signatures : List DecoratedSignature} {key : Uint256}
variable {challengeXdr network address label : String} {login login' : Login}
variable {now now' : U64} {transactionXdr transactionXdr' : List UInt8}

theorem challengeTransaction_eq_ok :
    challengeTransaction envelope = .ok tx ↔ ∃ signatures, envelope = .tx tx signatures := by
  cases envelope <;> simp [challengeTransaction]

theorem classicMuxedAccount_eq_ok {account : MuxedAccount} :
    classicMuxedAccount p address label = .ok account ↔
      ∃ key, p.strKey.publicKeyOf? address = some key ∧ account = .ed25519 key := by
  simp only [classicMuxedAccount, bind_eq_ok, okOr_eq_ok, pure_eq_ok, Except.ok.injEq]
  exact exists_congr fun key => and_congr_right fun _ => eq_comm

theorem hasValidTransactionSignature_eq_ok (hkey : p.strKey.publicKeyOf? address = some key) :
    hasValidTransactionSignature p (.tx tx signatures) network address = .ok true ↔
      SignedFor p network key tx signatures := by
  simp only [hasValidTransactionSignature, transactionEnvelopeHasValidSignature,
    transactionEnvelopeSatisfiesSignerKey, transactionHash, bind_eq_ok, mapErr_eq_ok, okOr_eq_ok,
    ensure_eq_ok, pure_eq_ok, Except.ok.injEq, List.any_eq_true, SignedFor,
    TransactionEnvelope.body, TransactionEnvelope.signatures]
  constructor
  · intro h
    obtain ⟨passphrase, hpassphrase, key', hkey', _, hvalid, hash, hhash, decorated, hmem,
      hverifies⟩ := h
    obtain rfl := Option.some.inj (hkey.symm.trans hkey')
    exact ⟨passphrase, hash, decorated, hpassphrase, hhash, hvalid, hmem, hverifies⟩
  · intro h
    obtain ⟨passphrase, hash, decorated, hpassphrase, hhash, hvalid, hmem, hverifies⟩ := h
    exact ⟨passphrase, hpassphrase, key, hkey, (), hvalid, hash, hhash, decorated, hmem,
      hverifies⟩

/-- The bounds are checked for what they have to be. -/
theorem timeBounds_in_order {bounds : TimeBounds} :
    ¬ (bounds.maxTime.val = 0 ∨ bounds.maxTime < bounds.minTime ∨ now < bounds.minTime ∨
      bounds.maxTime < now) ↔
      bounds.maxTime.val ≠ 0 ∧ bounds.minTime ≤ bounds.maxTime ∧ bounds.minTime ≤ now ∧
        now ≤ bounds.maxTime := by
  simp only [BoundedInt.lt_iff, BoundedInt.le_iff, not_or, not_lt, ne_eq]

theorem ValidChallenge.of_verify
    (h : verifySep10Challenge p parse challengeXdr login now = .ok transactionXdr) :
    ValidChallenge p parse challengeXdr login now transactionXdr := by
  obtain ⟨xdr, hxdr, h⟩ := bind_eq_ok.mp h
  obtain ⟨envelope, henvelope, h⟩ := bind_eq_ok.mp h
  obtain ⟨tx, htx, h⟩ := bind_eq_ok.mp h
  obtain ⟨serverAccount, hserverAccount, h⟩ := bind_eq_ok.mp h
  obtain ⟨clientAccount, hclientAccount, h⟩ := bind_eq_ok.mp h
  obtain ⟨hsource, h⟩ := ensure_bind_eq_ok.mp h
  obtain ⟨hsequence, h⟩ := ensure_bind_eq_ok.mp h
  obtain ⟨hmemo, h⟩ := ensure_bind_eq_ok.mp h
  obtain ⟨bounds, hbounds, h⟩ := bind_eq_ok.mp h
  obtain ⟨htime, h⟩ := ensure_bind_eq_ok.mp h
  obtain ⟨first, hfirst, h⟩ := bind_eq_ok.mp h
  obtain ⟨hfirstSource, h⟩ := ensure_bind_eq_ok.mp h
  obtain ⟨⟨dataName, dataValue⟩, hdata, h⟩ := bind_eq_ok.mp h
  obtain ⟨domain, hdomain, h⟩ := bind_eq_ok.mp h
  obtain ⟨name, hname, h⟩ := bind_eq_ok.mp h
  obtain ⟨hkey, h⟩ := ensure_bind_eq_ok.mp h
  obtain ⟨nonce, hnonce, h⟩ := bind_eq_ok.mp h
  obtain ⟨hlength, h⟩ := ensure_bind_eq_ok.mp h
  obtain ⟨host, hhost, h⟩ := bind_eq_ok.mp h
  obtain ⟨seen, hoperations, h⟩ := bind_eq_ok.mp h
  obtain ⟨hseen, h⟩ := ensure_bind_eq_ok.mp h
  obtain ⟨valid, hsigned, h⟩ := bind_eq_ok.mp h
  obtain ⟨hvalid, hresult⟩ := ensure_bind_eq_ok.mp h
  obtain ⟨signatures, rfl⟩ := challengeTransaction_eq_ok.mp htx
  obtain ⟨server, hserver, rfl⟩ := classicMuxedAccount_eq_ok.mp hserverAccount
  obtain ⟨client, hclient, rfl⟩ := classicMuxedAccount_eq_ok.mp hclientAccount
  obtain rfl : xdr = transactionXdr := Except.ok.inj hresult
  subst hvalid
  subst hseen
  have hrest := additionalOperations_eq_ok.mp hoperations
  have hbody := manageData_eq_ok.mp hdata
  -- the checks of the first operation leave only its nonce open
  have hentry : tx.operations = ⟨some (.ed25519 client),
      .manageData (Utf8.bytes s!"{domain} auth") (some nonce)⟩ :: tx.operations.tail := by
    rw [← hkey, xdrString64_eq_ok.mp hname, ← okOr_eq_ok.mp hnonce, ← hfirstSource, ← hbody]
    exact (List.cons_head?_tail (okOr_eq_ok.mp hfirst)).symm
  exact ⟨tx, signatures, server, client, domain, host, okOr_eq_ok.mp hxdr,
    parseTransactionXdr_eq_ok.mp henvelope, hserver, hclient, hdomain, hhost,
    { source := hsource
      sequence := hsequence
      memo := hmemo
      time := ⟨bounds, transactionTimeBounds_eq_ok.mp hbounds, timeBounds_in_order.mp htime⟩
      operations := ⟨nonce, tx.operations.tail, hlength, hentry, hrest.1, hrest.2⟩ },
    (hasValidTransactionSignature_eq_ok hserver).mp hsigned⟩

theorem ValidChallenge.verify (h : ValidChallenge p parse challengeXdr login now transactionXdr) :
    verifySep10Challenge p parse challengeXdr login now = .ok transactionXdr := by
  obtain ⟨tx, signatures, server, client, domain, host, hxdr, henvelope, hserver, hclient,
    hdomain, hhost, htx, hsigned⟩ := h
  obtain ⟨bounds, hbounds, htime⟩ := htx.time
  obtain ⟨nonce, rest, hlength, hoperations, hentries, hone⟩ := htx.operations
  have hname : xdrString64 (Utf8.bytes s!"{domain} auth") = .ok s!"{domain} auth" :=
    xdrString64_eq_ok.mpr rfl
  -- the decoding first, then the checks in their order
  rw [verifySep10Challenge, okOr_eq_ok.mpr hxdr, ok_bind, parseTransactionXdr_eq_ok.mpr henvelope,
    ok_bind, challengeTransaction_eq_ok.mpr ⟨signatures, rfl⟩, ok_bind,
    classicMuxedAccount_eq_ok.mpr ⟨server, hserver, rfl⟩, ok_bind,
    classicMuxedAccount_eq_ok.mpr ⟨client, hclient, rfl⟩, ok_bind]
  refine ensure_bind_eq_ok.mpr ⟨htx.source, ensure_bind_eq_ok.mpr ⟨htx.sequence,
    ensure_bind_eq_ok.mpr ⟨htx.memo, ?_⟩⟩⟩
  rw [transactionTimeBounds_eq_ok.mpr hbounds, ok_bind]
  refine ensure_bind_eq_ok.mpr ⟨timeBounds_in_order.mpr htime, ?_⟩
  rw [hoperations, List.head?_cons, List.tail_cons]
  refine ensure_bind_eq_ok.mpr ⟨rfl, ?_⟩
  simp only [manageData, hdomain, hname, ok_bind]
  refine ensure_bind_eq_ok.mpr ⟨trivial, ensure_bind_eq_ok.mpr ⟨hlength, ?_⟩⟩
  rw [hhost, ok_bind, additionalOperations_eq_ok.mpr ⟨hentries, hone⟩, ok_bind]
  refine ensure_bind_eq_ok.mpr ⟨rfl, ?_⟩
  rw [(hasValidTransactionSignature_eq_ok hserver).mpr hsigned, ok_bind]
  exact ensure_bind_eq_ok.mpr ⟨rfl, rfl⟩

/-- The checks accept the texts that hold a challenge for the login, signed by the server. -/
theorem verifySep10Challenge_eq_ok :
    verifySep10Challenge p parse challengeXdr login now = .ok transactionXdr ↔
      ValidChallenge p parse challengeXdr login now transactionXdr :=
  ⟨ValidChallenge.of_verify, ValidChallenge.verify⟩

/-! ### One login -/

/-- The two logins are of one account, at one endpoint host, for one home domain, with one
server. -/
structure SameLogin (strKey : StrKey) (parse : UrlParser) (login login' : Login) : Prop where
  clientAccount : login.clientAccount = login'.clientAccount
  serverSigningKey : login.serverSigningKey = login'.serverSigningKey
  homeDomain : canonicalHomeDomain parse login.homeDomain =
    canonicalHomeDomain parse login'.homeDomain
  webAuthDomain : webAuthDomain parse login.webAuthEndpoint =
    webAuthDomain parse login'.webAuthEndpoint

/-- Two keys print as one text when they are one key. -/
theorem publicKeyOf?_inj {strKey : StrKey} {address address' : String}
    (h : strKey.publicKeyOf? address = some key) (h' : strKey.publicKeyOf? address' = some key) :
    address = address' :=
  (strKey.publicKeyOf?_eq_some_iff.mp h).symm.trans (strKey.publicKeyOf?_eq_some_iff.mp h')

/-- A transaction is a challenge of one server to one client, for one pair of domains. -/
theorem ChallengeTransaction.inj {server' client' : Uint256} {domain' host' : String}
    (h : ChallengeTransaction server client domain host now tx)
    (h' : ChallengeTransaction server' client' domain' host' now' tx) :
    server = server' ∧ client = client' ∧ domain = domain' ∧ host = host' := by
  obtain ⟨nonce, rest, -, hoperations, -, hone⟩ := h.operations
  obtain ⟨nonce', rest', -, hoperations', -, hone'⟩ := h'.operations
  have hserver : server = server' := MuxedAccount.ed25519.inj (h.source.symm.trans h'.source)
  obtain ⟨hfirst, hrest⟩ := List.cons.inj (hoperations.symm.trans hoperations')
  obtain ⟨hsource, hbody⟩ := Operation.mk.inj hfirst
  obtain ⟨hname, -⟩ := OperationBody.manageData.inj hbody
  have hdomain : domain ++ " auth" = domain' ++ " auth" := Utf8.bytes_inj.mp hname
  subst hrest
  obtain ⟨-, hentry⟩ := Operation.mk.inj (List.cons.inj (hone.symm.trans hone')).1
  obtain ⟨-, hvalue⟩ := OperationBody.manageData.inj hentry
  exact ⟨hserver, MuxedAccount.ed25519.inj (Option.some.inj hsource),
    (String.append_left_inj _).mp hdomain, Utf8.bytes_inj.mp (Option.some.inj hvalue)⟩

/-- A text is a challenge for one login; for two networks it carries a signature for each. -/
theorem ValidChallenge.same_login
    (h : ValidChallenge p parse challengeXdr login now transactionXdr)
    (h' : ValidChallenge p parse challengeXdr login' now' transactionXdr') :
    SameLogin p.strKey parse login login' ∧
      ∃ tx signatures server, p.decode transactionXdr = some (.tx tx signatures) ∧
        p.strKey.publicKeyOf? login.serverSigningKey = some server ∧
        SignedFor p login.network server tx signatures ∧
        SignedFor p login'.network server tx signatures := by
  obtain ⟨tx, signatures, server, client, domain, host, hxdr, henvelope, hserver, hclient,
    hdomain, hhost, htx, hsigned⟩ := h
  obtain ⟨tx', signatures', server', client', domain', host', hxdr', henvelope', hserver',
    hclient', hdomain', hhost', htx', hsigned'⟩ := h'
  obtain rfl : transactionXdr = transactionXdr' := Option.some.inj (hxdr.symm.trans hxdr')
  obtain ⟨rfl, rfl⟩ :=
    TransactionEnvelope.tx.inj (Option.some.inj (henvelope.symm.trans henvelope'))
  obtain ⟨rfl, rfl, rfl, rfl⟩ := htx.inj htx'
  exact ⟨⟨publicKeyOf?_inj hclient hclient', publicKeyOf?_inj hserver hserver',
    hdomain.trans hdomain'.symm, hhost.trans hhost'.symm⟩,
    tx, signatures, server, henvelope, hserver, hsigned, hsigned'⟩

/-- The networks have one hash for the transaction only when they are one network. -/
def SeparateHashes (p : Primitives (List UInt8) Digest) (network network' : String)
    (tx : Transaction) : Prop :=
  ∀ passphrase passphrase' hash, networkPassphrase network = .ok passphrase →
    networkPassphrase network' = .ok passphrase' → p.hash passphrase (.tx tx) = some hash →
    p.hash passphrase' (.tx tx) = some hash → network = network'

theorem networkPassphrase_eq_ok {passphrase : String} :
    networkPassphrase network = .ok passphrase ↔
      network = "mainnet" ∧ passphrase = "Public Global Stellar Network ; September 2015" ∨
        network = "testnet" ∧ passphrase = "Test SDF Network ; September 2015" := by
  unfold networkPassphrase
  split
  · simp [eq_comm]
  · simp [eq_comm]
  · simp_all

theorem separateHashes (p : Primitives (List UInt8) Digest) (network network' : String)
    (tx : Transaction) : SeparateHashes p network network' tx := by
  intro passphrase passphrase' hash hpassphrase hpassphrase' hhash hhash'
  obtain ⟨rfl, -⟩ := p.hash_injective hhash hhash'
  rcases networkPassphrase_eq_ok.mp hpassphrase with ⟨hname, hphrase⟩ | ⟨hname, hphrase⟩ <;>
    rcases networkPassphrase_eq_ok.mp hpassphrase' with ⟨hname', hphrase'⟩ | ⟨hname', hphrase'⟩
  · exact hname.trans hname'.symm
  · exact absurd (hphrase.symm.trans hphrase') (by decide)
  · exact absurd (hphrase.symm.trans hphrase') (by decide)
  · exact hname.trans hname'.symm

/-- The checks accept the signed challenges for the login, and a text is accepted for one login.
For two networks it is accepted only with a signature over the hash of each. -/
theorem verifySep10Challenge_accepts_and_binds (p : Primitives (List UInt8) Digest)
    (parse : UrlParser) (challengeXdr : String) (login login' : Login) (now now' : U64)
    (transactionXdr transactionXdr' : List UInt8) :
    (verifySep10Challenge p parse challengeXdr login now = .ok transactionXdr ↔
      ValidChallenge p parse challengeXdr login now transactionXdr) ∧
    (verifySep10Challenge p parse challengeXdr login now = .ok transactionXdr →
      verifySep10Challenge p parse challengeXdr login' now' = .ok transactionXdr' →
      SameLogin p.strKey parse login login' ∧
        ∃ tx signatures server, p.decode transactionXdr = some (.tx tx signatures) ∧
          p.strKey.publicKeyOf? login.serverSigningKey = some server ∧
          SignedFor p login.network server tx signatures ∧
          SignedFor p login'.network server tx signatures ∧
          SeparateHashes p login.network login'.network tx) := by
  refine ⟨verifySep10Challenge_eq_ok, ?_⟩
  intro h h'
  obtain ⟨hsame, tx, signatures, server, henvelope, hserver, hsigned, hsigned'⟩ :=
    (ValidChallenge.of_verify h).same_login (ValidChallenge.of_verify h')
  exact ⟨hsame, tx, signatures, server, henvelope, hserver, hsigned, hsigned',
    separateHashes p login.network login'.network tx⟩

/-! ### A challenge for two networks -/

def exampleServer : Uint256 := Vector.replicate 32 1

def exampleClient : Uint256 := Vector.replicate 32 2

def examplePassphrases : List String :=
  ["Test SDF Network ; September 2015", "Public Global Stellar Network ; September 2015"]

def exampleChallenge : Transaction where
  sourceAccount := .ed25519 exampleServer
  fee := BoundedInt.lit 100
  seqNum := BoundedInt.lit 0
  cond := .time ⟨BoundedInt.lit 1000, BoundedInt.lit 1300⟩
  memo := .none
  operations :=
    [⟨some (.ed25519 exampleClient), .manageData (Utf8.bytes "anchor.example auth")
      (some (List.replicate 64 7))⟩,
     webAuthOperation exampleServer "auth.anchor.example"]
  ext := .v0

/-- The bytes that a hash of the examples prints as, before the key that signs them. -/
def exampleDigest (digest : String × TaggedTransaction) : List UInt8 :=
  (Utf8.bytes digest.1).take 32

/-- The server's signature over the challenge, for a network. -/
def exampleSignature (passphrase : String) : DecoratedSignature :=
  ⟨signatureHint exampleServer.toList,
    exampleServer.toList ++ exampleDigest (passphrase, .tx exampleChallenge)⟩

/-- The challenge, signed for both networks. -/
def exampleEnvelope : TransactionEnvelope :=
  .tx exampleChallenge (examplePassphrases.map exampleSignature)

def exampleEncode (envelope : TransactionEnvelope) : Option (List UInt8) :=
  if envelope = exampleEnvelope then some [1] else none

def exampleDecode (bytes : List UInt8) : Option TransactionEnvelope :=
  if bytes = [1] then some exampleEnvelope else none

theorem exampleEncode_eq_some :
    exampleEncode envelope = some bytes ↔ envelope = exampleEnvelope ∧ [1] = bytes := by
  rw [exampleEncode, Option.ite_none_right_eq_some, Option.some.injEq]

theorem exampleDecode_eq_some :
    exampleDecode bytes = some envelope ↔ bytes = [1] ∧ exampleEnvelope = envelope := by
  rw [exampleDecode, Option.ite_none_right_eq_some, Option.some.injEq]

theorem exampleEncode_injective {envelope' : TransactionEnvelope}
    (h : exampleEncode envelope = some bytes) (h' : exampleEncode envelope' = some bytes) :
    envelope = envelope' :=
  (exampleEncode_eq_some.mp h).1.trans (exampleEncode_eq_some.mp h').1.symm

theorem exampleEncode_of_decode (h : exampleDecode bytes = some envelope) :
    exampleEncode envelope = some bytes :=
  exampleEncode_eq_some.mpr ⟨(exampleDecode_eq_some.mp h).2.symm,
    (exampleDecode_eq_some.mp h).1.symm⟩

/-- The hash of the examples is what is hashed. -/
def exampleHash (networkPassphrase : String) (body : TaggedTransaction) :
    Option (String × TaggedTransaction) :=
  some (networkPassphrase, body)

theorem exampleHash_injective {passphrase passphrase' : String} {body body' : TaggedTransaction}
    {hash : String × TaggedTransaction} (h : exampleHash passphrase body = some hash)
    (h' : exampleHash passphrase' body' = some hash) : passphrase = passphrase' ∧ body = body' :=
  Prod.mk.inj (Option.some_inj.mp (h.trans h'.symm))

/-- Primitives that know one encoding, of the challenge. A key signs by standing in front of what
is signed. -/
def examplePrimitives : Primitives (List UInt8) (String × TaggedTransaction) where
  strKey := Sep23.strKey
  encode := exampleEncode
  decode := exampleDecode
  hash := exampleHash
  digestBytes := exampleDigest
  sha256 _ := Vector.replicate 32 0
  isVerifyingKey _ := true
  verifyStrict key message signature := signature = key.toList ++ message
  encode_injective := exampleEncode_injective
  decode_canonical := exampleEncode_of_decode
  hash_injective := exampleHash_injective

def exampleChallengeUrl : UrlParser := fun text =>
  if text = "https://anchor.example/" then
    some ⟨"https", "", none, some (.domain "anchor.example"), none, "/", none, none⟩
  else if text = "https://auth.anchor.example/sep10" then
    some ⟨"https", "", none, some (.domain "auth.anchor.example"), none, "/sep10", none, none⟩
  else none

def exampleLogin (network : String) : Login where
  network := network
  clientAccount := Sep23.strKey.publicKey exampleClient
  serverSigningKey := Sep23.strKey.publicKey exampleServer
  homeDomain := "anchor.example."
  webAuthEndpoint := "https://auth.anchor.example/sep10"

def exampleVerify (network : String) : Except String (List UInt8) :=
  verifySep10Challenge examplePrimitives exampleChallengeUrl "AQ==" (exampleLogin network)
    (BoundedInt.lit 1100)

/-- The example is a challenge for the server on each of its networks. -/
theorem exampleChallengeTransaction : ChallengeTransaction exampleServer exampleClient
    "anchor.example" "auth.anchor.example" (BoundedInt.lit 1100) exampleChallenge where
  source := rfl
  sequence := by decide
  memo := rfl
  time := ⟨_, Or.inl rfl, by decide, by decide, by decide, by decide⟩
  operations := by
    refine ⟨_, _, List.length_replicate, rfl, ?_, ?_⟩
    · intro operation hmem
      obtain rfl := List.mem_singleton.mp hmem
      exact ⟨"web_auth_domain", some (Utf8.bytes "auth.anchor.example"), by decide, rfl⟩
    · rw [List.filter_cons_of_pos namesWebAuthDomain_webAuthOperation]
      rfl

theorem exampleSignature_verifies (passphrase : String) (h : passphrase ∈ examplePassphrases) :
    (exampleSignature passphrase).verifies examplePrimitives (signatureHint exampleServer.toList)
      exampleServer (exampleDigest (passphrase, .tx exampleChallenge)) = true := by
  simp only [examplePassphrases, List.mem_cons, List.not_mem_nil, or_false] at h
  rcases h with rfl | rfl
  · decide +kernel
  · decide +kernel

theorem exampleVerify_eq_ok {network passphrase : String}
    (hnetwork : networkPassphrase network = .ok passphrase)
    (h : passphrase ∈ examplePassphrases) : exampleVerify network = .ok [1] := by
  have hdomain : canonicalHomeDomain exampleChallengeUrl "anchor.example." =
      .ok "anchor.example" := by decide +kernel
  have hhost : webAuthDomain exampleChallengeUrl "https://auth.anchor.example/sep10" =
      .ok "auth.anchor.example" := by decide +kernel
  apply ValidChallenge.verify
  exact ⟨exampleChallenge, examplePassphrases.map exampleSignature, exampleServer, exampleClient,
    "anchor.example", "auth.anchor.example", by decide +kernel, rfl,
    Sep23.strKey.publicKeyOf?_eq_some_iff.mpr rfl, Sep23.strKey.publicKeyOf?_eq_some_iff.mpr rfl,
    hdomain, hhost, exampleChallengeTransaction,
    passphrase, (passphrase, .tx exampleChallenge), exampleSignature passphrase, hnetwork, rfl,
    rfl, List.mem_map_of_mem h, exampleSignature_verifies passphrase h⟩

theorem exampleVerify_networks :
    exampleVerify "testnet" = .ok [1] ∧ exampleVerify "mainnet" = .ok [1] :=
  ⟨exampleVerify_eq_ok rfl List.mem_cons_self,
    exampleVerify_eq_ok rfl (List.mem_cons_of_mem _ List.mem_cons_self)⟩

/-- The example is a challenge, and for one login on either network. -/
theorem exampleChallenge_accepts_and_binds :
    ValidChallenge examplePrimitives exampleChallengeUrl "AQ==" (exampleLogin "testnet")
      (BoundedInt.lit 1100) [1] ∧
    SameLogin Sep23.strKey exampleChallengeUrl (exampleLogin "testnet")
      (exampleLogin "mainnet") := by
  have h := verifySep10Challenge_accepts_and_binds examplePrimitives exampleChallengeUrl "AQ=="
    (exampleLogin "testnet") (exampleLogin "mainnet") (BoundedInt.lit 1100) (BoundedInt.lit 1100)
    [1] [1]
  exact ⟨h.1.mp exampleVerify_networks.1,
    (h.2 exampleVerify_networks.1 exampleVerify_networks.2).1⟩

/-- A server that signs a challenge for two networks has it accepted for both. -/
theorem challenge_accepted_for_two_networks :
    ¬ ∀ challengeXdr login login' now now' transactionXdr transactionXdr',
      verifySep10Challenge examplePrimitives exampleChallengeUrl challengeXdr login now =
        .ok transactionXdr →
      verifySep10Challenge examplePrimitives exampleChallengeUrl challengeXdr login' now' =
        .ok transactionXdr' →
      login.network = login'.network := by
  intro h
  exact absurd (h "AQ==" (exampleLogin "testnet") (exampleLogin "mainnet") _ _ _ _
    exampleVerify_networks.1 exampleVerify_networks.2) (by decide)

end Anchor

end Fresnica
