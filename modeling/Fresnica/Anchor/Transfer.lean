import Fresnica.Anchor.Http
import Fresnica.Foundation.Ordered
import Fresnica.Foundation.Params

/-!
# Anchor transfers

A transfer is requested at the endpoint the anchor advertises: as the query of a URL, or as
an interactive form. The request names the asset and the account, and then come the fields
the user filled in, with one more where the anchor advertises exactly one way to fund the
transfer. All of these are put one behind the other, and nothing compares their names.

So the request is bound to its asset and account when no field has one of their names, and,
in a query, when the endpoint that the anchor advertises has no parameters of these names
itself.

## Main definitions

* `sep6RequestFields`, `sep6RequestUrl`, `startAnchorSep6Transfer` — the query
* `sep24Form`, `startAnchorSep24Transfer` — the form
* `Sep6Apart`, `Sep24Apart` — no two parameters of the request have one name

## Main results

* `sep6RequestFields_names` — the names of the fields that are sent
* `transfer_requests_bound_iff` — when a request is bound
* `startAnchorSep6Transfer_ok`, `startAnchorSep24Transfer_ok` — what is started by a request
-/

namespace Fresnica

open Foundation

namespace Anchor

inductive AnchorTransferKind
  | deposit
  | withdraw
  deriving DecidableEq, Repr

def AnchorTransferKind.endpoint : AnchorTransferKind → String
  | .deposit => "deposit"
  | .withdraw => "withdraw"

structure AnchorAsset where
  code : String
  issuer : String
  deriving DecidableEq, Repr

/-- The fields of a transfer, by name. -/
abbrev TransferFields := BTreeMap String String

/-! ### What the anchor advertises -/

def sep6Info (capabilities : AnchorCapabilities) : AnchorTransferKind → Json
  | .deposit => capabilities.sep6DepositInfo
  | .withdraw => capabilities.sep6WithdrawInfo

def anchorSep6RequiresAuth (capabilities : AnchorCapabilities) (kind : AnchorTransferKind) : Bool :=
  (((sep6Info capabilities kind).get? "authentication_required").bind Json.asBool?).getD false

/-- The texts without blanks around them, but for those that have nothing else. -/
def trimmedTexts (texts : List String) : List String := (texts.map Text.trim).filter (· ≠ "")

/-- The funding methods, if they are advertised. -/
def fundingMethods (capabilities : AnchorCapabilities) (kind : AnchorTransferKind) :
    Option (List String) :=
  (((sep6Info capabilities kind).get? "funding_methods").bind Json.asArray?).map
    fun methods => trimmedTexts (methods.filterMap Json.asStr?)

/-- The types that older anchors advertise instead. -/
def legacyTypes (capabilities : AnchorCapabilities) (kind : AnchorTransferKind) : List String :=
  match kind with
  | .deposit =>
    (do
      let fields ← (sep6Info capabilities kind).get? "fields"
      let field ← fields.get? "type"
      let choices ← field.get? "choices"
      let choices ← choices.asArray?
      return trimmedTexts (choices.filterMap Json.asStr?)).getD []
  | .withdraw =>
    (do
      let types ← (sep6Info capabilities kind).get? "types"
      let types ← types.asObject?
      return trimmedTexts (types.map Prod.fst)).getD []

/-! ### The query of a SEP-6 transfer -/

def sep6RequestFields (capabilities : AnchorCapabilities) (kind : AnchorTransferKind)
    (fields : TransferFields) : Except String TransferFields :=
  if "funding_method" ∈ fields then .ok fields
  else match fundingMethods capabilities kind with
  | some [method] => .ok (fields.insert "funding_method" method)
  | some [] => .ok fields
  | some (_ :: _ :: _) => .error
    (s!"SEP-6 {kind.endpoint} requires an explicit funding_method because multiple methods " ++
      "are advertised")
  -- an anchor that advertises no methods may still advertise types
  | none =>
    if "type" ∈ fields then .ok fields
    else match legacyTypes capabilities kind with
    | [legacyType] => .ok (fields.insert "type" legacyType)
    | [] => .ok fields
    | _ :: _ :: _ => .error
      (s!"SEP-6 {kind.endpoint} requires an explicit type because multiple legacy types " ++
        "are advertised")

/-- The answer of an endpoint to a request, a status and a value, or why there is none. -/
structure AnchorTransport where
  urlText : Url → String
  get : (url : Url) → (token : Option String) → Except String (ℕ × Json)
  post : (endpoint authorization : String) → (form : List (String × String)) →
    Except String (ℕ × Json)

/-- The URL without its query and fragment. -/
def AnchorTransport.endpointLabel (transport : AnchorTransport) (url : Url) : String :=
  transport.urlText { url with query := none, fragment := none }

def anchorHttpError (protocol endpoint : String) (status : ℕ) (value : Json) : String :=
  let error := (value.get? "error").bind Json.asStr?
  let message := (value.get? "message").bind Json.asStr?
  match ((error.or message).map Text.trim).filter (· ≠ "") with
  | some detail => s!"{protocol} endpoint {endpoint} returned HTTP {status}: {detail}"
  | none => s!"{protocol} endpoint {endpoint} returned HTTP {status}"

section Definitions

variable (parse : UrlParser) (transport : AnchorTransport)
variable (account : String) (asset : AnchorAsset) (capabilities : AnchorCapabilities)
variable (kind : AnchorTransferKind) (fields : TransferFields)

/-- The endpoint as it is advertised, without the parameters of the request. -/
def sep6Endpoint (base : String) : Except String Url := do
  let base := trimEndMatches '/' base
  let url ← okOr (parse s!"{base}/{kind.endpoint}") s!"SEP-6 {kind.endpoint} endpoint is invalid"
  validateAnchorHttpsUrl url "SEP-6 endpoint"
  return url

def sep6RequestUrl (base : String) : Except String Url := do
  let url ← sep6Endpoint parse kind base
  let url := (url.appendPair "asset_code" asset.code).appendPair "account" account
  return fields.toList.foldl (fun url field => url.appendPair field.1 field.2) url

/-- The request that is sent: its URL, and the token that goes with it. -/
def sep6Request (token : Option String) : Except String (Url × Option String) := do
  let base ← okOr capabilities.sep6Url s!"SEP-6 {kind.endpoint} is not available"
  let token := token.filter (Text.trim · ≠ "")
  ensure (¬ (anchorSep6RequiresAuth capabilities kind = true ∧ token.isNone = true))
    s!"SEP-6 {kind.endpoint} requires SEP-10 authentication"
  let fields ← sep6RequestFields capabilities kind fields
  let url ← sep6RequestUrl parse account asset kind fields base
  return (url, token)

def startAnchorSep6Transfer (token : Option String) : Except String Json := do
  let (url, token) ← sep6Request parse account asset capabilities kind fields token
  let endpoint := transport.endpointLabel url
  let (status, value) ← transport.get url token
  ensure (200 ≤ status ∧ status < 300 ∨ status = 403)
    (anchorHttpError "SEP-6" endpoint status value)
  ensure (value.isObject = true) s!"Anchor SEP-6 response from {endpoint} is malformed"
  return value

/-! ### The form of a SEP-24 transfer -/

structure AnchorSep24InteractiveResult where
  url : String
  transactionId : String
  deriving DecidableEq, Repr

def sep24Form : List (String × String) :=
  [("asset_code", asset.code), ("asset_issuer", asset.issuer), ("account", account)] ++
    fields.toList

/-- What is posted: the endpoint, the authorization and the form. -/
structure Sep24Request where
  endpoint : String
  authorization : String
  form : List (String × String)
  deriving DecidableEq, Repr

def sep24Request (token : String) : Except String Sep24Request := do
  ensure (Text.trim token ≠ "") "SEP-24 requires a non-empty SEP-10 token"
  let base ← okOr capabilities.sep24Url s!"SEP-24 {kind.endpoint} is not available"
  let base := trimEndMatches '/' base
  let endpoint := s!"{base}/transactions/{kind.endpoint}/interactive"
  let url ← okOr (parse endpoint) s!"SEP-24 {kind.endpoint} endpoint is invalid"
  validateAnchorHttpsUrl url "SEP-24 endpoint"
  return ⟨endpoint, s!"Bearer {token}", sep24Form account asset fields⟩

/-- A text of the value, trimmed, if it has more than blanks. -/
def trimmedText? (value : Json) (key : String) : Option String :=
  (((value.get? key).bind Json.asStr?).map Text.trim).filter (· ≠ "")

def parseSep24InteractiveResponse (value : Json) :
    Except String AnchorSep24InteractiveResult := do
  let responseType := ((value.get? "type").bind Json.asStr?).getD ""
  ensure (responseType = "interactive_customer_info_needed")
    "Anchor returned an invalid SEP-24 interactive response type"
  let url ← okOr (trimmedText? value "url") "Anchor SEP-24 interactive response has no URL"
  let parsed ← okOr (parse url) "Anchor SEP-24 interactive response URL is invalid"
  ensure (parsed.scheme = "https" ∧ parsed.hostStr.isSome = true ∧ parsed.username = "" ∧
      parsed.password = none)
    "Anchor SEP-24 interactive response URL must be HTTPS without embedded credentials"
  let transactionId ← okOr (trimmedText? value "id")
    "Anchor SEP-24 interactive response has no transaction id"
  return { url, transactionId }

def startAnchorSep24Transfer (token : String) : Except String AnchorSep24InteractiveResult := do
  let request ← sep24Request parse account asset capabilities kind fields token
  let (status, value) ← transport.post request.endpoint request.authorization request.form
  ensure (200 ≤ status ∧ status < 300) (anchorHttpError "SEP-24" request.endpoint status value)
  parseSep24InteractiveResponse parse value

/-! ### Bound requests -/

/-- The parameters every query begins with. -/
def sep6Fixed : List (String × String) := [("asset_code", asset.code), ("account", account)]

def sep24Fixed : List (String × String) :=
  [("asset_code", asset.code), ("asset_issuer", asset.issuer), ("account", account)]

/-- The capabilities add a field of this name to those of the user. -/
def AddsField (name : String) : Prop :=
  "funding_method" ∉ fields ∧
    (name = "funding_method" ∧ (∃ method, fundingMethods capabilities kind = some [method]) ∨
      name = "type" ∧ "type" ∉ fields ∧ fundingMethods capabilities kind = none ∧
        ∃ legacyType, legacyTypes capabilities kind = [legacyType])

/-- No field is named like the asset or the account, and the endpoint that is advertised
has no parameter named like them, or like a field. -/
structure Sep6Apart : Prop where
  fields_apart : "asset_code" ∉ fields ∧ "account" ∉ fields
  endpoint_apart : ∀ base url, capabilities.sep6Url = some base →
    sep6Endpoint parse kind base = .ok url → ∀ name ∈ Params.names url.queryPairs,
      name ≠ "asset_code" ∧ name ≠ "account" ∧ name ∉ fields ∧
        ¬ AddsField capabilities kind fields name

/-- No field is named like the asset, its issuer or the account. -/
def Sep24Apart : Prop :=
  "asset_code" ∉ fields ∧ "asset_issuer" ∉ fields ∧ "account" ∉ fields

end Definitions

variable {parse : UrlParser} {account : String} {asset : AnchorAsset} {url : Url}
variable {capabilities : AnchorCapabilities} {kind : AnchorTransferKind}
variable {fields sent : TransferFields} {token : Option String} {base name : String}

/-! ### The fields that are sent -/

theorem names_toList (fields : TransferFields) : Params.names fields.toList = fields.keys :=
  Std.ExtTreeMap.map_fst_toList_eq_keys

theorem nodup_names_toList (fields : TransferFields) : (Params.names fields.toList).Nodup := by
  rw [names_toList]
  exact Std.ExtTreeMap.nodup_keys

theorem mem_names_toList : name ∈ Params.names fields.toList ↔ name ∈ fields := by
  rw [names_toList, Std.ExtTreeMap.mem_keys]

theorem mem_insert_iff {key value : String} :
    name ∈ fields.insert key value ↔ name ∈ fields ∨ name = key := by
  rw [Std.ExtTreeMap.mem_insert, Std.LawfulEqCmp.compare_eq_iff_eq, or_comm, eq_comm]

/-- The fields that are sent are those of the user, and the one that is added. -/
theorem sep6RequestFields_names (h : sep6RequestFields capabilities kind fields = .ok sent) :
    name ∈ sent ↔ name ∈ fields ∨ AddsField capabilities kind fields name := by
  unfold sep6RequestFields at h
  -- a method that is given is kept, and otherwise the only one that is offered is added
  by_cases hmethod : "funding_method" ∈ fields
  · rw [if_pos hmethod] at h
    obtain rfl := Except.ok.inj h
    simp [AddsField, hmethod]
  rw [if_neg hmethod] at h
  cases hmethods : fundingMethods capabilities kind with
  | some methods =>
    rw [hmethods] at h
    cases methods with
    | nil =>
      obtain rfl := Except.ok.inj h
      simp [AddsField, hmethods]
    | cons method methods =>
      cases methods with
      | nil =>
        obtain rfl := Except.ok.inj h
        rw [mem_insert_iff]
        simp [AddsField, hmethods, hmethod]
      | cons second methods => cases h
  | none =>
    rw [hmethods] at h
    -- an anchor without methods may name types instead, which are treated alike
    by_cases htype : "type" ∈ fields
    · rw [if_pos htype] at h
      obtain rfl := Except.ok.inj h
      simp [AddsField, hmethods, htype]
    rw [if_neg htype] at h
    cases htypes : legacyTypes capabilities kind with
    | nil =>
      rw [htypes] at h
      obtain rfl := Except.ok.inj h
      simp [AddsField, hmethods, htypes]
    | cons legacyType types =>
      rw [htypes] at h
      cases types with
      | nil =>
        obtain rfl := Except.ok.inj h
        rw [mem_insert_iff]
        simp [AddsField, hmethods, hmethod, htype, htypes]
      | cons second types => cases h

/-- The parameters of the request: the endpoint's own, the fixed ones, and the fields. -/
theorem queryPairs_sep6RequestUrl
    (h : sep6RequestUrl parse account asset kind sent base = .ok url) :
    ∃ endpoint, sep6Endpoint parse kind base = .ok endpoint ∧
      url.queryPairs = endpoint.queryPairs ++ (sep6Fixed account asset ++ sent.toList) := by
  obtain ⟨endpoint, hendpoint, h⟩ := bind_eq_ok.mp h
  obtain rfl := Except.ok.inj h
  refine ⟨endpoint, hendpoint, ?_⟩
  rw [Url.queryPairs_foldl_appendPair, Url.queryPairs_appendPair, Url.queryPairs_appendPair]
  simp [sep6Fixed]

theorem sep6Request_ok {tokenSent : Option String}
    (h : sep6Request parse account asset capabilities kind fields token = .ok (url, tokenSent)) :
    ∃ base sent, capabilities.sep6Url = some base ∧
      sep6RequestFields capabilities kind fields = .ok sent ∧
      sep6RequestUrl parse account asset kind sent base = .ok url := by
  simp only [sep6Request, bind_eq_ok, okOr_eq_ok, pure_eq_ok, Except.ok.injEq,
    Prod.mk.injEq] at h
  obtain ⟨base, hbase, _, -, sent, hsent, sentUrl, hurl, rfl, -⟩ := h
  exact ⟨base, sent, hbase, hsent, hurl⟩

/-! ### When a request is bound -/

theorem apart_toList_iff {before fixed : List (String × String)} :
    Params.Apart before fixed sent.toList ↔
      (∀ name ∈ Params.names fixed, name ∉ sent) ∧
        ∀ name ∈ Params.names before, name ∉ Params.names fixed ∧ name ∉ sent := by
  constructor
  · intro h
    constructor
    · intro name hname hmem
      exact h.reserved name (mem_names_toList.mpr hmem) hname
    · intro name hname
      exact ⟨h.before_fixed name hname, fun hmem =>
        h.before_entries name hname (mem_names_toList.mpr hmem)⟩
  · intro h
    refine ⟨?_, fun name hname => (h.2 name hname).1, ?_⟩
    · intro name hmem hname
      exact h.1 name hname (mem_names_toList.mp hmem)
    · intro name hname hmem
      exact (h.2 name hname).2 (mem_names_toList.mp hmem)

theorem sep6_binds_iff
    (hbase : capabilities.sep6Url = some base)
    (hsent : sep6RequestFields capabilities kind fields = .ok sent)
    (hurl : sep6RequestUrl parse account asset kind sent base = .ok url) :
    Params.Binds url.queryPairs (sep6Fixed account asset) sent.toList ↔
      Sep6Apart parse capabilities kind fields := by
  obtain ⟨endpoint, hendpoint, hpairs⟩ := queryPairs_sep6RequestUrl hurl
  -- the fixed pairs have two names, which no added field has
  have hfixed : (Params.names (sep6Fixed account asset)).Nodup := by
    simp [Params.names, sep6Fixed]
  have hcode : ¬ AddsField capabilities kind fields "asset_code" := by simp [AddsField]
  have haccount : ¬ AddsField capabilities kind fields "account" := by simp [AddsField]
  rw [hpairs, Params.binds_iff _ hfixed (nodup_names_toList sent), apart_toList_iff]
  simp only [sep6RequestFields_names hsent, not_or]
  constructor
  · intro h
    refine ⟨⟨(h.1 _ (by simp [Params.names, sep6Fixed])).1,
      (h.1 _ (by simp [Params.names, sep6Fixed])).1⟩, ?_⟩
    intro base' endpoint' hbase' hendpoint' name hname
    obtain rfl := Option.some.inj (hbase.symm.trans hbase')
    obtain rfl := Except.ok.inj (hendpoint.symm.trans hendpoint')
    obtain ⟨hother, hfree⟩ := h.2 name hname
    simp only [Params.names, sep6Fixed, List.map_cons, List.map_nil, List.mem_cons,
      List.not_mem_nil, or_false, not_or] at hother
    exact ⟨hother.1, hother.2, hfree⟩
  · intro h
    constructor
    · intro name hname
      simp only [Params.names, sep6Fixed, List.map_cons, List.map_nil, List.mem_cons,
        List.not_mem_nil, or_false] at hname
      rcases hname with rfl | rfl
      · exact ⟨h.fields_apart.1, hcode⟩
      · exact ⟨h.fields_apart.2, haccount⟩
    · intro name hname
      obtain ⟨hnotCode, hnotAccount, hfree⟩ :=
        h.endpoint_apart base endpoint hbase hendpoint name hname
      exact ⟨by simp [Params.names, sep6Fixed, hnotCode, hnotAccount], hfree⟩

theorem sep24_binds_iff :
    Params.Binds (sep24Form account asset fields) (sep24Fixed account asset) fields.toList ↔
      Sep24Apart fields := by
  have hfixed : (Params.names (sep24Fixed account asset)).Nodup := by
    simp [Params.names, sep24Fixed]
  have hbinds := Params.binds_iff [] hfixed (nodup_names_toList fields)
  rw [List.nil_append] at hbinds
  rw [sep24Form, ← sep24Fixed, hbinds, apart_toList_iff]
  simp [Params.names, sep24Fixed, Sep24Apart]

theorem sep6Request_binds_iff {tokenSent : Option String}
    (h : sep6Request parse account asset capabilities kind fields token = .ok (url, tokenSent))
    (hsent : sep6RequestFields capabilities kind fields = .ok sent) :
    Params.Binds url.queryPairs (sep6Fixed account asset) sent.toList ↔
      Sep6Apart parse capabilities kind fields := by
  obtain ⟨base, sent', hbase, hsent', hurl⟩ := sep6Request_ok h
  obtain rfl := Except.ok.inj (hsent.symm.trans hsent')
  exact sep6_binds_iff hbase hsent hurl

theorem sep24Request_binds_iff {token : String} {request : Sep24Request}
    (h : sep24Request parse account asset capabilities kind fields token = .ok request) :
    Params.Binds request.form (sep24Fixed account asset) fields.toList ↔ Sep24Apart fields := by
  simp only [sep24Request, bind_eq_ok, pure_eq_ok, Except.ok.injEq] at h
  obtain ⟨_, -, base, -, endpoint, -, _, -, rfl⟩ := h
  exact sep24_binds_iff

/-- A request that is sent is bound to its account and asset, and carries every field
once, exactly when no two of its parameters have one name. -/
theorem transfer_requests_bound_iff (parse : UrlParser) (account : String) (asset : AnchorAsset)
    (capabilities : AnchorCapabilities) (kind : AnchorTransferKind) (fields : TransferFields) :
    (∀ token url tokenSent sent,
      sep6Request parse account asset capabilities kind fields token = .ok (url, tokenSent) →
      sep6RequestFields capabilities kind fields = .ok sent →
      (Params.Binds url.queryPairs (sep6Fixed account asset) sent.toList ↔
        Sep6Apart parse capabilities kind fields)) ∧
    ∀ token request,
      sep24Request parse account asset capabilities kind fields token = .ok request →
      (Params.Binds request.form (sep24Fixed account asset) fields.toList ↔
        Sep24Apart fields) := by
  constructor
  · intro token url tokenSent sent hrequest hsent
    exact sep6Request_binds_iff hrequest hsent
  · intro token request hrequest
    exact sep24Request_binds_iff hrequest

/-! ### Transfers that are started -/

/-- The value that is returned is an object, and the anchor's answer to a request that is bound
under the same condition. -/
theorem startAnchorSep6Transfer_ok {transport : AnchorTransport} {value : Json}
    (h : startAnchorSep6Transfer parse transport account asset capabilities kind fields token =
      .ok value) :
    ∃ url tokenSent status sent,
      sep6Request parse account asset capabilities kind fields token = .ok (url, tokenSent) ∧
      transport.get url tokenSent = .ok (status, value) ∧ value.isObject = true ∧
      sep6RequestFields capabilities kind fields = .ok sent ∧
      (Params.Binds url.queryPairs (sep6Fixed account asset) sent.toList ↔
        Sep6Apart parse capabilities kind fields) := by
  obtain ⟨⟨url, tokenSent⟩, hrequest, h⟩ := bind_eq_ok.mp h
  obtain ⟨⟨status, answer⟩, hanswer, h⟩ := bind_eq_ok.mp h
  obtain ⟨-, h⟩ := ensure_bind_eq_ok.mp h
  obtain ⟨hobject, h⟩ := ensure_bind_eq_ok.mp h
  obtain rfl := Except.ok.inj h
  obtain ⟨-, sent, -, hsent, -⟩ := sep6Request_ok hrequest
  exact ⟨url, tokenSent, status, sent, hrequest, hanswer, hobject, hsent,
    sep6Request_binds_iff hrequest hsent⟩

/-- The result is read from the anchor's answer to a form that is posted with the token, and
bound under the same condition. -/
theorem startAnchorSep24Transfer_ok {transport : AnchorTransport} {token : String}
    {result : AnchorSep24InteractiveResult}
    (h : startAnchorSep24Transfer parse transport account asset capabilities kind fields token =
      .ok result) :
    ∃ request status value,
      sep24Request parse account asset capabilities kind fields token = .ok request ∧
      transport.post request.endpoint request.authorization request.form = .ok (status, value) ∧
      parseSep24InteractiveResponse parse value = .ok result ∧
      (Params.Binds request.form (sep24Fixed account asset) fields.toList ↔
        Sep24Apart fields) := by
  obtain ⟨request, hrequest, h⟩ := bind_eq_ok.mp h
  obtain ⟨⟨status, value⟩, hanswer, h⟩ := bind_eq_ok.mp h
  obtain ⟨-, h⟩ := ensure_bind_eq_ok.mp h
  exact ⟨request, status, value, hrequest, hanswer, h, sep24Request_binds_iff hrequest⟩

/-- A transfer whose request is refused fails alike, whatever the anchor would answer. -/
theorem startAnchorSep6Transfer_refused {transport : AnchorTransport} {e : String}
    (h : sep6Request parse account asset capabilities kind fields token = .error e) :
    startAnchorSep6Transfer parse transport account asset capabilities kind fields token =
      .error e := by
  rw [startAnchorSep6Transfer, h, error_bind]

theorem startAnchorSep24Transfer_refused {transport : AnchorTransport} {token e : String}
    (h : sep24Request parse account asset capabilities kind fields token = .error e) :
    startAnchorSep24Transfer parse transport account asset capabilities kind fields token =
      .error e := by
  rw [startAnchorSep24Transfer, h, error_bind]

/-! ### A field that is named like the account -/

def exampleUrl (path : String) : Url where
  scheme := "https"
  username := ""
  password := none
  host := some (.domain "anchor.example")
  port := none
  path := path
  query := none
  fragment := none

/-- The endpoints of the example, read as their parts. -/
def exampleParse : UrlParser := fun text =>
  if text = "https://anchor.example/sep6/deposit" then some (exampleUrl "/sep6/deposit")
  else if text = "https://anchor.example/sep24/transactions/deposit/interactive" then
    some (exampleUrl "/sep24/transactions/deposit/interactive")
  else none

def exampleCapabilities : AnchorCapabilities where
  domain := "anchor.example"
  sep6Url := some "https://anchor.example/sep6/"
  sep24Url := some "https://anchor.example/sep24"
  webAuthUrl := none
  signingKey := none
  sep6DepositInfo := .object [("funding_methods", .array [.string "WIRE"])]
  sep6WithdrawInfo := .object []

def exampleAsset : AnchorAsset :=
  ⟨"USD", "GA5ZSEJYB37JRC5AVCIA5MOP4RHTM335X2KGX3IHOJAPP5RE34K4KZVN"⟩

def exampleFields (name value : String) : TransferFields :=
  (∅ : TransferFields).insert name value

def exampleSep6 (fields : TransferFields) : Except String (Url × Option String) :=
  sep6Request exampleParse "GCLIENT" exampleAsset exampleCapabilities .deposit fields none

def exampleSep24 (fields : TransferFields) : Except String Sep24Request :=
  sep24Request exampleParse "GCLIENT" exampleAsset exampleCapabilities .deposit fields "token"

/-- A field of another name is sent next to the asset and the account. -/
theorem transfer_requests_bound_amount :
    ∃ url tokenSent sent, exampleSep6 (exampleFields "amount" "5") = .ok (url, tokenSent) ∧
      sep6RequestFields exampleCapabilities .deposit (exampleFields "amount" "5") = .ok sent ∧
      Params.Binds url.queryPairs (sep6Fixed "GCLIENT" exampleAsset) sent.toList := by
  have hok : (exampleSep6 (exampleFields "amount" "5")).toOption.isSome = true := by
    decide +kernel
  cases h : exampleSep6 (exampleFields "amount" "5") with
  | error e =>
    rw [h] at hok
    cases hok
  | ok request =>
    obtain ⟨url, tokenSent⟩ := request
    obtain ⟨base, sent, hbase, hsent, hurl⟩ := sep6Request_ok h
    refine ⟨url, tokenSent, sent, rfl, hsent,
      ((transfer_requests_bound_iff exampleParse "GCLIENT" exampleAsset exampleCapabilities .deposit
        (exampleFields "amount" "5")).1 none url tokenSent sent h hsent).mpr ?_⟩
    refine ⟨by decide +kernel, ?_⟩
    intro base' endpoint hbase' hendpoint name hname
    obtain rfl := Option.some.inj (hbase'.symm.trans rfl)
    -- the endpoint of the anchor has no parameter of its own
    have hown : (sep6Endpoint exampleParse .deposit "https://anchor.example/sep6/").map
        (fun url => Params.names url.queryPairs) = .ok [] := by decide +kernel
    rw [hendpoint] at hown
    have hnames : Params.names endpoint.queryPairs = [] := Except.ok.inj hown
    rw [hnames] at hname
    exact absurd hname List.not_mem_nil

/-- A field that is named like the account names a second account, in either request. -/
theorem transfer_requests_name_two_accounts :
    (∃ url tokenSent sent, exampleSep6 (exampleFields "account" "GOTHER") = .ok (url, tokenSent) ∧
      sep6RequestFields exampleCapabilities .deposit (exampleFields "account" "GOTHER") = .ok sent ∧
      ¬ Params.Binds url.queryPairs (sep6Fixed "GCLIENT" exampleAsset) sent.toList) ∧
    ∃ request, exampleSep24 (exampleFields "account" "GOTHER") = .ok request ∧
      ¬ Params.Binds request.form (sep24Fixed "GCLIENT" exampleAsset)
        (exampleFields "account" "GOTHER").toList := by
  constructor
  -- the account of the fields stands beside the one that the client sends
  · have hquery : (exampleSep6 (exampleFields "account" "GOTHER")).map (·.1.queryPairs) = .ok
        [("asset_code", "USD"), ("account", "GCLIENT"), ("account", "GOTHER"),
          ("funding_method", "WIRE")] := by decide +kernel
    cases h : exampleSep6 (exampleFields "account" "GOTHER") with
    | error e =>
      rw [h] at hquery
      cases hquery
    | ok request =>
      obtain ⟨url, tokenSent⟩ := request
      obtain ⟨base, sent, -, hsent, -⟩ := sep6Request_ok h
      refine ⟨url, tokenSent, sent, rfl, hsent, ?_⟩
      intro hbinds
      have haccount := hbinds.of_fixed "account" "GCLIENT" (by simp [sep6Fixed])
      rw [h] at hquery
      have hpairs : url.queryPairs = _ := Except.ok.inj hquery
      rw [hpairs] at haccount
      simp [Params.ExactlyOnce, Params.named] at haccount
  · have hform : (exampleSep24 (exampleFields "account" "GOTHER")).map (·.form) = .ok
        [("asset_code", "USD"), ("asset_issuer", exampleAsset.issuer), ("account", "GCLIENT"),
          ("account", "GOTHER")] := by decide +kernel
    cases h : exampleSep24 (exampleFields "account" "GOTHER") with
    | error e =>
      rw [h] at hform
      cases hform
    | ok request =>
      refine ⟨request, rfl, ?_⟩
      intro hbinds
      have haccount := hbinds.of_fixed "account" "GCLIENT" (by simp [sep24Fixed])
      rw [h] at hform
      have hpairs : request.form = _ := Except.ok.inj hform
      rw [hpairs] at haccount
      simp [Params.ExactlyOnce, Params.named] at haccount

end Anchor

end Fresnica
