import Fresnica.Foundation.FormUrlencoded
import Fresnica.Foundation.Json
import Fresnica.Foundation.Outcome
import Fresnica.Foundation.Text

/-!
# Anchors over HTTPS

An anchor is reached at the URLs it advertises, and those come from outside: before one is
used it must be an HTTPS URL without credentials, for a DNS name that is not local. A home
domain is read as the host of such a URL, and two ways to write one name are one domain.

How a text is parsed to a URL is a parameter, `UrlParser`. A URL keeps its parts, with the
query as the bytes of its form-urlencoded pairs.

## Main definitions

* `Url`, `Url.queryPairs`, `Url.appendPair` — URLs and their parameters
* `validateAnchorHttpsUrl`, `canonicalHomeDomain` — the checks
* `AnchorCapabilities` — what an anchor advertises

## Main results

* `validateAnchorHttpsUrl_host` — a URL that passes has a host name
-/

namespace Fresnica

open Foundation

namespace Anchor

/-! ### URLs -/

/-- The host of a URL. An address is kept as its text. -/
inductive Host
  | domain (name : String)
  | ipv4 (address : String)
  | ipv6 (address : String)
  deriving DecidableEq, Repr

structure Url where
  scheme : String
  username : String
  password : Option String
  host : Option Host
  port : Option ℕ
  path : String
  query : Option (List UInt8)
  fragment : Option String
  deriving DecidableEq, Repr

abbrev UrlParser := String → Option Url

def Host.text : Host → String
  | .domain name | .ipv4 name | .ipv6 name => name

def Url.hostStr (url : Url) : Option String := url.host.map Host.text

def Url.queryPairs (url : Url) : List (String × String) :=
  FormUrlencoded.parse (url.query.getD [])

def Url.appendPair (url : Url) (name value : String) : Url :=
  { url with query := some (FormUrlencoded.appendPair (url.query.getD []) name value) }

theorem Url.queryPairs_appendPair (url : Url) (name value : String) :
    (url.appendPair name value).queryPairs = url.queryPairs ++ [(name, value)] :=
  FormUrlencoded.parse_appendPair

theorem Url.queryPairs_foldl_appendPair (url : Url) (pairs : List (String × String)) :
    (pairs.foldl (fun url pair => url.appendPair pair.1 pair.2) url).queryPairs =
      url.queryPairs ++ pairs := by
  induction pairs generalizing url with
  | nil => exact (List.append_nil _).symm
  | cons pair pairs ih =>
    rw [List.foldl_cons, ih, queryPairs_appendPair, List.append_assoc, List.singleton_append]

/-! ### Host names -/

/-- The text without the character at its end. -/
def trimEndMatches (c : Char) (text : String) : String :=
  String.ofList (text.toList.rdropWhile (· = c))

def toAsciiLowercase (text : String) : String := text.map Char.toLower

def isAsciiAlphanumeric (byte : UInt8) : Bool :=
  (48 ≤ byte ∧ byte ≤ 57) ∨ (65 ≤ byte ∧ byte ≤ 90) ∨ (97 ≤ byte ∧ byte ≤ 122)

/-- One to 63 letters, digits and hyphens, without a hyphen at either end. -/
def isDnsLabel (label : List UInt8) : Bool :=
  !label.isEmpty && decide (label.length ≤ 63) &&
    label.all (fun byte => isAsciiAlphanumeric byte || byte = 45) &&
    label.head?.any isAsciiAlphanumeric && label.getLast?.any isAsciiAlphanumeric

/-- Names that do not leave the machine or the network of a home. -/
def localNames : List String := ["localhost", "local", "home.arpa"]

def isExternalDnsName (host : String) : Bool :=
  let host := Utf8.bytes (toAsciiLowercase host)
  let labels := host.splitOn 46
  decide (2 ≤ labels.length) && decide (host.length ≤ 253) && labels.all isDnsLabel &&
    localNames.all fun name =>
      host ≠ Utf8.bytes name && !(Utf8.bytes ("." ++ name)).isSuffixOf host

def validateAnchorHttpsUrl (url : Url) (label : String) : Except String Unit := do
  ensure (url.scheme = "https" ∧ url.username = "" ∧ url.password = none)
    s!"{label} must be an HTTPS URL without embedded credentials"
  let host ← match url.host with
    | some (.domain host) => .ok (trimEndMatches '.' host)
    | some (.ipv4 _) | some (.ipv6 _) =>
      .error s!"{label} must use a DNS host name, not an IP address"
    | none => .error s!"{label} must include a host"
  ensure (isExternalDnsName host = true) s!"{label} must use an external DNS host name"

section Definitions

variable (parse : UrlParser)

def canonicalHomeDomain (value : String) : Except String String := do
  let value := trimEndMatches '.' (Text.trim value)
  let url ← okOr (parse s!"https://{value}/") "Issuer home_domain is not a valid host name"
  ensure (url.path = "/" ∧ url.query = none ∧ url.fragment = none)
    "Issuer home_domain is not a valid host name"
  validateAnchorHttpsUrl url "Issuer home_domain"
  ensure (url.port = none) "Issuer home_domain must not include a port"
  -- a URL that passed has a host
  return toAsciiLowercase (trimEndMatches '.' (url.hostStr.getD ""))

end Definitions

theorem validateAnchorHttpsUrl_host {url : Url} {label : String}
    (h : validateAnchorHttpsUrl url label = .ok ()) :
    ∃ name, url.host = some (.domain name) ∧ url.hostStr = some name := by
  rw [validateAnchorHttpsUrl, ensure_bind_eq_ok] at h
  cases hhost : url.host with
  | none =>
    rw [hhost] at h
    exact absurd h.2 (by simp)
  | some host =>
    rw [hhost] at h
    cases host with
    | domain name => exact ⟨name, rfl, by rw [Url.hostStr, hhost]; rfl⟩
    | ipv4 address => exact absurd h.2 (by simp)
    | ipv6 address => exact absurd h.2 (by simp)

/-! ### Capabilities -/

/-- What an anchor advertises for an asset. -/
structure AnchorCapabilities where
  domain : String
  sep6Url : Option String
  sep24Url : Option String
  webAuthUrl : Option String
  signingKey : Option String
  sep6DepositInfo : Json
  sep6WithdrawInfo : Json
  deriving Repr

end Anchor

end Fresnica
