import Fresnica.Foundation.Json
import Fresnica.Foundation.Outcome
import Fresnica.StrKey

/-!
# Asset identities

An asset is the native one, or a code with its issuer. The code is kept as the
bytes of the ledger, filled up with zeros; an identity carries the proof that its
bytes are such a code, so it can always be printed.

## Main definitions

* `AssetId` — an asset with a printable code
* `AssetId.parse`, `AssetId.fromHorizon`, `AssetId.display` — its texts
* `AssetId.matchesBalance` — whether a balance row is of the asset

## Main results

* `AssetId.issuerIs_native`, `AssetId.not_isNative_of_issuerIs` — the native asset has
  no issuer
-/

namespace Fresnica

open Foundation

/-- The text member of a value. -/
def text (value : Json) (key : String) : Option String := value.get? key >>= Json.asStr?

/-- The bytes before the filling of a code. -/
def codeBytes (raw : List UInt8) : List UInt8 := raw.takeWhile (· ≠ 0)

def isCodeByte (byte : UInt8) : Bool := (Char.ofNat byte.toNat).isAlphanum

/-- At least so many letters and digits, filled up with zeros. -/
structure IsCode (least : ℕ) (raw : List UInt8) : Prop where
  le_length : least ≤ (codeBytes raw).length
  isCodeByte : ∀ byte ∈ codeBytes raw, isCodeByte byte = true
  filling : ∀ byte ∈ raw.drop (codeBytes raw).length, byte = 0

def Asset.WellFormed : Asset → Prop
  | .native => True
  | .creditAlphanum4 assetCode _ => IsCode 1 assetCode.toList
  | .creditAlphanum12 assetCode _ => IsCode 5 assetCode.toList

structure AssetId where
  asset : Asset
  wellFormed : asset.WellFormed
  deriving DecidableEq

/-- Letters and digits, as bytes. -/
structure AssetCode where
  bytes : List UInt8
  pos : 1 ≤ bytes.length
  le_twelve : bytes.length ≤ 12
  isCodeByte : ∀ byte ∈ bytes, Fresnica.isCodeByte byte = true

def validateAssetCode (code : String) : Except String AssetCode :=
  let bytes := code.toUTF8.toList
  if h : 1 ≤ bytes.length ∧ bytes.length ≤ 12 ∧ bytes.all isCodeByte = true then
    .ok ⟨bytes, h.1, h.2.1, List.all_eq_true.mp h.2.2⟩
  else .error "issued asset code must be 1-12 ASCII letters or digits"

namespace AssetCode

/-- The bytes filled up to a width. -/
def padded (code : AssetCode) (width : ℕ) (h : code.bytes.length ≤ width) : Vector UInt8 width :=
  ⟨(code.bytes ++ List.replicate (width - code.bytes.length) 0).toArray, by simp; omega⟩

theorem codeBytes_padded (code : AssetCode) (fill : ℕ) :
    codeBytes (code.bytes ++ List.replicate fill 0) = code.bytes := by
  have hzero : ∀ byte ∈ code.bytes, decide (byte ≠ 0) = true := by
    intro byte hmem
    have hcode := code.isCodeByte byte hmem
    rw [decide_eq_true_eq]
    rintro rfl
    exact absurd hcode (by decide)
  rw [codeBytes, List.takeWhile_append_of_pos hzero]
  cases fill <;> simp [List.replicate_succ]

theorem isCode_padded (code : AssetCode) {least width : ℕ} (hle : least ≤ code.bytes.length)
    (h : code.bytes.length ≤ width) : IsCode least (code.padded width h).toList := by
  have hlist : (code.padded width h).toList =
      code.bytes ++ List.replicate (width - code.bytes.length) 0 := rfl
  rw [hlist]
  refine ⟨?_, ?_, ?_⟩ <;> rw [codeBytes_padded]
  · exact hle
  · exact code.isCodeByte
  · rw [List.drop_left]
    exact fun byte hmem => List.eq_of_mem_replicate hmem

end AssetCode

namespace AssetId

def native : AssetId := ⟨.native, trivial⟩

def isNative (asset : AssetId) : Bool := asset.asset = .native

/-- The text of a code. -/
def decodeCode (raw : List UInt8) : String :=
  String.ofList ((codeBytes raw).map fun byte => Char.ofNat byte.toNat)

def code (asset : AssetId) : Option String :=
  match asset.asset with
  | .native => none
  | .creditAlphanum4 assetCode _ => some (decodeCode assetCode.toList)
  | .creditAlphanum12 assetCode _ => some (decodeCode assetCode.toList)

def horizonType (asset : AssetId) : String :=
  match asset.asset with
  | .native => "native"
  | .creditAlphanum4 .. => "credit_alphanum4"
  | .creditAlphanum12 .. => "credit_alphanum12"

def toXdr (asset : AssetId) : Asset := asset.asset

variable (strKey : StrKey)

def issuer (asset : AssetId) : Option String :=
  match asset.asset with
  | .native => none
  | .creditAlphanum4 _ issuer => some (strKey.publicKey issuer)
  | .creditAlphanum12 _ issuer => some (strKey.publicKey issuer)

def display (asset : AssetId) : String :=
  match asset.asset with
  | .native => "XLM"
  | .creditAlphanum4 assetCode issuer =>
    s!"{decodeCode assetCode.toList}:{strKey.publicKey issuer}"
  | .creditAlphanum12 assetCode issuer =>
    s!"{decodeCode assetCode.toList}:{strKey.publicKey issuer}"

def issuerIs (asset : AssetId) (value : String) : Bool := asset.issuer strKey = some value

def matchesBalance (asset : AssetId) (balance : Json) : Bool :=
  match asset.asset with
  | .native => text balance "asset_type" = some "native"
  | _ =>
    text balance "asset_code" = asset.code ∧ text balance "asset_issuer" = asset.issuer strKey

def issued (code issuer : String) : Except String AssetId := do
  let code ← validateAssetCode code
  let issuer ← okOr (strKey.publicKeyOf? issuer) "asset issuer must be a Classic G address"
  if h : code.bytes.length ≤ 4 then
    return ⟨.creditAlphanum4 (code.padded 4 h) issuer, code.isCode_padded code.pos h⟩
  else
    return ⟨.creditAlphanum12 (code.padded 12 code.le_twelve) issuer,
      code.isCode_padded (not_le.mp h) code.le_twelve⟩

/-- The code and the issuer stand before and after the first colon. -/
def parseIssued (value : String) : Except String AssetId :=
  match value.toList.span (· ≠ ':') with
  | (code, _ :: issuer) => issued strKey (String.ofList code) (String.ofList issuer)
  | (_, []) => .error "asset must be CODE:GISSUER"

def parse (value : String) : Except String AssetId :=
  if value.toList.map Char.toLower = "xlm".toList then .ok native else parseIssued strKey value

def fromHorizon (value : Json) : Except String AssetId :=
  match text value "asset_type" with
  | some "native" => .ok native
  | some assetType =>
    if assetType = "credit_alphanum4" ∨ assetType = "credit_alphanum12" then do
      let code ← okOr (text value "asset_code") "Horizon returned malformed asset code"
      let issuer ← okOr (text value "asset_issuer") "Horizon returned malformed asset issuer"
      let asset ← issued strKey code issuer
      ensure (asset.horizonType = assetType) "Horizon returned inconsistent asset type and code"
      return asset
    else .error "Horizon returned unsupported asset type"
  | none => .error "Horizon returned unsupported asset type"

variable {strKey} {asset : AssetId} {value : String}

theorem isNative_iff : asset.isNative = true ↔ asset = native := by
  rw [isNative, decide_eq_true_eq]
  constructor
  · obtain ⟨xdr, wellFormed⟩ := asset
    rintro rfl
    rfl
  · exact congrArg AssetId.asset

theorem issuerIs_native : native.issuerIs strKey value = false := rfl

theorem not_isNative_of_issuerIs (h : asset.issuerIs strKey value = true) :
    asset.isNative = false := by
  by_contra hnative
  rw [Bool.not_eq_false, isNative_iff] at hnative
  rw [hnative, issuerIs_native] at h
  exact absurd h (by simp)

/-- An issued asset with the code USDC. -/
def usdc : AssetId :=
  let code : AssetCode := ⟨[85, 83, 68, 67], by decide, by decide, List.all_eq_true.mp (by decide)⟩
  ⟨.creditAlphanum4 (code.padded 4 (by decide)) (Vector.replicate 32 0),
    code.isCode_padded (by decide) (by decide)⟩

example : (parse Sep23.strKey
    "USDC:GAAAAAAAAAAAAAAAAAAAAAAAAAAAAAAAAAAAAAAAAAAAAAAAAAAAAWHF").map (·.display Sep23.strKey) =
      .ok "USDC:GAAAAAAAAAAAAAAAAAAAAAAAAAAAAAAAAAAAAAAAAAAAAAAAAAAAAWHF" := by decide +kernel

end AssetId

/-- The address of its issuer. -/
def usdcIssuer : String := "GAAAAAAAAAAAAAAAAAAAAAAAAAAAAAAAAAAAAAAAAAAAAAAAAAAAAWHF"

end Fresnica
