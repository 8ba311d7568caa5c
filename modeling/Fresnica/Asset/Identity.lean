import Fresnica.Asset
import Fresnica.Foundation.Utf8
import Mathlib.Data.List.TakeDrop

/-!
# One identity for an asset

An asset is named by a text, by the bytes of the ledger, and by the members of a Horizon row.
Each of them names one asset: the code and the issuer determine the bytes, the text determines
the code and the issuer, and a row as Horizon writes it is of the asset that is read from it.
The native asset has a name of its own, which no issued asset shares, whatever its code.

## Main definitions

* `BalanceRow` — the rows that Horizon writes

## Main results

* `AssetId.issued_eq_ok` — an asset is issued from its own code and issuer, and no others
* `AssetId.parse_eq_ok`, `AssetId.fromHorizon_eq_ok` — what is read, and from what
* `AssetId.matchesBalance_iff` — a row matches the asset that is read from it
* `AssetId.identity_survives` — the encodings keep the identity
-/

namespace Fresnica

open Foundation

/-! ### Codes -/

theorem toNat_lt_of_isCodeByte : ∀ byte, isCodeByte byte = true → byte.toNat < 128 := by
  have hall : ∀ n < 256, isCodeByte (UInt8.ofNat n) = true → n < 128 := by decide +kernel
  intro byte h
  refine hall byte.toNat byte.toNat_lt ?_
  rwa [UInt8.ofNat_toNat]

theorem toByte_ne_colon : ∀ byte, isCodeByte byte = true → Char.ofNat byte.toNat ≠ ':' := by
  have hall : ∀ n < 256, isCodeByte (UInt8.ofNat n) = true → Char.ofNat n ≠ ':' := by
    decide +kernel
  intro byte h
  refine hall byte.toNat byte.toNat_lt ?_
  rwa [UInt8.ofNat_toNat]

variable {code issuer value : String} {raw : List UInt8} {least width : ℕ}

theorem validateAssetCode_eq_ok {validated : AssetCode} :
    validateAssetCode code = .ok validated ↔ validated.bytes = Utf8.bytes code := by
  rw [← Utf8.toList_toUTF8, validateAssetCode]
  constructor
  · intro h
    split_ifs at h
    rw [← Except.ok.inj h]
  · intro h
    obtain ⟨bytes, hpos, hle, hcode⟩ := validated
    obtain rfl : bytes = code.toUTF8.toList := h
    rw [dif_pos ⟨hpos, hle, List.all_eq_true.mpr hcode⟩]

/-- The text of a code has the bytes of the code. -/
theorem bytes_decodeCode (h : IsCode least raw) :
    Utf8.bytes (AssetId.decodeCode raw) = codeBytes raw :=
  Utf8.bytes_ascii fun byte hbyte => toNat_lt_of_isCodeByte byte (h.isCodeByte byte hbyte)

/-- A filled code is its bytes with zeros. -/
theorem IsCode.eq_append (h : IsCode least raw) :
    codeBytes raw ++ List.replicate (raw.length - (codeBytes raw).length) 0 = raw := by
  have hzeros : raw.drop (codeBytes raw).length =
      List.replicate (raw.length - (codeBytes raw).length) 0 :=
    List.eq_replicate_iff.mpr ⟨List.length_drop, h.filling⟩
  rw [← hzeros]
  exact List.prefix_iff_eq_append.mp (List.takeWhile_prefix _)

/-- A code fills the width in one way. -/
theorem AssetCode.padded_eq {validated : AssetCode} {bytes : Vector UInt8 width}
    (h : IsCode least bytes.toList) (hbytes : validated.bytes = codeBytes bytes.toList)
    (hle : validated.bytes.length ≤ width) : validated.padded width hle = bytes := by
  rw [← Vector.toList_inj]
  have hlist : (validated.padded width hle).toList =
      validated.bytes ++ List.replicate (width - validated.bytes.length) 0 := rfl
  have happend := h.eq_append
  rw [Vector.length_toList] at happend
  rw [hlist, hbytes, happend]

namespace AssetId

variable {strKey : StrKey} {asset other : AssetId} {row : Json}

theorem ext_asset (h : asset.asset = other.asset) : asset = other := by
  obtain ⟨xdr, wellFormed⟩ := asset
  obtain ⟨xdr', wellFormed'⟩ := other
  obtain rfl : xdr = xdr' := h
  rfl

/-- The text of a filled code is the text that was validated. -/
theorem decodeCode_padded {validated : AssetCode} {least : ℕ}
    (hvalid : validateAssetCode code = .ok validated) (hleast : least ≤ validated.bytes.length)
    (hle : validated.bytes.length ≤ width) :
    decodeCode (validated.padded width hle).toList = code := by
  have hcode := validated.isCode_padded hleast hle
  have hbytes : codeBytes (validated.padded width hle).toList = validated.bytes :=
    validated.codeBytes_padded _
  rw [← Utf8.bytes_inj, bytes_decodeCode hcode, hbytes]
  exact validateAssetCode_eq_ok.mp hvalid

/-- The bytes of a filled code are what its text is validated to. -/
theorem exists_validated {bytes : Vector UInt8 width} (h : IsCode least bytes.toList)
    (hpos : 1 ≤ least) (hwidth : width ≤ 12) :
    ∃ validated, validateAssetCode (decodeCode bytes.toList) = .ok validated ∧
      validated.bytes = codeBytes bytes.toList ∧ validated.bytes.length ≤ width := by
  have hle : (codeBytes bytes.toList).length ≤ width := by
    have hprefix := (List.takeWhile_prefix (p := fun byte => decide (byte ≠ 0))
      (l := bytes.toList)).length_le
    rwa [Vector.length_toList] at hprefix
  refine ⟨⟨codeBytes bytes.toList, hpos.trans h.le_length, hle.trans hwidth, h.isCodeByte⟩, ?_,
    rfl, hle⟩
  rw [validateAssetCode_eq_ok, bytes_decodeCode h]

/-- An asset is issued from its own code and issuer, and from no others. -/
theorem issued_eq_ok : issued strKey code issuer = .ok asset ↔
    asset.code = some code ∧ asset.issuer strKey = some issuer := by
  constructor
  · intro h
    obtain ⟨validated, hvalid, h⟩ := bind_eq_ok.mp h
    obtain ⟨key, hkey, h⟩ := bind_eq_ok.mp h
    have hissuer := strKey.publicKeyOf?_eq_some_iff.mp (okOr_eq_ok.mp hkey)
    -- a short code fills four bytes and a longer one twelve, and is read back from both
    split_ifs at h with hshort
    · rw [← Except.ok.inj h]
      exact ⟨congrArg some (decodeCode_padded hvalid validated.pos hshort), congrArg some hissuer⟩
    · rw [← Except.ok.inj h]
      exact ⟨congrArg some (decodeCode_padded hvalid validated.pos validated.le_twelve),
        congrArg some hissuer⟩
  · intro h
    obtain ⟨hcode, hissuer⟩ := h
    obtain ⟨xdr, wellFormed⟩ := asset
    cases xdr with
    | native => exact absurd hcode (by simp [AssetId.code])
    | creditAlphanum4 bytes key =>
      obtain rfl := Option.some.inj hcode
      obtain rfl := Option.some.inj hissuer
      obtain ⟨validated, hvalid, hbytes, hle⟩ := exists_validated wellFormed le_rfl (by decide)
      have hkey : strKey.publicKeyOf? (strKey.publicKey key) = some key :=
        strKey.publicKeyOf?_eq_some_iff.mpr rfl
      rw [issued, hvalid, ok_bind, hkey]
      refine (dif_pos hle).trans ?_
      exact congrArg Except.ok (ext_asset (congrArg (Asset.creditAlphanum4 · key)
        (AssetCode.padded_eq wellFormed hbytes hle)))
    | creditAlphanum12 bytes key =>
      obtain rfl := Option.some.inj hcode
      obtain rfl := Option.some.inj hissuer
      obtain ⟨validated, hvalid, hbytes, hle⟩ := exists_validated wellFormed (by decide) le_rfl
      have hkey : strKey.publicKeyOf? (strKey.publicKey key) = some key :=
        strKey.publicKeyOf?_eq_some_iff.mpr rfl
      have hlong : ¬ validated.bytes.length ≤ 4 := by
        rw [hbytes, not_le]
        exact wellFormed.le_length
      rw [issued, hvalid, ok_bind, hkey]
      refine (dif_neg hlong).trans ?_
      exact congrArg Except.ok (ext_asset (congrArg (Asset.creditAlphanum12 · key)
        (AssetCode.padded_eq wellFormed hbytes hle)))

/-! ### Texts -/

/-- An asset that is not native has a code and an issuer. -/
theorem exists_code_issuer (strKey : StrKey) (h : asset.isNative = false) :
    ∃ code issuer, asset.code = some code ∧ asset.issuer strKey = some issuer := by
  obtain ⟨xdr, wellFormed⟩ := asset
  cases xdr with
  | native => exact absurd h (by simp [isNative])
  | creditAlphanum4 bytes key => exact ⟨_, _, rfl, rfl⟩
  | creditAlphanum12 bytes key => exact ⟨_, _, rfl, rfl⟩

theorem code_native : native.code = none := rfl

theorem isNative_of_code (h : asset.code = some code) : asset.isNative = false := by
  by_contra hnative
  rw [Bool.not_eq_false, isNative_iff] at hnative
  rw [hnative, code_native] at h
  cases h

/-- The code and the issuer determine the asset. -/
theorem eq_of_code_issuer (hcode : asset.code = other.code)
    (hissuer : asset.issuer strKey = other.issuer strKey) : asset = other := by
  -- only the native asset has no code
  cases hnative : asset.isNative with
  | true =>
    obtain rfl := isNative_iff.mp hnative
    cases hother : other.isNative with
    | true => exact (isNative_iff.mp hother).symm
    | false =>
      obtain ⟨code, issuer, hsome, -⟩ := exists_code_issuer strKey hother
      rw [hsome] at hcode
      cases hcode
  | false =>
    obtain ⟨code, issuer, hcode', hissuer'⟩ := exists_code_issuer strKey hnative
    have hasset := issued_eq_ok.mpr ⟨hcode', hissuer'⟩
    have hother := issued_eq_ok.mpr ⟨hcode ▸ hcode', hissuer ▸ hissuer'⟩
    exact Except.ok.inj (hasset.symm.trans hother)

theorem display_eq (hcode : asset.code = some code) (hissuer : asset.issuer strKey = some issuer) :
    (asset.display strKey).toList = code.toList ++ ':' :: issuer.toList := by
  obtain ⟨xdr, wellFormed⟩ := asset
  cases xdr with
  | native => cases hcode
  | creditAlphanum4 bytes key =>
    obtain rfl := Option.some.inj hcode
    obtain rfl := Option.some.inj hissuer
    simp [display, toString]
  | creditAlphanum12 bytes key =>
    obtain rfl := Option.some.inj hcode
    obtain rfl := Option.some.inj hissuer
    simp [display, toString]

theorem colon_not_mem_decodeCode (h : IsCode least raw) : ':' ∉ (decodeCode raw).toList := by
  rw [decodeCode, String.toList_ofList]
  intro hmem
  obtain ⟨byte, hbyte, hcolon⟩ := List.mem_map.mp hmem
  exact toByte_ne_colon byte (h.isCodeByte byte hbyte) hcolon

/-- A code has no colon in it. -/
theorem colon_not_mem_code (h : asset.code = some code) : ':' ∉ code.toList := by
  obtain ⟨xdr, wellFormed⟩ := asset
  cases xdr with
  | native => cases h
  | creditAlphanum4 bytes key =>
    obtain rfl := Option.some.inj h
    exact colon_not_mem_decodeCode wellFormed
  | creditAlphanum12 bytes key =>
    obtain rfl := Option.some.inj h
    exact colon_not_mem_decodeCode wellFormed

/-- The display of an issued asset is not a name of the native one. -/
theorem display_ne_xlm (h : asset.isNative = false) :
    (asset.display strKey).toList.map Char.toLower ≠ "xlm".toList := by
  obtain ⟨code, issuer, hcode, hissuer⟩ := exists_code_issuer strKey h
  intro hxlm
  have hmem : Char.toLower ':' ∈ (asset.display strKey).toList.map Char.toLower := by
    rw [display_eq hcode hissuer]
    exact List.mem_map_of_mem (List.mem_append_right _ List.mem_cons_self)
  rw [hxlm] at hmem
  exact absurd hmem (by decide)

/-- The first colon of a text stands behind what has none. -/
theorem span_colon {before after : List Char} (h : ':' ∉ before) :
    (before ++ ':' :: after).span (· ≠ ':') = (before, ':' :: after) := by
  rw [List.span_eq_takeWhile_dropWhile, List.takeWhile_append_of_pos, List.dropWhile_append_of_pos]
  · simp
  · intro c hc
    exact decide_eq_true (ne_of_mem_of_not_mem hc h)
  · intro c hc
    exact decide_eq_true (ne_of_mem_of_not_mem hc h)

/-- An issued asset is read from its display, and from nothing else. -/
theorem parseIssued_eq_ok : parseIssued strKey value = .ok asset ↔
    asset.isNative = false ∧ value = asset.display strKey := by
  constructor
  · intro h
    have hjoin : value.toList.takeWhile (· ≠ ':') ++ value.toList.dropWhile (· ≠ ':') =
        value.toList := List.takeWhile_append_dropWhile
    rw [parseIssued, List.span_eq_takeWhile_dropWhile] at h
    -- the text up to its first colon is the code, and what follows the colon the issuer
    cases hdrop : value.toList.dropWhile (· ≠ ':') with
    | nil =>
      rw [hdrop] at h
      cases h
    | cons c issuer =>
      obtain rfl : c = ':' := by
        have hhead := List.head?_dropWhile_not (fun c => decide (c ≠ ':')) value.toList
        rw [hdrop] at hhead
        simpa using hhead
      rw [hdrop] at h hjoin
      obtain ⟨hcode, hissuer⟩ := issued_eq_ok.mp h
      refine ⟨isNative_of_code hcode, ?_⟩
      rw [← String.toList_inj, display_eq hcode hissuer, String.toList_ofList,
        String.toList_ofList, hjoin]
  · intro h
    obtain ⟨hnative, rfl⟩ := h
    obtain ⟨code, issuer, hcode, hissuer⟩ := exists_code_issuer strKey hnative
    rw [parseIssued, display_eq hcode hissuer, span_colon (colon_not_mem_code hcode)]
    dsimp only
    rw [String.ofList_toList, String.ofList_toList]
    exact issued_eq_ok.mpr ⟨hcode, hissuer⟩

/-- The native asset is read from its name in any case, and an issued one from its display. -/
theorem parse_eq_ok : parse strKey value = .ok asset ↔
    value.toList.map Char.toLower = "xlm".toList ∧ asset = native ∨
      asset.isNative = false ∧ value = asset.display strKey := by
  rw [parse]
  by_cases hxlm : value.toList.map Char.toLower = "xlm".toList
  · rw [if_pos hxlm, Except.ok.injEq]
    constructor
    · intro h
      exact Or.inl ⟨hxlm, h.symm⟩
    · rintro (⟨-, rfl⟩ | ⟨hnative, rfl⟩)
      · rfl
      · exact absurd hxlm (display_ne_xlm hnative)
  · rw [if_neg hxlm, parseIssued_eq_ok]
    constructor
    · exact Or.inr
    · rintro (⟨hxlm', -⟩ | h)
      · exact absurd hxlm' hxlm
      · exact h

/-- An asset is read back from its display. -/
theorem parse_display (strKey : StrKey) (asset : AssetId) :
    parse strKey (asset.display strKey) = .ok asset := by
  rw [parse_eq_ok]
  cases hnative : asset.isNative with
  | true =>
    obtain rfl := isNative_iff.mp hnative
    have hname : "XLM".toList.map Char.toLower = "xlm".toList := by decide
    exact Or.inl ⟨hname, rfl⟩
  | false => exact Or.inr ⟨rfl, rfl⟩

theorem display_injective (strKey : StrKey) :
    Function.Injective fun asset : AssetId => asset.display strKey := by
  intro asset other h
  have hasset := parse_display strKey asset
  have hother := parse_display strKey other
  dsimp only at h
  rw [h] at hasset
  exact Except.ok.inj (hasset.symm.trans hother)

/-! ### The two forms of a code -/

theorem length_decodeCode (raw : List UInt8) :
    (decodeCode raw).length = (codeBytes raw).length := by
  rw [decodeCode, String.length_ofList, List.length_map]

theorem length_codeBytes_le (raw : List UInt8) : (codeBytes raw).length ≤ raw.length :=
  (List.takeWhile_prefix _).length_le

/-- A code of up to four characters has the form of four bytes, and a longer one, of up to
twelve, the form of twelve. -/
theorem form_of_code (h : asset.code = some code) :
    1 ≤ code.length ∧ code.length ≤ 4 ∧ asset.horizonType = "credit_alphanum4" ∧
        (∃ bytes key, asset.toXdr = .creditAlphanum4 bytes key) ∨
      4 < code.length ∧ code.length ≤ 12 ∧ asset.horizonType = "credit_alphanum12" ∧
        ∃ bytes key, asset.toXdr = .creditAlphanum12 bytes key := by
  obtain ⟨xdr, wellFormed⟩ := asset
  cases xdr with
  | native => cases h
  | creditAlphanum4 bytes key =>
    obtain rfl := Option.some.inj h
    have hle := length_codeBytes_le bytes.toList
    rw [Vector.length_toList] at hle
    rw [length_decodeCode]
    exact Or.inl ⟨wellFormed.le_length, hle, rfl, bytes, key, rfl⟩
  | creditAlphanum12 bytes key =>
    obtain rfl := Option.some.inj h
    have hle := length_codeBytes_le bytes.toList
    rw [Vector.length_toList] at hle
    rw [length_decodeCode]
    exact Or.inr ⟨wellFormed.le_length, hle, rfl, bytes, key, rfl⟩

/-! ### Rows -/

/-- The type of an issued asset is one of two. -/
theorem horizonType_of_issued (h : asset.isNative = false) :
    asset.horizonType = "credit_alphanum4" ∨ asset.horizonType = "credit_alphanum12" := by
  obtain ⟨xdr, wellFormed⟩ := asset
  cases xdr with
  | native => exact absurd h (by simp [isNative])
  | creditAlphanum4 bytes key => exact Or.inl rfl
  | creditAlphanum12 bytes key => exact Or.inr rfl

/-- What is read from a row has the type of the row, and the code and the issuer that it
names. -/
theorem horizonType_of_fromHorizon (h : fromHorizon strKey row = .ok asset) :
    text row "asset_type" = some asset.horizonType ∧
      (asset.isNative = false → text row "asset_code" = asset.code ∧
        text row "asset_issuer" = asset.issuer strKey) := by
  unfold fromHorizon at h
  split at h
  · rename_i htype
    obtain rfl := Except.ok.inj h
    exact ⟨htype, fun hissued => absurd hissued (by decide)⟩
  · rename_i type hne htype
    split_ifs at h with hcredit
    obtain ⟨code, hcode, h⟩ := bind_eq_ok.mp h
    obtain ⟨issuer, hissuer, h⟩ := bind_eq_ok.mp h
    obtain ⟨read, hread, h⟩ := bind_eq_ok.mp h
    obtain ⟨hsame, hresult⟩ := ensure_bind_eq_ok.mp h
    obtain rfl : read = asset := Except.ok.inj hresult
    obtain ⟨hcode', hissuer'⟩ := issued_eq_ok.mp hread
    rw [hcode', hissuer', hsame]
    exact ⟨htype, fun _ => ⟨okOr_eq_ok.mp hcode, okOr_eq_ok.mp hissuer⟩⟩
  · cases h

theorem fromHorizon_of_native (htype : text row "asset_type" = some "native") :
    fromHorizon strKey row = .ok native := by
  rewrite [fromHorizon, htype]
  rfl

/-- An issued asset is read from a row of its type, its code and its issuer. -/
theorem fromHorizon_of_issued (htype : text row "asset_type" = some asset.horizonType)
    (hnative : asset.isNative = false) (hrowCode : text row "asset_code" = asset.code)
    (hrowIssuer : text row "asset_issuer" = asset.issuer strKey) :
    fromHorizon strKey row = .ok asset := by
  obtain ⟨code, issuer, hcode, hissuer⟩ := exists_code_issuer strKey hnative
  have hcredit := horizonType_of_issued hnative
  have hne : asset.horizonType ≠ "native" := by
    rcases hcredit with h | h
    · rw [h]
      decide
    · rw [h]
      decide
  rw [hcode] at hrowCode
  rw [hissuer] at hrowIssuer
  unfold fromHorizon
  split
  -- the type of an issued asset is not that of the native one
  · rename_i hnativeType
    exact absurd (Option.some.inj (htype.symm.trans hnativeType)) hne
  · rename_i type _ hsome
    obtain rfl : asset.horizonType = type := Option.some.inj (htype.symm.trans hsome)
    rw [if_pos hcredit, hrowCode, hrowIssuer]
    change (issued strKey code issuer >>= _) = _
    rw [issued_eq_ok.mpr ⟨hcode, hissuer⟩, ok_bind]
    exact ensure_bind_eq_ok.mpr ⟨rfl, rfl⟩
  · rename_i hnone
    rw [htype] at hnone
    cases hnone

/-- A row is read as an asset when its type is the asset's, and it names the code and the
issuer of an issued one. -/
theorem fromHorizon_eq_ok : fromHorizon strKey row = .ok asset ↔
    text row "asset_type" = some asset.horizonType ∧
      (asset.isNative = false → text row "asset_code" = asset.code ∧
        text row "asset_issuer" = asset.issuer strKey) := by
  constructor
  · exact horizonType_of_fromHorizon
  · rintro ⟨htype, hissued⟩
    cases hnative : asset.isNative with
    | true =>
      obtain rfl := isNative_iff.mp hnative
      exact fromHorizon_of_native htype
    | false =>
      obtain ⟨hrowCode, hrowIssuer⟩ := hissued hnative
      exact fromHorizon_of_issued htype hnative hrowCode hrowIssuer

theorem matchesBalance_native : native.matchesBalance strKey row = true ↔
    text row "asset_type" = some "native" :=
  decide_eq_true_iff

theorem matchesBalance_issued (h : asset.isNative = false) :
    asset.matchesBalance strKey row = true ↔
      text row "asset_code" = asset.code ∧ text row "asset_issuer" = asset.issuer strKey := by
  obtain ⟨xdr, wellFormed⟩ := asset
  cases xdr with
  | native => exact absurd h (by simp [isNative])
  | creditAlphanum4 bytes key => exact decide_eq_true_iff
  | creditAlphanum12 bytes key => exact decide_eq_true_iff

end AssetId

/-- The type of an issued asset in a row, by the length of its code. -/
def creditType (code : String) : String :=
  if code.length ≤ 4 then "credit_alphanum4" else "credit_alphanum12"

/-- A balance row as Horizon writes it: of the native asset, of an issued one, or of what is no
asset, such as the shares of a pool. -/
inductive BalanceRow (strKey : StrKey) (row : Json) : Prop
  | native (type : text row "asset_type" = some "native") (code : text row "asset_code" = none)
      (issuer : text row "asset_issuer" = none)
  | issued (code issuer : String) (key : Uint256)
      (type : text row "asset_type" = some (creditType code))
      (hcode : text row "asset_code" = some code)
      (hissuer : text row "asset_issuer" = some issuer)
      (length : 1 ≤ code.length ∧ code.length ≤ 12)
      (chars : code.toList.all Char.isAlphanum = true)
      (hkey : strKey.publicKeyOf? issuer = some key)
  | other (type : ∀ credit ∈ ["native", "credit_alphanum4", "credit_alphanum12"],
        text row "asset_type" ≠ some credit)
      (code : text row "asset_code" = none) (issuer : text row "asset_issuer" = none)

namespace AssetId

variable {strKey : StrKey} {asset other : AssetId} {row : Json}

theorem horizonType_eq_creditType (h : asset.code = some code) :
    asset.horizonType = creditType code := by
  rcases form_of_code h with ⟨-, hle, htype, -⟩ | ⟨hlt, -, htype, -⟩
  · rw [htype, creditType, if_pos hle]
  · rw [htype, creditType, if_neg (not_le.mpr hlt)]

/-- A row matches the asset that is read from it, and no other. -/
theorem matchesBalance_iff (h : BalanceRow strKey row) :
    asset.matchesBalance strKey row = true ↔ fromHorizon strKey row = .ok asset := by
  rw [fromHorizon_eq_ok]
  cases hnative : asset.isNative with
  | true =>
    obtain rfl := isNative_iff.mp hnative
    rw [matchesBalance_native]
    constructor
    · intro htype
      exact ⟨htype, fun hissued => by cases hissued⟩
    · intro htype
      exact htype.1
  | false =>
    obtain ⟨code, issuer, hcode, hissuer⟩ := exists_code_issuer strKey hnative
    rw [matchesBalance_issued hnative]
    constructor
    · intro hnamed
      refine ⟨?_, fun _ => hnamed⟩
      -- only a row of an issued asset names a code, and its type is the one of the code
      rw [hcode] at hnamed
      cases h with
      | native type none _ => exact absurd (none.symm.trans hnamed.1) (by simp)
      | other type none _ => exact absurd (none.symm.trans hnamed.1) (by simp)
      | issued code' issuer' key type hcode' =>
        obtain rfl : code' = code := Option.some.inj (hcode'.symm.trans hnamed.1)
        rw [type, horizonType_eq_creditType hcode]
    · intro hread
      exact hread.2 rfl

/-- An asset is what its text, its bytes and its rows name, and an issued asset is never taken
for the native one. -/
theorem identity_survives (strKey : StrKey) (asset : AssetId) :
    parse strKey (asset.display strKey) = .ok asset ∧
    (∀ other : AssetId, asset.display strKey = other.display strKey → asset = other) ∧
    (∀ other : AssetId, asset.code = other.code → asset.issuer strKey = other.issuer strKey →
      asset = other) ∧
    (∀ code, asset.code = some code →
      1 ≤ code.length ∧ code.length ≤ 4 ∧
          (∃ bytes key, asset.toXdr = .creditAlphanum4 bytes key) ∨
        4 < code.length ∧ code.length ≤ 12 ∧
          ∃ bytes key, asset.toXdr = .creditAlphanum12 bytes key) ∧
    (∀ row, BalanceRow strKey row →
      (asset.matchesBalance strKey row = true ↔ fromHorizon strKey row = .ok asset)) ∧
    (asset.isNative = false → asset ≠ native ∧
      (asset.display strKey).toList.map Char.toLower ≠ "xlm".toList ∧
      ∀ row, BalanceRow strKey row → asset.matchesBalance strKey row = true →
        native.matchesBalance strKey row = false) := by
  refine ⟨parse_display strKey asset, fun other h => display_injective strKey h,
    fun other => eq_of_code_issuer, ?_, fun row => matchesBalance_iff, ?_⟩
  · intro code hcode
    rcases form_of_code hcode with ⟨hpos, hle, -, hform⟩ | ⟨hlt, hle, -, hform⟩
    · exact Or.inl ⟨hpos, hle, hform⟩
    · exact Or.inr ⟨hlt, hle, hform⟩
  · intro hissued
    have hne : asset ≠ native := fun heq => by
      rw [isNative_iff.mpr heq] at hissued
      cases hissued
    refine ⟨hne, display_ne_xlm hissued, ?_⟩
    intro row hrow hmatch
    by_contra hnative
    rw [Bool.not_eq_false] at hnative
    have hasset := (matchesBalance_iff hrow).mp hmatch
    have hread := (matchesBalance_iff hrow).mp hnative
    exact hne (Except.ok.inj (hasset.symm.trans hread))

/-- A row of the example. -/
def usdcRow : Json :=
  .object [("asset_code", .string "USDC"), ("asset_issuer", .string usdcIssuer),
    ("asset_type", .string "credit_alphanum4")]

/-- The issued example, in its texts and its row. -/
theorem usdc_identity_survives :
    parse Sep23.strKey (usdc.display Sep23.strKey) = .ok usdc ∧
    (usdc.matchesBalance Sep23.strKey usdcRow = true ↔
      fromHorizon Sep23.strKey usdcRow = .ok usdc) ∧
    usdc ≠ native := by
  have h := identity_survives Sep23.strKey usdc
  have hrow : BalanceRow Sep23.strKey usdcRow :=
    .issued "USDC" usdcIssuer (Vector.replicate 32 0) (by decide +kernel) (by decide +kernel)
      (by decide +kernel) (by decide) (by decide +kernel) (by decide +kernel)
  exact ⟨h.1, h.2.2.2.2.1 usdcRow hrow, (h.2.2.2.2.2 (by decide)).1⟩

/-- A code that is spelled like the native asset stays a code. -/
example : (parse Sep23.strKey
    "xlm:GAAAAAAAAAAAAAAAAAAAAAAAAAAAAAAAAAAAAAAAAAAAAAAAAAAAAWHF").map
      (fun asset => (asset.isNative, asset.code)) = .ok (false, some "xlm") := by decide +kernel

end AssetId

end Fresnica
