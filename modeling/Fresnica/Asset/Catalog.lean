import Fresnica.Asset.Identity
import Fresnica.Foundation.Decimal
import Fresnica.Foundation.Framed
import Fresnica.Storage.WalletStorage

/-!
# The asset catalog

Assets that a provider recommends are listed for the main network, and the last listing is
kept in a file. Without a refresh, or when a refresh brings nothing, the file is read again. Files
can fail to be read and to be written. The build for Windows removes the old file before the
new one takes its name, so that there a write that fails at the last step loses the listing.

## Main definitions

* `AssetCatalogEntry`, `AssetCatalogCache` — the listing
* `parseStellarExpert`, `normalizeProviderEntries` — what comes from the provider
* `readCache`, `writeCache`, `load` — the file
* `replaced`, `listed` — what a write and a load mean for the listing that was kept last
* `Kept` — a listing without the native asset, of different assets

## Main results

* `gather_kept` — a kept listing is read as it is, up to the limit
* `loads_eq_listed` — the file holds the last listing, over every run
* `loads_sound` — what a user is shown, over every run
-/

namespace Fresnica.Catalog

open Foundation Storage

structure AssetCatalogEntry where
  identity : String
  domain : Option String
  name : Option String
  organization : Option String
  source : String
  deriving DecidableEq

structure AssetCatalogSnapshot where
  entries : List AssetCatalogEntry
  refreshed : Bool
  deriving DecidableEq

structure AssetCatalogCache where
  version : ℕ
  network : String
  entries : List AssetCatalogEntry
  deriving DecidableEq

/-- What the catalog uses of other crates: a cache that is printed is read back. -/
structure CatalogCrates where
  strKey : StrKey
  toStringPretty : AssetCatalogCache → String
  fromStr : String → Except String AssetCatalogCache
  fromStr_toStringPretty : ∀ cache, fromStr (toStringPretty cache ++ "\n") = .ok cache

def maxAssetCatalogLimit : ℕ := 50

def cacheVersion : ℕ := 1

def cleanOptional (value : Option String) : Option String :=
  (value.map Text.trim).filter fun value => !value.isEmpty

def nativeEntry : AssetCatalogEntry := ⟨"XLM", none, none, none, "native"⟩

def AssetCatalogEntry.isNative (entry : AssetCatalogEntry) : Bool := entry.identity = "XLM"

def validateLimit (limit : ℕ) : Except String Unit :=
  ensure (1 ≤ limit ∧ limit ≤ maxAssetCatalogLimit)
    s!"asset catalog limit must be from 1 to {maxAssetCatalogLimit}"

/-- The path of the cache under the home directory. -/
def cachePath (network : String) : String := "asset-catalog-" ++ network ++ ".json"

def temporaryPath (network : String) : String := "asset-catalog-" ++ network ++ ".json.tmp"

section Store

variable (c : CatalogCrates)

def fromIdentity (identity : String) (domain name organization : Option String)
    (source : String) : Except String AssetCatalogEntry := do
  let asset ← AssetId.parse c.strKey identity
  return ⟨asset.display c.strKey, cleanOptional domain, cleanOptional name,
    cleanOptional organization, Text.trim source⟩

/-- An entry in the form of the catalog. -/
def AssetCatalogEntry.cleaned (raw : AssetCatalogEntry) : Except String AssetCatalogEntry :=
  fromIdentity c raw.identity raw.domain raw.name raw.organization raw.source

/-! ### The provider -/

/-- The parts of a text before and after the last occurrence of a character. -/
def rsplitOnce (delimiter : Char) (value : String) : Option (String × String) :=
  match value.toList.reverse.span (· ≠ delimiter) with
  | (after, _ :: before) => some (String.ofList before.reverse, String.ofList after.reverse)
  | (_, []) => none

def optionalText (value : Option Json) : Option String := cleanOptional (value >>= Json.asStr?)

/-- An entry of the provider, unless it is malformed. -/
def parseRecord (raw : Json) : Option AssetCatalogEntry := do
  let encodedAsset ← text raw "asset"
  let (identityWithIssuer, _) ← rsplitOnce '-' encodedAsset
  let (code, issuer) ← rsplitOnce '-' identityWithIssuer
  let toml := (raw.get? "tomlInfo").filter Json.isObject
  (fromIdentity c s!"{code}:{issuer}" (optionalText (raw.get? "domain"))
    (toml >>= fun value => optionalText (value.get? "name"))
    (toml >>= fun value => optionalText (value.get? "orgName")) "stellar-expert").toOption

def parseStellarExpert (payload : Json) : Except String (List AssetCatalogEntry) := do
  let records ← okOr (payload.get? "_embedded" >>= (·.get? "records") >>= Json.asArray?)
    "asset catalog response is malformed"
  return records.filterMap (parseRecord c)

/-! ### Listings -/

/-- The loop over raw entries. An entry that is not clean is skipped or ends the loop, one that
was listed is skipped, and the loop ends over the limit. -/
def gather {m : Type → Type} [Monad m] (clean : AssetCatalogEntry → m (Option AssetCatalogEntry))
    (limit : ℕ) (entries : List AssetCatalogEntry) (seen : List String) :
    List AssetCatalogEntry → m (List AssetCatalogEntry)
  | [] => return entries
  | raw :: rest => do
    match ← clean raw with
    | none => gather clean limit entries seen rest
    | some entry =>
      if entry.isNative ∨ entry.identity ∈ seen then gather clean limit entries seen rest
      else if (entries ++ [entry]).length > limit then return entries ++ [entry]
      else gather clean limit (entries ++ [entry]) (seen ++ [entry.identity]) rest

/-- In the cache an entry that is not clean is an error. -/
def cleanCached (raw : AssetCatalogEntry) : Except String (Option AssetCatalogEntry) :=
  (mapErr (fun _ => "asset catalog cache contains an invalid asset identity")
    (raw.cleaned c)).map some

/-- From the provider it is skipped. -/
def cleanProvided (raw : AssetCatalogEntry) : Id (Option AssetCatalogEntry) :=
  (raw.cleaned c).toOption

def normalizeProviderEntries (entries : List AssetCatalogEntry) (limit : ℕ) :
    List AssetCatalogEntry :=
  gather (cleanProvided c) limit [nativeEntry] ["XLM"] entries

/-! ### The file -/

/-- Where a write fails: at the directory, at the temporary file, of which a part may be left, at
the removal of the old file, or at the rename. -/
inductive WriteFault
  | directory (error : String)
  | write (left : Option String) (error : String)
  | removeFile (error : String)
  | rename (error : String)

def WriteFault.text : WriteFault → String
  | .directory error => s!"unable to create asset catalog directory: {error}"
  | .write _ error => s!"unable to write asset catalog cache: {error}"
  | .removeFile error => s!"unable to replace asset catalog cache: {error}"
  | .rename error => s!"unable to replace asset catalog cache: {error}"

/-- One load, with the platform of the build and what the provider and the disk do. -/
structure Load where
  windows : Bool
  network : String
  limit : ℕ
  refresh : Bool
  readError : Option String
  response : Except String Json
  writeFault : Option WriteFault

def readCache (call : Load) (files : Files) : Except String (List AssetCatalogEntry) :=
  match call.readError with
  | some error =>
    .error s!"unable to read asset catalog cache {cachePath call.network}: {error}"
  | none =>
    match files.get? (cachePath call.network) with
    | none => .ok [nativeEntry]
    | some text => do
      let cache ← mapErr (fun error => s!"invalid asset catalog cache: {error}") (c.fromStr text)
      ensure (¬ (cache.version ≠ cacheVersion ∨ cache.network ≠ call.network))
        "unsupported asset catalog cache"
      gather (cleanCached c) call.limit [nativeEntry] ["XLM"] cache.entries

def writeCache (call : Load) (entries : List AssetCatalogEntry) (files : Files) :
    Except String Unit × Files :=
  let text := c.toStringPretty ⟨cacheVersion, call.network, entries⟩ ++ "\n"
  let temporary := temporaryPath call.network
  let path := cachePath call.network
  match call.writeFault with
  | none => (.ok (), rename temporary path (files.set temporary text))
  | some (.directory error) => (.error (WriteFault.directory error).text, files)
  | some (.write left error) =>
    (.error (WriteFault.write left error).text,
      left.elim files fun part => files.set temporary part)
  | some (.removeFile error) =>
    -- the step is there on Windows only, and only for a file that exists
    if call.windows ∧ (files.get? path).isSome then
      (.error (WriteFault.removeFile error).text, files.set temporary text)
    else (.ok (), rename temporary path (files.set temporary text))
  | some (.rename error) =>
    -- on Windows the old file is gone by now, and the new one is removed after the error
    (.error (WriteFault.rename error).text,
      (if call.windows then (files.set temporary text).erase path
        else files.set temporary text).erase temporary)

/-- The entries of the provider, if it answers. -/
def fresh (call : Load) : List AssetCatalogEntry :=
  match call.response >>= parseStellarExpert c with
  | .ok entries => normalizeProviderEntries c entries call.limit
  | .error _ => []

def load (call : Load) (files : Files) : Except String AssetCatalogSnapshot × Files :=
  match validateLimit call.limit >>= fun _ => readCache c call files with
  | .error error => (.error error, files)
  | .ok cached =>
    if call.network ≠ "mainnet" ∨ call.refresh = false then (.ok ⟨cached, false⟩, files)
    else
      let fresh := fresh c call
      if fresh.length ≤ 1 then (.ok ⟨cached, false⟩, files)
      else
        let (written, files) := writeCache c call (fresh.drop 1) files
        (written.map fun _ => ⟨fresh, true⟩, files)

/-- The answers to a sequence of loads. -/
def loads (files : Files) : List Load → List (Except String AssetCatalogSnapshot)
  | [] => []
  | call :: calls => (load c call files).1 :: loads (load c call files).2 calls

/-! ### What a load means -/

/-- What a write leaves of the listing that was kept last. On Windows there is a step more for a
listing that was kept, and the listing is lost when the rename fails. -/
def replaced (listing : List AssetCatalogEntry) (call : Load) (entries : List AssetCatalogEntry) :
    Except String Unit × List AssetCatalogEntry :=
  match call.writeFault with
  | none => (.ok (), entries)
  | some (.removeFile error) =>
    if call.windows ∧ listing ≠ [] then (.error (WriteFault.removeFile error).text, listing)
    else (.ok (), entries)
  | some (.rename error) =>
    (.error (WriteFault.rename error).text, if call.windows then [] else listing)
  | some fault => (.error fault.text, listing)

/-- The listing that was kept last is listed, unless the provider brings another one and that
can be kept. -/
def listed (listing : List AssetCatalogEntry) (call : Load) :
    Except String AssetCatalogSnapshot × List AssetCatalogEntry :=
  match validateLimit call.limit, call.readError with
  | .error error, _ => (.error error, listing)
  | .ok _, some error =>
    (.error s!"unable to read asset catalog cache {cachePath call.network}: {error}", listing)
  | .ok _, none =>
    if call.network ≠ "mainnet" then (.ok ⟨[nativeEntry], false⟩, listing)
    else if call.refresh = true ∧ 1 < (fresh c call).length then
      let (written, kept) := replaced listing call ((fresh c call).drop 1)
      (written.map fun _ => ⟨fresh c call, true⟩, kept)
    else (.ok ⟨nativeEntry :: listing.take call.limit, false⟩, listing)

def listings (listing : List AssetCatalogEntry) :
    List Load → List (Except String AssetCatalogSnapshot)
  | [] => []
  | call :: calls => (listed c listing call).1 :: listings (listed c listing call).2 calls

end Store

variable {c : CatalogCrates} {raw entry : AssetCatalogEntry} {call : Load}
  {listing entries raws : List AssetCatalogEntry} {files : Files} {limit : ℕ}

/-! ### Entries -/

theorem cleanOptional_idem {value : Option String} :
    cleanOptional (cleanOptional value) = cleanOptional value := by
  cases value with
  | none => rfl
  | some text =>
    rw [cleanOptional, cleanOptional, Option.map_some, Option.filter_some]
    split_ifs with htext
    · rw [Option.map_some, Text.trim_trim, Option.filter_some, if_pos htext]
    · rfl

theorem cleaned_eq_ok : raw.cleaned c = .ok entry ↔ ∃ asset,
    AssetId.parse c.strKey raw.identity = .ok asset ∧
      entry = ⟨asset.display c.strKey, cleanOptional raw.domain, cleanOptional raw.name,
        cleanOptional raw.organization, Text.trim raw.source⟩ := by
  rw [AssetCatalogEntry.cleaned, fromIdentity, bind_eq_ok]
  simp only [pure_eq_ok, Except.ok.injEq, eq_comm]

/-- A clean entry stays as it is. -/
theorem cleaned_idem (h : raw.cleaned c = .ok entry) : entry.cleaned c = .ok entry := by
  obtain ⟨asset, -, rfl⟩ := cleaned_eq_ok.mp h
  rw [cleaned_eq_ok]
  refine ⟨asset, AssetId.parse_display c.strKey asset, ?_⟩
  rw [cleanOptional_idem, cleanOptional_idem, cleanOptional_idem, Text.trim_trim]

/-- A clean entry is the native one, or of an issued asset. -/
theorem issued_of_cleaned (h : raw.cleaned c = .ok entry) (hissued : entry.isNative = false) :
    ∃ asset : AssetId, asset.isNative = false ∧ entry.identity = asset.display c.strKey := by
  obtain ⟨asset, -, rfl⟩ := cleaned_eq_ok.mp h
  refine ⟨asset, ?_, rfl⟩
  by_contra hnative
  rw [Bool.not_eq_false, AssetId.isNative_iff] at hnative
  rw [hnative, AssetCatalogEntry.isNative, decide_eq_false_iff_not] at hissued
  exact hissued rfl

/-- A listing without the native asset, of different assets. -/
structure Kept (c : CatalogCrates) (entries : List AssetCatalogEntry) : Prop where
  clean : ∀ entry ∈ entries, entry.cleaned c = .ok entry
  issued : ∀ entry ∈ entries, ∃ asset : AssetId,
    asset.isNative = false ∧ entry.identity = asset.display c.strKey
  nodup : (entries.map AssetCatalogEntry.identity).Nodup

namespace Kept

theorem nil : Kept c [] where
  clean _ h := absurd h List.not_mem_nil
  issued _ h := absurd h List.not_mem_nil
  nodup := List.nodup_nil

theorem isNative_eq_false (h : Kept c entries) (hentry : entry ∈ entries) :
    entry.isNative = false := by
  obtain ⟨asset, hissued, hidentity⟩ := h.issued entry hentry
  rw [AssetCatalogEntry.isNative, hidentity, decide_eq_false_iff_not]
  intro hxlm
  exact AssetId.display_ne_xlm hissued (by rw [hxlm]; decide)

theorem sublist (h : Kept c entries) {others : List AssetCatalogEntry}
    (hsub : others.Sublist entries) : Kept c others where
  clean entry hentry := h.clean entry (hsub.subset hentry)
  issued entry hentry := h.issued entry (hsub.subset hentry)
  nodup := h.nodup.sublist (hsub.map _)

/-- A clean entry of another asset is added. -/
theorem push (h : Kept c entries) (hclean : raw.cleaned c = .ok entry)
    (hissued : entry.isNative = false)
    (hnew : entry.identity ∉ entries.map AssetCatalogEntry.identity) :
    Kept c (entries ++ [entry]) where
  clean := by
    rintro other hother
    rcases List.mem_append.mp hother with hold | hlast
    · exact h.clean other hold
    · rw [List.mem_singleton.mp hlast]
      exact cleaned_idem hclean
  issued := by
    rintro other hother
    rcases List.mem_append.mp hother with hold | hlast
    · exact h.issued other hold
    · rw [List.mem_singleton.mp hlast]
      exact issued_of_cleaned hclean hissued
  nodup := by
    rw [List.map_append]
    apply h.nodup.append (List.nodup_singleton _)
    intro identity hidentity hlast
    rw [List.mem_singleton] at hlast
    exact hnew (hlast ▸ hidentity)

end Kept

/-! ### The loop -/

/-- A kept listing is read as it is, up to the limit. -/
theorem gather_kept {before after : List AssetCatalogEntry} (h : Kept c (before ++ after))
    (hlimit : before.length < limit) :
    gather (cleanCached c) limit (nativeEntry :: before)
      ("XLM" :: before.map AssetCatalogEntry.identity) after =
        .ok (nativeEntry :: before ++ after.take (limit - before.length)) := by
  induction after generalizing before with
  | nil =>
    rw [List.take_nil, List.append_nil]
    rfl
  | cons entry after ih =>
    -- the cached listing is kept, so that no entry of it is left out again
    have hmem : entry ∈ before ++ entry :: after :=
      List.mem_append_right _ List.mem_cons_self
    have hissued := h.isNative_eq_false hmem
    have hnew : entry.identity ∉ "XLM" :: before.map AssetCatalogEntry.identity := by
      rw [List.mem_cons, not_or]
      refine ⟨of_decide_eq_false hissued, fun hbefore => ?_⟩
      have hnodup := h.nodup
      rw [List.map_append, List.map_cons] at hnodup
      exact (List.nodup_append.mp hnodup).2.2 _ hbefore _ List.mem_cons_self rfl
    have hclean : cleanCached c entry = .ok (some entry) := by
      rw [cleanCached, h.clean entry hmem]
      rfl
    rw [gather, hclean, ok_bind]
    dsimp only
    rw [if_neg (by rw [hissued]; simpa using hnew)]
    have hlength : (nativeEntry :: before ++ [entry]).length = before.length + 2 := by simp
    rw [hlength]
    split_ifs with hover
    · -- this entry is the last within the limit
      have hone : limit - before.length = 1 := by omega
      rw [hone, List.take_succ_cons, List.take_zero]
      rfl
    · have hkept : Kept c (before ++ [entry] ++ after) := by
        rw [List.append_assoc, List.singleton_append]
        exact h
      have hrest := ih hkept
        (by rw [List.length_append, List.length_singleton]; omega)
      have htake : limit - before.length = limit - (before ++ [entry]).length + 1 := by
        rw [List.length_append, List.length_singleton]
        omega
      rw [htake, List.take_succ_cons]
      simpa only [List.map_append, List.map_cons, List.map_nil, List.cons_append,
        List.append_assoc, List.singleton_append, List.nil_append] using hrest

/-- What comes from the provider is a kept listing within the limit. -/
theorem gather_provided {before : List AssetCatalogEntry} (h : Kept c before)
    (hlimit : before.length < limit) :
    ∃ kept, gather (cleanProvided c) limit (nativeEntry :: before)
        ("XLM" :: before.map AssetCatalogEntry.identity) raws = nativeEntry :: kept ∧
      Kept c kept ∧ kept.length ≤ limit := by
  induction raws generalizing before with
  | nil => exact ⟨before, rfl, h, hlimit.le⟩
  | cons raw raws ih =>
    cases hclean : raw.cleaned c with
    | error e =>
      -- a row that is not clean is left out
      have hskip : cleanProvided c raw = (none : Option AssetCatalogEntry) := by
        rw [cleanProvided, hclean]
        rfl
      rw [gather, hskip]
      exact ih h hlimit
    | ok entry =>
      have hfound : cleanProvided c raw = some entry := by
        rw [cleanProvided, hclean]
        rfl
      have hlength : (nativeEntry :: before ++ [entry]).length = before.length + 2 := by simp
      have hstep : gather (cleanProvided c) limit (nativeEntry :: before)
          ("XLM" :: before.map AssetCatalogEntry.identity) (raw :: raws) =
          if entry.isNative ∨ entry.identity ∈ "XLM" :: before.map AssetCatalogEntry.identity then
            gather (cleanProvided c) limit (nativeEntry :: before)
              ("XLM" :: before.map AssetCatalogEntry.identity) raws
          else if before.length + 2 > limit then nativeEntry :: before ++ [entry]
          else gather (cleanProvided c) limit (nativeEntry :: before ++ [entry])
            ("XLM" :: before.map AssetCatalogEntry.identity ++ [entry.identity]) raws := by
        rw [gather, hfound, ← hlength]
        rfl
      rw [hstep]
      -- so is one that is listed already, and the last one within the limit ends the listing
      split_ifs with hknown hover
      · exact ih h hlimit
      · rw [not_or, List.mem_cons, not_or, Bool.not_eq_true] at hknown
        refine ⟨before ++ [entry], rfl, h.push hclean hknown.1 hknown.2.2, ?_⟩
        rw [List.length_append, List.length_singleton]
        exact hlimit
      · rw [not_or, List.mem_cons, not_or, Bool.not_eq_true] at hknown
        have hrest := ih (h.push hclean hknown.1 hknown.2.2)
          (by rw [List.length_append, List.length_singleton]; omega)
        simpa only [List.map_append, List.map_cons, List.map_nil, List.cons_append] using hrest

/-! ### The file -/

theorem fresh_sound (hlimit : 1 ≤ call.limit) (hmany : 1 < (fresh c call).length) :
    ∃ kept, fresh c call = nativeEntry :: kept ∧ Kept c kept ∧ kept.length ≤ call.limit := by
  unfold fresh at hmany ⊢
  split at hmany
  · exact gather_provided .nil hlimit
  · exact absurd hmany (by decide)

/-- The file of a listing. No file is written for an empty one. -/
def cacheFile (c : CatalogCrates) (listing : List AssetCatalogEntry) : Option String :=
  if listing = [] then none
  else some (c.toStringPretty ⟨cacheVersion, "mainnet", listing⟩ ++ "\n")

/-- The file holds the listing that was kept last for the main network. -/
structure Holds (c : CatalogCrates) (files : Files) (listing : List AssetCatalogEntry) : Prop where
  kept : Kept c listing
  mainnet : files.get? (cachePath "mainnet") = cacheFile c listing
  others : ∀ network, network ≠ "mainnet" → files.get? (cachePath network) = none

theorem holds_empty : Holds c .empty [] where
  kept := .nil
  mainnet := rfl
  others _ _ := rfl

theorem cachePath_injective {network other : String} (h : cachePath network = cachePath other) :
    network = other := by
  have hlists := congrArg String.toList h
  simp only [cachePath, String.toList_append, List.append_assoc] at hlists
  exact String.toList_injective (List.append_cancel_right (List.append_cancel_left hlists))

theorem temporaryPath_eq (network : String) :
    temporaryPath network = cachePath network ++ ".tmp" := by
  rw [cachePath, String.append_assoc]
  rfl

theorem temporaryPath_ne (network other : String) : temporaryPath network ≠ cachePath other := by
  intro h
  have hlast := congrArg (fun text : String => text.toList.reverse.head?) h
  simp [temporaryPath, cachePath] at hlast

namespace Holds

/-- What is kept is read. -/
theorem readCache_eq (h : Holds c files listing) (hlimit : 1 ≤ call.limit)
    (hread : call.readError = none) : readCache c call files =
      .ok (if call.network = "mainnet" then nativeEntry :: listing.take call.limit
        else [nativeEntry]) := by
  rw [readCache, hread]
  dsimp only
  split_ifs with hnetwork
  · rw [hnetwork]
    rw [h.mainnet, cacheFile]
    split_ifs with hempty
    · rw [hempty, List.take_nil]
    · have hkept : Kept c ([] ++ listing) := h.kept
      have hgather := gather_kept hkept hlimit
      dsimp only
      rw [c.fromStr_toStringPretty]
      simp only [mapErr, ok_bind, ensure, ne_eq, not_true_eq_false, or_self, not_false_eq_true,
        if_true]
      exact hgather
  · rw [h.others call.network hnetwork]

/-- What is not under the path of a cache does not matter. -/
theorem congr (h : Holds c files listing) {files' : Files}
    (hfiles : ∀ network, files'.get? (cachePath network) = files.get? (cachePath network)) :
    Holds c files' listing where
  kept := h.kept
  mainnet := (hfiles "mainnet").trans h.mainnet
  others network hnetwork := (hfiles network).trans (h.others network hnetwork)

theorem set_temporary (h : Holds c files listing) (network text : String) :
    Holds c (files.set (temporaryPath network) text) listing :=
  h.congr fun other => by rw [Dict.get?_set, if_neg (temporaryPath_ne network other).symm]

theorem erase_temporary (h : Holds c files listing) (network : String) :
    Holds c (files.erase (temporaryPath network)) listing :=
  h.congr fun other => by rw [Dict.get?_erase, if_neg (temporaryPath_ne network other).symm]

theorem erase_cachePath (h : Holds c files listing) :
    Holds c (files.erase (cachePath "mainnet")) [] where
  kept := .nil
  mainnet := by rw [Dict.get?_erase, if_pos rfl]; rfl
  others network hnetwork := by
    rw [Dict.get?_erase, if_neg fun hpath => hnetwork (cachePath_injective hpath)]
    exact h.others network hnetwork

theorem rename_temporary (h : Holds c files listing) {entries : List AssetCatalogEntry}
    (hkept : Kept c entries) (hentries : entries ≠ []) :
    Holds c (rename (temporaryPath "mainnet") (cachePath "mainnet")
      (files.set (temporaryPath "mainnet")
        (c.toStringPretty ⟨cacheVersion, "mainnet", entries⟩ ++ "\n"))) entries := by
  have hget : ∀ network, (atomicWrite (cachePath "mainnet")
      (c.toStringPretty ⟨cacheVersion, "mainnet", entries⟩ ++ "\n") files).get?
        (cachePath network) = if cachePath network = cachePath "mainnet" then
          some (c.toStringPretty ⟨cacheVersion, "mainnet", entries⟩ ++ "\n")
        else files.get? (cachePath network) := by
    intro network
    apply get?_atomicWrite
    rw [← temporaryPath_eq]
    exact (temporaryPath_ne _ _).symm
  rw [atomicWrite, ← temporaryPath_eq] at hget
  refine ⟨hkept, ?_, fun network hother => ?_⟩
  · rw [hget, if_pos rfl, cacheFile, if_neg hentries]
  · rw [hget, if_neg fun hpath => hother (cachePath_injective hpath)]
    exact h.others network hother

/-- A write leaves the listing that it means to leave. -/
theorem writeCache_eq (h : Holds c files listing) (hnetwork : call.network = "mainnet")
    {entries : List AssetCatalogEntry} (hkept : Kept c entries) (hentries : entries ≠ []) :
    (writeCache c call entries files).1 = (replaced listing call entries).1 ∧
      Holds c (writeCache c call entries files).2 (replaced listing call entries).2 := by
  have hrenamed := h.rename_temporary hkept hentries
  rw [writeCache, replaced, hnetwork]
  -- the fault decides which of the files is left
  cases call.writeFault with
  | none => exact ⟨rfl, hrenamed⟩
  | some fault =>
    cases fault with
    | directory error => exact ⟨rfl, h⟩
    | write left error =>
      cases left with
      | none => exact ⟨rfl, h⟩
      | some part => exact ⟨rfl, h.set_temporary _ _⟩
    | removeFile error =>
      have hexists : (files.get? (cachePath "mainnet")).isSome ↔ listing ≠ [] := by
        rw [h.mainnet, cacheFile]
        split_ifs with hempty <;> simp [hempty]
      dsimp only
      by_cases hstep : call.windows ∧ listing ≠ []
      · rw [if_pos hstep, if_pos ⟨hstep.1, hexists.mpr hstep.2⟩]
        exact ⟨rfl, h.set_temporary _ _⟩
      · rw [if_neg hstep, if_neg fun h => hstep ⟨h.1, hexists.mp h.2⟩]
        exact ⟨rfl, hrenamed⟩
    | rename error =>
      refine ⟨rfl, ?_⟩
      dsimp only
      split_ifs
      · exact (h.set_temporary _ _).erase_cachePath.erase_temporary _
      · exact (h.set_temporary _ _).erase_temporary _

/-- A load lists and keeps what it means. -/
theorem load_eq (h : Holds c files listing) (call : Load) :
    (load c call files).1 = (listed c listing call).1 ∧
      Holds c (load c call files).2 (listed c listing call).2 := by
  rw [load, listed]
  by_cases hlimit : 1 ≤ call.limit ∧ call.limit ≤ maxAssetCatalogLimit
  swap
  · rw [validateLimit, ensure, if_neg hlimit]
    exact ⟨rfl, h⟩
  rw [validateLimit, ensure, if_pos hlimit]
  cases hread : call.readError with
  | some error =>
    rw [ok_bind, readCache, hread]
    exact ⟨rfl, h⟩
  | none =>
    rw [ok_bind, h.readCache_eq hlimit.1 hread]
    dsimp only
    by_cases hnetwork : call.network = "mainnet"
    swap
    · rw [if_neg hnetwork, if_pos (Or.inl hnetwork), if_pos hnetwork]
      exact ⟨rfl, h⟩
    rw [if_pos hnetwork, if_neg (not_not.mpr hnetwork)]
    -- only a refresh that brings an issued asset is written
    by_cases hmany : call.refresh = true ∧ 1 < (fresh c call).length
    · rw [if_pos hmany, if_neg (by simp [hnetwork, hmany.1]), if_neg (by omega)]
      obtain ⟨kept, hfresh, hkept, -⟩ := fresh_sound hlimit.1 hmany.2
      have hdrop : Kept c ((fresh c call).drop 1) := by
        rw [hfresh]
        exact hkept
      have hentries : (fresh c call).drop 1 ≠ [] := by
        intro hnone
        have hlength := List.drop_eq_nil_iff.mp hnone
        omega
      obtain ⟨hwritten, hholds⟩ := h.writeCache_eq hnetwork hdrop hentries
      dsimp only
      rw [hwritten]
      exact ⟨rfl, hholds⟩
    · rw [if_neg hmany]
      by_cases hrefresh : call.refresh = true
      · rw [if_neg (by simp [hnetwork, hrefresh]),
          if_pos (not_lt.mp fun hlt => hmany ⟨hrefresh, hlt⟩)]
        exact ⟨rfl, h⟩
      · rw [if_pos (Or.inr (Bool.eq_false_of_not_eq_true hrefresh))]
        exact ⟨rfl, h⟩

end Holds

/-! ### A cache as a text -/

def optionTexts : Option String → List String
  | none => ["none", ""]
  | some value => ["some", value]

def optionOfTexts (kind value : String) : Option String :=
  if kind = "some" then some value else none

def entryTexts (entry : AssetCatalogEntry) : List String :=
  [entry.identity, entry.source] ++ optionTexts entry.domain ++ optionTexts entry.name ++
    optionTexts entry.organization

def entriesOfTexts : List String → Option (List AssetCatalogEntry)
  | [] => some []
  | identity :: source :: k :: domain :: l :: name :: m :: organization :: texts => do
    let entries ← entriesOfTexts texts
    return ⟨identity, optionOfTexts k domain, optionOfTexts l name,
      optionOfTexts m organization, source⟩ :: entries
  | _ => none

theorem entriesOfTexts_flatMap (entries : List AssetCatalogEntry) :
    entriesOfTexts (entries.flatMap entryTexts) = some entries := by
  induction entries with
  | nil => rfl
  | cons entry entries ih =>
    obtain ⟨identity, _ | domain, _ | name, _ | organization, source⟩ := entry
    all_goals
      rw [List.flatMap_cons]
      simp only [entryTexts, optionTexts, List.cons_append, List.nil_append, entriesOfTexts, ih]
      rfl

def cacheTexts (cache : AssetCatalogCache) : List String :=
  String.ofList (Nat.toDigits 10 cache.version) :: cache.network :: cache.entries.flatMap entryTexts

def cacheOfTexts : List String → Except String AssetCatalogCache
  | version :: network :: texts => do
    let entries ← okOr (entriesOfTexts texts) "entries"
    return ⟨Decimal.value version.toList, network, entries⟩
  | _ => .error "cache"

/-- What the catalog uses of other crates can be had. -/
def framedCrates : CatalogCrates where
  strKey := Sep23.strKey
  toStringPretty cache := Framed.print (cacheTexts cache)
  fromStr text := okOr (Framed.read text) "text" >>= cacheOfTexts
  fromStr_toStringPretty cache := by
    rw [Framed.read_print_append, okOr, ok_bind, cacheTexts, cacheOfTexts, entriesOfTexts_flatMap,
      okOr, ok_bind, String.toList_ofList, Decimal.value_toDigits]
    rfl

/-! ### Runs -/

theorem Holds.loads_eq (h : Holds c files listing) {calls : List Load} :
    loads c files calls = listings c listing calls := by
  induction calls generalizing files listing with
  | nil => rfl
  | cons call calls ih =>
    obtain ⟨hanswer, hafter⟩ := h.load_eq call
    rw [loads, listings, hanswer, ih hafter]

/-- The file stands for the listing that was kept last, whatever is loaded, and whatever the
provider and the disk do. -/
theorem loads_eq_listed (c : CatalogCrates) (calls : List Load) :
    loads c .empty calls = listings c [] calls := holds_empty.loads_eq

/-- What a load shows: the native asset first, then different issued assets in clean form,
within the limit, and nothing of another network than the main one. -/
structure Shown (c : CatalogCrates) (call : Load) (snapshot : AssetCatalogSnapshot) : Prop where
  limit : 1 ≤ call.limit ∧ call.limit ≤ maxAssetCatalogLimit
  entries : ∃ kept, snapshot.entries = nativeEntry :: kept ∧ Kept c kept ∧
    kept.length ≤ call.limit
  mainnet : call.network ≠ "mainnet" → snapshot.entries = [nativeEntry]
  refreshed : snapshot.refreshed = true → call.network = "mainnet" ∧ call.refresh = true ∧
    snapshot.entries = fresh c call

theorem replaced_kept (h : Kept c listing) (hentries : Kept c entries) :
    Kept c (replaced listing call entries).2 := by
  rw [replaced]
  split
  · exact hentries
  · split_ifs
    · exact h
    · exact hentries
  · dsimp only
    split_ifs
    · exact .nil
    · exact h
  · exact h

theorem listed_sound (h : Kept c listing) (call : Load) :
    (∀ snapshot, (listed c listing call).1 = .ok snapshot → Shown c call snapshot) ∧
      Kept c (listed c listing call).2 := by
  rw [listed]
  -- the limit is checked first, then the file is read, and then the network decides
  by_cases hlimit : 1 ≤ call.limit ∧ call.limit ≤ maxAssetCatalogLimit
  swap
  · rw [validateLimit, ensure, if_neg hlimit]
    refine ⟨fun snapshot hsnapshot => ?_, h⟩
    cases hsnapshot
  rw [validateLimit, ensure, if_pos hlimit]
  cases hread : call.readError with
  | some error =>
    refine ⟨fun snapshot hsnapshot => ?_, h⟩
    cases hsnapshot
  | none =>
    dsimp only
    by_cases hnetwork : call.network = "mainnet"
    swap
    · rw [if_pos hnetwork]
      refine ⟨fun snapshot hsnapshot => ?_, h⟩
      cases hsnapshot
      exact ⟨hlimit, ⟨[], rfl, .nil, Nat.zero_le _⟩, fun _ => rfl, fun hrefreshed => by
        cases hrefreshed⟩
    rw [if_neg (not_not.mpr hnetwork)]
    -- only a refresh that brings an issued asset replaces the listing
    by_cases hmany : call.refresh = true ∧ 1 < (fresh c call).length
    · rw [if_pos hmany]
      obtain ⟨kept, hfresh, hkept, hlength⟩ := fresh_sound hlimit.1 hmany.2
      have hdrop : Kept c ((fresh c call).drop 1) := by
        rw [hfresh]
        exact hkept
      refine ⟨fun snapshot hsnapshot => ?_, replaced_kept h hdrop⟩
      dsimp only at hsnapshot
      cases hwritten : (replaced listing call ((fresh c call).drop 1)).1 with
      | error error =>
        rw [hwritten] at hsnapshot
        cases hsnapshot
      | ok _ =>
        rw [hwritten] at hsnapshot
        cases hsnapshot
        exact ⟨hlimit, ⟨kept, hfresh, hkept, hlength⟩, fun hother => absurd hnetwork hother,
          fun _ => ⟨hnetwork, hmany.1, rfl⟩⟩
    · rw [if_neg hmany]
      refine ⟨fun snapshot hsnapshot => ?_, h⟩
      cases hsnapshot
      exact ⟨hlimit, ⟨listing.take call.limit, rfl, h.sublist (List.take_sublist _ _),
        List.length_take_le _ _⟩, fun hother => absurd hnetwork hother, fun hrefreshed => by
        cases hrefreshed⟩

theorem Kept.listings_sound (h : Kept c listing) {calls : List Load} :
    List.Forall₂ (fun call answer => ∀ snapshot, answer = .ok snapshot → Shown c call snapshot)
      calls (listings c listing calls) := by
  induction calls generalizing listing with
  | nil => exact .nil
  | cons call calls ih =>
    obtain ⟨hshown, hafter⟩ := listed_sound h call
    exact .cons hshown (ih hafter)

/-- Over every run, each load that succeeds shows a sound listing. -/
theorem loads_sound (c : CatalogCrates) (calls : List Load) :
    List.Forall₂ (fun call answer => ∀ snapshot, answer = .ok snapshot → Shown c call snapshot)
      calls (loads c .empty calls) := by
  rw [loads_eq_listed]
  exact Kept.nil.listings_sound

end Fresnica.Catalog
