import Fresnica.Core.Account
import Fresnica.Foundation.Dict
import Fresnica.Foundation.Json
import Fresnica.Foundation.Lowercase
import Fresnica.Wallet

/-!
# The wallet directory

A wallet is kept in a file that is named by the hash of its name, and the name of the
default wallet is kept as a line of one more file. A line is trimmed when it is read. The
file system works: an operation on a file that exists succeeds, so every error comes
before the first change.

## Main definitions

* `Files`, `atomicWrite` — the files of the directory, and how one is replaced
* `StoredWallet`, `validateRecord` — wallet records
* `StorageCrates` — what the storage uses of other crates
* `save`, `load`, `list`, `defaultName`, `setDefault`, `resolve`, `delete` — the operations
* `Call`, `run` — runs of the operations that change the directory

## Main results

* `get?_atomicWrite` — what a replaced file leaves of the others
* `walletPath_eq_iff` — names with different hashes have different files
-/

namespace Fresnica.Storage

open Foundation

/-! ### Files -/

/-- The files of a directory, by name. -/
abbrev Files := Dict String String

/-- A file takes the place of another one. -/
def rename (source target : String) (files : Files) : Files :=
  match files.get? source with
  | some text => (files.erase source).set target text
  | none => files

def atomicWrite (path text : String) (files : Files) : Files :=
  let temporary := path ++ ".tmp"
  rename temporary path (files.set temporary text)

theorem get?_atomicWrite {path text other : String} {files : Files}
    (hother : other ≠ path ++ ".tmp") : (atomicWrite path text files).get? other =
      if other = path then some text else files.get? other := by
  have hwritten : (files.set (path ++ ".tmp") text).get? (path ++ ".tmp") = some text := by
    rw [Dict.get?_set, if_pos rfl]
  rw [atomicWrite, rename, hwritten]
  simp only [Dict.get?_set, Dict.get?_erase, if_neg hother]

/-! ### Records -/

structure StoredWallet where
  name : String
  address : String
  walletType : String
  network : String
  secret : Option Json
  metadata : List (String × Json)

namespace StoredWallet

def watchOnly (record : StoredWallet) : Bool := record.walletType = "watch-only"

/-- All that is validated of a record: its texts, and whether it has an object as secret. -/
def header (record : StoredWallet) : String × String × String × String × Option Bool :=
  (record.name, record.address, record.walletType, record.network,
    record.secret.map Json.isObject)

end StoredWallet

def validateRecord (accounts : AccountCodec) (record : StoredWallet) : Except String Unit := do
  ensure (¬ (Text.trim record.name).isEmpty) "wallet name cannot be empty"
  ensure (record.walletType ∈ ["watch-only", "secret", "mnemonic"])
    s!"unsupported wallet type: {record.walletType}"
  ensure (record.network ∈ ["mainnet", "testnet"]) s!"unknown network: {record.network}"
  let identity ← mapErr (fun _ => "invalid Stellar wallet address")
    (parseAccount accounts record.address)
  ensure (identity.kind = .classic ∧ identity.address = record.address)
    "wallet address must be a canonical Classic G address"
  if record.watchOnly then
    ensure (¬ record.secret.isSome) "watch-only wallet contains signing material"
  else ensure (record.secret.any Json.isObject) "encrypted signing material is missing"

/-- What the storage uses of other crates. A valid record that is printed is parsed with the
same texts and the same kind of secret. -/
structure StorageCrates where
  sha256 : List UInt8 → Uint256
  accounts : AccountCodec
  toStringPretty : StoredWallet → String
  fromStr : String → Except String StoredWallet
  fromStr_toStringPretty : ∀ {record}, validateRecord accounts record = .ok () → ∃ read,
    fromStr (toStringPretty record ++ "\n") = .ok read ∧ read.header = record.header

section Storage

variable (c : StorageCrates)

/-! ### Operations -/

def walletPath (name : String) : String :=
  hex (c.sha256 name.toUTF8.toList).toList ++ ".wallet.json"

def defaultPath : String := ".default"

def save (record : StoredWallet) (overwrite : Bool) (files : Files) : Except String Files := do
  validateRecord c.accounts record
  let path := walletPath c record.name
  ensure (¬ ((files.get? path).isSome ∧ ¬ overwrite)) s!"wallet already exists: {record.name}"
  return atomicWrite path (c.toStringPretty record ++ "\n") files

def load (name : String) (files : Files) : Except String StoredWallet := do
  let text ← okOr (files.get? (walletPath c name)) s!"wallet not found: {name}"
  let record ← mapErr (fun error => s!"invalid wallet record {name}: {error}") (c.fromStr text)
  ensure (record.name = name) s!"wallet not found: {name}"
  validateRecord c.accounts record
  return record

def list (files : Files) : Except String (List StoredWallet) := do
  let wallets := files.entries.filter fun file => ".wallet.json".toList.isSuffixOf file.1.toList
  let records ← wallets.mapM fun file => do
    let record ← mapErr (fun error => s!"invalid wallet record {file.1}: {error}")
      (c.fromStr file.2)
    validateRecord c.accounts record
    return record
  return records.mergeSort fun a b => decide (Text.toLowercase a.name ≤ Text.toLowercase b.name)

def defaultName (files : Files) : Option String := do
  let text ← files.get? defaultPath
  let value := Text.trim text
  if value.isEmpty then none else some value

def setDefault (name : String) (files : Files) : Except String Files := do
  let _ ← load c name files
  return atomicWrite defaultPath (name ++ "\n") files

def resolve (name : Option String) (files : Files) : Except String StoredWallet :=
  match name with
  | some name => load c name files
  | none =>
    match defaultName files with
    | some name => load c name files
    | none => do
      match ← list c files with
      | [record] => return record
      | _ => throw "no default wallet selected"

def delete (name : String) (files : Files) : Except String Files := do
  let path := walletPath c name
  ensure (files.get? path).isSome s!"wallet not found: {name}"
  let files := files.erase path
  return if defaultName files = some name then files.erase defaultPath else files

/-! ### Runs -/

inductive Call
  | save (record : StoredWallet) (overwrite : Bool)
  | setDefault (name : String)
  | delete (name : String)

/-- The wallet that a call is about. -/
def Call.name : Call → String
  | .save record _ => record.name
  | .setDefault name => name
  | .delete name => name

/-- A call that succeeds changes neither the default nor the wallet. -/
def Call.Leaves (name : String) : Call → Prop
  | .save record _ => record.name ≠ name
  | .setDefault _ => False
  | .delete other => other ≠ name

def call (files : Files) : Call → Except String Files
  | .save record overwrite => save c record overwrite files
  | .setDefault name => setDefault c name files
  | .delete name => delete c name files

/-- The files after a call, which a failed one leaves as they are. -/
def step (files : Files) (request : Call) : Files :=
  match call c files request with
  | .ok files => files
  | .error _ => files

/-- The files after a run of calls on an empty directory. -/
def run (calls : List Call) : Files := calls.foldl (step c) .empty

end Storage

variable {c : StorageCrates} {accounts : AccountCodec} {calls : List Call} {request : Call}

theorem run_append_singleton : run c (calls ++ [request]) = step c (run c calls) request :=
  List.foldl_append

/-! ### The names of the files -/

/-- The two digits of a byte determine it. -/
theorem hexDigits_injective : ∀ a < 256, ∀ b < 256,
    "0123456789abcdef".toList.getD (a / 16) '0' = "0123456789abcdef".toList.getD (b / 16) '0' →
    "0123456789abcdef".toList.getD (a % 16) '0' = "0123456789abcdef".toList.getD (b % 16) '0' →
    a = b := by
  have hdigit : ∀ m < 16, ∀ n < 16,
      "0123456789abcdef".toList.getD m '0' = "0123456789abcdef".toList.getD n '0' → m = n := by
    decide
  intro a ha b hb hhigh hlow
  have hdiv := hdigit (a / 16) (by omega) (b / 16) (by omega) hhigh
  have hmod := hdigit (a % 16) (by omega) (b % 16) (by omega) hlow
  omega

theorem hex_injective : Function.Injective hex := by
  intro bytes others h
  unfold hex at h
  rw [String.ofList_inj] at h
  induction bytes generalizing others with
  | nil =>
    cases others with
    | nil => rfl
    | cons other others => simp at h
  | cons byte bytes ih =>
    cases others with
    | nil => simp at h
    | cons other others =>
      simp only [List.flatMap_cons, List.cons_append, List.nil_append, List.cons.injEq] at h
      obtain ⟨hhigh, hlow, hrest⟩ := h
      have hbyte := hexDigits_injective _ byte.toNat_lt _ other.toNat_lt hhigh hlow
      rw [UInt8.toNat_inj.mp hbyte, ih hrest]

theorem walletPath_eq_iff {name other : String} : walletPath c name = walletPath c other ↔
    c.sha256 name.toUTF8.toList = c.sha256 other.toUTF8.toList := by
  constructor
  · intro h
    have hhex := hex_injective (String.append_left_inj _ |>.mp h)
    exact Vector.toList_inj.mp hhex
  · intro h
    rw [walletPath, walletPath, h]

/-- The last character of a file name. -/
theorem getLast?_append (text ending : String) (h : ending.toList ≠ []) :
    (text ++ ending).toList.getLast? = ending.toList.getLast? := by
  rw [String.toList_append, List.getLast?_append_of_ne_nil _ h]

/-- The file of a wallet is neither the one of the default nor a temporary one. -/
theorem walletPath_ne (name path : String) :
    walletPath c name ≠ defaultPath ∧ walletPath c name ≠ path ++ ".tmp" := by
  have hlast : (walletPath c name).toList.getLast? = some 'n' := getLast?_append _ _ (by decide)
  constructor
  · intro h
    rw [h] at hlast
    exact absurd hlast (by decide)
  · intro h
    rw [h, getLast?_append _ _ (by decide)] at hlast
    exact absurd hlast (by decide)

theorem defaultPath_ne (path : String) : defaultPath ≠ path ++ ".tmp" := by
  intro h
  have hlast := getLast?_append path ".tmp" (by decide)
  rw [← h] at hlast
  exact absurd hlast (by decide)

/-- The validation reads the header. -/
theorem validateRecord_congr {record read : StoredWallet} (h : read.header = record.header) :
    validateRecord accounts read = validateRecord accounts record := by
  simp only [StoredWallet.header, Prod.mk.injEq] at h
  obtain ⟨hname, haddress, htype, hnetwork, hsecret⟩ := h
  have hsome : read.secret.isSome = record.secret.isSome := by
    rw [← Option.isSome_map (f := Json.isObject), hsecret, Option.isSome_map]
  have hobject : read.secret.any Json.isObject = record.secret.any Json.isObject := by
    have hany : ∀ secret : Option Json,
        secret.any Json.isObject = (secret.map Json.isObject).getD false := by
      intro secret
      cases secret <;> rfl
    rw [hany, hany, hsecret]
  unfold validateRecord StoredWallet.watchOnly
  rw [hname, haddress, htype, hnetwork, hsome, hobject]

end Fresnica.Storage
