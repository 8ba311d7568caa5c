import Fresnica.Foundation.Dict
import Fresnica.Foundation.Json
import Fresnica.Foundation.Lowercase
import Fresnica.Foundation.Outcome

/-!
# Wallet records and the memory store

A record keeps the identity of an account, and of the local signer that it may have with the
envelope of its signing material. The store keeps records by name, and the name of the
default wallet.

A record without a signer kind that carries material of a signing type is one of an earlier
release: making a record fills the kind in, also when it is made from another one.

## Main definitions

* `WalletRecord`, `WalletRecord.postInit` — records, and what making one fills in
* `MemoryWalletStorage` — the store, with `save`, `load`, `delete` and `setDefault`

## Main results

* `MemoryWalletStorage.Named` — every record is stored under its own name, and the default
  wallet is stored; `Named.save`, `Named.delete`, `Named.setDefault` — the operations keep it
-/

namespace Fresnica.Python

open Foundation

/-- The classes of the exceptions around wallets. -/
inductive WalletErrorClass
  | wallet
  | walletNotFound
  | walletExists
  | walletLocked
  | invalidPassword
  | invalidUnlockKey
  | watchOnly
  | signer
  | network
  | value
  | processUnavailable
  deriving DecidableEq, Repr

/-- An exception with its message. -/
structure WalletError where
  kind : WalletErrorClass
  message : String
  deriving DecidableEq, Repr

structure WalletRecord where
  name : String
  address : String
  walletType : String
  network : String
  secret : Option Json
  metadata : List (String × Json)
  signerKind : Option String
  signerPublicKey : Option String

namespace WalletRecord

def protectedSoftware : String := "protected-software"

def watchOnlyType : String := "watch-only"

/-- What making a record fills in. -/
def postInit (record : WalletRecord) : WalletRecord :=
  if record.signerKind = none ∧ record.walletType ≠ watchOnlyType ∧ record.secret.isSome then
    { record with
      signerKind := some protectedSoftware
      signerPublicKey := some ((record.signerPublicKey.filter (¬ ·.isEmpty)).getD record.address) }
  else record

def watchOnly (record : WalletRecord) : Bool := record.signerKind.isNone

/-- The records whose material a passcode opens. -/
def hasProtectedSigner (record : WalletRecord) : Bool :=
  record.signerKind = some protectedSoftware ∧ record.secret.isSome

/-! ### What making a record leaves as it is -/

variable {record : WalletRecord}

@[simp] theorem name_postInit : record.postInit.name = record.name := by
  rw [postInit]
  split_ifs <;> rfl

@[simp] theorem address_postInit : record.postInit.address = record.address := by
  rw [postInit]
  split_ifs <;> rfl

@[simp] theorem network_postInit : record.postInit.network = record.network := by
  rw [postInit]
  split_ifs <;> rfl

/-- A record with a signer kind is complete. -/
theorem postInit_of_signerKind (h : record.signerKind ≠ none) : record.postInit = record := by
  rw [postInit, if_neg]
  intro hfill
  exact h hfill.1

/-- So is one without material. -/
theorem postInit_of_secret (h : record.secret = none) : record.postInit = record := by
  rw [postInit, if_neg]
  intro hfill
  rw [h] at hfill
  exact absurd hfill.2.2 (by decide)

end WalletRecord

structure MemoryWalletStorage where
  wallets : Dict String WalletRecord
  default : Option String

namespace MemoryWalletStorage

def empty : MemoryWalletStorage := ⟨.empty, none⟩

def notFound (name : String) : WalletError := ⟨.walletNotFound, s!"Wallet not found: {name}"⟩

def save (s : MemoryWalletStorage) (wallet : WalletRecord) (overwrite : Bool) :
    Except WalletError MemoryWalletStorage := do
  ensure ((s.wallets.get? wallet.name).isNone ∨ overwrite = true)
    ⟨.walletExists, s!"Wallet already exists: {wallet.name}"⟩
  return { s with wallets := s.wallets.set wallet.name wallet }

def load (s : MemoryWalletStorage) (name : String) : Except WalletError WalletRecord :=
  okOr (s.wallets.get? name) (notFound name)

/-- The records in the order of their names, which are compared in lower case. -/
def list (s : MemoryWalletStorage) : List WalletRecord :=
  s.wallets.values.mergeSort fun a b =>
    decide (Text.toLowercase a.name ≤ Text.toLowercase b.name)

def delete (s : MemoryWalletStorage) (name : String) : Except WalletError MemoryWalletStorage := do
  let _ ← s.load name
  return ⟨s.wallets.erase name, if s.default = some name then none else s.default⟩

def setDefault (s : MemoryWalletStorage) (name : String) :
    Except WalletError MemoryWalletStorage := do
  let _ ← s.load name
  return { s with default := some name }

/-! ### The operations -/

variable {s t : MemoryWalletStorage} {record other : WalletRecord} {name key : String}
  {overwrite : Bool}

theorem load_eq_ok : s.load name = .ok record ↔ s.wallets.get? name = some record := okOr_eq_ok

theorem save_eq_ok (h : s.save record overwrite = .ok t) :
    t = { s with wallets := s.wallets.set record.name record } := by
  obtain ⟨-, h⟩ := ensure_bind_eq_ok.mp h
  exact (Except.ok.inj h).symm

/-- A record that is saved is loaded again, and no other one has changed. -/
theorem get?_save (h : s.save record overwrite = .ok t) :
    t.wallets.get? key = if key = record.name then some record else s.wallets.get? key := by
  rw [save_eq_ok h]
  exact Dict.get?_set

theorem save_new (hnew : s.wallets.get? record.name = none) :
    s.save record false = .ok { s with wallets := s.wallets.set record.name record } := by
  rw [save, ensure_bind_eq_ok]
  exact ⟨.inl (Option.isNone_iff_eq_none.mpr hnew), rfl⟩

theorem save_overwrite :
    s.save record true = .ok { s with wallets := s.wallets.set record.name record } := by
  rw [save, ensure_bind_eq_ok]
  exact ⟨.inr rfl, rfl⟩

theorem mem_list : record ∈ s.list ↔ record ∈ s.wallets.values := by
  rw [list, (List.mergeSort_perm _ _).mem_iff]

/-! ### Names -/

/-- Every record is stored under its own name, and the default wallet is stored. -/
structure Named (s : MemoryWalletStorage) : Prop where
  name : ∀ {key record}, s.wallets.get? key = some record → record.name = key
  default : ∀ {key}, s.default = some key → ∃ record, s.wallets.get? key = some record

theorem named_empty : Named empty where
  name := by
    intro key record h
    rw [empty, Dict.get?_empty] at h
    exact absurd h (by simp)
  default := by
    intro key h
    exact absurd h (by simp [empty])

namespace Named

theorem save (hs : s.Named) (h : s.save record overwrite = .ok t) : t.Named where
  name := by
    intro key other hget
    rw [get?_save h] at hget
    split_ifs at hget with hkey
    · obtain rfl := Option.some.inj hget
      exact hkey.symm
    · exact hs.name hget
  default := by
    intro key hdefault
    rw [save_eq_ok h] at hdefault
    rw [get?_save h]
    split_ifs with hkey
    · exact ⟨record, rfl⟩
    · exact hs.default hdefault

theorem delete (hs : s.Named) (h : s.delete name = .ok t) : t.Named := by
  obtain ⟨_, -, h⟩ := bind_eq_ok.mp h
  obtain rfl := Except.ok.inj h
  constructor
  · intro key record hget
    change (s.wallets.erase name).get? key = some record at hget
    rw [Dict.get?_erase] at hget
    split_ifs at hget
    exact hs.name hget
  · intro key hdefault
    dsimp only at hdefault ⊢
    split_ifs at hdefault with hname
    rw [Dict.get?_erase, if_neg]
    · exact hs.default hdefault
    · rintro rfl
      exact hname hdefault

theorem setDefault (hs : s.Named) (h : s.setDefault name = .ok t) : t.Named := by
  obtain ⟨record, hload, h⟩ := bind_eq_ok.mp h
  obtain rfl := Except.ok.inj h
  constructor
  · exact hs.name
  · intro key hdefault
    obtain rfl := Option.some.inj hdefault
    exact ⟨record, load_eq_ok.mp hload⟩

/-- A listed record is loaded by its name. -/
theorem get?_of_mem_list (hs : s.Named) (h : record ∈ s.list) :
    s.wallets.get? record.name = some record := by
  rw [mem_list, Dict.values, List.mem_map] at h
  obtain ⟨⟨key, held⟩, hentry, rfl⟩ := h
  have hget := Dict.get?_of_mem hentry
  rwa [← hs.name hget] at hget

end Named

/-- And a record that is loaded is listed. -/
theorem mem_list_of_get? (h : s.wallets.get? key = some record) : record ∈ s.list :=
  mem_list.mpr (Dict.mem_values_of_get? h)

end MemoryWalletStorage

end Fresnica.Python
