import Fresnica.Foundation.InPlace
import Fresnica.Python.ProcessClient

/-!
# The wallet manager

The manager keeps the wallets of a store and the session of the one that is unlocked. Its
methods check the wallet and the passcode, have the core make or open an envelope, and then
store the record. Passcodes, addresses and texts come from the user; the time and the
randomness of a call come from the system and are arguments here. The store is the one in
memory, and the core is reached through its process.

## Main definitions

* `WalletManager` — the store and the session
* `WalletManager.addWatch`, `importSecret`, `importMnemonic`, `createMnemonic`,
  `upgradeWatchWithSecret`, `upgradeWatchWithMnemonic`, `downgradeToWatch`, `reprotectSigner`,
  `restoreBackup`, `unlock`, `unlockWithKey`, `lock`, `upgradeLegacyProtection`, `setDefault`,
  `delete` — the methods that change it
* `WalletManager.state`, `capabilities`, `exportSigningMaterial` — those that do not
* `ManagerCall`, `ManagerCall.run` — one call of a method
-/

namespace Fresnica.Python

open Foundation

/-- A signer that the core opens with an unlock key for each signature. -/
structure ProcessProtectedSigner where
  publicKey : String
  envelope : Json
  unlockKey : Uint256

/-- An account identity with an optional local signer. -/
structure Wallet where
  address : String
  signer : Option ProcessProtectedSigner

structure WalletSession where
  record : WalletRecord
  wallet : Wallet

structure WalletManager where
  storage : MemoryWalletStorage
  session : Option WalletSession

inductive WalletState
  | watchOnly
  | locked
  | unlocked
  deriving DecidableEq, Repr

structure WalletCapabilities where
  state : WalletState
  canSend : Bool
  canUnlock : Bool
  canLock : Bool
  canFundTestnet : Bool
  deriving DecidableEq, Repr

/-- What the manager takes from the language, the system and other crates. -/
structure ManagerCrates extends WalletCrates where
  mnemonics : FresnicaProcessClient.MnemonicCrates
  strip_publicKey : ∀ key, Text.strip (accounts.publicKey key) = accounts.publicKey key

/-- A procedure of the manager, with the exception that it may raise. -/
abbrev ManagerM (α : Type) := Mut WalletManager WalletError α

namespace WalletManager

def empty : WalletManager := ⟨.empty, none⟩

section Methods

variable (c : ManagerCrates)

/-! ### Checks -/

def getNetwork (name : String) : Except WalletError Unit :=
  ensure (Text.toLowercase name = "mainnet" ∨ Text.toLowercase name = "testnet")
    ⟨.network, s!"Unknown Stellar network: {name}"⟩

/-- The kind and the address of the account that a text names. -/
def parseAccount (address : String) : Except WalletError (AccountKind × String) :=
  let text := Text.strip address
  match c.accounts.fromString text with
  | some (.publicKeyEd25519 _) => .ok (.classic, text)
  | some (.contract _) => .ok (.contract, text)
  | _ => .error ⟨.value, "Invalid or unsupported Stellar account address"⟩

def getRecord (m : WalletManager) (name : Option String) : Except WalletError WalletRecord := do
  let name ← match name with
    | some name => pure name
    | none =>
      match m.storage.default, m.storage.list with
      | some name, _ => pure name
      | none, [record] => pure record.name
      | none, _ => throw ⟨.walletNotFound, "No default wallet selected"⟩
  m.storage.load name

def signingRecord (m : WalletManager) (name : Option String) : Except WalletError WalletRecord := do
  let record ← m.getRecord name
  ensure (¬ record.watchOnly) ⟨.watchOnly, "Watch-only wallet has no local signer"⟩
  ensure (record.signerKind = some WalletRecord.protectedSoftware)
    ⟨.walletLocked, "Signer is not a protected software signer"⟩
  ensure (record.secret.isSome ∧ record.signerPublicKey.isSome)
    ⟨.walletLocked, "Wallet has no protected signing material"⟩
  return record

def watchClassicRecord (m : WalletManager) (name : String) : Except WalletError WalletRecord := do
  let record ← m.getRecord name
  ensure record.watchOnly ⟨.wallet, "Wallet already has a local signer"⟩
  let account ← parseAccount c record.address
  ensure (account.1 = .classic)
    ⟨.wallet, "Direct secret/mnemonic upgrade requires a classic G account"⟩
  return record

/-- The envelope and the signer of a record, as they are handed to the core. -/
def signerFields (record : WalletRecord) : Except WalletError (Json × String) := do
  let envelope ← okOr record.secret ⟨.wallet, "missing required field"⟩
  let expected ← okOr record.signerPublicKey
    (FresnicaProcessClient.invalidField "expected_signer_public_key")
  return (envelope, expected)

def deriveRecordUnlockKey (record : WalletRecord) (walletPassword : String) :
    Except WalletError Uint256 := do
  let (envelope, expected) ← signerFields record
  FresnicaProcessClient.deriveVerifiedUnlockKey c.toWalletCrates envelope walletPassword expected

def hasAppPasscode (m : WalletManager) : Bool :=
  m.storage.list.any WalletRecord.hasProtectedSigner

/-- A wrong password of one record is a wrong passcode. -/
def appPasscodeError (message : String) (error : WalletError) : WalletError :=
  if error.kind = .invalidPassword then ⟨.invalidPassword, message⟩ else error

/-- One passcode for every protected signer. -/
def validateAppPasscode (m : WalletManager) (walletPassword : String) : Except WalletError Unit :=
  forM m.storage.list fun record => do
    if record.hasProtectedSigner then do
      let _ ← mapErr (appPasscodeError "Invalid Fresnica passcode")
        (deriveRecordUnlockKey c record walletPassword)
      return ()
    else return ()

/-! ### Methods that change nothing -/

def state (m : WalletManager) (name : Option String) : Except WalletError WalletState := do
  let record ← m.getRecord name
  if record.watchOnly then return .watchOnly
  else if m.session.any fun session => session.record.name = record.name then return .unlocked
  else return .locked

def capabilities (m : WalletManager) (name : Option String) :
    Except WalletError WalletCapabilities := do
  let record ← m.getRecord name
  let state ← m.state (some record.name)
  return {
    state := state
    canSend := state ≠ .watchOnly
    canUnlock := state = .locked ∧ record.signerKind = some WalletRecord.protectedSoftware
    canLock := state = .unlocked
    canFundTestnet := record.network = "testnet" }

def deriveVerifiedUnlockKey (m : WalletManager) (name : Option String) (walletPassword : String) :
    Except WalletError Uint256 := do
  let record ← m.signingRecord name
  deriveRecordUnlockKey c record walletPassword

def exportSigningMaterial (m : WalletManager) (name : Option String) (walletPassword : String) :
    Except WalletError ExportedSigningMaterial := do
  let record ← m.signingRecord name
  let (envelope, expected) ← signerFields record
  FresnicaProcessClient.reveal c.toWalletCrates envelope walletPassword expected

/-! ### The store and the session -/

def lock : ManagerM Unit := do
  let m ← Mut.current
  Mut.assign { m with session := none }

/-- The session is closed if it is the one of the wallet. -/
def lockIf (name : String) : ManagerM Unit := do
  let m ← Mut.current
  if m.session.any fun session => session.record.name = name then lock else return ()

/-- An operation of the store. -/
def store (operation : MemoryWalletStorage → Except WalletError MemoryWalletStorage) :
    ManagerM Unit := do
  let m ← Mut.current
  let storage ← Mut.attempt (operation m.storage)
  Mut.assign { m with storage := storage }

def save (record : WalletRecord) (overwrite : Bool) : ManagerM Unit :=
  store fun storage => storage.save record overwrite

def maybeDefault (name : String) (makeDefault : Option Bool) : ManagerM Unit := do
  let m ← Mut.current
  if makeDefault = some true ∨ makeDefault = none ∧ m.storage.default = none then
    store fun storage => storage.setDefault name
  else return ()

/-- A new record is stored, and perhaps made the default. -/
def saveNew (record : WalletRecord) (makeDefault : Option Bool) : ManagerM Unit := do
  save record false
  maybeDefault record.name makeDefault

/-! ### New wallets -/

def addWatch (now name address network : String) (makeDefault : Option Bool) : ManagerM Unit := do
  Mut.attempt (getNetwork network)
  let identity ← Mut.attempt (FresnicaProcessClient.parseAccount c.toWalletCrates address)
  let account ← Mut.attempt (parseAccount c identity.address)
  saveNew (WalletRecord.postInit {
    name := name
    address := account.2
    walletType := WalletRecord.watchOnlyType
    network := network
    secret := none
    metadata := [("created_at", .string now)]
    signerKind := none
    signerPublicKey := none }) makeDefault

/-- The record of a signer whose account has its address. -/
def signerRecord (name walletType network signerPublicKey : String) (envelope : Json)
    (metadata : List (String × Json)) : WalletRecord :=
  WalletRecord.postInit {
    name := name
    address := signerPublicKey
    walletType := walletType
    network := network
    secret := some envelope
    metadata := metadata
    signerKind := some WalletRecord.protectedSoftware
    signerPublicKey := some signerPublicKey }

def importSecret (random : SecretStore.Randomness) (now name secret walletPassword network : String)
    (makeDefault : Option Bool) : ManagerM Unit := do
  Mut.attempt (getNetwork network)
  let m ← Mut.current
  Mut.attempt (m.validateAppPasscode c walletPassword)
  let protected' ← Mut.attempt
    (FresnicaProcessClient.protectSecret c.toWalletCrates random secret walletPassword none)
  saveNew (signerRecord name "secret" network protected'.signerPublicKey protected'.envelope
    [("created_at", .string now)]) makeDefault

/-- The only language that a mnemonic has words of. -/
def detectMnemonicLanguage (mnemonic : String) : Except WalletError String :=
  let matches' := supportedMnemonicLanguages.filter fun language =>
    (c.parseIn language.2 (Text.strip mnemonic)).isSome
  match matches' with
  | [language] => .ok language.1
  | [] => .error ⟨.value, "Invalid or unsupported Stellar mnemonic phrase"⟩
  | _ => .error ⟨.value, "Mnemonic language is ambiguous; specify it explicitly"⟩

def mnemonicLanguageValue (mnemonic : String) (language : Option String) :
    Except WalletError String :=
  match language with
  | some language => .ok language
  | none => detectMnemonicLanguage c mnemonic

/-- A Python integer in a record. -/
def indexJson (index : ℤ) : Json :=
  match (BoundedInt.ofInt? index : Option U64), (BoundedInt.ofInt? index : Option I64) with
  | some index, _ => .number (.posInt index)
  | none, some index => .number (.negInt index)
  | none, none => .number (.float (toString index))

def importMnemonic (random : SecretStore.Randomness) (now name mnemonic walletPassword
    mnemonicPassphrase : String) (index : ℤ) (language : Option String) (network : String)
    (makeDefault : Option Bool) : ManagerM Unit := do
  Mut.attempt (getNetwork network)
  let m ← Mut.current
  Mut.attempt (m.validateAppPasscode c walletPassword)
  let language ← Mut.attempt (mnemonicLanguageValue c mnemonic language)
  let protected' ← Mut.attempt (FresnicaProcessClient.protectMnemonic c.toWalletCrates random
    mnemonic walletPassword mnemonicPassphrase index (some language) none)
  saveNew (signerRecord name "mnemonic" network protected'.signerPublicKey protected'.envelope
    [("created_at", .string now), ("index", indexJson index), ("language", .string language)])
    makeDefault

/-- The record is stored, and its words are returned for the user to write down. -/
def createMnemonic (random : SecretStore.Randomness) (now name walletPassword
    mnemonicPassphrase : String) (index : ℤ) (language : String) (strength : ℤ) (network : String)
    (makeDefault : Option Bool) : ManagerM String := do
  Mut.attempt (getNetwork network)
  let m ← Mut.current
  Mut.attempt (m.validateAppPasscode c walletPassword)
  let generated ← Mut.attempt (FresnicaProcessClient.generateMnemonic c.toWalletCrates random
    c.mnemonics walletPassword mnemonicPassphrase index language strength)
  saveNew (signerRecord name "mnemonic" network generated.signerPublicKey generated.envelope
    [("created_at", .string now), ("index", indexJson generated.index),
      ("language", .string generated.language)]) makeDefault
  return generated.mnemonic

/-! ### Signers of stored wallets -/

/-- The record with a signer of its own account. -/
def withSigner (record : WalletRecord) (walletType signerPublicKey : String) (envelope : Json) :
    WalletRecord :=
  WalletRecord.postInit { record with
    walletType := walletType
    signerKind := some WalletRecord.protectedSoftware
    signerPublicKey := some signerPublicKey
    secret := some envelope }

def upgradeWatchWithSecret (random : SecretStore.Randomness)
    (name secret walletPassword : String) : ManagerM Unit := do
  let m ← Mut.current
  let record ← Mut.attempt (m.watchClassicRecord c name)
  Mut.attempt (m.validateAppPasscode c walletPassword)
  let protected' ← Mut.attempt (FresnicaProcessClient.protectSecret c.toWalletCrates random secret
    walletPassword (some record.address))
  save (withSigner record "secret" protected'.signerPublicKey protected'.envelope) true

/-- The entries of a dictionary with others put in. -/
def updated (metadata others : List (String × Json)) : List (String × Json) :=
  others.foldl (fun entries entry => setEntry entry.1 entry.2 entries) metadata

def upgradeWatchWithMnemonic (random : SecretStore.Randomness) (name mnemonic walletPassword
    mnemonicPassphrase : String) (index : ℤ) (language : Option String) : ManagerM Unit := do
  let m ← Mut.current
  let record ← Mut.attempt (m.watchClassicRecord c name)
  Mut.attempt (m.validateAppPasscode c walletPassword)
  let language ← Mut.attempt (mnemonicLanguageValue c mnemonic language)
  let protected' ← Mut.attempt (FresnicaProcessClient.protectMnemonic c.toWalletCrates random
    mnemonic walletPassword mnemonicPassphrase index (some language) (some record.address))
  let metadata := updated record.metadata
    [("index", indexJson index), ("language", .string language)]
  save (withSigner { record with metadata := metadata } "mnemonic" protected'.signerPublicKey
    protected'.envelope) true

def downgradeToWatch (name : String) : ManagerM Unit := do
  let m ← Mut.current
  let record ← Mut.attempt (m.getRecord (some name))
  lockIf name
  save (WalletRecord.postInit { record with
    walletType := WalletRecord.watchOnlyType
    signerKind := none
    signerPublicKey := none
    secret := none }) true

def reprotectSigner (random : SecretStore.Randomness) (name : Option String)
    (currentPassword newPassword : String) : ManagerM Unit := do
  let m ← Mut.current
  let record ← Mut.attempt (m.signingRecord name)
  let (envelope, expected) ← Mut.attempt (signerFields record)
  let protected' ← Mut.attempt (FresnicaProcessClient.reprotect c.toWalletCrates random envelope
    currentPassword newPassword expected)
  let updated := WalletRecord.postInit { record with
    signerPublicKey := some protected'.signerPublicKey
    secret := some protected'.envelope }
  save updated true
  lockIf updated.name

/-- The wrapper of an envelope without one; other envelopes stay as they are. -/
def migrateLegacyPassword (envelope : Json) : Json :=
  if ProtectionRegistry.isLegacyPassword envelope then
    .object [("format", .string protectedSecretFormat),
      ("version", .number (.posInt protectedSecretVersion)),
      ("protection", .object [("type", .string "password")]), ("payload", envelope)]
  else envelope

def upgradeLegacyProtection (name : Option String) (password : String) : ManagerM Unit := do
  let m ← Mut.current
  let record ← Mut.attempt (m.getRecord name)
  if ¬ record.hasProtectedSigner then return ()
  else do
    let envelope ← Mut.attempt (okOr record.secret ⟨.wallet, "missing required field"⟩)
    if ¬ ProtectionRegistry.isLegacyPassword envelope then return ()
    else do
      let _ ← Mut.attempt (deriveRecordUnlockKey c record password)
      let upgraded := WalletRecord.postInit
        { record with secret := some (migrateLegacyPassword envelope) }
      save upgraded true
      let m ← Mut.current
      match m.session with
      | some session =>
        if session.record.name = upgraded.name then
          Mut.assign { m with session := some ⟨upgraded, session.wallet⟩ }
        else return ()
      | none => return ()

/-! ### Backups -/

/-- The checks on a record that is read from a backup. -/
def validateRecord (record : WalletRecord) : Except WalletError Unit := do
  ensure (¬ (Text.strip record.name).isEmpty) ⟨.wallet, "Invalid wallet backup: wallet name is missing"⟩
  ensure (record.walletType ∈ [WalletRecord.watchOnlyType, "secret", "mnemonic"])
    ⟨.wallet, s!"Invalid wallet backup: unsupported wallet type {record.walletType}"⟩
  mapErr (fun _ => ⟨.wallet, s!"Invalid wallet backup: unknown network {record.network}"⟩)
    (getNetwork record.network)
  let account ← mapErr (fun _ => ⟨.wallet, "Invalid wallet backup: invalid Stellar address"⟩)
    (parseAccount c record.address)
  ensure (account.2 = record.address)
    ⟨.wallet, "Invalid wallet backup: non-canonical Stellar address"⟩
  if record.watchOnly then
    ensure (record.secret.isNone ∧ record.signerPublicKey.isNone)
      ⟨.wallet, "Invalid wallet backup: watch-only wallet contains signing material"⟩
  else do
    ensure (record.signerKind = some WalletRecord.protectedSoftware)
      ⟨.wallet, "Invalid wallet backup: unsupported signer kind"⟩
    ensure (record.secret.any Json.isObject)
      ⟨.wallet, "Invalid wallet backup: encrypted signing material is missing"⟩
    let signerPublicKey ← okOr record.signerPublicKey
      ⟨.wallet, "Invalid wallet backup: signer public key is missing"⟩
    let _ ← okOr (c.accounts.publicKeyOf? signerPublicKey)
      ⟨.wallet, "Invalid wallet backup: signer public key is invalid"⟩
    return ()

/-- A record that was read from a backup is stored under its own name or another one. -/
def restoreBackup (record : WalletRecord) (name : Option String) (makeDefault : Option Bool)
    (walletPassword : Option String) : ManagerM Unit := do
  Mut.attempt (validateRecord c record.postInit)
  let record ← Mut.attempt (match name with
    | none => .ok record.postInit
    | some name => do
      ensure (¬ (Text.strip name).isEmpty) ⟨.wallet, "Restored wallet name cannot be empty"⟩
      return WalletRecord.postInit { record.postInit with name := Text.strip name })
  let m ← Mut.current
  if ¬ record.watchOnly ∧ m.hasAppPasscode then do
    let walletPassword ← Mut.attempt (okOr (walletPassword.filter (¬ ·.isEmpty))
      ⟨.invalidPassword, "Fresnica passcode is required to restore a signing wallet"⟩)
    Mut.attempt (m.validateAppPasscode c walletPassword)
    let _ ← Mut.attempt (mapErr
      (appPasscodeError "Backup does not use the current Fresnica passcode")
      (deriveRecordUnlockKey c record walletPassword))
    saveNew record makeDefault
  else saveNew record makeDefault

/-! ### Sessions -/

def unlockWithKey (name : Option String) (unlockKey : Uint256) : ManagerM Unit := do
  let m ← Mut.current
  let record ← Mut.attempt (m.signingRecord name)
  let account ← Mut.attempt (parseAccount c record.address)
  let (envelope, expected) ← Mut.attempt (signerFields record)
  Mut.attempt (FresnicaProcessClient.validateUnlockKey c.toWalletCrates envelope unlockKey expected)
  let key ← Mut.attempt (okOr (c.accounts.publicKeyOf? expected)
    ⟨.value, "Invalid Ed25519 public key"⟩)
  Mut.attempt (ensure (account.1 = .classic)
    ⟨.value, "Contract account signer support is not implemented"⟩)
  Mut.assign { m with session := some ⟨record,
    ⟨account.2, some ⟨c.accounts.publicKey key, envelope, unlockKey⟩⟩⟩ }

def unlock (name : Option String) (walletPassword : String) : ManagerM Unit := do
  let m ← Mut.current
  let unlockKey ← Mut.attempt (m.deriveVerifiedUnlockKey c name walletPassword)
  unlockWithKey c name unlockKey

def setDefault (name : String) : ManagerM Unit := do
  store fun storage => storage.setDefault name
  let m ← Mut.current
  if m.session.any fun session => session.record.name ≠ name then lock else return ()

def delete (name : String) : ManagerM Unit := do
  let m ← Mut.current
  lockIf name
  store fun storage => storage.delete name
  if m.storage.default = some name then do
    let m ← Mut.current
    match m.storage.list with
    | [] => return ()
    | record :: _ => store fun storage => storage.setDefault record.name
  else return ()

end Methods

end WalletManager

/-- A call of a method that may change the manager. -/
inductive ManagerCall
  | addWatch (now name address network : String) (makeDefault : Option Bool)
  | importSecret (random : SecretStore.Randomness)
      (now name secret walletPassword network : String) (makeDefault : Option Bool)
  | importMnemonic (random : SecretStore.Randomness)
      (now name mnemonic walletPassword mnemonicPassphrase : String) (index : ℤ)
      (language : Option String) (network : String) (makeDefault : Option Bool)
  | createMnemonic (random : SecretStore.Randomness)
      (now name walletPassword mnemonicPassphrase : String) (index : ℤ) (language : String)
      (strength : ℤ) (network : String) (makeDefault : Option Bool)
  | upgradeWatchWithSecret (random : SecretStore.Randomness) (name secret walletPassword : String)
  | upgradeWatchWithMnemonic (random : SecretStore.Randomness)
      (name mnemonic walletPassword mnemonicPassphrase : String) (index : ℤ)
      (language : Option String)
  | downgradeToWatch (name : String)
  | reprotectSigner (random : SecretStore.Randomness) (name : Option String)
      (currentPassword newPassword : String)
  | upgradeLegacyProtection (name : Option String) (password : String)
  | restoreBackup (record : WalletRecord) (name : Option String) (makeDefault : Option Bool)
      (walletPassword : Option String)
  | unlock (name : Option String) (walletPassword : String)
  | unlockWithKey (name : Option String) (unlockKey : Uint256)
  | lock
  | setDefault (name : String)
  | delete (name : String)

/-- The call, without what it returns. -/
def ManagerCall.run (c : ManagerCrates) : ManagerCall → ManagerM Unit
  | .addWatch now name address network makeDefault =>
    WalletManager.addWatch c now name address network makeDefault
  | .importSecret random now name secret walletPassword network makeDefault =>
    WalletManager.importSecret c random now name secret walletPassword network makeDefault
  | .importMnemonic random now name mnemonic walletPassword mnemonicPassphrase index language
      network makeDefault =>
    WalletManager.importMnemonic c random now name mnemonic walletPassword mnemonicPassphrase index
      language network makeDefault
  | .createMnemonic random now name walletPassword mnemonicPassphrase index language strength
      network makeDefault => do
    let _ ← WalletManager.createMnemonic c random now name walletPassword mnemonicPassphrase index
      language strength network makeDefault
  | .upgradeWatchWithSecret random name secret walletPassword =>
    WalletManager.upgradeWatchWithSecret c random name secret walletPassword
  | .upgradeWatchWithMnemonic random name mnemonic walletPassword mnemonicPassphrase index
      language =>
    WalletManager.upgradeWatchWithMnemonic c random name mnemonic walletPassword
      mnemonicPassphrase index language
  | .downgradeToWatch name => WalletManager.downgradeToWatch name
  | .reprotectSigner random name currentPassword newPassword =>
    WalletManager.reprotectSigner c random name currentPassword newPassword
  | .upgradeLegacyProtection name password =>
    WalletManager.upgradeLegacyProtection c name password
  | .restoreBackup record name makeDefault walletPassword =>
    WalletManager.restoreBackup c record name makeDefault walletPassword
  | .unlock name walletPassword => WalletManager.unlock c name walletPassword
  | .unlockWithKey name unlockKey => WalletManager.unlockWithKey c name unlockKey
  | .lock => WalletManager.lock
  | .setDefault name => WalletManager.setDefault name
  | .delete name => WalletManager.delete name

end Fresnica.Python
