import Fresnica.Foundation.Run
import Fresnica.Python.WalletManager

/-!
# Wallets over the life of a manager

A call either fails and leaves the manager as it was, or makes one of a few changes. From
these follows what holds of every manager, whatever calls were made and whichever failed:
wallets are stored under their own names, keep their accounts and networks, and the key of a
session opens the signer that is stored.

One passcode is to open every protected signer. A wallet that is restored into a store
without protected signers is not opened, and a signer that is protected again takes the new
passcode alone; with several signers there is one passcode for all of them as long as this
is done to a signer only while it is the only one.

## Main definitions

* `WalletManager.Sound` — what holds of every manager
* `OnePasscode` — one passcode opens every protected signer, or there is at
  most one of them
* `Change` — what a call may do
* `ManagerCall.Step`, `ManagerCall.CarefulStep` — calls, and calls that protect a signer again
  only while it is the only one

## Main results

* `change_of_run` — a call does nothing else, also when it fails
* `Change.sound`, `Change.onePasscode` — what every change keeps
* `manager_sound`, `manager_one_passcode` — what holds over every run
-/

namespace Fresnica.Python

open Foundation

variable {c : ManagerCrates} {m m' : WalletManager} {s t : MemoryWalletStorage}
  {record old : WalletRecord} {session : WalletSession} {envelope envelope' : Json}
  {name address expected passcode network : String} {name? : Option String}
  {makeDefault : Option Bool} {random : SecretStore.Randomness} {unlockKey : Uint256}
  {call : ManagerCall} {calls : List ManagerCall}

/-! ### Records -/

/-- The signer of a record: the envelope of its material, and the text of its key. -/
structure WalletRecord.HasSigner (record : WalletRecord) (envelope : Json) (expected : String) :
    Prop where
  kind : record.signerKind = some WalletRecord.protectedSoftware
  secret : record.secret = some envelope
  key : record.signerPublicKey = some expected

/-- A record without anything of a signer. -/
structure WalletRecord.HasNoSigner (record : WalletRecord) : Prop where
  kind : record.signerKind = none
  secret : record.secret = none
  key : record.signerPublicKey = none

/-- The address of a record is the text of an account, its network is known, and it has a
protected signer with the text of a key, or nothing of a signer. -/
structure WalletRecord.WellFormed (c : ManagerCrates) (record : WalletRecord) : Prop where
  address : ∃ kind, WalletManager.parseAccount c record.address = .ok (kind, record.address)
  network : WalletManager.getNetwork record.network = .ok ()
  signer : record.HasNoSigner ∨
    ∃ envelope key, record.HasSigner envelope (c.accounts.publicKey key)

namespace WalletRecord

theorem HasSigner.hasProtectedSigner (h : record.HasSigner envelope expected) :
    record.hasProtectedSigner = true := by
  rw [WalletRecord.hasProtectedSigner, h.kind, h.secret]
  rfl

theorem HasSigner.watchOnly (h : record.HasSigner envelope expected) :
    record.watchOnly = false := by
  rw [WalletRecord.watchOnly, h.kind]
  rfl

theorem HasNoSigner.hasProtectedSigner (h : record.HasNoSigner) :
    record.hasProtectedSigner = false := by
  rw [WalletRecord.hasProtectedSigner, h.kind]
  rfl

theorem HasNoSigner.watchOnly (h : record.HasNoSigner) : record.watchOnly = true := by
  rw [WalletRecord.watchOnly, h.kind]
  rfl

/-- A well-formed record whose signer is protected has everything of a signer. -/
theorem WellFormed.hasSigner (h : record.WellFormed c) (hsigner : record.watchOnly = false) :
    ∃ envelope key, record.HasSigner envelope (c.accounts.publicKey key) := by
  rcases h.signer with hnone | hsome
  · rw [hnone.watchOnly] at hsigner
    exact absurd hsigner (by decide)
  · exact hsome

end WalletRecord

namespace WalletManager

theorem parseAccount_publicKey (key : Uint256) :
    parseAccount c (c.accounts.publicKey key) = .ok (.classic, c.accounts.publicKey key) := by
  simp only [parseAccount, c.strip_publicKey,
    c.accounts.fromString_eq_publicKey_iff.mpr rfl]

/-- An address that is read is a text in stripped form, and is read again. -/
theorem parseAccount_parsed {kind : AccountKind} {text : String}
    (h : parseAccount c text = .ok (kind, address)) :
    address = Text.strip text ∧ parseAccount c address = .ok (kind, address) := by
  have hstrip : address = Text.strip text := by
    rw [parseAccount] at h
    split at h <;> cases h <;> rfl
  refine ⟨hstrip, ?_⟩
  rw [parseAccount] at h ⊢
  subst hstrip
  rwa [Text.strip_strip]

theorem parseAccount_classic {text : String} (h : parseAccount c text = .ok (.classic, address)) :
    ∃ key, c.accounts.publicKey key = address := by
  rw [parseAccount] at h
  split at h
  · rename_i key hread
    cases h
    exact ⟨key, c.accounts.fromString_eq_publicKey_iff.mp hread⟩
  · cases h
  · cases h

/-! ### Opening records -/

/-- The passcode opens the signer of the record. -/
def RecordOpens (c : ManagerCrates) (record : WalletRecord) (passcode : String) : Prop :=
  ∃ unlockKey, deriveRecordUnlockKey c record passcode = .ok unlockKey

/-- The passcode opens every protected signer of the store. -/
def OpensAll (c : ManagerCrates) (s : MemoryWalletStorage) (passcode : String) : Prop :=
  ∀ name record, s.wallets.get? name = some record → record.hasProtectedSigner = true →
    RecordOpens c record passcode

theorem signerFields_eq_ok (h : record.HasSigner envelope expected) :
    signerFields record = .ok (envelope, expected) := by
  rw [signerFields, h.secret, h.key]
  rfl

theorem recordOpens_iff (h : record.HasSigner envelope expected) :
    RecordOpens c record passcode ↔
      FresnicaProcessClient.Opens c.toWalletCrates envelope passcode expected := by
  unfold RecordOpens deriveRecordUnlockKey
  rw [signerFields_eq_ok h]
  exact Iff.rfl

/-- The check of the passcode passes when the passcode opens every protected signer. -/
theorem validateAppPasscode_eq_ok (hs : m.storage.Named) :
    m.validateAppPasscode c passcode = .ok () ↔ OpensAll c m.storage passcode := by
  rw [validateAppPasscode, forM_eq_ok]
  constructor
  · intro h name record hget hsigner
    have hrecord := h record (MemoryWalletStorage.mem_list_of_get? hget)
    rw [if_pos hsigner, bind_eq_ok] at hrecord
    obtain ⟨unlockKey, hkey, -⟩ := hrecord
    exact ⟨unlockKey, mapErr_eq_ok.mp hkey⟩
  · intro h record hrecord
    split_ifs with hsigner
    · obtain ⟨unlockKey, hkey⟩ := h _ _ (hs.get?_of_mem_list hrecord) hsigner
      rw [hkey]
      rfl
    · rfl

/-! ### What procedures do -/

/-- The session, unless it is the one of the wallet. -/
def closed (m : WalletManager) (name : String) : Option WalletSession :=
  m.session.filter fun session => decide (session.record.name ≠ name)

theorem lockIf_run : lockIf name m = (.ok (), { m with session := m.closed name }) := by
  obtain ⟨storage, session⟩ := m
  rw [lockIf, Mut.current_bind, closed]
  cases session with
  | none => rfl
  | some session =>
    by_cases hname : session.record.name = name
    · simp only [Option.any_some, hname, decide_true, if_true, Option.filter_some, ne_eq,
        not_true_eq_false, decide_false, Bool.false_eq_true, if_false]
      rfl
    · simp only [Option.any_some, hname, decide_false, Bool.false_eq_true, if_false,
        Option.filter_some, ne_eq, not_false_eq_true, decide_true, if_true]
      rfl

theorem store_run {operation : MemoryWalletStorage → Except WalletError MemoryWalletStorage}
    (h : operation m.storage = .ok s) : store operation m = (.ok (), { m with storage := s }) := by
  rw [store, Mut.current_bind, h]
  rfl

theorem store_eq_ok {operation : MemoryWalletStorage → Except WalletError MemoryWalletStorage}
    (h : store operation m = (.ok (), m')) :
    ∃ s, operation m.storage = .ok s ∧ m' = { m with storage := s } := by
  rw [store, Mut.current_bind] at h
  obtain ⟨s, _, hs, h⟩ := Mut.bind_eq_ok.mp h
  obtain ⟨hs, rfl⟩ := Mut.attempt_eq_ok.mp hs
  exact ⟨s, hs, Mut.assign_eq_ok.mp h⟩

theorem store_atomic {operation : MemoryWalletStorage → Except WalletError MemoryWalletStorage} :
    Mut.Atomic (store operation) :=
  .bind .current fun _ => .bind .attempt fun _ => .assign

/-- A record is stored over the one of its name. -/
theorem save_run : save record true m =
    (.ok (), { m with storage.wallets := m.storage.wallets.set record.name record }) :=
  store_run MemoryWalletStorage.save_overwrite

theorem save_total : Mut.Total (save record true) := by
  intro m e t h
  rw [save_run] at h
  cases h

theorem lockIf_total : Mut.Total (lockIf name) := by
  intro m e t h
  rw [lockIf_run] at h
  cases h

/-- A wallet that is stored can be the default. -/
theorem maybeDefault_run (m : WalletManager) (makeDefault : Option Bool)
    (h : s.wallets.get? name = some record) :
    ∃ default, (default = some name ∨ default = s.default) ∧
      maybeDefault name makeDefault ⟨s, m.session⟩ =
        (.ok (), ⟨{ s with default := default }, m.session⟩) := by
  have hdefault : s.setDefault name = .ok { s with default := some name } :=
    bind_eq_ok.mpr ⟨record, MemoryWalletStorage.load_eq_ok.mpr h, rfl⟩
  by_cases hmake : makeDefault = some true ∨ makeDefault = none ∧ s.default = none
  · refine ⟨some name, .inl rfl, ?_⟩
    rw [maybeDefault, Mut.current_bind, if_pos hmake]
    exact store_run hdefault
  · refine ⟨s.default, .inr rfl, ?_⟩
    rw [maybeDefault, Mut.current_bind, if_neg hmake]
    rfl

/-- A new record is stored unless there is one of its name. -/
theorem saveNew_run (makeDefault : Option Bool)
    (h : m.storage.wallets.get? record.name = none) :
    ∃ default, (default = some record.name ∨ default = m.storage.default) ∧
      saveNew record makeDefault m =
        (.ok (), ⟨⟨m.storage.wallets.set record.name record, default⟩, m.session⟩) := by
  have hget : (m.storage.wallets.set record.name record).get? record.name = some record := by
    rw [Dict.get?_set, if_pos rfl]
  obtain ⟨default, hdefault, hrun⟩ := maybeDefault_run m makeDefault
    (s := { m.storage with wallets := m.storage.wallets.set record.name record }) hget
  refine ⟨default, hdefault, ?_⟩
  rw [saveNew, save, Mut.bind_of_ok (store_run (MemoryWalletStorage.save_new h))]
  exact hrun

theorem saveNew_stored (h : m.storage.wallets.get? record.name = some old) :
    saveNew record makeDefault m =
      (.error ⟨.walletExists, s!"Wallet already exists: {record.name}"⟩, m) := by
  have hsave : m.storage.save record false =
      .error ⟨.walletExists, s!"Wallet already exists: {record.name}"⟩ := by
    rw [MemoryWalletStorage.save, h]
    rfl
  rw [saveNew, save, store]
  apply Mut.bind_of_error
  rw [Mut.current_bind, hsave]
  rfl

theorem saveNew_atomic : Mut.Atomic (saveNew record makeDefault) := by
  intro m e m' h
  cases hget : m.storage.wallets.get? record.name with
  | none =>
    obtain ⟨default, -, hrun⟩ := saveNew_run makeDefault hget
    rw [hrun] at h
    cases h
  | some old =>
    rw [saveNew_stored hget] at h
    exact (Prod.mk.inj h).2.symm

theorem saveNew_eq_ok (h : saveNew record makeDefault m = (.ok (), m')) :
    m.storage.wallets.get? record.name = none ∧
      ∃ default, (default = some record.name ∨ default = m.storage.default) ∧
        m' = ⟨⟨m.storage.wallets.set record.name record, default⟩, m.session⟩ := by
  cases hget : m.storage.wallets.get? record.name with
  | none =>
    obtain ⟨default, hdefault, hrun⟩ := saveNew_run makeDefault hget
    rw [hrun] at h
    exact ⟨rfl, default, hdefault, (Prod.mk.inj h).2.symm⟩
  | some old =>
    rw [saveNew_stored hget] at h
    cases h

end WalletManager

/-! ### What a call may do -/

/-- A passcode opens the record together with the protected signers of the store, or there
are none of these. -/
def Fits (c : ManagerCrates) (s : MemoryWalletStorage) (record : WalletRecord) : Prop :=
  record.hasProtectedSigner = true →
    (∃ passcode, WalletManager.OpensAll c s passcode ∧
      WalletManager.RecordOpens c record passcode) ∨
    ∀ name other, s.wallets.get? name = some other → other.hasProtectedSigner = false

structure SameAccount (old record : WalletRecord) : Prop where
  name : record.name = old.name
  address : record.address = old.address
  network : record.network = old.network

/-- The session is one of a stored wallet with a classic account, and its key opens the
envelope that it holds, which the stored record has too, perhaps in a wrapper. -/
structure WalletSession.Sound (c : ManagerCrates) (s : MemoryWalletStorage)
    (session : WalletSession) : Prop where
  stored : s.wallets.get? session.record.name = some session.record
  address : session.wallet.address = session.record.address
  classic : ∃ key, c.accounts.publicKey key = session.wallet.address
  signer : ∃ envelope signer, session.wallet.signer = some signer ∧
    session.record.HasSigner envelope signer.publicKey ∧
    ProtectionRegistry.passwordProviderEnvelope envelope =
      ProtectionRegistry.passwordProviderEnvelope signer.envelope ∧
    FresnicaProcessClient.validateUnlockKey c.toWalletCrates signer.envelope signer.unlockKey
      signer.publicKey = .ok ()

/-- The store with a record in it, under the name of the record. -/
def MemoryWalletStorage.put (s : MemoryWalletStorage) (record : WalletRecord) :
    MemoryWalletStorage :=
  { s with wallets := s.wallets.set record.name record }

/-- Whether the call protects a stored signer with a new passcode. -/
def ManagerCall.rotates : ManagerCall → Bool
  | .reprotectSigner .. => true
  | _ => false

/-- What a call may do. -/
inductive Change (c : ManagerCrates) (call : ManagerCall) (m : WalletManager) :
    WalletManager → Prop
  | same : Change c call m m
  | locked : Change c call m { m with session := none }
  | chosen (name : String) (record : WalletRecord) (session : Option WalletSession) :
      m.storage.wallets.get? name = some record →
      session = none ∨ session = m.session →
      Change c call m ⟨{ m.storage with default := some name }, session⟩
  | added (record : WalletRecord) (default : Option String) :
      m.storage.wallets.get? record.name = none → record.WellFormed c →
      Fits c m.storage record → default = some record.name ∨ default = m.storage.default →
      Change c call m ⟨{ m.storage.put record with default := default }, m.session⟩
  | upgraded (old record : WalletRecord) (envelope : Json) (key : Uint256) (passcode : String) :
      m.storage.wallets.get? record.name = some old → SameAccount old record →
      old.watchOnly = true → record.HasSigner envelope (c.accounts.publicKey key) →
      WalletManager.OpensAll c m.storage passcode → WalletManager.RecordOpens c record passcode →
      Change c call m { m with storage := m.storage.put record }
  | downgraded (old record : WalletRecord) : m.storage.wallets.get? record.name = some old →
      SameAccount old record → record.HasNoSigner →
      Change c call m ⟨m.storage.put record, m.closed record.name⟩
  | reprotected (old record : WalletRecord) (envelope envelope' : Json)
      (expected passcode : String) : call.rotates = true →
      m.storage.wallets.get? record.name = some old → SameAccount old record →
      old.HasSigner envelope expected → record.HasSigner envelope' expected →
      WalletManager.RecordOpens c record passcode →
      Change c call m ⟨m.storage.put record, m.closed record.name⟩
  | migrated (old record : WalletRecord) (envelope envelope' : Json) (expected : String) :
      m.storage.wallets.get? record.name = some old → SameAccount old record →
      old.HasSigner envelope expected → record.HasSigner envelope' expected →
      ProtectionRegistry.passwordProviderEnvelope envelope' =
        ProtectionRegistry.passwordProviderEnvelope envelope →
      Change c call m ⟨m.storage.put record, m.session.map fun session =>
        if session.record.name = record.name then ⟨record, session.wallet⟩ else session⟩
  | unlocked (session : WalletSession) : session.Sound c m.storage →
      Change c call m { m with session := some session }
  | deleted (name : String) (default : Option String) : call = .delete name →
      (∀ key, default = some key →
        ∃ record, (m.storage.wallets.erase name).get? key = some record) →
      Change c call m ⟨⟨m.storage.wallets.erase name, default⟩, m.closed name⟩

/-- What holds of every manager. -/
structure WalletManager.Sound (c : ManagerCrates) (m : WalletManager) : Prop where
  named : m.storage.Named
  wellFormed : ∀ {name record}, m.storage.wallets.get? name = some record → record.WellFormed c
  session : ∀ session, m.session = some session → session.Sound c m.storage

/-! ### What every change keeps -/

namespace MemoryWalletStorage

theorem get?_put {key : String} : (s.put record).wallets.get? key =
    if key = record.name then some record else s.wallets.get? key :=
  Dict.get?_set

theorem Named.put (hs : s.Named) : (s.put record).Named := hs.save save_overwrite

/-- A default that is stored can be chosen. -/
theorem Named.withDefault {default : Option String} (hs : s.Named)
    (h : ∀ key, default = some key → ∃ record, s.wallets.get? key = some record) :
    Named { s with default := default } where
  name := hs.name
  default := by
    intro key hkey
    exact h key hkey

end MemoryWalletStorage

/-- A session is about its own wallet only. -/
theorem WalletSession.Sound.of_stored (h : session.Sound c s)
    (hstored : t.wallets.get? session.record.name = some session.record) : session.Sound c t where
  stored := hstored
  address := h.address
  classic := h.classic
  signer := h.signer

namespace WalletManager

theorem closed_eq_some (h : m.closed name = some session) :
    m.session = some session ∧ session.record.name ≠ name := by
  obtain ⟨hsession, hname⟩ := Option.filter_eq_some_iff.mp h
  exact ⟨hsession, of_decide_eq_true hname⟩

theorem sound_empty : empty.Sound c where
  named := MemoryWalletStorage.named_empty
  wellFormed := by
    intro name record h
    rw [empty, MemoryWalletStorage.empty, Dict.get?_empty] at h
    cases h
  session := by
    intro session h
    cases h

namespace Sound

theorem wellFormed_put (hm : m.Sound c) (hrecord : record.WellFormed c) {other : WalletRecord}
    (h : (m.storage.put record).wallets.get? name = some other) : other.WellFormed c := by
  rw [MemoryWalletStorage.get?_put] at h
  split_ifs at h
  · obtain rfl := Option.some.inj h
    exact hrecord
  · exact hm.wellFormed h

/-- A session of another wallet is as good as before. -/
theorem session_put (hm : m.Sound c) (hsession : m.session = some session)
    (hname : session.record.name ≠ record.name) : session.Sound c (m.storage.put record) := by
  have hsound := hm.session session hsession
  apply hsound.of_stored
  rw [MemoryWalletStorage.get?_put, if_neg hname]
  exact hsound.stored

/-- A stored record is replaced by one of its account, and the session of its wallet is
closed. -/
theorem replaced (hm : m.Sound c) (hrecord : record.WellFormed c) :
    Sound c ⟨m.storage.put record, m.closed record.name⟩ where
  named := hm.named.put
  wellFormed := hm.wellFormed_put hrecord
  session := by
    intro session h
    obtain ⟨hsession, hname⟩ := closed_eq_some h
    exact hm.session_put hsession hname

end Sound

end WalletManager

theorem SameAccount.wellFormed (h : SameAccount old record) (hold : old.WellFormed c)
    (hsigner : record.HasNoSigner ∨
      ∃ envelope key, record.HasSigner envelope (c.accounts.publicKey key)) :
    record.WellFormed c where
  address := h.address ▸ hold.address
  network := h.network ▸ hold.network
  signer := hsigner

/-- The signer of a well-formed record has the text of a key. -/
theorem WalletRecord.WellFormed.exists_key (h : record.WellFormed c)
    (hsigner : record.HasSigner envelope expected) :
    ∃ key, c.accounts.publicKey key = expected := by
  obtain ⟨_, key, hown⟩ := h.hasSigner hsigner.watchOnly
  exact ⟨key, Option.some.inj (hown.key.symm.trans hsigner.key)⟩

/-- A record with the signer of a well-formed one is well formed, with its new envelope. -/
theorem SameAccount.wellFormed_signer (h : SameAccount old record) (hold : old.WellFormed c)
    (hsigner : old.HasSigner envelope expected) (hnew : record.HasSigner envelope' expected) :
    record.WellFormed c := by
  obtain ⟨key, rfl⟩ := hold.exists_key hsigner
  exact h.wellFormed hold (.inr ⟨envelope', key, hnew⟩)

theorem Change.sound (h : Change c call m m') (hm : m.Sound c) :
    m'.Sound c := by
  cases h with
  | same => exact hm
  | locked =>
    refine ⟨hm.named, hm.wellFormed, ?_⟩
    intro session h
    cases h
  | chosen name record session hget hsession =>
    refine ⟨hm.named.withDefault ?_, hm.wellFormed, ?_⟩
    · intro key hkey
      obtain rfl := Option.some.inj hkey
      exact ⟨record, hget⟩
    · rintro session rfl
      rcases hsession with hnone | hsome
      · cases hnone
      · exact (hm.session session hsome.symm).of_stored (hm.session session hsome.symm).stored
  | added record default hnew hrecord hfits hdefault =>
    refine ⟨hm.named.put.withDefault ?_, hm.wellFormed_put hrecord, ?_⟩
    · rintro key rfl
      rw [MemoryWalletStorage.get?_put]
      split_ifs with hname
      · exact ⟨record, rfl⟩
      · rcases hdefault with hown | hkept
        · exact absurd (Option.some.inj hown) hname
        · exact hm.named.default hkept.symm
    · intro session h
      have hname : session.record.name ≠ record.name := by
        intro hname
        have hstored := (hm.session session h).stored
        rw [hname, hnew] at hstored
        cases hstored
      have hput : session.Sound c (m.storage.put record) := hm.session_put h hname
      exact hput.of_stored hput.stored
  | upgraded old record envelope key passcode hget hsame hwatch hsigner hall hopens =>
    refine ⟨hm.named.put, hm.wellFormed_put ?_, ?_⟩
    · exact hsame.wellFormed (hm.wellFormed hget) (.inr ⟨envelope, key, hsigner⟩)
    · intro session h
      apply hm.session_put h
      intro hname
      -- the wallet of a session has a signer
      have hsound := hm.session session h
      have hstored := hsound.stored
      rw [hname, hget] at hstored
      obtain rfl := Option.some.inj hstored
      obtain ⟨_, _, -, hheld, -⟩ := hsound.signer
      rw [hheld.watchOnly] at hwatch
      cases hwatch
  | downgraded old record hget hsame hnone =>
    exact hm.replaced (hsame.wellFormed (hm.wellFormed hget) (.inl hnone))
  | reprotected old record envelope envelope' expected passcode _ hget hsame hold hsigner =>
    exact hm.replaced (hsame.wellFormed_signer (hm.wellFormed hget) hold hsigner)
  | migrated old record envelope envelope' expected hget hsame hold hsigner hinner =>
    have hrecord := hsame.wellFormed_signer (hm.wellFormed hget) hold hsigner
    refine ⟨hm.named.put, hm.wellFormed_put hrecord, ?_⟩
    intro session h
    obtain ⟨held, hheld, rfl⟩ := Option.map_eq_some_iff.mp h
    split_ifs with hname
    · -- the session has the bare envelope, and the record now has it in a wrapper
      have hsound := hm.session held hheld
      have hstored := hsound.stored
      rw [hname, hget] at hstored
      obtain rfl := Option.some.inj hstored
      refine ⟨?_, hsound.address.trans hsame.address.symm, hsound.classic, ?_⟩
      · dsimp only
        rw [MemoryWalletStorage.get?_put, if_pos rfl]
      · obtain ⟨stored, signer, hsome, hown, hprovider, hvalid⟩ := hsound.signer
        have hkey : signer.publicKey = expected :=
          Option.some.inj (hown.key.symm.trans hold.key)
        have hsecret : stored = envelope := Option.some.inj (hown.secret.symm.trans hold.secret)
        refine ⟨envelope', signer, hsome, ?_, ?_, hvalid⟩
        · rw [hkey]
          exact hsigner
        · rw [hinner, ← hsecret, hprovider]
    · exact hm.session_put hheld hname
  | unlocked session hsession =>
    refine ⟨hm.named, hm.wellFormed, ?_⟩
    intro other h
    obtain rfl := Option.some.inj h
    exact hsession
  | deleted name default _ hdefault =>
    refine ⟨⟨?_, ?_⟩, ?_, ?_⟩
    · intro key record h
      rw [Dict.get?_erase] at h
      split_ifs at h
      exact hm.named.name h
    · intro key hkey
      exact hdefault key hkey
    · intro key record h
      rw [Dict.get?_erase] at h
      split_ifs at h
      exact hm.wellFormed h
    · intro session h
      obtain ⟨hsession, hname⟩ := WalletManager.closed_eq_some h
      have hsound := hm.session session hsession
      apply hsound.of_stored
      rw [Dict.get?_erase, if_neg hname]
      exact hsound.stored

/-! ### What the methods change -/

namespace WalletManager

variable {result : ProtectedSoftwareSignerResult}

theorem getRecord_eq_ok (h : m.getRecord name? = .ok record) :
    ∃ name, m.storage.wallets.get? name = some record ∧ ∀ given, name? = some given →
      name = given := by
  unfold getRecord at h
  cases name? with
  | some given =>
    refine ⟨given, MemoryWalletStorage.load_eq_ok.mp h, ?_⟩
    intro other hother
    exact Option.some.inj hother
  | none =>
    dsimp only at h
    split at h
    · exact ⟨_, MemoryWalletStorage.load_eq_ok.mp h, by simp⟩
    · exact ⟨_, MemoryWalletStorage.load_eq_ok.mp h, by simp⟩
    · cases h

/-- A record that is found is the one of its name. -/
theorem Sound.get?_of_getRecord (hm : m.Sound c) (h : m.getRecord name? = .ok record) :
    m.storage.wallets.get? record.name = some record := by
  obtain ⟨name, hget, -⟩ := getRecord_eq_ok h
  rwa [hm.named.name hget]

/-- A record that signs has everything of a signer. -/
theorem Sound.hasSigner (hm : m.Sound c) (h : m.signingRecord name? = .ok record) :
    m.storage.wallets.get? record.name = some record ∧
      ∃ envelope key, record.HasSigner envelope (c.accounts.publicKey key) := by
  obtain ⟨found, hfound, h⟩ := bind_eq_ok.mp h
  obtain ⟨hwatch, h⟩ := ensure_bind_eq_ok.mp h
  obtain ⟨-, h⟩ := ensure_bind_eq_ok.mp h
  obtain ⟨-, h⟩ := ensure_bind_eq_ok.mp h
  obtain rfl := Except.ok.inj h
  have hget := hm.get?_of_getRecord hfound
  exact ⟨hget, (hm.wellFormed hget).hasSigner (Bool.eq_false_iff.mpr hwatch)⟩

/-- A record that may get a signer has none, and its address is the text of a key. -/
theorem Sound.watchClassic (hm : m.Sound c) (h : m.watchClassicRecord c name = .ok record) :
    m.storage.wallets.get? record.name = some record ∧ record.watchOnly = true ∧
      Text.trim record.address = record.address := by
  obtain ⟨found, hfound, h⟩ := bind_eq_ok.mp h
  obtain ⟨hwatch, h⟩ := ensure_bind_eq_ok.mp h
  obtain ⟨account, haccount, h⟩ := bind_eq_ok.mp h
  obtain ⟨-, h⟩ := ensure_bind_eq_ok.mp h
  obtain rfl := Except.ok.inj h
  have hget := hm.get?_of_getRecord hfound
  obtain ⟨kind, haddress⟩ := (hm.wellFormed hget).address
  refine ⟨hget, hwatch, ?_⟩
  rw [(parseAccount_parsed haddress).1, Text.trim_strip]

/-! #### New wallets -/

/-- A record that has been stored as a new one is added. -/
theorem added_of_saveNew (hrecord : record.WellFormed c) (hfits : Fits c m.storage record)
    (h : saveNew record makeDefault m = (.ok (), m')) : Change c call m m' := by
  obtain ⟨hnew, default, hdefault, rfl⟩ := saveNew_eq_ok h
  exact .added record default hnew hrecord hfits hdefault

theorem addWatch_change {now : String}
    (h : addWatch c now name address network makeDefault m = (.ok (), m')) :
    Change c call m m' := by
  obtain ⟨_, hnetwork, h⟩ := Mut.attempt_bind_eq_ok.mp h
  obtain ⟨identity, -, h⟩ := Mut.attempt_bind_eq_ok.mp h
  obtain ⟨⟨kind, text⟩, haccount, h⟩ := Mut.attempt_bind_eq_ok.mp h
  rw [WalletRecord.postInit_of_secret rfl] at h
  apply added_of_saveNew _ _ h
  · exact ⟨⟨kind, (parseAccount_parsed haccount).2⟩, hnetwork, .inl ⟨rfl, rfl, rfl⟩⟩
  · intro hsigner
    cases hsigner

/-- The record of a new signer. -/
theorem hasSigner_signerRecord {walletType : String} {metadata : List (String × Json)} :
    (signerRecord name walletType network expected envelope metadata).HasSigner envelope
      expected := by
  rw [signerRecord, WalletRecord.postInit_of_signerKind (by simp)]
  exact ⟨rfl, rfl, rfl⟩

/-- A signer that has been protected with the passcode of the others is added. -/
theorem added_of_signerRecord {walletType : String} {metadata : List (String × Json)}
    (hm : m.Sound c) (hnetwork : getNetwork network = .ok ())
    (hpasscode : m.validateAppPasscode c passcode = .ok ())
    (hprotected : FresnicaProcessClient.IsProtected c.toWalletCrates passcode expected envelope)
    (h : saveNew (signerRecord name walletType network expected envelope metadata) makeDefault m =
      (.ok (), m')) : Change c call m m' := by
  obtain ⟨key, rfl⟩ := hprotected.key
  refine added_of_saveNew ⟨⟨.classic, ?_⟩, ?_, .inr ⟨envelope, key, hasSigner_signerRecord⟩⟩
    (fun _ => .inl ⟨passcode, (validateAppPasscode_eq_ok hm.named).mp hpasscode, ?_⟩) h
  · rw [signerRecord, WalletRecord.address_postInit]
    exact parseAccount_publicKey key
  · rw [signerRecord, WalletRecord.network_postInit]
    exact hnetwork
  · exact (recordOpens_iff hasSigner_signerRecord).mpr hprotected.opens

theorem importSecret_change {now secret : String} (hm : m.Sound c)
    (h : importSecret c random now name secret passcode network makeDefault m = (.ok (), m')) :
    Change c call m m' := by
  obtain ⟨_, hnetwork, h⟩ := Mut.attempt_bind_eq_ok.mp h
  rw [Mut.current_bind] at h
  obtain ⟨_, hpasscode, h⟩ := Mut.attempt_bind_eq_ok.mp h
  obtain ⟨protected', hprotected, h⟩ := Mut.attempt_bind_eq_ok.mp h
  exact added_of_signerRecord hm hnetwork hpasscode
    (FresnicaProcessClient.isProtected_of_protectSecret hprotected).1 h

theorem importMnemonic_change {now mnemonic mnemonicPassphrase : String} {index : ℤ}
    {language : Option String} (hm : m.Sound c)
    (h : importMnemonic c random now name mnemonic passcode mnemonicPassphrase index language
      network makeDefault m = (.ok (), m')) : Change c call m m' := by
  obtain ⟨_, hnetwork, h⟩ := Mut.attempt_bind_eq_ok.mp h
  rw [Mut.current_bind] at h
  obtain ⟨_, hpasscode, h⟩ := Mut.attempt_bind_eq_ok.mp h
  obtain ⟨language, -, h⟩ := Mut.attempt_bind_eq_ok.mp h
  obtain ⟨protected', hprotected, h⟩ := Mut.attempt_bind_eq_ok.mp h
  exact added_of_signerRecord hm hnetwork hpasscode
    (FresnicaProcessClient.isProtected_of_protectMnemonic hprotected).1 h

theorem createMnemonic_change {now mnemonicPassphrase language words : String}
    {index strength : ℤ} (hm : m.Sound c)
    (h : createMnemonic c random now name passcode mnemonicPassphrase index language strength
      network makeDefault m = (.ok words, m')) : Change c call m m' := by
  obtain ⟨_, hnetwork, h⟩ := Mut.attempt_bind_eq_ok.mp h
  rw [Mut.current_bind] at h
  obtain ⟨_, hpasscode, h⟩ := Mut.attempt_bind_eq_ok.mp h
  obtain ⟨generated, hgenerated, h⟩ := Mut.attempt_bind_eq_ok.mp h
  obtain ⟨_, t, hsaved, h⟩ := Mut.bind_eq_ok.mp h
  obtain ⟨-, rfl⟩ := Mut.pure_eq_ok.mp h
  exact added_of_signerRecord hm hnetwork hpasscode
    (FresnicaProcessClient.isProtected_of_generateMnemonic hgenerated) hsaved

/-- A record that passes the checks of a backup is well formed. -/
theorem validateRecord_wellFormed (h : validateRecord c record = .ok ()) :
    record.WellFormed c := by
  obtain ⟨-, h⟩ := ensure_bind_eq_ok.mp h
  obtain ⟨-, h⟩ := ensure_bind_eq_ok.mp h
  obtain ⟨_, hnetwork, h⟩ := bind_eq_ok.mp h
  obtain ⟨⟨kind, text⟩, haccount, h⟩ := bind_eq_ok.mp h
  obtain ⟨haddress, h⟩ := ensure_bind_eq_ok.mp h
  have hread := mapErr_eq_ok.mp haccount
  rw [show text = record.address from haddress] at hread
  refine ⟨⟨kind, hread⟩, mapErr_eq_ok.mp hnetwork, ?_⟩
  -- a wallet to watch has neither part of a signer, any other has both
  split_ifs at h with hwatch
  · obtain ⟨hsecret, hkey⟩ := ensure_eq_ok.mp h
    exact .inl ⟨Option.isNone_iff_eq_none.mp hwatch, Option.isNone_iff_eq_none.mp hsecret,
      Option.isNone_iff_eq_none.mp hkey⟩
  · obtain ⟨hkind, h⟩ := ensure_bind_eq_ok.mp h
    obtain ⟨hsecret, h⟩ := ensure_bind_eq_ok.mp h
    obtain ⟨expected, hexpected, h⟩ := bind_eq_ok.mp h
    obtain ⟨key, hkey, -⟩ := bind_eq_ok.mp h
    have htext := c.accounts.publicKeyOf?_eq_some_iff.mp (okOr_eq_ok.mp hkey)
    cases henvelope : record.secret with
    | none =>
      rw [henvelope] at hsecret
      cases hsecret
    | some envelope =>
      exact .inr ⟨envelope, key, hkind, henvelope, htext ▸ okOr_eq_ok.mp hexpected⟩

/-- The record that is restored is the one of the backup, perhaps under another name. -/
theorem wellFormed_renamed (h : record.postInit.WellFormed c) :
    (WalletRecord.postInit { record.postInit with name := name }).WellFormed c := by
  have hcomplete : WalletRecord.postInit { record.postInit with name := name } =
      { record.postInit with name := name } := by
    rcases h.signer with hnone | ⟨envelope, key, hsigner⟩
    · exact WalletRecord.postInit_of_secret hnone.secret
    · apply WalletRecord.postInit_of_signerKind
      dsimp only
      rw [hsigner.kind]
      exact Option.some_ne_none _
  rw [hcomplete]
  refine ⟨h.address, h.network, ?_⟩
  rcases h.signer with hnone | ⟨envelope, key, hsigner⟩
  · exact .inl ⟨hnone.kind, hnone.secret, hnone.key⟩
  · exact .inr ⟨envelope, key, hsigner.kind, hsigner.secret, hsigner.key⟩

theorem hasAppPasscode_eq_false (h : m.hasAppPasscode = false) (hget :
    m.storage.wallets.get? name = some record) : record.hasProtectedSigner = false := by
  rw [hasAppPasscode, List.any_eq_false] at h
  exact Bool.eq_false_iff.mpr (h record (MemoryWalletStorage.mem_list_of_get? hget))

theorem restoreBackup_change {given : Option String} (hm : m.Sound c)
    (h : restoreBackup c record name? makeDefault given m = (.ok (), m')) :
    Change c call m m' := by
  unfold restoreBackup at h
  obtain ⟨_, hvalid, h⟩ := Mut.attempt_bind_eq_ok.mp h
  obtain ⟨restored, hrestored, h⟩ := Mut.attempt_bind_eq_ok.mp h
  have hrecord : restored.WellFormed c := by
    cases name? with
    | none =>
      obtain rfl := Except.ok.inj hrestored
      exact validateRecord_wellFormed hvalid
    | some name =>
      obtain ⟨-, hrestored⟩ := ensure_bind_eq_ok.mp hrestored
      obtain rfl := Except.ok.inj hrestored
      exact wellFormed_renamed (validateRecord_wellFormed hvalid)
  rw [Mut.current_bind] at h
  split_ifs at h with hpasscode
  · obtain ⟨passcode, -, h⟩ := Mut.attempt_bind_eq_ok.mp h
    obtain ⟨_, hall, h⟩ := Mut.attempt_bind_eq_ok.mp h
    obtain ⟨unlockKey, hkey, h⟩ := Mut.attempt_bind_eq_ok.mp h
    refine added_of_saveNew hrecord (fun _ => .inl ⟨passcode, ?_, unlockKey, ?_⟩) h
    · exact (validateAppPasscode_eq_ok hm.named).mp hall
    · exact mapErr_eq_ok.mp hkey
  · refine added_of_saveNew hrecord (fun hsigner => .inr ?_) h
    -- the record has a signer, so that the store has none
    have hwatch : restored.watchOnly = false := by
      rcases hrecord.signer with hnone | ⟨envelope, key, hown⟩
      · rw [hnone.hasProtectedSigner] at hsigner
        cases hsigner
      · exact hown.watchOnly
    rw [hwatch] at hpasscode
    intro name other hget
    exact hasAppPasscode_eq_false (by simpa using hpasscode) hget

/-! #### Stored wallets -/

/-- The record with a signer has that signer, and the account that it had. -/
theorem hasSigner_withSigner {walletType : String} :
    (withSigner record walletType expected envelope).HasSigner envelope expected ∧
      SameAccount record (withSigner record walletType expected envelope) := by
  rw [withSigner, WalletRecord.postInit_of_signerKind (by simp)]
  exact ⟨⟨rfl, rfl, rfl⟩, ⟨rfl, rfl, rfl⟩⟩

/-- A wallet that is watched gets a signer with the passcode of the others. -/
theorem upgraded_of_save {walletType : String} (hm : m.Sound c)
    (hget : m.storage.wallets.get? record.name = some old) (hwatch : old.watchOnly = true)
    (hsame : SameAccount old record) (hpasscode : m.validateAppPasscode c passcode = .ok ())
    (hprotected : FresnicaProcessClient.IsProtected c.toWalletCrates passcode expected envelope)
    (h : save (withSigner record walletType expected envelope) true m = (.ok (), m')) :
    Change c call m m' := by
  obtain ⟨key, rfl⟩ := hprotected.key
  obtain ⟨hsigner, haccount⟩ : (withSigner record walletType _ envelope).HasSigner envelope
      (c.accounts.publicKey key) ∧ SameAccount record _ := hasSigner_withSigner
  rw [save_run] at h
  obtain rfl := (Prod.mk.inj h).2
  refine .upgraded old _ envelope key passcode ?_ ?_ hwatch hsigner
    ((validateAppPasscode_eq_ok hm.named).mp hpasscode)
    ((recordOpens_iff hsigner).mpr hprotected.opens)
  · rw [haccount.name]
    exact hget
  · exact ⟨haccount.name.trans hsame.name, haccount.address.trans hsame.address,
      haccount.network.trans hsame.network⟩

theorem upgradeWatchWithSecret_change {secret : String} (hm : m.Sound c)
    (h : upgradeWatchWithSecret c random name secret passcode m = (.ok (), m')) :
    Change c call m m' := by
  rw [upgradeWatchWithSecret, Mut.current_bind] at h
  obtain ⟨record, hrecord, h⟩ := Mut.attempt_bind_eq_ok.mp h
  obtain ⟨_, hpasscode, h⟩ := Mut.attempt_bind_eq_ok.mp h
  obtain ⟨protected', hprotected, h⟩ := Mut.attempt_bind_eq_ok.mp h
  obtain ⟨hget, hwatch, -⟩ := hm.watchClassic hrecord
  exact upgraded_of_save hm hget hwatch ⟨rfl, rfl, rfl⟩ hpasscode
    (FresnicaProcessClient.isProtected_of_protectSecret hprotected).1 h

theorem upgradeWatchWithMnemonic_change {mnemonic mnemonicPassphrase : String} {index : ℤ}
    {language : Option String} (hm : m.Sound c)
    (h : upgradeWatchWithMnemonic c random name mnemonic passcode mnemonicPassphrase index
      language m = (.ok (), m')) : Change c call m m' := by
  rw [upgradeWatchWithMnemonic, Mut.current_bind] at h
  obtain ⟨record, hrecord, h⟩ := Mut.attempt_bind_eq_ok.mp h
  obtain ⟨_, hpasscode, h⟩ := Mut.attempt_bind_eq_ok.mp h
  obtain ⟨language, -, h⟩ := Mut.attempt_bind_eq_ok.mp h
  obtain ⟨protected', hprotected, h⟩ := Mut.attempt_bind_eq_ok.mp h
  obtain ⟨hget, hwatch, -⟩ := hm.watchClassic hrecord
  refine upgraded_of_save hm ?_ hwatch ?_ hpasscode
    (FresnicaProcessClient.isProtected_of_protectMnemonic hprotected).1 h
  · exact hget
  · exact ⟨rfl, rfl, rfl⟩

theorem downgradeToWatch_change (hm : m.Sound c)
    (h : downgradeToWatch name m = (.ok (), m')) : Change c call m m' := by
  rw [downgradeToWatch, Mut.current_bind] at h
  obtain ⟨record, hrecord, h⟩ := Mut.attempt_bind_eq_ok.mp h
  obtain ⟨key, hget, hkey⟩ := getRecord_eq_ok hrecord
  have hname : record.name = name := (hm.named.name hget).trans (hkey name rfl)
  rw [Mut.bind_of_ok lockIf_run, WalletRecord.postInit_of_secret rfl, save_run] at h
  obtain rfl := (Prod.mk.inj h).2
  rw [← hname]
  exact .downgraded record { record with
    walletType := WalletRecord.watchOnlyType
    signerKind := none
    signerPublicKey := none
    secret := none } (hm.get?_of_getRecord hrecord) ⟨rfl, rfl, rfl⟩ ⟨rfl, rfl, rfl⟩

theorem reprotectSigner_change {newPassword : String} (hm : m.Sound c)
    (hrotates : call.rotates = true)
    (h : reprotectSigner c random name? passcode newPassword m = (.ok (), m')) :
    Change c call m m' := by
  rw [reprotectSigner, Mut.current_bind] at h
  obtain ⟨record, hrecord, h⟩ := Mut.attempt_bind_eq_ok.mp h
  obtain ⟨hget, envelope, key, hsigner⟩ := hm.hasSigner hrecord
  rw [signerFields_eq_ok hsigner, Mut.attempt_ok_bind] at h
  obtain ⟨protected', hprotected, h⟩ := Mut.attempt_bind_eq_ok.mp h
  obtain ⟨hnew, hkey⟩ := FresnicaProcessClient.isProtected_of_reprotect hprotected
  have hkind : record.signerKind ≠ none := by
    rw [hsigner.kind]
    exact Option.some_ne_none _
  rw [WalletRecord.postInit_of_signerKind (by exact hkind), Mut.bind_of_ok save_run,
    lockIf_run] at h
  obtain rfl := (Prod.mk.inj h).2
  rw [AccountCodec.trim_publicKey] at hkey
  have hupdated : WalletRecord.HasSigner { record with
      signerPublicKey := some protected'.signerPublicKey
      secret := some protected'.envelope } protected'.envelope (c.accounts.publicKey key) :=
    ⟨hsigner.kind, rfl, congrArg some hkey⟩
  exact .reprotected record _ envelope protected'.envelope (c.accounts.publicKey key) newPassword
    hrotates hget ⟨rfl, rfl, rfl⟩ hsigner hupdated
      ((recordOpens_iff hupdated).mpr (hkey ▸ hnew.opens))

/-- A migrated envelope has the same envelope of the secret store in it. -/
theorem passwordProviderEnvelope_migrateLegacyPassword :
    ProtectionRegistry.passwordProviderEnvelope (migrateLegacyPassword envelope) =
      ProtectionRegistry.passwordProviderEnvelope envelope := by
  rw [migrateLegacyPassword]
  split_ifs with hlegacy
  · rw [ProtectionRegistry.passwordProviderEnvelope_legacy hlegacy]
    rfl
  · rfl

theorem upgradeLegacyProtection_change (hm : m.Sound c)
    (h : upgradeLegacyProtection c name? passcode m = (.ok (), m')) : Change c call m m' := by
  rw [upgradeLegacyProtection, Mut.current_bind] at h
  obtain ⟨record, hrecord, h⟩ := Mut.attempt_bind_eq_ok.mp h
  have hget := hm.get?_of_getRecord hrecord
  split_ifs at h with hprotected
  · obtain ⟨stored, hstored, h⟩ := Mut.attempt_bind_eq_ok.mp h
    split_ifs at h with hlegacy
    · obtain ⟨_, -, h⟩ := Mut.attempt_bind_eq_ok.mp h
      rw [WalletRecord.hasProtectedSigner, decide_eq_true_iff] at hprotected
      have hwatch : record.watchOnly = false := by
        rw [WalletRecord.watchOnly, hprotected.1]
        rfl
      obtain ⟨envelope, key, hsigner⟩ := (hm.wellFormed hget).hasSigner hwatch
      obtain rfl := Option.some.inj ((okOr_eq_ok.mp hstored).symm.trans hsigner.secret)
      have hkind : record.signerKind ≠ none := by
        rw [hsigner.kind]
        exact Option.some_ne_none _
      rw [WalletRecord.postInit_of_signerKind (by exact hkind)] at h
      dsimp only at h
      rw [Mut.bind_of_ok save_run, Mut.current_bind] at h
      -- the migrated envelope reads as the stored one
      have hchange : Change c call m _ := .migrated record
        { record with secret := some (migrateLegacyPassword stored) } stored
        (migrateLegacyPassword stored) (c.accounts.publicKey key) hget ⟨rfl, rfl, rfl⟩ hsigner
        ⟨hsigner.kind, rfl, hsigner.key⟩ passwordProviderEnvelope_migrateLegacyPassword
      -- a session of this wallet gets the migrated record
      cases hsession : m.session with
      | none =>
        rw [hsession] at h hchange
        obtain ⟨-, rfl⟩ := Mut.pure_eq_ok.mp h
        exact hchange
      | some session =>
        rw [hsession] at h hchange
        rw [Option.map_some] at hchange
        dsimp only at h
        split_ifs at h hchange with hname
        · obtain rfl := Mut.assign_eq_ok.mp h
          exact hchange
        · obtain ⟨-, rfl⟩ := Mut.pure_eq_ok.mp h
          exact hchange
    · obtain ⟨-, rfl⟩ := Mut.pure_eq_ok.mp h
      exact .same
  · obtain ⟨-, rfl⟩ := Mut.pure_eq_ok.mp h
    exact .same

/-! #### Sessions and the default -/

theorem unlockWithKey_change (hm : m.Sound c)
    (h : unlockWithKey c name? unlockKey m = (.ok (), m')) : Change c call m m' := by
  rw [unlockWithKey, Mut.current_bind] at h
  obtain ⟨record, hrecord, h⟩ := Mut.attempt_bind_eq_ok.mp h
  obtain ⟨⟨kind, text⟩, haccount, h⟩ := Mut.attempt_bind_eq_ok.mp h
  obtain ⟨hget, envelope, key, hsigner⟩ := hm.hasSigner hrecord
  rw [signerFields_eq_ok hsigner, Mut.attempt_ok_bind] at h
  obtain ⟨_, hvalid, h⟩ := Mut.attempt_bind_eq_ok.mp h
  obtain ⟨held, hheld, h⟩ := Mut.attempt_bind_eq_ok.mp h
  have hkey := c.accounts.publicKeyOf?_eq_some_iff.mp (okOr_eq_ok.mp hheld)
  obtain ⟨_, hclassic, h⟩ := Mut.attempt_bind_eq_ok.mp h
  obtain rfl := Mut.assign_eq_ok.mp h
  obtain rfl : kind = .classic := ensure_eq_ok.mp hclassic
  obtain ⟨_, hown⟩ := (hm.wellFormed hget).address
  have haddress : text = record.address :=
    (parseAccount_parsed haccount).1.trans (parseAccount_parsed hown).1.symm
  rw [← hkey] at hsigner hvalid
  exact .unlocked _ ⟨hget, haddress, parseAccount_classic haccount,
    envelope, _, rfl, hsigner, rfl, hvalid⟩

theorem unlock_change (hm : m.Sound c)
    (h : unlock c name? passcode m = (.ok (), m')) : Change c call m m' := by
  rw [unlock, Mut.current_bind] at h
  obtain ⟨unlockKey, -, h⟩ := Mut.attempt_bind_eq_ok.mp h
  exact unlockWithKey_change hm h

theorem lock_change (h : lock m = (.ok (), m')) : Change c call m m' := by
  rw [lock, Mut.current_bind] at h
  obtain rfl := Mut.assign_eq_ok.mp h
  exact .locked

theorem setDefault_change (h : setDefault name m = (.ok (), m')) : Change c call m m' := by
  obtain ⟨_, t, hstored, h⟩ := Mut.bind_eq_ok.mp h
  obtain ⟨s, hs, rfl⟩ := store_eq_ok hstored
  obtain ⟨record, hload, hs⟩ := bind_eq_ok.mp hs
  obtain rfl := Except.ok.inj hs
  have hget := MemoryWalletStorage.load_eq_ok.mp hload
  rw [Mut.current_bind] at h
  split_ifs at h
  · rw [lock, Mut.current_bind] at h
    obtain rfl := Mut.assign_eq_ok.mp h
    exact .chosen name record none hget (.inl rfl)
  · obtain ⟨-, rfl⟩ := Mut.pure_eq_ok.mp h
    exact .chosen name record m.session hget (.inr rfl)

/-- A wallet that is stored is deleted, and another one becomes the default in its place. -/
theorem delete_run (hm : m.Sound c) (hget : m.storage.wallets.get? name = some record) :
    ∃ default, delete name m =
        (.ok (), ⟨⟨m.storage.wallets.erase name, default⟩, m.closed name⟩) ∧
      ∀ key, default = some key →
        ∃ other, (m.storage.wallets.erase name).get? key = some other := by
  have hs : m.storage.delete name = .ok ⟨m.storage.wallets.erase name,
      if m.storage.default = some name then none else m.storage.default⟩ :=
    bind_eq_ok.mpr ⟨record, MemoryWalletStorage.load_eq_ok.mpr hget, rfl⟩
  have hnamed := hm.named.delete hs
  rw [delete, Mut.current_bind, Mut.bind_of_ok lockIf_run, Mut.bind_of_ok (store_run hs)]
  split_ifs at hnamed ⊢ with hdefault
  · rw [Mut.current_bind]
    cases hlist : MemoryWalletStorage.list ⟨m.storage.wallets.erase name, none⟩ with
    | nil => exact ⟨none, rfl, by simp⟩
    | cons first rest =>
      have hfirst := hnamed.get?_of_mem_list (hlist ▸ List.mem_cons_self)
      refine ⟨some first.name, store_run (bind_eq_ok.mpr
        ⟨first, MemoryWalletStorage.load_eq_ok.mpr hfirst, rfl⟩), ?_⟩
      intro key hkey
      obtain rfl := Option.some.inj hkey
      exact ⟨first, hfirst⟩
  · exact ⟨m.storage.default, rfl, fun key hkey => hnamed.default hkey⟩

/-- Without the wallet nothing is deleted, and there is no session of it either. -/
theorem delete_missing (hm : m.Sound c) (hget : m.storage.wallets.get? name = none) :
    delete name m = (.error (MemoryWalletStorage.notFound name), m) := by
  have hclosed : m.closed name = m.session := by
    rw [closed]
    cases hsession : m.session with
    | none => rfl
    | some session =>
      rw [Option.filter_some, if_pos]
      refine decide_eq_true fun hname => ?_
      have hstored := (hm.session session hsession).stored
      rw [hname, hget] at hstored
      cases hstored
  have hload : m.storage.delete name = .error (MemoryWalletStorage.notFound name) := by
    rw [MemoryWalletStorage.delete, MemoryWalletStorage.load, hget]
    rfl
  rw [delete, Mut.current_bind, Mut.bind_of_ok lockIf_run, hclosed]
  apply Mut.bind_of_error
  rw [store, Mut.current_bind, hload]
  rfl

end WalletManager

/-! ### Calls that fail -/

namespace WalletManager

theorem reprotectSigner_atomic {newPassword : String} :
    Mut.Atomic (reprotectSigner c random name? passcode newPassword) :=
  .bind .current fun _ => .bind .attempt fun _ => .bind .attempt fun _ => .bind .attempt fun _ =>
    Mut.Total.atomic (.bind save_total fun _ => lockIf_total)

theorem downgradeToWatch_atomic : Mut.Atomic (downgradeToWatch name) :=
  .bind .current fun _ => .bind .attempt fun _ =>
    Mut.Total.atomic (.bind lockIf_total fun _ => save_total)

theorem upgradeLegacyProtection_atomic :
    Mut.Atomic (upgradeLegacyProtection c name? passcode) := by
  refine .bind .current fun _ => .bind .attempt fun record => ?_
  split_ifs
  · refine .bind .attempt fun envelope => ?_
    split_ifs
    · refine .bind .attempt fun _ => Mut.Total.atomic ?_
      refine .bind save_total fun _ => .bind .current fun t => ?_
      split
      · split_ifs
        · exact .assign
        · exact .pure
      · exact .pure
    · exact Mut.Total.pure.atomic
  · exact Mut.Total.pure.atomic

theorem restoreBackup_atomic {given : Option String} :
    Mut.Atomic (restoreBackup c record name? makeDefault given) := by
  refine .bind .attempt fun _ => .bind .attempt fun record => .bind .current fun m => ?_
  split_ifs
  · exact .bind .attempt fun _ => .bind .attempt fun _ => .bind .attempt fun _ => saveNew_atomic
  · exact saveNew_atomic

theorem unlockWithKey_atomic : Mut.Atomic (unlockWithKey c name? unlockKey) :=
  .bind .current fun _ => .bind .attempt fun _ => .bind .attempt fun _ => .bind .attempt fun _ =>
    .bind .attempt fun _ => .bind .attempt fun _ => .bind .attempt fun _ => .assign

theorem lock_total : Mut.Total lock :=
  .bind .current fun _ => .assign

theorem setDefault_atomic : Mut.Atomic (setDefault name) := by
  refine .bind_total store_atomic fun _ => .bind .current fun m => ?_
  split_ifs
  · exact lock_total
  · exact .pure

end WalletManager

/-- A call that fails leaves the manager as it was. -/
theorem ManagerCall.run_error {e : WalletError} (hm : m.Sound c)
    (h : call.run c m = (.error e, m')) : m' = m := by
  -- what runs before the save only reads, so that an error before it leaves the manager
  cases call with
  | addWatch now name address network makeDefault =>
    exact Mut.Atomic.bind .attempt (fun _ => .bind .attempt fun _ => .bind .attempt fun _ =>
      WalletManager.saveNew_atomic) m e m' h
  | importSecret random now name secret walletPassword network makeDefault =>
    exact Mut.Atomic.bind .attempt (fun _ => .bind .current fun _ => .bind .attempt fun _ =>
      .bind .attempt fun _ => WalletManager.saveNew_atomic) m e m' h
  | importMnemonic random now name mnemonic walletPassword passphrase index language network
      makeDefault =>
    exact Mut.Atomic.bind .attempt (fun _ => .bind .current fun _ => .bind .attempt fun _ =>
      .bind .attempt fun _ => .bind .attempt fun _ => WalletManager.saveNew_atomic) m e m' h
  | createMnemonic random now name walletPassword passphrase index language strength network
      makeDefault =>
    exact Mut.Atomic.bind_pure (.bind .attempt fun _ => .bind .current fun _ =>
      .bind .attempt fun _ => .bind .attempt fun _ =>
        Mut.Atomic.bind_pure WalletManager.saveNew_atomic) m e m' h
  | upgradeWatchWithSecret random name secret walletPassword =>
    exact Mut.Atomic.bind .current (fun _ => .bind .attempt fun _ => .bind .attempt fun _ =>
      .bind .attempt fun _ => WalletManager.save_total.atomic) m e m' h
  | upgradeWatchWithMnemonic random name mnemonic walletPassword passphrase index language =>
    exact Mut.Atomic.bind .current (fun _ => .bind .attempt fun _ => .bind .attempt fun _ =>
      .bind .attempt fun _ => .bind .attempt fun _ => WalletManager.save_total.atomic) m e m' h
  | downgradeToWatch name => exact WalletManager.downgradeToWatch_atomic m e m' h
  | reprotectSigner random name current new =>
    exact WalletManager.reprotectSigner_atomic m e m' h
  | upgradeLegacyProtection name password =>
    exact WalletManager.upgradeLegacyProtection_atomic m e m' h
  | restoreBackup record name makeDefault walletPassword =>
    rw [ManagerCall.run] at h
    exact WalletManager.restoreBackup_atomic m e m' h
  | unlock name walletPassword =>
    exact Mut.Atomic.bind .current (fun _ => .bind .attempt fun _ =>
      WalletManager.unlockWithKey_atomic) m e m' h
  | unlockWithKey name unlockKey => exact WalletManager.unlockWithKey_atomic m e m' h
  -- lock has no error
  | lock => exact absurd h (WalletManager.lock_total m e m')
  | setDefault name => exact WalletManager.setDefault_atomic m e m' h
  | delete name =>
    -- a name that is not stored is refused, any other deleted
    cases hget : m.storage.wallets.get? name with
    | none =>
      rw [ManagerCall.run, WalletManager.delete_missing hm hget] at h
      exact (Prod.mk.inj h).2.symm
    | some record =>
      obtain ⟨default, hrun, -⟩ := WalletManager.delete_run hm hget
      rw [ManagerCall.run, hrun] at h
      cases h

/-- A call makes one of the changes, or none. -/
theorem change_of_run (hm : m.Sound c) (h : (call.run c m).2 = m') :
    Change c call m m' := by
  rcases hrun : call.run c m with ⟨e | _, t⟩
  · rw [hrun] at h
    rw [← h, show t = m from ManagerCall.run_error hm hrun]
    exact .same
  obtain rfl : t = m' := by rw [← h, hrun]
  cases call with
  | addWatch => exact WalletManager.addWatch_change hrun
  | importSecret => exact WalletManager.importSecret_change hm hrun
  | importMnemonic => exact WalletManager.importMnemonic_change hm hrun
  | createMnemonic =>
    obtain ⟨words, u, hcreated, hdone⟩ := Mut.bind_eq_ok.mp hrun
    obtain ⟨-, rfl⟩ := Mut.pure_eq_ok.mp hdone
    exact WalletManager.createMnemonic_change hm hcreated
  | upgradeWatchWithSecret => exact WalletManager.upgradeWatchWithSecret_change hm hrun
  | upgradeWatchWithMnemonic => exact WalletManager.upgradeWatchWithMnemonic_change hm hrun
  | downgradeToWatch => exact WalletManager.downgradeToWatch_change hm hrun
  | reprotectSigner => exact WalletManager.reprotectSigner_change hm rfl hrun
  | upgradeLegacyProtection => exact WalletManager.upgradeLegacyProtection_change hm hrun
  | restoreBackup =>
    rw [ManagerCall.run] at hrun
    exact WalletManager.restoreBackup_change hm hrun
  | unlock => exact WalletManager.unlock_change hm hrun
  | unlockWithKey => exact WalletManager.unlockWithKey_change hm hrun
  | lock => exact WalletManager.lock_change hrun
  | setDefault => exact WalletManager.setDefault_change hrun
  | delete name =>
    cases hget : m.storage.wallets.get? name with
    | none =>
      rw [ManagerCall.run, WalletManager.delete_missing hm hget] at hrun
      cases hrun
    | some record =>
      obtain ⟨default, hdelete, hdefault⟩ := WalletManager.delete_run hm hget
      rw [ManagerCall.run, hdelete] at hrun
      obtain rfl := (Prod.mk.inj hrun).2
      exact .deleted name default rfl hdefault

/-! ### Runs -/

/-- A call is made, whether it fails or not. -/
def ManagerCall.Step (c : ManagerCrates) (m : WalletManager) (call : ManagerCall)
    (m' : WalletManager) : Prop :=
  (call.run c m).2 = m'

theorem sound_of_run (h : Run (ManagerCall.Step c) .empty calls m) : m.Sound c := by
  refine h.invariant (fun _ _ => trivial) WalletManager.sound_empty ?_
  intro m call m' hm _ hstep
  exact (change_of_run hm hstep).sound hm

/-- The key of a session opens the envelope that is stored, for the signer of the record. -/
theorem WalletSession.Sound.unlockSoftwareSigner (h : session.Sound c s) :
    ∃ envelope signer software, session.record.secret = some envelope ∧
      session.wallet.signer = some signer ∧
      session.record.signerPublicKey = some signer.publicKey ∧
      ProtectedSigner.unlockSoftwareSigner c.toWalletCrates envelope signer.unlockKey
        signer.publicKey = .ok software := by
  obtain ⟨envelope, signer, hsome, hsigner, hprovider, hvalid⟩ := h.signer
  have hclient := mapErr_eq_ok.mp hvalid
  obtain ⟨software, hsoftware, -⟩ := bind_eq_ok.mp hclient
  refine ⟨envelope, signer, software, hsigner.secret, hsome, hsigner.key, ?_⟩
  have hopened := mapErr_eq_ok.mp hsoftware
  rw [ProtectedSigner.unlockSoftwareSigner, ProtectionRegistry.unprotectWithUnlockKey] at hopened ⊢
  rwa [hprovider]

/-- Whatever calls were made, and whichever of them failed: every wallet is well formed and
stored under its name, the default is stored, the session is one of a stored wallet whose
stored envelope its key opens, and a call that fails changes nothing. -/
theorem manager_sound (h : Run (ManagerCall.Step c) .empty calls m) :
    m.Sound c ∧
      (∀ session, m.session = some session →
        m.storage.wallets.get? session.record.name = some session.record ∧
          ∃ envelope signer software, session.record.secret = some envelope ∧
            session.wallet.signer = some signer ∧
            session.record.signerPublicKey = some signer.publicKey ∧
            ProtectedSigner.unlockSoftwareSigner c.toWalletCrates envelope signer.unlockKey
              signer.publicKey = .ok software) ∧
      ∀ call e m', ManagerCall.run c call m = (.error e, m') → m' = m := by
  have hm := sound_of_run h
  refine ⟨hm, ?_, ?_⟩
  · intro session hsession
    have hsound := hm.session session hsession
    exact ⟨hsound.stored, hsound.unlockSoftwareSigner⟩
  · intro call e m' herror
    exact ManagerCall.run_error hm herror

/-! #### Two signers -/

def sampleAddress : String := "GDLVVGABQKYQVN6VJP7NHSLEA45A5YLS6PNKMIZFV4BBU2HXA5IRVHUR"

def sampleSecret : String := "SCOWDMM5576VUYF2QRFPJEXMFTCEISOFNF5TE2IZOA52YAY4VZ7WBQNO"

def secondAddress : String := "GBXFXNDLV4LSWA4VB7YIL5GBD7BVNR22SGBTDKMO2SBZZHDXSKZYCP7L"

def secondSecret : String := "SAKICEVQLYWGSOJS4WW7HZJWAHZVEEBS527LHK5V4MLJALYKICQCJXMW"

def sampleSeed? (text : String) : Option Uint256 := do
  match ← Sep23.decode text with
  | (144, bytes) => Sep23.uint256Of? bytes
  | _ => none

/-- The addresses of the two secret keys. -/
def sampleVerifyingKey (seed : Uint256) : Uint256 :=
  (([(sampleSecret, sampleAddress), (secondSecret, secondAddress)].lookup
    (Sep23.encode (144, seed.toList))).bind Sep23.publicKeyOf?).getD seed

def samplePasscode : String := "Tr0ub4dor&3"

def sampleKey : Uint256 :=
  #v[0x61, 0x01, 0x20, 0x7e, 0xa0, 0x93, 0xba, 0xa3, 0xc2, 0x09, 0xb1, 0x1f, 0x2d, 0x83, 0x69,
    0x74, 0x49, 0x78, 0x65, 0xe4, 0x53, 0xb0, 0x06, 0xb8, 0x0c, 0x6e, 0x0e, 0x8a, 0x6f, 0xb4,
    0x6b, 0x99]

def secondNonce : Nonce := #v[44, 45, 46, 47, 48, 49, 50, 51, 52, 53, 54, 55]

/-- The keys of the two passcodes. -/
def sampleDerived : List ((String × Salt) × Uint256) :=
  [((samplePasscode, CoreClientApi.vectorSalt), sampleKey),
    ((CoreClientApi.vectorPasscode, CoreClientApi.vectorSalt), CoreClientApi.vectorKey)]

/-- The payload of a secret key, and the texts in it. -/
def samplePayload (secret : String) : List String × List UInt8 :=
  (["kind", "string", "secret", "secret", "string", secret],
    Utf8.bytes ("\x7b\"kind\":\"secret\",\"secret\":\"" ++ secret ++ "\"\x7d"))

def samplePayloads : List (List String × List UInt8) :=
  [samplePayload sampleSecret, samplePayload secondSecret]

/-- A payload that is sealed with a key and a nonce. -/
def sampleSeal (key : Uint256) (nonce : Nonce) (secret : String) (ciphertext : List UInt8) :
    ((Uint256 × Nonce × List UInt8) × List UInt8) × List UInt8 :=
  (((key, nonce, SecretStore.aadV2), (samplePayload secret).2), ciphertext)

/-- The ciphertexts of three envelopes. -/
def sampleSealed : List (((Uint256 × Nonce × List UInt8) × List UInt8) × List UInt8) :=
  [sampleSeal sampleKey CoreClientApi.vectorNonce sampleSecret
      [0x80, 0xaa, 0x48, 0xe9, 0xa7, 0x2a, 0xe2, 0x1e, 0x3c, 0x2f, 0x80, 0x5e, 0x2a, 0x76, 0x2b,
       0xd3, 0xfa, 0x17, 0x4c, 0xc1, 0xa4, 0x11, 0xe2, 0xc6, 0x1f, 0x02, 0x16, 0xa1, 0x55, 0x02,
       0xc6, 0x8f, 0x3c, 0x22, 0xbf, 0x76, 0x6f, 0xe4, 0x01, 0x1b, 0xb2, 0x0e, 0x4e, 0x4a, 0x20,
       0xb3, 0x0e, 0x5c, 0xdb, 0x56, 0x18, 0x82, 0xb6, 0xab, 0xb3, 0x42, 0xa5, 0x90, 0x0f, 0x6c,
       0xb6, 0xe3, 0x92, 0x05, 0xf2, 0x57, 0x8e, 0xfc, 0x84, 0x56, 0x16, 0x29, 0xf4, 0x45, 0xde,
       0xc2, 0x7f, 0xf9, 0x1a, 0x25, 0xfe, 0xfa, 0x1f, 0xe3, 0x9d, 0xbd, 0xb4, 0x93, 0x3c, 0x04,
       0xfb, 0x21, 0xdb, 0x08, 0x20, 0xe1, 0x27, 0x22, 0xf5, 0x43, 0x0f],
    sampleSeal CoreClientApi.vectorKey CoreClientApi.vectorNonce sampleSecret
      [0xfe, 0x01, 0x1a, 0x9b, 0x7e, 0x08, 0x1c, 0xe9, 0xab, 0xc9, 0x70, 0x10, 0x0c, 0xbb, 0xe2,
       0x47, 0x9e, 0xf6, 0x83, 0x54, 0xd6, 0xa3, 0x73, 0x95, 0x47, 0xc3, 0x55, 0xcd, 0x67, 0xcf,
       0x0d, 0xf6, 0x21, 0xef, 0x7f, 0x44, 0x4f, 0x6b, 0xcc, 0x48, 0x31, 0xa3, 0xa6, 0x23, 0xda,
       0x28, 0x38, 0x37, 0xb8, 0xbe, 0xbc, 0x23, 0xb8, 0xc8, 0xdd, 0x50, 0xe2, 0x53, 0x9e, 0x88,
       0xf9, 0x64, 0x2e, 0xc7, 0xd5, 0xf1, 0xeb, 0x84, 0x69, 0xd3, 0xeb, 0x68, 0x7a, 0x7b, 0xf9,
       0xa1, 0xd0, 0x55, 0x40, 0x86, 0x53, 0xad, 0x6d, 0xe9, 0x85, 0x37, 0x36, 0x4b, 0x4f, 0xf2,
       0x9a, 0xad, 0x17, 0x3c, 0xc6, 0x3b, 0x15, 0x1f, 0xe2, 0xdf, 0xe0],
    sampleSeal CoreClientApi.vectorKey secondNonce secondSecret
      [0x78, 0x65, 0x95, 0x6b, 0x24, 0xc3, 0x09, 0xee, 0xb4, 0xf7, 0x7c, 0x1f, 0x74, 0xcd, 0x68,
       0x08, 0x74, 0xae, 0xb4, 0x57, 0xcd, 0xee, 0x9c, 0xbb, 0x02, 0x8a, 0x81, 0x9e, 0x11, 0x15,
       0xb4, 0x6c, 0xbb, 0xe8, 0x5b, 0x7f, 0x12, 0xe6, 0x0b, 0x3c, 0xe6, 0x7b, 0x25, 0x7c, 0xc6,
       0x3e, 0xa2, 0x65, 0xaf, 0xf9, 0x74, 0xe0, 0xd6, 0x31, 0x60, 0xeb, 0x75, 0xa5, 0x5f, 0xb8,
       0x2f, 0x0f, 0xf1, 0x98, 0x4f, 0x1f, 0x30, 0x19, 0x59, 0xf5, 0xdd, 0x57, 0x6d, 0xe4, 0x8d,
       0xd9, 0x5b, 0x2f, 0xbb, 0x23, 0xed, 0x61, 0x1a, 0x26, 0x3c, 0xb9, 0xc7, 0x7a, 0xe9, 0xe4,
       0x3f, 0x5d, 0xa9, 0xba, 0xd6, 0x09, 0x9c, 0xe6, 0xc0, 0xd1, 0xbb]]

/-- An entry is found by its second part where no two entries share it. -/
theorem find?_snd_of_find?_fst {α β : Type*} [DecidableEq α] [DecidableEq β]
    {entries : List (α × β)} (hsecond : (entries.map Prod.snd).Nodup)
    {a : α} {e : α × β} (h : entries.find? (fun e => e.1 = a) = some e) :
    e.1 = a ∧ entries.find? (fun e' => e'.2 = e.2) = some e := by
  have hfirst : e.1 = a := by simpa using List.find?_some h
  have hmem := List.mem_of_find?_eq_some h
  refine ⟨hfirst, ?_⟩
  cases hfind : entries.find? (fun e' => e'.2 = e.2) with
  | none => exact absurd (List.find?_eq_none.mp hfind e hmem) (by simp)
  | some e' =>
    have hshared : e'.2 = e.2 := by simpa using List.find?_some hfind
    rw [List.inj_on_of_nodup_map hsecond (List.mem_of_find?_eq_some hfind) hmem hshared]

theorem nodup_sampleSealed : (sampleSealed.map Prod.snd).Nodup := by decide +kernel

theorem nodup_samplePayloads : (samplePayloads.map Prod.snd).Nodup := by decide +kernel

/-- The crates, as far as the two signers need them. -/
def sampleCrates : ManagerCrates where
  scrypt _ _ := none
  argon2id passcode salt := sampleDerived.lookup (passcode, salt)
  encrypt key nonce aad msg :=
    (sampleSealed.find? fun e => e.1 = ((key, nonce, aad), msg)).map Prod.snd
  decrypt key nonce aad ciphertext :=
    (sampleSealed.find? fun e => e.2 = ciphertext).bind fun e =>
      if e.1.1 = (key, nonce, aad) then some e.1.2 else none
  encode := Base64.encode
  decode := Base64.decode
  toVec payload :=
    (samplePayloads.find? fun e => e.1 = CoreClientApi.flatTexts payload).map Prod.snd
  fromSlice bytes :=
    ((samplePayloads.find? fun e => e.2 = bytes).bind fun e =>
      CoreClientApi.membersOfTexts e.1).map .object
  decode_encode := Base64.decode_encode
  decrypt_encrypt {key nonce aad msg ciphertext} h := by
    obtain ⟨e, he, rfl⟩ := Option.map_eq_some_iff.mp h
    obtain ⟨hkey, hfind⟩ := find?_snd_of_find?_fst nodup_sampleSealed he
    rw [hfind, Option.bind_some, hkey, if_pos rfl]
  decrypt_unique {key nonce aad msg ciphertext key' nonce' aad' msg'} h h' := by
    obtain ⟨e, he, rfl⟩ := Option.map_eq_some_iff.mp h
    obtain ⟨hkey, hfind⟩ := find?_snd_of_find?_fst nodup_sampleSealed he
    rw [hfind, Option.bind_some, hkey] at h'
    split_ifs at h' with hsame
    obtain ⟨rfl, rfl, rfl⟩ := Prod.mk.injEq .. ▸ hsame
    exact ⟨rfl, rfl, rfl⟩
  fromSlice_toVec {payload bytes} hflat h := by
    obtain ⟨e, he, rfl⟩ := Option.map_eq_some_iff.mp h
    obtain ⟨htexts, hfind⟩ := find?_snd_of_find?_fst nodup_samplePayloads he
    rw [hfind, Option.bind_some, htexts, CoreClientApi.membersOfTexts_flatTexts hflat]
  accounts := Sep23.accountCodec
  privateKeyOf? := sampleSeed?
  verifyingKey := sampleVerifyingKey
  parseIn _ _ := none
  toSeed _ _ := []
  derivePath _ _ := none
  mnemonics := ⟨fun _ => none, fun _ _ => none⟩
  strip_publicKey _ := Sep23.strip_base32 _

def sampleImport (name secret passcode : String) (nonce : Nonce) : ManagerCall :=
  .importSecret ⟨some CoreClientApi.vectorSalt, some nonce⟩ "2026-01-01T00:00:00+00:00" name secret
    passcode "testnet" none

def firstImport : ManagerCall :=
  sampleImport "first" sampleSecret samplePasscode CoreClientApi.vectorNonce

/-- The signer takes another passcode. -/
def sampleReprotect : ManagerCall :=
  .reprotectSigner ⟨some CoreClientApi.vectorSalt, some CoreClientApi.vectorNonce⟩ (some "first")
    samplePasscode CoreClientApi.vectorPasscode

def sampleUnlock : ManagerCall := .unlock (some "first") CoreClientApi.vectorPasscode

/-- A second signer is refused with the former passcode. -/
def refusedImport : ManagerCall := sampleImport "second" secondSecret samplePasscode secondNonce

def secondImport : ManagerCall :=
  sampleImport "second" secondSecret CoreClientApi.vectorPasscode secondNonce

/-- The manager after a call, which may fail. -/
def managerAfter (call : ManagerCall) (m : WalletManager) : WalletManager :=
  (call.run sampleCrates m).2

def importedManager : WalletManager := managerAfter firstImport .empty

def reprotectedManager : WalletManager := managerAfter sampleReprotect importedManager

def unlockedManager : WalletManager := managerAfter sampleUnlock reprotectedManager

def twoSignersManager : WalletManager :=
  managerAfter secondImport (managerAfter refusedImport unlockedManager)

theorem managerAfter_step (call : ManagerCall) (m : WalletManager) :
    call.Step sampleCrates m (managerAfter call m) := by
  rw [ManagerCall.Step, managerAfter]

theorem unlockedManager_run :
    Run (ManagerCall.Step sampleCrates) importedManager [sampleReprotect, sampleUnlock]
      unlockedManager :=
  .cons (managerAfter_step _ _) (.single (managerAfter_step _ _))

theorem twoSignersManager_run :
    Run (ManagerCall.Step sampleCrates) unlockedManager [refusedImport, secondImport]
      twoSignersManager :=
  .cons (managerAfter_step _ _) (.single (managerAfter_step _ _))

theorem twoSignersManager_wallets :
    (twoSignersManager.storage.wallets.keys = ["first", "second"] ∧
        ∀ name ∈ ["first", "second"], (twoSignersManager.storage.wallets.get? name).map
          WalletRecord.hasProtectedSigner = some true) ∧
      twoSignersManager.session.map (fun session => session.record.name) = some "first" ∧
      (refusedImport.run sampleCrates unlockedManager).1 =
        .error ⟨.invalidPassword, "Invalid Fresnica passcode"⟩ := by
  decide +kernel

theorem manager_sound_twoSigners :
    twoSignersManager.storage.wallets.keys = ["first", "second"] ∧
      twoSignersManager.Sound sampleCrates ∧
      (∃ session envelope signer software, twoSignersManager.session = some session ∧
        session.record.name = "first" ∧ session.record.secret = some envelope ∧
        session.wallet.signer = some signer ∧
        ProtectedSigner.unlockSoftwareSigner sampleCrates.toWalletCrates envelope signer.unlockKey
          signer.publicKey = .ok software) ∧
      refusedImport.run sampleCrates unlockedManager =
        (.error ⟨.invalidPassword, "Invalid Fresnica passcode"⟩, unlockedManager) := by
  obtain ⟨⟨hkeys, -⟩, hsession, hrefused⟩ := twoSignersManager_wallets
  have hunlocked : Run (ManagerCall.Step sampleCrates) .empty
      ([firstImport] ++ [sampleReprotect, sampleUnlock]) unlockedManager :=
    (Run.single (managerAfter_step _ _)).trans unlockedManager_run
  obtain ⟨hsound, hunlocks, -⟩ := manager_sound (hunlocked.trans twoSignersManager_run)
  obtain ⟨-, -, hfails⟩ := manager_sound hunlocked
  obtain ⟨session, hsome, hname⟩ := Option.map_eq_some_iff.mp hsession
  obtain ⟨-, envelope, signer, software, hsecret, hsigner, -, hopens⟩ := hunlocks session hsome
  refine ⟨hkeys, hsound,
    ⟨session, envelope, signer, software, hsome, hname, hsecret, hsigner, hopens⟩, ?_⟩
  rcases hrun : refusedImport.run sampleCrates unlockedManager with ⟨result, after⟩
  rw [hrun] at hrefused
  obtain rfl : result = .error ⟨.invalidPassword, "Invalid Fresnica passcode"⟩ := hrefused
  rw [hfails _ _ _ hrun]

/-! ### Accounts -/

theorem SameAccount.refl (record : WalletRecord) : SameAccount record record := ⟨rfl, rfl, rfl⟩

theorem SameAccount.trans {newer : WalletRecord} (h : SameAccount old record)
    (h' : SameAccount record newer) : SameAccount old newer :=
  ⟨h'.name.trans h.name, h'.address.trans h.address, h'.network.trans h.network⟩

/-- A record that is put over one of its account changes no account. -/
theorem SameAccount.put {first : WalletRecord} (h : SameAccount old record)
    (hold : s.wallets.get? record.name = some old) (hget : s.wallets.get? name = some first) :
    ∃ other, (s.put record).wallets.get? name = some other ∧ SameAccount first other := by
  rw [MemoryWalletStorage.get?_put]
  split_ifs with hname
  · rw [hname, hold] at hget
    obtain rfl := Option.some.inj hget
    exact ⟨record, rfl, h⟩
  · exact ⟨first, hget, .refl first⟩

/-- A wallet is stored, with its account, until it is deleted. -/
theorem Change.kept (h : Change c call m m') (hcall : call ≠ .delete name)
    (hget : m.storage.wallets.get? name = some record) :
    ∃ other, m'.storage.wallets.get? name = some other ∧ SameAccount record other := by
  cases h with
  | same => exact ⟨record, hget, .refl record⟩
  | locked => exact ⟨record, hget, .refl record⟩
  | chosen => exact ⟨record, hget, .refl record⟩
  | unlocked => exact ⟨record, hget, .refl record⟩
  | added new default hnew =>
    refine ⟨record, ?_, .refl record⟩
    dsimp only
    rw [MemoryWalletStorage.get?_put, if_neg, hget]
    rintro rfl
    rw [hnew] at hget
    cases hget
  | upgraded _ _ _ _ _ hold hsame => exact hsame.put hold hget
  | downgraded _ _ hold hsame => exact hsame.put hold hget
  | reprotected _ _ _ _ _ _ _ hold hsame => exact hsame.put hold hget
  | migrated _ _ _ _ _ hold hsame => exact hsame.put hold hget
  | deleted other default hdelete =>
    refine ⟨record, ?_, .refl record⟩
    dsimp only
    rw [Dict.get?_erase, if_neg, hget]
    rintro rfl
    exact hcall hdelete

/-- Over every run of calls, a wallet stays stored with its account and network until a call
deletes it: no other call replaces it by a wallet of another account. -/
theorem manager_keeps_accounts {before : List ManagerCall}
    (hbefore : Run (ManagerCall.Step c) .empty before m) (h : Run (ManagerCall.Step c) m calls m')
    (hkept : ∀ call ∈ calls, call ≠ .delete name)
    (hget : m.storage.wallets.get? name = some record) :
    ∃ other, m'.storage.wallets.get? name = some other ∧ SameAccount record other := by
  have hboth : m'.Sound c ∧
      ∃ other, m'.storage.wallets.get? name = some other ∧ SameAccount record other := by
    refine Run.invariant (I := fun t => t.Sound c ∧
      ∃ other, t.storage.wallets.get? name = some other ∧ SameAccount record other) h hkept
      ⟨sound_of_run hbefore, record, hget, .refl record⟩ ?_
    rintro t call u ⟨ht, other, hother, hsame⟩ hcall hstep
    have hchange := change_of_run ht hstep
    obtain ⟨next, hnext, hown⟩ := hchange.kept hcall hother
    exact ⟨hchange.sound ht, next, hnext, hsame.trans hown⟩
  exact hboth.2

theorem importedManager_wallets : importedManager.storage.wallets.keys = ["first"] ∧
    (importedManager.storage.wallets.get? "first").map (fun record => record.address) =
      some sampleAddress := by
  decide +kernel

theorem manager_keeps_accounts_twoSigners :
    ∃ other, twoSignersManager.storage.wallets.get? "first" = some other ∧
      other.address = sampleAddress := by
  obtain ⟨record, hrecord, haddress⟩ := Option.map_eq_some_iff.mp importedManager_wallets.2
  have hkept : ∀ call ∈ [sampleReprotect, sampleUnlock] ++ [refusedImport, secondImport],
      call ≠ .delete "first" := by
    simp [sampleReprotect, sampleUnlock, refusedImport, secondImport, sampleImport]
  obtain ⟨other, hother, hsame⟩ := manager_keeps_accounts (.single (managerAfter_step _ _))
    (unlockedManager_run.trans twoSignersManager_run) hkept hrecord
  exact ⟨other, hother, hsame.address.trans haddress⟩

/-! ### One passcode -/

/-- No two wallets have a protected signer. -/
def AtMostOneSigner (s : MemoryWalletStorage) : Prop :=
  ∀ name name' record record', s.wallets.get? name = some record →
    s.wallets.get? name' = some record' → record.hasProtectedSigner = true →
    record'.hasProtectedSigner = true → name = name'

/-- One passcode opens every protected signer, or there is at most one of them. -/
def OnePasscode (c : ManagerCrates) (s : MemoryWalletStorage) : Prop :=
  (∃ passcode, WalletManager.OpensAll c s passcode) ∨ AtMostOneSigner s

/-- Every protected signer of a store is one of another store, and opened by what opens it
there. -/
def Within (c : ManagerCrates) (t s : MemoryWalletStorage) : Prop :=
  ∀ name record, t.wallets.get? name = some record → record.hasProtectedSigner = true →
    ∃ old, s.wallets.get? name = some old ∧ old.hasProtectedSigner = true ∧
      ∀ passcode, WalletManager.RecordOpens c old passcode →
        WalletManager.RecordOpens c record passcode

theorem Within.of_eq (h : t.wallets = s.wallets) : Within c t s := by
  intro name record hget hsigner
  rw [h] at hget
  exact ⟨record, hget, hsigner, fun _ hopens => hopens⟩

/-- A record without a signer takes one away, at most. -/
theorem Within.put_of_none (h : record.hasProtectedSigner = false) : Within c (s.put record) s := by
  intro name other hget hsigner
  rw [MemoryWalletStorage.get?_put] at hget
  split_ifs at hget with hname
  · obtain rfl := Option.some.inj hget
    rw [h] at hsigner
    cases hsigner
  · exact ⟨other, hget, hsigner, fun _ hopens => hopens⟩

theorem OnePasscode.of_within (h : OnePasscode c s) (hwithin : Within c t s) :
    OnePasscode c t := by
  rcases h with ⟨passcode, hall⟩ | halone
  · refine .inl ⟨passcode, ?_⟩
    intro name record hget hsigner
    obtain ⟨old, hold, hprotected, hopens⟩ := hwithin name record hget hsigner
    exact hopens passcode (hall name old hold hprotected)
  · refine .inr ?_
    intro name name' record record' hget hget' hsigner hsigner'
    obtain ⟨old, hold, hprotected, -⟩ := hwithin name record hget hsigner
    obtain ⟨old', hold', hprotected', -⟩ := hwithin name' record' hget' hsigner'
    exact halone name name' old old' hold hold' hprotected hprotected'

/-- A signer with the passcode of the others joins them. -/
theorem WalletManager.OpensAll.put (h : OpensAll c s passcode)
    (hopens : RecordOpens c record passcode) : OpensAll c (s.put record) passcode := by
  intro name other hget hsigner
  rw [MemoryWalletStorage.get?_put] at hget
  split_ifs at hget with hname
  · obtain rfl := Option.some.inj hget
    exact hopens
  · exact h name other hget hsigner

/-- A signer that replaces the only one is the only one. -/
theorem AtMostOneSigner.put (h : ∀ name other, s.wallets.get? name = some other →
      other.hasProtectedSigner = true → name = record.name) : AtMostOneSigner (s.put record) := by
  have honly : ∀ name other, (s.put record).wallets.get? name = some other →
      other.hasProtectedSigner = true → name = record.name := by
    intro name other hget hsigner
    rw [MemoryWalletStorage.get?_put] at hget
    split_ifs at hget with hname
    · exact hname
    · exact h name other hget hsigner
  intro name name' first second hget hget' hsigner hsigner'
  rw [honly name first hget hsigner, honly name' second hget' hsigner']

/-- An envelope in a wrapper is opened as before. -/
theorem WalletManager.recordOpens_migrated (hold : old.HasSigner envelope expected)
    (hrecord : record.HasSigner envelope' expected)
    (hprovider : ProtectionRegistry.passwordProviderEnvelope envelope' =
      ProtectionRegistry.passwordProviderEnvelope envelope) :
    RecordOpens c record passcode ↔ RecordOpens c old passcode := by
  rw [recordOpens_iff hold, recordOpens_iff hrecord]
  unfold FresnicaProcessClient.Opens FresnicaProcessClient.deriveVerifiedUnlockKey
    CoreClientApi.deriveUnlockKey
  rw [ProtectedSigner.deriveVerifiedUnlockKey_eq, ProtectedSigner.deriveVerifiedUnlockKey_eq,
    ProtectedSigner.opened_congr hprovider]

theorem Change.onePasscode (h : Change c call m m') (hone : OnePasscode c m.storage)
    (halone : call.rotates = true → AtMostOneSigner m.storage) : OnePasscode c m'.storage := by
  cases h with
  | same => exact hone
  | locked => exact hone
  | chosen => exact hone.of_within (.of_eq rfl)
  | unlocked => exact hone
  | added record default hnew hrecord hfits =>
    refine (?_ : OnePasscode c (m.storage.put record)).of_within (.of_eq rfl)
    by_cases hsigner : record.hasProtectedSigner = true
    -- a signer is only added when it opens with the passcode of the others
    · rcases hfits hsigner with ⟨passcode, hall, hopens⟩ | hnone
      · exact .inl ⟨passcode, hall.put hopens⟩
      · refine .inr (.put fun name other hget hprotected => ?_)
        rw [hnone name other hget] at hprotected
        cases hprotected
    · exact hone.of_within (.put_of_none (Bool.eq_false_iff.mpr hsigner))
  | upgraded old record envelope key passcode _ _ _ _ hall hopens =>
    exact .inl ⟨passcode, hall.put hopens⟩
  | downgraded old record _ _ hnone => exact hone.of_within (.put_of_none hnone.hasProtectedSigner)
  | reprotected old record envelope envelope' expected passcode hrotates hget _ hold =>
    -- the signer that is protected again is the only one
    refine .inr (.put fun name other hother hprotected => ?_)
    exact halone hrotates name record.name other old hother hget hprotected hold.hasProtectedSigner
  | migrated old record envelope envelope' expected hget _ hold hrecord hprovider =>
    apply hone.of_within
    intro name other hother hprotected
    rw [MemoryWalletStorage.get?_put] at hother
    split_ifs at hother with hname
    · obtain rfl := Option.some.inj hother
      exact ⟨old, hname ▸ hget, hold.hasProtectedSigner, fun passcode hopens =>
        (WalletManager.recordOpens_migrated hold hrecord hprovider).mpr hopens⟩
    · exact ⟨other, hother, hprotected, fun _ hopens => hopens⟩
  | deleted name default =>
    apply hone.of_within
    intro key record hget hsigner
    rw [Dict.get?_erase] at hget
    split_ifs at hget
    exact ⟨record, hget, hsigner, fun _ hopens => hopens⟩

theorem atMostOneSigner_empty : AtMostOneSigner WalletManager.empty.storage := by
  intro name name' record record' hget
  rw [WalletManager.empty, MemoryWalletStorage.empty, Dict.get?_empty] at hget
  cases hget

/-- A stored record with a protected signer signs. -/
theorem WalletManager.Sound.signingRecord_eq (hm : m.Sound c)
    (hget : m.storage.wallets.get? name = some record)
    (hsigner : record.hasProtectedSigner = true) :
    m.signingRecord (some name) = .ok record := by
  rcases (hm.wellFormed hget).signer with hnone | ⟨envelope, key, hown⟩
  · rw [hnone.hasProtectedSigner] at hsigner
    cases hsigner
  have hwatch : ¬ record.watchOnly = true := by
    rw [hown.watchOnly]
    exact Bool.false_ne_true
  refine bind_eq_ok.mpr ⟨record, MemoryWalletStorage.load_eq_ok.mpr hget, ?_⟩
  rw [ensure_bind_eq_ok, ensure_bind_eq_ok, ensure_bind_eq_ok, hown.secret, hown.key]
  exact ⟨hwatch, hown.kind, ⟨rfl, rfl⟩, rfl⟩

/-- A signer is protected again only while it is the only protected one. -/
def ManagerCall.CarefulStep (c : ManagerCrates) (m : WalletManager) (call : ManagerCall)
    (m' : WalletManager) : Prop :=
  call.Step c m m' ∧
    (call.rotates = true → (call.run c m).1 = .ok () → AtMostOneSigner m.storage)

/-- A call keeps one passcode for all signers, where a signer that is protected again is the
only one. -/
theorem OnePasscode.step (ht : m.Sound c) (hone : OnePasscode c m.storage)
    (hstep : call.CarefulStep c m m') : OnePasscode c m'.storage := by
  obtain ⟨hmade, halone⟩ := hstep
  cases hrun : call.run c m with
  | mk result next =>
    cases result with
    | error e =>
      obtain rfl : m = m' := by
        rw [← hmade, hrun]
        exact (ManagerCall.run_error ht hrun).symm
      exact hone
    | ok =>
      rw [hrun] at halone
      exact (change_of_run ht hmade).onePasscode hone fun hrotates => halone hrotates rfl

/-- Over every run in which a signer is protected again only while it is the only one, there
is one passcode that the check accepts, so that it opens every protected signer, or there is
at most one of them. -/
theorem manager_one_passcode (h : Run (ManagerCall.CarefulStep c) .empty calls m) :
    (∃ passcode, m.validateAppPasscode c passcode = .ok () ∧
      ∀ name record, m.storage.wallets.get? name = some record →
        record.hasProtectedSigner = true →
        ∃ unlockKey, m.deriveVerifiedUnlockKey c (some name) passcode = .ok unlockKey) ∨
      AtMostOneSigner m.storage := by
  have hboth : m.Sound c ∧ OnePasscode c m.storage := by
    refine Run.invariant (I := fun t => t.Sound c ∧ OnePasscode c t.storage) h
      (fun _ _ => trivial) ⟨WalletManager.sound_empty, .inr atMostOneSigner_empty⟩ ?_
    rintro t call u ⟨ht, hone⟩ - hstep
    exact ⟨(change_of_run ht hstep.1).sound ht, hone.step ht hstep⟩
  obtain ⟨hm, ⟨passcode, hall⟩ | halone⟩ := hboth
  · refine .inl ⟨passcode, (WalletManager.validateAppPasscode_eq_ok hm.named).mpr hall, ?_⟩
    intro name record hget hsigner
    obtain ⟨unlockKey, hkey⟩ := hall name record hget hsigner
    refine ⟨unlockKey, bind_eq_ok.mpr ⟨record, ?_, hkey⟩⟩
    exact hm.signingRecord_eq hget hsigner
  · exact .inr halone

theorem importedManager_alone : AtMostOneSigner importedManager.storage := by
  have honly : ∀ name record, importedManager.storage.wallets.get? name = some record →
      name = "first" := by
    intro name record hget
    by_contra hname
    rw [Dict.get?_eq_none (by rwa [importedManager_wallets.1, List.mem_singleton])] at hget
    cases hget
  intro name name' record record' hget hget' _ _
  rw [honly name record hget, honly name' record' hget']

theorem twoSignersManager_signers : ¬ AtMostOneSigner twoSignersManager.storage := by
  intro halone
  obtain ⟨⟨-, hsigners⟩, -⟩ := twoSignersManager_wallets
  obtain ⟨record, hget, hsigner⟩ := Option.map_eq_some_iff.mp (hsigners "first" (by decide))
  obtain ⟨other, hother, hprotected⟩ :=
    Option.map_eq_some_iff.mp (hsigners "second" (by decide))
  exact absurd (halone _ _ record other hget hother hsigner hprotected) (by decide)

/-- The signer is the only one when it takes the other passcode. -/
theorem careful_run : Run (ManagerCall.CarefulStep sampleCrates) .empty
    [firstImport, sampleReprotect, sampleUnlock, refusedImport, secondImport]
    twoSignersManager :=
  .cons ⟨managerAfter_step _ _, nofun⟩
    (.cons ⟨managerAfter_step _ importedManager, fun _ _ => importedManager_alone⟩
      (.cons ⟨managerAfter_step _ _, nofun⟩ (.cons ⟨managerAfter_step _ _, nofun⟩
        (.single ⟨managerAfter_step _ _, nofun⟩))))

theorem manager_one_passcode_twoSigners :
    ∃ passcode, twoSignersManager.validateAppPasscode sampleCrates passcode = .ok () ∧
      ∀ name record, twoSignersManager.storage.wallets.get? name = some record →
        record.hasProtectedSigner = true →
        ∃ unlockKey, twoSignersManager.deriveVerifiedUnlockKey sampleCrates (some name) passcode =
          .ok unlockKey := by
  rcases manager_one_passcode careful_run with hone | halone
  · exact hone
  · exact absurd halone twoSignersManager_signers

end Fresnica.Python
