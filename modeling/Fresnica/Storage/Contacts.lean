import Fresnica.Foundation.Framed
import Fresnica.Foundation.InPlace
import Fresnica.Foundation.Lowercase
import Fresnica.Storage.WalletStorage

/-!
# The address book

Contacts are kept in one file, by names that are compared after trimming and in lower
case. A destination of a payment is either the address of an account, which stands for
itself, or the name of a contact, which stands for the contact's address.

## Main definitions

* `Contact`, `normalizeContact` — contacts, and the form in which they are kept
* `ContactCrates` — what the address book uses of other crates
* `load`, `list`, `find`, `add`, `remove` — the operations
* `resolveDestination` — the destination that a text stands for
* `Book.step`, `book` — what the operations mean for the list of contacts
* `BookIsKept` — what a user relies on, over a run of calls

## Main results

* `normalizeContact_idem` — a contact that is kept is normal
* `loadAll_eq_ok`, `load_written` — a list of normal contacts with different names is read back
* `addressBook_isKept` — the address book is kept, over every run
-/

namespace Fresnica.Contacts

open Foundation Storage

structure Contact where
  name : String
  address : String
  memo : Option String
  deriving DecidableEq, Repr

structure ResolvedDestination where
  address : String
  memo : Option String
  contactName : Option String
  deriving DecidableEq, Repr

/-- What the address book uses of other crates: a list that is printed is read back. -/
structure ContactCrates where
  accounts : AccountCodec
  toStringPretty : List Contact → String
  fromStr : String → Option (List Contact)
  fromStr_toStringPretty : ∀ contacts, fromStr (toStringPretty contacts ++ "\n") = some contacts

section Store

variable (c : ContactCrates)

def nameKey (name : String) : String := Text.toLowercase (Text.trim name)

def nameKeyChecked (name : String) : Except String String := do
  ensure (¬ (Text.trim name).isEmpty) "Contact name cannot be empty"
  return nameKey name

def normalizeContact (name address : String) (memo : Option String) : Except String Contact := do
  let name := Text.trim name
  ensure (¬ name.isEmpty) "Contact name cannot be empty"
  let address := Text.trim address
  let identity ← mapErr (fun _ => "Contact address is not a valid Stellar G... account")
    (parseAccount c.accounts address)
  ensure (identity.kind = .classic ∧ identity.address = address)
    "Contact address is not a valid Stellar G... account"
  let memo := (memo.map Text.trim).filter fun value => !value.isEmpty
  return ⟨name, address, memo⟩

def contactsPath : String := "contacts.json"

/-- The contacts of a parsed list, which stops at one that is not normal or has the name of
another one. -/
def loadAll (raw : List Contact) : Except String (List Contact) := do
  let read ← raw.foldlM (fun (read : List Contact × List String) value => do
    let contact ← mapErr (fun _ => "Contact address book is malformed")
      (normalizeContact c value.name value.address value.memo)
    let key := nameKey contact.name
    ensure (key ∉ read.2) "Contact address book contains duplicate names"
    return (read.1 ++ [contact], read.2 ++ [key])) ([], [])
  return read.1

def load (files : Files) : Except String (List Contact) :=
  match files.get? contactsPath with
  | none => .ok []
  | some text => do
    let raw ← okOr (c.fromStr text) s!"Unable to read contacts: {contactsPath}"
    loadAll c raw

def list (files : Files) : Except String (List Contact) := do
  let contacts ← load c files
  return contacts.mergeSort fun a b => decide (nameKey a.name ≤ nameKey b.name)

def find (name : String) (files : Files) : Except String (Option Contact) := do
  let key ← nameKeyChecked name
  let contacts ← load c files
  return contacts.find? fun contact => decide (nameKey contact.name = key)

def save (contacts : List Contact) : Mut Files String Unit := do
  let files ← Mut.current
  Mut.assign (atomicWrite contactsPath (c.toStringPretty contacts ++ "\n") files)

def add (name address : String) (memo : Option String) : Mut Files String Contact := do
  let contact ← Mut.attempt (normalizeContact c name address memo)
  let files ← Mut.current
  let contacts ← Mut.attempt (load c files)
  let key := nameKey contact.name
  Mut.attempt (ensure (¬ contacts.any fun existing => decide (nameKey existing.name = key))
    s!"Contact already exists: {contact.name}")
  save c (contacts ++ [contact])
  return contact

def remove (name : String) : Mut Files String Contact := do
  let key ← Mut.attempt (nameKeyChecked name)
  let files ← Mut.current
  let contacts ← Mut.attempt (load c files)
  let index ← Mut.attempt (okOr
    (contacts.findIdx? fun contact => decide (nameKey contact.name = key))
    s!"Contact not found: {name}")
  let removed ← Mut.attempt (okOr contacts[index]? s!"Contact not found: {name}")
  save c (contacts.eraseIdx index)
  return removed

def resolveDestination (files : Files) (destination : String) (explicitMemo : Option String) :
    Except String ResolvedDestination :=
  let destination := Text.trim destination
  if (c.accounts.muxedAccountOf? destination).any
      fun account => decide (c.accounts.muxedAccount account = destination) then
    .ok ⟨destination, explicitMemo, none⟩
  else do
    match ← find c destination files with
    | none => return ⟨destination, explicitMemo, none⟩
    | some contact =>
      return ⟨contact.address, explicitMemo.or contact.memo, some contact.name⟩

/-! ### Runs -/

inductive Call
  | add (name address : String) (memo : Option String)
  | remove (name : String)

def step (files : Files) : Call → Files
  | .add name address memo => (add c name address memo files).2
  | .remove name => (remove c name files).2

/-- The files after a run of calls on an empty directory. -/
def run (calls : List Call) : Files := calls.foldl (step c) .empty

/-- What a call means: a normal contact with a new name goes last, and the contact of a
name goes away. -/
def Book.step (contacts : List Contact) : Call → List Contact
  | .add name address memo =>
    match normalizeContact c name address memo with
    | .ok contact =>
      if nameKey contact.name ∈ contacts.map fun existing => nameKey existing.name then
        contacts
      else contacts ++ [contact]
    | .error _ => contacts
  | .remove name =>
    if (Text.trim name).isEmpty then contacts
    else contacts.eraseP fun contact => decide (nameKey contact.name = nameKey name)

/-- The contacts that were added and not removed, in order. -/
def book (calls : List Call) : List Contact := calls.foldl (Book.step c) []

end Store

variable {c : ContactCrates} {contacts : List Contact} {contact : Contact} {files : Files}
  {name address : String} {memo : Option String} {calls : List Call}

/-! ### Normal contacts -/

theorem nameKey_trim : nameKey (Text.trim name) = nameKey name := by
  rw [nameKey, Text.trim_trim, nameKey]

/-- Names that differ in the case of letters of ASCII have one key. -/
theorem nameKey_eq_of_toLower {other : String}
    (h : (Text.trim other).toLower = (Text.trim name).toLower) : nameKey other = nameKey name := by
  rw [nameKey, ← Text.toLowercase_toLower, h, Text.toLowercase_toLower, nameKey]

theorem normalizeContact_eq_ok : normalizeContact c name address memo = .ok contact ↔
    Text.trim name ≠ "" ∧ (∃ key, c.accounts.publicKey key = Text.trim address) ∧
      contact = ⟨Text.trim name, Text.trim address,
        (memo.map Text.trim).filter fun value => !value.isEmpty⟩ := by
  rw [normalizeContact, ← parseAccount_eq_classic]
  simp only [bind_eq_ok, ensure_eq_ok, mapErr_eq_ok, pure_eq_ok, Except.ok.injEq, exists_const,
    String.isEmpty_iff]
  constructor
  · rintro ⟨hname, identity, hparse, hidentity, rfl⟩
    exact ⟨hname, ⟨identity, hparse, hidentity⟩, rfl⟩
  · rintro ⟨hname, ⟨identity, hparse, hidentity⟩, rfl⟩
    exact ⟨hname, identity, hparse, hidentity, rfl⟩

/-- A contact in the form in which it is kept. -/
def Normal (c : ContactCrates) (contact : Contact) : Prop :=
  normalizeContact c contact.name contact.address contact.memo = .ok contact

/-- A normalized contact is normal. -/
theorem normalizeContact_idem (h : normalizeContact c name address memo = .ok contact) :
    Normal c contact := by
  obtain ⟨hname, hkey, rfl⟩ := normalizeContact_eq_ok.mp h
  rw [Normal, normalizeContact_eq_ok, Text.trim_trim, Text.trim_trim]
  refine ⟨hname, hkey, ?_⟩
  congr 1
  cases memo with
  | none => rfl
  | some value =>
    rw [Option.map_some, Option.filter_some]
    split_ifs with hvalue
    · rw [Option.map_some, Text.trim_trim, Option.filter_some, if_pos hvalue]
    · rfl

/-! ### Reading a kept list -/

/-- The key of a contact. -/
def contactKey (contact : Contact) : String := nameKey contact.name

/-- A contact is the one of a name. -/
def hasKey (name : String) (contact : Contact) : Bool :=
  decide (contactKey contact = nameKey name)

theorem hasKey_iff : hasKey name contact = true ↔ contactKey contact = nameKey name :=
  decide_eq_true_iff

/-- Normal contacts with different names. -/
structure Kept (c : ContactCrates) (contacts : List Contact) : Prop where
  normal : ∀ contact ∈ contacts, Normal c contact
  nodup : (contacts.map contactKey).Nodup

/-- A kept list is read as it is. -/
theorem loadAll_eq_ok (h : Kept c contacts) : loadAll c contacts = .ok contacts := by
  have hloop : ∀ before after : List Contact, contacts = before ++ after →
      after.foldlM (fun (read : List Contact × List String) value => do
        let contact ← mapErr (fun _ => "Contact address book is malformed")
          (normalizeContact c value.name value.address value.memo)
        let key := nameKey contact.name
        ensure (key ∉ read.2) "Contact address book contains duplicate names"
        return (read.1 ++ [contact], read.2 ++ [key])) (before, before.map contactKey) =
      (.ok (contacts, contacts.map contactKey) : Except String _) := by
    -- by the contacts that are still to be read; those before them are read already
    intro before after hcontacts
    induction after generalizing before with
    | nil =>
      rw [List.append_nil] at hcontacts
      rw [hcontacts]
      rfl
    | cons value after ih =>
      have hnormal : Normal c value :=
        h.normal value (hcontacts ▸ List.mem_append_right _ List.mem_cons_self)
      have hnew : nameKey value.name ∉ before.map contactKey := by
        have hnodup := h.nodup
        rw [hcontacts, List.map_append, List.map_cons, List.nodup_append] at hnodup
        intro hmem
        exact hnodup.2.2 _ hmem _ List.mem_cons_self rfl
      rw [List.foldlM_cons, show normalizeContact c value.name value.address value.memo =
        .ok value from hnormal]
      simp only [mapErr, ok_bind, ensure, if_pos hnew, pure_eq_ok]
      have hkeys : before.map contactKey ++ [nameKey value.name] =
          (before ++ [value]).map contactKey := by
        rw [List.map_append]
        rfl
      rw [hkeys]
      apply ih
      rw [hcontacts, List.append_assoc, List.singleton_append]
  have hall := hloop [] contacts rfl
  rw [List.map_nil] at hall
  unfold loadAll
  erw [hall]
  rfl

/-- The files with a list of contacts. -/
def written (c : ContactCrates) (contacts : List Contact) (files : Files) : Files :=
  atomicWrite contactsPath (c.toStringPretty contacts ++ "\n") files

/-- A kept list that is written is loaded. -/
theorem load_written (h : Kept c contacts) : load c (written c contacts files) = .ok contacts := by
  have hget : (written c contacts files).get? contactsPath =
      some (c.toStringPretty contacts ++ "\n") := by
    rw [written, get?_atomicWrite (by decide), if_pos rfl]
  rw [load, hget]
  simp only [c.fromStr_toStringPretty, okOr, ok_bind]
  exact loadAll_eq_ok h

/-! ### The operations -/

theorem any_key : (contacts.any fun existing =>
    decide (nameKey existing.name = nameKey contact.name)) = true ↔
      contactKey contact ∈ contacts.map contactKey := by
  simp [contactKey]

/-- A normal contact goes last, unless there is one of its name. -/
theorem add_of_load (hload : load c files = .ok contacts) :
    add c name address memo files =
      match normalizeContact c name address memo with
      | .error e => (.error e, files)
      | .ok contact =>
        if contactKey contact ∈ contacts.map contactKey then
          (.error s!"Contact already exists: {contact.name}", files)
        else (.ok contact, written c (contacts ++ [contact]) files) := by
  rw [add]
  cases hnormal : normalizeContact c name address memo with
  | error e => rfl
  | ok contact =>
    rw [Mut.attempt_ok_bind, Mut.current_bind, hload, Mut.attempt_ok_bind]
    dsimp only
    unfold ensure
    by_cases hmem : contactKey contact ∈ contacts.map contactKey
    · rw [if_pos hmem, if_neg (not_not.mpr (any_key.mpr hmem)), Mut.attempt_error_bind]
    · rw [if_neg hmem, if_pos (mt any_key.mp hmem), Mut.attempt_ok_bind]
      rfl

/-- The contact of a name goes away, if there is one. -/
theorem remove_of_load (hload : load c files = .ok contacts) :
    remove c name files =
      if (Text.trim name).isEmpty then (.error "Contact name cannot be empty", files)
      else match contacts.find? (hasKey name) with
        | none => (.error s!"Contact not found: {name}", files)
        | some removed => (.ok removed, written c (contacts.eraseP (hasKey name)) files) := by
  rw [remove, nameKeyChecked]
  unfold ensure
  by_cases hempty : (Text.trim name).isEmpty = true
  · rw [if_pos hempty, if_neg (not_not.mpr hempty)]
    rfl
  · rw [if_neg hempty, if_pos hempty, ok_bind, pure_eq_ok, Mut.attempt_ok_bind, Mut.current_bind,
      hload, Mut.attempt_ok_bind, List.find?_eq_bind_findIdx?_getElem?, List.eraseP_eq_eraseIdx]
    change (Mut.attempt (okOr (contacts.findIdx? (hasKey name)) _) >>= _) files = _
    cases contacts.findIdx? (hasKey name) with
    | none => rfl
    | some index =>
      rw [okOr, Mut.attempt_ok_bind]
      cases hindex : contacts[index]? with
      | none => simp [hindex, okOr]
      | some removed =>
        simp only [hindex, okOr, Mut.attempt_ok_bind, Option.bind_some]
        rfl

/-- A failed addition leaves the book as it is. -/
theorem add_error (hload : load c files = .ok contacts) {e : String} {after : Files}
    (h : add c name address memo files = (.error e, after)) : after = files := by
  rw [add_of_load hload] at h
  split at h
  · exact (congrArg Prod.snd h).symm
  · split_ifs at h
    · exact (congrArg Prod.snd h).symm
    · exact absurd (congrArg Prod.fst h) nofun

/-- A failed removal leaves the book as it is. -/
theorem remove_error (hload : load c files = .ok contacts) {e : String} {after : Files}
    (h : remove c name files = (.error e, after)) : after = files := by
  rw [remove_of_load hload] at h
  split_ifs at h
  · exact (congrArg Prod.snd h).symm
  · split at h
    · exact (congrArg Prod.snd h).symm
    · exact absurd (congrArg Prod.fst h) nofun

/-! ### The invariant -/

namespace Kept

theorem nil : Kept c [] := ⟨nofun, List.nodup_nil⟩

/-- A normal contact with a new name goes last. -/
theorem append (h : Kept c contacts) (hnormal : Normal c contact)
    (hnew : contactKey contact ∉ contacts.map contactKey) :
    Kept c (contacts ++ [contact]) where
  normal := by
    intro other hother
    cases List.mem_append.mp hother with
    | inl hold => exact h.normal other hold
    | inr hlast =>
      rw [List.mem_singleton.mp hlast]
      exact hnormal
  nodup := by
    rw [List.map_append]
    apply h.nodup.append (List.nodup_singleton _)
    intro key hold hlast
    rw [List.mem_singleton.mp hlast] at hold
    exact hnew hold

theorem eraseP (h : Kept c contacts) (p : Contact → Bool) : Kept c (contacts.eraseP p) where
  normal := by
    intro other hother
    exact h.normal other (List.mem_of_mem_eraseP hother)
  nodup := h.nodup.sublist (List.eraseP_sublist.map _)

/-- Every call keeps a kept list. -/
theorem step (h : Kept c contacts) (call : Call) : Kept c (Book.step c contacts call) := by
  cases call with
  | add name address memo =>
    rw [Book.step]
    split
    · next contact hnormal =>
      split_ifs with hmem
      · exact h
      · exact h.append (normalizeContact_idem hnormal) hmem
    · exact h
  | remove name =>
    rw [Book.step]
    split_ifs
    · exact h
    · exact h.eraseP _

/-- No two contacts have one name. -/
theorem eq_of_key (h : Kept c contacts) {other : Contact} (hcontact : contact ∈ contacts)
    (hother : other ∈ contacts) (hkey : contactKey other = contactKey contact) :
    other = contact :=
  List.inj_on_of_nodup_map h.nodup hother hcontact hkey

/-- The contact of a name is found. -/
theorem find?_hasKey (h : Kept c contacts) (hmem : contact ∈ contacts)
    (hkey : contactKey contact = nameKey name) :
    contacts.find? (hasKey name) = some contact := by
  cases hfind : contacts.find? (hasKey name) with
  | none =>
    have hnone := List.find?_eq_none.mp hfind contact hmem
    exact absurd (hasKey_iff.mpr hkey) hnone
  | some other =>
    have hother : contactKey other = nameKey name := hasKey_iff.mp (List.find?_some hfind)
    rw [h.eq_of_key hmem (List.mem_of_find?_eq_some hfind) (hother.trans hkey.symm)]

end Kept

/-- A call on a loaded book loads the book that the call means. -/
theorem load_step (h : Kept c contacts) (hload : load c files = .ok contacts) (call : Call) :
    load c (step c files call) = .ok (Book.step c contacts call) := by
  have hkept := h.step call
  cases call with
  | add name address memo =>
    rw [step, add_of_load hload]
    rw [Book.step] at hkept ⊢
    -- a name that is taken leaves the book as it is
    cases hnormal : normalizeContact c name address memo with
    | error e => exact hload
    | ok contact =>
      rw [hnormal] at hkept
      dsimp only at hkept ⊢
      by_cases hmem : contactKey contact ∈ contacts.map contactKey
      · rw [if_pos hmem]
        exact hload.trans (congrArg Except.ok (if_pos hmem).symm)
      · have hnew : (if nameKey contact.name ∈
            contacts.map fun existing => nameKey existing.name then contacts
          else contacts ++ [contact]) = contacts ++ [contact] := if_neg hmem
        rw [hnew] at hkept ⊢
        rw [if_neg hmem]
        exact load_written hkept
  | remove name =>
    rw [step, remove_of_load hload]
    rw [Book.step] at hkept ⊢
    by_cases hempty : (Text.trim name).isEmpty = true
    · rw [if_pos hempty, if_pos hempty]
      exact hload
    · rw [if_neg hempty] at hkept ⊢
      rw [if_neg hempty]
      cases hfind : contacts.find? (hasKey name) with
      | none =>
        have hnone := List.find?_eq_none.mp hfind
        exact hload.trans (congrArg Except.ok (List.eraseP_of_forall_not hnone).symm)
      | some removed => exact load_written hkept

/-- The book of a run is kept, and it is the one that is loaded. -/
theorem load_run (calls : List Call) :
    Kept c (book c calls) ∧ load c (run c calls) = .ok (book c calls) := by
  induction calls using List.reverseRecOn with
  | nil => exact ⟨.nil, rfl⟩
  | append_singleton calls call ih =>
    obtain ⟨hkept, hload⟩ := ih
    have hbook : book c (calls ++ [call]) = Book.step c (book c calls) call := List.foldl_append
    have hrun : run c (calls ++ [call]) = step c (run c calls) call := List.foldl_append
    rw [hbook, hrun]
    exact ⟨hkept.step call, load_step hkept hload call⟩

/-! ### Destinations -/

/-- A name without letters is blank. -/
theorem nameKey_eq_empty_iff : nameKey name = "" ↔ Text.trim name = "" :=
  Text.toLowercase_eq_empty_iff

/-- A contact that was added goes away under any name with the same key. -/
theorem remove_of_add (hkept : Kept c contacts) (hload : load c files = .ok contacts)
    {after : Files} (hadd : add c name address memo files = (.ok contact, after)) {other : String}
    (hother : nameKey other = nameKey name) :
    ∃ restored, remove c other after = (.ok contact, restored) ∧
      load c restored = .ok contacts := by
  rw [add_of_load hload] at hadd
  cases hnormal : normalizeContact c name address memo with
  | error e =>
    rw [hnormal] at hadd
    exact absurd (congrArg Prod.fst hadd) nofun
  | ok added =>
    rw [hnormal] at hadd
    dsimp only at hadd
    split_ifs at hadd with hmem
    · exact absurd (congrArg Prod.fst hadd) nofun
    · obtain ⟨rfl, rfl⟩ :
          added = contact ∧ written c (contacts ++ [added]) files = after := by
        simpa using hadd
      obtain ⟨hname, -, hadded⟩ := normalizeContact_eq_ok.mp hnormal
      have hkey : contactKey added = nameKey other := by
        rw [hother, contactKey, hadded, nameKey_trim]
      have hblank : ¬ (Text.trim other).isEmpty = true := by
        rw [String.isEmpty_iff, ← nameKey_eq_empty_iff, hother, nameKey_eq_empty_iff]
        exact hname
      have hnew := hkept.append (normalizeContact_idem hnormal) hmem
      -- the added contact is the only one under that name, and stands last
      have hfind : (contacts ++ [added]).find? (hasKey other) = some added :=
        hnew.find?_hasKey (List.mem_append_right _ List.mem_cons_self) hkey
      have herase : (contacts ++ [added]).eraseP (hasKey other) = contacts := by
        have hold : ∀ contact ∈ contacts, ¬ hasKey other contact = true := by
          intro contact hcontact hhas
          apply hmem
          rw [hkey, ← hasKey_iff.mp hhas]
          exact List.mem_map_of_mem hcontact
        rw [List.eraseP_append_right _ hold, List.eraseP_cons_of_pos (hasKey_iff.mpr hkey),
          List.append_nil]
      refine ⟨written c contacts (written c (contacts ++ [added]) files), ?_,
        load_written hkept⟩
      rw [remove_of_load (load_written hnew), if_neg hblank, hfind, herase]

/-- A text is the address of an account exactly when it is parsed and printed alike. -/
theorem isAddress_iff {text : String} :
    ((c.accounts.muxedAccountOf? text).any fun account =>
      decide (c.accounts.muxedAccount account = text)) = true ↔
      ∃ account, c.accounts.muxedAccount account = text := by
  rw [Option.any_eq_true]
  constructor
  · intro ⟨account, _, hprint⟩
    exact ⟨account, of_decide_eq_true hprint⟩
  · intro ⟨account, hprint⟩
    refine ⟨account, ?_, decide_eq_true hprint⟩
    rw [← hprint, AccountCodec.muxedAccountOf?_muxedAccount]

/-- An address stands for itself, on any files. -/
theorem resolveDestination_address {destination : String} {account : MuxedAccount}
    (h : Text.trim destination = c.accounts.muxedAccount account) :
    resolveDestination c files destination memo =
      .ok ⟨c.accounts.muxedAccount account, memo, none⟩ := by
  rw [resolveDestination, h]
  exact if_pos (isAddress_iff.mpr ⟨account, rfl⟩)

/-- Another text is the name of a contact, or it stands for itself. -/
theorem resolveDestination_name (hload : load c files = .ok contacts) {destination : String}
    (h : ∀ account, c.accounts.muxedAccount account ≠ Text.trim destination)
    (hblank : Text.trim destination ≠ "") :
    resolveDestination c files destination memo =
      match contacts.find? (hasKey destination) with
      | none => .ok ⟨Text.trim destination, memo, none⟩
      | some contact => .ok ⟨contact.address, memo.or contact.memo, some contact.name⟩ := by
  have haddress : ¬ ∃ account, c.accounts.muxedAccount account = Text.trim destination := by
    intro ⟨account, haccount⟩
    exact h account haccount
  have hfind : find c (Text.trim destination) files =
      .ok (contacts.find? (hasKey destination)) := by
    rw [find, nameKeyChecked, Text.trim_trim, nameKey_trim, hload]
    unfold ensure
    rw [if_pos (by rwa [String.isEmpty_iff])]
    rfl
  rw [resolveDestination, if_neg (mt isAddress_iff.mp haddress), hfind, ok_bind]
  cases contacts.find? (hasKey destination) <;> rfl

/-- A blank text is no destination. -/
theorem resolveDestination_blank {destination : String} (hblank : Text.trim destination = "")
    (h : ∀ account, c.accounts.muxedAccount account ≠ "") :
    resolveDestination c files destination memo = .error "Contact name cannot be empty" := by
  have haddress : ¬ ∃ account, c.accounts.muxedAccount account = "" := by
    intro ⟨account, haccount⟩
    exact h account haccount
  rw [resolveDestination, hblank, if_neg (mt isAddress_iff.mp haddress), find, nameKeyChecked]
  rfl

/-! ### Runs -/

/-- What a user relies on, after a run of calls. -/
structure BookIsKept (c : ContactCrates) (calls : List Call) : Prop where
  /-- The book is that of the contacts that were added and not removed. -/
  loaded : load c (run c calls) = .ok (book c calls)
  normal : ∀ contact ∈ book c calls, Normal c contact
  nodup : ((book c calls).map fun contact => nameKey contact.name).Nodup
  /-- An addition is undone by a removal under any name with the same key. -/
  restored : ∀ {name address memo contact after other},
    add c name address memo (run c calls) = (.ok contact, after) →
    nameKey other = nameKey name →
    ∃ restored, remove c other after = (.ok contact, restored) ∧
      load c restored = .ok (book c calls)
  /-- The key does not depend on the case of letters of ASCII. -/
  cased : ∀ {name other},
    (Text.trim other).toLower = (Text.trim name).toLower → nameKey other = nameKey name
  add_error : ∀ {name address memo e after},
    add c name address memo (run c calls) = (.error e, after) → after = run c calls
  remove_error : ∀ {name e after},
    remove c name (run c calls) = (.error e, after) → after = run c calls
  /-- The address of an account stands for itself. -/
  address : ∀ {destination account} memo,
    Text.trim destination = c.accounts.muxedAccount account →
    resolveDestination c (run c calls) destination memo =
      .ok ⟨c.accounts.muxedAccount account, memo, none⟩
  /-- The name of a contact stands for its address, and it is the name of no other one. -/
  name : ∀ {destination contact} memo,
    (∀ account, c.accounts.muxedAccount account ≠ Text.trim destination) →
    contact ∈ book c calls → nameKey contact.name = nameKey destination →
    (∀ other ∈ book c calls,
      nameKey other.name = nameKey destination → other = contact) ∧
    resolveDestination c (run c calls) destination memo =
      .ok ⟨contact.address, memo.or contact.memo, some contact.name⟩
  /-- Any other text is not replaced. -/
  other : ∀ {destination resolved memo},
    (∀ contact ∈ book c calls, nameKey contact.name ≠ nameKey destination) →
    resolveDestination c (run c calls) destination memo = .ok resolved →
    resolved = ⟨Text.trim destination, memo, none⟩

/-- A destination of no name in the book is not replaced. -/
theorem resolveDestination_other (hload : load c files = .ok contacts)
    {destination : String} {resolved : ResolvedDestination}
    (hnone : ∀ contact ∈ contacts, nameKey contact.name ≠ nameKey destination)
    (h : resolveDestination c files destination memo = .ok resolved) :
    resolved = ⟨Text.trim destination, memo, none⟩ := by
  by_cases haddress : ∃ account, c.accounts.muxedAccount account = Text.trim destination
  · obtain ⟨account, haccount⟩ := haddress
    rw [resolveDestination_address haccount.symm, haccount] at h
    exact (Except.ok.inj h).symm
  · rw [not_exists] at haddress
    by_cases hblank : Text.trim destination = ""
    · rw [resolveDestination_blank hblank (hblank ▸ haddress)] at h
      cases h
    · have hfind : contacts.find? (hasKey destination) = none := by
        rw [List.find?_eq_none]
        intro contact hcontact hkey
        exact hnone contact hcontact (hasKey_iff.mp hkey)
      rw [resolveDestination_name hload haddress hblank, hfind] at h
      exact (Except.ok.inj h).symm

/-! ### A list of contacts as a text -/

def contactTexts (contact : Contact) : List String :=
  match contact.memo with
  | none => [contact.name, contact.address, "none", ""]
  | some memo => [contact.name, contact.address, "some", memo]

def contactsOfTexts : List String → Option (List Contact)
  | [] => some []
  | name :: address :: kind :: memo :: texts => do
    let contacts ← contactsOfTexts texts
    return ⟨name, address, if kind = "some" then some memo else none⟩ :: contacts
  | _ => none

theorem contactsOfTexts_flatMap (contacts : List Contact) :
    contactsOfTexts (contacts.flatMap contactTexts) = some contacts := by
  induction contacts with
  | nil => rfl
  | cons contact contacts ih =>
    obtain ⟨name, address, _ | memo⟩ := contact
    all_goals
      rw [List.flatMap_cons]
      simp only [contactTexts, List.cons_append, List.nil_append, contactsOfTexts, ih]
      rfl

/-- What the address book uses of other crates can be had. -/
def framedCrates : ContactCrates where
  accounts := Sep23.accountCodec
  toStringPretty contacts := Framed.print (contacts.flatMap contactTexts)
  fromStr text := (Framed.read text).bind contactsOfTexts
  fromStr_toStringPretty contacts := by
    rw [Framed.read_print_append, Option.bind_some, contactsOfTexts_flatMap]

/-- The address book is kept over every run of calls. -/
theorem addressBook_isKept (c : ContactCrates) (calls : List Call) : BookIsKept c calls := by
  obtain ⟨hkept, hload⟩ := load_run (c := c) calls
  refine ⟨hload, hkept.normal, hkept.nodup, ?_, nameKey_eq_of_toLower, add_error hload,
    remove_error hload, ?_, ?_, resolveDestination_other hload⟩
  · intro name address memo contact after other hadd hother
    exact remove_of_add hkept hload hadd hother
  · intro destination account memo hdestination
    exact resolveDestination_address hdestination
  · intro destination contact memo haddress hmem hkey
    have hname : Text.trim destination ≠ "" := by
      rw [← nameKey_eq_empty_iff.ne, ← hkey, nameKey_eq_empty_iff.ne]
      exact (normalizeContact_eq_ok.mp (hkept.normal contact hmem)).1
    refine ⟨?_, ?_⟩
    · intro other hother hsame
      exact hkept.eq_of_key hmem hother (hsame.trans hkey.symm)
    · rw [resolveDestination_name hload haddress hname, hkept.find?_hasKey hmem hkey]

/-- A contact whose name has other letters in capitals, for examples. -/
def tschuess : Contact :=
  ⟨"tschüß", "GAAAAAAAAAAAAAAAAAAAAAAAAAAAAAAAAAAAAAAAAAAAAAAAAAAAAWHF", none⟩

/-- What was added under its small letters is not found under its capitals, as these have
another lower case. -/
theorem remove_capitals_not_found : ∃ after,
    add framedCrates "tschüß" "GAAAAAAAAAAAAAAAAAAAAAAAAAAAAAAAAAAAAAAAAAAAAAAAAAAAAWHF" none
        .empty = (.ok tschuess, after) ∧
      remove framedCrates "TSCHÜSS" after = (.error "Contact not found: TSCHÜSS", after) := by
  have hload : load framedCrates .empty = .ok [] := rfl
  have hnormal : normalizeContact framedCrates "tschüß"
      "GAAAAAAAAAAAAAAAAAAAAAAAAAAAAAAAAAAAAAAAAAAAAAAAAAAAAWHF" none = .ok tschuess := by
    decide +kernel
  have hother : [tschuess].find? (hasKey "TSCHÜSS") = none := by decide +kernel
  have hkept : Kept framedCrates [tschuess] :=
    Kept.nil.append (normalizeContact_idem hnormal) List.not_mem_nil
  refine ⟨written framedCrates [tschuess] .empty, ?_, ?_⟩
  · rw [add_of_load hload, hnormal]
    exact if_neg List.not_mem_nil
  · rw [remove_of_load (load_written hkept), hother]
    exact if_neg (by decide +kernel)

end Fresnica.Contacts
