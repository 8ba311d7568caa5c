import Mathlib.Logic.Function.Basic
import Fresnica.Foundation.Framed
import Fresnica.Storage.WalletStorage

/-!
# The wallet that the user chose

To the user the storage is a set of wallets by name, and a default among them. The
directory refines this as long as every name that becomes the default is equal to its
trimmed form; a name with white space at an end is read back as another name.

## Main definitions

* `Wallets`, `Wallets.step` — what the storage is for
* `Refines` — the directory is one of these wallets and this default
* `DefaultIsChosen` — what a user relies on, over a run of calls
* `ChosenTrimmed` — no name with white space at an end becomes the default

## Main results

* `Refines.step`, `refines_run` — the directory refines the wallets
* `Refines.load_congr` — a wallet that is left alone is loaded alike
-/

namespace Fresnica.Storage

open Foundation

/-- The wallets by name, and the default that the user has chosen. -/
structure Wallets where
  wallets : String → Option StoredWallet
  default : Option String

namespace Wallets

def empty : Wallets := ⟨fun _ => none, none⟩

def put (w : Wallets) (record : StoredWallet) : Wallets :=
  { w with wallets := Function.update w.wallets record.name (some record) }

def choose (w : Wallets) (name : String) : Wallets := { w with default := some name }

/-- The default goes with its wallet. -/
def remove (w : Wallets) (name : String) : Wallets :=
  ⟨Function.update w.wallets name none, if w.default = some name then none else w.default⟩

/-- What a call means. -/
def step (c : StorageCrates) (w : Wallets) : Call → Wallets
  | .save record overwrite =>
    if (validateRecord c.accounts record).isOk ∧ ((w.wallets record.name).isNone ∨ overwrite) then
      w.put record
    else w
  | .setDefault name => if (w.wallets name).isSome then w.choose name else w
  | .delete name => if (w.wallets name).isSome then w.remove name else w

variable {w : Wallets} {name : String} {record : StoredWallet}

@[simp] theorem wallets_put_self : (w.put record).wallets record.name = some record :=
  Function.update_self _ _ _

theorem wallets_put_of_ne (h : name ≠ record.name) :
    (w.put record).wallets name = w.wallets name :=
  Function.update_of_ne h _ _

@[simp] theorem wallets_remove_self : (w.remove name).wallets name = none :=
  Function.update_self _ _ _

theorem wallets_remove_of_ne {other : String} (h : other ≠ name) :
    (w.remove name).wallets other = w.wallets other :=
  Function.update_of_ne h _ _

end Wallets

variable {c : StorageCrates} {names : List String} {files : Files} {w : Wallets}
  {name other : String} {record : StoredWallet} {request : Call} {calls : List Call}

/-- The text of a wallet file. -/
def fileText (c : StorageCrates) (record : StoredWallet) : String :=
  c.toStringPretty record ++ "\n"

/-- The directory has these wallets, with names among the given ones, and this default,
which is trimmed and exists. -/
structure Refines (c : StorageCrates) (names : List String) (files : Files) (w : Wallets) :
    Prop where
  file : ∀ name ∈ names,
    files.get? (walletPath c name) = (w.wallets name).map (fileText c)
  known : ∀ name text, files.get? (walletPath c name) = some text →
    ∃ other ∈ names, walletPath c name = walletPath c other
  valid : ∀ name record, w.wallets name = some record →
    name ∈ names ∧ record.name = name ∧ validateRecord c.accounts record = .ok ()
  default : files.get? defaultPath = w.default.map (· ++ "\n")
  chosen : ∀ name, w.default = some name → Text.trim name = name ∧ (w.wallets name).isSome

/-- The names have different files. -/
def CollisionFree (c : StorageCrates) (names : List String) : Prop :=
  ∀ name ∈ names, ∀ other ∈ names,
    c.sha256 name.toUTF8.toList = c.sha256 other.toUTF8.toList → name = other

theorem refines_empty : Refines c names .empty .empty where
  file := fun _ _ => rfl
  known := nofun
  valid := nofun
  default := rfl
  chosen := nofun

/-! ### Reading -/

/-- A name that is accepted is not blank. -/
theorem trim_ne_of_valid (h : validateRecord c.accounts record = .ok ()) :
    (Text.trim record.name).isEmpty = false := by
  rw [validateRecord, ensure_bind_eq_ok] at h
  exact Bool.eq_false_iff.mpr h.1

namespace Refines

/-- A wallet is loaded as its file is parsed. -/
theorem load_some (h : Refines c names files w) (hw : w.wallets name = some record) :
    ∃ read, load c name files = .ok read ∧ c.fromStr (fileText c record) = .ok read := by
  obtain ⟨hmem, hname, hvalid⟩ := h.valid name record hw
  obtain ⟨read, hparse, hheader⟩ := c.fromStr_toStringPretty hvalid
  have hread : read.name = name := (congrArg Prod.fst hheader).trans hname
  refine ⟨read, ?_, hparse⟩
  rw [load, h.file name hmem, hw]
  simp only [Option.map_some, okOr, ok_bind, fileText, hparse, mapErr, ensure, if_pos hread,
    validateRecord_congr hheader, hvalid, pure_eq_ok]

/-- A wallet that does not exist is not found, whatever shares its file. -/
theorem load_none (h : Refines c names files w) (hw : w.wallets name = none) :
    load c name files = .error s!"wallet not found: {name}" := by
  rw [load]
  cases hget : files.get? (walletPath c name) with
  | none => rfl
  | some text =>
    obtain ⟨other, hother, hpath⟩ := h.known name text hget
    rw [hpath, h.file other hother] at hget
    obtain ⟨record, hrecord, rfl⟩ := Option.map_eq_some_iff.mp hget
    obtain ⟨-, hrecordName, hvalid⟩ := h.valid other record hrecord
    obtain ⟨read, hparse, hheader⟩ := c.fromStr_toStringPretty hvalid
    have hread : read.name ≠ name := by
      intro heq
      have hname := (congrArg Prod.fst hheader).trans hrecordName
      rw [← heq, show read.name = other from hname, hrecord] at hw
      exact absurd hw nofun
    simp only [okOr, ok_bind, fileText, hparse, mapErr, ensure, if_neg hread, error_bind]

/-- A wallet that is the same in two directories is loaded alike. -/
theorem load_congr {files' : Files} {w' : Wallets} (h : Refines c names files w)
    (h' : Refines c names files' w') (heq : w'.wallets name = w.wallets name) :
    load c name files' = load c name files := by
  cases hw : w.wallets name with
  | none => rw [h.load_none hw, h'.load_none (heq.trans hw)]
  | some record =>
    obtain ⟨read, hload, hparse⟩ := h.load_some hw
    obtain ⟨read', hload', hparse'⟩ := h'.load_some (heq.trans hw)
    rw [hload, hload', ← hparse, ← hparse']

/-- The default is read as it was chosen. -/
theorem defaultName_eq (h : Refines c names files w) : defaultName files = w.default := by
  rw [defaultName, h.default]
  cases hdefault : w.default with
  | none => rfl
  | some name =>
    obtain ⟨htrim, hsome⟩ := h.chosen name hdefault
    obtain ⟨record, hrecord⟩ := Option.isSome_iff_exists.mp hsome
    obtain ⟨-, rfl, hvalid⟩ := h.valid name record hrecord
    have hline : Text.trim (record.name ++ "\n") = record.name :=
      (Text.trim_append_singleton record.name (by decide)).trans htrim
    have hname : record.name ≠ "" := by
      intro hempty
      have hblank := trim_ne_of_valid hvalid
      rw [htrim, hempty] at hblank
      exact absurd hblank (by decide)
    simp [hline, hname]

theorem resolve_none (h : Refines c names files w) (hdefault : w.default = some name) :
    resolve c none files = load c name files := by
  rw [resolve, h.defaultName_eq, hdefault]

/-! ### Writing -/

/-- A wallet file is written. -/
theorem save (h : Refines c names files w) (hfree : CollisionFree c names)
    (hmem : record.name ∈ names) (hvalid : validateRecord c.accounts record = .ok ()) :
    Refines c names (atomicWrite (walletPath c record.name) (fileText c record) files)
      (w.put record) where
  file := by
    intro name hname
    rw [get?_atomicWrite (walletPath_ne name _).2]
    by_cases heq : name = record.name
    · rw [heq, if_pos rfl, Wallets.wallets_put_self, Option.map_some]
    -- the file names of two known wallets do not collide
    · have hpath : walletPath c name ≠ walletPath c record.name := by
        intro hpath
        exact heq (hfree name hname record.name hmem (walletPath_eq_iff.mp hpath))
      rw [if_neg hpath, h.file name hname, Wallets.wallets_put_of_ne heq]
  known := by
    intro name text hget
    rw [get?_atomicWrite (walletPath_ne name _).2] at hget
    split_ifs at hget with hpath
    · exact ⟨record.name, hmem, hpath⟩
    · exact h.known name text hget
  valid := by
    intro name other hget
    by_cases heq : name = record.name
    · rw [heq, Wallets.wallets_put_self] at hget
      obtain rfl := Option.some.inj hget
      exact ⟨heq ▸ hmem, heq.symm, hvalid⟩
    · rw [Wallets.wallets_put_of_ne heq] at hget
      exact h.valid name other hget
  default := by
    rw [get?_atomicWrite (defaultPath_ne _), if_neg (walletPath_ne record.name "").1.symm]
    exact h.default
  chosen := by
    intro name hdefault
    obtain ⟨htrim, hsome⟩ := h.chosen name hdefault
    refine ⟨htrim, ?_⟩
    by_cases heq : name = record.name
    · rw [heq, Wallets.wallets_put_self]
      rfl
    · rw [Wallets.wallets_put_of_ne heq]
      exact hsome

/-- The default is written. -/
theorem setDefault (h : Refines c names files w) (hsome : (w.wallets name).isSome)
    (htrim : Text.trim name = name) :
    Refines c names (atomicWrite defaultPath (name ++ "\n") files) (w.choose name) where
  file := by
    intro other hother
    rw [get?_atomicWrite (walletPath_ne other _).2, if_neg (walletPath_ne other "").1]
    exact h.file other hother
  known := by
    intro other text hget
    rw [get?_atomicWrite (walletPath_ne other _).2, if_neg (walletPath_ne other "").1] at hget
    exact h.known other text hget
  valid := h.valid
  default := by
    rw [get?_atomicWrite (defaultPath_ne _), if_pos rfl]
    rfl
  chosen := by
    intro other hdefault
    obtain rfl := Option.some.inj hdefault
    exact ⟨htrim, hsome⟩

/-- A wallet file is removed, and the default with it. -/
theorem delete (h : Refines c names files w) (hfree : CollisionFree c names)
    (hmem : name ∈ names) :
    let erased := files.erase (walletPath c name)
    Refines c names
      (if defaultName erased = some name then erased.erase defaultPath else erased)
      (w.remove name) := by
  intro erased
  have herased : ∀ path, path ≠ walletPath c name → erased.get? path = files.get? path := by
    intro path hpath
    rw [Dict.get?_erase, if_neg hpath]
  -- the default is read after the wallet is gone, and is in a file of its own
  have hdefault : defaultName erased = w.default := by
    rw [← h.defaultName_eq, defaultName, defaultName,
      herased _ (walletPath_ne name "").1.symm]
  rw [hdefault]
  -- removing the default leaves the wallet files alone
  have hwallet : ∀ other, (if w.default = some name then erased.erase defaultPath
      else erased).get? (walletPath c other) = erased.get? (walletPath c other) := by
    intro other
    split_ifs
    · rw [Dict.get?_erase, if_neg (walletPath_ne other "").1]
    · rfl
  refine ⟨?_, ?_, ?_, ?_, ?_⟩
  · intro other hother
    rw [hwallet]
    by_cases heq : other = name
    · rw [heq, Dict.get?_erase, if_pos rfl, Wallets.wallets_remove_self, Option.map_none]
    · have hpath : walletPath c other ≠ walletPath c name := by
        intro hpath
        exact heq (hfree other hother name hmem (walletPath_eq_iff.mp hpath))
      rw [herased _ hpath, Wallets.wallets_remove_of_ne heq]
      exact h.file other hother
  · intro other text hget
    rw [hwallet, Dict.get?_erase] at hget
    split_ifs at hget
    exact h.known other text hget
  · intro other record hget
    by_cases heq : other = name
    · rw [heq, Wallets.wallets_remove_self] at hget
      simp at hget
    · rw [Wallets.wallets_remove_of_ne heq] at hget
      exact h.valid other record hget
  · show _ = (if w.default = some name then none else w.default).map (· ++ "\n")
    split_ifs with hchosen
    · rw [Dict.get?_erase, if_pos rfl, Option.map_none]
    · rw [herased _ (walletPath_ne name "").1.symm]
      exact h.default
  · intro other hother
    change (if w.default = some name then none else w.default) = some other at hother
    split_ifs at hother with hchosen
    obtain ⟨htrim, hsome⟩ := h.chosen other hother
    refine ⟨htrim, ?_⟩
    have heq : other ≠ name := by
      rintro rfl
      exact hchosen hother
    rw [Wallets.wallets_remove_of_ne heq]
    exact hsome

/-- A wallet exists exactly when its file does. -/
theorem isSome_iff (h : Refines c names files w) (hmem : name ∈ names) :
    (files.get? (walletPath c name)).isSome = (w.wallets name).isSome := by
  rw [h.file name hmem, Option.isSome_map]

/-- A wallet exists exactly when it is loaded. -/
theorem load_isOk_iff (h : Refines c names files w) :
    (load c name files).isOk = (w.wallets name).isSome := by
  cases hw : w.wallets name with
  | none => rw [h.load_none hw]; rfl
  | some record =>
    obtain ⟨read, hload, -⟩ := h.load_some hw
    rw [hload]
    rfl

/-- A call on the directory is the call on the wallets. -/
theorem step (h : Refines c names files w) (hfree : CollisionFree c names)
    (hmem : request.name ∈ names)
    (htrim : ∀ name, request = .setDefault name → (load c name files).isOk →
      Text.trim name = name) :
    Refines c names (step c files request) (w.step c request) := by
  cases request with
  | save record overwrite =>
    have hexists : (files.get? (walletPath c record.name)).isSome =
        (w.wallets record.name).isSome := h.isSome_iff hmem
    rw [Storage.step, call, Storage.save, Wallets.step]
    cases hvalid : validateRecord c.accounts record with
    | error e => exact h
    | ok u =>
      have hiff : (¬ ((files.get? (walletPath c record.name)).isSome = true ∧
          ¬ overwrite = true)) ↔ ((w.wallets record.name).isNone = true ∨ overwrite = true) := by
        rw [hexists, not_and_or, not_not, Bool.not_eq_true, Option.isSome_eq_false_iff]
      by_cases hfresh : (w.wallets record.name).isNone = true ∨ overwrite = true
      · simp only [ok_bind, ensure, if_pos (hiff.mpr hfresh), pure_eq_ok]
        rw [if_pos ⟨rfl, hfresh⟩]
        exact h.save hfree hmem hvalid
      · simp only [ok_bind, ensure, if_neg (mt hiff.mp hfresh), error_bind]
        rw [if_neg fun hboth => hfresh hboth.2]
        exact h
  -- a wallet that is not loaded is no default, and no file is written
  | setDefault name =>
    have hexists : (load c name files).isOk = (w.wallets name).isSome := h.load_isOk_iff
    rw [Storage.step, call, Storage.setDefault, Wallets.step, ← hexists]
    cases hload : load c name files with
    | error e => exact h
    | ok read =>
      have hok : (load c name files).isOk = true := by rw [hload]; rfl
      exact h.setDefault (hexists ▸ hok) (htrim name rfl hok)
  | delete name =>
    have hexists : (files.get? (walletPath c name)).isSome = (w.wallets name).isSome :=
      h.isSome_iff hmem
    rw [Storage.step, call, Storage.delete, Wallets.step, ← hexists]
    by_cases hfound : (files.get? (walletPath c name)).isSome = true
    · simp only [ensure, if_pos hfound, ok_bind, pure_eq_ok]
      exact h.delete hfree hmem
    · simp only [ensure, if_neg hfound, error_bind]
      exact h

end Refines

/-! ### Runs -/

/-- What a run of calls means. -/
def meaning (c : StorageCrates) (calls : List Call) : Wallets :=
  calls.foldl (Wallets.step c) .empty

theorem meaning_append_singleton :
    meaning c (calls ++ [request]) = (meaning c calls).step c request :=
  List.foldl_append

/-- No name with white space at an end becomes the default. -/
def ChosenTrimmed (c : StorageCrates) (calls : List Call) : Prop :=
  ∀ before name after, calls = before ++ .setDefault name :: after →
    (load c name (run c before)).isOk → Text.trim name = name

theorem ChosenTrimmed.of_append {later : List Call} (h : ChosenTrimmed c (calls ++ later)) :
    ChosenTrimmed c calls := by
  intro before name after hcalls
  apply h before name (after ++ later)
  rw [hcalls, List.append_assoc, List.cons_append]

/-- The directory refines the wallets along a run. -/
theorem refines_run (hfree : CollisionFree c names) (hnames : ∀ call ∈ calls, call.name ∈ names)
    (htrim : ChosenTrimmed c calls) : Refines c names (run c calls) (meaning c calls) := by
  induction calls using List.reverseRecOn with
  | nil => exact refines_empty
  | append_singleton calls request ih =>
    have hbefore := ih (fun call hcall => hnames call (List.mem_append_left _ hcall))
      htrim.of_append
    rw [run_append_singleton, meaning_append_singleton]
    apply hbefore.step hfree (hnames request (List.mem_append_right _ List.mem_cons_self))
    intro name hrequest hload
    exact htrim calls name [] (by rw [hrequest]) hload

/-- What a user relies on. The default resolves to the wallet that was made the default,
until a call succeeds that changes one of the two; after a wallet was deleted the default
exists, if there is one; and a call on one wallet leaves the other wallets as they are. -/
structure DefaultIsChosen (c : StorageCrates) (calls : List Call) : Prop where
  chosen : ∀ before name between after,
    calls = before ++ .setDefault name :: (between ++ after) →
    (setDefault c name (run c before)).isOk →
    (∀ earlier request later, between = earlier ++ request :: later →
      (call c (run c (before ++ .setDefault name :: earlier)) request).isOk →
        request.Leaves name) →
    resolve c none (run c (before ++ .setDefault name :: between)) =
      load c name (run c (before ++ .setDefault name :: between))
  exists_default : ∀ before name between after,
    calls = before ++ .delete name :: (between ++ after) →
    (delete c name (run c before)).isOk →
    ∀ other, defaultName (run c (before ++ .delete name :: between)) = some other →
      (load c other (run c (before ++ .delete name :: between))).isOk
  frame : ∀ before request after, calls = before ++ request :: after →
    ∀ other, other ≠ request.name →
      load c other (run c (before ++ [request])) = load c other (run c before)

/-- A call that leaves the default and its wallet keeps the default. -/
theorem Wallets.default_step (hdefault : w.default = some name) (hleaves : request.Leaves name) :
    (w.step c request).default = some name := by
  cases request with
  | save record overwrite =>
    rw [Wallets.step]
    split_ifs
    · exact hdefault
    · exact hdefault
  | setDefault other => exact hleaves.elim
  | delete other =>
    rw [Wallets.step]
    split_ifs
    · show (if w.default = some other then none else w.default) = some name
      have hne : w.default ≠ some other := by
        rw [hdefault]
        intro heq
        exact hleaves (Option.some.inj heq).symm
      rw [if_neg hne, hdefault]
    · exact hdefault

/-- A call leaves the other wallets as they are. -/
theorem Wallets.wallets_step (hne : other ≠ request.name) :
    (w.step c request).wallets other = w.wallets other := by
  cases request with
  | save record overwrite =>
    rw [Wallets.step]
    split_ifs
    · exact Wallets.wallets_put_of_ne hne
    · rfl
  | setDefault name =>
    rw [Wallets.step]
    split_ifs <;> rfl
  | delete name =>
    rw [Wallets.step]
    split_ifs
    · exact Wallets.wallets_remove_of_ne hne
    · rfl

/-- A call that fails keeps the default. -/
theorem Refines.default_step_of_error (h : Refines c names files w)
    (h' : Refines c names (Storage.step c files request) (w.step c request))
    (herror : (call c files request).isOk = false) :
    (w.step c request).default = w.default := by
  have hstep : Storage.step c files request = files := by
    rw [Storage.step]
    cases hcall : call c files request with
    | ok files' =>
      rw [hcall] at herror
      exact absurd herror nofun
    | error e => rfl
  have hline := h'.default
  rw [hstep, h.default] at hline
  exact (Option.map_injective (fun _ _ => (String.append_left_inj "\n").mp) hline).symm

/-- What was made the default stays the default through calls of which those that succeed
leave it. -/
theorem default_meaning {before between : List Call}
    (hrefines : ∀ earlier later, between = earlier ++ later →
      Refines c names (run c (before ++ .setDefault name :: earlier))
        (meaning c (before ++ .setDefault name :: earlier)))
    (hsome : ((meaning c before).wallets name).isSome)
    (hleaves : ∀ earlier request later, between = earlier ++ request :: later →
      (call c (run c (before ++ .setDefault name :: earlier)) request).isOk →
        request.Leaves name) :
    (meaning c (before ++ .setDefault name :: between)).default = some name := by
  induction between using List.reverseRecOn with
  | nil =>
    rw [meaning_append_singleton, Wallets.step, if_pos hsome]
    rfl
  | append_singleton between request ih =>
    have hdefault := ih
      (fun earlier later hbetween => hrefines earlier (later ++ [request])
        (by rw [hbetween, List.append_assoc]))
      (fun earlier other later hbetween => hleaves earlier other (later ++ [request])
        (by rw [hbetween, List.append_assoc, List.cons_append]))
    have hbefore := hrefines between [request] rfl
    have hafter := hrefines (between ++ [request]) [] (List.append_nil _).symm
    rw [← List.cons_append, ← List.append_assoc] at hafter ⊢
    rw [run_append_singleton, meaning_append_singleton] at hafter
    rw [meaning_append_singleton]
    cases hok : (call c (run c (before ++ .setDefault name :: between)) request).isOk with
    | true => exact Wallets.default_step hdefault (hleaves between request [] rfl hok)
    | false => exact (hbefore.default_step_of_error hafter hok).trans hdefault

/-- The default is set exactly when its wallet is loaded. -/
theorem setDefault_isOk_iff :
    (setDefault c name files).isOk = (load c name files).isOk := by
  rw [setDefault]
  cases load c name files <;> rfl

theorem load_ok {read : StoredWallet} (h : load c name files = .ok read) :
    read.name = name ∧ validateRecord c.accounts read = .ok () := by
  obtain ⟨text, -, h⟩ := bind_eq_ok.mp h
  obtain ⟨found, -, h⟩ := bind_eq_ok.mp h
  rw [ensure_bind_eq_ok] at h
  obtain ⟨hname, h⟩ := h
  obtain ⟨u, hvalid, hfound⟩ := bind_eq_ok.mp h
  obtain rfl := Except.ok.inj hfound
  exact ⟨hname, hvalid⟩

/-- With trimmed defaults a user can rely on the storage. -/
theorem defaultIsChosen_of_trimmed (hfree : CollisionFree c (calls.map Call.name))
    (htrim : ChosenTrimmed c calls) : DefaultIsChosen c calls := by
  have hrefines : ∀ before after, calls = before ++ after →
      Refines c (calls.map Call.name) (run c before) (meaning c before) := by
    intro before after hcalls
    apply refines_run hfree
    · intro call hcall
      exact List.mem_map_of_mem (hcalls ▸ List.mem_append_left _ hcall)
    · rw [hcalls] at htrim
      exact htrim.of_append
  -- each law is read off the wallets that the files stand for, before and after the call
  refine ⟨?_, ?_, ?_⟩
  · intro before name between after hcalls hok hleaves
    rw [setDefault_isOk_iff, (hrefines before _ hcalls).load_isOk_iff] at hok
    have hbetween : ∀ earlier later, between = earlier ++ later →
        Refines c (calls.map Call.name) (run c (before ++ .setDefault name :: earlier))
          (meaning c (before ++ .setDefault name :: earlier)) := by
      intro earlier later hbetween
      apply hrefines _ (later ++ after)
      rw [hcalls, hbetween, List.append_assoc, List.append_assoc, List.cons_append]
    exact (hbetween between [] (List.append_nil _).symm).resolve_none
      (default_meaning hbetween hok hleaves)
  · intro before name between after hcalls _ other hdefault
    have hafter := hrefines (before ++ .delete name :: between) after
      (by rw [hcalls, List.append_assoc, List.cons_append])
    rw [hafter.load_isOk_iff]
    rw [hafter.defaultName_eq] at hdefault
    exact (hafter.chosen other hdefault).2
  · intro before request after hcalls other hne
    have hbefore := hrefines before _ hcalls
    have hafter := hrefines (before ++ [request]) after
      (by rw [hcalls, List.append_assoc, List.singleton_append])
    apply hbefore.load_congr hafter
    rw [meaning_append_singleton]
    exact Wallets.wallets_step hne

/-- A default that is read back as its wallet is trimmed. -/
theorem chosenTrimmed_of_defaultIsChosen (h : DefaultIsChosen c calls) :
    ChosenTrimmed c calls := by
  intro before name after hcalls hok
  have hchosen := h.chosen before name [] after hcalls (setDefault_isOk_iff.trans hok)
    fun earlier request later hnil => absurd hnil.symm (by simp)
  rw [run_append_singleton] at hchosen
  cases hload : load c name (run c before) with
  | error e =>
    rw [hload] at hok
    exact absurd hok nofun
  | ok read =>
    obtain ⟨hname, hvalid⟩ := load_ok hload
    -- the second selection reads the same wallet, so the default resolves to it
    have hstep : step c (run c before) (.setDefault name) =
        atomicWrite defaultPath (name ++ "\n") (run c before) := by
      rw [step, call, setDefault, hload]
      rfl
    have hsame :
        load c name (atomicWrite defaultPath (name ++ "\n") (run c before)) = .ok read := by
      rw [← hload, load, load, get?_atomicWrite (walletPath_ne name _).2,
        if_neg (walletPath_ne name "").1]
    have hdefault : defaultName (atomicWrite defaultPath (name ++ "\n") (run c before)) =
        some (Text.trim name) := by
      have hblank := trim_ne_of_valid hvalid
      rw [hname] at hblank
      rw [defaultName, get?_atomicWrite (defaultPath_ne _), if_pos rfl]
      have hline : Text.trim (name ++ "\n") = Text.trim name :=
        Text.trim_append_singleton name (by decide)
      simp only [Option.bind_eq_bind, Option.bind_some, hline, hblank]
      rfl
    rw [hstep, hsame, resolve, hdefault] at hchosen
    exact (load_ok hchosen).1.symm.trans hname

/-! ### Crates for examples -/

def alphaRecord : StoredWallet where
  name := "alpha"
  address := "GDLVVGABQKYQVN6VJP7NHSLEA45A5YLS6PNKMIZFV4BBU2HXA5IRVHUR"
  walletType := "watch-only"
  network := "testnet"
  secret := none
  metadata := []

def alphaText : String :=
  "\x7b\n  \"name\": \"alpha\",\n" ++
  "  \"address\": \"GDLVVGABQKYQVN6VJP7NHSLEA45A5YLS6PNKMIZFV4BBU2HXA5IRVHUR\",\n" ++
  "  \"wallet_type\": \"watch-only\",\n  \"network\": \"testnet\",\n" ++
  "  \"secret\": null,\n  \"metadata\": \x7b\x7d\n\x7d"

theorem head?_alphaText : alphaText.toList.head? = some '\x7b' := by decide +kernel

def alphaDigest : Uint256 :=
  #v[0x8e, 0xd3, 0xf6, 0xad, 0x68, 0x5b, 0x95, 0x9e, 0xad, 0x70, 0x22,
    0x51, 0x8e, 0x1a, 0xf7, 0x6c, 0xd8, 0x16, 0xf8, 0xe8, 0xec, 0x7c,
    0xcd, 0xda, 0x1e, 0xd4, 0x01, 0x8e, 0x8f, 0x22, 0x23, 0xf8]

/-- The kind of a secret, as a text. -/
def kindText : Option Bool → String
  | none => "none"
  | some true => "object"
  | some false => "other"

def secretOfKind : String → Option Json
  | "object" => some (.object [])
  | "other" => some .null
  | _ => none

theorem map_secretOfKind (kind : Option Bool) :
    (secretOfKind (kindText kind)).map Json.isObject = kind := by
  rcases kind with _ | _ | _ <;> rfl

/-- One record has the text of the crate, the others have a text of their own. -/
def sampleCrates : StorageCrates where
  sha256 bytes := if bytes = "alpha".toUTF8.toList then alphaDigest else Vector.replicate 32 0
  accounts := Sep23.accountCodec
  toStringPretty record :=
    if record.header = alphaRecord.header then alphaText
    else Framed.print [record.name, record.address, record.walletType, record.network,
      kindText (record.secret.map Json.isObject)]
  fromStr text :=
    if text = alphaText ++ "\n" then .ok alphaRecord
    else match Framed.read text with
      | some [name, address, walletType, network, kind] =>
        .ok ⟨name, address, walletType, network, secretOfKind kind, []⟩
      | _ => .error "expected value"
  fromStr_toStringPretty {record} _ := by
    by_cases hrecord : record.header = alphaRecord.header
    · rw [if_pos hrecord, if_pos rfl]
      exact ⟨alphaRecord, rfl, hrecord.symm⟩
    · have hne : ∀ texts : List String, Framed.print texts ++ "\n" ≠ alphaText ++ "\n" := by
        intro texts heq
        have hhead := congrArg (fun text => text.toList.head?) heq
        simp only [String.toList_append, List.head?_append, head?_alphaText] at hhead
        cases texts with
        | nil => exact absurd hhead (by decide)
        | cons text texts =>
          rw [Framed.print, String.toList_ofList] at hhead
          exact absurd (Option.some.inj hhead) (by decide)
      rw [if_neg hrecord, if_neg (hne _), Framed.read_print_append]
      refine ⟨_, rfl, ?_⟩
      simp only [StoredWallet.header, map_secretOfKind]

/-- A user can rely on the storage over a run exactly when no name with white space at an
end becomes the default. -/
theorem defaultIsChosen_iff (hfree : CollisionFree c (calls.map Call.name)) :
    DefaultIsChosen c calls ↔ ChosenTrimmed c calls :=
  ⟨chosenTrimmed_of_defaultIsChosen, defaultIsChosen_of_trimmed hfree⟩

theorem defaultIsChosen_iff_alpha :
    CollisionFree sampleCrates
      ([.save alphaRecord false, .setDefault "alpha"].map Call.name) ∧
    (DefaultIsChosen sampleCrates [.save alphaRecord false, .setDefault "alpha"] ↔
      ChosenTrimmed sampleCrates [.save alphaRecord false, .setDefault "alpha"]) := by
  have hfree : CollisionFree sampleCrates
      ([.save alphaRecord false, .setDefault "alpha"].map Call.name) := by
    intro name hname other hother _
    have hall : ∀ name ∈ [Call.save alphaRecord false, .setDefault "alpha"].map Call.name,
        name = "alpha" := by decide
    rw [hall name hname, hall other hother]
  exact ⟨hfree, defaultIsChosen_iff hfree⟩

/-- The default "alpha " is read back as "alpha", which does not exist. -/
theorem default_not_chosen : ¬ ∀ (c : StorageCrates) (calls : List Call),
    CollisionFree c (calls.map Call.name) → DefaultIsChosen c calls := by
  intro hall
  have hfree : CollisionFree sampleCrates
      ([.save { alphaRecord with name := "alpha " } false, .setDefault "alpha "].map
        Call.name) := by
    intro name hname other hother _
    have hsame : ∀ name ∈ [Call.save { alphaRecord with name := "alpha " } false,
        .setDefault "alpha "].map Call.name, name = "alpha " := by decide
    rw [hsame name hname, hsame other hother]
  have htrim := chosenTrimmed_of_defaultIsChosen (hall sampleCrates _ hfree)
    [.save { alphaRecord with name := "alpha " } false] "alpha " [] rfl (by decide +kernel)
  exact absurd htrim (by decide)

end Fresnica.Storage
