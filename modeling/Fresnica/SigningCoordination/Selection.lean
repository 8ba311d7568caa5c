import Fresnica.Foundation.Outcome
import Fresnica.Foundation.Greedy
import Fresnica.LedgerAuthorization.Snapshot

/-!
# Selection of Ed25519 signers

The keys that sign a transaction are chosen by three loops over one growing set
of satisfied conditions: every missing extra signer, then for each requirement
the heaviest usable signer until its weight is reached, then the heaviest usable
signer of any requirement until there are enough Ed25519 proofs. The choice is
greedy, yet it fails only where no choice succeeds: by then a loop has taken all
it could use, so the goal it missed is missed by every available key together.

## Main definitions

* `bestAvailableSigner` — the heaviest usable signer, which the loops take
* `selectEd25519Signers` — the three loops
* `Selection` — what a loop does to the set, and which keys it adds

## Main results

* `selectEd25519Signers_sound_complete` — the keys selected are enough, and the
  selection fails only where all available keys together are not
* `selectUntil_of_best_eq_some` — a loop takes the best available signer
* `selectEd25519Signers_of_satisfied` — nothing is selected without need
-/

namespace Fresnica

open Foundation

/-- The number of Ed25519 conditions in a set. -/
def ed25519Count (conditions : BTreeSet LedgerSignerCondition) : ℕ :=
  BTreeSet.countP (fun condition => condition.kind = .ed25519PublicKey) conditions

/-- The conditions satisfied so far, with the keys selected on the way. -/
abbrev SelectionState := BTreeSet LedgerSignerCondition × List String

def isUsable (availableSigners : BTreeSet String) (signer : WeightedLedgerSigner) : Bool :=
  signer.condition.isLocal availableSigners

/-- The heaviest usable signer not satisfied yet, the last one among equals. -/
def bestAvailableSigner (signers : List WeightedLedgerSigner)
    (current : BTreeSet LedgerSignerCondition) (availableSigners : BTreeSet String) :
    Option WeightedLedgerSigner :=
  Greedy.best (·.condition) (isUsable availableSigners) (fun signer => (signer.weight : ℕ))
    signers current

/-- `while ¬ goal` select the best available signer, or fail. -/
def selectUntil (goal : BTreeSet LedgerSignerCondition → Bool)
    (failure : BTreeSet LedgerSignerCondition → String) (signers : List WeightedLedgerSigner)
    (availableSigners : BTreeSet String) (current : BTreeSet LedgerSignerCondition) :
    Except String SelectionState :=
  match Greedy.fill (·.condition) (isUsable availableSigners)
      (fun signer => (signer.weight : ℕ)) goal signers current with
  | .ok (current, selected) => .ok (current, selected.map (·.condition.key))
  | .error current => .error (failure current)

def selectExtraSigners (availableSigners : BTreeSet String) :
    List LedgerSignerCondition → BTreeSet LedgerSignerCondition → Except String SelectionState
  | [], current => .ok (current, [])
  | condition :: conditions, current =>
    if condition ∈ current then selectExtraSigners availableSigners conditions current
    else if condition.kind ≠ .ed25519PublicKey ∨ condition.key ∉ availableSigners then
      .error s!"Signing Coordination cannot satisfy required extra signer: {condition.key}"
    else do
      let (current, selected) ←
        selectExtraSigners availableSigners conditions (current.insert condition)
      return (current, condition.key :: selected)

def selectForRequirements (availableSigners : BTreeSet String) :
    List AccountAuthorizationRequirement → BTreeSet LedgerSignerCondition →
      Except String SelectionState
  | [], current => .ok (current, [])
  | requirement :: requirements, current => do
    let (current, selected) ← selectUntil requirement.isSatisfiableBy
      (fun current => s!"Signing Coordination cannot satisfy ledger authorization: {
        requirement.accountId} requires weight {requirement.requiredWeight.val} but has {
        requirement.availableWeight current}")
      requirement.signers availableSigners current
    let (current, selected') ← selectForRequirements availableSigners requirements current
    return (current, selected ++ selected')

def selectProofs (plan : LedgerAuthorizationPlan) (availableSigners : BTreeSet String)
    (minimumSignatures : ℕ) (current : BTreeSet LedgerSignerCondition) :
    Except String SelectionState :=
  selectUntil (fun current => minimumSignatures ≤ ed25519Count current)
    (fun _ => "Signing Coordination cannot provide the required Ed25519 proof")
    (plan.requirements.flatMap (·.signers)) availableSigners current

def selectEd25519Signers (plan : LedgerAuthorizationPlan)
    (satisfied : BTreeSet LedgerSignerCondition) (availableSigners : BTreeSet String)
    (minimumSignatures : ℕ) : Except String (List String) := do
  let (current, extra) ← selectExtraSigners availableSigners plan.extraSigners.toList satisfied
  let (current, weighted) ← selectForRequirements availableSigners plan.requirements current
  let (_, proofs) ← selectProofs plan availableSigners minimumSignatures current
  return extra ++ weighted ++ proofs

/-- The selection among the local software signers alone. -/
def selectLocalEd25519Signers (plan : LedgerAuthorizationPlan)
    (satisfied : BTreeSet LedgerSignerCondition) (localSigners : BTreeSet String)
    (minimumSignatures : ℕ) : Except String (List String) :=
  selectEd25519Signers plan satisfied localSigners minimumSignatures

/-! ### What a loop does -/

/-- A run from `s` to `t` that selects `keys`, all available and needed by a
condition of the plan. -/
structure Selection (availableSigners : BTreeSet String)
    (conditions s t : BTreeSet LedgerSignerCondition) (keys : List String) : Prop where
  extends_ed25519 : Extends s t (keys.map .ed25519)
  mem_available : ∀ key ∈ keys, key ∈ availableSigners
  mem_conditions : ∀ key ∈ keys, .ed25519 key ∈ conditions

variable {available : BTreeSet String} {conditions s t u : BTreeSet LedgerSignerCondition}
variable {keys keys' : List String} {signers : List WeightedLedgerSigner}
variable {goal : BTreeSet LedgerSignerCondition → Bool}
variable {failure : BTreeSet LedgerSignerCondition → String} {e : String}
variable {plan : LedgerAuthorizationPlan} {satisfied : BTreeSet LedgerSignerCondition}

namespace Selection

theorem refl : Selection available conditions s s [] where
  extends_ed25519 := Extends.refl s
  mem_available := by simp
  mem_conditions := by simp

theorem trans (h : Selection available conditions s t keys)
    (h' : Selection available conditions t u keys') :
    Selection available conditions s u (keys ++ keys') where
  extends_ed25519 := by
    rw [List.map_append]
    exact h.extends_ed25519.trans h'.extends_ed25519
  mem_available key hkey := (List.mem_append.mp hkey).elim (h.mem_available key)
    (h'.mem_available key)
  mem_conditions key hkey := (List.mem_append.mp hkey).elim (h.mem_conditions key)
    (h'.mem_conditions key)

theorem insert {condition : LedgerSignerCondition} (hnew : condition ∉ s)
    (hlocal : condition.isLocal available = true) (hmem : condition ∈ conditions) :
    Selection available conditions s (s.insert condition) [condition.key] := by
  obtain ⟨hkind, hkey⟩ := LedgerSignerCondition.isLocal_iff.mp hlocal
  have hcond := LedgerSignerCondition.ed25519_key_of_kind hkind
  refine ⟨?_, by simpa using hkey, by simpa [hcond] using hmem⟩
  simpa [hcond] using Extends.insert hnew

theorem subset (h : Selection available conditions s t keys) : ∀ c ∈ s, c ∈ t :=
  h.extends_ed25519.subset

/-- A run stays among the conditions that hold once every available key has
signed. -/
theorem subset_full (h : Selection available plan.signerConditions satisfied t keys) :
    ∀ c ∈ t, c ∈ availableAfterLocal plan satisfied available := by
  intro c hc
  rw [mem_availableAfterLocal]
  refine ((h.extends_ed25519.mem_iff c).mp hc).imp id fun hkeys => ?_
  obtain ⟨key, hkey, rfl⟩ := List.mem_map.mp hkeys
  exact ⟨h.mem_conditions key hkey,
    LedgerSignerCondition.isLocal_iff.mpr ⟨rfl, h.mem_available key hkey⟩⟩

theorem nodup (h : Selection available conditions s t keys) : keys.Nodup :=
  h.extends_ed25519.nodup.of_map

theorem not_mem (h : Selection available conditions s t keys) :
    ∀ key ∈ keys, .ed25519 key ∉ s :=
  fun _ hkey => h.extends_ed25519.fresh _ (List.mem_map_of_mem hkey)

theorem eq_insertMany (h : Selection available conditions s t keys) :
    s.insertMany (keys.map .ed25519) = t := by
  refine Std.ExtTreeSet.ext_mem fun c => ?_
  rw [h.extends_ed25519.mem_iff, Std.ExtTreeSet.mem_insertMany_list]
  simp

end Selection

/-! ### The three loops -/

theorem selection_of_taken {added : List WeightedLedgerSigner}
    (h : Greedy.Taken (·.condition) (isUsable available) signers s t added)
    (hsigners : ∀ signer ∈ signers, signer.condition ∈ conditions) :
    Selection available conditions s t (added.map (·.condition.key)) := by
  have hlocal : ∀ signer ∈ added,
      signer.condition.kind = .ed25519PublicKey ∧ signer.condition.key ∈ available :=
    fun signer hsigner => LedgerSignerCondition.isLocal_iff.mp (h.usable signer hsigner).2
  have hcond : (added.map (·.condition.key)).map LedgerSignerCondition.ed25519 =
      added.map (·.condition) := by
    rw [List.map_map]
    exact List.map_congr_left fun signer hsigner =>
      LedgerSignerCondition.ed25519_key_of_kind (hlocal signer hsigner).1
  constructor
  · rw [hcond]
    exact h.extends_map
  · intro key hkey
    obtain ⟨signer, hsigner, rfl⟩ := List.mem_map.mp hkey
    exact (hlocal signer hsigner).2
  · intro key hkey
    obtain ⟨signer, hsigner, rfl⟩ := List.mem_map.mp hkey
    rw [LedgerSignerCondition.ed25519_key_of_kind (hlocal signer hsigner).1]
    exact hsigners signer (h.usable signer hsigner).1

/-! A turn of the loop: nothing to do, no signer left, or the best available one is taken. -/

theorem selectUntil_of_goal (h : goal s = true) :
    selectUntil goal failure signers available s = .ok (s, []) := by
  rw [selectUntil, Greedy.fill_of_goal h]
  rfl

theorem selectUntil_of_best_eq_none (hgoal : ¬ goal s = true)
    (hbest : bestAvailableSigner signers s available = none) :
    selectUntil goal failure signers available s = .error (failure s) := by
  rw [selectUntil, Greedy.fill_of_best_eq_none hgoal hbest]

theorem selectUntil_of_best_eq_some {signer : WeightedLedgerSigner} (hgoal : ¬ goal s = true)
    (hbest : bestAvailableSigner signers s available = some signer) :
    selectUntil goal failure signers available s =
      (selectUntil goal failure signers available (s.insert signer.condition)).map fun found =>
        (found.1, signer.condition.key :: found.2) := by
  rw [selectUntil, Greedy.fill_of_best_eq_some hgoal hbest, selectUntil]
  cases Greedy.fill (·.condition) (isUsable available) (fun signer => (signer.weight : ℕ)) goal
    signers (s.insert signer.condition) <;> rfl

theorem selectUntil_ok (h : selectUntil goal failure signers available s = .ok (t, keys))
    (hsigners : ∀ signer ∈ signers, signer.condition ∈ conditions) :
    goal t = true ∧ Selection available conditions s t keys := by
  unfold selectUntil at h
  split at h
  · rename_i t' added hfill
    obtain ⟨rfl, rfl⟩ := Prod.mk.inj (Except.ok.inj h)
    obtain ⟨hgoal, htaken⟩ := Greedy.fill_ok hfill
    exact ⟨hgoal, selection_of_taken htaken hsigners⟩
  · exact absurd h (by simp)

/-- A loop that fails has selected every signer it could use. -/
theorem selectUntil_error (h : selectUntil goal failure signers available s = .error e)
    (hsigners : ∀ signer ∈ signers, signer.condition ∈ conditions) :
    ∃ t keys, Selection available conditions s t keys ∧ goal t = false ∧
      ∀ signer ∈ signers, signer.condition.isLocal available = true → signer.condition ∈ t := by
  unfold selectUntil at h
  split at h
  · exact absurd h (by simp)
  · rename_i t hfill
    obtain ⟨hgoal, ⟨added, htaken⟩, hall⟩ := Greedy.fill_error hfill
    exact ⟨t, _, selection_of_taken htaken hsigners, hgoal, hall⟩

theorem selectExtraSigners_ok {extra : List LedgerSignerCondition}
    (h : selectExtraSigners available extra s = .ok (t, keys))
    (hextra : ∀ c ∈ extra, c ∈ conditions) :
    (∀ c ∈ extra, c ∈ t) ∧ Selection available conditions s t keys := by
  induction extra generalizing s keys with
  | nil =>
    obtain ⟨rfl, rfl⟩ := Prod.mk.inj (Except.ok.inj h)
    exact ⟨by simp, Selection.refl⟩
  | cons c extra ih =>
    have htail : ∀ c ∈ extra, c ∈ conditions := fun c hc => hextra c (List.mem_cons_of_mem _ hc)
    unfold selectExtraSigners at h
    split_ifs at h with hcur husable
    · obtain ⟨hall, hsel⟩ := ih h htail
      exact ⟨by simpa using ⟨hsel.subset c hcur, hall⟩, hsel⟩
    · obtain ⟨⟨t', keys'⟩, hrest, h⟩ := bind_eq_ok.mp h
      obtain ⟨rfl, rfl⟩ := Prod.mk.inj (Except.ok.inj h)
      obtain ⟨hall, hsel⟩ := ih hrest htail
      have hlocal : c.isLocal available = true := by
        rw [LedgerSignerCondition.isLocal_iff]
        tauto
      have hc : c ∈ t' := hsel.subset c Std.ExtTreeSet.mem_insert_self
      exact ⟨by simpa using ⟨hc, hall⟩,
        (Selection.insert hcur hlocal (hextra c List.mem_cons_self)).trans hsel⟩

theorem selectExtraSigners_error {extra : List LedgerSignerCondition}
    (h : selectExtraSigners available extra s = .error e) :
    ∃ c ∈ extra, c ∉ s ∧ c.isLocal available = false := by
  induction extra generalizing s e with
  | nil => exact absurd h (by simp [selectExtraSigners])
  | cons c extra ih =>
    unfold selectExtraSigners at h
    split_ifs at h with hcur husable
    · obtain ⟨d, hd, hds, hlocal⟩ := ih h
      exact ⟨d, List.mem_cons_of_mem _ hd, hds, hlocal⟩
    · refine ⟨c, List.mem_cons_self, hcur, ?_⟩
      rw [Bool.eq_false_iff, Ne, LedgerSignerCondition.isLocal_iff]
      tauto
    · rcases bind_eq_error.mp h with hrest | ⟨r, -, h⟩
      · obtain ⟨d, hd, hds, hlocal⟩ := ih hrest
        refine ⟨d, List.mem_cons_of_mem _ hd, fun hs => hds ?_, hlocal⟩
        exact BTreeSet.mem_insert_iff.mpr (Or.inr hs)
      · exact absurd h (by simp)

theorem selectForRequirements_ok {requirements : List AccountAuthorizationRequirement}
    (h : selectForRequirements available requirements s = .ok (t, keys))
    (hreqs : ∀ requirement ∈ requirements, ∀ signer ∈ requirement.signers,
      signer.condition ∈ conditions) :
    (∀ requirement ∈ requirements, requirement.isSatisfiableBy t = true) ∧
      Selection available conditions s t keys := by
  induction requirements generalizing s keys with
  | nil =>
    obtain ⟨rfl, rfl⟩ := Prod.mk.inj (Except.ok.inj h)
    exact ⟨by simp, Selection.refl⟩
  | cons requirement requirements ih =>
    unfold selectForRequirements at h
    obtain ⟨⟨s', keys₁⟩, hfirst, h⟩ := bind_eq_ok.mp h
    obtain ⟨⟨t', keys₂⟩, hrest, h⟩ := bind_eq_ok.mp h
    obtain ⟨rfl, rfl⟩ := Prod.mk.inj (Except.ok.inj h)
    obtain ⟨hgoal, hsel₁⟩ := selectUntil_ok hfirst (hreqs requirement List.mem_cons_self)
    obtain ⟨hall, hsel₂⟩ := ih hrest fun r hr => hreqs r (List.mem_cons_of_mem _ hr)
    refine ⟨fun r hr => ?_, hsel₁.trans hsel₂⟩
    rcases List.mem_cons.mp hr with rfl | hr
    · rw [AccountAuthorizationRequirement.isSatisfiableBy_iff] at hgoal ⊢
      exact hgoal.trans (AccountAuthorizationRequirement.availableWeight_mono hsel₂.subset)
    · exact hall r hr

/-- A requirement whose usable signers are all taken is out of reach for good. -/
theorem not_isSatisfiableBy_full {requirement : AccountAuthorizationRequirement}
    (hsat : ∀ c ∈ satisfied, c ∈ t) (ht : requirement.isSatisfiableBy t = false)
    (hall : ∀ signer ∈ requirement.signers, signer.condition.isLocal available = true →
      signer.condition ∈ t) :
    requirement.isSatisfiableBy (availableAfterLocal plan satisfied available) = false := by
  rw [Bool.eq_false_iff, Ne, AccountAuthorizationRequirement.isSatisfiableBy_iff] at ht ⊢
  intro hfull
  refine ht (hfull.trans (signerWeight_mono fun signer hsigner hmem => ?_))
  rcases mem_availableAfterLocal.mp hmem with hmem | ⟨-, hlocal⟩
  · exact hsat _ hmem
  · exact hall signer hsigner hlocal

theorem selectForRequirements_error {requirements : List AccountAuthorizationRequirement}
    (h : selectForRequirements available requirements s = .error e)
    (hsat : ∀ c ∈ satisfied, c ∈ s)
    (hreqs : ∀ requirement ∈ requirements, ∀ signer ∈ requirement.signers,
      signer.condition ∈ plan.signerConditions) :
    ∃ requirement ∈ requirements,
      requirement.isSatisfiableBy (availableAfterLocal plan satisfied available) = false := by
  induction requirements generalizing s e with
  | nil => exact absurd h (by simp [selectForRequirements])
  | cons requirement requirements ih =>
    have hsigners := hreqs requirement List.mem_cons_self
    unfold selectForRequirements at h
    rcases bind_eq_error.mp h with hfirst | ⟨⟨s', keys⟩, hfirst, h⟩
    · obtain ⟨t, keys, hsel, hgoal, hall⟩ := selectUntil_error hfirst hsigners
      exact ⟨requirement, List.mem_cons_self, not_isSatisfiableBy_full
        (fun c hc => hsel.subset c (hsat c hc)) hgoal hall⟩
    · obtain ⟨-, hsel⟩ := selectUntil_ok hfirst hsigners
      rcases bind_eq_error.mp h with hrest | ⟨r, -, h⟩
      · obtain ⟨r, hr, hfull⟩ := ih hrest (fun c hc => hsel.subset c (hsat c hc))
          fun q hq => hreqs q (List.mem_cons_of_mem _ hq)
        exact ⟨r, List.mem_cons_of_mem _ hr, hfull⟩
      · exact absurd h (by simp)

/-! ### The selection -/

theorem ed25519Count_mono (h : ∀ c ∈ s, c ∈ t) : ed25519Count s ≤ ed25519Count t :=
  BTreeSet.countP_mono h

theorem mem_extraSigners_conditions :
    ∀ c ∈ plan.extraSigners.toList, c ∈ plan.signerConditions := fun _ hc =>
  LedgerAuthorizationPlan.mem_signerConditions.mpr (Or.inl (Std.ExtTreeSet.mem_toList.mp hc))

theorem mem_requirements_conditions :
    ∀ requirement ∈ plan.requirements, ∀ signer ∈ requirement.signers,
      signer.condition ∈ plan.signerConditions :=
  fun _ hr _ hs => mem_signerConditions_of_mem_signers hr hs

theorem mem_proofs_conditions :
    ∀ signer ∈ plan.requirements.flatMap (·.signers),
      signer.condition ∈ plan.signerConditions := by
  intro signer hsigner
  obtain ⟨requirement, hr, hs⟩ := List.mem_flatMap.mp hsigner
  exact mem_signerConditions_of_mem_signers hr hs

/-- What the selection has reached when it returns. -/
theorem selectEd25519Signers_ok {minimumSignatures : ℕ}
    (h : selectEd25519Signers plan satisfied available minimumSignatures = .ok keys) :
    ∃ t, Selection available plan.signerConditions satisfied t keys ∧
      plan.isSatisfiableBy t = true ∧ minimumSignatures ≤ ed25519Count t := by
  unfold selectEd25519Signers at h
  obtain ⟨⟨s₁, keys₁⟩, hextra, h⟩ := bind_eq_ok.mp h
  obtain ⟨⟨s₂, keys₂⟩, hreqs, h⟩ := bind_eq_ok.mp h
  obtain ⟨⟨s₃, keys₃⟩, hproofs, h⟩ := bind_eq_ok.mp h
  obtain rfl := Except.ok.inj h
  obtain ⟨hall₁, hsel₁⟩ := selectExtraSigners_ok hextra mem_extraSigners_conditions
  obtain ⟨hall₂, hsel₂⟩ := selectForRequirements_ok hreqs mem_requirements_conditions
  obtain ⟨hall₃, hsel₃⟩ := selectUntil_ok hproofs mem_proofs_conditions
  have hplan : plan.isSatisfiableBy s₂ = true := by
    rw [LedgerAuthorizationPlan.isSatisfiableBy_iff]
    refine ⟨fun c hc => hsel₂.subset c (hall₁ c (Std.ExtTreeSet.mem_toList.mpr hc)),
      fun requirement hr => ?_⟩
    exact AccountAuthorizationRequirement.isSatisfiableBy_iff.mp (hall₂ requirement hr)
  exact ⟨s₃, (hsel₁.trans hsel₂).trans hsel₃,
    LedgerAuthorizationPlan.isSatisfiableBy_mono hsel₃.subset hplan, by simpa using hall₃⟩

/-- Where the selection fails, all available keys together fail as well. -/
theorem selectEd25519Signers_error {minimumSignatures : ℕ}
    (h : selectEd25519Signers plan satisfied available minimumSignatures = .error e) :
    plan.isSatisfiableBy (availableAfterLocal plan satisfied available) = false ∨
      ed25519Count (availableAfterLocal plan satisfied available) < minimumSignatures := by
  unfold selectEd25519Signers at h
  rcases bind_eq_error.mp h with hextra | ⟨⟨s₁, keys₁⟩, hextra, h⟩
  · left
    obtain ⟨c, hc, hsat, hlocal⟩ := selectExtraSigners_error hextra
    rw [Bool.eq_false_iff, Ne, LedgerAuthorizationPlan.isSatisfiableBy_iff]
    intro hfull
    rcases mem_availableAfterLocal.mp (hfull.1 c (Std.ExtTreeSet.mem_toList.mp hc)) with
      hmem | ⟨-, hmem⟩
    · exact hsat hmem
    · simp [hlocal] at hmem
  obtain ⟨hall₁, hsel₁⟩ := selectExtraSigners_ok hextra mem_extraSigners_conditions
  rcases bind_eq_error.mp h with hreqs | ⟨⟨s₂, keys₂⟩, hreqs, h⟩
  · left
    obtain ⟨requirement, hr, hfull⟩ :=
      selectForRequirements_error hreqs hsel₁.subset mem_requirements_conditions
    rw [Bool.eq_false_iff, Ne, LedgerAuthorizationPlan.isSatisfiableBy_iff]
    intro hplan
    rw [Bool.eq_false_iff, Ne, AccountAuthorizationRequirement.isSatisfiableBy_iff] at hfull
    exact hfull (hplan.2 requirement hr)
  obtain ⟨hall₂, hsel₂⟩ := selectForRequirements_ok hreqs mem_requirements_conditions
  rcases bind_eq_error.mp h with hproofs | ⟨r, -, h⟩
  · right
    obtain ⟨t, keys, hsel₃, hgoal, hall₃⟩ := selectUntil_error hproofs mem_proofs_conditions
    have hsel := (hsel₁.trans hsel₂).trans hsel₃
    -- the last loop looks at the signers only: the extra signers are all in already
    have hfull : ∀ c ∈ availableAfterLocal plan satisfied available, c ∈ t := by
      intro c hc
      rcases mem_availableAfterLocal.mp hc with hc | ⟨hplan, hlocal⟩
      · exact hsel.subset c hc
      rcases LedgerAuthorizationPlan.mem_signerConditions.mp hplan with
        hextra | ⟨requirement, hr, signer, hs, rfl⟩
      · exact (hsel₂.trans hsel₃).subset c (hall₁ c (Std.ExtTreeSet.mem_toList.mpr hextra))
      · exact hall₃ signer (List.mem_flatMap.mpr ⟨requirement, hr, hs⟩) hlocal
    have hcount := ed25519Count_mono hfull
    have hless : ed25519Count t < minimumSignatures := by simpa using hgoal
    omega
  · exact absurd h (by simp)

/-- The selection succeeds exactly when all available keys together would. -/
theorem selectEd25519Signers_isOk_iff {minimumSignatures : ℕ} :
    (∃ keys, selectEd25519Signers plan satisfied available minimumSignatures = .ok keys) ↔
      plan.isSatisfiableBy (availableAfterLocal plan satisfied available) = true ∧
        minimumSignatures ≤ ed25519Count (availableAfterLocal plan satisfied available) := by
  constructor
  · rintro ⟨keys, h⟩
    obtain ⟨t, hsel, hplan, hcount⟩ := selectEd25519Signers_ok h
    exact ⟨LedgerAuthorizationPlan.isSatisfiableBy_mono hsel.subset_full hplan,
      hcount.trans (ed25519Count_mono hsel.subset_full)⟩
  · rintro ⟨hplan, hcount⟩
    cases h : selectEd25519Signers plan satisfied available minimumSignatures with
    | ok keys => exact ⟨keys, rfl⟩
    | error e =>
      rcases selectEd25519Signers_error h with hfail | hfail
      · simp [hplan] at hfail
      · omega

theorem selectExtraSigners_of_mem {extra : List LedgerSignerCondition}
    (h : ∀ c ∈ extra, c ∈ s) : selectExtraSigners available extra s = .ok (s, []) := by
  induction extra with
  | nil => rfl
  | cons c extra ih =>
    rw [selectExtraSigners, if_pos (h c List.mem_cons_self)]
    exact ih fun d hd => h d (List.mem_cons_of_mem _ hd)

theorem selectForRequirements_of_isSatisfiableBy
    {requirements : List AccountAuthorizationRequirement}
    (h : ∀ requirement ∈ requirements, requirement.isSatisfiableBy s = true) :
    selectForRequirements available requirements s = .ok (s, []) := by
  induction requirements with
  | nil => rfl
  | cons requirement requirements ih =>
    have hrest := ih fun r hr => h r (List.mem_cons_of_mem _ hr)
    rw [selectForRequirements, selectUntil_of_goal (h requirement List.mem_cons_self)]
    simp [hrest]

/-- Nothing is selected where nothing is missing. -/
theorem selectEd25519Signers_of_satisfied {minimumSignatures : ℕ}
    (h : plan.isSatisfiableBy s = true) (hmin : minimumSignatures ≤ ed25519Count s) :
    selectEd25519Signers plan s available minimumSignatures = .ok [] := by
  obtain ⟨hextra, hreqs⟩ := LedgerAuthorizationPlan.isSatisfiableBy_iff.mp h
  have h₁ : selectExtraSigners available plan.extraSigners.toList s = .ok (s, []) :=
    selectExtraSigners_of_mem fun c hc => hextra c (Std.ExtTreeSet.mem_toList.mp hc)
  have h₂ : selectForRequirements available plan.requirements s = .ok (s, []) :=
    selectForRequirements_of_isSatisfiableBy fun r hr =>
      AccountAuthorizationRequirement.isSatisfiableBy_iff.mpr (hreqs r hr)
  have h₃ : selectProofs plan available minimumSignatures s = .ok (s, []) :=
    selectUntil_of_goal (by simpa using hmin)
  simp [selectEd25519Signers, h₁, h₂, h₃]

/-- The greedy selection is sound, and it fails only where every selection does. -/
theorem selectEd25519Signers_sound_complete (plan : LedgerAuthorizationPlan)
    (satisfied : BTreeSet LedgerSignerCondition) (available : BTreeSet String)
    (minimumSignatures : ℕ) :
    (∀ selected,
      selectEd25519Signers plan satisfied available minimumSignatures = .ok selected →
        selected.Nodup ∧
        (∀ key ∈ selected, key ∈ available ∧ .ed25519 key ∉ satisfied) ∧
        plan.isSatisfiableBy (satisfied.insertMany (selected.map .ed25519)) = true ∧
        minimumSignatures ≤ ed25519Count (satisfied.insertMany (selected.map .ed25519))) ∧
    ((∃ e, selectEd25519Signers plan satisfied available minimumSignatures = .error e) ↔
      ¬ (plan.isSatisfiableBy (availableAfterLocal plan satisfied available) = true ∧
        minimumSignatures ≤ ed25519Count (availableAfterLocal plan satisfied available))) := by
  constructor
  · intro selected h
    obtain ⟨t, hsel, hplan, hcount⟩ := selectEd25519Signers_ok h
    rw [hsel.eq_insertMany]
    exact ⟨hsel.nodup, fun key hkey => ⟨hsel.mem_available key hkey, hsel.not_mem key hkey⟩,
      hplan, hcount⟩
  · rw [← selectEd25519Signers_isOk_iff, ← ne_ok_iff_exists_error, not_exists]

end Fresnica
