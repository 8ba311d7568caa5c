import Fresnica.SigningCoordination.Selection

/-!
# No needless signatures

Every key is selected for something that is still missing, so no part of a selection
would have been enough. For a single account with distinct signers more is true: the
heaviest signers come first, so no smaller choice of keys is enough either.

## Main results

* `selectEd25519Signers_init` — the last key was needed
* `signerWeight_additive` — each signer adds its own weight
* `selectEd25519Signers_minimal`
-/

namespace Fresnica

open Foundation

variable {available : BTreeSet String} {conditions s t : BTreeSet LedgerSignerCondition}
variable {keys init : List String} {key : String} {signers : List WeightedLedgerSigner}
variable {goal : BTreeSet LedgerSignerCondition → Bool}
variable {failure : BTreeSet LedgerSignerCondition → String}
variable {plan : LedgerAuthorizationPlan} {satisfied : BTreeSet LedgerSignerCondition}

/-! ### The last key -/

/-- Usable signers are the Ed25519 conditions of their keys. -/
theorem map_condition_of_usable {added : List WeightedLedgerSigner}
    (h : ∀ signer ∈ added, isUsable available signer = true) :
    (added.map (·.condition.key)).map LedgerSignerCondition.ed25519 =
      added.map (·.condition) := by
  rw [List.map_map]
  apply List.map_congr_left
  intro signer hsigner
  exact LedgerSignerCondition.ed25519_key_of_kind
    (LedgerSignerCondition.isLocal_iff.mp (h signer hsigner)).1

theorem selectUntil_init
    (h : selectUntil goal failure signers available s = .ok (t, init ++ [key])) :
    goal (s.insertMany (init.map .ed25519)) = false := by
  unfold selectUntil at h
  split at h
  · rename_i t' added hfill
    obtain ⟨rfl, hkeys⟩ := Prod.mk.inj (Except.ok.inj h)
    have husable := (Greedy.fill_ok hfill).2.usable
    obtain ⟨before, last, rfl, rfl, hlast⟩ := List.map_eq_append_iff.mp hkeys
    obtain ⟨signer, after, rfl, -, -⟩ := List.map_eq_cons_iff.mp hlast
    have hused : ∀ signer ∈ before, isUsable available signer = true := by
      intro signer hsigner
      exact (husable signer (List.mem_append_left _ hsigner)).2
    rw [map_condition_of_usable hused]
    exact Greedy.fill_prefix hfill rfl
  · cases h

theorem selectExtraSigners_init {extra : List LedgerSignerCondition}
    (h : selectExtraSigners available extra s = .ok (t, init ++ [key])) :
    ∃ c ∈ extra, c ∉ s.insertMany (init.map LedgerSignerCondition.ed25519) := by
  induction extra generalizing s init with
  | nil =>
    have hkeys := congrArg Prod.snd (Except.ok.inj h)
    simp at hkeys
  | cons c extra ih =>
    unfold selectExtraSigners at h
    split_ifs at h with hcur husable
    · obtain ⟨d, hd, hfresh⟩ := ih h
      exact ⟨d, List.mem_cons_of_mem _ hd, hfresh⟩
    · obtain ⟨⟨t', rest⟩, hrest, h⟩ := bind_eq_ok.mp h
      obtain ⟨rfl, hkeys⟩ := Prod.mk.inj (Except.ok.inj h)
      -- the first key was chosen for this condition
      cases init with
      | nil => exact ⟨c, List.mem_cons_self, hcur⟩
      | cons first init =>
        obtain ⟨rfl, rfl⟩ := List.cons.inj hkeys
        obtain ⟨d, hd, hfresh⟩ := ih hrest
        refine ⟨d, List.mem_cons_of_mem _ hd, ?_⟩
        have hc : LedgerSignerCondition.ed25519 c.key = c := by
          apply LedgerSignerCondition.ed25519_key_of_kind
          tauto
        rw [List.map_cons, Std.ExtTreeSet.insertMany_cons, hc]
        exact hfresh

theorem selectForRequirements_init {requirements : List AccountAuthorizationRequirement}
    (h : selectForRequirements available requirements s = .ok (t, init ++ [key]))
    (hreqs : ∀ requirement ∈ requirements, ∀ signer ∈ requirement.signers,
      signer.condition ∈ conditions) :
    ∃ requirement ∈ requirements,
      requirement.isSatisfiableBy (s.insertMany (init.map .ed25519)) = false := by
  induction requirements generalizing s init with
  | nil =>
    have hkeys := congrArg Prod.snd (Except.ok.inj h)
    simp at hkeys
  | cons requirement requirements ih =>
    unfold selectForRequirements at h
    obtain ⟨⟨s', first⟩, hfirst, h⟩ := bind_eq_ok.mp h
    obtain ⟨⟨t', rest⟩, hrest, h⟩ := bind_eq_ok.mp h
    obtain ⟨rfl, hkeys⟩ := Prod.mk.inj (Except.ok.inj h)
    -- the last key was taken for this requirement, or for a later one
    rcases List.eq_nil_or_concat' rest with rfl | ⟨rest, last, rfl⟩
    · -- the last key is of this requirement
      rw [List.append_nil] at hkeys
      subst hkeys
      exact ⟨requirement, List.mem_cons_self, selectUntil_init hfirst⟩
    · rw [← List.append_assoc] at hkeys
      obtain ⟨rfl, hlast⟩ := List.append_inj' hkeys rfl
      obtain rfl := List.singleton_inj.mp hlast
      have hsel := (selectUntil_ok hfirst (hreqs requirement List.mem_cons_self)).2
      obtain ⟨other, hother, hfalse⟩ :=
        ih hrest fun r hr => hreqs r (List.mem_cons_of_mem _ hr)
      refine ⟨other, List.mem_cons_of_mem _ hother, ?_⟩
      rw [List.map_append, Std.ExtTreeSet.insertMany_append, hsel.eq_insertMany]
      exact hfalse

/-- Without the last key, the plan or the number of signatures is not reached. -/
theorem selectEd25519Signers_init {minimumSignatures : ℕ}
    (h : selectEd25519Signers plan satisfied available minimumSignatures =
      .ok (init ++ [key])) :
    ¬ (plan.isSatisfiableBy (satisfied.insertMany (init.map .ed25519)) = true ∧
      minimumSignatures ≤ ed25519Count (satisfied.insertMany (init.map .ed25519))) := by
  rintro ⟨hplan, hcount⟩
  rw [LedgerAuthorizationPlan.isSatisfiableBy_iff] at hplan
  unfold selectEd25519Signers at h
  obtain ⟨⟨s₁, extra⟩, hextra, h⟩ := bind_eq_ok.mp h
  obtain ⟨⟨s₂, weighted⟩, hreqs, h⟩ := bind_eq_ok.mp h
  obtain ⟨⟨s₃, proofs⟩, hproofs, h⟩ := bind_eq_ok.mp h
  have hkeys := Except.ok.inj h
  have hsel₁ := (selectExtraSigners_ok hextra mem_extraSigners_conditions).2
  have hsel₂ := (selectForRequirements_ok hreqs mem_requirements_conditions).2
  -- the last key is of the last loop that selected any
  rcases List.eq_nil_or_concat' proofs with rfl | ⟨proofs, last, rfl⟩
  · rw [List.append_nil] at hkeys
    rcases List.eq_nil_or_concat' weighted with rfl | ⟨weighted, last, rfl⟩
    · rw [List.append_nil] at hkeys
      subst hkeys
      obtain ⟨c, hc, hfresh⟩ := selectExtraSigners_init hextra
      exact hfresh (hplan.1 c (Std.ExtTreeSet.mem_toList.mp hc))
    · rw [← List.append_assoc] at hkeys
      obtain ⟨rfl, -⟩ := List.append_inj' hkeys rfl
      obtain ⟨requirement, hr, hfalse⟩ :=
        selectForRequirements_init hreqs mem_requirements_conditions
      have htrue := hplan.2 requirement hr
      rw [List.map_append, Std.ExtTreeSet.insertMany_append, hsel₁.eq_insertMany,
        ← AccountAuthorizationRequirement.isSatisfiableBy_iff, hfalse] at htrue
      cases htrue
  · rw [← List.append_assoc] at hkeys
    obtain ⟨rfl, -⟩ := List.append_inj' hkeys rfl
    have hfalse := selectUntil_init hproofs
    rw [decide_eq_false_iff_not, ← (hsel₁.trans hsel₂).eq_insertMany,
      ← Std.ExtTreeSet.insertMany_append, ← List.map_append] at hfalse
    exact hfalse hcount

/-! ### One account -/

theorem signerWeight_insert_other {c : LedgerSignerCondition}
    (h : ∀ signer ∈ signers, signer.condition ≠ c) :
    signerWeight signers (s.insert c) = signerWeight signers s := by
  apply signerWeight_congr
  intro signer hsigner
  rw [BTreeSet.mem_insert_iff]
  exact or_iff_right (h signer hsigner)

/-- Each of several distinct signers adds its own weight. -/
theorem signerWeight_additive (hdistinct : (signers.map (·.condition)).Nodup) :
    Greedy.Additive (·.condition) (fun signer => (signer.weight : ℕ)) signers
      (signerWeight signers) where
  insert := by
    intro signer hsigner s hfresh
    induction signers with
    | nil => cases hsigner
    | cons first signers ih =>
      rw [List.map_cons, List.nodup_cons] at hdistinct
      rw [signerWeight_cons, signerWeight_cons]
      -- the weight grows at the signer itself and nowhere else
      rcases List.mem_cons.mp hsigner with rfl | hsigner
      · have hothers : ∀ other ∈ signers, other.condition ≠ signer.condition := by
          intro other hother heq
          exact hdistinct.1 (heq ▸ List.mem_map_of_mem hother)
        rw [signerWeight_insert_other hothers, if_pos (BTreeSet.mem_insert_iff.mpr (Or.inl rfl)),
          if_neg hfresh]
        omega
      · have hne : first.condition ≠ signer.condition := by
          intro heq
          exact hdistinct.1 (heq ▸ List.mem_map_of_mem hsigner)
        have hmem : first.condition ∈ s.insert signer.condition ↔ first.condition ∈ s :=
          BTreeSet.mem_insert_iff.trans (or_iff_right hne)
        rw [ih hdistinct.2 hsigner, if_congr hmem rfl rfl, add_assoc]
  insert_other := by
    intro c hc s
    exact signerWeight_insert_other hc

/-- Fewer keys than are selected for one account are not enough. -/
theorem selectUntil_minimum {requirement : AccountAuthorizationRequirement}
    (hdistinct : (requirement.signers.map (·.condition)).Nodup)
    (h : selectUntil requirement.isSatisfiableBy failure requirement.signers available s =
      .ok (t, keys)) {others : List String} (havailable : ∀ key ∈ others, key ∈ available)
    (hfewer : others.length < keys.length) :
    requirement.isSatisfiableBy (s.insertMany (others.map .ed25519)) = false := by
  unfold selectUntil at h
  split at h
  · rename_i t' added hfill
    obtain ⟨rfl, rfl⟩ := Prod.mk.inj (Except.ok.inj h)
    rw [List.length_map] at hfewer
    have husable : ∀ c ∈ others.map LedgerSignerCondition.ed25519,
        ∀ signer ∈ requirement.signers, signer.condition = c →
          isUsable available signer = true := by
      intro c hc signer _ heq
      obtain ⟨key, hkey, rfl⟩ := List.mem_map.mp hc
      rw [isUsable, heq]
      exact LedgerSignerCondition.isLocal_iff.mpr ⟨rfl, havailable key hkey⟩
    have hweight := Greedy.fill_dominates (signerWeight_additive hdistinct) hfill husable
      (List.length_map _).le hfewer.le
    -- as many of the keys that were selected were not enough
    have hsplit : added = added.take others.length ++
        added.get ⟨others.length, hfewer⟩ :: added.drop (others.length + 1) := by
      rw [List.get_eq_getElem, List.getElem_cons_drop, List.take_append_drop]
    have hfalse := Greedy.fill_prefix hfill hsplit
    rw [Bool.eq_false_iff, Ne, AccountAuthorizationRequirement.isSatisfiableBy_iff] at hfalse ⊢
    exact fun hle => hfalse (hle.trans hweight)
  · cases h

/-- For a plan of one account, the keys are selected by the one loop. -/
theorem selectEd25519Signers_single {requirement : AccountAuthorizationRequirement}
    (hextra : plan.extraSigners = ∅) (hsingle : plan.requirements = [requirement])
    (h : selectEd25519Signers plan satisfied available 0 = .ok keys) :
    ∃ failure t, selectUntil requirement.isSatisfiableBy failure requirement.signers available
      satisfied = .ok (t, keys) := by
  unfold selectEd25519Signers at h
  rw [Std.ExtTreeSet.toList_eq_nil_iff.mpr hextra, hsingle] at h
  obtain ⟨⟨s₁, extra⟩, hextra, h⟩ := bind_eq_ok.mp h
  obtain ⟨⟨s₂, weighted⟩, hreqs, h⟩ := bind_eq_ok.mp h
  obtain ⟨⟨s₃, proofs⟩, hproofs, h⟩ := bind_eq_ok.mp h
  obtain ⟨rfl, rfl⟩ := Prod.mk.inj (Except.ok.inj hextra)
  -- no further signature is asked for
  rw [selectProofs, selectUntil_of_goal (by simp)] at hproofs
  obtain ⟨rfl, rfl⟩ := Prod.mk.inj (Except.ok.inj hproofs)
  unfold selectForRequirements at hreqs
  obtain ⟨⟨s', first⟩, hfirst, hreqs⟩ := bind_eq_ok.mp hreqs
  obtain ⟨⟨t', rest⟩, hrest, hreqs⟩ := bind_eq_ok.mp hreqs
  obtain ⟨rfl, rfl⟩ := Prod.mk.inj (Except.ok.inj hrest)
  obtain ⟨rfl, rfl⟩ := Prod.mk.inj (Except.ok.inj hreqs)
  obtain rfl := Except.ok.inj h
  rw [List.append_nil, List.append_nil, List.nil_append]
  exact ⟨_, _, hfirst⟩

/-- For one account with distinct signers, no fewer available keys are enough, and no key
can be left out. For every plan, no part of the keys selected is enough. -/
theorem selectEd25519Signers_minimal (plan : LedgerAuthorizationPlan)
    (satisfied : BTreeSet LedgerSignerCondition) (available : BTreeSet String) :
    (∀ requirement selected, plan.extraSigners = ∅ → plan.requirements = [requirement] →
      (requirement.signers.map (·.condition)).Nodup →
      selectEd25519Signers plan satisfied available 0 = .ok selected →
        (∀ others : List String, (∀ key ∈ others, key ∈ available) →
          others.length < selected.length →
          requirement.isSatisfiableBy (satisfied.insertMany (others.map .ed25519)) = false) ∧
        ∀ key ∈ selected, requirement.isSatisfiableBy
          (satisfied.insertMany ((selected.erase key).map .ed25519)) = false) ∧
    ∀ minimumSignatures selected part,
      selectEd25519Signers plan satisfied available minimumSignatures = .ok selected →
      part <+: selected → part ≠ selected →
        ¬ (plan.isSatisfiableBy (satisfied.insertMany (part.map .ed25519)) = true ∧
          minimumSignatures ≤ ed25519Count (satisfied.insertMany (part.map .ed25519))) := by
  refine ⟨?_, ?_⟩
  · intro requirement selected hextra hsingle hdistinct h
    obtain ⟨failure, t, hloop⟩ := selectEd25519Signers_single hextra hsingle h
    refine ⟨fun others havailable hfewer =>
      selectUntil_minimum hdistinct hloop havailable hfewer, ?_⟩
    intro key hkey
    obtain ⟨_, hsel, -, -⟩ := selectEd25519Signers_ok h
    apply selectUntil_minimum hdistinct hloop
    · intro other hother
      exact hsel.mem_available other (List.mem_of_mem_erase hother)
    · rw [List.length_erase_of_mem hkey]
      have hpos := List.length_pos_of_mem hkey
      omega
  · rintro minimumSignatures selected part h ⟨after, rfl⟩ hne ⟨hplan, hcount⟩
    rcases List.eq_nil_or_concat' after with rfl | ⟨after, last, rfl⟩
    · exact hne (List.append_nil part).symm
    · rw [← List.append_assoc] at h
      -- what is enough stays enough with more keys
      have hmore : ∀ c ∈ satisfied.insertMany (part.map LedgerSignerCondition.ed25519),
          c ∈ satisfied.insertMany ((part ++ after).map LedgerSignerCondition.ed25519) := by
        intro c hc
        rw [List.map_append, Std.ExtTreeSet.insertMany_append, BTreeSet.mem_insertMany]
        exact Or.inl hc
      exact selectEd25519Signers_init h ⟨LedgerAuthorizationPlan.isSatisfiableBy_mono hmore hplan,
        hcount.trans (ed25519Count_mono hmore)⟩

end Fresnica
