import Fresnica.SigningCoordination.Selection

/-!
# The authorization review and the selection

A review promises, before anything is signed, whether the local keys are enough.
The summary and the selection are computed separately, one by weighing the set of
everything the local keys can satisfy, the other by picking keys one at a time.
Both decide whether that set satisfies the plan.

## Main results

* `summarizeLedgerAuthorization_agrees` — the review agrees with the selection
* `locallySatisfiable_iff_rows` — and with the rows it shows
-/

namespace Fresnica

open Foundation

variable {plan : LedgerAuthorizationPlan} {satisfied : BTreeSet LedgerSignerCondition}
variable {keys : BTreeSet String} {hash : String}

theorem locallySatisfiable_iff_selection :
    (summarizeLedgerAuthorization plan satisfied keys hash).locallySatisfiable = true ↔
      ∃ selected, selectLocalEd25519Signers plan satisfied keys 0 = .ok selected := by
  rw [selectLocalEd25519Signers, selectEd25519Signers_isOk_iff]
  simp [summarizeLedgerAuthorization]

theorem mem_accounts_iff {row : AccountAuthorizationSnapshot} :
    row ∈ (summarizeLedgerAuthorization plan satisfied keys hash).accounts ↔
      ∃ requirement ∈ plan.requirements,
        summarizeRequirement satisfied (availableAfterLocal plan satisfied keys) keys
          requirement = row := by
  simp [summarizeLedgerAuthorization]

theorem mem_extraSigners_iff {extra : ExtraSignerSnapshot} :
    extra ∈ (summarizeLedgerAuthorization plan satisfied keys hash).extraSigners ↔
      ∃ condition ∈ plan.extraSigners,
        ⟨condition, signerAvailability condition satisfied keys⟩ = extra := by
  simp [summarizeLedgerAuthorization, Std.ExtTreeSet.mem_toList]

/-- The flag is set when no row misses weight and no extra signer is out of
reach. -/
theorem locallySatisfiable_iff_rows :
    (summarizeLedgerAuthorization plan satisfied keys hash).locallySatisfiable = true ↔
      (∀ row ∈ (summarizeLedgerAuthorization plan satisfied keys hash).accounts,
        row.remainingWeight = 0) ∧
      ∀ extra ∈ (summarizeLedgerAuthorization plan satisfied keys hash).extraSigners,
        extra.availability ≠ .unavailableLocally := by
  have hextra : ∀ condition ∈ plan.extraSigners,
      (signerAvailability condition satisfied keys ≠ .unavailableLocally ↔
        condition ∈ availableAfterLocal plan satisfied keys) := fun condition hcondition =>
    signerAvailability_ne_unavailableLocally_iff
      (LedgerAuthorizationPlan.mem_signerConditions.mpr (Or.inl hcondition))
  have hrow : ∀ requirement : AccountAuthorizationRequirement,
      (summarizeRequirement satisfied (availableAfterLocal plan satisfied keys) keys
          requirement).remainingWeight = 0 ↔
        (requirement.requiredWeight : ℕ) ≤
          requirement.availableWeight (availableAfterLocal plan satisfied keys) :=
    fun requirement => Nat.sub_eq_zero_iff_le
  have hflag : (summarizeLedgerAuthorization plan satisfied keys hash).locallySatisfiable =
      plan.isSatisfiableBy (availableAfterLocal plan satisfied keys) := rfl
  -- each row and each condition of the summary stands for one of the plan
  rw [hflag, LedgerAuthorizationPlan.isSatisfiableBy_iff]
  constructor
  · rintro ⟨hsigners, hweights⟩
    refine ⟨fun row hmem => ?_, fun extra hmem => ?_⟩
    · obtain ⟨requirement, hr, rfl⟩ := mem_accounts_iff.mp hmem
      exact (hrow requirement).mpr (hweights requirement hr)
    · obtain ⟨condition, hc, rfl⟩ := mem_extraSigners_iff.mp hmem
      exact (hextra condition hc).mpr (hsigners condition hc)
  · rintro ⟨hrows, hextras⟩
    refine ⟨fun c hc => ?_, fun requirement hr => ?_⟩
    · exact (hextra c hc).mp (hextras _ (mem_extraSigners_iff.mpr ⟨c, hc, rfl⟩))
    · exact (hrow requirement).mp (hrows _ (mem_accounts_iff.mpr ⟨requirement, hr, rfl⟩))

/-- The weights shown on a row are those of the signers marked on it. -/
theorem satisfiedWeight_add_localAvailableWeight_eq_markedWeight :
    ∀ row ∈ (summarizeLedgerAuthorization plan satisfied keys hash).accounts,
      row.satisfiedWeight + row.localAvailableWeight = row.markedWeight := by
  intro row hrow
  obtain ⟨requirement, hr, rfl⟩ := mem_accounts_iff.mp hrow
  rw [markedWeight_summarizeRequirement hr]
  exact satisfiedWeight_add_localAvailableWeight

/-- The review shown before signing agrees with what signing will do. -/
theorem summarizeLedgerAuthorization_agrees (plan : LedgerAuthorizationPlan)
    (satisfied : BTreeSet LedgerSignerCondition) (keys : BTreeSet String) (hash : String) :
    let snapshot := summarizeLedgerAuthorization plan satisfied keys hash
    (snapshot.locallySatisfiable = true ↔
      ∃ selected, selectLocalEd25519Signers plan satisfied keys 0 = .ok selected) ∧
    (snapshot.locallySatisfiable = true ↔
      (∀ row ∈ snapshot.accounts, row.remainingWeight = 0) ∧
      ∀ extra ∈ snapshot.extraSigners, extra.availability ≠ .unavailableLocally) ∧
    (∀ row ∈ snapshot.accounts,
      row.satisfiedWeight + row.localAvailableWeight = row.markedWeight) ∧
    (snapshot.satisfied = true →
      selectLocalEd25519Signers plan satisfied keys 0 = .ok []) := by
  refine ⟨locallySatisfiable_iff_selection, locallySatisfiable_iff_rows,
    satisfiedWeight_add_localAvailableWeight_eq_markedWeight, fun h => ?_⟩
  exact selectEd25519Signers_of_satisfied h (Nat.zero_le _)

end Fresnica
