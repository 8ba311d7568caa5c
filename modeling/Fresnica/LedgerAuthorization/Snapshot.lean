import Fresnica.LedgerAuthorization.Plan

/-!
# Authorization snapshots

The review of a transaction shows, before anything is signed, which signer
conditions are already satisfied, which the local keys can satisfy, and how much
weight is still missing on every account. The summary is computed from two sets:
the satisfied conditions, and those together with every Ed25519 condition of the
plan whose key is local.

## Main definitions

* `availableAfterLocal` — what holds once every local key has signed
* `summarizeLedgerAuthorization` — the snapshot shown in a review

## Main results

* `mem_availableAfterLocal` — the conditions that hold after local signing
* `signerAvailability_ne_unavailableLocally_iff` — a signer is available exactly when its
  condition holds after local signing
* `satisfiedWeight_add_localAvailableWeight` — the two weights shown add up
-/

namespace Fresnica

open Foundation

inductive LedgerSignerAvailability
  | satisfied
  | localEd25519
  | unavailableLocally
  deriving DecidableEq, Repr

structure WeightedLedgerSignerSnapshot where
  condition : LedgerSignerCondition
  weight : Fin 256
  availability : LedgerSignerAvailability
  deriving DecidableEq, Repr

structure ExtraSignerSnapshot where
  condition : LedgerSignerCondition
  availability : LedgerSignerAvailability
  deriving DecidableEq, Repr

structure AccountAuthorizationSnapshot where
  accountId : String
  requiredWeight : Fin 256
  satisfiedWeight : ℕ
  localAvailableWeight : ℕ
  remainingWeight : ℕ
  uses : List AuthorizationUse
  signers : List WeightedLedgerSignerSnapshot
  deriving DecidableEq, Repr

structure LedgerAuthorizationSnapshot where
  transactionHash : String
  accounts : List AccountAuthorizationSnapshot
  extraSigners : List ExtraSignerSnapshot
  satisfied : Bool
  locallySatisfiable : Bool
  deriving DecidableEq, Repr

/-- The condition is the signature of one of the keys. -/
def LedgerSignerCondition.isLocal (keys : BTreeSet String) (condition : LedgerSignerCondition) :
    Bool :=
  condition.kind = .ed25519PublicKey ∧ condition.key ∈ keys

/-- The satisfied conditions, and every Ed25519 condition of the plan whose key
is local. -/
def availableAfterLocal (plan : LedgerAuthorizationPlan)
    (satisfied : BTreeSet LedgerSignerCondition) (localEd25519Keys : BTreeSet String) :
    BTreeSet LedgerSignerCondition :=
  satisfied.insertMany (plan.signerConditions.toList.filter (·.isLocal localEd25519Keys))

def signerAvailability (condition : LedgerSignerCondition)
    (satisfied : BTreeSet LedgerSignerCondition) (localEd25519Keys : BTreeSet String) :
    LedgerSignerAvailability :=
  if condition ∈ satisfied then .satisfied
  else if condition.isLocal localEd25519Keys then .localEd25519
  else .unavailableLocally

/-- The row of one requirement, given the satisfied conditions and the ones that
hold after local signing. -/
def summarizeRequirement (satisfied afterLocal : BTreeSet LedgerSignerCondition)
    (localEd25519Keys : BTreeSet String) (requirement : AccountAuthorizationRequirement) :
    AccountAuthorizationSnapshot :=
  let satisfiedWeight := requirement.availableWeight satisfied
  let availableAfterLocalWeight := requirement.availableWeight afterLocal
  { accountId := requirement.accountId
    requiredWeight := requirement.requiredWeight
    satisfiedWeight := satisfiedWeight
    localAvailableWeight := availableAfterLocalWeight - satisfiedWeight
    remainingWeight := requirement.requiredWeight - availableAfterLocalWeight
    uses := requirement.uses
    signers := requirement.signers.map fun signer =>
      { condition := signer.condition
        weight := signer.weight
        availability := signerAvailability signer.condition satisfied localEd25519Keys } }

def summarizeLedgerAuthorization (plan : LedgerAuthorizationPlan)
    (satisfied : BTreeSet LedgerSignerCondition) (localEd25519Keys : BTreeSet String)
    (transactionHash : String) : LedgerAuthorizationSnapshot :=
  let afterLocal := availableAfterLocal plan satisfied localEd25519Keys
  { transactionHash := transactionHash
    accounts := plan.requirements.map (summarizeRequirement satisfied afterLocal localEd25519Keys)
    extraSigners := plan.extraSigners.toList.map fun condition =>
      { condition := condition
        availability := signerAvailability condition satisfied localEd25519Keys }
    satisfied := plan.isSatisfiableBy satisfied
    locallySatisfiable := plan.isSatisfiableBy afterLocal }

variable {plan : LedgerAuthorizationPlan} {satisfied : BTreeSet LedgerSignerCondition}
variable {keys : BTreeSet String} {c : LedgerSignerCondition}
variable {requirement : AccountAuthorizationRequirement}

theorem LedgerSignerCondition.isLocal_iff :
    c.isLocal keys = true ↔ c.kind = .ed25519PublicKey ∧ c.key ∈ keys := by
  simp [isLocal]

theorem mem_availableAfterLocal :
    c ∈ availableAfterLocal plan satisfied keys ↔
      c ∈ satisfied ∨ c ∈ plan.signerConditions ∧ c.isLocal keys = true := by
  simp [availableAfterLocal, Std.ExtTreeSet.mem_insertMany_list]

theorem subset_availableAfterLocal :
    ∀ c ∈ satisfied, c ∈ availableAfterLocal plan satisfied keys :=
  fun _ hc => mem_availableAfterLocal.mpr (Or.inl hc)

theorem signerAvailability_ne_unavailableLocally_iff (hc : c ∈ plan.signerConditions) :
    signerAvailability c satisfied keys ≠ .unavailableLocally ↔
      c ∈ availableAfterLocal plan satisfied keys := by
  rw [mem_availableAfterLocal]
  unfold signerAvailability
  split_ifs with hs hl <;> simp_all

theorem mem_signerConditions_of_mem_signers {signer : WeightedLedgerSigner}
    (hr : requirement ∈ plan.requirements) (hs : signer ∈ requirement.signers) :
    signer.condition ∈ plan.signerConditions :=
  LedgerAuthorizationPlan.mem_signerConditions.mpr
    (Or.inr ⟨requirement, hr, signer, hs, rfl⟩)

/-- The weight already there and the weight the local keys add are the weight
after local signing. -/
theorem satisfiedWeight_add_localAvailableWeight :
    requirement.availableWeight satisfied +
        (requirement.availableWeight (availableAfterLocal plan satisfied keys) -
          requirement.availableWeight satisfied) =
      requirement.availableWeight (availableAfterLocal plan satisfied keys) :=
  Nat.add_sub_cancel'
    (AccountAuthorizationRequirement.availableWeight_mono subset_availableAfterLocal)

/-- The weight of the signers of a row that are marked as satisfied or local. -/
def AccountAuthorizationSnapshot.markedWeight (row : AccountAuthorizationSnapshot) : ℕ :=
  ((row.signers.filter fun signer =>
      signer.availability = .satisfied ∨ signer.availability = .localEd25519).map
    fun signer => (signer.weight : ℕ)).sum

theorem markedWeight_summarizeRequirement (hr : requirement ∈ plan.requirements) :
    (summarizeRequirement satisfied (availableAfterLocal plan satisfied keys) keys
        requirement).markedWeight =
      requirement.availableWeight (availableAfterLocal plan satisfied keys) := by
  have hfilter : (requirement.signers.filter fun signer =>
        decide (signerAvailability signer.condition satisfied keys = .satisfied ∨
          signerAvailability signer.condition satisfied keys = .localEd25519)) =
      requirement.signers.filter fun signer =>
        decide (signer.condition ∈ availableAfterLocal plan satisfied keys) := by
    refine List.filter_congr fun signer hsigner => ?_
    rw [decide_eq_decide, ← signerAvailability_ne_unavailableLocally_iff
      (mem_signerConditions_of_mem_signers hr hsigner)]
    cases signerAvailability signer.condition satisfied keys <;> simp
  rw [AccountAuthorizationSnapshot.markedWeight, AccountAuthorizationRequirement.availableWeight,
    signerWeight, ← hfilter, summarizeRequirement, List.filter_map, List.map_map]
  rfl

end Fresnica
