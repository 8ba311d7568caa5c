import Fresnica.Foundation.Ordered
import Mathlib.Algebra.GroupWithZero.Nat

/-!
# Ledger authorization plans

A plan says which signer conditions a transaction needs: for every source account
a weight that its signers have to reach together, and a set of extra signers that
are all required. Whether a set of satisfied conditions is enough is decided from
the plan alone, and more satisfied conditions never make it less.

Weights and thresholds are bytes. A sum of weights is a natural number: the sum of
`n` bytes is at most `255 * n`, which is within 32 bits for every account with
fewer than sixteen million signers (a ledger account has at most twenty).

## Main definitions

* `LedgerSignerCondition`, `WeightedLedgerSigner`
* `LedgerAccountAuthorization` — thresholds and signers of one account
* `AccountAuthorizationRequirement`, `LedgerAuthorizationPlan`
* `LedgerAuthorizationPlan.isSatisfiableBy`, `LedgerAuthorizationPlan.signerConditions`

## Main results

* `availableWeight_mono`, `isSatisfiableBy_mono` — satisfaction is monotone
* `availableWeight_lt` — the weight is within its machine width
-/

namespace Fresnica

open Foundation

inductive AuthorizationThreshold
  | low
  | medium
  | high
  deriving DecidableEq, Repr

inductive LedgerSignerKind
  | ed25519PublicKey
  | preauthorizedTransaction
  | hashX
  | ed25519SignedPayload
  deriving DecidableEq, Repr

/-- The order of the kinds is the order of their declaration. -/
def LedgerSignerKind.rank : LedgerSignerKind → ℕ
  | .ed25519PublicKey => 0
  | .preauthorizedTransaction => 1
  | .hashX => 2
  | .ed25519SignedPayload => 3

theorem LedgerSignerKind.rank_inj {a b : LedgerSignerKind} : a.rank = b.rank ↔ a = b := by
  cases a <;> cases b <;> simp [rank]

structure LedgerSignerCondition where
  kind : LedgerSignerKind
  key : String
  deriving DecidableEq, Repr

namespace LedgerSignerCondition

/-- Conditions are ordered by kind, then by key. -/
instance : Ord LedgerSignerCondition where
  compare := compareLex (compareOn fun c => c.kind.rank) (compareOn key)

instance : Std.TransOrd LedgerSignerCondition :=
  inferInstanceAs (Std.TransCmp (compareLex (compareOn fun c : LedgerSignerCondition =>
    c.kind.rank) (compareOn key)))

instance : Std.LawfulEqOrd LedgerSignerCondition where
  eq_of_compare {a b} h := by
    have h' : (compare a.kind.rank b.kind.rank).then (compare a.key b.key) = .eq := h
    rw [Ordering.then_eq_eq, Std.LawfulEqCmp.compare_eq_iff_eq,
      Std.LawfulEqCmp.compare_eq_iff_eq, LedgerSignerKind.rank_inj] at h'
    cases a
    cases b
    simpa using h'

/-- The condition that the key has signed. -/
def ed25519 (key : String) : LedgerSignerCondition := ⟨.ed25519PublicKey, key⟩

/-- An Ed25519 condition is the condition of its key. -/
theorem eq_ed25519_iff {c : LedgerSignerCondition} {key : String} :
    c = ed25519 key ↔ c.kind = .ed25519PublicKey ∧ c.key = key := by
  cases c
  simp [ed25519]

theorem ed25519_key_of_kind {c : LedgerSignerCondition} (h : c.kind = .ed25519PublicKey) :
    ed25519 c.key = c :=
  (eq_ed25519_iff.mpr ⟨h, rfl⟩).symm

end LedgerSignerCondition

instance neZero_byte : NeZero 256 := ⟨by decide⟩

structure WeightedLedgerSigner where
  condition : LedgerSignerCondition
  weight : Fin 256
  deriving DecidableEq, Repr

/-- The authorization state of one account on the ledger. -/
structure LedgerAccountAuthorization where
  accountId : String
  lowThreshold : Fin 256
  mediumThreshold : Fin 256
  highThreshold : Fin 256
  signers : List WeightedLedgerSigner
  deriving DecidableEq, Repr

def LedgerAccountAuthorization.requiredWeight (account : LedgerAccountAuthorization) :
    AuthorizationThreshold → Fin 256
  | .low => account.lowThreshold
  | .medium => account.mediumThreshold
  | .high => account.highThreshold

inductive ClassicOperationKind
  | createAccount
  | payment
  | manageSellOffer
  | manageBuyOffer
  | changeTrust
  | manageData
  | invokeHostFunction
  | bumpSequence
  deriving DecidableEq, Repr

/-- What a source account authorizes: the transaction, or one of its operations. -/
inductive AuthorizationScope
  | transactionSource
  | operation (index : ℕ) (kind : ClassicOperationKind)
  deriving DecidableEq, Repr

structure AuthorizationUse where
  scope : AuthorizationScope
  threshold : AuthorizationThreshold
  requiredWeight : Fin 256
  deriving DecidableEq, Repr

structure AccountAuthorizationRequirement where
  accountId : String
  requiredWeight : Fin 256
  uses : List AuthorizationUse
  signers : List WeightedLedgerSigner
  deriving DecidableEq, Repr

/-- The weight that the available conditions give a list of signers. -/
def signerWeight (signers : List WeightedLedgerSigner)
    (available : BTreeSet LedgerSignerCondition) : ℕ :=
  ((signers.filter fun signer => signer.condition ∈ available).map fun signer =>
    (signer.weight : ℕ)).sum

namespace AccountAuthorizationRequirement

def availableWeight (requirement : AccountAuthorizationRequirement)
    (available : BTreeSet LedgerSignerCondition) : ℕ :=
  signerWeight requirement.signers available

def isSatisfiableBy (requirement : AccountAuthorizationRequirement)
    (available : BTreeSet LedgerSignerCondition) : Bool :=
  (requirement.requiredWeight : ℕ) ≤ requirement.availableWeight available

end AccountAuthorizationRequirement

structure LedgerAuthorizationPlan where
  requirements : List AccountAuthorizationRequirement
  extraSigners : BTreeSet LedgerSignerCondition

namespace LedgerAuthorizationPlan

def isSatisfiableBy (plan : LedgerAuthorizationPlan)
    (available : BTreeSet LedgerSignerCondition) : Bool :=
  BTreeSet.isSubset plan.extraSigners available &&
    plan.requirements.all fun requirement => requirement.isSatisfiableBy available

/-- Every condition the plan mentions. -/
def signerConditions (plan : LedgerAuthorizationPlan) : BTreeSet LedgerSignerCondition :=
  Std.ExtTreeSet.ofList
    (plan.extraSigners.toList ++
      plan.requirements.flatMap fun requirement => requirement.signers.map (·.condition))

end LedgerAuthorizationPlan

/-! ### Weights -/

variable {signers : List WeightedLedgerSigner} {s t : BTreeSet LedgerSignerCondition}

@[simp] theorem signerWeight_nil : signerWeight [] s = 0 := rfl

theorem signerWeight_cons (signer : WeightedLedgerSigner) :
    signerWeight (signer :: signers) s =
      (if signer.condition ∈ s then (signer.weight : ℕ) else 0) + signerWeight signers s := by
  by_cases h : signer.condition ∈ s <;> simp [signerWeight, h]

/-- Only the conditions of the signers themselves count. -/
theorem signerWeight_mono (h : ∀ signer ∈ signers, signer.condition ∈ s → signer.condition ∈ t) :
    signerWeight signers s ≤ signerWeight signers t := by
  induction signers with
  | nil => simp
  | cons signer signers ih =>
    have hrest := ih fun other hother => h other (List.mem_cons_of_mem _ hother)
    have hhead := h signer List.mem_cons_self
    rw [signerWeight_cons, signerWeight_cons]
    by_cases hs : signer.condition ∈ s
    · rw [if_pos hs, if_pos (hhead hs)]
      omega
    · rw [if_neg hs]
      omega

theorem signerWeight_congr (h : ∀ signer ∈ signers, signer.condition ∈ s ↔ signer.condition ∈ t) :
    signerWeight signers s = signerWeight signers t :=
  le_antisymm (signerWeight_mono fun signer hsigner => (h signer hsigner).mp)
    (signerWeight_mono fun signer hsigner => (h signer hsigner).mpr)

theorem signerWeight_le : signerWeight signers s ≤ 255 * signers.length := by
  induction signers with
  | nil => simp
  | cons signer signers ih =>
    have := signer.weight.isLt
    rw [signerWeight_cons, List.length_cons]
    split_ifs <;> omega

/-! ### Satisfaction -/

namespace AccountAuthorizationRequirement

variable {requirement : AccountAuthorizationRequirement}

theorem availableWeight_mono (h : ∀ c ∈ s, c ∈ t) :
    requirement.availableWeight s ≤ requirement.availableWeight t :=
  signerWeight_mono fun signer _ => h signer.condition

/-- The 32-bit sum of the weights does not wrap below sixteen million signers. -/
theorem availableWeight_lt (h : requirement.signers.length ≤ 16777216) :
    requirement.availableWeight s < 2 ^ 32 := by
  have : requirement.availableWeight s ≤ 255 * requirement.signers.length := signerWeight_le
  omega

theorem isSatisfiableBy_iff :
    requirement.isSatisfiableBy s = true ↔
      (requirement.requiredWeight : ℕ) ≤ requirement.availableWeight s := by
  simp [isSatisfiableBy]

end AccountAuthorizationRequirement

namespace LedgerAuthorizationPlan

variable {plan : LedgerAuthorizationPlan} {c : LedgerSignerCondition}

theorem isSatisfiableBy_iff :
    plan.isSatisfiableBy s = true ↔
      (∀ c ∈ plan.extraSigners, c ∈ s) ∧
        ∀ requirement ∈ plan.requirements,
          (requirement.requiredWeight : ℕ) ≤ requirement.availableWeight s := by
  simp [isSatisfiableBy, BTreeSet.isSubset_iff,
    AccountAuthorizationRequirement.isSatisfiableBy_iff]

/-- More satisfied conditions satisfy the plan as well. -/
theorem isSatisfiableBy_mono (h : ∀ c ∈ s, c ∈ t) (hs : plan.isSatisfiableBy s = true) :
    plan.isSatisfiableBy t = true := by
  rw [isSatisfiableBy_iff] at hs ⊢
  refine ⟨fun c hc => h c (hs.1 c hc), fun requirement hrequirement => ?_⟩
  exact (hs.2 requirement hrequirement).trans
    (AccountAuthorizationRequirement.availableWeight_mono h)

theorem mem_signerConditions :
    c ∈ plan.signerConditions ↔
      c ∈ plan.extraSigners ∨
        ∃ requirement ∈ plan.requirements, ∃ signer ∈ requirement.signers,
          signer.condition = c := by
  simp [signerConditions, Std.ExtTreeSet.mem_ofList]

end LedgerAuthorizationPlan

end Fresnica
