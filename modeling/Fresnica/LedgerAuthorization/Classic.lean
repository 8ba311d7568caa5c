import Mathlib.Order.Fin.Basic
import Fresnica.Foundation.Outcome
import Fresnica.Foundation.Grouping
import Fresnica.LedgerAuthorization.Plan
import Fresnica.StrKey

/-!
# Authorization plan of a transaction

The transaction source authorizes the transaction at its low threshold, and the
source of every operation authorizes that operation at the operation's own
threshold. The plan merges these uses into one requirement for each account, with
the greatest weight any use of the account needs. Merging loses nothing: a set of
signer conditions satisfies the plan exactly when it satisfies every use alone.

## Main definitions

* `classicAuthorizationUses` — the uses, in order
* `addRequirement`, `planClassicLedgerAuthorization` — the merge
* `sourceUses` — the uses with the accounts' keys instead of their texts

## Main results

* `foldlM_addRequirement` — the merge groups the uses by account
* `planClassicLedgerAuthorization_merges` — the merged plan is equivalent to the
  separate uses
-/

namespace Fresnica

open Foundation

structure RequiredAuthorizationUse where
  accountId : String
  scope : AuthorizationScope
  threshold : AuthorizationThreshold
  deriving DecidableEq, Repr

def operationAuthorization : OperationBody → Option (ClassicOperationKind × AuthorizationThreshold)
  | .createAccount .. => some (.createAccount, .medium)
  | .payment .. => some (.payment, .medium)
  | .manageSellOffer .. => some (.manageSellOffer, .medium)
  | .manageBuyOffer .. => some (.manageBuyOffer, .medium)
  | .changeTrust .. => some (.changeTrust, .medium)
  | .manageData .. => some (.manageData, .medium)
  | .invokeHostFunction .. => some (.invokeHostFunction, .medium)
  | .bumpSequence .. => some (.bumpSequence, .low)
  | .other .. => none

/-- The account under a source, without its virtual id. -/
def MuxedAccount.accountKey : MuxedAccount → Uint256
  | .ed25519 key => key
  | .muxedEd25519 _ key => key

def authorizationAccountId (strKey : StrKey) (account : MuxedAccount) : String :=
  strKey.publicKey account.accountKey

def operationUses (strKey : StrKey) (transactionSource : String) :
    ℕ → List Operation → Except String (List RequiredAuthorizationUse)
  | _, [] => .ok []
  | index, operation :: operations => do
    let source := (operation.sourceAccount.map (authorizationAccountId strKey)).getD
      transactionSource
    let (kind, threshold) ← okOr (operationAuthorization operation.body)
      s!"Ledger Authorization does not yet support Classic operation #{index}"
    let uses ← operationUses strKey transactionSource (index + 1) operations
    return ⟨source, .operation index kind, threshold⟩ :: uses

/-- The transaction of an envelope of the current format. -/
def requireTransaction : TransactionEnvelope → Except String Transaction
  | .tx t _ => .ok t
  | .txV0 .. | .txFeeBump .. =>
    .error "Ledger Authorization currently supports TransactionV1Envelope only"

def classicAuthorizationUses (strKey : StrKey) (envelope : TransactionEnvelope) :
    Except String (List RequiredAuthorizationUse) := do
  let tx ← requireTransaction envelope
  let transactionSource := authorizationAccountId strKey tx.sourceAccount
  let uses ← operationUses strKey transactionSource 0 tx.operations
  return ⟨transactionSource, .transactionSource, .low⟩ :: uses

def SignerKey.kind : SignerKey → LedgerSignerKind
  | .ed25519 _ => .ed25519PublicKey
  | .preAuthTx _ => .preauthorizedTransaction
  | .hashX _ => .hashX
  | .ed25519SignedPayload .. => .ed25519SignedPayload

def SignerKey.condition (strKey : StrKey) (signer : SignerKey) : LedgerSignerCondition :=
  ⟨signer.kind, strKey.signerKey signer⟩

def insertExtraSigner (strKey : StrKey) (conditions : BTreeSet LedgerSignerCondition)
    (signer : SignerKey) : Except String (BTreeSet LedgerSignerCondition) := do
  ensure (signer.condition strKey ∉ conditions)
    "PreconditionsV2.extraSigners contains a duplicate signer"
  return conditions.insert (signer.condition strKey)

/-- The extra signers of a transaction's preconditions. -/
def Transaction.extraSigners (tx : Transaction) : List SignerKey :=
  match tx.cond with
  | .v2 preconditions => preconditions.extraSigners
  | .none | .time _ => []

def extraSignerConditions (strKey : StrKey) (envelope : TransactionEnvelope) :
    Except String (BTreeSet LedgerSignerCondition) := do
  let tx ← requireTransaction envelope
  tx.extraSigners.foldlM (insertExtraSigner strKey) ∅

/-- The states of the accounts, by account id. -/
abbrev AccountIndex := BTreeMap String LedgerAccountAuthorization

def insertAccount (index : AccountIndex) (account : LedgerAccountAuthorization) :
    Except String AccountIndex := do
  ensure (account.accountId ∉ index)
    s!"duplicate ledger authorization state for {account.accountId}"
  return index.insert account.accountId account

/-- A threshold of zero still takes a matching signer, so at least one is needed. -/
def effectiveWeight (account : LedgerAccountAuthorization) (threshold : AuthorizationThreshold) :
    Fin 256 :=
  max (account.requiredWeight threshold) 1

def addRequirement (accounts : AccountIndex) (requirements : List AccountAuthorizationRequirement)
    (required : RequiredAuthorizationUse) :
    Except String (List AccountAuthorizationRequirement) := do
  let account ← okOr accounts[required.accountId]?
    s!"missing ledger authorization state for source account {required.accountId}"
  let requiredWeight := effectiveWeight account required.threshold
  let authorizationUse : AuthorizationUse :=
    ⟨required.scope, required.threshold, account.requiredWeight required.threshold⟩
  return findOrInsert (·.accountId) required.accountId
    { accountId := required.accountId
      requiredWeight := requiredWeight
      uses := [authorizationUse]
      signers := account.signers }
    -- the account has been used before, and its greatest weight counts
    (fun requirement =>
      { requirement with
        requiredWeight := max requirement.requiredWeight requiredWeight
        uses := requirement.uses ++ [authorizationUse] })
    requirements

def planClassicLedgerAuthorization (strKey : StrKey) (envelope : TransactionEnvelope)
    (accounts : List LedgerAccountAuthorization) : Except String LedgerAuthorizationPlan := do
  let uses ← classicAuthorizationUses strKey envelope
  let extraSigners ← extraSignerConditions strKey envelope
  let accountIndex ← accounts.foldlM insertAccount ∅
  let requirements ← uses.foldlM (addRequirement accountIndex) []
  return { requirements, extraSigners }

/-! ### Grouping the uses -/

section Grouping

variable {accounts : AccountIndex} {uses : List RequiredAuthorizationUse}

/-- The state of an account that has one. -/
def AccountIndex.account (accounts : AccountIndex) (id : String) : LedgerAccountAuthorization :=
  accounts.getD id ⟨id, 0, 0, 0, []⟩

def authorizationUse (accounts : AccountIndex) (required : RequiredAuthorizationUse) :
    AuthorizationUse :=
  ⟨required.scope, required.threshold,
    (accounts.account required.accountId).requiredWeight required.threshold⟩

def useWeight (accounts : AccountIndex) (required : RequiredAuthorizationUse) : Fin 256 :=
  effectiveWeight (accounts.account required.accountId) required.threshold

/-- The requirement of an account made of all its uses. -/
def mergedRequirement (accounts : AccountIndex) (id : String)
    (uses : List RequiredAuthorizationUse) : AccountAuthorizationRequirement where
  accountId := id
  requiredWeight := (uses.map (useWeight accounts)).foldl max 0
  uses := uses.map (authorizationUse accounts)
  signers := (accounts.account id).signers

theorem addRequirement_of_mem {requirements : List AccountAuthorizationRequirement}
    {required : RequiredAuthorizationUse} (h : required.accountId ∈ accounts) :
    addRequirement accounts requirements required =
      .ok (findOrInsert (·.accountId) required.accountId
        (mergedRequirement accounts required.accountId [required])
        (fun requirement =>
          { requirement with
            requiredWeight := max requirement.requiredWeight (useWeight accounts required)
            uses := requirement.uses ++ [authorizationUse accounts required] })
        requirements) := by
  have hget : accounts[required.accountId]? = some (accounts.account required.accountId) := by
    rw [AccountIndex.account, Std.ExtTreeMap.getD_eq_getD_getElem?,
      Std.ExtTreeMap.getElem?_eq_some_getElem h, Option.getD_some]
  simp [addRequirement, hget, okOr, mergedRequirement, useWeight, authorizationUse]

/-- A requirement absorbs the uses of its account one at a time. -/
theorem grouping_mergedRequirement (accounts : AccountIndex) :
    Grouping AccountAuthorizationRequirement.accountId RequiredAuthorizationUse.accountId
      (fun required => mergedRequirement accounts required.accountId [required])
      (fun required requirement =>
        { requirement with
          requiredWeight := max requirement.requiredWeight (useWeight accounts required)
          uses := requirement.uses ++ [authorizationUse accounts required] })
      (mergedRequirement accounts) where
  keyOf_group _ _ := rfl
  group_singleton _ := rfl
  group_append uses required _ := by simp [mergedRequirement]

/-- The merge groups the uses by account, in the order of first use. -/
theorem foldlM_addRequirement (h : ∀ required ∈ uses, required.accountId ∈ accounts) :
    uses.foldlM (addRequirement accounts) [] =
      .ok (groups RequiredAuthorizationUse.accountId (mergedRequirement accounts) uses) := by
  rw [foldlM_eq_ok_foldl fun requirements required hmem => addRequirement_of_mem (h required hmem),
    (grouping_mergedRequirement accounts).foldl_findOrInsert]

theorem coe_foldl_max_le_iff {m n : ℕ} {xs : List (Fin m)} {a : Fin m} :
    ((xs.foldl max a : Fin m) : ℕ) ≤ n ↔ (a : ℕ) ≤ n ∧ ∀ x ∈ xs, (x : ℕ) ≤ n := by
  induction xs generalizing a with
  | nil => simp
  | cons x xs ih => simp [ih, and_assoc]

/-- The merged weight is reached exactly when the weight of every use is. -/
theorem requiredWeight_mergedRequirement_le {id : String} {n : ℕ} :
    ((mergedRequirement accounts id uses).requiredWeight : ℕ) ≤ n ↔
      ∀ required ∈ uses, (useWeight accounts required : ℕ) ≤ n := by
  simp [mergedRequirement, coe_foldl_max_le_iff]

/-- A set satisfies the merged requirements exactly when it satisfies every use. -/
theorem groups_mergedRequirement_satisfied_iff {available : BTreeSet LedgerSignerCondition} :
    (∀ requirement ∈ groups RequiredAuthorizationUse.accountId (mergedRequirement accounts) uses,
        (requirement.requiredWeight : ℕ) ≤ requirement.availableWeight available) ↔
      ∀ required ∈ uses, (useWeight accounts required : ℕ) ≤
        signerWeight (accounts.account required.accountId).signers available := by
  simp only [groups, List.forall_mem_map, requiredWeight_mergedRequirement_le, List.mem_filter,
    List.mem_eraseDups, decide_eq_true_eq]
  constructor
  · exact fun h required hmem => h required hmem required ⟨hmem, rfl⟩
  · rintro h first - required ⟨hmem, hsame⟩
    have hweight := h required hmem
    rw [hsame] at hweight
    exact hweight

end Grouping

/-! ### The account index -/

section AccountIndex

variable {accounts : List LedgerAccountAuthorization} {index : AccountIndex}
variable {account : LedgerAccountAuthorization} {id : String}

/-- Accounts with pairwise different ids are indexed without loss. -/
theorem foldlM_insertAccount (index : AccountIndex) (hnodup : (accounts.map (·.accountId)).Nodup)
    (hfresh : ∀ account ∈ accounts, account.accountId ∉ index) :
    ∃ index', accounts.foldlM insertAccount index = .ok index' ∧
      ∀ id account, index'[id]? = some account ↔
        index[id]? = some account ∨ account ∈ accounts ∧ account.accountId = id := by
  induction accounts generalizing index with
  | nil => exact ⟨index, rfl, by simp⟩
  | cons a accounts ih =>
    rw [List.map_cons, List.nodup_cons] at hnodup
    have ha := hfresh a List.mem_cons_self
    -- the remaining identifiers are fresh after this one is inserted
    have hrest : ∀ account ∈ accounts, account.accountId ∉ index.insert a.accountId a := by
      intro account hmem
      have hne : a.accountId ≠ account.accountId := fun heq =>
        hnodup.1 (heq ▸ List.mem_map_of_mem hmem)
      rw [Std.ExtTreeMap.mem_insert, Std.LawfulEqCmp.compare_eq_iff_eq, not_or]
      exact ⟨hne, hfresh account (List.mem_cons_of_mem _ hmem)⟩
    obtain ⟨index', hfold, hget⟩ := ih _ hnodup.2 hrest
    refine ⟨index', ?_, fun id account => ?_⟩
    · simpa [insertAccount, ensure, ha] using hfold
    · rw [hget, Std.ExtTreeMap.getElem?_insert]
      by_cases hid : a.accountId = id
      · subst hid
        have hnone : index[a.accountId]? = none := Std.ExtTreeMap.getElem?_eq_none ha
        simp only [Std.LawfulEqCmp.compare_eq_iff_eq, if_true, hnone, Option.some_inj,
          List.mem_cons]
        grind
      · simp only [Std.LawfulEqCmp.compare_eq_iff_eq, if_neg hid, List.mem_cons]
        grind

theorem AccountIndex.account_of_getElem? (h : index[id]? = some account) :
    id ∈ index ∧ index.account id = account := by
  refine ⟨Std.ExtTreeMap.mem_iff_isSome_getElem?.mpr (by simp [h]), ?_⟩
  rw [AccountIndex.account, Std.ExtTreeMap.getD_eq_getD_getElem?, h, Option.getD_some]

end AccountIndex

/-! ### The uses of a transaction -/

/-- A use of a source account, by the account's key. -/
structure SourceUse where
  account : Uint256
  scope : AuthorizationScope
  threshold : AuthorizationThreshold
  deriving DecidableEq, Repr

def SourceUse.required (strKey : StrKey) (use : SourceUse) : RequiredAuthorizationUse :=
  ⟨strKey.publicKey use.account, use.scope, use.threshold⟩

/-- The account that authorizes an operation. -/
def Transaction.operationAccount (tx : Transaction) (operation : Operation) : Uint256 :=
  (operation.sourceAccount.getD tx.sourceAccount).accountKey

/-- The use an operation makes of its source, if its family is supported. -/
def Transaction.operationUse? (tx : Transaction) (indexed : Operation × ℕ) : Option SourceUse :=
  (operationAuthorization indexed.1.body).map fun (kind, threshold) =>
    ⟨tx.operationAccount indexed.1, .operation indexed.2 kind, threshold⟩

/-- The uses the ledger makes of the sources: the transaction's own at the low
threshold, then one for every operation, in order. -/
def sourceUses (tx : Transaction) : List SourceUse :=
  ⟨tx.sourceAccount.accountKey, .transactionSource, .low⟩ ::
    tx.operations.zipIdx.filterMap tx.operationUse?

def Transaction.Supported (tx : Transaction) : Prop :=
  ∀ operation ∈ tx.operations, (operationAuthorization operation.body).isSome = true

instance (tx : Transaction) : Decidable tx.Supported := by
  unfold Transaction.Supported
  infer_instance

variable {strKey : StrKey} {tx : Transaction} {signatures : List DecoratedSignature}

theorem operationUses_of_supported (index : ℕ) {operations : List Operation}
    (h : ∀ operation ∈ operations, (operationAuthorization operation.body).isSome = true) :
    operationUses strKey (authorizationAccountId strKey tx.sourceAccount) index operations =
      .ok (((operations.zipIdx index).filterMap tx.operationUse?).map
        (SourceUse.required strKey)) := by
  induction operations generalizing index with
  | nil => rfl
  | cons operation operations ih =>
    have hrest := ih (index + 1) fun o ho => h o (List.mem_cons_of_mem _ ho)
    obtain ⟨⟨kind, threshold⟩, hauth⟩ :=
      Option.isSome_iff_exists.mp (h operation List.mem_cons_self)
    have hsource : (operation.sourceAccount.map (authorizationAccountId strKey)).getD
        (authorizationAccountId strKey tx.sourceAccount) =
          strKey.publicKey (tx.operationAccount operation) := by
      cases hop : operation.sourceAccount <;>
        simp [authorizationAccountId, Transaction.operationAccount, hop]
    simp [operationUses, hauth, hrest, hsource, okOr, Transaction.operationUse?,
      SourceUse.required]

theorem classicAuthorizationUses_of_supported (h : tx.Supported) :
    classicAuthorizationUses strKey (.tx tx signatures) =
      .ok ((sourceUses tx).map (SourceUse.required strKey)) := by
  simp only [classicAuthorizationUses, requireTransaction, ok_bind, operationUses_of_supported 0 h]
  rfl

theorem condition_injective (strKey : StrKey) :
    Function.Injective (SignerKey.condition strKey) := fun _ _ h =>
  strKey.signerKey_injective (congrArg LedgerSignerCondition.key h)

/-- Distinct extra signers are collected without loss. -/
theorem foldlM_insertExtraSigner (strKey : StrKey) (conditions : BTreeSet LedgerSignerCondition)
    {signers : List SignerKey} (hnodup : signers.Nodup)
    (hfresh : ∀ signer ∈ signers, signer.condition strKey ∉ conditions) :
    ∃ conditions', signers.foldlM (insertExtraSigner strKey) conditions = .ok conditions' ∧
      ∀ c, c ∈ conditions' ↔ c ∈ conditions ∨ ∃ signer ∈ signers, signer.condition strKey = c := by
  induction signers generalizing conditions with
  | nil => exact ⟨conditions, rfl, by simp⟩
  | cons signer signers ih =>
    obtain ⟨hnot, hnodup⟩ := List.nodup_cons.mp hnodup
    have hsigner := hfresh signer List.mem_cons_self
    have hrest : ∀ other ∈ signers,
        other.condition strKey ∉ conditions.insert (signer.condition strKey) := by
      intro other hother
      rw [BTreeSet.mem_insert_iff, not_or]
      refine ⟨fun heq => hnot ?_, hfresh other (List.mem_cons_of_mem _ hother)⟩
      exact condition_injective strKey heq ▸ hother
    obtain ⟨conditions', hfold, hmem⟩ := ih _ hnodup hrest
    refine ⟨conditions', ?_, fun c => ?_⟩
    · simpa [insertExtraSigner, ensure, hsigner] using hfold
    · rw [hmem, BTreeSet.mem_insert_iff, List.exists_mem_cons_iff, eq_comm (a := c)]
      tauto

/-! ### The merged plan -/

/-- The plan has one requirement for each source account, in the order of first
use, made of exactly the uses of that account; and a set of conditions satisfies
it exactly when it holds every extra signer and reaches the weight of every single
use. -/
theorem planClassicLedgerAuthorization_merges (strKey : StrKey) (tx : Transaction)
    (signatures : List DecoratedSignature) (accounts : List LedgerAccountAuthorization)
    (hsupported : tx.Supported)
    (hdistinct : (accounts.map (·.accountId)).Nodup)
    (hcover : ∀ use ∈ sourceUses tx, ∃ account ∈ accounts,
      account.accountId = strKey.publicKey use.account)
    (hextra : tx.extraSigners.Nodup) :
    ∃ plan, planClassicLedgerAuthorization strKey (.tx tx signatures) accounts = .ok plan ∧
      plan.requirements.map (·.accountId) =
        ((sourceUses tx).map (·.account)).eraseDups.map strKey.publicKey ∧
      (∀ requirement ∈ plan.requirements, ∀ account ∈ accounts, ∀ source,
        requirement.accountId = account.accountId →
        account.accountId = strKey.publicKey source →
        requirement.signers = account.signers ∧
        requirement.uses = ((sourceUses tx).filter fun use => use.account = source).map
          fun use => ⟨use.scope, use.threshold, account.requiredWeight use.threshold⟩) ∧
      ∀ available, plan.isSatisfiableBy available = true ↔
        (∀ signer ∈ tx.extraSigners, signer.condition strKey ∈ available) ∧
        ∀ use ∈ sourceUses tx, ∀ account ∈ accounts,
          account.accountId = strKey.publicKey use.account →
          max 1 (account.requiredWeight use.threshold : ℕ) ≤
            signerWeight account.signers available := by
  obtain ⟨index, hindex, hget⟩ := foldlM_insertAccount ∅ hdistinct (by simp)
  obtain ⟨conditions, hconditions, hmem⟩ :=
    foldlM_insertExtraSigner strKey ∅ hextra (by simp)
  -- an account is found under its own id, as the ids are distinct
  have haccount : ∀ account ∈ accounts, account.accountId ∈ index ∧
      index.account account.accountId = account := fun account hmem =>
    AccountIndex.account_of_getElem? ((hget _ _).mpr (Or.inr ⟨hmem, rfl⟩))
  have hcovered : ∀ required ∈ (sourceUses tx).map (SourceUse.required strKey),
      required.accountId ∈ index := by
    refine List.forall_mem_map.mpr fun use huse => ?_
    obtain ⟨account, hmem, hid⟩ := hcover use huse
    exact (hid ▸ (haccount account hmem).1 : strKey.publicKey use.account ∈ index)
  refine ⟨⟨groups RequiredAuthorizationUse.accountId (mergedRequirement index)
    ((sourceUses tx).map (SourceUse.required strKey)), conditions⟩, ?_, ?_, ?_, ?_⟩
  · simp only [planClassicLedgerAuthorization, classicAuthorizationUses_of_supported hsupported,
      extraSignerConditions, requireTransaction, ok_bind, hconditions, hindex,
      foldlM_addRequirement hcovered]
    rfl
  · rw [(grouping_mergedRequirement index).map_keyOf_groups, List.map_map,
      ← eraseDups_map_of_injective strKey.publicKey_injective, List.map_map]
    rfl
  -- the uses of a requirement are those of its account: a key prints as one address
  · intro requirement hreq account hacc source hid hsource
    obtain ⟨id, -, rfl⟩ := List.mem_map.mp hreq
    obtain rfl : id = account.accountId := hid
    refine ⟨congrArg LedgerAccountAuthorization.signers (haccount account hacc).2, ?_⟩
    have hfilter : ∀ use : SourceUse,
        (use.required strKey).accountId = account.accountId ↔ use.account = source := fun use =>
      ⟨fun h => strKey.publicKey_injective (h.trans hsource), fun h => by rw [hsource, ← h]; rfl⟩
    simp only [mergedRequirement, List.filter_map, List.map_map, Function.comp_def, hfilter]
    refine List.map_congr_left fun use huse => ?_
    have hsame := (hfilter use).mpr (by simpa using (List.mem_filter.mp huse).2)
    rw [authorizationUse, hsame, (haccount account hacc).2]
    rfl
  -- the greatest weight of a group is reached when every weight in it is
  · intro available
    rw [LedgerAuthorizationPlan.isSatisfiableBy_iff, groups_mergedRequirement_satisfied_iff]
    refine and_congr (by simp [hmem]) ?_
    rw [List.forall_mem_map]
    refine forall₂_congr fun use huse => ?_
    have hweight : ∀ account ∈ accounts, account.accountId = strKey.publicKey use.account →
        index.account (use.required strKey).accountId = account := fun account hacc hid =>
      (congrArg index.account hid.symm).trans (haccount account hacc).2
    constructor
    · intro h account hacc hid
      rw [useWeight, hweight account hacc hid] at h
      simpa [effectiveWeight, max_comm, SourceUse.required] using h
    · intro h
      obtain ⟨account, hacc, hid⟩ := hcover use huse
      rw [useWeight, hweight account hacc hid]
      simpa [effectiveWeight, max_comm, SourceUse.required] using h account hacc hid

/-- A transaction of a muxed source, with one operation of its own and one of
another account. -/
def twoSourceTransaction : Transaction where
  sourceAccount := .muxedEd25519 (.lit 7) (Vector.replicate 32 0)
  fee := .lit 200
  seqNum := .lit 1
  cond := .none
  memo := .none
  operations :=
    [⟨none, .payment (.ed25519 (Vector.replicate 32 1)) .native (.lit 5)⟩,
      ⟨some (.ed25519 (Vector.replicate 32 1)), .bumpSequence (.lit 9)⟩]
  ext := .v0

/-- Two accounts that each have their own key as the only signer; the second one's
thresholds are zero. -/
def twoSourceAccounts : List LedgerAccountAuthorization :=
  let account (key : Uint256) (threshold : Fin 256) : LedgerAccountAuthorization :=
    ⟨Sep23.strKey.publicKey key, threshold, threshold, threshold,
      [⟨.ed25519 (Sep23.strKey.publicKey key), 1⟩]⟩
  [account (Vector.replicate 32 0) 1, account (Vector.replicate 32 1) 0]

theorem planClassicLedgerAuthorization_merges_twoSource :
    ∃ plan, planClassicLedgerAuthorization Sep23.strKey (.tx twoSourceTransaction [])
        twoSourceAccounts = .ok plan ∧
      plan.requirements.map (·.accountId) =
        ["GAAAAAAAAAAAAAAAAAAAAAAAAAAAAAAAAAAAAAAAAAAAAAAAAAAAAWHF",
          Sep23.strKey.publicKey (Vector.replicate 32 1)] := by
  obtain ⟨plan, hplan, haccounts, -, -⟩ := planClassicLedgerAuthorization_merges Sep23.strKey
    twoSourceTransaction [] twoSourceAccounts (by decide) (by decide +kernel)
    (by decide +kernel) (by decide)
  exact ⟨plan, hplan, haccounts.trans (by decide +kernel)⟩

end Fresnica
