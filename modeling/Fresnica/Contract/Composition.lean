import Fresnica.Contract.Spec
import Fresnica.Foundation.PathSearch

/-!
# Composition of contract inputs

An interface says for each input how it can be composed: as typed JSON, as the JSON of a
contract value, as encoded XDR, or not at all. The gate before normalization refuses the
types whose values cannot be shown. Both go through a type and the types it defines, and
cut cycles at the types on their way.

## Main definitions

* `contractInputComposition` — how an input can be composed
* `ensureContractTypeNormalizationSafe` — the gate
* `typeGraph` — the types that a value of a type may hold

## Main results

* `composition_searches`, `normalizationSafe_searches` — both search the graph of the types
* `composition_unsupported_iff` — what is not supported is what the gate refuses
-/

namespace Fresnica.Contract

open Foundation

/-- How an input can be composed. -/
inductive ContractInputComposition
  | typedJson
  | dynamicScValJson
  | scValXdrSuccessOnly
  | unsupported
  deriving DecidableEq, Repr

open ContractInputComposition

def mergeInputComposition : (left right : ContractInputComposition) → ContractInputComposition
  | unsupported, _ | _, unsupported => unsupported
  | scValXdrSuccessOnly, _ | _, scValXdrSuccessOnly => scValXdrSuccessOnly
  | dynamicScValJson, _ | _, dynamicScValJson => dynamicScValJson
  | typedJson, typedJson => typedJson

/-- The entries that are not on the way yet. -/
def unvisited (spec : Spec) (visited : List String) : ℕ :=
  (spec.entries.filter fun entry => spec.text entry.name ∉ visited).length

theorem unvisited_lt {spec : Spec} {visited : List String} {typeName : String}
    {entry : ScSpecEntry} (hnew : typeName ∉ visited) (hfind : spec.find typeName = .ok entry) :
    unvisited spec (typeName :: visited) < unvisited spec visited := by
  have hname := spec.name_of_find hfind
  have hsplit : ∀ entry : ScSpecEntry, decide (spec.text entry.name ∉ typeName :: visited) =
      (decide (spec.text entry.name ≠ typeName) && decide (spec.text entry.name ∉ visited)) := by
    intro entry
    simp
  unfold unvisited
  rw [List.filter_congr fun entry _ => hsplit entry, ← List.filter_filter]
  apply List.length_filter_lt_length_iff_exists.mpr
  refine ⟨entry, List.mem_filter.mpr ⟨spec.mem_of_find hfind, ?_⟩, ?_⟩
  · rw [hname]
    exact decide_eq_true hnew
  · rw [hname]
    simp

def contractInputComposition (spec : Spec) (typeDef : ScSpecTypeDef) (visitedUdts : List String) :
    ContractInputComposition :=
  match typeDef with
  | .val => dynamicScValJson
  | .error => unsupported
  | .result okType _ =>
    if contractInputComposition spec okType visitedUdts = unsupported then unsupported
    else scValXdrSuccessOnly
  | .option valueType => contractInputComposition spec valueType visitedUdts
  | .vec elementType => contractInputComposition spec elementType visitedUdts
  | .map keyType valueType =>
    mergeInputComposition (contractInputComposition spec keyType visitedUdts)
      (contractInputComposition spec valueType visitedUdts)
  | .tuple valueTypes =>
    valueTypes.foldl (fun support value =>
      mergeInputComposition support (contractInputComposition spec value visitedUdts)) typedJson
  | .udt name =>
    let typeName := spec.text name
    -- a type on the way to itself is composed where it was first met
    if _ : typeName ∈ visitedUdts then typedJson
    else
      match _ : spec.find typeName with
      | .ok (.udtStructV0 struct) =>
        if (contractStructIsTuple spec struct).isOk then
          struct.fields.foldl (fun support field => mergeInputComposition support
            (contractInputComposition spec field.type (typeName :: visitedUdts))) typedJson
        else unsupported
      | .ok (.udtUnionV0 union) =>
        union.cases.foldl (fun support case => mergeInputComposition support
          (case.types.foldl (fun support value => mergeInputComposition support
            (contractInputComposition spec value (typeName :: visitedUdts))) typedJson)) typedJson
      | .ok (.udtEnumV0 _) => typedJson
      | .ok _ | .error _ => unsupported
  | _ => typedJson
termination_by (unvisited spec visitedUdts, sizeOf typeDef)
decreasing_by
  -- a part of the type, and then the types of an entry that was not on the way
  iterate 6 (apply Prod.Lex.right; decreasing_trivial)
  all_goals exact Prod.Lex.left _ _ (unvisited_lt (by assumption) (by assumption))

/-- The gate before a value is normalized. -/
def ensureContractTypeNormalizationSafe (spec : Spec) (typeDef : ScSpecTypeDef)
    (visitedUdts : List String) : Except String Unit :=
  match typeDef with
  | .option valueType => ensureContractTypeNormalizationSafe spec valueType visitedUdts
  | .result okType _ => ensureContractTypeNormalizationSafe spec okType visitedUdts
  | .vec elementType => ensureContractTypeNormalizationSafe spec elementType visitedUdts
  | .map keyType valueType => do
    ensureContractTypeNormalizationSafe spec keyType visitedUdts
    ensureContractTypeNormalizationSafe spec valueType visitedUdts
  | .tuple valueTypes => do
    for valueType in valueTypes do
      ensureContractTypeNormalizationSafe spec valueType visitedUdts
  | .error =>
    .error "Contract Spec Error values cannot be safely normalized as ordinary contract values"
  | .udt name => do
    let typeName := spec.text name
    if _ : typeName ∈ visitedUdts then return ()
    else
      match _ : spec.find typeName with
      | .error error => .error s!"unable to resolve user-defined type {typeName}: {error}"
      | .ok (.udtStructV0 struct) =>
        let _ ← contractStructIsTuple spec struct
        for field in struct.fields do
          ensureContractTypeNormalizationSafe spec field.type (typeName :: visitedUdts)
      | .ok (.udtUnionV0 union) =>
        for case in union.cases do
          for valueType in case.types do
            ensureContractTypeNormalizationSafe spec valueType (typeName :: visitedUdts)
      | .ok (.udtEnumV0 _) => return ()
      | .ok (.udtErrorEnumV0 _) =>
        .error s!"error enum {typeName} cannot be safely normalized as an ordinary contract value"
      | .ok _ => .error s!"Contract Spec entry {typeName} is not a user-defined value type"
  | _ => .ok ()
termination_by (unvisited spec visitedUdts, sizeOf typeDef)
decreasing_by
  -- a part of the type, and then the types of an entry that was not on the way
  iterate 6 (apply Prod.Lex.right; decreasing_trivial)
  all_goals exact Prod.Lex.left _ _ (unvisited_lt (by assumption) (by assumption))

/-! ### The types that a value may hold -/

/-- From what can be composed by hand to what cannot be composed. -/
def ContractInputComposition.rank : ContractInputComposition → ℕ
  | typedJson => 0
  | dynamicScValJson => 1
  | scValXdrSuccessOnly => 2
  | unsupported => 3

theorem rank_eq_zero_iff {c : ContractInputComposition} : c.rank ≤ 0 ↔ c = typedJson := by
  cases c <;> decide

theorem rank_le_two_iff {c : ContractInputComposition} : c.rank ≤ 2 ↔ c ≠ unsupported := by
  cases c <;> decide

theorem rank_merge (a b : ContractInputComposition) :
    (mergeInputComposition a b).rank = max a.rank b.rank := by
  cases a <;> cases b <;> rfl

/-- Merging in turn keeps the worst. -/
theorem rank_foldl_merge {α : Type} {f : α → ContractInputComposition} {xs : List α}
    {c : ContractInputComposition} {n : ℕ} :
    (xs.foldl (fun support x => mergeInputComposition support (f x)) c).rank ≤ n ↔
      c.rank ≤ n ∧ ∀ x ∈ xs, (f x).rank ≤ n := by
  induction xs generalizing c with
  | nil => simp
  | cons x xs ih =>
    rw [List.foldl_cons, ih, rank_merge, max_le_iff, List.forall_mem_cons, and_assoc]

/-- The types an entry is made of. -/
def ScSpecEntry.valueTypes : ScSpecEntry → List ScSpecTypeDef
  | .udtStructV0 struct => struct.fields.map (·.type)
  | .udtUnionV0 union => union.cases.flatMap (·.types)
  | _ => []

/-- The entry is a type of values, and if it is a struct its fields are canonical. -/
def ScSpecEntry.IsValueType (spec : Spec) : ScSpecEntry → Prop
  | .udtStructV0 struct => (contractStructIsTuple spec struct).isOk
  | .udtUnionV0 _ | .udtEnumV0 _ => True
  | _ => False

/-- The types that a value of a type is made of. The dynamic and the fallible ones are
good up to the rank they have. -/
def typeGraph (spec : Spec) (n : ℕ) : KeyedGraph ScSpecTypeDef String where
  next
    | .option valueType => [valueType]
    | .result okType _ => [okType]
    | .vec elementType => [elementType]
    | .map keyType valueType => [keyType, valueType]
    | .tuple valueTypes => valueTypes
    | .udt name =>
      match spec.find (spec.text name) with
      | .ok entry => entry.valueTypes
      | .error _ => []
    | _ => []
  key
    | .udt name => some (spec.text name)
    | _ => none
  good
    | .val => dynamicScValJson.rank ≤ n
    | .error => unsupported.rank ≤ n
    | .result _ _ => scValXdrSuccessOnly.rank ≤ n
    | .udt name => ∃ entry, spec.find (spec.text name) = .ok entry ∧ entry.IsValueType spec
    | _ => True
  next_eq := by
    intro a b k ha hb
    cases a <;> cases b <;> simp_all
  good_of := by
    intro a b k ha hb
    cases a <;> cases b <;> simp_all

variable {spec : Spec} {n : ℕ} {typeDef : ScSpecTypeDef} {visited : List String}

theorem onPath_udt {name : List UInt8} :
    (typeGraph spec n).OnPath visited (.udt name) ↔ spec.text name ∈ visited := by
  constructor
  · rintro ⟨typeName, hmem, hkey⟩
    obtain rfl := Option.some.inj hkey
    exact hmem
  · intro hmem
    exact ⟨_, hmem, rfl⟩

theorem not_onPath (h : (typeGraph spec n).key typeDef = none) :
    ¬ (typeGraph spec n).OnPath visited typeDef := by
  rintro ⟨typeName, -, hkey⟩
  rw [h] at hkey
  cases hkey

/-- A search through the types ends. -/
theorem wellFounded_descends : WellFounded (typeGraph spec n).Descends := by
  apply Subrelation.wf _ (InvImage.wf (fun state : List String × ScSpecTypeDef =>
    (unvisited spec state.1, sizeOf state.2)) (wellFounded_lt.prod_lex wellFounded_lt))
  rintro ⟨_, after⟩ ⟨visited, typeDef⟩ ⟨hnext, rfl, hnew⟩
  -- a type of its own takes one name off the unvisited ones; any other has smaller parts
  cases typeDef with
  | udt name =>
    apply Prod.Lex.left
    rw [onPath_udt] at hnew
    cases hfind : spec.find (spec.text name) with
    | ok entry => exact unvisited_lt hnew hfind
    | error error => simp [typeGraph, hfind] at hnext
  | tuple valueTypes =>
    apply Prod.Lex.right
    have hmem : sizeOf after < sizeOf valueTypes := List.sizeOf_lt_of_mem hnext
    have htuple : sizeOf valueTypes < sizeOf (ScSpecTypeDef.tuple valueTypes) := by simp
    exact hmem.trans htuple
  | map keyType valueType =>
    apply Prod.Lex.right
    change sizeOf after < 1 + sizeOf keyType + sizeOf valueType
    have hpair : after = keyType ∨ after = valueType := by simpa [typeGraph] using hnext
    rcases hpair with rfl | rfl <;> omega
  | option valueType | vec valueType =>
    apply Prod.Lex.right
    obtain rfl : after = valueType := by simpa [typeGraph] using hnext
    change sizeOf after < 1 + sizeOf after
    omega
  | result okType errorType =>
    apply Prod.Lex.right
    obtain rfl : after = okType := by simpa [typeGraph] using hnext
    change sizeOf after < 1 + sizeOf after + sizeOf errorType
    omega
  | _ => simp [typeGraph] at hnext

/-- The composition is a search for types up to a rank. -/
theorem composition_searches (hn : n < unsupported.rank) :
    (typeGraph spec n).Searches fun visited typeDef =>
      (contractInputComposition spec typeDef visited).rank ≤ n := by
  intro visited typeDef
  beta_reduce
  have hunsupported : ¬ unsupported.rank ≤ n := not_le_of_gt hn
  have htyped : typedJson.rank ≤ n := Nat.zero_le n
  cases typeDef with
  | udt name =>
    rw [onPath_udt, contractInputComposition]
    by_cases hvisited : spec.text name ∈ visited
    · simp only [hvisited, dite_true, true_or, iff_true]
      exact htyped
    simp only [hvisited, dite_false, false_or]
    -- each kind of entry is its own case of both sides
    split <;> rename_i hfind
    · rename_i struct
      by_cases hcanonical : (contractStructIsTuple spec struct).isOk
      · simp [typeGraph, KeyedGraph.enter, hfind, ScSpecEntry.IsValueType,
          ScSpecEntry.valueTypes, hcanonical, htyped, rank_foldl_merge]
      · simp [typeGraph, hfind, ScSpecEntry.IsValueType, hcanonical, hunsupported]
    · simp [typeGraph, KeyedGraph.enter, hfind, ScSpecEntry.IsValueType,
        ScSpecEntry.valueTypes, List.forall_mem_flatMap, htyped, rank_foldl_merge,
        -List.mem_flatMap]
    all_goals simp [typeGraph, hfind, ScSpecEntry.IsValueType, ScSpecEntry.valueTypes, htyped,
      hunsupported]
  | result okType errorType =>
    rw [or_iff_right (not_onPath rfl), contractInputComposition]
    simp only [typeGraph, KeyedGraph.enter, Option.elim_none, List.mem_singleton, forall_eq]
    by_cases hok : contractInputComposition spec okType visited = unsupported
    · simp [hok, hunsupported]
    · rw [if_neg hok, iff_self_and]
      intro hle
      exact (rank_le_two_iff.mpr hok).trans hle
  | option | vec | map | tuple =>
    rw [or_iff_right (not_onPath rfl), contractInputComposition]
    simp [typeGraph, KeyedGraph.enter, rank_merge, rank_foldl_merge, htyped]
  | val | error =>
    rw [or_iff_right (not_onPath rfl), contractInputComposition]
    simp [typeGraph]
  | _ =>
    rw [or_iff_right (not_onPath rfl), contractInputComposition]
    · simpa [typeGraph] using htyped
    all_goals simp

/-- The gate is a search for what is not supported. -/
theorem normalizationSafe_searches :
    (typeGraph spec 2).Searches fun visited typeDef =>
      ensureContractTypeNormalizationSafe spec typeDef visited = .ok () := by
  intro visited typeDef
  beta_reduce
  cases typeDef with
  | udt name =>
    rw [onPath_udt, ensureContractTypeNormalizationSafe]
    by_cases hvisited : spec.text name ∈ visited
    · simp only [hvisited, dite_true, true_or, iff_true]
      rfl
    simp only [hvisited, dite_false, false_or]
    -- each kind of entry is its own case of both sides
    split <;> rename_i hfind
    · simp [typeGraph, hfind]
    · rename_i struct
      cases hcanonical : contractStructIsTuple spec struct with
      | error error =>
        simp [typeGraph, hfind, ScSpecEntry.IsValueType, hcanonical, Except.isOk, Except.toBool]
      | ok isTuple =>
        rw [ok_bind, unit_bind_eq_ok, forIn_eq_ok]
        simp [typeGraph, KeyedGraph.enter, hfind, ScSpecEntry.IsValueType, ScSpecEntry.valueTypes,
          hcanonical, Except.isOk, Except.toBool]
    · simp only [unit_bind_eq_ok, forIn_eq_ok]
      simp [typeGraph, KeyedGraph.enter, hfind, ScSpecEntry.IsValueType,
        ScSpecEntry.valueTypes, List.forall_mem_flatMap, -List.mem_flatMap]
    · simp [typeGraph, hfind, ScSpecEntry.IsValueType, ScSpecEntry.valueTypes]
    · simp [typeGraph, hfind, ScSpecEntry.IsValueType]
    · rename_i entry _ _ _ _
      cases entry <;> simp_all [typeGraph, ScSpecEntry.IsValueType]
  | tuple valueTypes =>
    rw [or_iff_right (not_onPath rfl), ensureContractTypeNormalizationSafe, unit_bind_eq_ok,
      forIn_eq_ok]
    simp [typeGraph, KeyedGraph.enter]
  | option | vec | map | result =>
    rw [or_iff_right (not_onPath rfl), ensureContractTypeNormalizationSafe]
    simp [typeGraph, KeyedGraph.enter, unit_bind_eq_ok, ContractInputComposition.rank]
  | error =>
    rw [or_iff_right (not_onPath rfl), ensureContractTypeNormalizationSafe]
    simp [typeGraph, ContractInputComposition.rank]
  | _ =>
    rw [or_iff_right (not_onPath rfl), ensureContractTypeNormalizationSafe]
    · simp [typeGraph, ContractInputComposition.rank]
    all_goals simp

/-- Up to a rank, an input can be composed when all the types in it are good. -/
theorem composition_le_iff (hn : n < unsupported.rank) :
    (contractInputComposition spec typeDef []).rank ≤ n ↔
      ∀ b, Relation.ReflTransGen (typeGraph spec n).Edge typeDef b → (typeGraph spec n).good b :=
  KeyedGraph.accepts_iff (composition_searches hn) wellFounded_descends

theorem normalizationSafe_iff :
    ensureContractTypeNormalizationSafe spec typeDef [] = .ok () ↔
      ∀ b, Relation.ReflTransGen (typeGraph spec 2).Edge typeDef b → (typeGraph spec 2).good b :=
  KeyedGraph.accepts_iff normalizationSafe_searches wellFounded_descends

/-- What is not supported is what the gate refuses. -/
theorem composition_unsupported_iff :
    contractInputComposition spec typeDef [] = unsupported ↔
      ∃ e, ensureContractTypeNormalizationSafe spec typeDef [] = .error e := by
  have hsame : (contractInputComposition spec typeDef []).rank ≤ 2 ↔
      ensureContractTypeNormalizationSafe spec typeDef [] = .ok () :=
    (composition_le_iff (by decide)).trans normalizationSafe_iff.symm
  rw [rank_le_two_iff, ne_eq] at hsame
  rw [← ne_ok_iff_exists_error, ← not_iff_not, hsame, not_forall_not]
  exact ⟨fun h => ⟨(), h⟩, fun ⟨_, h⟩ => h⟩

end Fresnica.Contract
