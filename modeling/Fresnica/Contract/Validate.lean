import Fresnica.Contract.Composition
import Fresnica.Foundation.Json
import Mathlib.Data.List.Forall2
import Mathlib.Data.List.Nodup
import Mathlib.Data.List.Perm.Subperm
import Mathlib.Data.String.Basic

/-!
# Validation of contract values

A contract value is shown only after it was checked against its type in the spec. The
check goes down the value and the type together. A map is accepted for a struct when it
has as many entries as the struct has fields, and each key names a field; so its entries
may repeat a field, or come in another order than the one they are shown in.

## Main definitions

* `validateScvalAgainstType` — the check
* `contractArgumentReview`, `decodeSimulationOutput` — what is shown after it
* `Part` — the parts of a value, with their types
* `StructShape` — the entries of a map are the fields of a struct, in order

## Main results

* `validateStep_eq_ok` — a value is accepted when it fits, and its parts are accepted
* `structShape_iff` — the entries of an accepted map are the fields if the keys ascend
* `shown_shape_iff` — and so everywhere in a value that is shown
-/

namespace Fresnica.Contract

open Foundation

def contractArgumentXdrDepthLimit : ℕ := 500

/-- The encoding of an error of a contract, with its code. -/
def contractErrorXdr (code : U32) : List UInt8 :=
  [0, 0, 0, 0] ++ [16777216, 65536, 256, 1].map fun unit : ℕ =>
    UInt8.ofNat (code.val.toNat / unit)

/-- The scalars of the types that are not made of others. -/
def scalarMatches : ScSpecTypeDef → ScScalar → Bool
  | .bool, .bool _ => true
  | .void, .void => true
  | .error, .error _ => true
  | .u32, .u32 _ => true
  | .i32, .i32 _ => true
  | .u64, .u64 _ => true
  | .i64, .i64 _ => true
  | .timepoint, .timepoint _ => true
  | .duration, .duration _ => true
  | .u128, .u128 _ _ => true
  | .i128, .i128 _ _ => true
  | .u256, .u256 _ _ _ _ => true
  | .i256, .i256 _ _ _ _ => true
  | .bytes, .bytes _ => true
  | .bytesN n, .bytes bytes => bytes.length = n.val
  | .string, .string _ => true
  | .symbol, .symbol _ => true
  | .address, .address _ => true
  | .muxedAddress, .address _ => true
  | _, _ => false

/-- The text of a key that is a symbol. -/
def symbolText (spec : Spec) : ScVal → Option String
  | .symbol name => some (spec.text name)
  | _ => none

/-- The first field of the name. -/
def structField (spec : Spec) (struct : ScSpecUdtStructV0) (key : String) :
    Option ScSpecUdtStructFieldV0 :=
  struct.fields.find? fun field => spec.text field.name = key

/-- The check of a value at a type that an entry of the spec defines. -/
def validateEntry (spec : Spec) (validate : ScVal → ScSpecTypeDef → Except String Unit)
    (value : ScVal) (typeName : String) (mismatch : String) (entry : ScSpecEntry) :
    Except String Unit :=
  match entry with
  | .udtStructV0 struct =>
    if (fieldNames spec struct).head? = some "0" then
      match value with
      | .vec (some values) => do
        ensure (values.length = struct.fields.length)
          s!"tuple struct {typeName} requires {struct.fields.length} values but ScVal contains {values.length}"
        for pair in values.zip struct.fields do
          validate pair.1 pair.2.type
      | _ => .error mismatch
    else
      match value with
      | .map (some entries) => do
        ensure (entries.length = struct.fields.length)
          s!"struct {typeName} requires {struct.fields.length} fields but ScVal contains {entries.length}"
        for entry in entries do
          let key ← okOr (symbolText spec entry.1)
            s!"struct {typeName} contains a non-symbol field key"
          let field ← okOr (structField spec struct key)
            s!"unknown field {spec.debug key} for struct {typeName}"
          validate entry.2 field.type
      | _ => .error mismatch
  | .udtUnionV0 union =>
    match value with
    | .vec (some (.symbol name :: payload)) => do
      let caseName := spec.text name
      match ← unionCase spec union typeName caseName with
      | .voidV0 _ =>
        ensure (payload = [])
          s!"void case {spec.debug caseName} for union {typeName} contains an unexpected payload"
      | .tupleV0 _ types =>
        ensure (payload.length = types.length)
          s!"case {spec.debug caseName} for union {typeName} requires {types.length} payload values but ScVal contains {payload.length}"
        for pair in payload.zip types do
          validate pair.1 pair.2
    | .vec (some _) => .error s!"union {typeName} requires a symbol case discriminator"
    | _ => .error mismatch
  | .udtEnumV0 enum =>
    match value with
    | .scalar (.u32 code) => ensure (code ∈ enum.cases) mismatch
    | _ => .error mismatch
  | .udtErrorEnumV0 enum =>
    match value with
    | .scalar (.error encoded) =>
      ensure (∃ code ∈ enum.cases, encoded = contractErrorXdr code) mismatch
    | _ => .error mismatch
  | _ => .error s!"Contract Spec entry {typeName} is not a user-defined value type"

/-- The check of a value at a type, where `validate` checks its parts. -/
def validateStep (spec : Spec) (validate : ScVal → ScSpecTypeDef → Except String Unit)
    (value : ScVal) (typeDef : ScSpecTypeDef) : Except String Unit :=
  let mismatch := s!"ScVal does not match Contract Spec type {contractTypeName spec typeDef}"
  match typeDef with
  | .val => .ok ()
  | .option valueType =>
    match value with
    | .void => .ok ()
    | _ => validate value valueType
  | .result okType _ =>
    match value with
    | .scalar (.error _) =>
      .error "Result error values cannot be normalized as successful contract values"
    | _ => validate value okType
  | .vec elementType =>
    match value with
    | .vec (some values) => do
      for value in values do
        validate value elementType
    | _ => .error mismatch
  | .map keyType valueType =>
    match value with
    | .map (some entries) => do
      for entry in entries do
        validate entry.1 keyType
        validate entry.2 valueType
    | _ => .error mismatch
  | .tuple valueTypes =>
    match value with
    | .vec (some values) => do
      ensure (values.length = valueTypes.length) mismatch
      for pair in values.zip valueTypes do
        validate pair.1 pair.2
    | _ => .error mismatch
  | .udt name => do
    let typeName := spec.text name
    let entry ← mapErr (fun error => s!"unable to resolve user-defined type {typeName}: {error}")
      (spec.find typeName)
    validateEntry spec validate value typeName mismatch entry
  | typeDef =>
    match value with
    | .scalar scalar => ensure (scalarMatches typeDef scalar) mismatch
    | _ => .error mismatch

/-- The check of a value at a type, this deep in the value that is shown. -/
def validateScvalAgainstType (spec : Spec) (value : ScVal) (typeDef : ScSpecTypeDef)
    (depth : ℕ) : Except String Unit :=
  if depth > contractArgumentXdrDepthLimit then
    .error "contract value exceeds the supported nesting depth"
  else
    validateStep spec (fun value typeDef => validateScvalAgainstType spec value typeDef (depth + 1))
      value typeDef
termination_by contractArgumentXdrDepthLimit + 1 - depth

/-! ### Values that fit -/

variable {spec : Spec} {value : ScVal} {typeDef : ScSpecTypeDef} {depth : ℕ}

/-- The value has the outer shape of a type that the entry defines. -/
def FitsEntry (spec : Spec) (value : ScVal) : ScSpecEntry → Prop
  | .udtStructV0 struct =>
    if (fieldNames spec struct).head? = some "0" then
      ∃ values, value = .vec (some values) ∧ values.length = struct.fields.length
    else
      ∃ entries, value = .map (some entries) ∧ entries.length = struct.fields.length ∧
        ∀ entry ∈ entries, ∃ key ∈ fieldNames spec struct, symbolText spec entry.1 = some key
  | .udtUnionV0 union => ∃ name payload case,
      value = .vec (some (.symbol name :: payload)) ∧
        findCase spec union (spec.text name) = some case ∧ payload.length = case.types.length
  | .udtEnumV0 enum => ∃ code ∈ enum.cases, value = .scalar (.u32 code)
  | .udtErrorEnumV0 enum => ∃ code ∈ enum.cases, value = .scalar (.error (contractErrorXdr code))
  | _ => False

/-- The value has the outer shape of the type. -/
def Fits (spec : Spec) (value : ScVal) : ScSpecTypeDef → Prop
  | .val | .option _ => True
  | .result _ _ => ∀ encoded, value ≠ .scalar (.error encoded)
  | .vec _ => ∃ values, value = .vec (some values)
  | .map _ _ => ∃ entries, value = .map (some entries)
  | .tuple valueTypes => ∃ values, value = .vec (some values) ∧ values.length = valueTypes.length
  | .udt name => ∃ entry, spec.find (spec.text name) = .ok entry ∧ FitsEntry spec value entry
  | typeDef => ∃ scalar, value = .scalar scalar ∧ scalarMatches typeDef scalar

/-- The parts of a value of a type that an entry defines, with their types. -/
inductive EntryPart (spec : Spec) : ScSpecEntry → ScVal → ScSpecTypeDef → ScVal → Prop
  | tupleStruct {struct values field part}
      (htuple : (fieldNames spec struct).head? = some "0")
      (hpart : (part, field) ∈ values.zip struct.fields) :
      EntryPart spec (.udtStructV0 struct) (.vec (some values)) field.type part
  | namedStruct {struct entries entry field key}
      (hnamed : (fieldNames spec struct).head? ≠ some "0") (hentry : entry ∈ entries)
      (hkey : symbolText spec entry.1 = some key)
      (hfield : structField spec struct key = some field) :
      EntryPart spec (.udtStructV0 struct) (.map (some entries)) field.type entry.2
  | union {union name payload case typeDef part}
      (hcase : findCase spec union (spec.text name) = some case)
      (hpart : (part, typeDef) ∈ payload.zip case.types) :
      EntryPart spec (.udtUnionV0 union) (.vec (some (.symbol name :: payload))) typeDef part

/-- The parts of a value, with their types. -/
inductive Part (spec : Spec) : ScSpecTypeDef × ScVal → ScSpecTypeDef × ScVal → Prop
  | option {valueType value} (h : value ≠ .void) :
      Part spec (.option valueType, value) (valueType, value)
  | result {okType errorType value} : Part spec (.result okType errorType, value) (okType, value)
  | vec {elementType values part} (h : part ∈ values) :
      Part spec (.vec elementType, .vec (some values)) (elementType, part)
  | mapKey {keyType valueType entries entry} (h : entry ∈ entries) :
      Part spec (.map keyType valueType, .map (some entries)) (keyType, entry.1)
  | mapValue {keyType valueType entries entry} (h : entry ∈ entries) :
      Part spec (.map keyType valueType, .map (some entries)) (valueType, entry.2)
  | tuple {valueTypes values typeDef part} (h : (part, typeDef) ∈ values.zip valueTypes) :
      Part spec (.tuple valueTypes, .vec (some values)) (typeDef, part)
  | udt {name entry value typeDef part} (hfind : spec.find (spec.text name) = .ok entry)
      (h : EntryPart spec entry value typeDef part) :
      Part spec (.udt name, value) (typeDef, part)

variable {validate : ScVal → ScSpecTypeDef → Except String Unit} {entry : ScSpecEntry}
  {typeName mismatch : String}

theorem structField_eq_some {struct : ScSpecUdtStructV0} {key : String}
    {field : ScSpecUdtStructFieldV0} (h : structField spec struct key = some field) :
    field ∈ struct.fields ∧ spec.text field.name = key := by
  have hname := List.find?_some h
  exact ⟨List.mem_of_find?_eq_some h, of_decide_eq_true hname⟩

theorem exists_structField {struct : ScSpecUdtStructV0} {key : String} :
    (∃ field, structField spec struct key = some field) ↔ key ∈ fieldNames spec struct := by
  rw [← Option.isSome_iff_exists, structField, List.find?_isSome, fieldNames, List.mem_map]
  simp

theorem error_iff {e : String} {p : Prop} (hp : ¬ p) :
    (.error e : Except String Unit) = .ok () ↔ p :=
  iff_of_false (by simp) hp

/-- A tuple struct accepts a vector with a value for each field. -/
theorem validateEntry_tupleStruct_eq_ok {struct : ScSpecUdtStructV0}
    (htuple : (fieldNames spec struct).head? = some "0") :
    validateEntry spec validate value typeName mismatch (.udtStructV0 struct) = .ok () ↔
      FitsEntry spec value (.udtStructV0 struct) ∧
        ∀ typeDef part, EntryPart spec (.udtStructV0 struct) value typeDef part →
          validate part typeDef = .ok () := by
  unfold validateEntry FitsEntry
  dsimp only
  rw [if_pos htuple, if_pos htuple]
  split
  · rename_i values
    rw [unit_bind_eq_ok, ensure_eq_ok, unit_bind_eq_ok, forIn_eq_ok]
    constructor
    · intro h
      refine ⟨⟨values, rfl, h.1⟩, ?_⟩
      intro typeDef part hpart
      cases hpart with
      | tupleStruct _ hmem => exact h.2.1 _ hmem
    · rintro ⟨⟨others, hothers, hlength⟩, h⟩
      obtain rfl := Option.some.inj (ScVal.vec.inj hothers)
      exact ⟨hlength, fun pair hpair => h _ _ (.tupleStruct htuple hpair), rfl⟩
  -- another value than a vector does not fit
  · rename_i hvec
    refine error_iff ?_
    rintro ⟨⟨values, h, -⟩, -⟩
    exact hvec values h

/-- Any other struct accepts a map whose keys are names of its fields. -/
theorem validateEntry_namedStruct_eq_ok {struct : ScSpecUdtStructV0}
    (hnamed : (fieldNames spec struct).head? ≠ some "0") :
    validateEntry spec validate value typeName mismatch (.udtStructV0 struct) = .ok () ↔
      FitsEntry spec value (.udtStructV0 struct) ∧
        ∀ typeDef part, EntryPart spec (.udtStructV0 struct) value typeDef part →
          validate part typeDef = .ok () := by
  unfold validateEntry FitsEntry
  dsimp only
  rw [if_neg hnamed, if_neg hnamed]
  split
  · rename_i entries
    rw [unit_bind_eq_ok, ensure_eq_ok, unit_bind_eq_ok]
    simp only [← bind_assoc]
    rw [forIn_eq_ok]
    simp only [bind_eq_ok, okOr_eq_ok]
    constructor
    · rintro ⟨hlength, hentries, -⟩
      refine ⟨⟨entries, rfl, hlength, fun entry hentry => ?_⟩, ?_⟩
      · obtain ⟨field, ⟨key, hkey, hfield⟩, -⟩ := hentries entry hentry
        exact ⟨key, exists_structField.mp ⟨field, hfield⟩, hkey⟩
      intro typeDef part hpart
      cases hpart with
      -- a key names one field, so the part is the value under it
      | namedStruct _ hentry hkey hfield =>
        obtain ⟨field', ⟨key', hkey', hfield'⟩, h⟩ := hentries _ hentry
        rw [hkey] at hkey'
        obtain rfl := Option.some.inj hkey'
        rw [hfield] at hfield'
        obtain rfl := Option.some.inj hfield'
        exact h
    · rintro ⟨⟨others, hothers, hlength, hkeys⟩, h⟩
      obtain rfl := Option.some.inj (ScVal.map.inj hothers)
      refine ⟨hlength, fun entry hentry => ?_, rfl⟩
      obtain ⟨key, hmem, hkey⟩ := hkeys entry hentry
      obtain ⟨field, hfield⟩ := exists_structField.mpr hmem
      exact ⟨field, ⟨key, hkey, hfield⟩, h _ _ (.namedStruct hnamed hentry hkey hfield)⟩
  · rename_i hmap
    refine error_iff ?_
    rintro ⟨⟨entries, h, -⟩, -⟩
    exact hmap entries h

/-- A union accepts a vector that names a case, and has a value for each of its types. -/
theorem validateEntry_union_eq_ok {union : ScSpecUdtUnionV0} :
    validateEntry spec validate value typeName mismatch (.udtUnionV0 union) = .ok () ↔
      FitsEntry spec value (.udtUnionV0 union) ∧
        ∀ typeDef part, EntryPart spec (.udtUnionV0 union) value typeDef part →
          validate part typeDef = .ok () := by
  unfold validateEntry FitsEntry
  dsimp only
  split
  · rename_i name payload
    -- for any case, the number of the values and then each of them is checked
    have hcase : ∀ case : ScSpecUdtUnionCaseV0,
        (match case with
          | .voidV0 _ => ensure (payload = [])
            s!"void case {spec.debug (spec.text name)} for union {typeName} contains an unexpected payload"
          | .tupleV0 _ types => do
            ensure (payload.length = types.length)
              s!"case {spec.debug (spec.text name)} for union {typeName} requires {types.length} payload values but ScVal contains {payload.length}"
            for pair in payload.zip types do
              validate pair.1 pair.2) = .ok () ↔
          payload.length = case.types.length ∧
            ∀ pair ∈ payload.zip case.types, validate pair.1 pair.2 = .ok () := by
      intro case
      cases case with
      | voidV0 _ => simp [ensure_eq_ok, ScSpecUdtUnionCaseV0.types]
      | tupleV0 _ types =>
        dsimp only
        rw [unit_bind_eq_ok, ensure_eq_ok, unit_bind_eq_ok, forIn_eq_ok]
        simp [ScSpecUdtUnionCaseV0.types]
    simp only [bind_eq_ok, unionCase, okOr_eq_ok, hcase]
    constructor
    · rintro ⟨case, hfind, hlength, hparts⟩
      refine ⟨⟨name, payload, case, rfl, hfind, hlength⟩, ?_⟩
      intro typeDef part hpart
      cases hpart with
      | union hother hmem =>
        rw [hfind] at hother
        obtain rfl := Option.some.inj hother
        exact hparts _ hmem
    · rintro ⟨⟨name', payload', case, hvalue, hfind, hlength⟩, h⟩
      obtain ⟨hname, rfl⟩ := List.cons.inj (Option.some.inj (ScVal.vec.inj hvalue))
      obtain rfl := ScScalar.symbol.inj (ScVal.scalar.inj hname)
      exact ⟨case, hfind, hlength, fun pair hpair => h _ _ (.union hfind hpair)⟩
  · rename_i hsymbol
    refine error_iff ?_
    rintro ⟨⟨name, payload, case, h, -⟩, -⟩
    exact hsymbol name payload (Option.some.inj (ScVal.vec.inj h))
  · rename_i hvec
    refine error_iff ?_
    rintro ⟨⟨name, payload, case, h, -⟩, -⟩
    exact hvec _ h

theorem validateEntry_enum_eq_ok {enum : ScSpecUdtEnumV0} :
    validateEntry spec validate value typeName mismatch (.udtEnumV0 enum) = .ok () ↔
      FitsEntry spec value (.udtEnumV0 enum) ∧
        ∀ typeDef part, EntryPart spec (.udtEnumV0 enum) value typeDef part →
          validate part typeDef = .ok () := by
  unfold validateEntry FitsEntry
  dsimp only
  split
  · rename_i code
    rw [ensure_eq_ok]
    constructor
    · intro h
      refine ⟨⟨code, h, rfl⟩, ?_⟩
      intro typeDef part hpart
      cases hpart
    · rintro ⟨⟨other, hmem, hother⟩, -⟩
      obtain rfl := ScScalar.u32.inj (ScVal.scalar.inj hother)
      exact hmem
  · rename_i hcode
    refine error_iff ?_
    rintro ⟨⟨code, -, h⟩, -⟩
    exact hcode code h

theorem validateEntry_errorEnum_eq_ok {enum : ScSpecUdtEnumV0} :
    validateEntry spec validate value typeName mismatch (.udtErrorEnumV0 enum) = .ok () ↔
      FitsEntry spec value (.udtErrorEnumV0 enum) ∧
        ∀ typeDef part, EntryPart spec (.udtErrorEnumV0 enum) value typeDef part →
          validate part typeDef = .ok () := by
  unfold validateEntry FitsEntry
  dsimp only
  split
  · rename_i encoded
    rw [ensure_eq_ok]
    constructor
    · rintro ⟨code, hmem, rfl⟩
      refine ⟨⟨code, hmem, rfl⟩, ?_⟩
      intro typeDef part hpart
      cases hpart
    · rintro ⟨⟨code, hmem, hcode⟩, -⟩
      exact ⟨code, hmem, ScScalar.error.inj (ScVal.scalar.inj hcode)⟩
  · rename_i herror
    refine error_iff ?_
    rintro ⟨⟨code, -, h⟩, -⟩
    exact herror _ h

/-- An entry accepts a value that fits, if its parts are accepted. -/
theorem validateEntry_eq_ok :
    validateEntry spec validate value typeName mismatch entry = .ok () ↔
      FitsEntry spec value entry ∧
        ∀ typeDef part, EntryPart spec entry value typeDef part →
          validate part typeDef = .ok () := by
  cases entry with
  | udtStructV0 struct =>
    by_cases htuple : (fieldNames spec struct).head? = some "0"
    · exact validateEntry_tupleStruct_eq_ok htuple
    · exact validateEntry_namedStruct_eq_ok htuple
  | udtUnionV0 union => exact validateEntry_union_eq_ok
  | udtEnumV0 enum => exact validateEntry_enum_eq_ok
  | udtErrorEnumV0 enum => exact validateEntry_errorEnum_eq_ok
  | functionV0 function => exact error_iff fun h => h.1
  | eventV0 name => exact error_iff fun h => h.1

variable {valueType okType errorType elementType keyType : ScSpecTypeDef}
  {valueTypes : List ScSpecTypeDef} {name : List UInt8}

/-- An option accepts nothing, or what its type accepts. -/
theorem validateStep_option_eq_ok :
    validateStep spec validate value (.option valueType) = .ok () ↔
      Fits spec value (.option valueType) ∧
        ∀ part, Part spec (.option valueType, value) part → validate part.2 part.1 = .ok () := by
  unfold validateStep Fits
  dsimp only
  split
  · refine iff_of_true rfl ⟨trivial, ?_⟩
    intro part hpart
    cases hpart with
    | option hvoid => exact absurd rfl hvoid
  · rename_i hvoid
    constructor
    · intro h
      refine ⟨trivial, ?_⟩
      intro part hpart
      cases hpart with
      | option _ => exact h
    · intro h
      exact h.2 _ (.option hvoid)

/-- A result accepts what is no error, and is accepted as its value. -/
theorem validateStep_result_eq_ok :
    validateStep spec validate value (.result okType errorType) = .ok () ↔
      Fits spec value (.result okType errorType) ∧
        ∀ part, Part spec (.result okType errorType, value) part →
          validate part.2 part.1 = .ok () := by
  unfold validateStep Fits
  dsimp only
  split
  · rename_i encoded
    exact error_iff fun h => h.1 encoded rfl
  · rename_i herror
    constructor
    · intro h
      refine ⟨herror, ?_⟩
      intro part hpart
      cases hpart with
      | result => exact h
    · intro h
      exact h.2 _ .result

theorem validateStep_vec_eq_ok :
    validateStep spec validate value (.vec elementType) = .ok () ↔
      Fits spec value (.vec elementType) ∧
        ∀ part, Part spec (.vec elementType, value) part → validate part.2 part.1 = .ok () := by
  unfold validateStep Fits
  dsimp only
  split
  · rename_i values
    rw [unit_bind_eq_ok, forIn_eq_ok]
    constructor
    · intro h
      refine ⟨⟨values, rfl⟩, ?_⟩
      intro part hpart
      cases hpart with
      | vec hmem => exact h.1 _ hmem
    · intro h
      exact ⟨fun part hpart => h.2 _ (.vec hpart), rfl⟩
  · rename_i hvec
    refine error_iff ?_
    rintro ⟨⟨values, h⟩, -⟩
    exact hvec values h

theorem validateStep_map_eq_ok :
    validateStep spec validate value (.map keyType valueType) = .ok () ↔
      Fits spec value (.map keyType valueType) ∧
        ∀ part, Part spec (.map keyType valueType, value) part →
          validate part.2 part.1 = .ok () := by
  unfold validateStep Fits
  dsimp only
  split
  · rename_i entries
    simp only [← bind_assoc]
    rw [unit_bind_eq_ok, forIn_eq_ok]
    constructor
    · intro h
      refine ⟨⟨entries, rfl⟩, ?_⟩
      intro part hpart
      cases hpart with
      | mapKey hmem => exact (unit_bind_eq_ok.mp (h.1 _ hmem)).1
      | mapValue hmem => exact (unit_bind_eq_ok.mp (h.1 _ hmem)).2
    · intro h
      refine ⟨fun entry hentry => ?_, rfl⟩
      exact unit_bind_eq_ok.mpr ⟨h.2 _ (.mapKey hentry), h.2 _ (.mapValue hentry)⟩
  · rename_i hmap
    refine error_iff ?_
    rintro ⟨⟨entries, h⟩, -⟩
    exact hmap entries h

theorem validateStep_tuple_eq_ok :
    validateStep spec validate value (.tuple valueTypes) = .ok () ↔
      Fits spec value (.tuple valueTypes) ∧
        ∀ part, Part spec (.tuple valueTypes, value) part → validate part.2 part.1 = .ok () := by
  unfold validateStep Fits
  dsimp only
  split
  · rename_i values
    rw [unit_bind_eq_ok, ensure_eq_ok, unit_bind_eq_ok, forIn_eq_ok]
    constructor
    · intro h
      refine ⟨⟨values, rfl, h.1⟩, ?_⟩
      intro part hpart
      cases hpart with
      | tuple hmem => exact h.2.1 _ hmem
    · rintro ⟨⟨others, hothers, hlength⟩, h⟩
      obtain rfl := Option.some.inj (ScVal.vec.inj hothers)
      exact ⟨hlength, fun pair hpair => h _ (.tuple hpair), rfl⟩
  · rename_i hvec
    refine error_iff ?_
    rintro ⟨⟨values, h, -⟩, -⟩
    exact hvec values h

/-- A type of its own accepts what its entry accepts. -/
theorem validateStep_udt_eq_ok :
    validateStep spec validate value (.udt name) = .ok () ↔
      Fits spec value (.udt name) ∧
        ∀ part, Part spec (.udt name, value) part → validate part.2 part.1 = .ok () := by
  unfold validateStep Fits
  dsimp only
  rw [bind_eq_ok]
  constructor
  · rintro ⟨entry, hfind, h⟩
    rw [mapErr_eq_ok] at hfind
    obtain ⟨hfits, hparts⟩ := validateEntry_eq_ok.mp h
    refine ⟨⟨entry, hfind, hfits⟩, ?_⟩
    intro part hpart
    cases hpart with
    | udt hother hpart =>
      rw [hfind] at hother
      obtain rfl := Except.ok.inj hother
      exact hparts _ _ hpart
  · rintro ⟨⟨entry, hfind, hfits⟩, h⟩
    refine ⟨entry, mapErr_eq_ok.mpr hfind, validateEntry_eq_ok.mpr ⟨hfits, ?_⟩⟩
    -- the entry of the type is found once, and its parts are those of the value
    intro typeDef part hpart
    exact h _ (.udt hfind hpart)

/-- A type accepts a value that fits, if its parts are accepted. -/
theorem validateStep_eq_ok :
    validateStep spec validate value typeDef = .ok () ↔
      Fits spec value typeDef ∧
        ∀ part, Part spec (typeDef, value) part → validate part.2 part.1 = .ok () := by
  cases typeDef with
  | val =>
    refine iff_of_true rfl ⟨trivial, ?_⟩
    intro part hpart
    cases hpart
  | option valueType => exact validateStep_option_eq_ok
  | result okType errorType => exact validateStep_result_eq_ok
  | vec elementType => exact validateStep_vec_eq_ok
  | map keyType valueType => exact validateStep_map_eq_ok
  | tuple valueTypes => exact validateStep_tuple_eq_ok
  | udt name => exact validateStep_udt_eq_ok
  -- any other type is that of a scalar, which has no parts
  | _ =>
    unfold validateStep Fits
    dsimp only
    split
    · rename_i scalar
      rw [ensure_eq_ok]
      constructor
      · intro h
        refine ⟨⟨scalar, rfl, h⟩, ?_⟩
        intro part hpart
        cases hpart
      · rintro ⟨⟨other, hother, h⟩, -⟩
        obtain rfl := ScVal.scalar.inj hother
        exact h
    · rename_i hscalar
      refine error_iff ?_
      rintro ⟨⟨scalar, h, -⟩, -⟩
      exact hscalar scalar h

/-! ### Accepted values -/

theorem validateScvalAgainstType_eq_ok :
    validateScvalAgainstType spec value typeDef depth = .ok () ↔
      depth ≤ contractArgumentXdrDepthLimit ∧ Fits spec value typeDef ∧
        ∀ part, Part spec (typeDef, value) part →
          validateScvalAgainstType spec part.2 part.1 (depth + 1) = .ok () := by
  rw [validateScvalAgainstType]
  by_cases hdepth : depth > contractArgumentXdrDepthLimit
  · rw [if_pos hdepth]
    exact error_iff fun h => absurd h.1 (not_le_of_gt hdepth)
  · rw [if_neg hdepth, validateStep_eq_ok]
    exact (and_iff_right (not_lt.mp hdepth)).symm

/-- What is accepted is accepted at any lesser depth. -/
theorem validateScvalAgainstType_of_succ
    (h : validateScvalAgainstType spec value typeDef (depth + 1) = .ok ()) :
    validateScvalAgainstType spec value typeDef depth = .ok () := by
  induction hleft : contractArgumentXdrDepthLimit - depth generalizing value typeDef depth with
  | zero =>
    have hdepth := (validateScvalAgainstType_eq_ok.mp h).1
    omega
  | succ left ih =>
    obtain ⟨hdepth, hfits, hparts⟩ := validateScvalAgainstType_eq_ok.mp h
    refine validateScvalAgainstType_eq_ok.mpr ⟨by omega, hfits, fun part hpart => ?_⟩
    exact ih (hparts part hpart) (by omega)

/-- The parts of what is accepted are accepted by themselves. -/
theorem validateScvalAgainstType_of_reaches {whole part : ScSpecTypeDef × ScVal}
    (hwhole : validateScvalAgainstType spec whole.2 whole.1 0 = .ok ())
    (h : Relation.ReflTransGen (Part spec) whole part) :
    validateScvalAgainstType spec part.2 part.1 0 = .ok () := by
  induction h with
  | refl => exact hwhole
  | tail _ hpart ih =>
    apply validateScvalAgainstType_of_succ
    exact (validateScvalAgainstType_eq_ok.mp ih).2.2 _ hpart

theorem EntryPart.mem_valueTypes {part : ScVal} (h : EntryPart spec entry value typeDef part) :
    typeDef ∈ entry.valueTypes := by
  cases h with
  | tupleStruct _ hpart => exact List.mem_map_of_mem (List.of_mem_zip hpart).2
  | namedStruct _ _ _ hfield => exact List.mem_map_of_mem (structField_eq_some hfield).1
  | union hcase hpart =>
    rw [findCase] at hcase
    exact List.mem_flatMap.mpr ⟨_, List.mem_of_find?_eq_some hcase, (List.of_mem_zip hpart).2⟩

/-- The type of a part is a part of the type. -/
theorem Part.edge {n : ℕ} {whole part : ScSpecTypeDef × ScVal} (h : Part spec whole part) :
    (typeGraph spec n).Edge whole.1 part.1 := by
  cases h with
  | option | result | vec | mapKey => exact List.mem_cons_self
  | mapValue => exact List.mem_cons_of_mem _ List.mem_cons_self
  | tuple hmem => exact (List.of_mem_zip hmem).2
  | udt hfind hpart =>
    have hmem := hpart.mem_valueTypes
    simpa [KeyedGraph.Edge, typeGraph, hfind] using hmem

/-! ### Structs -/

/-- The value is a map, and the texts of its keys ascend. -/
def KeysAscend (spec : Spec) (value : ScVal) : Prop :=
  ∃ (entries : List (ScVal × ScVal)) (keys : List String), value = .map (some entries) ∧
    entries.map (fun entry => symbolText spec entry.1) = keys.map some ∧ keys.Pairwise (· < ·)

/-- The entries of a map are the fields of a struct: their keys are its names in order,
each of them once, and each value is accepted at the type of its field. The value of a
field is the same whether it is read by its place or by its name. -/
structure StructShape (spec : Spec) (struct : ScSpecUdtStructV0) (value : ScVal)
    (entries : List (ScVal × ScVal)) : Prop where
  eq_map : value = .map (some entries)
  nodup : (fieldNames spec struct).Nodup
  keys : entries.map (fun entry => symbolText spec entry.1) =
    (fieldNames spec struct).map some
  values : List.Forall₂ (fun entry field =>
    validateScvalAgainstType spec entry.2 field.type 0 = .ok ()) entries struct.fields
  reads : ∀ pair ∈ entries.zip struct.fields, entries.find? (fun entry =>
    symbolText spec entry.1 = some (spec.text pair.2.name)) = some pair.1

variable {struct : ScSpecUdtStructV0} {name : List UInt8} {entries : List (ScVal × ScVal)}

/-- A canonical struct is a tuple if its first field is field 0, and otherwise its names
ascend. -/
theorem contractStructIsTuple_eq_ok {isTuple : Bool}
    (h : contractStructIsTuple spec struct = .ok isTuple) :
    (isTuple = true ↔ (fieldNames spec struct).head? = some "0") ∧
      (isTuple = false → (fieldNames spec struct).Pairwise (· < ·)) := by
  unfold contractStructIsTuple at h
  dsimp only at h
  by_cases htuple : (fieldNames spec struct).head? = some "0"
  · rw [if_pos htuple, ensure_bind_eq_ok] at h
    obtain rfl := Except.ok.inj h.2
    exact ⟨iff_of_true rfl htuple, fun hfalse => absurd hfalse (by simp)⟩
  · rw [if_neg htuple, ensure_bind_eq_ok, ensure_bind_eq_ok] at h
    obtain ⟨-, hchain, h⟩ := h
    obtain rfl := Except.ok.inj h
    exact ⟨iff_of_false (by simp) htuple, fun _ => List.isChain_iff_pairwise.mp hchain⟩

/-- Where the keys are different, an element is found by its key. -/
theorem find?_key_of_mem {α κ : Type} [DecidableEq κ] {key : α → κ} {xs : List α} {x : α}
    (hnodup : (xs.map key).Nodup) (hx : x ∈ xs) :
    xs.find? (fun y => key y = key x) = some x := by
  have hsome : (xs.find? fun y => key y = key x).isSome := by
    rw [List.find?_isSome]
    exact ⟨x, hx, decide_eq_true rfl⟩
  obtain ⟨y, hy⟩ := Option.isSome_iff_exists.mp hsome
  have hkey := List.find?_some hy
  rw [decide_eq_true_iff] at hkey
  rw [hy, List.inj_on_of_nodup_map hnodup (List.mem_of_find?_eq_some hy) hx hkey]

/-- As many ascending keys as there are ascending names, all among them, are the names. -/
theorem eq_of_ascending {keys names : List String} (hkeys : keys.Pairwise (· < ·))
    (hnames : names.Pairwise (· < ·)) (hsubset : keys ⊆ names)
    (hlength : names.length ≤ keys.length) : keys = names := by
  have hnodup : keys.Nodup := hkeys.imp fun h => ne_of_lt h
  have hperm : keys.Perm names := (hnodup.subperm hsubset).perm_of_length_le hlength
  exact hperm.eq_of_pairwise (fun a b _ _ hab hba => absurd hba (lt_asymm hab)) hkeys hnames

theorem mem_zip_keys (h : entries.map (fun entry => symbolText spec entry.1) =
    (fieldNames spec struct).map some) {pair : (ScVal × ScVal) × ScSpecUdtStructFieldV0}
    (hpair : pair ∈ entries.zip struct.fields) :
    symbolText spec pair.1.1 = some (spec.text pair.2.name) := by
  have hall : List.Forall₂ (fun entry field =>
      symbolText spec entry.1 = some (spec.text field.name)) entries struct.fields := by
    rw [fieldNames, List.map_map, ← List.forall₂_eq_eq_eq, List.forall₂_map_left_iff,
      List.forall₂_map_right_iff] at h
    exact h
  exact (List.forall₂_iff_zip.mp hall).2 hpair

/-- An accepted map has the shape of its struct exactly when its keys ascend. -/
theorem structShape_iff (hfind : spec.find (spec.text name) = .ok (.udtStructV0 struct))
    (hnamed : contractStructIsTuple spec struct = .ok false)
    (haccepted : validateScvalAgainstType spec value (.udt name) 0 = .ok ()) :
    (∃ entries, StructShape spec struct value entries) ↔ KeysAscend spec value := by
  obtain ⟨hhead, hnames⟩ := contractStructIsTuple_eq_ok hnamed
  replace hhead : (fieldNames spec struct).head? ≠ some "0" := mt hhead.mpr (by simp)
  replace hnames : (fieldNames spec struct).Pairwise (· < ·) := hnames rfl
  constructor
  · rintro ⟨entries, hshape⟩
    exact ⟨entries, fieldNames spec struct, hshape.eq_map, hshape.keys, hnames⟩
  rintro ⟨entries, keys, rfl, hkeys, hascend⟩
  obtain ⟨-, ⟨entry, hentry, hfits⟩, hparts⟩ := validateScvalAgainstType_eq_ok.mp haccepted
  rw [hfind] at hentry
  obtain rfl := Except.ok.inj hentry
  rw [FitsEntry, if_neg hhead] at hfits
  obtain ⟨others, hothers, hlength, hmem⟩ := hfits
  obtain rfl := Option.some.inj (ScVal.map.inj hothers)
  -- an accepted map has as many entries as fields, each with the name of a field
  have hsubset : keys ⊆ fieldNames spec struct := by
    intro key hkey
    have hsome : some key ∈ entries.map fun entry => symbolText spec entry.1 := by
      rw [hkeys]
      exact List.mem_map_of_mem hkey
    obtain ⟨entry, hentry, htext⟩ := List.mem_map.mp hsome
    obtain ⟨name, hname, hsame⟩ := hmem entry hentry
    rw [htext] at hsame
    obtain rfl := Option.some.inj hsame
    exact hname
  have heq : keys = fieldNames spec struct := by
    apply eq_of_ascending hascend hnames hsubset
    have hcount := congrArg List.length hkeys
    rw [List.length_map, List.length_map] at hcount
    rw [fieldNames, List.length_map, ← hlength, hcount]
  rw [heq] at hkeys
  have hnodup : (fieldNames spec struct).Nodup := hnames.imp fun h => ne_of_lt h
  refine ⟨entries, rfl, hnodup, hkeys, ?_, ?_⟩
  · rw [List.forall₂_iff_zip]
    refine ⟨hlength, fun {entry field} hpair => ?_⟩
    -- the value of a field was checked one level down
    apply validateScvalAgainstType_of_succ
    have hkey := mem_zip_keys hkeys hpair
    have hfield : structField spec struct (spec.text field.name) = some field :=
      find?_key_of_mem hnodup (List.of_mem_zip hpair).2
    exact hparts _ (.udt hfind (.namedStruct hhead (List.of_mem_zip hpair).1 hkey hfield))
  · intro pair hpair
    rw [← mem_zip_keys hkeys hpair]
    apply find?_key_of_mem _ (List.of_mem_zip hpair).1
    rw [hkeys]
    exact hnodup.map (Option.some_injective _)

/-! ### What is shown -/

/-- The operations of the crates on the values that are shown. -/
structure ScValCodec where
  xdrToJson : ScVal → ScSpecTypeDef → Except String Json
  toXdrBase64 : ScVal → Except String String
  findFunction : String → Except String ScSpecFunctionV0
  findFunctions : Except String (List ScSpecFunctionV0)

structure ContractArgumentReview where
  name : String
  valueType : String
  value : Json
  scvalXdr : String

def contractArgumentReview (spec : Spec) (codec : ScValCodec) (name valueType : String)
    (typeDef : ScSpecTypeDef) (parsed : ScVal) : Except String ContractArgumentReview := do
  mapErr (fun detail => s!"invalid contract argument --{name} ({valueType}): {detail}")
    (validateScvalAgainstType spec parsed typeDef 0)
  mapErr (fun detail => s!"unable to normalize contract argument --{name} ({valueType}): {detail}")
    (ensureContractTypeNormalizationSafe spec typeDef [])
  let value ← mapErr (fun error =>
    s!"unable to normalize contract argument --{name} ({valueType}): {error}")
    (codec.xdrToJson parsed typeDef)
  let scvalXdr ← mapErr (fun error =>
    s!"unable to encode contract argument --{name} as ScVal XDR: {error}")
    (codec.toXdrBase64 parsed)
  return { name, valueType, value, scvalXdr }

/-- The function of a name, as it is written in the spec or as it is printed. -/
def findFunction (spec : Spec) (codec : ScValCodec) (functionName : String) :
    Except String ScSpecFunctionV0 :=
  match codec.findFunction functionName with
  | .ok function => .ok function
  -- the name may be the printed form of one that the spec writes otherwise
  | .error _ => do
    let functions ← mapErr (fun error => s!"unable to read contract functions: {error}")
      codec.findFunctions
    let printed := fun function : ScSpecFunctionV0 => spec.sanitize (spec.text function.name)
    match functions.find? fun function => printed function = functionName with
    | some function => return function
    | none =>
      ensure (functions ≠ []) "contract spec does not expose any functions"
      let available := String.intercalate ", " (functions.map printed)
      .error s!"contract function {spec.debug functionName} was not found; available functions: {available}"

/-- What a simulated call returns, decoded for the first output of the function. -/
def decodeSimulationOutput (spec : Spec) (codec : ScValCodec) (functionName : String)
    (results : Except String (List ScVal)) : Except String (Option Json × Option String) := do
  let function ← findFunction spec codec functionName
  match function.outputs.head? with
  | none => return (none, none)
  | some outputType =>
    let results ← mapErr (fun error => s!"Stellar RPC returned invalid simulation result: {error}")
      results
    let result ← okOr results.head? "Soroban simulation did not return a contract result"
    mapErr (fun detail => s!"contract return value does not match its Contract Spec: {detail}")
      (validateScvalAgainstType spec result outputType 0)
    mapErr (fun detail => s!"unable to normalize contract return value: {detail}")
      (ensureContractTypeNormalizationSafe spec outputType [])
    let value ← mapErr (fun error => s!"unable to decode contract return value: {error}")
      (codec.xdrToJson result outputType)
    let scvalXdr ← mapErr (fun error =>
      s!"unable to encode contract return value as ScVal XDR: {error}") (codec.toXdrBase64 result)
    return (some value, some scvalXdr)

/-- The value is shown for an argument of the type, or for an output of it. -/
inductive Shown (spec : Spec) (codec : ScValCodec) (typeDef : ScSpecTypeDef) (value : ScVal) : Prop
  | argument {name valueType review}
      (h : contractArgumentReview spec codec name valueType typeDef value = .ok review)
  | output {functionName function rest shown}
      (hfunction : findFunction spec codec functionName = .ok function)
      (houtput : function.outputs.head? = some typeDef)
      (h : decodeSimulationOutput spec codec functionName (.ok (value :: rest)) = .ok shown)

variable {codec : ScValCodec}

/-- What is shown was checked before, and its type too. -/
theorem Shown.accepted (h : Shown spec codec typeDef value) :
    validateScvalAgainstType spec value typeDef 0 = .ok () ∧
      ensureContractTypeNormalizationSafe spec typeDef [] = .ok () := by
  cases h with
  | argument h =>
    unfold contractArgumentReview at h
    obtain ⟨hvalid, h⟩ := unit_bind_eq_ok.mp h
    obtain ⟨hsafe, -⟩ := unit_bind_eq_ok.mp h
    exact ⟨mapErr_eq_ok.mp hvalid, mapErr_eq_ok.mp hsafe⟩
  | output hfunction houtput h =>
    unfold decodeSimulationOutput at h
    rw [hfunction, ok_bind, houtput] at h
    dsimp only at h
    rw [mapErr, ok_bind, List.head?_cons, okOr, ok_bind] at h
    obtain ⟨hvalid, h⟩ := unit_bind_eq_ok.mp h
    obtain ⟨hsafe, -⟩ := unit_bind_eq_ok.mp h
    exact ⟨mapErr_eq_ok.mp hvalid, mapErr_eq_ok.mp hsafe⟩

/-- A value is held at the type of a struct that is not a tuple, somewhere in the whole. -/
structure HoldsStruct (spec : Spec) (whole : ScSpecTypeDef × ScVal)
    (struct : ScSpecUdtStructV0) (value : ScVal) : Prop where
  exists_name : ∃ name, Relation.ReflTransGen (Part spec) whole (.udt name, value) ∧
    spec.find (spec.text name) = .ok (.udtStructV0 struct)
  named : (fieldNames spec struct).head? ≠ some "0"

/-- In a value that is shown, the maps have the shape of their structs exactly when their
keys ascend. -/
theorem shown_shape_iff (h : Shown spec codec typeDef value) :
    (∀ struct held, HoldsStruct spec (typeDef, value) struct held →
      ∃ entries, StructShape spec struct held entries) ↔
    ∀ struct held, HoldsStruct spec (typeDef, value) struct held → KeysAscend spec held := by
  obtain ⟨hvalid, hsafe⟩ := h.accepted
  have hsame : ∀ struct held, HoldsStruct spec (typeDef, value) struct held →
      ((∃ entries, StructShape spec struct held entries) ↔ KeysAscend spec held) := by
    rintro struct held ⟨⟨name, hreach, hfind⟩, hhead⟩
    have hedges : Relation.ReflTransGen (typeGraph spec 2).Edge typeDef (.udt name) :=
      hreach.lift Prod.fst fun _ _ => Part.edge
    obtain ⟨entry, hentry, hcanonical⟩ := normalizationSafe_iff.mp hsafe _ hedges
    rw [hfind] at hentry
    obtain rfl := Except.ok.inj hentry
    -- the struct is not a tuple, as its head is a map
    have hnamed : contractStructIsTuple spec struct = .ok false := by
      obtain ⟨isTuple, htuple⟩ : ∃ isTuple, contractStructIsTuple spec struct = .ok isTuple := by
        cases hresult : contractStructIsTuple spec struct with
        | ok isTuple => exact ⟨isTuple, rfl⟩
        | error e =>
          simp [ScSpecEntry.IsValueType, hresult, Except.isOk, Except.toBool] at hcanonical
      cases isTuple with
      | false => exact htuple
      | true => exact absurd ((contractStructIsTuple_eq_ok htuple).1.mp rfl) hhead
    exact structShape_iff hfind hnamed (validateScvalAgainstType_of_reaches hvalid hreach)
  constructor
  · intro hshape struct held hheld
    exact (hsame struct held hheld).mp (hshape struct held hheld)
  · intro hascend struct held hheld
    exact (hsame struct held hheld).mpr (hascend struct held hheld)

/-! ### A struct of two fields -/

def asciiText (bytes : List UInt8) : String :=
  String.ofList (bytes.map fun byte => Char.ofNat byte.toNat)

def pairStruct : ScSpecUdtStructV0 where
  name := [80, 97, 105, 114]
  fields := [⟨[97], .u32⟩, ⟨[98], .u32⟩]

/-- A spec with one struct, whose fields are `a` and `b`. -/
def pairSpec : Spec := .ofEntries [.udtStructV0 pairStruct] asciiText id id

def pairMap (first second : UInt8) : ScVal :=
  .map (some [(.symbol [first], .scalar (.u32 (.lit 1))),
    (.symbol [second], .scalar (.u32 (.lit 2)))])

/-- The crates on such a map: its fields are read by their places. -/
def pairCodec (scvalXdr : String) : ScValCodec where
  xdrToJson _ _ :=
    .ok (.object [("a", .number (.posInt (.lit 1))), ("b", .number (.posInt (.lit 2)))])
  toXdrBase64 _ := .ok scvalXdr
  findFunction name := .error s!"Missing Entry {name}"
  findFunctions := .ok []

theorem pairSpec_safe :
    ensureContractTypeNormalizationSafe pairSpec (.udt pairStruct.name) [] = .ok () := by
  apply (normalizationSafe_searches [] _).mpr
  have hcanonical : (contractStructIsTuple pairSpec pairStruct).isOk = true := by decide +kernel
  refine Or.inr ⟨⟨_, rfl, hcanonical⟩, ?_⟩
  intro part hpart
  have hu32 : part = .u32 := by
    have hmem : part ∈ [ScSpecTypeDef.u32, .u32] := hpart
    simpa using hmem
  rw [hu32, ensureContractTypeNormalizationSafe]
  all_goals simp

theorem shown_pair (scvalXdr : String)
    (h : validateScvalAgainstType pairSpec value (.udt pairStruct.name) 0 = .ok ()) :
    Shown pairSpec (pairCodec scvalXdr) (.udt pairStruct.name) value := by
  have hreview : ∃ review, contractArgumentReview pairSpec (pairCodec scvalXdr) "p" "Pair"
      (.udt pairStruct.name) value = .ok review := by
    rw [contractArgumentReview, h, pairSpec_safe]
    exact ⟨_, rfl⟩
  obtain ⟨review, hreview⟩ := hreview
  exact .argument hreview

/-- A map that repeats a field is shown as if it had both. -/
theorem repeated_field_shown :
    Shown pairSpec (pairCodec
        "AAAAEQAAAAEAAAACAAAADwAAAAFhAAAAAAAAAwAAAAEAAAAPAAAAAWEAAAAAAAADAAAAAg==")
      (.udt pairStruct.name) (pairMap 97 97) ∧
    HoldsStruct pairSpec (.udt pairStruct.name, pairMap 97 97) pairStruct (pairMap 97 97) ∧
    ¬ ∃ entries, StructShape pairSpec pairStruct (pairMap 97 97) entries := by
  refine ⟨shown_pair _ (by decide +kernel), ⟨⟨_, .refl, rfl⟩, by decide⟩, ?_⟩
  rintro ⟨entries, hshape⟩
  obtain rfl := Option.some.inj (ScVal.map.inj hshape.eq_map)
  exact absurd hshape.keys (by decide)

theorem shown_shape_iff_pair :
    (∀ struct held, HoldsStruct pairSpec (.udt pairStruct.name, pairMap 97 98) struct held →
      ∃ entries, StructShape pairSpec struct held entries) ↔
    ∀ struct held, HoldsStruct pairSpec (.udt pairStruct.name, pairMap 97 98) struct held →
      KeysAscend pairSpec held :=
  shown_shape_iff (shown_pair
    "AAAAEQAAAAEAAAACAAAADwAAAAFhAAAAAAAAAwAAAAEAAAAPAAAAAWIAAAAAAAADAAAAAg=="
    (by decide +kernel))

end Fresnica.Contract
