import Fresnica.Contract.Composition
import Fresnica.Foundation.Json

/-!
# Preparing JSON inputs

A JSON value given for an input is brought into the form that the spec crate parses,
along the type of the input.

## Main definitions

* `PrepareError` — an input that is rejected for its type, or for its own shape
* `prepareJsonArgumentValue` — the preparation

## Main results

* `prepareJsonArgumentValue_blames` — a type that is rejected holds one that is not good
* `composition_agrees` — what can be composed as typed JSON is not rejected for its type
-/

namespace Fresnica.Contract

open Foundation ContractInputComposition

/-- A type that has no composed form. -/
inductive TypeRejection
  | error
  | result
  | unresolved (typeName detail : String)
  | errorEnum (typeName : String)
  | notValueType (typeName : String)
  | notCanonical (detail : String)

/-- The type is rejected, or the value does not have the shape of the type. -/
inductive PrepareError
  | type (rejection : TypeRejection)
  | shape (detail : String)

def TypeRejection.message : TypeRejection → String
  | error =>
    "Contract Spec Error values are runtime error metadata and have no stable composed input form"
  | result =>
    "Contract Spec Result values have no stable composed input form in the pinned official parser"
  | unresolved typeName detail => s!"unable to resolve user-defined type {typeName}: {detail}"
  | errorEnum typeName =>
    s!"error enum {typeName} is contract error metadata and cannot be supplied as a function argument"
  | notValueType typeName => s!"Contract Spec entry {typeName} is not a user-defined value type"
  | notCanonical detail => detail

def PrepareError.message : PrepareError → String
  | type rejection => rejection.message
  | shape detail => detail

/-- What the crates do with the texts of values: reading and writing them, and whether
the spec crate accepts a text at a type. -/
structure ValueTexts where
  parse : String → Option Json
  encode : Json → Except String String
  fromString : String → ScSpecTypeDef → Bool
  size_le : ∀ {text value}, parse text = some value → value.size ≤ text.length

namespace ValueTexts

variable {texts : ValueTexts} {key : String} {value : Json} {values : List (String × Json)}

/-- The value that a name is read as is smaller than its object. -/
theorem size_key_lt {entry : String × Json} (h : entry ∈ values) :
    ((texts.parse entry.1).getD (.string entry.1)).size < (Json.object values).size := by
  have hobject : entry.1.length + 1 + entry.2.size < (Json.object values).size :=
    Json.size_lt_of_mem_members h
  cases hparse : texts.parse entry.1 with
  | none =>
    rw [Option.getD_none, Json.size]
    omega
  | some value =>
    have hvalue := texts.size_le hparse
    rw [Option.getD_some]
    omega

end ValueTexts

/-- A value of an enum is the number of one of its cases. -/
def validateJsonEnumShape (spec : Spec) (value : Json) (enum : ScSpecUdtEnumV0) :
    Except PrepareError Unit := do
  let typeName := spec.text enum.name
  let value ← okOr (value.asU64?.bind (·.tryFrom))
    (.shape s!"enum {typeName} requires its numeric u32 case value")
  ensure (value ∈ enum.cases) (.shape s!"unknown numeric case {value.val} for enum {typeName}")

mutual

def prepareJsonArgumentValue (spec : Spec) (texts : ValueTexts) (value : Json)
    (typeDef : ScSpecTypeDef) : Except PrepareError Json :=
  match typeDef with
  | .void => if value.isNull then .ok (.string "void") else .ok value
  | .timepoint =>
    match value with
    | .number number => .ok (.object [("timepoint", .string number.text)])
    | _ => .ok value
  | .duration =>
    match value with
    | .number number => .ok (.object [("duration", .string number.text)])
    | _ => .ok value
  | .error => .error (.type .error)
  | .result _ _ => .error (.type .result)
  | .option valueType =>
    if value.isNull then .ok .null else prepareJsonArgumentValue spec texts value valueType
  | .vec elementType =>
    match value with
    | .array values => do
      let prepared ← values.mapM fun value => prepareJsonArgumentValue spec texts value elementType
      return .array prepared
    | _ => .ok value
  | .map keyType valueType =>
    match value with
    | .object values => do
      let prepared ← values.foldlM (fun prepared entry => do
        let keyValue := (texts.parse entry.1).getD (.string entry.1)
        let preparedKey ← prepareJsonArgumentValue spec texts keyValue keyType
        let preparedKey ← mapErr
          (fun error => .shape s!"unable to encode map key {spec.debug entry.1}: {error}")
          (texts.encode preparedKey)
        let preparedKey := if texts.fromString preparedKey keyType then preparedKey else entry.1
        let preparedValue ← prepareJsonArgumentValue spec texts entry.2 valueType
        return insertMember preparedKey preparedValue prepared) []
      return .object prepared
    | _ => .ok value
  | .tuple valueTypes =>
    match value with
    | .array values => do
      ensure (values.length = valueTypes.length)
        (.shape s!"tuple requires {valueTypes.length} values but {values.length} were provided")
      let prepared ← prepareJsonValues spec texts values valueTypes
      return .array prepared
    | _ => .ok value
  | .udt name =>
    let typeName := spec.text name
    match spec.find typeName with
    | .error error => .error (.type (.unresolved typeName error))
    | .ok (.udtStructV0 struct) => prepareJsonStructValue spec texts value struct
    | .ok (.udtUnionV0 union) => prepareJsonUnionValue spec texts value union
    | .ok (.udtEnumV0 enum) => do
      validateJsonEnumShape spec value enum
      return value
    | .ok (.udtErrorEnumV0 _) => .error (.type (.errorEnum typeName))
    | .ok _ => .error (.type (.notValueType typeName))
  | _ => .ok value
termination_by (value.size, sizeOf typeDef + 1)
decreasing_by
  · apply Prod.Lex.right; decreasing_trivial
  · apply Prod.Lex.left; exact Json.size_lt_of_mem_items (by assumption)
  · apply Prod.Lex.left; exact texts.size_key_lt (by assumption)
  · apply Prod.Lex.left; exact Json.size_lt_of_member (by assumption)
  · apply Prod.Lex.right; simp
  · apply Prod.Lex.right; simp
  · apply Prod.Lex.right; simp

/-- The values of a sequence, each at the type in its place. -/
def prepareJsonValues (spec : Spec) (texts : ValueTexts) (values : List Json)
    (types : List ScSpecTypeDef) : Except PrepareError (List Json) :=
  match values, types with
  | value :: values, typeDef :: types => do
    let prepared ← prepareJsonArgumentValue spec texts value typeDef
    let rest ← prepareJsonValues spec texts values types
    return prepared :: rest
  | _, _ => .ok []
termination_by ((Json.array values).size, 0)
decreasing_by
  · apply Prod.Lex.left; exact Json.size_lt_of_mem_items List.mem_cons_self
  · apply Prod.Lex.left; exact Json.size_array_tail_lt

/-- The fields of a struct, each from the member of its name. -/
def prepareJsonFields (spec : Spec) (texts : ValueTexts) (values : List (String × Json))
    (struct : ScSpecUdtStructV0) (kind : String) :
    Except PrepareError (List (String × Json)) :=
  struct.fields.foldlM (fun prepared field => do
    let fieldName := spec.text field.name
    match _ : values.lookup fieldName with
    | none => .error (.shape
        s!"missing field {spec.debug fieldName} for {kind} {spec.text struct.name}")
    | some fieldValue =>
      let fieldValue ← prepareJsonArgumentValue spec texts fieldValue field.type
      return insertMember fieldName fieldValue prepared) []
termination_by ((Json.object values).size, 0)
decreasing_by
  apply Prod.Lex.left; exact Json.size_lt_of_lookup (by assumption)

def prepareJsonStructValue (spec : Spec) (texts : ValueTexts) (value : Json)
    (struct : ScSpecUdtStructV0) : Except PrepareError Json := do
  let typeName := spec.text struct.name
  let tupleStruct ← mapErr (fun error => .type (.notCanonical error))
    (contractStructIsTuple spec struct)
  if tupleStruct then
    match value with
    | .array values =>
      ensure (values.length = struct.fields.length) (.shape
        s!"tuple struct {typeName} requires {struct.fields.length} values but {values.length} were provided")
      let prepared ← prepareJsonValues spec texts values (struct.fields.map (·.type))
      return .array prepared
    | .object values =>
      ensure (values.length = struct.fields.length) (.shape
        s!"tuple struct {typeName} requires {struct.fields.length} values but {values.length} were provided")
      let prepared ← prepareJsonFields spec texts values struct "tuple struct"
      return .object prepared
    | _ => .error (.shape s!"tuple struct {typeName} requires a JSON array or numeric-key object")
  else
    match value with
    | .object values =>
      match values.find? fun entry => entry.1 ∉ fieldNames spec struct with
      | some entry => .error (.shape s!"unknown field {spec.debug entry.1} for struct {typeName}")
      | none =>
        let prepared ← prepareJsonFields spec texts values struct "struct"
        return .object prepared
    | _ => .error (.shape s!"struct {typeName} requires a JSON object")
termination_by (value.size, 1)
decreasing_by
  all_goals (apply Prod.Lex.right; simp)

def prepareJsonUnionValue (spec : Spec) (texts : ValueTexts) (value : Json)
    (union : ScSpecUdtUnionV0) : Except PrepareError Json := do
  let typeName := spec.text union.name
  match value with
  | .string caseName =>
    match ← mapErr .shape (unionCase spec union typeName caseName) with
    | .voidV0 _ => return .string caseName
    | .tupleV0 _ _ => .error (.shape
        s!"case {spec.debug caseName} for union {typeName} requires a payload")
  | .object [(caseName, payload)] =>
    match ← mapErr .shape (unionCase spec union typeName caseName) with
    | .voidV0 _ => .error (.shape
        s!"void case {spec.debug caseName} for union {typeName} must be a JSON string")
    | .tupleV0 _ [typeDef] =>
      let prepared ← prepareJsonArgumentValue spec texts payload typeDef
      return .object [(caseName, prepared)]
    | .tupleV0 _ types =>
      match payload with
      | .array values =>
        ensure (values.length = types.length) (.shape
          s!"case {spec.debug caseName} for union {typeName} requires {types.length} values but {values.length} were provided")
        let prepared ← prepareJsonValues spec texts values types
        return .object [(caseName, .array prepared)]
      | _ => .error (.shape
          s!"case {spec.debug caseName} for union {typeName} requires a JSON array with {types.length} values")
  | _ => .error (.shape
      s!"union {typeName} requires a void-case string or a single-key case object")
termination_by (value.size, 1)
decreasing_by
  all_goals (apply Prod.Lex.left; exact Json.size_lt_of_single)

end

variable {spec : Spec} {texts : ValueTexts} {value : Json} {typeDef : ScSpecTypeDef}

/-- A type in it has no composed form. -/
def HoldsUncomposable (spec : Spec) (typeDef : ScSpecTypeDef) : Prop :=
  ∃ b, Relation.ReflTransGen (typeGraph spec 0).Edge typeDef b ∧ ¬ (typeGraph spec 0).good b

theorem HoldsUncomposable.of_not_good (h : ¬ (typeGraph spec 0).good typeDef) :
    HoldsUncomposable spec typeDef := ⟨typeDef, .refl, h⟩

theorem HoldsUncomposable.of_next {part : ScSpecTypeDef} (h : HoldsUncomposable spec part)
    (hpart : part ∈ (typeGraph spec 0).next typeDef) : HoldsUncomposable spec typeDef := by
  obtain ⟨b, hreach, hbad⟩ := h
  exact ⟨b, .head hpart hreach, hbad⟩

variable {name : List UInt8} {entry : ScSpecEntry}

/-- A type of its own that is not a type of values has no composed form. -/
theorem HoldsUncomposable.of_entry (hfind : spec.find (spec.text name) = .ok entry)
    (h : ¬ entry.IsValueType spec) : HoldsUncomposable spec (.udt name) := by
  apply of_not_good
  rintro ⟨other, hother, hvalue⟩
  rw [hfind] at hother
  obtain rfl := Except.ok.inj hother
  exact h hvalue

theorem HoldsUncomposable.of_valueTypes {part : ScSpecTypeDef}
    (hfind : spec.find (spec.text name) = .ok entry) (hpart : part ∈ entry.valueTypes)
    (h : HoldsUncomposable spec part) : HoldsUncomposable spec (.udt name) := by
  apply h.of_next
  simpa [typeGraph, hfind] using hpart

/-- The type is rejected only if it is to blame. -/
def Blames (blamed : Prop) : PrepareError → Prop
  | .type _ => blamed
  | .shape _ => True

theorem Blames.mono {p q : Prop} (h : p → q) : ∀ e, Blames p e → Blames q e
  | .type _ => h
  | .shape _ => id

/-- The kind of a struct is to blame if its fields are in no canonical order. -/
theorem contractStructIsTuple_blames {struct : ScSpecUdtStructV0} {others : Prop} :
    FailsIn (Blames (¬ (contractStructIsTuple spec struct).isOk ∨ others))
      (mapErr (fun error => .type (.notCanonical error)) (contractStructIsTuple spec struct)) := by
  cases contractStructIsTuple spec struct with
  | error error => exact .error (Or.inl (by simp [Except.isOk, Except.toBool]))
  | ok isTuple => exact .ok

/-- An array is rejected as a struct where one of its values is rejected as a field. -/
theorem prepareJsonStructValue_array_blames {struct : ScSpecUdtStructV0} {values : List Json}
    (hvalues : FailsIn
      (Blames (∃ part ∈ struct.fields.map (·.type), HoldsUncomposable spec part))
      (prepareJsonValues spec texts values (struct.fields.map (·.type)))) :
    FailsIn (Blames (¬ (contractStructIsTuple spec struct).isOk ∨
        ∃ field ∈ struct.fields, HoldsUncomposable spec field.type))
      (prepareJsonStructValue spec texts (.array values) struct) := by
  rw [prepareJsonStructValue]
  refine contractStructIsTuple_blames.bind fun isTuple _ => ?_
  cases isTuple with
  | false => exact .error trivial
  | true =>
    apply FailsIn.bind
    · exact .ensure trivial
    intro _ _
    refine FailsIn.bind (hvalues.mono (Blames.mono ?_)) fun _ _ => .ok
    rintro ⟨part, hpart, h⟩
    obtain ⟨field, hfield, rfl⟩ := List.mem_map.mp hpart
    exact Or.inr ⟨field, hfield, h⟩

/-- An object is rejected as a struct where one of its members is rejected as a field. -/
theorem prepareJsonStructValue_object_blames {struct : ScSpecUdtStructV0}
    {values : List (String × Json)}
    (htuple : FailsIn (Blames (∃ field ∈ struct.fields, HoldsUncomposable spec field.type))
      (prepareJsonFields spec texts values struct "tuple struct"))
    (hnamed : FailsIn (Blames (∃ field ∈ struct.fields, HoldsUncomposable spec field.type))
      (prepareJsonFields spec texts values struct "struct")) :
    FailsIn (Blames (¬ (contractStructIsTuple spec struct).isOk ∨
        ∃ field ∈ struct.fields, HoldsUncomposable spec field.type))
      (prepareJsonStructValue spec texts (.object values) struct) := by
  rw [prepareJsonStructValue]
  refine contractStructIsTuple_blames.bind fun isTuple _ => ?_
  cases isTuple with
  | false =>
    rw [if_neg Bool.false_ne_true]
    split
    · exact .error trivial
    · exact FailsIn.bind (hnamed.mono (Blames.mono Or.inr)) fun _ _ => .ok
  | true =>
    apply FailsIn.bind
    · exact .ensure trivial
    intro _ _
    exact FailsIn.bind (htuple.mono (Blames.mono Or.inr)) fun _ _ => .ok

/-- The payload of a case is one value, or an array with a value for each of the types. -/
theorem prepareJsonUnionValue_payload_blames {union : ScSpecUdtUnionV0} {caseName : String}
    {payload : Json}
    (hone : ∀ typeDef, FailsIn (Blames (HoldsUncomposable spec typeDef))
      (prepareJsonArgumentValue spec texts payload typeDef))
    (hmany : ∀ values types, payload = .array values →
      FailsIn (Blames (∃ part ∈ types, HoldsUncomposable spec part))
        (prepareJsonValues spec texts values types)) :
    FailsIn (Blames (∃ case ∈ union.cases, ∃ part ∈ case.types, HoldsUncomposable spec part))
      (prepareJsonUnionValue spec texts (.object [(caseName, payload)]) union) := by
  rw [prepareJsonUnionValue]
  apply FailsIn.bind
  · exact .mapErr fun _ => trivial
  intro case hcase
  have hmem : case ∈ union.cases := by
    rw [mapErr_eq_ok, unionCase, okOr_eq_ok, findCase] at hcase
    exact List.mem_of_find?_eq_some hcase
  -- no value, one value or several belong to the case
  split
  · exact .error trivial
  · rename_i typeDef
    refine FailsIn.bind ((hone typeDef).mono (Blames.mono fun h => ?_)) fun _ _ => .ok
    exact ⟨_, hmem, typeDef, List.mem_singleton_self _, h⟩
  · rename_i types _
    split
    · rename_i values
      apply FailsIn.bind
      · exact .ensure trivial
      intro _ _
      refine FailsIn.bind ((hmany values types rfl).mono (Blames.mono fun h => ?_))
        fun _ _ => .ok
      exact ⟨_, hmem, h⟩
    · exact .error trivial

/-- An input is rejected for its type only if a type in it has no composed form: a rejected
part is a part of the type. -/
theorem prepareJsonArgumentValue_blames :
    FailsIn (Blames (HoldsUncomposable spec typeDef))
      (prepareJsonArgumentValue spec texts value typeDef) := by
  refine (prepareJsonArgumentValue.mutual_induct spec texts
    (fun value typeDef => FailsIn (Blames (HoldsUncomposable spec typeDef))
      (prepareJsonArgumentValue spec texts value typeDef))
    (fun value union =>
      FailsIn (Blames (∃ case ∈ union.cases, ∃ part ∈ case.types, HoldsUncomposable spec part))
        (prepareJsonUnionValue spec texts value union))
    (fun values types => FailsIn (Blames (∃ part ∈ types, HoldsUncomposable spec part))
      (prepareJsonValues spec texts values types))
    (fun value struct =>
      FailsIn (Blames (¬ (contractStructIsTuple spec struct).isOk ∨
          ∃ field ∈ struct.fields, HoldsUncomposable spec field.type))
        (prepareJsonStructValue spec texts value struct))
    (fun values struct kind =>
      FailsIn (Blames (∃ field ∈ struct.fields, HoldsUncomposable spec field.type))
        (prepareJsonFields spec texts values struct kind))
    ?voidNull ?void ?timepointNumber ?timepoint ?durationNumber ?duration ?error ?result
    ?optionNull ?option ?vecArray ?vec ?mapObject ?map ?tupleArray ?tuple ?unresolved ?struct
    ?union ?enum ?errorEnum ?notValueType ?other ?unionName ?unionPayload ?unionShape
    ?valuesCons ?valuesNil ?structValue ?fields).1 value typeDef
  case error | result =>
    intros
    rw [prepareJsonArgumentValue]
    apply FailsIn.error
    exact .of_not_good (by simp [typeGraph, ContractInputComposition.rank])
  case option =>
    intro value valueType hnull ih
    rw [prepareJsonArgumentValue, if_neg hnull]
    exact ih.mono (Blames.mono fun h => h.of_next List.mem_cons_self)
  case vecArray =>
    intro elementType values ih
    rw [prepareJsonArgumentValue]
    refine FailsIn.bind (.mapM fun value hvalue => ?_) fun _ _ => .ok
    exact (ih value hvalue).mono (Blames.mono fun h => h.of_next List.mem_cons_self)
  case mapObject =>
    intro keyType valueType values ihkey ihvalue
    rw [prepareJsonArgumentValue]
    refine FailsIn.bind (.foldlM fun prepared entry hentry => ?_) fun _ _ => .ok
    apply FailsIn.bind
    · exact (ihkey entry hentry).mono (Blames.mono fun h => h.of_next List.mem_cons_self)
    intro preparedKey _
    apply FailsIn.bind
    · exact .mapErr fun _ => trivial
    intro preparedKey _
    apply FailsIn.bind
    · exact (ihvalue entry hentry).mono (Blames.mono fun h =>
        h.of_next (List.mem_cons_of_mem _ List.mem_cons_self))
    exact fun _ _ => .ok
  case tupleArray =>
    intro valueTypes values ih
    rw [prepareJsonArgumentValue]
    apply FailsIn.bind
    · exact .ensure trivial
    intro _ _
    refine FailsIn.bind (ih.mono (Blames.mono ?_)) fun _ _ => .ok
    rintro ⟨part, hpart, h⟩
    exact h.of_next hpart
  case unresolved =>
    intro value name typeName error hfind
    rw [prepareJsonArgumentValue, hfind]
    apply FailsIn.error
    apply HoldsUncomposable.of_not_good
    rintro ⟨entry, hentry, -⟩
    rw [hfind] at hentry
    cases hentry
  case errorEnum =>
    intro value name typeName enum hfind
    rw [prepareJsonArgumentValue, hfind]
    exact .error (HoldsUncomposable.of_entry hfind (by simp [ScSpecEntry.IsValueType]))
  case notValueType =>
    intro value name typeName entry hstruct hunion henum _ hfind
    have hvalue : ¬ entry.IsValueType spec := by
      cases entry <;> simp_all [ScSpecEntry.IsValueType]
    rw [prepareJsonArgumentValue, hfind]
    split <;> simp_all
    exact .error (HoldsUncomposable.of_entry hfind hvalue)
  case struct =>
    intro value name typeName struct hfind ih
    rw [prepareJsonArgumentValue, hfind]
    refine ih.mono (Blames.mono ?_)
    rintro (hcanonical | ⟨field, hfield, h⟩)
    · exact .of_entry hfind hcanonical
    · exact h.of_valueTypes hfind (List.mem_map_of_mem hfield)
  case union =>
    intro value name typeName union hfind ih
    rw [prepareJsonArgumentValue, hfind]
    refine ih.mono (Blames.mono ?_)
    rintro ⟨case, hcase, part, hpart, h⟩
    exact h.of_valueTypes hfind (List.mem_flatMap.mpr ⟨case, hcase, hpart⟩)
  case enum =>
    intro value name typeName enum hfind
    rw [prepareJsonArgumentValue, hfind]
    refine FailsIn.bind ?_ fun _ _ => .ok
    rw [validateJsonEnumShape]
    apply FailsIn.bind
    · exact .okOr trivial
    · exact fun _ _ => .ensure trivial
  case unionName =>
    intro union caseName
    rw [prepareJsonUnionValue]
    apply FailsIn.bind
    · exact .mapErr fun _ => trivial
    intro case _
    cases case with
    | voidV0 name => exact .ok
    | tupleV0 name types => exact .error trivial
  case unionPayload =>
    intro union caseName payload ih ihvalues
    refine prepareJsonUnionValue_payload_blames ih ?_
    rintro values types rfl
    exact ihvalues types
  case unionShape =>
    intro value union hname hpayload
    rw [prepareJsonUnionValue]
    · exact .error trivial
    all_goals assumption
  case valuesCons =>
    intro value values typeDef types ih ihvalues
    rw [prepareJsonValues]
    apply FailsIn.bind
    · exact ih.mono (Blames.mono fun h => ⟨typeDef, List.mem_cons_self, h⟩)
    intro _ _
    refine FailsIn.bind (ihvalues.mono (Blames.mono ?_)) fun _ _ => .ok
    rintro ⟨part, hpart, h⟩
    exact ⟨part, List.mem_cons_of_mem _ hpart, h⟩
  case valuesNil =>
    intro values types hcons
    rw [prepareJsonValues]
    · exact .ok
    · exact hcons
  case structValue =>
    intro value struct ihtuple ihnamed
    -- a tuple is an array or an object, any other struct is an object
    cases value with
    | array values => exact prepareJsonStructValue_array_blames ihtuple
    | object values => exact prepareJsonStructValue_object_blames ihtuple ihnamed
    | _ =>
      rw [prepareJsonStructValue]
      · refine contractStructIsTuple_blames.bind fun isTuple _ => ?_
        cases isTuple <;> exact .error trivial
      all_goals simp
  case fields =>
    intro values struct kind ih
    rw [prepareJsonFields]
    apply FailsIn.foldlM
    intro prepared field hfield
    dsimp only
    split
    · exact .error trivial
    · rename_i fieldValue hlookup
      apply FailsIn.bind
      · exact (ih field fieldValue hlookup).mono (Blames.mono fun h => ⟨field, hfield, h⟩)
      · exact fun _ _ => .ok
  all_goals
    intros
    simp_all [prepareJsonArgumentValue, FailsIn.ok]


/-- The composition of an input agrees with the gate, and what can be composed as typed
JSON is never rejected for its type. -/
theorem composition_agrees (spec : Spec) (texts : ValueTexts) (typeDef : ScSpecTypeDef)
    (value : Json) (rejection : TypeRejection) :
    (contractInputComposition spec typeDef [] = unsupported ↔
      ∃ e, ensureContractTypeNormalizationSafe spec typeDef [] = .error e) ∧
    (contractInputComposition spec typeDef [] = typedJson →
      prepareJsonArgumentValue spec texts value typeDef ≠ .error (.type rejection)) := by
  refine ⟨composition_unsupported_iff, fun htyped hrejected => ?_⟩
  have hgood : ∀ b, Relation.ReflTransGen (typeGraph spec 0).Edge typeDef b →
      (typeGraph spec 0).good b := by
    apply (composition_le_iff (by decide)).mp
    exact rank_eq_zero_iff.mpr htyped
  obtain ⟨b, hreach, hbad⟩ := prepareJsonArgumentValue_blames _ hrejected
  exact hbad (hgood b hreach)

end Fresnica.Contract
