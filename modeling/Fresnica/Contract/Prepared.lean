import Fresnica.Contract.Prepare
import Fresnica.Contract.Validate

/-!
# What a preparation computes

A value that is prepared has its parts prepared in their places: a sequence keeps its
places, a struct its fields, a union its case and payload. The keys of a map are prepared
too, and its entries are put into a new object one by one.

## Main definitions

* `preparedKey` — the spelling of a key of a map
* `PreparedAt` — the prepared form of a value, its parts prepared in their places

## Main results

* `prepareJsonFields_eq_ok`, `prepareMap_eq_ok` — the loops over fields and entries
* `preparedAt_of_ok` — what a preparation computes
-/

namespace Fresnica.Contract

open Foundation

/-- The spelling of a key: its value prepared, if the crate reads that, or else the key. -/
def preparedKey (spec : Spec) (texts : ValueTexts) (keyType : ScSpecTypeDef) (key : String) :
    Except PrepareError String := do
  let keyValue := (texts.parse key).getD (.string key)
  let prepared ← prepareJsonArgumentValue spec texts keyValue keyType
  let encoded ← mapErr (fun error =>
    .shape s!"unable to encode map key {spec.debug key}: {error}") (texts.encode prepared)
  return if texts.fromString encoded keyType then encoded else key

/-- Values in the places of their types. -/
def InPlaces (spec : Spec) (texts : ValueTexts) (types : List ScSpecTypeDef) (values : List Json)
    (prepared : Json) : Prop :=
  ∃ items, prepared = .array items ∧ values.length = types.length ∧
    List.Forall₂ (fun given item => prepareJsonArgumentValue spec texts given.1 given.2 = .ok item)
      (values.zip types) items

/-- The members are the given entries, each name once. -/
def Members (entries members : List (String × Json)) : Prop :=
  members.Perm entries ∧ (members.map Prod.fst).Nodup

/-- The members are what is left when the entries are put into an object one by one. -/
def PutIn (entries members : List (String × Json)) : Prop :=
  entries.foldl (fun members entry => insertMember entry.1 entry.2 members) [] = members

/-- The declared fields of a struct, each with the prepared form of its own value. -/
def StructKept (spec : Spec) (texts : ValueTexts) (struct : ScSpecUdtStructV0)
    (value prepared : Json) : Prop :=
  match value with
  | .array values => InPlaces spec texts (struct.fields.map (·.type)) values prepared
  | .object values =>
    (∀ key ∈ values.map Prod.fst, key ∈ fieldNames spec struct) ∧
      ∃ entries members, prepared = .object members ∧ Members entries members ∧
        List.Forall₂ (fun field entry => entry.1 = spec.text field.name ∧
          ∃ given, values.lookup entry.1 = some given ∧
            prepareJsonArgumentValue spec texts given field.type = .ok entry.2)
          struct.fields entries
  | _ => False

/-- The case of a union, with as many prepared payload values as it has types. -/
def UnionKept (spec : Spec) (texts : ValueTexts) (union : ScSpecUdtUnionV0)
    (value prepared : Json) : Prop :=
  match value with
  | .string caseName => (∃ name, findCase spec union caseName = some (.voidV0 name)) ∧
      prepared = .string caseName
  | .object [(caseName, payload)] =>
    ∃ name types item, findCase spec union caseName = some (.tupleV0 name types) ∧
      prepared = .object [(caseName, item)] ∧
      ((∃ typeDef, types = [typeDef] ∧
          prepareJsonArgumentValue spec texts payload typeDef = .ok item) ∨
        types.length ≠ 1 ∧ ∃ values, payload = .array values ∧
          InPlaces spec texts types values item)
  | _ => False

/-- The prepared form of a value at a type. The entries of a map are joined in a given way. -/
def PreparedAt (joined : List (String × Json) → List (String × Json) → Prop) (spec : Spec)
    (texts : ValueTexts) (typeDef : ScSpecTypeDef) (value prepared : Json) : Prop :=
  match typeDef with
  | .void => prepared = if value.isNull then .string "void" else value
  | .timepoint =>
    match value with
    | .number number => prepared = .object [("timepoint", .string number.text)]
    | _ => prepared = value
  | .duration =>
    match value with
    | .number number => prepared = .object [("duration", .string number.text)]
    | _ => prepared = value
  | .option valueType =>
    if value.isNull then prepared = .null
    else prepareJsonArgumentValue spec texts value valueType = .ok prepared
  | .vec elementType =>
    match value with
    | .array values => ∃ items, prepared = .array items ∧ List.Forall₂ (fun value item =>
        prepareJsonArgumentValue spec texts value elementType = .ok item) values items
    | _ => prepared = value
  | .map keyType valueType =>
    match value with
    | .object values => ∃ entries members, prepared = .object members ∧ joined entries members ∧
        List.Forall₂ (fun given entry => preparedKey spec texts keyType given.1 = .ok entry.1 ∧
          prepareJsonArgumentValue spec texts given.2 valueType = .ok entry.2) values entries
    | _ => prepared = value
  | .tuple valueTypes =>
    match value with
    | .array values => InPlaces spec texts valueTypes values prepared
    | _ => prepared = value
  | .udt name =>
    match spec.find (spec.text name) with
    | .ok (.udtStructV0 struct) => StructKept spec texts struct value prepared
    | .ok (.udtUnionV0 union) => UnionKept spec texts union value prepared
    | _ => prepared = value
  | _ => prepared = value

variable {spec : Spec} {texts : ValueTexts} {typeDef : ScSpecTypeDef}
variable {types : List ScSpecTypeDef} {value prepared : Json} {values items : List Json}
variable {members entries given : List (String × Json)} {struct : ScSpecUdtStructV0}
variable {union : ScSpecUdtUnionV0}

/-! ### Sequences and structs -/

theorem prepareJsonValues_eq_ok :
    prepareJsonValues spec texts values types = .ok items ↔
      List.Forall₂ (fun given item =>
        prepareJsonArgumentValue spec texts given.1 given.2 = .ok item)
        (values.zip types) items := by
  induction values generalizing types items with
  | nil =>
    rw [prepareJsonValues, List.zip_nil_left, List.forall₂_nil_left_iff, Except.ok.injEq, eq_comm]
    simp
  | cons value values ih =>
    -- the shorter of the two lists ends the preparation
    cases types with
    | nil =>
      rw [prepareJsonValues, List.zip_nil_right, List.forall₂_nil_left_iff, Except.ok.injEq,
        eq_comm]
      simp
    | cons typeDef types =>
      rw [prepareJsonValues, List.zip_cons_cons, List.forall₂_cons_left_iff]
      simp only [bind_eq_ok, ih, pure_eq_ok, Except.ok.injEq]
      constructor
      · intro h
        obtain ⟨item, hitem, rest, hrest, rfl⟩ := h
        exact ⟨item, rest, hitem, hrest, rfl⟩
      · intro h
        obtain ⟨item, rest, hitem, hrest, rfl⟩ := h
        exact ⟨item, hitem, rest, hrest, rfl⟩

/-- The prepared form of a field, with its name. -/
def preparedField (spec : Spec) (texts : ValueTexts) (values : List (String × Json))
    (struct : ScSpecUdtStructV0) (kind : String) (field : ScSpecUdtStructFieldV0) :
    Except PrepareError (String × Json) :=
  match values.lookup (spec.text field.name) with
  | none => .error (.shape
      s!"missing field {spec.debug (spec.text field.name)} for {kind} {spec.text struct.name}")
  | some given => do
    let prepared ← prepareJsonArgumentValue spec texts given field.type
    return (spec.text field.name, prepared)

theorem preparedField_eq_ok {kind : String} {field : ScSpecUdtStructFieldV0}
    {entry : String × Json} :
    preparedField spec texts given struct kind field = .ok entry ↔
      entry.1 = spec.text field.name ∧ ∃ value, given.lookup entry.1 = some value ∧
        prepareJsonArgumentValue spec texts value field.type = .ok entry.2 := by
  unfold preparedField
  constructor
  · intro h
    cases hlookup : given.lookup (spec.text field.name) with
    | none => simp [hlookup] at h
    | some value =>
      rw [hlookup] at h
      obtain ⟨prepared, hprepared, h⟩ := bind_eq_ok.mp h
      obtain rfl := Except.ok.inj h
      exact ⟨rfl, value, hlookup, hprepared⟩
  · intro h
    obtain ⟨hname, value, hlookup, hprepared⟩ := h
    rw [hname] at hlookup
    rw [hlookup]
    exact bind_eq_ok.mpr ⟨entry.2, hprepared, congrArg Except.ok (Prod.ext hname.symm rfl)⟩

/-- The fields are read one by one and put in. -/
theorem prepareJsonFields_eq (kind : String) :
    prepareJsonFields spec texts given struct kind =
      struct.fields.foldlM (fun members field =>
        preparedField spec texts given struct kind field >>= fun entry =>
          .ok (insertMember entry.1 entry.2 members)) [] := by
  rw [prepareJsonFields]
  congr 1
  funext members field
  unfold preparedField
  dsimp only
  split
  · rename_i hlookup
    rw [hlookup]
    rfl
  · rename_i value hlookup
    rw [hlookup]
    simp only [bind_assoc, pure_eq_ok, ok_bind]

theorem prepareJsonFields_eq_ok {kind : String} :
    prepareJsonFields spec texts given struct kind = .ok members ↔
      ∃ entries, List.Forall₂ (fun field entry => entry.1 = spec.text field.name ∧
        ∃ value, given.lookup entry.1 = some value ∧
          prepareJsonArgumentValue spec texts value field.type = .ok entry.2)
        struct.fields entries ∧ PutIn entries members := by
  rw [prepareJsonFields_eq, foldlM_read_eq_ok]
  simp only [preparedField_eq_ok]
  exact Iff.rfl

theorem toString_nat_injective : Function.Injective (toString : ℕ → String) := by
  intro m n h
  have hdigits : Nat.toDigits 10 m = Nat.toDigits 10 n :=
    String.ofList_injective h
  rw [← Nat.ofDigitChars_ten_toDigits (n := m), hdigits, Nat.ofDigitChars_ten_toDigits]

theorem fieldNames_nodup {isTuple : Bool} (h : contractStructIsTuple spec struct = .ok isTuple) :
    (fieldNames spec struct).Nodup := by
  unfold contractStructIsTuple at h
  dsimp only at h
  by_cases htuple : (fieldNames spec struct).head? = some "0"
  · rw [if_pos htuple, ensure_bind_eq_ok] at h
    rw [h.1]
    exact List.nodup_range.map toString_nat_injective
  · have hnamed : isTuple = false := by
      rw [Bool.eq_false_iff, Ne, (contractStructIsTuple_eq_ok h).1]
      exact htuple
    exact ((contractStructIsTuple_eq_ok h).2 hnamed).imp fun hlt => ne_of_lt hlt

/-- Entries of different names that are put in are the members. -/
theorem PutIn.isMembers (h : PutIn entries members) (hnodup : (entries.map Prod.fst).Nodup) :
    Members entries members := by
  have hperm : members.Perm entries := by
    rw [← List.append_nil entries] at hnodup
    have hput := foldl_insertMember_perm hnodup
    rw [List.append_nil] at hput
    rw [← h]
    exact hput
  exact ⟨hperm, (hperm.map Prod.fst).nodup_iff.mpr hnodup⟩

theorem Members.nodup (h : Members entries members) : (entries.map Prod.fst).Nodup :=
  (h.1.map Prod.fst).nodup_iff.mp h.2

theorem names_of_fields {fields : List ScSpecUdtStructFieldV0}
    {P : ScSpecUdtStructFieldV0 → String × Json → Prop}
    (h : List.Forall₂ (fun field entry => entry.1 = spec.text field.name ∧ P field entry) fields
      entries) :
    entries.map Prod.fst = fields.map fun field => spec.text field.name := by
  induction h with
  | nil => rfl
  | cons hfield _ ih => rw [List.map_cons, List.map_cons, ih, hfield.1]

/-- An entry of a map with its key and its value prepared. -/
def preparedEntry (spec : Spec) (texts : ValueTexts) (keyType valueType : ScSpecTypeDef)
    (entry : String × Json) : Except PrepareError (String × Json) := do
  let key ← preparedKey spec texts keyType entry.1
  let value ← prepareJsonArgumentValue spec texts entry.2 valueType
  return (key, value)

theorem preparedEntry_eq_ok {keyType valueType : ScSpecTypeDef} {entry result : String × Json} :
    preparedEntry spec texts keyType valueType entry = .ok result ↔
      preparedKey spec texts keyType entry.1 = .ok result.1 ∧
        prepareJsonArgumentValue spec texts entry.2 valueType = .ok result.2 := by
  unfold preparedEntry
  constructor
  · intro h
    obtain ⟨key, hkey, h⟩ := bind_eq_ok.mp h
    obtain ⟨value, hvalue, h⟩ := bind_eq_ok.mp h
    obtain rfl := Except.ok.inj h
    exact ⟨hkey, hvalue⟩
  · intro h
    exact bind_eq_ok.mpr ⟨result.1, h.1, bind_eq_ok.mpr ⟨result.2, h.2, rfl⟩⟩

/-- The entries of a map are prepared one by one and put in. -/
theorem prepareMap_eq (keyType valueType : ScSpecTypeDef) :
    prepareJsonArgumentValue spec texts (.object given) (.map keyType valueType) =
      (given.foldlM (fun members entry =>
        preparedEntry spec texts keyType valueType entry >>= fun entry =>
          .ok (insertMember entry.1 entry.2 members)) [] >>= fun members =>
            .ok (.object members)) := by
  rw [prepareJsonArgumentValue]
  congr 1
  congr 1
  funext members entry
  simp only [preparedEntry, preparedKey, bind_assoc, pure_eq_ok, ok_bind]

theorem prepareMap_eq_ok {keyType valueType : ScSpecTypeDef} :
    prepareJsonArgumentValue spec texts (.object given) (.map keyType valueType) = .ok prepared ↔
      ∃ entries members, prepared = .object members ∧ PutIn entries members ∧
        List.Forall₂ (fun given entry => preparedKey spec texts keyType given.1 = .ok entry.1 ∧
          prepareJsonArgumentValue spec texts given.2 valueType = .ok entry.2) given entries := by
  rw [prepareMap_eq, bind_eq_ok]
  simp only [foldlM_read_eq_ok, preparedEntry_eq_ok]
  constructor
  · intro h
    obtain ⟨members, ⟨entries, hentries, hput⟩, h⟩ := h
    exact ⟨entries, members, (Except.ok.inj h).symm, hput, hentries⟩
  · intro h
    obtain ⟨entries, members, rfl, hput, hentries⟩ := h
    exact ⟨members, ⟨entries, hentries, hput⟩, rfl⟩

theorem inPlaces_of_ok
    (h : (ensure (values.length = types.length) e >>= fun _ =>
      prepareJsonValues spec texts values types >>= fun items =>
        (.ok (.array items) : Except PrepareError Json)) = .ok prepared) :
    InPlaces spec texts types values prepared := by
  rw [ensure_bind_eq_ok, bind_eq_ok] at h
  obtain ⟨hlength, items, hitems, h⟩ := h
  exact ⟨items, (Except.ok.inj h).symm, hlength, prepareJsonValues_eq_ok.mp hitems⟩

/-- As many keys as there are fields, and every field among them: no other key. -/
theorem mem_fieldNames_of_length {kind : String} (hnodup : (fieldNames spec struct).Nodup)
    (hlength : given.length = struct.fields.length)
    (hfields : prepareJsonFields spec texts given struct kind = .ok members) :
    ∀ key ∈ given.map Prod.fst, key ∈ fieldNames spec struct := by
  obtain ⟨entries, hentries, -⟩ := prepareJsonFields_eq_ok.mp hfields
  have hsubset : fieldNames spec struct ⊆ given.map Prod.fst := by
    intro name hname
    rw [fieldNames, ← names_of_fields hentries] at hname
    obtain ⟨entry, hentry, rfl⟩ := List.mem_map.mp hname
    obtain ⟨field, -, -, value, hlookup, -⟩ := exists_of_forall₂ hentries.flip hentry
    obtain ⟨before, after, hgiven, -⟩ := List.lookup_eq_some_iff.mp hlookup
    rw [hgiven]
    simp
  have hperm := (hnodup.subperm hsubset).perm_of_length_le (by simp [fieldNames, hlength])
  intro key hkey
  exact hperm.mem_iff.mpr hkey

theorem structKept_of_ok (h : prepareJsonStructValue spec texts value struct = .ok prepared) :
    StructKept spec texts struct value prepared := by
  cases value with
  | null | bool _ | number _ | string _ =>
    rw [prepareJsonStructValue] at h
    · obtain ⟨isTuple, -, h⟩ := bind_eq_ok.mp h
      cases isTuple <;> simp at h
    all_goals simp
  | array values =>
    rw [prepareJsonStructValue] at h
    obtain ⟨isTuple, -, h⟩ := bind_eq_ok.mp h
    cases isTuple with
    | false => simp at h
    | true =>
      rw [if_pos rfl] at h
      exact inPlaces_of_ok (by simpa using h)
  | object given =>
    rw [prepareJsonStructValue] at h
    obtain ⟨isTuple, hcanonical, h⟩ := bind_eq_ok.mp h
    have hnodup := fieldNames_nodup (mapErr_eq_ok.mp hcanonical)
    -- the fields are prepared in their order, and their names are different
    have hfields : ∀ kind members, prepareJsonFields spec texts given struct kind = .ok members →
        ∃ entries, Members entries members ∧ List.Forall₂ (fun field entry =>
          entry.1 = spec.text field.name ∧ ∃ value, given.lookup entry.1 = some value ∧
            prepareJsonArgumentValue spec texts value field.type = .ok entry.2)
          struct.fields entries := by
      intro kind members hok
      obtain ⟨entries, hentries, hput⟩ := prepareJsonFields_eq_ok.mp hok
      refine ⟨entries, hput.isMembers ?_, hentries⟩
      rw [names_of_fields hentries]
      exact hnodup
    cases isTuple with
    | true =>
      rw [if_pos rfl] at h
      rw [ensure_bind_eq_ok, bind_eq_ok] at h
      obtain ⟨hlength, members, hmembers, h⟩ := h
      obtain ⟨entries, hjoined, hentries⟩ := hfields _ members hmembers
      exact ⟨mem_fieldNames_of_length hnodup hlength hmembers, entries, members,
        (Except.ok.inj h).symm, hjoined, hentries⟩
    | false =>
      rw [if_neg Bool.false_ne_true] at h
      split at h
      · simp at h
      · rename_i hunknown
        obtain ⟨members, hmembers, h⟩ := bind_eq_ok.mp h
        obtain ⟨entries, hjoined, hentries⟩ := hfields _ members hmembers
        refine ⟨?_, entries, members, (Except.ok.inj h).symm, hjoined, hentries⟩
        intro key hkey
        obtain ⟨entry, hentry, rfl⟩ := List.mem_map.mp hkey
        simpa using List.find?_eq_none.mp hunknown entry hentry

theorem unionKept_of_ok (h : prepareJsonUnionValue spec texts value union = .ok prepared) :
    UnionKept spec texts union value prepared := by
  cases value with
  | string caseName =>
    rw [prepareJsonUnionValue] at h
    obtain ⟨case, hcase, h⟩ := bind_eq_ok.mp h
    rw [mapErr_eq_ok, unionCase, okOr_eq_ok] at hcase
    cases case with
    | voidV0 name => exact ⟨⟨name, hcase⟩, (Except.ok.inj h).symm⟩
    | tupleV0 name types => exact absurd h (by simp)
  | object given =>
    -- an object names the case by its only member
    rcases given with - | ⟨⟨caseName, payload⟩, - | ⟨second, given⟩⟩
    · rw [prepareJsonUnionValue] at h
      · exact absurd h (by simp)
      all_goals simp
    · rw [prepareJsonUnionValue] at h
      obtain ⟨case, hcase, h⟩ := bind_eq_ok.mp h
      rw [mapErr_eq_ok, unionCase, okOr_eq_ok] at hcase
      split at h
      · exact absurd h (by simp)
      · rename_i name typeDef
        obtain ⟨item, hitem, h⟩ := bind_eq_ok.mp h
        exact ⟨name, _, item, hcase, (Except.ok.inj h).symm, Or.inl ⟨typeDef, rfl, hitem⟩⟩
      · rename_i name types htypes
        -- several values are given as an array
        cases payload with
        | array values =>
          rw [ensure_bind_eq_ok, bind_eq_ok] at h
          obtain ⟨hlength, items, hitems, h⟩ := h
          refine ⟨name, types, .array items, hcase, (Except.ok.inj h).symm, Or.inr ⟨?_, values,
            rfl, items, rfl, hlength, prepareJsonValues_eq_ok.mp hitems⟩⟩
          intro hone
          obtain ⟨typeDef, rfl⟩ := List.length_eq_one_iff.mp hone
          exact htypes typeDef rfl
        | _ => exact absurd h (by simp)
    · rw [prepareJsonUnionValue] at h
      · exact absurd h (by simp)
      all_goals simp
  | _ =>
    rw [prepareJsonUnionValue] at h
    · exact absurd h (by simp)
    all_goals simp

/-- What a preparation computes. -/
theorem preparedAt_of_ok (h : prepareJsonArgumentValue spec texts value typeDef = .ok prepared) :
    PreparedAt PutIn spec texts typeDef value prepared := by
  cases typeDef with
  | void =>
    rw [prepareJsonArgumentValue] at h
    unfold PreparedAt
    split_ifs at h ⊢ <;> exact (Except.ok.inj h).symm
  | timepoint | duration =>
    unfold PreparedAt
    cases value with
    | number number =>
      rw [prepareJsonArgumentValue] at h
      exact (Except.ok.inj h).symm
    | _ =>
      rw [prepareJsonArgumentValue] at h
      · exact (Except.ok.inj h).symm
      all_goals simp
  -- no value of such a type is accepted
  | error | result _ _ =>
    rw [prepareJsonArgumentValue] at h
    exact absurd h (by simp)
  | option valueType =>
    rw [prepareJsonArgumentValue] at h
    unfold PreparedAt
    split_ifs at h ⊢
    · exact (Except.ok.inj h).symm
    · exact h
  | vec elementType =>
    unfold PreparedAt
    cases value with
    | array values =>
      rw [prepareJsonArgumentValue] at h
      obtain ⟨items, hitems, h⟩ := bind_eq_ok.mp h
      exact ⟨items, (Except.ok.inj h).symm, mapM_eq_ok.mp (by simpa using hitems)⟩
    | _ =>
      rw [prepareJsonArgumentValue] at h
      · exact (Except.ok.inj h).symm
      all_goals simp
  | map keyType valueType =>
    unfold PreparedAt
    cases value with
    | object given => exact prepareMap_eq_ok.mp h
    | _ =>
      rw [prepareJsonArgumentValue] at h
      · exact (Except.ok.inj h).symm
      all_goals simp
  | tuple valueTypes =>
    unfold PreparedAt
    cases value with
    | array values =>
      rw [prepareJsonArgumentValue] at h
      exact inPlaces_of_ok (by simpa using h)
    | _ =>
      rw [prepareJsonArgumentValue] at h
      · exact (Except.ok.inj h).symm
      all_goals simp
  | udt name =>
    rw [prepareJsonArgumentValue] at h
    cases hfind : spec.find (spec.text name) with
    | error error => simp [hfind] at h
    | ok entry =>
      simp only [hfind] at h
      simp only [PreparedAt, hfind]
      cases entry with
      | udtStructV0 struct => exact structKept_of_ok h
      | udtUnionV0 union => exact unionKept_of_ok h
      | udtEnumV0 enum =>
        obtain ⟨-, -, h⟩ := bind_eq_ok.mp h
        exact (Except.ok.inj h).symm
      | _ => exact absurd h (by simp)
  -- any other type leaves the value as it is
  | _ =>
    rw [prepareJsonArgumentValue] at h
    · exact (Except.ok.inj h).symm
    all_goals simp

end Fresnica.Contract
