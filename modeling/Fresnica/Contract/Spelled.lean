import Fresnica.Contract.Prepared

/-!
# The spelling of a value

Some values can be given in several spellings: the void value as null or by its name, a
time as a number or as the object of its kind, and the key of a map as any text that is read
as its value. Every value has one spelling among these that the spec crate reads, which is
told from the value and its type alone.

## Main definitions

* `spelledAt` — a value in that spelling
* `spelledKey` — a key of a map in that spelling

## Main results

* `spelledKey_of_plain` — the spelling of a key whose type has one spelling for each value
* `spells`, `spelledKey_of_ok` — a preparation that succeeds is the spelling
-/

namespace Fresnica.Contract

open Foundation

/-- The members of the object that entries are put into one by one. -/
def membersOf (entries : List (String × Json)) : List (String × Json) :=
  entries.foldl (fun members entry => insertMember entry.1 entry.2 members) []

/-- The text of a value where the crate reads it as a key, or else the key as it was. -/
def ValueTexts.keyText (texts : ValueTexts) (keyType : ScSpecTypeDef) (key : String)
    (value : Json) : String :=
  match texts.encode value with
  | .ok text => if texts.fromString text keyType then text else key
  | .error _ => key

mutual

/-- A value in the spelling of its type. -/
def spelledAt (spec : Spec) (texts : ValueTexts) (value : Json) (typeDef : ScSpecTypeDef) :
    Json :=
  match typeDef with
  | .void => if value.isNull then .string "void" else value
  | .timepoint =>
    match value with
    | .number number => .object [("timepoint", .string number.text)]
    | _ => value
  | .duration =>
    match value with
    | .number number => .object [("duration", .string number.text)]
    | _ => value
  | .option valueType => if value.isNull then .null else spelledAt spec texts value valueType
  | .vec elementType =>
    match value with
    | .array values => .array (values.map fun value => spelledAt spec texts value elementType)
    | _ => value
  | .map keyType valueType =>
    match value with
    | .object values => .object (membersOf (values.map fun entry =>
        (texts.keyText keyType entry.1
            (spelledAt spec texts ((texts.parse entry.1).getD (.string entry.1)) keyType),
          spelledAt spec texts entry.2 valueType)))
    | _ => value
  | .tuple valueTypes =>
    match value with
    | .array values => .array (spelledValues spec texts values valueTypes)
    | _ => value
  | .udt name =>
    match spec.find (spec.text name) with
    | .ok (.udtStructV0 struct) =>
      match value with
      | .array values => .array (spelledValues spec texts values (struct.fields.map (·.type)))
      | .object values => .object (membersOf (struct.fields.filterMap fun field =>
          match _ : values.lookup (spec.text field.name) with
          | none => none
          | some given => some (spec.text field.name, spelledAt spec texts given field.type)))
      | _ => value
    | .ok (.udtUnionV0 union) =>
      match value with
      | .object [(caseName, payload)] =>
        match findCase spec union caseName with
        | some (.tupleV0 _ [typeDef]) =>
          .object [(caseName, spelledAt spec texts payload typeDef)]
        | some (.tupleV0 _ types) =>
          match payload with
          | .array values => .object [(caseName, .array (spelledValues spec texts values types))]
          | _ => value
        | _ => value
      | _ => value
    | _ => value
  | _ => value
termination_by (value.size, sizeOf typeDef)
decreasing_by
  · apply Prod.Lex.right; decreasing_trivial
  · apply Prod.Lex.left; exact Json.size_lt_of_mem_items (by assumption)
  · apply Prod.Lex.left; exact texts.size_key_lt (by assumption)
  · apply Prod.Lex.left; exact Json.size_lt_of_member (by assumption)
  · apply Prod.Lex.right; simp
  · apply Prod.Lex.right; simp
  · apply Prod.Lex.left; exact Json.size_lt_of_lookup (by assumption)
  · apply Prod.Lex.left; exact Json.size_lt_of_single
  · apply Prod.Lex.left; exact Json.size_lt_of_single

/-- Values in the spellings of their types. -/
def spelledValues (spec : Spec) (texts : ValueTexts) (values : List Json)
    (types : List ScSpecTypeDef) : List Json :=
  match values, types with
  | value :: values, typeDef :: types =>
    spelledAt spec texts value typeDef :: spelledValues spec texts values types
  | _, _ => []
termination_by ((Json.array values).size, 0)
decreasing_by
  · apply Prod.Lex.left; exact Json.size_lt_of_mem_items List.mem_cons_self
  · apply Prod.Lex.left; exact Json.size_array_tail_lt

end

/-- A key of a map in the spelling of its type. -/
def spelledKey (spec : Spec) (texts : ValueTexts) (keyType : ScSpecTypeDef) (key : String) :
    String :=
  texts.keyText keyType key
    (spelledAt spec texts ((texts.parse key).getD (.string key)) keyType)

variable {spec : Spec} {texts : ValueTexts} {typeDef : ScSpecTypeDef}
variable {types : List ScSpecTypeDef} {value prepared : Json} {values items : List Json}
variable {given : List (String × Json)} {struct : ScSpecUdtStructV0} {union : ScSpecUdtUnionV0}

/-! ### Types of one spelling -/

/-- A type with one spelling for each of its values. -/
def ScSpecTypeDef.IsPlain : ScSpecTypeDef → Prop
  | .void | .timepoint | .duration | .option _ | .vec _ | .map _ _ | .tuple _ | .udt _ => False
  | _ => True

theorem spelledAt_of_plain (h : typeDef.IsPlain) : spelledAt spec texts value typeDef = value := by
  cases typeDef with
  | void | timepoint | duration | option _ | vec _ | map _ _ | tuple _ | udt _ => exact h.elim
  | _ =>
    rw [spelledAt]
    all_goals simp

/-- A key of such a type is the text of the value that it is read as, where the crate takes
that text. -/
theorem spelledKey_of_plain {key : String} (h : typeDef.IsPlain) :
    spelledKey spec texts typeDef key =
      texts.keyText typeDef key ((texts.parse key).getD (.string key)) := by
  rw [spelledKey, spelledAt_of_plain h]

/-! ### A preparation is the spelling -/

/-- A value that is prepared is prepared in its spelling. -/
def Spells (spec : Spec) (texts : ValueTexts) (value : Json) (typeDef : ScSpecTypeDef) : Prop :=
  ∀ {prepared}, prepareJsonArgumentValue spec texts value typeDef = .ok prepared →
    spelledAt spec texts value typeDef = prepared

/-- A key whose value is prepared in its spelling is put in with its own. -/
theorem spelledKey_of_spells {keyType : ScSpecTypeDef} {key text : String}
    (hspells : Spells spec texts ((texts.parse key).getD (.string key)) keyType)
    (h : preparedKey spec texts keyType key = .ok text) :
    spelledKey spec texts keyType key = text := by
  obtain ⟨item, hitem, h⟩ := bind_eq_ok.mp h
  obtain ⟨encoded, hencoded, h⟩ := bind_eq_ok.mp h
  rw [spelledKey, hspells hitem, ValueTexts.keyText, mapErr_eq_ok.mp hencoded]
  exact Except.ok.inj h

theorem spelledValues_of_spells
    (hspells : ∀ value ∈ values, ∀ typeDef, Spells spec texts value typeDef)
    (h : prepareJsonValues spec texts values types = .ok items) :
    spelledValues spec texts values types = items := by
  induction values generalizing types items with
  | nil =>
    rw [prepareJsonValues] at h
    · rw [spelledValues]
      · exact Except.ok.inj h
      all_goals simp
    all_goals simp
  | cons value values ih =>
    cases types with
    | nil =>
      rw [prepareJsonValues] at h
      · rw [spelledValues]
        · exact Except.ok.inj h
        all_goals simp
      all_goals simp
    | cons typeDef types =>
      rw [prepareJsonValues] at h
      obtain ⟨item, hitem, h⟩ := bind_eq_ok.mp h
      obtain ⟨rest, hrest, h⟩ := bind_eq_ok.mp h
      rw [spelledValues, hspells value List.mem_cons_self typeDef hitem,
        ih (fun value hvalue => hspells value (List.mem_cons_of_mem _ hvalue)) hrest]
      exact Except.ok.inj h

/-- The entries of a map, with keys and values prepared in their spellings. -/
theorem spells_map {keyType valueType : ScSpecTypeDef}
    (hkeys : ∀ entry ∈ given,
      Spells spec texts ((texts.parse entry.1).getD (.string entry.1)) keyType)
    (hvalues : ∀ entry ∈ given, Spells spec texts entry.2 valueType) :
    Spells spec texts (.object given) (.map keyType valueType) := by
  intro prepared h
  obtain ⟨entries, members, rfl, hput, hentries⟩ := prepareMap_eq_ok.mp h
  have hspelled : (given.map fun entry => (spelledKey spec texts keyType entry.1,
      spelledAt spec texts entry.2 valueType)) = entries := by
    apply map_eq_of_forall₂ hentries
    intro entry hentry result hok
    exact Prod.ext (spelledKey_of_spells (hkeys entry hentry) hok.1) (hvalues entry hentry hok.2)
  rw [spelledAt, ← hput, ← hspelled]
  rfl

/-- The fields of a struct, with values prepared in their spellings. -/
theorem filterMap_field_of_spells {fields : List ScSpecUdtStructFieldV0}
    {entries : List (String × Json)}
    (hspells : ∀ {name value}, given.lookup name = some value → ∀ typeDef,
      Spells spec texts value typeDef)
    (h : List.Forall₂ (fun field entry => entry.1 = spec.text field.name ∧
      ∃ value, given.lookup entry.1 = some value ∧
        prepareJsonArgumentValue spec texts value field.type = .ok entry.2) fields entries) :
    (fields.filterMap fun field =>
      match _ : given.lookup (spec.text field.name) with
      | none => none
      | some value => some (spec.text field.name, spelledAt spec texts value field.type)) =
        entries := by
  induction h with
  | nil => rfl
  | @cons field entry fields entries hfield _ ih =>
    obtain ⟨hname, value, hlookup, hok⟩ := hfield
    rw [hname] at hlookup
    have hspelled : spelledAt spec texts value field.type = entry.2 :=
      hspells hlookup field.type hok
    rw [List.filterMap_cons, ih]
    split
    · rename_i hnone
      split at hnone <;> simp_all
    · rename_i result hsome
      split at hsome
      · simp_all
      · rename_i found hfound
        obtain rfl := Option.some.inj (hlookup.symm.trans hfound)
        rw [← Option.some.inj hsome, hspelled, ← hname]

/-- A struct, with fields prepared in their spellings. -/
theorem spells_struct {name : List UInt8}
    (hfind : spec.find (spec.text name) = .ok (.udtStructV0 struct))
    (hvalues : ∀ {values}, value = .array values → ∀ item ∈ values, ∀ typeDef,
      Spells spec texts item typeDef)
    (hmembers : ∀ {given key item}, value = .object given → given.lookup key = some item →
      ∀ typeDef, Spells spec texts item typeDef)
    (h : prepareJsonStructValue spec texts value struct = .ok prepared) :
    spelledAt spec texts value (.udt name) = prepared := by
  cases value with
  | null | bool _ | number _ | string _ =>
    rw [prepareJsonStructValue] at h
    · obtain ⟨isTuple, -, h⟩ := bind_eq_ok.mp h
      cases isTuple <;> simp at h
    all_goals simp
  | array values =>
    rw [prepareJsonStructValue] at h
    obtain ⟨isTuple, -, h⟩ := bind_eq_ok.mp h
    cases isTuple with
    | false => simp at h
    | true =>
      rw [if_pos rfl, ensure_bind_eq_ok] at h
      obtain ⟨items, hitems, h⟩ := bind_eq_ok.mp h.2
      rw [spelledAt, hfind]
      simp only [spelledValues_of_spells (hvalues rfl) hitems]
      exact Except.ok.inj h
  | object given =>
    -- the fields are spelled in their order, whatever the error of a missing one would be
    have hfields : ∀ {kind members}, prepareJsonFields spec texts given struct kind = .ok members →
        prepared = .object members →
          spelledAt spec texts (.object given) (.udt name) = prepared := by
      intro kind members hok hprepared
      obtain ⟨entries, hentries, hput⟩ := prepareJsonFields_eq_ok.mp hok
      rw [spelledAt, hfind, hprepared, ← hput, ← filterMap_field_of_spells (hmembers rfl) hentries]
      rfl
    rw [prepareJsonStructValue] at h
    obtain ⟨isTuple, -, h⟩ := bind_eq_ok.mp h
    cases isTuple with
    | true =>
      rw [if_pos rfl, ensure_bind_eq_ok] at h
      obtain ⟨members, hok, h⟩ := bind_eq_ok.mp h.2
      exact hfields hok (Except.ok.inj h).symm
    | false =>
      rw [if_neg Bool.false_ne_true] at h
      split at h
      · simp at h
      · obtain ⟨members, hok, h⟩ := bind_eq_ok.mp h
        exact hfields hok (Except.ok.inj h).symm

/-- A union, with its payload prepared in its spelling. -/
theorem spells_union {name : List UInt8}
    (hfind : spec.find (spec.text name) = .ok (.udtUnionV0 union))
    (hpayload : ∀ {caseName payload}, value = .object [(caseName, payload)] →
      (∀ typeDef, Spells spec texts payload typeDef) ∧
      ∀ {values}, payload = .array values → ∀ item ∈ values, ∀ typeDef,
        Spells spec texts item typeDef)
    (h : prepareJsonUnionValue spec texts value union = .ok prepared) :
    spelledAt spec texts value (.udt name) = prepared := by
  have hkept := unionKept_of_ok h
  rw [spelledAt, hfind]
  cases value with
  | string caseName => exact hkept.2.symm
  | object given =>
    -- an object names the case by its only member
    rcases given with - | ⟨⟨caseName, payload⟩, - | ⟨second, given⟩⟩
    · exact hkept.elim
    · rw [prepareJsonUnionValue] at h
      obtain ⟨case, hcase, h⟩ := bind_eq_ok.mp h
      rw [mapErr_eq_ok, unionCase, okOr_eq_ok] at hcase
      obtain ⟨hpayload, hvalues⟩ := hpayload rfl
      split at h
      · exact absurd h (by simp)
      · rename_i typeDef
        obtain ⟨item, hitem, h⟩ := bind_eq_ok.mp h
        simp only [hcase, hpayload typeDef hitem]
        exact Except.ok.inj h
      · rename_i types htypes
        cases payload with
        | array values =>
          rw [ensure_bind_eq_ok] at h
          obtain ⟨items, hitems, h⟩ := bind_eq_ok.mp h.2
          simp only [hcase, spelledValues_of_spells (hvalues rfl) hitems]
          exact Except.ok.inj h
        | _ => exact absurd h (by simp)
    · exact hkept.elim
  | _ => exact hkept.elim

/-- A preparation that succeeds is the spelling, of the value and, before it, of its parts. -/
theorem spells (value : Json) (typeDef : ScSpecTypeDef) : Spells spec texts value typeDef := by
  -- every part of a value is smaller, so the recursion is on the size of the value
  have hpart : ∀ part : Json, part.size < value.size → ∀ typeDef, Spells spec texts part typeDef :=
    fun part hlt typeDef => spells part typeDef
  intro prepared h
  cases typeDef with
  | void =>
    rw [prepareJsonArgumentValue] at h
    rw [spelledAt]
    split_ifs at h ⊢ <;> exact Except.ok.inj h
  | timepoint | duration =>
    cases value with
    | number number =>
      rw [prepareJsonArgumentValue] at h
      rw [spelledAt]
      exact Except.ok.inj h
    | _ =>
      rw [prepareJsonArgumentValue] at h
      · rw [spelledAt]
        · exact Except.ok.inj h
        all_goals simp
      all_goals simp
  -- no value of such a type is accepted
  | error | result _ _ =>
    rw [prepareJsonArgumentValue] at h
    exact absurd h (by simp)
  | option valueType =>
    rw [prepareJsonArgumentValue] at h
    rw [spelledAt]
    split_ifs at h ⊢
    · exact Except.ok.inj h
    · exact spells value valueType h
  | vec elementType =>
    cases value with
    | array values =>
      rw [prepareJsonArgumentValue] at h
      obtain ⟨items, hitems, h⟩ := bind_eq_ok.mp h
      have hspelled : (values.map fun value => spelledAt spec texts value elementType) = items := by
        apply map_eq_of_forall₂ (mapM_eq_ok.mp (by simpa using hitems))
        intro item hitem result hok
        exact hpart item (Json.size_lt_of_mem_items hitem) elementType hok
      rw [spelledAt, hspelled]
      exact Except.ok.inj h
    | _ =>
      rw [prepareJsonArgumentValue] at h
      · rw [spelledAt]
        · exact Except.ok.inj h
        all_goals simp
      all_goals simp
  | map keyType valueType =>
    cases value with
    | object given =>
      apply spells_map _ _ h
      · intro entry hentry
        exact hpart _ (texts.size_key_lt hentry) keyType
      · intro entry hentry
        exact hpart _ (Json.size_lt_of_member hentry) valueType
    | _ =>
      rw [prepareJsonArgumentValue] at h
      · rw [spelledAt]
        · exact Except.ok.inj h
        all_goals simp
      all_goals simp
  | tuple valueTypes =>
    cases value with
    | array values =>
      rw [prepareJsonArgumentValue, ensure_bind_eq_ok] at h
      obtain ⟨items, hitems, h⟩ := bind_eq_ok.mp h.2
      rw [spelledAt, spelledValues_of_spells
        (fun item hitem => hpart item (Json.size_lt_of_mem_items hitem)) hitems]
      exact Except.ok.inj h
    | _ =>
      rw [prepareJsonArgumentValue] at h
      · rw [spelledAt]
        · exact Except.ok.inj h
        all_goals simp
      all_goals simp
  | udt name =>
    rw [prepareJsonArgumentValue] at h
    cases hfind : spec.find (spec.text name) with
    | error error => simp [hfind] at h
    | ok entry =>
      simp only [hfind] at h
      cases entry with
      | udtStructV0 struct =>
        refine spells_struct hfind ?_ ?_ h
        · rintro values rfl item hitem
          exact hpart item (Json.size_lt_of_mem_items hitem)
        · rintro given key item rfl hlookup
          exact hpart item (Json.size_lt_of_lookup hlookup)
      | udtUnionV0 union =>
        refine spells_union hfind ?_ h
        rintro caseName payload rfl
        refine ⟨hpart payload Json.size_lt_of_single, ?_⟩
        rintro values rfl item hitem
        exact hpart item ((Json.size_lt_of_mem_items hitem).trans Json.size_lt_of_single)
      | udtEnumV0 enum =>
        obtain ⟨-, -, h⟩ := bind_eq_ok.mp h
        rw [spelledAt, hfind]
        exact Except.ok.inj h
      | _ => exact absurd h (by simp)
  -- any other type leaves the value as it is
  | _ =>
    rw [prepareJsonArgumentValue] at h
    · rw [spelledAt]
      · exact Except.ok.inj h
      all_goals simp
    all_goals simp
termination_by (value.size, sizeOf typeDef)
decreasing_by
  · apply Prod.Lex.left; exact hlt
  · apply Prod.Lex.right; decreasing_trivial

theorem spelledKey_of_ok {keyType : ScSpecTypeDef} {key text : String}
    (h : preparedKey spec texts keyType key = .ok text) :
    spelledKey spec texts keyType key = text :=
  spelledKey_of_spells (spells _ _) h

end Fresnica.Contract
