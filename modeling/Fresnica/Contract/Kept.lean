import Fresnica.Contract.Spelled

/-!
# What preparing an input keeps

Preparing a JSON value changes spellings: void, time values and the keys of maps get
the form that the spec crate reads. Nothing else may change, at any depth: a sequence
keeps its places, a struct its fields, a union its case and payload, and a map one
entry for each of its keys.

Two keys of a map that are spellings of one, such as a string with quotes and without,
meet in the new object, and the later entry replaces the earlier one.

## Main definitions

* `KeepsHere` — the prepared form of a value, where a map keeps an entry for each key
* `InputPart`, `Reaches` — the positions that a type reaches in a value
* `DropsNothing`, `KeysApart` — what is asked of a prepared value, and when it holds

## Main results

* `reaches_ok` — every position that is reached is prepared
* `dropsNothing_iff` — nothing is dropped exactly when no two keys of a map are one
-/

namespace Fresnica.Contract

open Foundation

/-- The prepared form of a value keeps all of it, as far as its own type goes. -/
def KeepsHere (spec : Spec) (texts : ValueTexts) (typeDef : ScSpecTypeDef)
    (value prepared : Json) : Prop :=
  PreparedAt Members spec texts typeDef value prepared

/-- The positions right below a value, with their types. -/
inductive InputPart (spec : Spec) (texts : ValueTexts) :
    ScSpecTypeDef × Json → ScSpecTypeDef × Json → Prop
  | option {valueType value} (h : ¬ value.isNull) :
    InputPart spec texts (.option valueType, value) (valueType, value)
  | element {elementType values value} (h : value ∈ values) :
    InputPart spec texts (.vec elementType, .array values) (elementType, value)
  | key {keyType valueType values entry} (h : entry ∈ values) :
    InputPart spec texts (.map keyType valueType, .object values)
      (keyType, (texts.parse entry.1).getD (.string entry.1))
  | value {keyType valueType values entry} (h : entry ∈ values) :
    InputPart spec texts (.map keyType valueType, .object values) (valueType, entry.2)
  | component {valueTypes values given} (h : given ∈ values.zip valueTypes) :
    InputPart spec texts (.tuple valueTypes, .array values) (given.2, given.1)
  | place {name struct values given}
    (hfind : spec.find (spec.text name) = .ok (.udtStructV0 struct))
    (h : given ∈ values.zip (struct.fields.map (·.type))) :
    InputPart spec texts (.udt name, .array values) (given.2, given.1)
  | field {name struct values field value}
    (hfind : spec.find (spec.text name) = .ok (.udtStructV0 struct)) (h : field ∈ struct.fields)
    (hvalue : values.lookup (spec.text field.name) = some value) :
    InputPart spec texts (.udt name, .object values) (field.type, value)
  | payload {name union caseName caseText typeDef payload}
    (hfind : spec.find (spec.text name) = .ok (.udtUnionV0 union))
    (hcase : findCase spec union caseName = some (.tupleV0 caseText [typeDef])) :
    InputPart spec texts (.udt name, .object [(caseName, payload)]) (typeDef, payload)
  | payloads {name union caseName caseText types values given}
    (hfind : spec.find (spec.text name) = .ok (.udtUnionV0 union))
    (hcase : findCase spec union caseName = some (.tupleV0 caseText types))
    (hlength : types.length ≠ 1) (h : given ∈ values.zip types) :
    InputPart spec texts (.udt name, .object [(caseName, .array values)]) (given.2, given.1)

/-- The positions that a type reaches in a value. -/
def Reaches (spec : Spec) (texts : ValueTexts) :
    ScSpecTypeDef × Json → ScSpecTypeDef × Json → Prop :=
  Relation.ReflTransGen (InputPart spec texts)

/-- At every position reached, the value is prepared and all of it kept. -/
def DropsNothing (spec : Spec) (texts : ValueTexts) (typeDef : ScSpecTypeDef) (value : Json) :
    Prop :=
  ∀ part, Reaches spec texts (typeDef, value) part →
    ∃ prepared, prepareJsonArgumentValue spec texts part.2 part.1 = .ok prepared ∧
      KeepsHere spec texts part.1 part.2 prepared

/-- No two keys of an object are spellings of one. -/
def KeysApart (spec : Spec) (texts : ValueTexts) (keyType : ScSpecTypeDef)
    (values : List (String × Json)) : Prop :=
  values.Pairwise fun a b =>
    spelledKey spec texts keyType a.1 ≠ spelledKey spec texts keyType b.1

variable {spec : Spec} {texts : ValueTexts} {typeDef : ScSpecTypeDef}
variable {types : List ScSpecTypeDef} {value prepared : Json} {values items : List Json}
variable {members entries given : List (String × Json)} {struct : ScSpecUdtStructV0}
variable {union : ScSpecUdtUnionV0} {part whole : ScSpecTypeDef × Json}
variable {joined : List (String × Json) → List (String × Json) → Prop}

/-! ### What is kept -/

/-- Only the entries of maps are joined. -/
theorem preparedAt_congr {joined' : List (String × Json) → List (String × Json) → Prop}
    (h : ∀ keyType valueType given, typeDef = .map keyType valueType → value ≠ .object given) :
    PreparedAt joined spec texts typeDef value prepared ↔
      PreparedAt joined' spec texts typeDef value prepared := by
  cases typeDef with
  | map keyType valueType =>
    cases value with
    | object given => exact absurd rfl (h keyType valueType given rfl)
    | _ => exact Iff.rfl
  | _ => exact Iff.rfl

/-- Where a map is prepared, keys of different spellings are prepared to different keys. -/
theorem keysApart_iff {keyType valueType : ScSpecTypeDef}
    (h : List.Forall₂ (fun given entry => preparedKey spec texts keyType given.1 = .ok entry.1 ∧
      prepareJsonArgumentValue spec texts given.2 valueType = .ok entry.2) given entries) :
    KeysApart spec texts keyType given ↔ (entries.map Prod.fst).Nodup := by
  have hkeys : List.Forall₂ (fun given key => preparedKey spec texts keyType given.1 = .ok key)
      given (entries.map Prod.fst) :=
    List.forall₂_map_right_iff.mpr (h.imp fun _ _ hentry => hentry.1)
  have hspelled : given.map (fun entry => spelledKey spec texts keyType entry.1) =
      entries.map Prod.fst :=
    map_eq_of_forall₂ hkeys fun _ _ _ hkey => spelledKey_of_ok hkey
  rw [← hspelled, List.Nodup, List.pairwise_map]
  exact Iff.rfl

/-- A prepared value keeps all of it, unless it is a map whose keys meet. -/
theorem keepsHere_iff (h : prepareJsonArgumentValue spec texts value typeDef = .ok prepared) :
    KeepsHere spec texts typeDef value prepared ↔
      ∀ keyType valueType given, (typeDef, value) = (.map keyType valueType, .object given) →
        KeysApart spec texts keyType given := by
  by_cases hmap : ∀ keyType valueType given, typeDef = .map keyType valueType →
      value ≠ .object given
  · refine iff_of_true ((preparedAt_congr hmap).mp (preparedAt_of_ok h)) ?_
    intro keyType valueType given heq
    obtain ⟨htype, hvalue⟩ := Prod.mk.inj heq
    exact absurd hvalue (hmap keyType valueType given htype)
  push Not at hmap
  obtain ⟨keyType, valueType, given, rfl, rfl⟩ := hmap
  constructor
  · intro hkept keyType' valueType' given' heq
    obtain ⟨htype, hvalue⟩ := Prod.mk.inj heq
    obtain ⟨rfl, rfl⟩ := ScSpecTypeDef.map.inj htype
    obtain rfl := Json.object.inj hvalue
    obtain ⟨entries, members, -, hjoined, hentries⟩ := hkept
    exact (keysApart_iff hentries).mpr hjoined.nodup
  · intro hapart
    obtain ⟨entries, members, hprepared, hput, hentries⟩ := prepareMap_eq_ok.mp h
    have hnodup := (keysApart_iff hentries).mp (hapart keyType valueType given rfl)
    exact ⟨entries, members, hprepared, hput.isMembers hnodup, hentries⟩

theorem ok_of_inPlaces {pair : Json × ScSpecTypeDef}
    (h : InPlaces spec texts types values prepared) (hpair : pair ∈ values.zip types) :
    ∃ item, prepareJsonArgumentValue spec texts pair.1 pair.2 = .ok item := by
  obtain ⟨items, -, -, hitems⟩ := h
  obtain ⟨item, -, hitem⟩ := exists_of_forall₂ hitems hpair
  exact ⟨item, hitem⟩

/-- Every position right below a prepared value is prepared. -/
theorem ok_of_inputPart (h : PreparedAt joined spec texts whole.1 whole.2 prepared)
    (hpart : InputPart spec texts whole part) :
    ∃ item, prepareJsonArgumentValue spec texts part.2 part.1 = .ok item := by
  cases hpart with
  | option hnull =>
    simp only [PreparedAt, if_neg hnull] at h
    exact ⟨prepared, h⟩
  | element hmem =>
    obtain ⟨items, -, hitems⟩ := h
    obtain ⟨item, -, hitem⟩ := exists_of_forall₂ hitems hmem
    exact ⟨item, hitem⟩
  | key hmem =>
    obtain ⟨entries, members, -, -, hentries⟩ := h
    obtain ⟨entry, -, hkey, -⟩ := exists_of_forall₂ hentries hmem
    obtain ⟨item, hitem, -⟩ := bind_eq_ok.mp hkey
    exact ⟨item, hitem⟩
  | value hmem =>
    obtain ⟨entries, members, -, -, hentries⟩ := h
    obtain ⟨entry, -, -, hvalue⟩ := exists_of_forall₂ hentries hmem
    exact ⟨entry.2, hvalue⟩
  | component hmem => exact ok_of_inPlaces h hmem
  | place hfind hmem =>
    simp only [PreparedAt, hfind] at h
    exact ok_of_inPlaces h hmem
  | field hfind hmem hlookup =>
    simp only [PreparedAt, hfind] at h
    obtain ⟨-, entries, members, -, -, hentries⟩ := h
    obtain ⟨entry, -, hname, value, hgiven, hvalue⟩ := exists_of_forall₂ hentries hmem
    rw [hname] at hgiven
    obtain rfl := Option.some.inj (hlookup.symm.trans hgiven)
    exact ⟨entry.2, hvalue⟩
  | payload hfind hcase =>
    simp only [PreparedAt, hfind] at h
    obtain ⟨name, types, item, hfound, -, hitem⟩ := h
    -- a part of the payload is one of the case that was prepared
    have hsame := Option.some.inj (hcase.symm.trans hfound)
    obtain ⟨-, rfl⟩ := ScSpecUdtUnionCaseV0.tupleV0.inj hsame
    rcases hitem with ⟨typeDef, htype, hitem⟩ | ⟨hlength, -⟩
    · obtain rfl := List.head_eq_of_cons_eq htype
      exact ⟨item, hitem⟩
    · exact absurd rfl hlength
  | payloads hfind hcase hlength hmem =>
    simp only [PreparedAt, hfind] at h
    obtain ⟨name, types, item, hfound, -, hitem⟩ := h
    have hsame := Option.some.inj (hcase.symm.trans hfound)
    obtain ⟨-, rfl⟩ := ScSpecUdtUnionCaseV0.tupleV0.inj hsame
    rcases hitem with ⟨typeDef, htype, -⟩ | ⟨-, values, hvalues, hplaces⟩
    · exact absurd (by rw [htype]; rfl) hlength
    · obtain rfl := Json.array.inj hvalues
      exact ok_of_inPlaces hplaces hmem

/-- Every position that is reached is prepared. -/
theorem reaches_ok (whole : ScSpecTypeDef × Json)
    (h : prepareJsonArgumentValue spec texts whole.2 whole.1 = .ok prepared)
    (hreach : Reaches spec texts whole part) :
    ∃ item, prepareJsonArgumentValue spec texts part.2 part.1 = .ok item := by
  induction hreach with
  | refl => exact ⟨prepared, h⟩
  | tail _ hpart ih =>
    obtain ⟨item, hitem⟩ := ih
    exact ok_of_inputPart (preparedAt_of_ok hitem) hpart

/-- A preparation drops nothing exactly when no map that it reaches has two keys that are
spellings of one. -/
theorem dropsNothing_iff (h : prepareJsonArgumentValue spec texts value typeDef = .ok prepared) :
    DropsNothing spec texts typeDef value ↔
      ∀ keyType valueType given,
        Reaches spec texts (typeDef, value) (.map keyType valueType, .object given) →
        KeysApart spec texts keyType given := by
  constructor
  · intro hkeeps keyType valueType given hreach
    obtain ⟨item, hitem, hkept⟩ := hkeeps _ hreach
    exact (keepsHere_iff hitem).mp hkept keyType valueType given rfl
  · intro hapart part hreach
    obtain ⟨item, hitem⟩ := reaches_ok _ h hreach
    refine ⟨item, hitem, (keepsHere_iff hitem).mpr ?_⟩
    intro keyType valueType given heq
    apply hapart keyType valueType given
    rw [← heq]
    exact hreach

/-! ### A key with quotes and without -/

/-- The crates on the strings `a` and `b`, as values and as keys. -/
def quotedTexts : ValueTexts where
  parse text := if text = "\"a\"" then some (.string "a")
    else if text = "\"b\"" then some (.string "b") else none
  encode
    | .string "a" => .ok "\"a\""
    | .string "b" => .ok "\"b\""
    | _ => .error "unused"
  fromString text _ := text = "\"a\"" ∨ text = "\"b\""
  size_le := by
    intro text value h
    split_ifs at h with ha hb
    · obtain rfl := Option.some.inj h
      rw [ha]
      decide
    · obtain rfl := Option.some.inj h
      rw [hb]
      decide

def emptySpec : Spec := .ofEntries [] asciiText id id

theorem prepare_string (value : String) :
    prepareJsonArgumentValue emptySpec quotedTexts (.string value) .string =
      .ok (.string value) := by
  rw [prepareJsonArgumentValue] <;> simp

theorem prepare_number (number : JsonNumber) :
    prepareJsonArgumentValue emptySpec quotedTexts (.number number) .u32 =
      .ok (.number number) := by
  rw [prepareJsonArgumentValue] <;> simp

/-- A key with quotes is prepared as it is. -/
theorem preparedKey_quoted :
    preparedKey emptySpec quotedTexts .string "\"a\"" = .ok "\"a\"" ∧
      preparedKey emptySpec quotedTexts .string "\"b\"" = .ok "\"b\"" := by
  constructor
  · show (prepareJsonArgumentValue emptySpec quotedTexts (.string "a") .string >>= _) = _
    rw [prepare_string]
    rfl
  · show (prepareJsonArgumentValue emptySpec quotedTexts (.string "b") .string >>= _) = _
    rw [prepare_string]
    rfl

/-- A key without quotes gets them. -/
theorem preparedKey_bare : preparedKey emptySpec quotedTexts .string "a" = .ok "\"a\"" := by
  show (prepareJsonArgumentValue emptySpec quotedTexts (.string "a") .string >>= _) = _
  rw [prepare_string]
  rfl

/-- With quotes and without, the string has one spelling. -/
theorem spelledKey_quotedTexts :
    spelledKey emptySpec quotedTexts .string "\"a\"" = "\"a\"" ∧
      spelledKey emptySpec quotedTexts .string "a" = "\"a\"" ∧
      spelledKey emptySpec quotedTexts .string "\"b\"" = "\"b\"" := by
  have hplain : ScSpecTypeDef.string.IsPlain := trivial
  simp only [spelledKey_of_plain hplain]
  decide +kernel

/-- Two keys of a map of strings to numbers, which are spellings of one. -/
def quotedMap : Json :=
  .object [("\"a\"", .number (.posInt (.lit 2))), ("a", .number (.posInt (.lit 1)))]

/-- The map is prepared, and one of its two entries is lost. -/
theorem quoted_key_dropped :
    prepareJsonArgumentValue emptySpec quotedTexts quotedMap (.map .string .u32) =
        .ok (.object [("\"a\"", .number (.posInt (.lit 1)))]) ∧
      ¬ DropsNothing emptySpec quotedTexts (.map .string .u32) quotedMap := by
  constructor
  · refine prepareMap_eq_ok.mpr ⟨[("\"a\"", _), ("\"a\"", _)], _, rfl, ?_,
      .cons ⟨preparedKey_quoted.1, prepare_number _⟩
        (.cons ⟨preparedKey_bare, prepare_number _⟩ .nil)⟩
    simp [PutIn, insertMember]
  · intro h
    obtain ⟨prepared, hprepared, hkept⟩ := h _ .refl
    have hapart := (keepsHere_iff hprepared).mp hkept .string .u32 _ rfl
    unfold KeysApart at hapart
    rw [List.pairwise_cons] at hapart
    refine hapart.1 _ (List.mem_singleton_self _) ?_
    exact spelledKey_quotedTexts.1.trans spelledKey_quotedTexts.2.1.symm

/-- Two keys that differ, one with quotes and one without. -/
def mixedMap : Json :=
  .object [("\"b\"", .number (.posInt (.lit 2))), ("a", .number (.posInt (.lit 1)))]

/-- From a map of strings to numbers only strings and numbers are reached. -/
theorem reaches_mixedMap
    (h : Reaches emptySpec quotedTexts (.map .string .u32, mixedMap) part) :
    part = (.map .string .u32, mixedMap) ∨ part.1 = .string ∨ part.1 = .u32 := by
  induction h with
  | refl => exact Or.inl rfl
  | @tail b part _ hpart ih =>
    obtain ⟨typeDef, value⟩ := b
    rcases ih with hwhole | htype | htype
    · obtain ⟨rfl, rfl⟩ := Prod.mk.inj hwhole
      cases hpart with
      | key hentry => exact Or.inr (Or.inl rfl)
      | value hentry => exact Or.inr (Or.inr rfl)
    · obtain rfl := htype
      cases hpart
    · obtain rfl := htype
      cases hpart

/-- They are prepared to different keys, which change places, and both entries are kept. -/
theorem dropsNothing_iff_mixedMap :
    prepareJsonArgumentValue emptySpec quotedTexts mixedMap (.map .string .u32) =
        .ok (.object [("\"a\"", .number (.posInt (.lit 1))),
          ("\"b\"", .number (.posInt (.lit 2)))]) ∧
      DropsNothing emptySpec quotedTexts (.map .string .u32) mixedMap := by
  have hok : prepareJsonArgumentValue emptySpec quotedTexts mixedMap (.map .string .u32) =
      .ok (.object [("\"a\"", .number (.posInt (.lit 1))),
        ("\"b\"", .number (.posInt (.lit 2)))]) := by
    refine prepareMap_eq_ok.mpr ⟨[("\"b\"", _), ("\"a\"", _)], _, rfl, ?_,
      .cons ⟨preparedKey_quoted.2, prepare_number _⟩
        (.cons ⟨preparedKey_bare, prepare_number _⟩ .nil)⟩
    have hlt : "\"a\"" < "\"b\"" := by decide +kernel
    simp [PutIn, insertMember, hlt]
  refine ⟨hok, (dropsNothing_iff hok).mpr ?_⟩
  intro keyType valueType given hreach
  -- the map is the only one that is reached
  rcases reaches_mixedMap hreach with hwhole | htype | htype
  · obtain ⟨htype, hvalue⟩ := Prod.mk.inj hwhole
    obtain ⟨rfl, rfl⟩ := ScSpecTypeDef.map.inj htype
    obtain rfl := Json.object.inj hvalue
    unfold KeysApart
    rw [List.pairwise_pair, spelledKey_quotedTexts.2.1, spelledKey_quotedTexts.2.2]
    decide
  · cases htype
  · cases htype

end Fresnica.Contract
