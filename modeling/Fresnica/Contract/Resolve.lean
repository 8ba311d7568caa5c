import Fresnica.Contract.Prepare
import Fresnica.Contract.Validate
import Fresnica.Foundation.Ordered
import Fresnica.Soroban.Prepared
import Mathlib.Data.List.ReduceOption

/-!
# Resolving the arguments of a call

A call names its arguments or gives them by place. Named arguments come from three
lists, as texts, as JSON or as encoded values; they are put into one map, and every
input takes its own out of it, under its name or under the name with dashes. What is
left at the end is unknown. Places are resolved by a loop of their own.

The list of named texts is open to change, also on a call by place, and nothing
looks at it there.

## Main definitions

* `ArgumentCrates` — the operations of the crates on arguments
* `ContractInvokeRequest.resolve` — the resolution
* `removeArgument` — an input takes its argument
* `Belongs` — inputs, what is given for them, values and rows of the review in their places
* `consumed` — the named argument that each input takes
* `Assigns` — the named arguments give values to inputs, in any order and spelling
* `ResolvesFaithfully`, `DropsNamedArguments` — what is asked of a resolution, and where it fails

## Main results

* `resolveNamed_eq_ok`, `resolvePositional_eq_ok` — what the two loops compute
* `takenFrom_perm` — an argument is taken by one input, or is left
* `takenFrom_of_given` — every input takes what is assigned to it
* `resolvesFaithfully_iff` — a resolution is faithful unless it drops named arguments
-/

namespace Fresnica.Contract

open Foundation

/-- The operations of the crates on arguments: besides those on texts and shown values,
reading a value from a text, from JSON and from its encoding, and an example of a type. -/
structure ArgumentCrates where
  texts : ValueTexts
  codec : ScValCodec
  fromString : String → ScSpecTypeDef → Except String ScVal
  fromJson : Json → ScSpecTypeDef → Except String ScVal
  fromXdrBase64 : String → Except String ScVal
  example? : ScSpecTypeDef → Option String
  fromString_isOk : ∀ text typeDef, texts.fromString text typeDef = (fromString text typeDef).isOk

structure ContractArgumentInput where
  name : String
  value : String

structure ContractAddressNames where
  names : BTreeMap String String

def addressNameKey (name : String) : String := (Text.trim name).map Char.toLower

def ContractAddressNames.get (self : ContractAddressNames) (name : String) : Option String :=
  self.names[addressNameKey name]?

structure ContractInvokeRequest where
  wallet : Option String
  contractId : String
  functionName : String
  arguments : List ContractArgumentInput
  positionalArguments : Option (List String)
  jsonArguments : List (String × Json)
  scvalXdrArguments : List ContractArgumentInput
  inclusionFeeStroops : Option U32
  authorizationLifetimeLedgers : U32
  addressNames : ContractAddressNames

inductive ContractArgumentSource
  | specValue (value : String)
  | json (value : Json)
  | scvalXdrBase64 (value : String)

/-- The name of an input, as it is printed. -/
def inputName (spec : Spec) (input : ScSpecFunctionInputV0) : String :=
  spec.sanitize (spec.text input.name)

def ScSpecTypeDef.isOption : ScSpecTypeDef → Bool
  | .option _ => true
  | _ => false

/-! ### Reading one argument -/

def contractArgumentParseError (spec : Spec) (crates : ArgumentCrates) (name : String)
    (typeDef : ScSpecTypeDef) (error : String) : String :=
  let valueType := contractTypeName spec typeDef
  let sample := ((crates.example? typeDef).map fun sample => s!"; example: {sample}").getD ""
  s!"invalid value for contract argument --{name}; expected {valueType}{sample}: {error}"

def parseArgument (spec : Spec) (crates : ArgumentCrates) (addressNames : ContractAddressNames)
    (name value : String) (typeDef : ScSpecTypeDef) : Except String ScVal :=
  match crates.fromString value typeDef with
  | .ok parsed => .ok parsed
  | .error directError =>
    let address := match typeDef with
      | .address | .muxedAddress => addressNames.get (Text.trimMatches '"' (Text.trim value))
      | _ => none
    match address with
    | some address => mapErr (fun error =>
        s!"contract address name {spec.debug value} resolved to {address}, but the resolved address is invalid for --{name}: {error}")
        (crates.fromString address typeDef)
    | none => .error (contractArgumentParseError spec crates name typeDef directError)

def parseJsonArgument (spec : Spec) (crates : ArgumentCrates) (name : String) (value : Json)
    (typeDef : ScSpecTypeDef) : Except String ScVal := do
  let prepared ← mapErr (fun detail : PrepareError =>
    s!"invalid value for contract argument --{name}; expected {contractTypeName spec typeDef}: {detail.message}")
    (prepareJsonArgumentValue spec crates.texts value typeDef)
  mapErr (contractArgumentParseError spec crates name typeDef) (crates.fromJson prepared typeDef)

def parseScvalXdrArgument (crates : ArgumentCrates) (name value : String) : Except String ScVal :=
  mapErr (fun error => s!"invalid ScVal XDR for contract argument --{name}: {error}")
    (crates.fromXdrBase64 (Text.trim value))

/-! ### The two loops -/

/-- The value of an input in a call by place. -/
def positionalValue (spec : Spec) (crates : ArgumentCrates) (addressNames : ContractAddressNames)
    (index : ℕ) (input : ScSpecFunctionInputV0) (argument : Option String) : Except String ScVal :=
  let name := inputName spec input
  match argument with
  | some value => parseArgument spec crates addressNames name value input.type
  | none =>
    if input.type.isOption then .ok .void
    else
      let valueType := contractTypeName spec input.type
      .error s!"missing positional contract argument {index + 1} ({name}: {valueType})"

/-- The loop over the inputs of a call by place. -/
def resolvePositional (spec : Spec) (crates : ArgumentCrates) (addressNames : ContractAddressNames)
    (arguments : List String) :
    ℕ → List ScSpecFunctionInputV0 → Except String (List ScVal × List ContractArgumentReview)
  | _, [] => .ok ([], [])
  | index, input :: inputs => do
    let name := inputName spec input
    let valueType := contractTypeName spec input.type
    let parsed ← positionalValue spec crates addressNames index input arguments[index]?
    let review ← contractArgumentReview spec crates.codec name valueType input.type parsed
    let rest ← resolvePositional spec crates addressNames arguments (index + 1) inputs
    return (parsed :: rest.1, review :: rest.2)

/-- The arguments that are not taken yet. -/
abbrev Supplied := BTreeMap String ContractArgumentSource

/-- The name with dashes. -/
def kebab (name : String) : String := name.map fun c => if c = '_' then '-' else c

def removeArgument (arguments : Supplied) (specName : String) :
    Option ContractArgumentSource × Supplied :=
  match arguments[specName]? with
  | some source => (some source, arguments.erase specName)
  | none =>
    if kebab specName = specName then (none, arguments)
    else
      match arguments[kebab specName]? with
      | some source => (some source, arguments.erase (kebab specName))
      | none => (none, arguments)

def insertArgument (supplied : Supplied) (argument : String × ContractArgumentSource) :
    Except String Supplied :=
  if supplied[argument.1]?.isSome then
    .error s!"contract argument --{argument.1} was provided more than once"
  else .ok (supplied.insert argument.1 argument.2)

/-- The value of an input in a call by name. -/
def namedValue (spec : Spec) (crates : ArgumentCrates) (addressNames : ContractAddressNames)
    (input : ScSpecFunctionInputV0) (argument : Option ContractArgumentSource) :
    Except String ScVal :=
  let name := inputName spec input
  match argument with
  | some (.specValue value) => parseArgument spec crates addressNames name value input.type
  | some (.json value) => parseJsonArgument spec crates name value input.type
  | some (.scvalXdrBase64 value) => parseScvalXdrArgument crates name value
  | none =>
    if input.type.isOption then .ok .void
    else
      .error s!"missing contract argument --{name} (expected {contractTypeName spec input.type})"

/-- The loop over the inputs of a call by name; the arguments left are answered too. -/
def resolveNamed (spec : Spec) (crates : ArgumentCrates) (addressNames : ContractAddressNames) :
    List ScSpecFunctionInputV0 → Supplied →
      Except String ((List ScVal × List ContractArgumentReview) × Supplied)
  | [], supplied => .ok (([], []), supplied)
  | input :: inputs, supplied => do
    let name := inputName spec input
    let valueType := contractTypeName spec input.type
    let removed := removeArgument supplied name
    let parsed ← namedValue spec crates addressNames input removed.1
    let review ← contractArgumentReview spec crates.codec name valueType input.type parsed
    let rest ← resolveNamed spec crates addressNames inputs removed.2
    return ((parsed :: rest.1.1, review :: rest.1.2), rest.2)

namespace ContractInvokeRequest

/-- The named arguments of the three lists, one list after the other. -/
def supplied (request : ContractInvokeRequest) : Except String Supplied := do
  let supplied ← (request.arguments.map fun argument =>
    (argument.name, ContractArgumentSource.specValue argument.value)).foldlM insertArgument
    (∅ : Supplied)
  let supplied ← (request.jsonArguments.map fun argument =>
    (argument.1, ContractArgumentSource.json argument.2)).foldlM insertArgument supplied
  (request.scvalXdrArguments.map fun argument =>
    (argument.name, ContractArgumentSource.scvalXdrBase64 argument.value)).foldlM insertArgument
    supplied

/-- The values of the inputs and their rows. -/
def resolveArguments (request : ContractInvokeRequest) (spec : Spec) (crates : ArgumentCrates)
    (inputs : List ScSpecFunctionInputV0) :
    Except String (List ScVal × List ContractArgumentReview) :=
  match request.positionalArguments with
  | some arguments => do
    ensure (arguments.length ≤ inputs.length)
      s!"contract function {request.functionName} accepts {inputs.length} arguments but {arguments.length} were provided"
    resolvePositional spec crates request.addressNames arguments 0 inputs
  | none => do
    let supplied ← request.supplied
    let resolved ← resolveNamed spec crates request.addressNames inputs supplied
    match resolved.2.toList.head? with
    | some unknown =>
      .error s!"unknown contract argument --{unknown.1} for function {request.functionName}"
    | none => return resolved.1

def resolve (request : ContractInvokeRequest) (spec : Spec) (crates : ArgumentCrates) :
    Except String (SorobanInvokeRequest × List ContractArgumentReview) := do
  let function ← findFunction spec crates.codec request.functionName
  ensure (¬ (request.positionalArguments.isSome ∧
      ¬ (request.jsonArguments.isEmpty ∧ request.scvalXdrArguments.isEmpty)))
    "JSON and pre-encoded ScVal XDR arguments require named contract invocation"
  let functionName := spec.text function.name
  let resolved ← request.resolveArguments spec crates function.inputs
  return ({ SorobanInvokeRequest.new request.contractId functionName resolved.1 with
    wallet := request.wallet
    inclusionFeeStroops := request.inclusionFeeStroops
    authorizationLifetimeLedgers := request.authorizationLifetimeLedgers }, resolved.2)

end ContractInvokeRequest

/-! ### What is asked of a resolution -/

/-- What an argument is read as for an input. -/
def sourceValue (spec : Spec) (crates : ArgumentCrates) (addressNames : ContractAddressNames)
    (input : ScSpecFunctionInputV0) : ContractArgumentSource → Except String ScVal
  | .specValue value =>
    parseArgument spec crates addressNames (inputName spec input) value input.type
  | .json value => parseJsonArgument spec crates (inputName spec input) value input.type
  | .scvalXdrBase64 value => parseScvalXdrArgument crates (inputName spec input) value

/-- The value of an input: what is given for it is read as the value, or nothing is given
for an optional one. -/
def Holds (spec : Spec) (crates : ArgumentCrates) (addressNames : ContractAddressNames)
    (input : ScSpecFunctionInputV0) (source : Option ContractArgumentSource) (value : ScVal) :
    Prop :=
  match source with
  | some source => sourceValue spec crates addressNames input source = .ok value
  | none => input.type.isOption = true ∧ value = .void

/-- The inputs, what is given for them, their values and their rows, each in its place. -/
inductive Belongs (spec : Spec) (crates : ArgumentCrates) (addressNames : ContractAddressNames) :
    List ScSpecFunctionInputV0 → List (Option ContractArgumentSource) → List ScVal →
      List ContractArgumentReview → Prop
  | nil : Belongs spec crates addressNames [] [] [] []
  | cons {input inputs source sources value values row rows}
      (hvalue : Holds spec crates addressNames input source value)
      (hrow : contractArgumentReview spec crates.codec (inputName spec input)
        (contractTypeName spec input.type) input.type value = .ok row)
      (hrest : Belongs spec crates addressNames inputs sources values rows) :
      Belongs spec crates addressNames (input :: inputs) (source :: sources) (value :: values)
        (row :: rows)

/-- The argument an input takes out of the map, with the name it is found under. -/
def taken (supplied : Supplied) (specName : String) : Option (String × ContractArgumentSource) :=
  match supplied[specName]? with
  | some source => some (specName, source)
  | none => supplied[kebab specName]?.map fun source => (kebab specName, source)

/-- The arguments that the inputs take, one after the other. -/
def takenFrom (spec : Spec) :
    List ScSpecFunctionInputV0 → Supplied → List (Option (String × ContractArgumentSource))
  | [], _ => []
  | input :: inputs, supplied =>
    taken supplied (inputName spec input) ::
      takenFrom spec inputs (removeArgument supplied (inputName spec input)).2

/-- The arguments that no input takes. -/
def leftOver (spec : Spec) : List ScSpecFunctionInputV0 → Supplied → Supplied
  | [], supplied => supplied
  | input :: inputs, supplied =>
    leftOver spec inputs (removeArgument supplied (inputName spec input)).2

namespace ContractInvokeRequest

/-- All named arguments. -/
def named (request : ContractInvokeRequest) : List (String × ContractArgumentSource) :=
  request.arguments.map (fun argument => (argument.name, .specValue argument.value)) ++
    request.jsonArguments.map (fun argument => (argument.1, .json argument.2)) ++
    request.scvalXdrArguments.map fun argument => (argument.name, .scvalXdrBase64 argument.value)

/-- The named argument that each input takes. A call by place takes none. -/
def consumed (request : ContractInvokeRequest) (spec : Spec)
    (inputs : List ScSpecFunctionInputV0) : List (Option (String × ContractArgumentSource)) :=
  match request.positionalArguments, request.supplied with
  | none, .ok supplied => takenFrom spec inputs supplied
  | _, _ => inputs.map fun _ => none

/-- What is given for each input. -/
def sources (request : ContractInvokeRequest) (spec : Spec)
    (inputs : List ScSpecFunctionInputV0) : List (Option ContractArgumentSource) :=
  match request.positionalArguments with
  | some arguments => (List.range inputs.length).map fun index => arguments[index]?.map .specValue
  | none => (request.consumed spec inputs).map (·.map Prod.snd)

end ContractInvokeRequest

/-- Either spelling of a name. -/
def Spelling (name spelling : String) : Prop := spelling = name ∨ spelling = kebab name

/-- The named arguments give the assigned values to the inputs, in any order, each under
either spelling of the input's name. -/
def Assigns (spec : Spec) (inputs : List ScSpecFunctionInputV0)
    (assignment : List (Option ContractArgumentSource))
    (named : List (String × ContractArgumentSource)) : Prop :=
  assignment.length = inputs.length ∧
    ∃ spellings, List.Forall₂ Spelling (inputs.map (inputName spec)) spellings ∧
      named.Perm ((spellings.zip assignment).filterMap fun given =>
        given.2.map fun source => (given.1, source))

/-- The names of the inputs are distinct, also with dashes. -/
def DistinctNames (spec : Spec) (inputs : List ScSpecFunctionInputV0) : Prop :=
  (inputs.map fun input => kebab (inputName spec input)).Nodup

/-- Values and rows are those of their inputs; every named argument is taken by one input;
order and spelling of the names do not matter; and the values may be given by place. -/
structure ResolvesFaithfully (spec : Spec) (crates : ArgumentCrates)
    (request : ContractInvokeRequest) : Prop where
  belongs : ∀ function invoke rows,
    findFunction spec crates.codec request.functionName = .ok function →
    request.resolve spec crates = .ok (invoke, rows) →
    Belongs spec crates request.addressNames function.inputs
      (request.sources spec function.inputs) invoke.args rows
  consumed : ∀ function resolved,
    findFunction spec crates.codec request.functionName = .ok function →
    request.resolve spec crates = .ok resolved →
    (request.consumed spec function.inputs).reduceOption.Perm request.named
  respelled : ∀ function assignment arguments jsonArguments scvalXdrArguments,
    findFunction spec crates.codec request.functionName = .ok function →
    DistinctNames spec function.inputs → request.positionalArguments = none →
    let other := { request with arguments, jsonArguments, scvalXdrArguments }
    Assigns spec function.inputs assignment request.named →
    Assigns spec function.inputs assignment other.named →
    ∀ resolved, other.resolve spec crates = .ok resolved ↔
      request.resolve spec crates = .ok resolved
  positional : ∀ function values omitted,
    findFunction spec crates.codec request.functionName = .ok function →
    DistinctNames spec function.inputs → request.positionalArguments = none →
    let other : ContractInvokeRequest := { request with
      arguments := []
      jsonArguments := []
      scvalXdrArguments := []
      positionalArguments := some values }
    Assigns spec function.inputs
      (values.map (fun value => some (.specValue value)) ++ List.replicate omitted none)
      request.named →
    ∀ resolved, other.resolve spec crates = .ok resolved ↔
      request.resolve spec crates = .ok resolved

/-- A call by place whose values are accepted holds named texts besides. -/
def DropsNamedArguments (spec : Spec) (crates : ArgumentCrates)
    (request : ContractInvokeRequest) : Prop :=
  ∃ arguments function values rows,
    request.positionalArguments = some arguments ∧ request.arguments ≠ [] ∧
    request.jsonArguments.isEmpty ∧ request.scvalXdrArguments.isEmpty ∧
    findFunction spec crates.codec request.functionName = .ok function ∧
    arguments.length ≤ function.inputs.length ∧
    Belongs spec crates request.addressNames function.inputs
      ((List.range function.inputs.length).map fun index => arguments[index]?.map .specValue)
      values rows

variable {spec : Spec} {crates : ArgumentCrates} {addressNames : ContractAddressNames}
variable {request : ContractInvokeRequest} {function : ScSpecFunctionV0}
variable {input : ScSpecFunctionInputV0} {inputs : List ScSpecFunctionInputV0}
variable {source : Option ContractArgumentSource} {sources : List (Option ContractArgumentSource)}
variable {value : ScVal} {values : List ScVal} {rows : List ContractArgumentReview}
variable {supplied left : Supplied} {name spelling : String} {spellings : List String}
variable {named : List (String × ContractArgumentSource)}
variable {assignment : List (Option ContractArgumentSource)} {arguments : List String} {index : ℕ}

/-! ### What the loops compute -/

theorem belongs_nil_iff : Belongs spec crates addressNames [] [] values rows ↔
    values = [] ∧ rows = [] := by
  constructor
  · intro h
    cases h
    exact ⟨rfl, rfl⟩
  · intro h
    obtain ⟨rfl, rfl⟩ := h
    exact .nil

theorem belongs_cons_iff :
    Belongs spec crates addressNames (input :: inputs) (source :: sources) values rows ↔
      ∃ value, Holds spec crates addressNames input source value ∧
        ∃ row, contractArgumentReview spec crates.codec (inputName spec input)
            (contractTypeName spec input.type) input.type value = .ok row ∧
          ∃ rest : List ScVal × List ContractArgumentReview,
            Belongs spec crates addressNames inputs sources rest.1 rest.2 ∧
              (value :: rest.1, row :: rest.2) = (values, rows) := by
  constructor
  · intro h
    cases h with
    | cons hvalue hrow hrest => exact ⟨_, hvalue, _, hrow, (_, _), hrest, rfl⟩
  · intro h
    obtain ⟨value, hvalue, row, hrow, rest, hrest, heq⟩ := h
    obtain ⟨rfl, rfl⟩ := Prod.mk.inj heq
    exact .cons hvalue hrow hrest

theorem holds_none_iff (e : String) :
    (if input.type.isOption then .ok ScVal.void else .error e : Except String ScVal) = .ok value ↔
      Holds spec crates addressNames input none value := by
  unfold Holds
  by_cases hoption : input.type.isOption = true
  · rw [if_pos hoption, Except.ok.injEq, eq_comm]
    exact (and_iff_right hoption).symm
  · rw [if_neg hoption]
    simp [hoption]

theorem positionalValue_eq_ok {argument : Option String} :
    positionalValue spec crates addressNames index input argument = .ok value ↔
      Holds spec crates addressNames input (argument.map .specValue) value := by
  cases argument with
  | none => exact holds_none_iff _
  | some argument => rfl

theorem namedValue_eq_ok :
    namedValue spec crates addressNames input source = .ok value ↔
      Holds spec crates addressNames input source value := by
  cases source with
  | none => exact holds_none_iff _
  | some source => cases source <;> rfl

theorem resolvePositional_eq_ok :
    resolvePositional spec crates addressNames arguments index inputs = .ok (values, rows) ↔
      Belongs spec crates addressNames inputs
        ((List.range' index inputs.length).map fun i => arguments[i]?.map .specValue)
        values rows := by
  induction inputs generalizing index values rows with
  | nil =>
    rw [resolvePositional, List.length_nil, List.range'_zero, List.map_nil, belongs_nil_iff]
    simp [eq_comm]
  | cons input inputs ih =>
    rw [resolvePositional, List.length_cons, List.range'_succ, List.map_cons, belongs_cons_iff]
    simp only [bind_eq_ok, Except.ok.injEq, pure_eq_ok]
    refine exists_congr fun value => and_congr positionalValue_eq_ok ?_
    refine exists_congr fun row => and_congr_right fun _ => exists_congr fun rest => ?_
    exact and_congr_left fun _ => ih

/-- The argument taken is the one that `removeArgument` removes. -/
theorem removeArgument_eq (supplied : Supplied) (name : String) :
    removeArgument supplied name =
      ((taken supplied name).map Prod.snd,
        ((taken supplied name).map fun entry => supplied.erase entry.1).getD supplied) := by
  unfold removeArgument taken
  cases hname : supplied[name]? with
  | some source => rfl
  | none =>
    by_cases hkebab : kebab name = name
    · simp [hkebab, hname]
    · simp only [if_neg hkebab]
      cases supplied[kebab name]? <;> rfl

theorem resolveNamed_eq_ok :
    resolveNamed spec crates addressNames inputs supplied = .ok ((values, rows), left) ↔
      Belongs spec crates addressNames inputs
        ((takenFrom spec inputs supplied).map (·.map Prod.snd)) values rows ∧
      leftOver spec inputs supplied = left := by
  induction inputs generalizing supplied values rows with
  | nil =>
    rw [resolveNamed, takenFrom, List.map_nil, belongs_nil_iff, leftOver]
    simp [eq_comm]
  | cons input inputs ih =>
    -- the argument that is taken is gone from the rest
    have hremoved : (removeArgument supplied (inputName spec input)).1 =
        (taken supplied (inputName spec input)).map Prod.snd := by
      rw [removeArgument_eq]
    rw [resolveNamed, takenFrom, List.map_cons, belongs_cons_iff, leftOver]
    simp only [bind_eq_ok, Except.ok.injEq, pure_eq_ok, hremoved]
    constructor
    · intro h
      obtain ⟨value, hvalue, row, hrow, rest, hrest, heq⟩ := h
      obtain ⟨hpair, rfl⟩ := Prod.mk.inj heq
      obtain ⟨hbelongs, hleft⟩ := ih.mp hrest
      exact ⟨⟨value, namedValue_eq_ok.mp hvalue, row, hrow, rest.1, hbelongs, hpair⟩, hleft⟩
    · intro h
      obtain ⟨⟨value, hvalue, row, hrow, rest, hbelongs, hpair⟩, hleft⟩ := h
      refine ⟨value, namedValue_eq_ok.mpr hvalue, row, hrow, (rest, left),
        ih.mpr ⟨hbelongs, hleft⟩, ?_⟩
      rw [hpair]

/-! ### Every argument is taken once, or left -/

theorem getElem?_of_taken {entry : String × ContractArgumentSource}
    (h : taken supplied name = some entry) : supplied[entry.1]? = some entry.2 := by
  unfold taken at h
  cases hname : supplied[name]? with
  | some source =>
    rw [hname] at h
    obtain rfl := Option.some.inj h
    exact hname
  | none =>
    rw [hname] at h
    obtain ⟨source, hkebab, rfl⟩ := Option.map_eq_some_iff.mp h
    exact hkebab

/-- The arguments the inputs take and those that are left are the arguments supplied. -/
theorem takenFrom_perm (spec : Spec) (inputs : List ScSpecFunctionInputV0) (supplied : Supplied) :
    ((takenFrom spec inputs supplied).reduceOption ++
      (leftOver spec inputs supplied).toList).Perm supplied.toList := by
  induction inputs generalizing supplied with
  | nil => exact List.Perm.refl _
  | cons input inputs ih =>
    have hrest := ih (removeArgument supplied (inputName spec input)).2
    rw [takenFrom, leftOver]
    cases htaken : taken supplied (inputName spec input) with
    | none =>
      rw [removeArgument_eq, htaken] at hrest ⊢
      exact hrest
    | some entry =>
      rw [removeArgument_eq, htaken] at hrest ⊢
      rw [List.reduceOption_cons_of_some, List.cons_append]
      exact (hrest.cons entry).trans
        (BTreeMap.toList_erase_perm (getElem?_of_taken htaken)).symm

theorem foldlM_insertArgument_perm
    (h : named.foldlM insertArgument supplied = .ok left) :
    left.toList.Perm (named ++ supplied.toList) := by
  induction named generalizing supplied with
  | nil =>
    obtain rfl := Except.ok.inj h
    exact List.Perm.refl _
  | cons argument named ih =>
    rw [List.foldlM_cons] at h
    obtain ⟨inserted, hinsert, hrest⟩ := bind_eq_ok.mp h
    unfold insertArgument at hinsert
    split_ifs at hinsert with hfresh
    obtain rfl := Except.ok.inj hinsert
    have hnone : supplied[argument.1]? = none := by simpa using hfresh
    have hperm := BTreeMap.toList_insert_perm argument.2 hnone
    exact (ih hrest).trans ((hperm.append_left named).trans List.perm_middle)

/-- Arguments with distinct names can all be supplied. -/
theorem exists_foldlM_insertArgument
    (h : ((named ++ supplied.toList).map Prod.fst).Nodup) :
    ∃ left, named.foldlM insertArgument supplied = .ok left := by
  induction named generalizing supplied with
  | nil => exact ⟨supplied, rfl⟩
  | cons argument named ih =>
    have hnone : supplied[argument.1]? = none := by
      rw [BTreeMap.getElem?_eq_none_iff_of_perm (List.Perm.refl _)]
      intro source hmem
      rw [List.cons_append, List.map_cons, List.nodup_cons] at h
      have hkey : argument.1 ∈ supplied.toList.map Prod.fst :=
        List.mem_map.mpr ⟨(argument.1, source), hmem, rfl⟩
      rw [List.map_append] at h
      exact h.1 (List.mem_append_right _ hkey)
    have hinsert : insertArgument supplied argument =
        .ok (supplied.insert argument.1 argument.2) := by
      unfold insertArgument
      rw [hnone]
      rfl
    rw [List.foldlM_cons, hinsert, ok_bind]
    apply ih
    -- an inserted name moves from the list to the map
    have hperm := BTreeMap.toList_insert_perm argument.2 hnone
    have hall := ((hperm.append_left named).trans List.perm_middle).map Prod.fst
    exact hall.nodup_iff.mpr h

theorem supplied_eq (request : ContractInvokeRequest) :
    request.supplied = request.named.foldlM insertArgument ∅ := by
  unfold ContractInvokeRequest.supplied ContractInvokeRequest.named
  rw [List.foldlM_append, List.foldlM_append, bind_assoc]

/-! ### Assigned arguments -/

theorem kebab_kebab (name : String) : kebab (kebab name) = kebab name := by
  apply String.toList_injective
  unfold kebab
  rw [String.toList_map, String.toList_map, List.map_map]
  apply List.map_congr_left
  intro c _
  by_cases hc : c = '_'
  · simp [hc]
  · simp [hc]

theorem Spelling.kebab_eq (h : Spelling name spelling) : kebab spelling = kebab name := by
  rcases h with rfl | rfl
  · rfl
  · exact kebab_kebab name

theorem map_kebab_spellings {names : List String} (h : List.Forall₂ Spelling names spellings) :
    spellings.map kebab = names.map kebab := by
  induction h with
  | nil => rfl
  | cons hspelling _ ih => rw [List.map_cons, List.map_cons, hspelling.kebab_eq, ih]

/-- The arguments that are given, from the spellings and the assigned values. -/
def given (spellings : List String) (assignment : List (Option ContractArgumentSource)) :
    List (String × ContractArgumentSource) :=
  (spellings.zip assignment).filterMap fun given => given.2.map fun source => (given.1, source)

theorem given_cons (source : Option ContractArgumentSource) :
    given (spelling :: spellings) (source :: assignment) =
      (source.map fun source => (spelling, source)).toList ++ given spellings assignment := by
  unfold given
  rw [List.zip_cons_cons, List.filterMap_cons]
  cases source <;> rfl

theorem given_keys_sublist :
    ((given spellings assignment).map Prod.fst).Sublist spellings := by
  induction spellings generalizing assignment with
  | nil => exact List.Sublist.refl _
  | cons spelling spellings ih =>
    cases assignment with
    | nil => exact List.nil_sublist _
    | cons source assignment =>
      rw [given_cons]
      cases source with
      | none => exact ih.cons spelling
      | some source => exact ih.cons_cons spelling

theorem given_keys_nodup {names : List String} (hspell : List.Forall₂ Spelling names spellings)
    (hdistinct : (names.map kebab).Nodup) : ((given spellings assignment).map Prod.fst).Nodup := by
  have hnodup : (spellings.map kebab).Nodup := by
    rw [map_kebab_spellings hspell]
    exact hdistinct
  exact (hnodup.of_map kebab).sublist given_keys_sublist

/-- A name that no given argument is spelled for is not found, with dashes or without. -/
theorem getElem?_eq_none_of_given (hmap : supplied.toList.Perm (given spellings assignment))
    (hname : kebab name ∉ spellings.map kebab) (h : kebab spelling = kebab name) :
    supplied[spelling]? = none := by
  rw [BTreeMap.getElem?_eq_none_iff_of_perm hmap]
  intro source hmem
  apply hname
  rw [← h]
  exact List.mem_map_of_mem (given_keys_sublist.subset
    (List.mem_map_of_mem (f := Prod.fst) hmem))

/-- What an input takes is what is given for it. -/
theorem taken_of_given (hmap : supplied.toList.Perm
      (given (spelling :: spellings) (source :: assignment)))
    (hspelling : Spelling name spelling) (hname : kebab name ∉ spellings.map kebab) :
    taken supplied name = source.map fun source => (spelling, source) := by
  rw [given_cons] at hmap
  cases source with
  | none =>
    have hnone : ∀ {other}, kebab other = kebab name → supplied[other]? = none := fun h =>
      getElem?_eq_none_of_given hmap hname h
    simp [taken, hnone rfl, hnone (kebab_kebab name)]
  | some source =>
    have hfound : supplied[spelling]? = some source :=
      (BTreeMap.getElem?_eq_some_iff_mem_of_perm hmap).mpr List.mem_cons_self
    rcases hspelling with rfl | rfl
    · simp [taken, hfound]
    -- an own name in kebab case is looked up once
    by_cases hkebab : kebab name = name
    · rw [hkebab] at hfound
      simp [taken, hfound, hkebab]
    · -- the name itself is nobody's spelling
      have hnone : supplied[name]? = none := by
        rw [BTreeMap.getElem?_eq_none_iff_of_perm hmap]
        intro other hmem
        rcases List.mem_append.mp hmem with hmem | hmem
        · have heq : (name, other) = (kebab name, source) := by simpa using hmem
          exact hkebab (Prod.mk.inj heq).1.symm
        · exact hname (List.mem_map_of_mem (given_keys_sublist.subset
            (List.mem_map_of_mem (f := Prod.fst) hmem)))
      simp [taken, hnone, hfound]

/-- Every input takes what is assigned to it, and nothing is left. -/
theorem takenFrom_of_given (hlength : assignment.length = inputs.length)
    (hspell : List.Forall₂ Spelling (inputs.map (inputName spec)) spellings)
    (hdistinct : DistinctNames spec inputs)
    (hmap : supplied.toList.Perm (given spellings assignment)) :
    (takenFrom spec inputs supplied).map (·.map Prod.snd) = assignment ∧
      (leftOver spec inputs supplied).toList = [] := by
  induction inputs generalizing supplied spellings assignment with
  | nil =>
    obtain rfl := List.length_eq_zero_iff.mp hlength
    rw [List.map_nil, List.forall₂_nil_left_iff] at hspell
    subst hspell
    exact ⟨rfl, List.perm_nil.mp hmap⟩
  | cons input inputs ih =>
    cases assignment with
    | nil => simp at hlength
    | cons source assignment =>
    rw [List.map_cons, List.forall₂_cons_left_iff] at hspell
    obtain ⟨spelling, spellings, hspelling, hspell, rfl⟩ := hspell
    unfold DistinctNames at hdistinct
    rw [List.map_cons, List.nodup_cons] at hdistinct
    have hname : kebab (inputName spec input) ∉ spellings.map kebab := by
      rw [map_kebab_spellings hspell, List.map_map]
      exact hdistinct.1
    have htaken := taken_of_given hmap hspelling hname
    rw [given_cons] at hmap
    -- what the input takes is gone, and the rest is what is given for the other inputs
    have hrest : (removeArgument supplied (inputName spec input)).2.toList.Perm
        (given spellings assignment) := by
      rw [removeArgument_eq, htaken]
      cases source with
      | none => exact hmap
      | some source =>
        have hperm := BTreeMap.toList_erase_perm (getElem?_of_taken htaken)
        exact (hperm.symm.trans hmap).cons_inv
    obtain ⟨hsources, hleft⟩ := ih (by simpa using hlength) hspell hdistinct.2 hrest
    rw [takenFrom, leftOver, List.map_cons, hsources, htaken]
    refine ⟨?_, hleft⟩
    cases source <;> rfl

/-! ### The resolution as a whole -/

/-- The call that a resolution answers with, given the values of the arguments. -/
def ContractInvokeRequest.invoke (request : ContractInvokeRequest) (functionName : String)
    (args : List ScVal) : SorobanInvokeRequest :=
  { SorobanInvokeRequest.new request.contractId functionName args with
    wallet := request.wallet
    inclusionFeeStroops := request.inclusionFeeStroops
    authorizationLifetimeLedgers := request.authorizationLifetimeLedgers }

variable {resolved : SorobanInvokeRequest × List ContractArgumentReview}

/-- A resolution checks the kind of call, and resolves the arguments. -/
theorem resolve_eq_ok (hfind : findFunction spec crates.codec request.functionName = .ok function) :
    request.resolve spec crates = .ok resolved ↔
      ¬ (request.positionalArguments.isSome ∧
        ¬ (request.jsonArguments.isEmpty ∧ request.scvalXdrArguments.isEmpty)) ∧
      request.resolveArguments spec crates function.inputs = .ok (resolved.1.args, resolved.2) ∧
      resolved.1 = request.invoke (spec.text function.name) resolved.1.args := by
  unfold ContractInvokeRequest.resolve
  rw [hfind, ok_bind, ensure_bind_eq_ok, bind_eq_ok]
  refine and_congr_right fun _ => ?_
  constructor
  · intro h
    obtain ⟨arguments, harguments, h⟩ := h
    obtain rfl := Except.ok.inj h
    exact ⟨harguments, rfl⟩
  · intro h
    obtain ⟨harguments, hinvoke⟩ := h
    exact ⟨_, harguments, congrArg Except.ok (Prod.ext hinvoke.symm rfl)⟩

theorem resolveArguments_positional (hcall : request.positionalArguments = some arguments) :
    request.resolveArguments spec crates inputs = .ok (values, rows) ↔
      arguments.length ≤ inputs.length ∧
      Belongs spec crates request.addressNames inputs
        ((List.range inputs.length).map fun index => arguments[index]?.map .specValue)
        values rows := by
  unfold ContractInvokeRequest.resolveArguments
  rw [hcall]
  rw [ensure_bind_eq_ok, resolvePositional_eq_ok, List.range_eq_range']

theorem resolveArguments_named (hcall : request.positionalArguments = none) :
    request.resolveArguments spec crates inputs = .ok (values, rows) ↔
      ∃ supplied, request.supplied = .ok supplied ∧
        Belongs spec crates request.addressNames inputs
          ((takenFrom spec inputs supplied).map (·.map Prod.snd)) values rows ∧
        (leftOver spec inputs supplied).toList = [] := by
  unfold ContractInvokeRequest.resolveArguments
  rw [hcall]
  simp only [bind_eq_ok]
  refine exists_congr fun supplied => and_congr_right fun _ => ?_
  constructor
  · intro h
    obtain ⟨pair, hresolved, h⟩ := h
    cases hleft : pair.2.toList.head? with
    | some unknown => simp [hleft] at h
    | none =>
      rw [hleft] at h
      obtain ⟨hbelongs, hrest⟩ := resolveNamed_eq_ok.mp
        (hresolved.trans (congrArg Except.ok (Prod.ext (Except.ok.inj h) rfl)))
      rw [hrest]
      exact ⟨hbelongs, List.head?_eq_none_iff.mp hleft⟩
  · intro h
    obtain ⟨hbelongs, hleft⟩ := h
    refine ⟨((values, rows), leftOver spec inputs supplied),
      resolveNamed_eq_ok.mpr ⟨hbelongs, rfl⟩, ?_⟩
    simp only [hleft]
    rfl

/-- The resolution of assigned arguments, whatever their order and spelling. -/
theorem resolveArguments_of_assigns (hcall : request.positionalArguments = none)
    (hdistinct : DistinctNames spec inputs)
    (hassigns : Assigns spec inputs assignment request.named) :
    request.resolveArguments spec crates inputs = .ok (values, rows) ↔
      Belongs spec crates request.addressNames inputs assignment values rows := by
  obtain ⟨hlength, spellings, hspell, hperm⟩ := hassigns
  -- the names are distinct, so that no insertion is refused
  have hnodup : ((request.named ++ (∅ : Supplied).toList).map Prod.fst).Nodup := by
    rw [Std.ExtTreeMap.toList_eq_nil_iff.mpr rfl, List.append_nil,
      (hperm.map Prod.fst).nodup_iff]
    refine given_keys_nodup hspell ?_
    rw [List.map_map]
    exact hdistinct
  obtain ⟨supplied, hsupplied⟩ := exists_foldlM_insertArgument hnodup
  have hmap : supplied.toList.Perm (given spellings assignment) := by
    have hall := foldlM_insertArgument_perm hsupplied
    rw [Std.ExtTreeMap.toList_eq_nil_iff.mpr rfl, List.append_nil] at hall
    exact hall.trans hperm
  obtain ⟨hsources, hleft⟩ := takenFrom_of_given hlength hspell hdistinct hmap
  rw [resolveArguments_named hcall, supplied_eq]
  constructor
  · intro h
    obtain ⟨supplied', hsupplied', hbelongs, -⟩ := h
    obtain rfl := Except.ok.inj (hsupplied.symm.trans hsupplied')
    rwa [hsources] at hbelongs
  · intro hbelongs
    refine ⟨supplied, hsupplied, ?_, hleft⟩
    rwa [hsources]

theorem resolve_of_assigns (hcall : request.positionalArguments = none)
    (hfind : findFunction spec crates.codec request.functionName = .ok function)
    (hdistinct : DistinctNames spec function.inputs)
    (hassigns : Assigns spec function.inputs assignment request.named) :
    request.resolve spec crates = .ok resolved ↔
      Belongs spec crates request.addressNames function.inputs assignment resolved.1.args
        resolved.2 ∧
      resolved.1 = request.invoke (spec.text function.name) resolved.1.args := by
  rw [resolve_eq_ok hfind, resolveArguments_of_assigns hcall hdistinct hassigns, hcall]
  exact and_iff_right (by simp)

/-- What is given by place is what the same values by name give. -/
theorem positional_sources_eq (omitted : ℕ) (hlength : arguments.length + omitted = inputs.length) :
    ((List.range inputs.length).map fun index =>
      arguments[index]?.map ContractArgumentSource.specValue) =
      arguments.map (fun value => some (.specValue value)) ++ List.replicate omitted none := by
  apply List.ext_getElem?
  intro i
  by_cases hi : i < inputs.length
  · rw [List.getElem?_map, List.getElem?_range hi, Option.map_some]
    by_cases hgiven : i < arguments.length
    · rw [List.getElem?_append_left (by simpa using hgiven), List.getElem?_map,
        List.getElem?_eq_getElem hgiven]
      rfl
    · rw [List.getElem?_append_right (by simpa using hgiven), List.length_map,
        List.getElem?_replicate_of_lt (by omega),
        List.getElem?_eq_none (by omega : arguments.length ≤ i)]
      rfl
  · rw [List.getElem?_eq_none (by simpa using hi), List.getElem?_eq_none]
    rw [List.length_append, List.length_map, List.length_replicate]
    omega

theorem resolved_belongs
    (hfind : findFunction spec crates.codec request.functionName = .ok function)
    (h : request.resolve spec crates = .ok resolved) :
    Belongs spec crates request.addressNames function.inputs
      (request.sources spec function.inputs) resolved.1.args resolved.2 := by
  obtain ⟨-, harguments, -⟩ := (resolve_eq_ok hfind).mp h
  unfold ContractInvokeRequest.sources
  cases hcall : request.positionalArguments with
  | some arguments => exact ((resolveArguments_positional hcall).mp harguments).2
  | none =>
    obtain ⟨supplied, hsupplied, hbelongs, -⟩ := (resolveArguments_named hcall).mp harguments
    simp only [ContractInvokeRequest.consumed, hcall, hsupplied]
    exact hbelongs

/-- A call by name that is resolved has every argument taken by one input. -/
theorem named_consumed (hcall : request.positionalArguments = none)
    (hfind : findFunction spec crates.codec request.functionName = .ok function)
    (h : request.resolve spec crates = .ok resolved) :
    (request.consumed spec function.inputs).reduceOption.Perm request.named := by
  obtain ⟨-, harguments, -⟩ := (resolve_eq_ok hfind).mp h
  obtain ⟨supplied, hsupplied, -, hleft⟩ := (resolveArguments_named hcall).mp harguments
  have hperm := takenFrom_perm spec function.inputs supplied
  rw [hleft, List.append_nil] at hperm
  rw [supplied_eq] at hsupplied
  have hall := foldlM_insertArgument_perm hsupplied
  rw [Std.ExtTreeMap.toList_eq_nil_iff.mpr rfl, List.append_nil] at hall
  rw [← supplied_eq] at hsupplied
  simp only [ContractInvokeRequest.consumed, hcall, hsupplied]
  exact hperm.trans hall

/-- A call by place takes no named argument. -/
theorem positional_consumed (hcall : request.positionalArguments = some arguments) :
    (request.consumed spec inputs).reduceOption = [] := by
  simp only [ContractInvokeRequest.consumed, hcall]
  induction inputs with
  | nil => rfl
  | cons input inputs ih => rw [List.map_cons, List.reduceOption_cons_of_none, ih]

theorem isEmpty_of_positional (hcall : request.positionalArguments = some arguments)
    (hfind : findFunction spec crates.codec request.functionName = .ok function)
    (h : request.resolve spec crates = .ok resolved) :
    request.jsonArguments.isEmpty ∧ request.scvalXdrArguments.isEmpty := by
  obtain ⟨hkind, -, -⟩ := (resolve_eq_ok hfind).mp h
  rw [hcall] at hkind
  simpa using hkind

theorem named_eq_nil_iff : request.named = [] ↔ request.arguments = [] ∧
    request.jsonArguments = [] ∧ request.scvalXdrArguments = [] := by
  unfold ContractInvokeRequest.named
  simp

/-- A resolution is faithful exactly when it drops no named argument. -/
theorem resolvesFaithfully_iff (spec : Spec) (crates : ArgumentCrates)
    (request : ContractInvokeRequest) :
    ResolvesFaithfully spec crates request ↔ ¬ DropsNamedArguments spec crates request := by
  constructor
  · intro h hdrops
    obtain ⟨arguments, function, values, rows, hcall, hne, hjson, hxdr, hfind, hlength,
      hbelongs⟩ := hdrops
    -- such a request is resolved by place, and its named arguments are not looked at
    have hok : request.resolve spec crates =
        .ok (request.invoke (spec.text function.name) values, rows) := by
      rw [resolve_eq_ok hfind]
      exact ⟨by simp [hjson, hxdr], (resolveArguments_positional hcall).mpr ⟨hlength, hbelongs⟩,
        rfl⟩
    have hperm := h.consumed function _ hfind hok
    rw [positional_consumed hcall] at hperm
    exact hne (named_eq_nil_iff.mp (List.nil_perm.mp hperm)).1
  · intro hkeeps
    refine ⟨?_, ?_, ?_, ?_⟩
    · intro function invoke rows hfind h
      exact resolved_belongs hfind h
    · intro function resolved hfind h
      cases hcall : request.positionalArguments with
      | none => exact named_consumed hcall hfind h
      | some arguments =>
        rw [positional_consumed hcall]
        obtain ⟨hjson, hxdr⟩ := isEmpty_of_positional hcall hfind h
        obtain ⟨-, harguments, -⟩ := (resolve_eq_ok hfind).mp h
        obtain ⟨hlength, hbelongs⟩ := (resolveArguments_positional hcall).mp harguments
        -- a call by place is refused with typed arguments, and keeps no plain ones
        have hnil : request.named = [] := by
          rw [named_eq_nil_iff]
          refine ⟨?_, List.isEmpty_iff.mp hjson, List.isEmpty_iff.mp hxdr⟩
          by_contra hne
          exact hkeeps ⟨arguments, function, _, _, hcall, hne, hjson, hxdr, hfind, hlength,
            hbelongs⟩
        rw [hnil]
    · intro function assignment arguments jsonArguments scvalXdrArguments hfind hdistinct hcall
        other hassigns hother resolved
      have hfind' : findFunction spec crates.codec other.functionName = .ok function := hfind
      have hcall' : other.positionalArguments = none := hcall
      rw [resolve_of_assigns hcall hfind hdistinct hassigns,
        resolve_of_assigns hcall' hfind' hdistinct hother]
      exact Iff.rfl
    · intro function values omitted hfind hdistinct hcall other hassigns resolved
      have hfind' : findFunction spec crates.codec other.functionName = .ok function := hfind
      have hlength : values.length + omitted = function.inputs.length := by
        simpa using hassigns.1
      have hkind : ¬ (other.positionalArguments.isSome = true ∧
          ¬ (other.jsonArguments.isEmpty = true ∧ other.scvalXdrArguments.isEmpty = true)) :=
        fun hboth => hboth.2 ⟨rfl, rfl⟩
      have hle : values.length ≤ function.inputs.length := by omega
      rw [resolve_of_assigns hcall hfind hdistinct hassigns, resolve_eq_ok hfind',
        and_iff_right hkind, resolveArguments_positional rfl,
        positional_sources_eq omitted hlength, and_iff_right hle]
      exact Iff.rfl

/-! ### A call by place with a named argument -/

/-- The input `amount`. -/
def amountInput : ScSpecFunctionInputV0 := ⟨[97, 109, 111, 117, 110, 116], .u32⟩

def setFunction : ScSpecFunctionV0 := ⟨[115, 101, 116], [amountInput], []⟩

def setSpec : Spec := .ofEntries [.functionV0 setFunction] asciiText id id

/-- The crates on the texts of two numbers. -/
def setCrates : ArgumentCrates where
  texts :=
    { parse := fun _ => none
      encode := fun _ => .error "unused"
      fromString := fun text _ => text = "5" ∨ text = "7"
      size_le := fun h => absurd h (by simp) }
  codec :=
    { xdrToJson := fun _ _ => .ok (.number (.posInt (.lit 5)))
      toXdrBase64 := fun _ => .ok "AAAAAwAAAAU="
      findFunction := fun name =>
        if name = "set" then .ok setFunction else .error s!"Missing Entry {name}"
      findFunctions := .ok [setFunction] }
  fromString := fun text _ =>
    if text = "5" then .ok (.scalar (.u32 (.lit 5)))
    else if text = "7" then .ok (.scalar (.u32 (.lit 7)))
    else .error "invalid digit found in string"
  fromJson := fun _ _ => .error "unused"
  fromXdrBase64 := fun _ => .error "unused"
  example? := fun _ => some "1"
  fromString_isOk := by
    intro text typeDef
    by_cases h5 : text = "5"
    · simp [h5, Except.isOk, Except.toBool]
    · by_cases h7 : text = "7"
      · simp [h7, Except.isOk, Except.toBool]
      · simp [h5, h7, Except.isOk, Except.toBool]

/-- The call `set(5)` by place, to which the argument `amount = 7` is added. -/
def mixedRequest : ContractInvokeRequest where
  wallet := none
  contractId := "CCONTRACT"
  functionName := "set"
  arguments := [⟨"amount", "7"⟩]
  positionalArguments := some ["5"]
  jsonArguments := []
  scvalXdrArguments := []
  inclusionFeeStroops := none
  authorizationLifetimeLedgers := .lit 100
  addressNames := ⟨∅⟩

theorem mixedRequest_resolves :
    mixedRequest.resolve setSpec setCrates =
      .ok (mixedRequest.invoke "set" [.scalar (.u32 (.lit 5))],
        [⟨"amount", "u32", .number (.posInt (.lit 5)), "AAAAAwAAAAU="⟩]) := by
  have hsafe : ensureContractTypeNormalizationSafe setSpec .u32 [] = .ok () := by
    rw [ensureContractTypeNormalizationSafe]
    all_goals simp
  have hvalid : validateScvalAgainstType setSpec (.scalar (.u32 (.lit 5))) .u32 0 = .ok () := by
    decide +kernel
  have hreview : contractArgumentReview setSpec setCrates.codec "amount" "u32" .u32
      (.scalar (.u32 (.lit 5))) =
        .ok ⟨"amount", "u32", .number (.posInt (.lit 5)), "AAAAAwAAAAU="⟩ := by
    rw [contractArgumentReview, hvalid, hsafe]
    rfl
  have hfind : findFunction setSpec setCrates.codec mixedRequest.functionName = .ok setFunction :=
    rfl
  rw [resolve_eq_ok hfind]
  have hvalue : Holds setSpec setCrates mixedRequest.addressNames amountInput
      (some (.specValue "5")) (.scalar (.u32 (.lit 5))) := rfl
  have hcall : mixedRequest.positionalArguments = some ["5"] := rfl
  refine ⟨by decide, (resolveArguments_positional hcall).mpr ⟨by decide, ?_⟩, rfl⟩
  exact .cons hvalue hreview .nil

/-- The call is resolved, and nobody takes the named argument. -/
theorem mixedRequest_drops_argument : ¬ ResolvesFaithfully setSpec setCrates mixedRequest := by
  intro h
  have hperm := h.consumed setFunction _ rfl mixedRequest_resolves
  have hcall : mixedRequest.positionalArguments = some ["5"] := rfl
  rw [positional_consumed hcall] at hperm
  have hnil := (named_eq_nil_iff.mp (List.nil_perm.mp hperm)).1
  exact absurd hnil (by simp [mixedRequest])

end Fresnica.Contract
