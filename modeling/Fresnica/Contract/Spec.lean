import Fresnica.Foundation.Outcome
import Fresnica.Xdr

/-!
# Contract specs

A contract declares the types of its functions, and the types it defines itself, in its
spec. Names are bytes, and are compared through the texts they are read as. Finding an
entry by its name and reading a name are operations of the spec crate.

## Main definitions

* `ScSpecTypeDef`, `ScSpecEntry` — types and entries
* `Spec` — a spec with the operations of the crate
* `contractTypeName` — the name of a type in messages
* `contractStructIsTuple` — whether a struct is a tuple, if its fields are canonical
-/

namespace Fresnica.Contract

open Foundation

/-- The types of a spec. -/
inductive ScSpecTypeDef
  | val
  | bool
  | void
  | error
  | u32
  | i32
  | u64
  | i64
  | timepoint
  | duration
  | u128
  | i128
  | u256
  | i256
  | bytes
  | string
  | symbol
  | address
  | muxedAddress
  | option (valueType : ScSpecTypeDef)
  | result (okType errorType : ScSpecTypeDef)
  | vec (elementType : ScSpecTypeDef)
  | map (keyType valueType : ScSpecTypeDef)
  | tuple (valueTypes : List ScSpecTypeDef)
  | bytesN (n : U32)
  | udt (name : List UInt8)

structure ScSpecUdtStructFieldV0 where
  name : List UInt8
  type : ScSpecTypeDef

structure ScSpecUdtStructV0 where
  name : List UInt8
  fields : List ScSpecUdtStructFieldV0

inductive ScSpecUdtUnionCaseV0
  | voidV0 (name : List UInt8)
  | tupleV0 (name : List UInt8) (type : List ScSpecTypeDef)

namespace ScSpecUdtUnionCaseV0

def name : ScSpecUdtUnionCaseV0 → List UInt8
  | voidV0 name => name
  | tupleV0 name _ => name

/-- The types of the payload. -/
def types : ScSpecUdtUnionCaseV0 → List ScSpecTypeDef
  | voidV0 _ => []
  | tupleV0 _ type => type

end ScSpecUdtUnionCaseV0

structure ScSpecUdtUnionV0 where
  name : List UInt8
  cases : List ScSpecUdtUnionCaseV0

/-- An enum, or an error enum, with the values of its cases. -/
structure ScSpecUdtEnumV0 where
  name : List UInt8
  cases : List U32

structure ScSpecFunctionInputV0 where
  name : List UInt8
  type : ScSpecTypeDef

structure ScSpecFunctionV0 where
  name : List UInt8
  inputs : List ScSpecFunctionInputV0
  outputs : List ScSpecTypeDef

inductive ScSpecEntry
  | functionV0 (function : ScSpecFunctionV0)
  | udtStructV0 (struct : ScSpecUdtStructV0)
  | udtUnionV0 (union : ScSpecUdtUnionV0)
  | udtEnumV0 (enum : ScSpecUdtEnumV0)
  | udtErrorEnumV0 (enum : ScSpecUdtEnumV0)
  | eventV0 (name : List UInt8)

def ScSpecEntry.name : ScSpecEntry → List UInt8
  | functionV0 function => function.name
  | udtStructV0 struct => struct.name
  | udtUnionV0 union => union.name
  | udtEnumV0 enum => enum.name
  | udtErrorEnumV0 enum => enum.name
  | eventV0 name => name

/-- A spec with the operations of the spec crate: `text` reads a name, `sanitize` makes it
printable and `debug` quotes it, and `find` answers an entry of the name it is asked for. -/
structure Spec where
  entries : List ScSpecEntry
  text : List UInt8 → String
  sanitize : String → String
  debug : String → String
  find : String → Except String ScSpecEntry
  mem_of_find : ∀ {name entry}, find name = .ok entry → entry ∈ entries
  name_of_find : ∀ {name entry}, find name = .ok entry → text entry.name = name

/-- A spec whose entries are found by the first of the name. -/
def Spec.ofEntries (entries : List ScSpecEntry) (text : List UInt8 → String)
    (sanitize debug : String → String) : Spec where
  entries := entries
  text := text
  sanitize := sanitize
  debug := debug
  find name := okOr (entries.find? fun entry => text entry.name = name) s!"Missing Entry {name}"
  mem_of_find h := List.mem_of_find?_eq_some (okOr_eq_ok.mp h)
  name_of_find h := by
    have hname := List.find?_some (okOr_eq_ok.mp h)
    exact of_decide_eq_true hname

mutual

/-- The name of a type in messages. -/
def contractTypeName (spec : Spec) : ScSpecTypeDef → String
  | .val => "val"
  | .bool => "bool"
  | .void => "void"
  | .error => "error"
  | .u32 => "u32"
  | .i32 => "i32"
  | .u64 => "u64"
  | .i64 => "i64"
  | .timepoint => "timepoint"
  | .duration => "duration"
  | .u128 => "u128"
  | .i128 => "i128"
  | .u256 => "u256"
  | .i256 => "i256"
  | .bytes => "bytes"
  | .string => "string"
  | .symbol => "symbol"
  | .address => "address"
  | .muxedAddress => "muxed_address"
  | .option valueType => s!"option<{contractTypeName spec valueType}>"
  | .result okType errorType =>
    s!"result<{contractTypeName spec okType},{contractTypeName spec errorType}>"
  | .vec elementType => s!"vec<{contractTypeName spec elementType}>"
  | .map keyType valueType =>
    s!"map<{contractTypeName spec keyType},{contractTypeName spec valueType}>"
  | .tuple valueTypes => "(" ++ String.intercalate "," (contractTypeNames spec valueTypes) ++ ")"
  | .bytesN n => s!"bytes[{n.val}]"
  | .udt name => spec.sanitize (spec.text name)

def contractTypeNames (spec : Spec) : List ScSpecTypeDef → List String
  | [] => []
  | typeDef :: typeDefs => contractTypeName spec typeDef :: contractTypeNames spec typeDefs

end

/-- The names of the fields of a struct. -/
def fieldNames (spec : Spec) (struct : ScSpecUdtStructV0) : List String :=
  struct.fields.map fun field => spec.text field.name

/-- The first case of the name. -/
def findCase (spec : Spec) (union : ScSpecUdtUnionV0) (caseName : String) :
    Option ScSpecUdtUnionCaseV0 :=
  union.cases.find? fun case => spec.text case.name = caseName

def unionCase (spec : Spec) (union : ScSpecUdtUnionV0) (typeName caseName : String) :
    Except String ScSpecUdtUnionCaseV0 :=
  okOr (findCase spec union caseName) s!"unknown case {spec.debug caseName} for union {typeName}"

/-- Whether a struct is a tuple. Its fields are numbered in order; those of any other
struct are in the order of their names. -/
def contractStructIsTuple (spec : Spec) (struct : ScSpecUdtStructV0) : Except String Bool := do
  let names := fieldNames spec struct
  if names.head? = some "0" then
    ensure (names = (List.range names.length).map toString)
      s!"tuple struct {spec.text struct.name} does not use canonical numeric field order"
    return true
  ensure ("0" ∉ names) s!"tuple struct {spec.text struct.name} does not begin with field 0"
  ensure (names.IsChain (· < ·))
    s!"named struct {spec.text struct.name} does not use canonical field order required for safe Contract-Spec normalization"
  return false

end Fresnica.Contract
