import Fresnica.Foundation.BoundedInt

/-!
# JSON values

A value is read by its kind: an accessor answers `none` when the value is of
another kind, or has no member of the given name.

## Main definitions

* `JsonNumber`, `Json` — values
* `Json.get?`, `Json.asStr?`, `Json.asArray?`, `Json.asBool?`, `JsonNumber.asI64?` — accessors
* `insertMember` — a member put among those of an object
* `Json.size` — no more than the length of any text of a value

## Main results

* `foldl_insertMember_perm` — members of different names that are put in are all there
-/

namespace Foundation

/-- A number as it is kept after parsing: an unsigned integer, a negative one, or a
number that is not read any further. -/
inductive JsonNumber
  | posInt (value : U64)
  | negInt (value : I64)
  | float (text : String)
  deriving DecidableEq, Repr

inductive Json
  | null
  | bool (value : Bool)
  | number (value : JsonNumber)
  | string (value : String)
  | array (items : List Json)
  | object (members : List (String × Json))
  deriving Repr

def JsonNumber.asI64? : JsonNumber → Option I64
  | .posInt value => value.tryFrom
  | .negInt value => some value
  | .float _ => none

/-- The text of a number. -/
def JsonNumber.text : JsonNumber → String
  | .posInt value => toString value.val
  | .negInt value => toString value.val
  | .float text => text

/-- The members with one more, in the order of their names; it replaces one of its name. -/
def insertMember (key : String) (value : Json) : List (String × Json) → List (String × Json)
  | [] => [(key, value)]
  | (other, held) :: members =>
    if key < other then (key, value) :: (other, held) :: members
    else if key = other then (key, value) :: members
    else (other, held) :: insertMember key value members

/-- A member of a new name is one more. -/
theorem insertMember_perm {key : String} {value : Json} {members : List (String × Json)}
    (h : key ∉ members.map Prod.fst) :
    (insertMember key value members).Perm ((key, value) :: members) := by
  induction members with
  | nil => exact List.Perm.refl _
  | cons member members ih =>
    obtain ⟨other, held⟩ := member
    rw [List.map_cons, List.mem_cons, not_or] at h
    rw [insertMember]
    split_ifs with hlt heq
    · exact List.Perm.refl _
    · exact absurd heq h.1
    · exact ((ih h.2).cons _).trans (List.Perm.swap _ _ _)

/-- Members of different names are all there after they are put in. -/
theorem foldl_insertMember_perm {entries members : List (String × Json)}
    (h : ((entries ++ members).map Prod.fst).Nodup) :
    (entries.foldl (fun members entry => insertMember entry.1 entry.2 members) members).Perm
      (entries ++ members) := by
  induction entries generalizing members with
  | nil => exact List.Perm.refl _
  | cons entry entries ih =>
    rw [List.cons_append, List.map_cons, List.nodup_cons] at h
    have hnew : entry.1 ∉ members.map Prod.fst := fun hmem => h.1 (by
      rw [List.map_append]
      exact List.mem_append_right _ hmem)
    have hone : (insertMember entry.1 entry.2 members).Perm (entry :: members) :=
      insertMember_perm hnew
    have hperm : (entries ++ insertMember entry.1 entry.2 members).Perm
        (entry :: (entries ++ members)) :=
      (hone.append_left entries).trans List.perm_middle
    rw [List.foldl_cons]
    refine (ih ?_).trans hperm
    rw [(hperm.map Prod.fst).nodup_iff, List.map_cons, List.nodup_cons]
    exact h

namespace Json

def isNull : Json → Bool
  | .null => true
  | _ => false

def isObject : Json → Bool
  | .object _ => true
  | _ => false

def get? (value : Json) (key : String) : Option Json :=
  match value with
  | .object members => members.lookup key
  | _ => none

def asStr? : Json → Option String
  | .string value => some value
  | _ => none

def asArray? : Json → Option (List Json)
  | .array items => some items
  | _ => none

def asObject? : Json → Option (List (String × Json))
  | .object members => some members
  | _ => none

def asBool? : Json → Option Bool
  | .bool value => some value
  | _ => none

def asU64? : Json → Option U64
  | .number (.posInt value) => some value
  | _ => none

mutual

/-- The number of characters of strings and names, and one for each value and name. -/
def size : Json → ℕ
  | .string value => value.length + 1
  | .array items => sizeItems items + 1
  | .object members => sizeMembers members + 1
  | _ => 1

def sizeItems : List Json → ℕ
  | [] => 0
  | item :: items => item.size + sizeItems items

def sizeMembers : List (String × Json) → ℕ
  | [] => 0
  | (key, value) :: members => key.length + 1 + value.size + sizeMembers members

end

theorem size_pos (value : Json) : 0 < value.size := by
  cases value <;> simp [size]

theorem size_array_tail_lt {item : Json} {items : List Json} :
    (array items).size < (array (item :: items)).size := by
  have hpos := size_pos item
  rw [size, size, sizeItems]
  omega

theorem size_lt_of_mem_items {item : Json} {items : List Json} (h : item ∈ items) :
    item.size < (array items).size := by
  rw [size, Nat.lt_succ_iff]
  induction items with
  | nil => cases h
  | cons first items ih =>
    rw [sizeItems]
    rcases List.mem_cons.mp h with rfl | h
    · exact Nat.le_add_right _ _
    · exact (ih h).trans (Nat.le_add_left _ _)

/-- A member is smaller than its object, and so is a string of its name. -/
theorem size_lt_of_mem_members {key : String} {value : Json} {members : List (String × Json)}
    (h : (key, value) ∈ members) : key.length + 1 + value.size < (object members).size := by
  rw [size, Nat.lt_succ_iff]
  induction members with
  | nil => cases h
  | cons first members ih =>
    rw [sizeMembers]
    rcases List.mem_cons.mp h with rfl | h
    · exact Nat.le_add_right _ _
    · exact (ih h).trans (Nat.le_add_left _ _)

theorem size_lt_of_member {entry : String × Json} {members : List (String × Json)}
    (h : entry ∈ members) : entry.2.size < (object members).size :=
  lt_of_le_of_lt (Nat.le_add_left _ _) (size_lt_of_mem_members h)

theorem size_lt_of_single {key : String} {value : Json} :
    value.size < (object [(key, value)]).size := by
  have hmem : (key, value) ∈ [(key, value)] := List.mem_singleton_self _
  exact size_lt_of_member hmem

theorem size_lt_of_lookup {key : String} {value : Json} {members : List (String × Json)}
    (h : members.lookup key = some value) : value.size < (object members).size := by
  obtain ⟨before, after, rfl, -⟩ := List.lookup_eq_some_iff.mp h
  have hmem : (key, value) ∈ before ++ (key, value) :: after := by simp
  exact size_lt_of_member hmem

end Json

end Foundation
