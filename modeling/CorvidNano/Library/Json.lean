import Mathlib.Data.List.Basic

/-!
# JSON values

A JSON tree with exact decimal numbers, and access to a member of an object by name.
-/

namespace CorvidNano

/-- A JSON value. The number `number m e` is `m * 10 ^ e`. -/
inductive Json where
  | null
  | bool (value : Bool)
  | number (mantissa exponent : Int)
  | string (text : String)
  | array (elements : List Json)
  | object (members : List (String × Json))

namespace Json

/-- The member of an object with the given name. Every other value has no members. -/
def get? (value : Json) (name : String) : Option Json :=
  match value with
  | .object members => members.lookup name
  | _ => none

/-- The text of the member with the given name, if it is a string. -/
def getStr? (value : Json) (name : String) : Option String :=
  match value.get? name with
  | some (.string text) => some text
  | _ => none

/-- The elements of the member with the given name, or none if it is not an array. -/
def getElements (value : Json) (name : String) : List Json :=
  match value.get? name with
  | some (.array elements) => elements
  | _ => []

/-- The only member of a singleton object. -/
@[simp] theorem get?_singleton (name other : String) (value : Json) :
    (object [(name, value)]).get? other = if other = name then some value else none := by
  show List.lookup other [(name, value)] = _
  rw [List.lookup_cons, List.lookup_nil]
  by_cases h : other = name
  · simp [h]
  · simp [h, beq_eq_false_iff_ne.mpr h]

end Json

end CorvidNano
