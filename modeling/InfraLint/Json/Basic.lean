import InfraLint.Number.Basic

/-!
# JSON values

State files, module manifests and the answers of the cloud provider are JSON documents. The members
of an object are kept in the order of the document, repeated names included; `get?` gives the last
one of a name. A document can hold parts that follow the grammar and still have no value, such as a
number beyond all range; they do no harm where nobody looks at them.
-/

namespace InfraLint

/-- A JSON value. -/
inductive Json where
  | null
  | bool (value : Bool)
  | number (value : Number)
  | string (value : String)
  | array (items : List Json)
  | object (members : List (String × Json))
  /-- A part that follows the grammar and has no value: a number that is out of range, a string with
  half a surrogate pair, an object with such a name, an array or object that nests too deep. -/
  | unreadable
deriving Inhabited

namespace Json

mutual

/-- Whether every part of a value has a value. -/
def isSound : Json → Bool
  | .array items => areSound items
  | .object members => membersSound members
  | .unreadable => false
  | _ => true

/-- Whether every part of each item has a value. -/
def areSound : List Json → Bool
  | [] => true
  | item :: rest => item.isSound && areSound rest

/-- Whether every part of each member has a value. -/
def membersSound : List (String × Json) → Bool
  | [] => true
  | (_, value) :: rest => value.isSound && membersSound rest

end

/-- The value itself, if every part of it has one. -/
def sound? (value : Json) : Option Json :=
  if value.isSound then some value else none

/-- The last value given for a name in a list of members. -/
def lookupLast (name : String) : List (String × α) → Option α
  | [] => none
  | (key, value) :: rest =>
    match lookupLast name rest with
    | some found => some found
    | none => if key == name then some value else none

/-- The member of an object under a name. Other values have no members. -/
def get? (name : String) : Json → Option Json
  | .object members => lookupLast name members
  | _ => none

/-- The string that a value is. -/
def string? : Json → Option String
  | .string s => some s
  | _ => none

/-- The items of an array. -/
def items? : Json → Option (List Json)
  | .array items => some items
  | _ => none

/-- How numbers that are not whole are written: from `0.00001` up to sixteen digits before the point
in positional form, else with an exponent such as `e+19` or `e-7`. -/
def layout : Layout := ⟨-5, 16, true⟩

/-- The text of a number. -/
def numberText : Number → String
  | .natural n => toString n
  | .signed i => toString i
  | .real x => layout.text x

/-- The text of a string, number or truth value. -/
def scalarText? : Json → Option String
  | .string s => some s
  | .number n => some (numberText n)
  | .bool b => some (if b then "true" else "false")
  | _ => none

end Json

end InfraLint
