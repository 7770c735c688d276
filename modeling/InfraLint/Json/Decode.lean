import InfraLint.Assoc
import InfraLint.Json.Basic

/-!
# Records in JSON documents

A record is an object in which every known field stands at most once and unknown ones are ignored,
or an array that gives the fields in order. A field that may be missing has a default; a field that
is given must have the right type, so `null` does not stand for a missing one.
-/

namespace InfraLint.Json

/-- What is given for each field of a record. -/
def fields? (names : List String) : Json → Option (List (Option Json))
  | .object members =>
    names.mapM fun name =>
      match members.filter (·.1 == name) with
      | [] => some none
      | [(_, value)] => some (some value)
      | _ => none
  | .array items =>
    if items.length ≤ names.length then some ((List.range names.length).map (items[·]?)) else none
  | _ => none

/-- Decodes a field that must be given. -/
def required (decode : Json → Option α) (field : Option Json) : Option α :=
  field.bind decode

/-- Decodes a field that has a default. -/
def withDefault (decode : Json → Option α) (default : α) : Option Json → Option α
  | none => some default
  | some value => decode value

/-- Decodes an array. -/
def listOf? (decode : Json → Option α) : Json → Option (List α)
  | .array items => items.mapM decode
  | _ => none

/-- Decodes an object as a map: of a repeated name the last value counts. -/
def mapOf? (decode : Json → Option α) : Json → Option (List (String × α))
  | .object members => do
    let pairs ← members.mapM fun (key, value) => return (key, ← decode value)
    return Assoc.ofPairs pairs
  | _ => none

/-- Decodes a value that may be `null`. -/
def optional? (decode : Json → Option α) : Json → Option (Option α)
  | .null => some none
  | value => (decode value).map some

end InfraLint.Json
