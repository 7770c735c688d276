import InfraLint.Json.Basic
import InfraLint.Text.Escape

/-!
# Writing JSON

Values are written over several lines, with two spaces for each level. Empty arrays and objects stay
on one line.
-/

namespace InfraLint.Json

/-- The start of a line at a level. -/
def newline (level : Nat) : String :=
  "\n" ++ String.ofList (List.replicate (2 * level) ' ')

mutual

/-- The text of a value that stands at a level. A part without a value is written as `null`. -/
def prettyAt (level : Nat) : Json → String
  | .null | .unreadable => "null"
  | .bool b => if b then "true" else "false"
  | .number n => numberText n
  | .string s => Text.quoted s
  | .array [] => "[]"
  | .array items => "[" ++ prettyItems (level + 1) items ++ newline level ++ "]"
  | .object [] => "\x7b\x7d"
  | .object members => "\x7b" ++ prettyMembers (level + 1) members ++ newline level ++ "\x7d"

/-- The items of an array, each on a line of its own. -/
def prettyItems (level : Nat) : List Json → String
  | [] => ""
  | [item] => newline level ++ prettyAt level item
  | item :: rest => newline level ++ prettyAt level item ++ "," ++ prettyItems level rest

/-- The members of an object, each on a line of its own. -/
def prettyMembers (level : Nat) : List (String × Json) → String
  | [] => ""
  | [(name, value)] => newline level ++ Text.quoted name ++ ": " ++ prettyAt level value
  | (name, value) :: rest =>
    newline level ++ Text.quoted name ++ ": " ++ prettyAt level value ++ "," ++
      prettyMembers level rest

end

/-- The text of a value. -/
def pretty (value : Json) : String := prettyAt 0 value

/-- A natural number as a value. -/
def ofNat (n : Nat) : Json := .number (.natural n)

end InfraLint.Json
