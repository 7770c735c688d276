import InfraLint.Assoc
import InfraLint.Expr.Quoted
import InfraLint.Number.Basic

/-!
# Values

What an expression evaluates to. Maps keep their entries in the order in which keys were first
given. The text of a value is what it contributes to a string that interpolates it.
-/

namespace InfraLint

/-- A value of the configuration language. -/
inductive Value where
  | null
  | bool (value : Bool)
  | number (value : Number)
  | string (value : String)
  | list (items : List Value)
  | map (entries : List (String × Value))
deriving Inhabited

namespace Value

/-- The kinds of value. -/
inductive Kind where
  | null
  | bool
  | number
  | string
  | list
  | map
deriving Repr, DecidableEq

/-- The name of a kind, as messages cite it. -/
def Kind.name : Kind → String
  | null => "null"
  | bool => "bool"
  | number => "number"
  | string => "string"
  | list => "list"
  | map => "map"

/-- The kind of a value. -/
def kind : Value → Kind
  | .null => .null
  | .bool _ => .bool
  | .number _ => .number
  | .string _ => .string
  | .list _ => .list
  | .map _ => .map

mutual

/-- Whether two values are equal: numbers by value, lists in order, maps whatever their order. -/
def equal : Value → Value → Bool
  | .null, .null => true
  | .bool a, .bool b => a == b
  | .number a, .number b => a.compare b == .eq
  | .string a, .string b => a == b
  | .list as, .list bs => equalAll as bs
  | .map as, .map bs => as.length == bs.length && equalEntries as bs
  | _, _ => false

/-- Whether two lists hold equal values in the same order. -/
def equalAll : List Value → List Value → Bool
  | [], [] => true
  | a :: as, b :: bs => equal a b && equalAll as bs
  | _, _ => false

/-- Whether each entry of the first map has an equal one in the second. -/
def equalEntries : List (String × Value) → List (String × Value) → Bool
  | [], _ => true
  | (k, v) :: rest, bs =>
    (match bs.lookup k with
      | some w => equal v w
      | none => false) && equalEntries rest bs

end

/-- The blanks in front of a line at nesting depth `depth`. -/
def indent (depth : Nat) : String :=
  String.ofList (List.replicate (2 * depth) ' ')

/-- A text that is being written. The switch says that a list or map has been opened and nothing put
into one since, which leaves out the comma in front of the next item of a list. -/
abbrev Writing := StateM Bool String

mutual

/-- The text of a value nested `depth` levels deep in a list or map. -/
def nestedText (depth : Nat) : Value → Writing
  | .null => return "null"
  | .bool b => return if b then "true" else "false"
  | .number n => return n.text
  | .string s => return Quoted.quoteValue s
  | .list [] => do
    set true
    return "[]"
  | .list items => do
    set true
    return "[" ++ (← itemsText (depth + 1) items) ++ "\n" ++ indent depth ++ "]"
  | .map [] => do
    set true
    return "\x7b\x7d"
  | .map entries => do
    set true
    return "\x7b" ++ (← entriesText (depth + 1) entries) ++ "\n" ++ indent depth ++ "\x7d"

/-- The text of the items of a list, each on a line of its own. -/
def itemsText (depth : Nat) : List Value → Writing
  | [] => return ""
  | item :: items => do
    let comma := if ← get then "" else ","
    set false
    return comma ++ "\n" ++ indent depth ++ (← nestedText depth item) ++ (← itemsText depth items)

/-- The text of the entries of a map, each on a line of its own. -/
def entriesText (depth : Nat) : List (String × Value) → Writing
  | [] => return ""
  | (key, value) :: entries => do
    set false
    return "\n" ++ indent depth ++ Quoted.quote key ++ " = " ++ (← nestedText depth value) ++
      (← entriesText depth entries)

end

/-- The text of a value inside a string. A string stands for itself. -/
def text : Value → String
  | .string s => s
  | v => (nestedText 0 v true).1

end Value

end InfraLint
