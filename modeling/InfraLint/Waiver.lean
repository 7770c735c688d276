import InfraLint.Text.Blank
import InfraLint.Text.Cut
import InfraLint.Text.Lines

/-!
# Waivers

A line that holds `# tfsift-ignore: rule_a, rule_b` (or `//` for `#`) silences the named rules on
that line and on the next one: it waives them there. The name `all` waives every rule. Lines are
read as they stand, so the marker counts wherever it occurs on a line.
-/

namespace InfraLint

/-- A waiver: the line it stands on and the rule names it lists. -/
structure Waiver where
  line : Nat
  rules : List String
deriving Repr, DecidableEq

namespace Waiver

open Text

/-- The words that follow the comment sign of a waiver. -/
def marker : List Char := "tfsift-ignore:".toList

/-- The characters of a rule list: letters, digits, underscores and separators. -/
def isListChar (c : Char) : Bool :=
  c.isAlphanum || c == '_' || c == ',' || isBlank c

/-- What separates the names of a rule list. -/
def isSeparator (c : Char) : Bool :=
  c == ',' || isBlank c

/-- What follows a comment sign at the start of `cs`. -/
def afterSign? : List Char → Option (List Char)
  | '#' :: rest => some rest
  | '/' :: '/' :: rest => some rest
  | _ => none

/-- The rule list of a waiver that starts exactly here: a comment sign, blanks, the marker and
then as many list characters as there are, at least one. -/
def listAt? (cs : List Char) : Option (List Char) := do
  let afterSign ← afterSign? cs
  let afterMarker ← afterLead? marker (afterSign.dropWhile isBlank)
  let list := afterMarker.takeWhile isListChar
  if list.isEmpty then none else some list

/-- The rule list of the leftmost waiver on a line. -/
def findList? : List Char → Option (List Char)
  | [] => none
  | c :: rest => (listAt? (c :: rest)).or (findList? rest)

/-- The names of a rule list, in order. -/
def names (list : List Char) : List String :=
  (pieces isSeparator list).map String.ofList

/-- The waiver on one line. A list without names makes none. -/
def ofLine? (line : Nat) (text : List Char) : Option Waiver := do
  let list ← findList? text
  let rules := names list
  if rules.isEmpty then none else some ⟨line, rules⟩

/-- The waivers of a text, at most one for each line, from the first line to the last. -/
def scan (source : String) : List Waiver :=
  ((splitLines source.toList).zipIdx 1).filterMap fun (text, line) => ofLine? line text

/-- Whether the waiver silences `rule` at `line`. -/
def covers (waiver : Waiver) (rule : String) (line : Nat) : Bool :=
  (line == waiver.line || line == waiver.line + 1) &&
    waiver.rules.any fun name => name == "all" || name == rule

end Waiver

end InfraLint
