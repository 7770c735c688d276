import InfraLint.Expr.Source
import InfraLint.Text.Blank
import InfraLint.Text.Lines

/-!
# The margin of an indented heredoc

`SourcePart.dedent` takes the common margin off the lines of an indented heredoc. Each text of the
heredoc has a margin of its own or none, and the least of them goes. It is taken off by count,
whatever the characters are, so a line that starts at the very left can lose letters when another
text decides the margin. Line ends become line feeds when a margin is taken off.
-/

namespace InfraLint.SourcePart

open Text

/-- The margin of one text: the least number of blanks in front of a line that is not empty. A text
with such a line at the very left has none. The first line does not count when the text is
`continued`, that is when it starts in the middle of a line. -/
def margin? (continued : Bool) (cs : List Char) : Option Nat :=
  let lines := (splitLines cs).drop (if continued then 1 else 0)
  let widths := (lines.filter (!·.isEmpty)).map fun line => (line.takeWhile isBlank).length
  if widths.contains 0 then none else widths.min?

/-- The margins of the texts of a template. -/
def margins (continued : Bool) : List SourcePart → List Nat
  | [] => []
  | .text cs :: rest => (margin? continued cs).toList ++ margins continued rest
  | _ :: rest => margins true rest

/-- Whether the place behind a text is the start of a line, when `fresh` says so of the place in
front of it. -/
def endsLine (fresh : Bool) (cs : List Char) : Bool :=
  match cs.getLast? with
  | some c => c == '\n'
  | none => fresh

/-- Whether a part that is no text stands at the very start of a line. -/
def opensLine (fresh : Bool) : List SourcePart → Bool
  | [] => false
  | .text cs :: rest => opensLine (endsLine fresh cs) rest
  | _ :: rest => fresh || opensLine false rest

/-- Takes `margin` characters off the lines that start in the texts of a template. -/
def dropMargins (margin : Nat) (continued : Bool) : List SourcePart → List SourcePart
  | [] => []
  | .text cs :: rest =>
    .text (mapLines continued (·.drop margin) cs) :: dropMargins margin continued rest
  | part :: rest => part :: dropMargins margin true rest

/-- The common margin of a template. A part that is no text at the very start of a line keeps every
margin in place. -/
def commonMargin? (parts : List SourcePart) : Option Nat :=
  if opensLine true parts then none else (margins false parts).min?

/-- A template without its common margin. -/
def dedent (parts : List SourcePart) : List SourcePart :=
  match commonMargin? parts with
  | some margin => dropMargins margin false parts
  | none => parts

end InfraLint.SourcePart
