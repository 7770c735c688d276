import InfraLint.Yaml.Scalar

/-!
# Scalars by indentation

A literal or folded scalar consists of the lines below its head that are indented far enough. The
head can give the indentation and say what becomes of the line ends behind the last line. In a
folded scalar two lines are joined by a space unless one of them starts with a blank.
-/

namespace InfraLint.Yaml

/-- What becomes of the line ends behind the last line. -/
inductive Chomping where
  /-- None is kept. -/
  | strip
  /-- That of the last line is kept. -/
  | clip
  /-- All are kept. -/
  | keep
deriving Repr, DecidableEq

/-- Reads the sign that says what becomes of the last line ends. -/
def chompingSign (place : Place) : Option Chomping × Place :=
  match place.rest with
  | '+' :: _ => (some .keep, place.next)
  | '-' :: _ => (some .strip, place.next)
  | _ => (none, place)

/-- Reads the digit that gives the indentation. -/
def indentSign (place : Place) : Option Nat × Place :=
  match place.rest with
  | c :: _ => if c.isDigit then (some (c.toNat - '0'.toNat), place.next) else (none, place)
  | [] => (none, place)

/-- Reads the head of a scalar up to the end of its line: the two signs in either order. An
indentation that is given is not zero; `0` stands for one that is not given. -/
def blockHead? (place : Place) : Option (Chomping × Nat × Place) := do
  let (sign, place) := chompingSign place
  let (digit, place) := indentSign place
  let (sign, place) :=
    if sign.isNone && digit.isSome then chompingSign place else (sign, place)
  if digit == some 0 then none
  else return (sign.getD .clip, digit.getD 0, ← place.skipLine?)

/-- The empty lines in front of a place. -/
structure EmptyLines where
  /-- The line ends, last one first. -/
  breaks : List Char
  /-- The largest number of spaces in front of a line end or of the place. -/
  width : Nat
  place : Place

/-- Passes indentation and empty lines. Up to `indent` spaces belong to the indentation, or all if
it is `0`. A tab cannot indent. -/
def emptyLinesFrom (indent width : Nat) (breaks : List Char) (mark : Mark) :
    List Char → Option EmptyLines
  | [] => some ⟨breaks, max width mark.column, ⟨[], mark⟩⟩
  | '\r' :: '\n' :: rest =>
    emptyLinesFrom indent (max width mark.column) ('\n' :: breaks) (mark.newLine 2) rest
  | c :: rest =>
    if isBreak c then
      emptyLinesFrom indent (max width mark.column) (breakText c :: breaks)
        (mark.newLine c.utf8Size) rest
    else if isSpace c && (indent == 0 || mark.column < indent) then
      if c == '\t' then none else emptyLinesFrom indent width breaks (mark.next c) rest
    else some ⟨breaks, max width mark.column, ⟨c :: rest, mark⟩⟩

/-- Passes indentation and empty lines. -/
def emptyLines? (indent : Nat) (place : Place) : Option EmptyLines :=
  emptyLinesFrom indent 0 [] place.mark place.rest

/-- The line end here, if there is one, as it reads. -/
def breakHere (place : Place) : List Char :=
  match place.rest with
  | [] => []
  | c :: _ => if isBreak c then [breakText c] else []

/-- What stands between two lines: `last` is the end of the first one and `more` the empty lines
behind it, last one first. A line that starts with a blank keeps the line ends next to it. -/
def lineJoint (isLiteral blankBefore blankAfter : Bool) (last more : List Char) : List Char :=
  if !isLiteral && last == ['\n'] && !blankBefore && !blankAfter then
    if more.isEmpty then [' '] else more
  else more ++ last

/-- Reads at most `fuel` lines that are indented by `indent`. `done` is what has been read, last
character first, `blank` says whether the last line starts with a blank, `last` is the end of the
last line and `more` are the empty lines behind it. -/
def blockLines (isLiteral : Bool) (chomping : Chomping) (indent : Nat) : Nat → (done : List Char) →
    (blank : Bool) → (last more : List Char) → Place → Option ScalarText
  | 0, _, _, _, _, _ => none
  | fuel + 1, done, blank, last, more, place =>
    let starts := place.rest.head?.any isSpace
    if place.column == indent && !place.rest.isEmpty then do
      let (line, behind) := place.span (!isBreak ·)
      let found ← emptyLines? indent behind.skipBreak
      blockLines isLiteral chomping indent fuel
        (line.reverse ++ lineJoint isLiteral blank starts last more ++ done) starts
        (breakHere behind) found.breaks found.place
    else
      let tail := match chomping with
        | .strip => []
        | .clip => last
        | .keep => more ++ last
      some { text := String.ofList (tail ++ done).reverse, place := place }

/-- Reads a scalar by indentation, from its sign on. `indent` is the column of the collection around
it, or `-1` if there is none. An indentation that is not given is that of the first line that is not
empty, or of a longer empty line in front of it. -/
def block? (isLiteral : Bool) (indent : Int) (place : Place) : Option ScalarText := do
  let (chomping, increment, place) ← blockHead? place.next
  let given := if increment == 0 then 0 else (max indent 0).toNat + increment
  let found ← emptyLines? given place
  let width := if given == 0 then max found.width (max (indent + 1).toNat 1) else given
  blockLines isLiteral chomping width (place.rest.length + 1) [] false [] found.breaks found.place

end InfraLint.Yaml
