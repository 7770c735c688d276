/-!
# Lines of a text

Two ways to speak about lines. A `LineIndex` gives the line of a byte offset; `splitLines` gives
the lines themselves. Both count from one and both end a line at a line feed only.
-/

namespace InfraLint.Text

/-- The byte offsets at which the lines of a text start, in increasing order. -/
structure LineIndex where
  starts : List Nat
deriving Repr, DecidableEq

namespace LineIndex

/-- The offsets just after each line feed of a text whose first character is at `offset`. -/
def startsAfter (offset : Nat) : List Char → List Nat
  | [] => []
  | c :: rest =>
    let next := offset + c.utf8Size
    if c == '\n' then next :: startsAfter next rest else startsAfter next rest

/-- The index of a text: its first line starts at offset zero, a further one after each line
feed. -/
def ofText (source : String) : LineIndex :=
  ⟨0 :: startsAfter 0 source.toList⟩

/-- The line that holds the byte at `offset`: the number of lines that start at or before it. An
offset beyond the end is on the last line. -/
def lineOf (index : LineIndex) (offset : Nat) : Nat :=
  index.starts.countP (· ≤ offset)

end LineIndex

/-- Takes off a carriage return that stands directly before the end of a line. The line is given
last character first. -/
def dropReturn : List Char → List Char
  | '\r' :: line => line
  | line => line

/-- The lines of `cs` when `acc`, last character first, is the line being read. -/
def linesFrom (acc : List Char) : List Char → List (List Char)
  | [] => if acc.isEmpty then [] else [acc.reverse]
  | c :: rest =>
    if c == '\n' then (dropReturn acc).reverse :: linesFrom [] rest else linesFrom (c :: acc) rest

/-- Cuts a text at its line feeds. A carriage return directly before a line feed belongs to the
line's end, and a final line feed opens no further line. -/
def splitLines (cs : List Char) : List (List Char) :=
  linesFrom [] cs

/-- Changes the lines of a text one by one, but not the first one if the text is `continued`, that
is if it starts in the middle of a line. Every line end becomes a line feed. -/
def mapLines (continued : Bool) (change : List Char → List Char) (cs : List Char) : List Char :=
  let changed := match continued, splitLines cs with
    | true, first :: rest => first :: rest.map change
    | _, lines => lines.map change
  ['\n'].intercalate changed ++ (if cs.getLast? == some '\n' then ['\n'] else [])

end InfraLint.Text
