import InfraLint.Text.Cut

/-!
# Places in a YAML text

A place is what is left to read together with a `Mark` that says where that is. Five characters end
a line; two of them, the separators of lines and paragraphs, stay in a scalar as they are, and the
others read as a line feed.
-/

namespace InfraLint.Yaml

/-- Where a place is: the bytes and the lines in front of it, and its column. -/
structure Mark where
  index : Nat
  line : Nat
  column : Nat
deriving Repr, DecidableEq

namespace Mark

/-- The start of a text. -/
def start : Mark := ⟨0, 0, 0⟩

/-- The mark behind a character that ends no line. -/
def next (mark : Mark) (c : Char) : Mark := ⟨mark.index + c.utf8Size, mark.line, mark.column + 1⟩

/-- The mark behind a line end of so many bytes. -/
def newLine (mark : Mark) (bytes : Nat) : Mark := ⟨mark.index + bytes, mark.line + 1, 0⟩

end Mark

/-- A place in a text. -/
structure Place where
  rest : List Char
  mark : Mark

/-! ## Characters -/

/-- Whether a character ends a line. -/
def isBreak (c : Char) : Bool :=
  c == '\n' || c == '\r' || c == '\u0085' || c == '\u2028' || c == '\u2029'

/-- What a line end reads as. -/
def breakText (c : Char) : Char :=
  if c == '\u2028' || c == '\u2029' then c else '\n'

/-- Whether a character is a blank within a line. -/
def isSpace (c : Char) : Bool :=
  c == ' ' || c == '\t'

/-- Whether a text starts with a blank or a line end, or is at its end. -/
def atGap : List Char → Bool
  | [] => true
  | c :: _ => isSpace c || isBreak c

/-- Whether a character can stand in a name. -/
def isNameChar (c : Char) : Bool :=
  c.isAlphanum || c == '_' || c == '-'

/-- Whether a character may stand in a document. -/
def isAllowed (c : Char) : Bool :=
  let n := c.toNat
  n == 0x9 || n == 0xA || n == 0xD || (0x20 ≤ n && n ≤ 0x7E) || n == 0x85 ||
    (0xA0 ≤ n && n ≤ 0xFFFD) || 0x10000 ≤ n

namespace Place

/-- The start of a text. -/
def start (text : String) : Place := ⟨text.toList, .start⟩

/-- The column of a place. -/
def column (place : Place) : Nat := place.mark.column

/-- Passes one character that ends no line. -/
def next (place : Place) : Place :=
  match place.rest with
  | [] => place
  | c :: rest => ⟨rest, place.mark.next c⟩

/-- Passes so many characters that end no line. -/
def skip : Nat → Place → Place
  | 0, place => place
  | n + 1, place => skip n place.next

/-- Passes the characters that satisfy `p`, none of which ends a line, and gives them. -/
def span (p : Char → Bool) (place : Place) : List Char × Place :=
  let taken := place.rest.takeWhile p
  (taken, ⟨place.rest.dropWhile p, taken.foldl Mark.next place.mark⟩)

/-- Passes the blanks here. -/
def skipSpaces (place : Place) : Place := (place.span isSpace).2

/-- Passes one line end, if there is one. -/
def skipBreak (place : Place) : Place :=
  match place.rest with
  | '\r' :: '\n' :: rest => ⟨rest, place.mark.newLine 2⟩
  | c :: rest => if isBreak c then ⟨rest, place.mark.newLine c.utf8Size⟩ else place
  | [] => place

/-- Passes the rest of a line that holds nothing but blanks and a comment. -/
def skipLine? (place : Place) : Option Place :=
  let place := place.skipSpaces
  let place := match place.rest with
    | '#' :: _ => (place.span (!isBreak ·)).2
    | _ => place
  match place.rest with
  | [] => some place
  | c :: _ => if isBreak c then some place.skipBreak else none

/-- Whether a mark of three characters and a gap stand here at the start of a line. -/
def atMark (mark : String) (place : Place) : Bool :=
  place.column == 0 &&
    match Text.afterLead? mark.toList place.rest with
    | some rest => atGap rest
    | none => false

/-- Whether a document starts or ends here. -/
def atDocumentMark (place : Place) : Bool :=
  place.atMark "---" || place.atMark "..."

end Place

end InfraLint.Yaml
