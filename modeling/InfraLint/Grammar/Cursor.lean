import InfraLint.Text.Blank
import InfraLint.Text.Cut
import InfraLint.Text.Identifier

/-!
# Reading a source text

A `Cursor` is a place in a source text: what is left to read, and the byte offset of that place. A
`Reader` reads something at a cursor and moves it on, or fails and leaves no trace, so alternatives
can be tried in turn. Blanks and comments come in two strengths: `inlineBlanks` stays on the line
(block comments apart), `anyBlanks` also passes line ends and line comments.
-/

namespace InfraLint

/-- A place in a source text. -/
structure Cursor where
  /-- The characters from this place on. -/
  rest : List Char
  /-- The byte offset of this place. -/
  offset : Nat
deriving Repr

namespace Cursor

/-- The start of a text. -/
def start (source : String) : Cursor := ⟨source.toList, 0⟩

/-- The bytes of the text that `cs` encodes. -/
def byteLength (cs : List Char) : Nat :=
  cs.foldl (fun n c => n + c.utf8Size) 0

/-- Moves past the first `n` characters. -/
def advance : Nat → Cursor → Cursor
  | 0, c => c
  | n + 1, c =>
    match c.rest with
    | [] => c
    | x :: xs => advance n ⟨xs, c.offset + x.utf8Size⟩

/-- The characters of `cs` that start before `bytes` bytes have been read. -/
def takeBytes : Nat → List Char → List Char
  | _, [] => []
  | 0, _ => []
  | bytes, c :: rest => c :: takeBytes (bytes - c.utf8Size) rest

/-- The text between two places. -/
def between (first last : Cursor) : List Char :=
  takeBytes (last.offset - first.offset) first.rest

end Cursor

/-- Reads an `α` at a cursor and moves the cursor behind it, or fails. -/
abbrev Reader := StateT Cursor Option

namespace Reader

/-- The next character, if there is one, which stays unread. -/
def peek? : Reader (Option Char) := fun c => some (c.rest.head?, c)

/-- Whether the rest of the text starts with `text`. -/
def startsWith (text : String) : Reader Bool := fun c =>
  some ((Text.afterLead? text.toList c.rest).isSome, c)

/-- Reads one character that satisfies `p`. -/
def satisfy (p : Char → Bool) : Reader Char := fun c =>
  match c.rest with
  | x :: xs => if p x then some (x, ⟨xs, c.offset + x.utf8Size⟩) else none
  | [] => none

/-- Reads exactly `text`. -/
def exactly (text : String) : Reader Unit := fun c =>
  match Text.afterLead? text.toList c.rest with
  | some rest => some ((), ⟨rest, c.offset + text.utf8ByteSize⟩)
  | none => none

/-- Reads `text` if it stands here, and says whether it did. -/
def accept (text : String) : Reader Bool := fun c =>
  match exactly text c with
  | some (_, c') => some (true, c')
  | none => some (false, c)

/-- Reads as many characters that satisfy `p` as there are. -/
def takeWhile (p : Char → Bool) : Reader (List Char) := fun c =>
  let taken := c.rest.takeWhile p
  some (taken, ⟨c.rest.dropWhile p, c.offset + Cursor.byteLength taken⟩)

/-- Reads as many characters that satisfy `p` as there are, at least one. -/
def takeWhile1 (p : Char → Bool) : Reader (List Char) := do
  let taken ← takeWhile p
  if taken.isEmpty then failure else return taken

/-- Reads the end of the text. -/
def atEnd : Reader Unit := fun c =>
  if c.rest.isEmpty then some ((), c) else none

/-- The place reached so far. -/
def here : Reader Cursor := fun c => some (c, c)

/-- Reads something and the text that it is written in. -/
def written (p : Reader α) : Reader (String × α) := do
  let first ← here
  let a ← p
  let last ← here
  return (String.ofList (first.between last), a)

/-- Runs a reader and reports failure instead of failing. -/
def attempt (p : Reader α) : Reader (Option α) := fun c =>
  match p c with
  | some (a, c') => some (some a, c')
  | none => some (none, c)

/-- Runs a reader until it fails, at most `fuel` times. -/
def manyUpTo (p : Reader α) : Nat → Reader (List α)
  | 0 => pure []
  | fuel + 1 => fun c =>
    match p c with
    | none => some ([], c)
    | some (a, c') =>
      match manyUpTo p fuel c' with
      | some (as, c'') => some (a :: as, c'')
      | none => none

/-- Runs a reader until it fails. The reader consumes at least one character each time, so the
length of the text bounds the repetitions. -/
def many (p : Reader α) : Reader (List α) := fun c =>
  manyUpTo p c.rest.length c

/-! ## Blanks and comments -/

/-- Reads up to and including the end of a block comment. -/
def blockCommentEnd : List Char → Option (List Char)
  | '*' :: '/' :: rest => some rest
  | _ :: rest => blockCommentEnd rest
  | [] => none

/-- Reads a block comment, which may span lines. -/
def blockComment : Reader Unit := do
  exactly "/*"
  fun c =>
    match blockCommentEnd c.rest with
    | some rest => some ((), c.advance (c.rest.length - rest.length))
    | none => none

/-- The end of a line comment's text: a line end, or the end of the whole text. A carriage return
that no line feed follows cannot stand in a line comment. -/
def lineCommentEnd : List Char → Bool
  | [] => true
  | '\n' :: _ => true
  | '\r' :: '\n' :: _ => true
  | _ => false

/-- Reads a line comment, leaving the line end unread. -/
def lineComment : Reader Unit := do
  exactly "#" <|> exactly "//"
  let _ ← takeWhile fun c => c != '\n' && c != '\r'
  fun c => if lineCommentEnd c.rest then some ((), c) else none

/-- Reads one line end. -/
def lineEnd : Reader Unit :=
  exactly "\n" <|> exactly "\r\n"

/-- Passes spaces, tabs and block comments. -/
def inlineBlanks : Reader Unit := do
  let _ ← many ((takeWhile1 fun c => c == ' ' || c == '\t') *> pure () <|> blockComment)

/-- Passes spaces, tabs, line ends and comments of both kinds. -/
def anyBlanks : Reader Unit := do
  let _ ← many
    ((takeWhile1 fun c => c == ' ' || c == '\t' || c == '\r' || c == '\n') *> pure () <|>
      lineComment <|> blockComment)

/-- Passes blanks, with line ends only if `newlines` is set. -/
def blanks (newlines : Bool) : Reader Unit :=
  if newlines then anyBlanks else inlineBlanks

/-- Reads an identifier. -/
def identifier : Reader String := do
  let first ← satisfy Text.isIdStart
  let rest ← takeWhile Text.isIdContinue
  return String.ofList (first :: rest)

end Reader

end InfraLint
