import InfraLint.Yaml.BlockScalar
import InfraLint.Yaml.Token

/-!
# From text to tokens

`Token.ofText?` cuts a text into tokens. What makes this hard is that a key shows only at the colon
behind it: whatever could be a key is remembered as pending, and the token for the key, perhaps with
one for the start of a mapping, is inserted in front of it when the colon comes. A pending key must
end on its line and within 1024 bytes.
-/

namespace InfraLint.Yaml

/-- Something that is a key if a colon follows. -/
structure PendingKey where
  /-- Whether nothing but a key can stand here. -/
  required : Bool
  /-- The number of tokens in front of it. -/
  number : Nat
  mark : Mark

/-- Whether a pending key can still be one at a later place. -/
def PendingKey.isAlive (key : PendingKey) (now : Mark) : Bool :=
  key.mark.line == now.line && now.index ≤ key.mark.index + 1024

/-- What is known when a text has been cut up to a place. -/
structure Scanner where
  place : Place
  /-- The tokens so far, last one first. -/
  tokens : List Token := []
  /-- The column of the innermost collection by indentation, `-1` outside of all. -/
  indent : Int := -1
  /-- The columns around it, innermost first. -/
  outerIndents : List Int := []
  /-- The pending key of the innermost pair of brackets, or outside of all. -/
  pending : Option PendingKey := none
  /-- The pending keys around it, one for each open bracket. -/
  outerPending : List (Option PendingKey) := []
  /-- Whether a key can start here. -/
  keyAllowed : Bool := true

namespace Scanner

/-- Whether the place is inside brackets. -/
def inFlow (s : Scanner) : Bool := !s.outerPending.isEmpty

/-- Adds a token. -/
def push (s : Scanner) (token : Token) : Scanner :=
  { s with tokens := token :: s.tokens }

/-- Adds a token behind the first `number` ones. -/
def insert (s : Scanner) (number : Nat) (token : Token) : Scanner :=
  { s with tokens := s.tokens.insertIdx (s.tokens.length - number) token }

/-- Adds a token and moves to the place behind it. -/
def emit (s : Scanner) (token : Token) (place : Place) : Scanner :=
  { s.push token with place := place }

/-! ## Pending keys -/

/-- Gives up the innermost pending key, which must not be required. -/
def dropKey? (s : Scanner) : Option Scanner :=
  if s.pending.any (·.required) then none else some { s with pending := none }

/-- Remembers the place as a pending key if a key can start here. -/
def saveKey? (s : Scanner) : Option Scanner :=
  if s.keyAllowed then do
    let required := !s.inFlow && s.indent == s.place.column
    let s ← s.dropKey?
    return { s with pending := some ⟨required, s.tokens.length, s.place.mark⟩ }
  else some s

/-- A pending key that has not gone on for too long. A required one must not. -/
def keepKey? (now : Mark) : Option PendingKey → Option (Option PendingKey)
  | none => some none
  | some key =>
    if key.isAlive now then some (some key) else if key.required then none else some none

/-- Gives up the pending keys that have gone on for too long. -/
def expireKeys? (s : Scanner) : Option Scanner := do
  return { s with
    pending := ← keepKey? s.place.mark s.pending
    outerPending := ← s.outerPending.mapM (keepKey? s.place.mark) }

/-! ## Indentation -/

/-- Opens a collection in a column if it is further to the right. Its token comes behind the first
`number` ones. -/
def openBlock (s : Scanner) (column number : Nat) (token : Token) : Scanner :=
  if s.inFlow || column ≤ s.indent then s
  else { s.insert number token with
    indent := column
    outerIndents := s.indent :: s.outerIndents }

/-- Closes the collections to the right of a column. -/
def closeTo (column : Int) (tokens : List Token) (indent : Int) :
    List Int → List Token × Int × List Int
  | [] => (tokens, indent, [])
  | outer :: rest =>
    if column < indent then closeTo column (.blockEnd :: tokens) outer rest
    else (tokens, indent, outer :: rest)

/-- Closes the collections by indentation to the right of a column. -/
def closeBlocks (s : Scanner) (column : Int) : Scanner :=
  if s.inFlow then s
  else
    let (tokens, indent, outer) := closeTo column s.tokens s.indent s.outerIndents
    { s with tokens := tokens, indent := indent, outerIndents := outer }

/-! ## Blanks -/

/-- Passes blanks, comments and line ends. Outside brackets a key can start on a new line, and no
tab can stand where one can start. The flag of the result says whether a key can start. -/
def gapFrom (flow keyAllowed comment : Bool) (mark : Mark) : List Char → Place × Bool
  | [] => (⟨[], mark⟩, keyAllowed)
  | '\r' :: '\n' :: rest => gapFrom flow (keyAllowed || !flow) false (mark.newLine 2) rest
  | c :: rest =>
    if isBreak c then gapFrom flow (keyAllowed || !flow) false (mark.newLine c.utf8Size) rest
    else if comment || c == ' ' || (c == '\t' && (flow || !keyAllowed)) ||
        (c == '\ufeff' && mark.column == 0) then
      gapFrom flow keyAllowed comment (mark.next c) rest
    else if c == '#' then gapFrom flow keyAllowed true (mark.next c) rest
    else (⟨c :: rest, mark⟩, keyAllowed)

/-- Moves to the next token, giving up pending keys and closing collections on the way. -/
def advance? (s : Scanner) : Option Scanner := do
  let (place, keyAllowed) := gapFrom s.inFlow s.keyAllowed false s.place.mark s.place.rest
  let s ← { s with place := place, keyAllowed := keyAllowed }.expireKeys?
  return s.closeBlocks place.column

/-! ## Tokens -/

/-- Ends all collections by indentation, at the border of a document. -/
def closeAll? (s : Scanner) : Option Scanner := do
  return { ← (s.closeBlocks (-1)).dropKey? with keyAllowed := false }

/-- Reads an opening bracket. -/
def openFlow? (s : Scanner) (token : Token) : Option Scanner := do
  let s ← s.saveKey?
  return { s.emit token s.place.next with
    pending := none
    outerPending := s.pending :: s.outerPending
    keyAllowed := true }

/-- Reads a closing bracket. -/
def closeFlow? (s : Scanner) (token : Token) : Option Scanner := do
  let s ← s.dropKey?
  let s := { s.emit token s.place.next with keyAllowed := false }
  match s.outerPending with
  | [] => return s
  | key :: rest => return { s with pending := key, outerPending := rest }

/-- Reads a comma. -/
def comma? (s : Scanner) : Option Scanner := do
  let s ← s.dropKey?
  return { s.emit .flowEntry s.place.next with keyAllowed := true }

/-- Opens a collection by indentation at a sign for which a key has to be allowed. -/
def openAtSign? (s : Scanner) (token : Token) : Option Scanner :=
  if s.inFlow then some s
  else if s.keyAllowed then some (s.openBlock s.place.column s.tokens.length token)
  else none

/-- Reads a dash. -/
def dash? (s : Scanner) : Option Scanner := do
  let s ← (← s.openAtSign? .blockSequenceStart).dropKey?
  return { s.emit .blockEntry s.place.next with keyAllowed := true }

/-- Reads a question mark. -/
def question? (s : Scanner) : Option Scanner := do
  let s ← (← s.openAtSign? .blockMappingStart).dropKey?
  return { s.emit .key s.place.next with keyAllowed := !s.inFlow }

/-- Reads a colon. A pending key becomes a key. -/
def colon? (s : Scanner) : Option Scanner :=
  match s.pending with
  | some key =>
    let s := (s.insert key.number .key).openBlock key.mark.column key.number .blockMappingStart
    some { s.emit .value s.place.next with pending := none, keyAllowed := false }
  | none => do
    let s ← s.openAtSign? .blockMappingStart
    return { s.emit .value s.place.next with keyAllowed := !s.inFlow }

/-- Reads a token that can start a key. -/
def keyToken? (s : Scanner) (read : Place → Option (Token × Place)) : Option Scanner := do
  let s ← s.saveKey?
  let (token, place) ← read s.place
  return { s.emit token place with keyAllowed := false }

/-- Reads a scalar within lines. -/
def scalar? (s : Scanner) (style : Style) (read : Place → Option ScalarText) : Option Scanner := do
  let s ← s.saveKey?
  let found ← read s.place
  return { s.emit (.scalar style found.text) found.place with keyAllowed := found.crossed }

/-- Reads a scalar by indentation. -/
def blockScalar? (s : Scanner) (style : Style) : Option Scanner := do
  let s ← s.dropKey?
  let found ← block? (style == .literal) s.indent s.place
  return { s.emit (.scalar style found.text) found.place with keyAllowed := true }

/-- Reads the token that starts with `c`, when `rest` follows it. -/
def token? (s : Scanner) (c : Char) (rest : List Char) : Option Scanner := do
  if s.place.column == 0 && c == '%' then
    let s ← s.closeAll?
    let (token, place) ← directive? s.place
    return s.emit token place
  if s.place.atMark "---" then
    return (← s.closeAll?).emit .documentStart (s.place.skip 3)
  if s.place.atMark "..." then
    return (← s.closeAll?).emit .documentEnd (s.place.skip 3)
  match c with
  | '[' => s.openFlow? .flowSequenceStart
  | '\x7b' => s.openFlow? .flowMappingStart
  | ']' => s.closeFlow? .flowSequenceEnd
  | '\x7d' => s.closeFlow? .flowMappingEnd
  | ',' => s.comma?
  | '*' => s.keyToken? fun place => (anchorName? place).map fun (name, p) => (.alias name, p)
  | '&' => s.keyToken? fun place => (anchorName? place).map fun (name, p) => (.anchor name, p)
  | '!' => s.keyToken? (tag? s.inFlow)
  | '\x27' => s.scalar? .singleQuoted single?
  | '"' => s.scalar? .doubleQuoted double?
  | _ =>
    if c == '-' && atGap rest then s.dash?
    else if c == '?' && (s.inFlow || atGap rest) then s.question?
    else if c == ':' && (s.inFlow || atGap rest) then s.colon?
    else if c == '|' && !s.inFlow then s.blockScalar? .literal
    else if c == '>' && !s.inFlow then s.blockScalar? .folded
    else if startsPlain s.inFlow c rest then
      s.scalar? .plain (plain? s.inFlow (s.indent + 1).toNat)
    else none

/-- The tokens from a place on, at most `fuel` of them being read. -/
def run : Nat → Scanner → Option (List Token)
  | 0, _ => none
  | fuel + 1, s => do
    let s ← s.advance?
    match s.place.rest with
    | [] => return (← s.closeAll?).tokens.reverse
    | c :: rest => run fuel (← s.token? c rest)

end Scanner

/-- The tokens of a text. Each one takes up a character, so the length of the text bounds their
number. -/
def Token.ofText? (text : String) : Option (List Token) :=
  if text.toList.all isAllowed then
    Scanner.run (text.length + 1) { place := Place.start text }
  else none

end InfraLint.Yaml
