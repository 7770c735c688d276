import InfraLint.Expr.Margin
import InfraLint.Expr.Same
import InfraLint.Grammar.Literal

/-!
# Reading expressions

Each rule of the grammar is a reader that takes the reader for nested expressions as an argument, so
a rule can be understood on its own. `Reader.expr` ties the knot: every nesting level consumes a
character, so the length of the text bounds the depth.

Two flags travel from an expression into the ones inside it. With `newlines`, line ends may stand in
front of an operator; an array, a call and a `for` set it for the rest of the expression they belong
to. With `bare`, a `?` is not read; a binary operator sets it for its right side, so that
`a == b ? c : d` is a conditional on `a == b`, and for the two branches of that conditional.
-/

namespace InfraLint

/-- What an expression inherits from the one around it. -/
structure Flags where
  /-- Line ends may stand in front of an operator. -/
  newlines : Bool := false
  /-- A conditional is not read. -/
  bare : Bool := false
deriving Repr, DecidableEq

/-- An expression and the places where its text starts and stops. -/
structure Spanned where
  first : Cursor
  last : Cursor
  expr : SourceExpr

/-- An expression just read. When it is an array literal and nothing more, its elements are kept
with their places. -/
structure Parsed where
  expr : SourceExpr
  elements : Option (List Spanned) := none

/-- A chain of operators just read. -/
structure ParsedChain where
  expr : SourceExpr
  elements : Option (List Spanned)
  /-- Whether line ends may stand in front of what follows. -/
  newlines : Bool

/-- The readers for nested expressions. -/
structure Nested where
  expr : Flags → Reader Parsed
  chain : Flags → Reader ParsedChain

namespace Reader

/-- Reads a nested expression with a fresh set of flags that lets line ends pass. -/
def multiline (nested : Nested) : Reader SourceExpr := do
  return (← nested.expr ⟨true, false⟩).expr

/-- Reads a nested expression with a fresh set of flags. -/
def singleLine (nested : Nested) : Reader SourceExpr := do
  return (← nested.expr ⟨false, false⟩).expr

/-- Reads something and the places where it starts and stops. -/
def spanned (p : Reader Parsed) : Reader Spanned := do
  let first ← here
  let parsed ← p
  let last ← here
  return ⟨first, last, parsed.expr⟩

/-! ## Templates -/

/-- Reads the inside of an interpolation or directive with its opening and closing marks. -/
def control (opening : String) (inner : Reader α) : Reader (Marks × α) := do
  exactly opening
  let before ← accept "~"
  anyBlanks
  let a ← inner
  anyBlanks
  let after ← accept "~"
  exactly "\x7d"
  return (⟨before, after⟩, a)

/-- Reads an interpolation. -/
def interpolation (nested : Nested) : Reader SourcePart := do
  let (marks, e) ← control "$\x7b" (multiline nested)
  return .interpolation marks e

/-- Reads a directive that consists of one word. -/
def wordDirective (word : String) : Reader Marks := do
  let (marks, _) ← control "%\x7b" (exactly word)
  return marks

/-- Reads the variables of a `for` and the word `in`. -/
def binder : Reader Binder := do
  anyBlanks
  let first ← identifier
  anyBlanks
  let binder ← (do
      exactly ","
      anyBlanks
      let second ← identifier
      anyBlanks
      return (⟨some first, second⟩ : Binder)) <|> pure ⟨none, first⟩
  exactly "in"
  return binder

/-- Reads a choice: `if`, a template, possibly `else` and another, `endif`. -/
def choiceDirective (nested : Nested) (inner : Reader (List SourcePart)) : Reader SourcePart := do
  let (opening, test) ← control "%\x7b" do
    exactly "if"
    anyBlanks
    singleLine nested
  let yes ← inner
  let middle ← attempt (wordDirective "else")
  let no ← if middle.isSome then inner else pure []
  let closing ← wordDirective "endif"
  return .choice opening test yes middle no closing

/-- Reads a loop: `for`, a template, `endfor`. -/
def loopDirective (nested : Nested) (inner : Reader (List SourcePart)) : Reader SourcePart := do
  let (opening, names, collection) ← control "%\x7b" do
    exactly "for"
    let names ← binder
    anyBlanks
    return (names, ← singleLine nested)
  let body ← inner
  let closing ← wordDirective "endfor"
  return .loop opening names collection body closing

/-- Reads the parts of a template whose text consists of `char`, given a reader for the templates
inside its directives. -/
def partsWith (nested : Nested) (char : Reader (List Char)) (inner : Reader (List SourcePart)) :
    Reader (List SourcePart) :=
  many ((do return .text (← textOf char)) <|> interpolation nested <|>
    choiceDirective nested inner <|> loopDirective nested inner)

/-- Reads the parts of a template inside a directive, with directives nested at most `depth` deep.
Its text is plain wherever the directive stands: neither a quote nor the delimiter of a heredoc ends
it, and a backslash means itself. -/
def plainParts (nested : Nested) : Nat → Reader (List SourcePart)
  | 0 => pure []
  | depth + 1 => partsWith nested plainChar (plainParts nested depth)

/-- Reads the parts of a template. Each nested directive consumes a character. -/
def templateParts (nested : Nested) (char : Reader (List Char)) : Reader (List SourcePart) :=
  fun c => partsWith nested char (plainParts nested c.rest.length) c

/-- Reads a quoted string, with or without interpolation. -/
def stringLike (nested : Nested) : Reader SourceExpr :=
  (do return .string (← quotedString)) <|> do
    exactly "\""
    let found ← templateParts nested quotedChar
    exactly "\""
    return .template found

/-- A template with more text behind it. -/
def addText (cs : List Char) : List SourcePart → List SourcePart
  | [] => [.text cs]
  | [.text ds] => [.text (ds ++ cs)]
  | part :: rest => part :: addText cs rest

/-- Reads what follows the opening line of a heredoc that holds text. The line end in front of the
closing line belongs to the text. -/
def heredocParts (nested : Nested) (delimiter : String) : Reader (List SourcePart) := do
  let found ← templateParts nested (heredocChar delimiter)
  let (ending, _) ← written lineEnd
  heredocEnd delimiter
  return addText ending.toList found

/-- Reads a heredoc. The delimiter right behind the opening line closes it only if no text can be
found that ends at a later one. -/
def heredoc (nested : Nested) : Reader SourceExpr := do
  exactly "<<"
  let indented ← accept "-"
  let delimiter ← identifier
  lineEnd
  let found ← heredocParts nested delimiter <|> heredocEnd delimiter *> pure []
  if indented then
    return .heredoc delimiter (SourcePart.commonMargin? found) (SourcePart.dedent found)
  else return .heredoc delimiter none found

/-! ## Arrays, objects and calls -/

/-- Whether a `for` stands here: the word must be followed by a space, a tab, a line feed or a
comment sign. -/
def forAhead : Reader Bool := fun c =>
  match (anyBlanks *> exactly "for" *> satisfy [' ', '\t', '\n', '#', '/'].contains :
      Reader Char) c with
  | some _ => some (true, c)
  | none => some (false, c)

/-- Reads the head of a `for` up to its colon. -/
def forHead (nested : Nested) : Reader (Binder × SourceExpr) := do
  anyBlanks
  exactly "for"
  let names ← binder
  anyBlanks
  let collection ← singleLine nested
  anyBlanks
  exactly ":"
  return (names, collection)

/-- Reads the condition of a `for`, if there is one. -/
def forCondition (nested : Nested) (flags : Flags) : Reader (Option SourceExpr) :=
  attempt do
    exactly "if"
    anyBlanks
    let parsed ← nested.expr flags
    anyBlanks
    return parsed.expr

/-- Reads a `for` that builds a list. -/
def forList (nested : Nested) (flags : Flags) : Reader SourceExpr := do
  let (names, collection) ← forHead nested
  anyBlanks
  let value ← nested.expr flags
  anyBlanks
  let condition ← forCondition nested flags
  return .forList names collection value.expr condition

/-- Reads a `for` that builds a map. Its keys and values are expressions of their own. -/
def forObject (nested : Nested) (flags : Flags) : Reader SourceExpr := do
  let (names, collection) ← forHead nested
  anyBlanks
  let key ← singleLine nested
  anyBlanks
  exactly "=>"
  anyBlanks
  let value ← singleLine nested
  anyBlanks
  let grouped ← accept "..."
  anyBlanks
  let condition ← forCondition nested flags
  return .forObject names collection key value condition grouped

/-- Reads expressions separated by commas, at least one, and the blanks around them. A comma behind
the last one is left unread. -/
def commaSeparated (nested : Nested) (flags : Flags) : Reader (List Spanned) := do
  let element : Reader Spanned := do
    anyBlanks
    let found ← spanned (nested.expr flags)
    anyBlanks
    return found
  let first ← element
  let rest ← many (exactly "," *> element)
  return first :: rest

/-- Reads an array literal, or a `for` in brackets. -/
def array (nested : Nested) (flags : Flags) : Reader Parsed := do
  exactly "["
  let inner : Flags := { flags with newlines := true }
  if ← forAhead then
    let e ← forList nested inner
    exactly "]"
    return ⟨e, none⟩
  else
    let found ← attempt do
      let elements ← commaSeparated nested inner
      return (elements, ← accept ",")
    let (elements, comma) := found.getD ([], false)
    let (gap, _) ← written anyBlanks
    exactly "]"
    return ⟨.array (elements.map Spanned.expr) ⟨comma, gap⟩, some elements⟩

/-- The key of an entry. -/
def itemKey : SourceItem → SourceKey
  | .mk _ key _ _ _ => key

/-- Adds an entry to an object. An entry whose key is written like that of an earlier one takes the
place of the earlier one. -/
def addItem (item : SourceItem) : List SourceItem → List SourceItem
  | [] => [item]
  | other :: rest =>
    if (itemKey other).same false (itemKey item) then item :: rest else other :: addItem item rest

/-- The key that an expression in key position stands for. -/
def objectKey : SourceExpr → SourceKey
  | .variable name => .name name
  | e => .computed e

/-- Reads an entry without what ends it, which is given as an argument of the outcome. The entry is
`fresh` if a line ends in front of it. -/
def objectItem (nested : Nested) (fresh : Bool) : Reader (ItemEnd → SourceItem) := do
  let key ← singleLine nested
  inlineBlanks
  let colon ← exactly "=" *> pure false <|> exactly ":" *> pure true
  inlineBlanks
  let value ← singleLine nested
  return .mk fresh (objectKey key) colon value

/-- Reads a line end that a line comment may precede. -/
def commentedLineEnd : Reader Unit := do
  let _ ← attempt lineComment
  lineEnd

/-- Whether nothing but blanks is left of the line. -/
def lineEndAhead : Reader Bool := fun c =>
  some (((inlineBlanks *> commentedLineEnd : Reader Unit) c).isSome, c)

/-- Reads what separates two entries of an object: a comma or a line end. -/
def itemEnd : Reader ItemEnd :=
  exactly "," *> pure .comma <|> commentedLineEnd *> pure .line

/-- Reads at most `fuel` entries of an object and its closing brace, and adds them to those
given. -/
def objectEntries (nested : Nested) (items : List SourceItem) : Nat → Reader SourceExpr
  | 0 => failure
  | fuel + 1 => do
    let fresh ← lineEndAhead
    let (gap, _) ← written anyBlanks
    if ← accept "\x7d" then return .object items gap
    let item ← objectItem nested fresh
    inlineBlanks
    if ← accept "\x7d" then return .object (addItem (item .nothing) items) ""
    objectEntries nested (addItem (item (← itemEnd)) items) fuel

/-- Reads an object literal, or a `for` in braces. Says whether it was a `for`. -/
def object (nested : Nested) (flags : Flags) : Reader (SourceExpr × Bool) := do
  exactly "\x7b"
  if ← forAhead then
    let e ← forObject nested { flags with newlines := true }
    exactly "\x7d"
    return (e, true)
  else
    let e ← fun c => objectEntries nested [] (c.rest.length + 1) c
    return (e, false)

/-- Reads the arguments of a call and what ends them. The last one may be followed by a comma or by
three dots. -/
def arguments (nested : Nested) (flags : Flags) : Reader (List SourceExpr × ListEnd) := do
  exactly "("
  let found ← attempt do
    let given ← commaSeparated nested { flags with newlines := true }
    let comma ← accept ","
    if !comma then
      let _ ← accept "..."
    return (given, comma)
  let (given, comma) := found.getD ([], false)
  let (gap, _) ← written anyBlanks
  exactly ")"
  return (given.map Spanned.expr, ⟨comma, gap⟩)

/-- Reads the further parts of a namespaced function name. -/
def namespaced (newlines : Bool) : Reader (List String) :=
  many do
    blanks newlines
    exactly "::"
    blanks newlines
    identifier

/-- The expression that a bare identifier stands for. -/
def wordExpr : String → SourceExpr
  | "null" => .null
  | "true" => .bool true
  | "false" => .bool false
  | name => .variable name

/-- Reads an identifier or a call. Says whether it was a call. -/
def identLike (nested : Nested) (flags : Flags) : Reader (SourceExpr × Bool) := do
  let name ← identifier
  let called ← attempt do
    let parts ← namespaced flags.newlines
    blanks flags.newlines
    let (given, ending) ← arguments nested flags
    return SourceExpr.call (String.intercalate "::" (name :: parts)) given ending
  match called with
  | some call => return (call, true)
  | none => return (wordExpr name, false)

/-! ## Terms and chains of operators -/

/-- A term just read: the expression, its elements if it is an array literal, and whether it lets
line ends stand in front of what follows. -/
structure Term where
  expr : SourceExpr
  elements : Option (List Spanned) := none
  newlines : Bool := false

/-- Reads an operator in front of a term. -/
def unaryOp : Reader UnaryOp :=
  exactly "-" *> pure .negate <|> exactly "!" *> pure .invert

/-- Reads the operators in front of a term. Only the last one of several counts. A minus sign in
front of a number belongs to the number instead. -/
def unaryOps : Reader UnaryOp := do
  let op ← unaryOp
  inlineBlanks
  let more ← many do
    let c ← here
    if (negativeNumber c).isSome then failure
    let op ← unaryOp
    inlineBlanks
    return op
  return more.getLast?.getD op

/-- Reads a term without operators in front of it. -/
def plainTerm (nested : Nested) (flags : Flags) : Reader Term := do
  match ← peek? with
  | some '"' => return { expr := ← stringLike nested }
  | some '[' =>
    let parsed ← array nested flags
    return ⟨parsed.expr, parsed.elements, true⟩
  | some '\x7b' =>
    let (e, isFor) ← object nested flags
    return ⟨e, none, isFor⟩
  | some '<' => return { expr := ← heredoc nested }
  | some '(' =>
    exactly "("
    anyBlanks
    let e ← multiline nested
    anyBlanks
    exactly ")"
    return { expr := .paren e }
  | some '-' =>
    let (literal, n) ← written negativeNumber
    return { expr := .number literal n }
  | some c =>
    if c.isDigit then
      let (literal, n) ← written number
      return { expr := .number literal n }
    else
      let (e, isCall) ← identLike nested flags
      return ⟨e, none, isCall⟩
  | none => failure

/-- Reads a term. -/
def term (nested : Nested) (flags : Flags) : Reader Term :=
  plainTerm nested flags <|> do
    let op ← unaryOps
    let inner ← plainTerm nested flags
    return { expr := .unary op inner.expr, newlines := inner.newlines }

/-- Reads one step of a traversal. -/
def step (nested : Nested) : Reader SourceStep :=
  (do
    exactly "."
    anyBlanks
    exactly "*" *> pure .eachMember <|> (do return .position (← indexNumber)) <|>
      do return .member (← identifier)) <|>
  do
    exactly "["
    anyBlanks
    let found ← exactly "*" *> pure .each <|> do return .index (← multiline nested)
    anyBlanks
    exactly "]"
    return found

/-- Whether at least two characters are left, the first of which opens a step. Two dots open
none. -/
def stepAhead (c : Cursor) : Bool :=
  match c.rest with
  | '.' :: '.' :: _ => false
  | '.' :: _ :: _ => true
  | '[' :: _ :: _ => true
  | _ => false

/-- Reads the steps behind a term, with the blanks in front of each. -/
def steps (nested : Nested) (newlines : Bool) : Reader (List SourceStep) := do
  let found ← many do
    blanks newlines
    if stepAhead (← here) then step nested else failure
  -- a step that opens must be complete
  let broken ← attempt do
    blanks newlines
    if stepAhead (← here) then return else failure
  if broken.isSome then failure else return found

/-- The binary operators, those with two characters first. -/
def binaryOps : List (String × BinaryOp) :=
  [("==", .eq), ("!=", .ne), ("<=", .le), (">=", .ge), ("&&", .and), ("||", .or), ("+", .add),
    ("-", .sub), ("*", .mul), ("/", .div), ("%", .mod), ("<", .lt), (">", .gt)]

/-- Reads a binary operator. A comment sign is none. -/
def binaryOp : Reader BinaryOp := do
  if (← startsWith "//") || (← startsWith "/*") then failure
  binaryOps.foldr (fun (text, op) other => (exactly text *> pure op) <|> other) failure

/-- Reads a term with its steps and, behind a binary operator, a further chain. -/
def chain (nested : Nested) (flags : Flags) : Reader ParsedChain := do
  let head ← term nested flags
  let newlines := flags.newlines || head.newlines
  let path ← steps nested newlines
  let operand := if path.isEmpty then head.expr else .traversal head.expr path
  let elements := if path.isEmpty then head.elements else none
  match ← attempt (blanks newlines *> binaryOp) with
  | none => return ⟨operand, elements, newlines⟩
  | some op =>
    blanks newlines
    let right ← nested.chain ⟨newlines, true⟩
    return ⟨.binary operand op right.expr, none, newlines⟩

/-- Whether a `?` and a further character stand behind the blanks here. -/
def questionAhead (c : Cursor) : Bool :=
  match c.rest with
  | '?' :: _ :: _ => true
  | _ => false

/-- Reads a chain of operators and, unless `bare` is set, a conditional on it. The branches of a
conditional on a binary operator hold no bare conditional. -/
def conditional (nested : Nested) (flags : Flags) : Reader Parsed := do
  let found ← chain nested flags
  let asked ← attempt do
    blanks found.newlines
    if !flags.bare && questionAhead (← here) then exactly "?" else failure
  match asked with
  | none => return ⟨found.expr, found.elements⟩
  | some _ =>
    let inner : Flags := ⟨found.newlines, found.expr.isBinary⟩
    blanks found.newlines
    let yes ← nested.expr inner
    blanks found.newlines
    exactly ":"
    blanks found.newlines
    let no ← nested.expr inner
    return ⟨.conditional found.expr yes.expr no.expr, none⟩

/-- The readers for expressions nested at most `depth` deep. -/
def nestedTo : Nat → Nested
  | 0 => ⟨fun _ => failure, fun _ => failure⟩
  | depth + 1 =>
    ⟨fun flags c => conditional (nestedTo depth) flags c,
      fun flags c => chain (nestedTo depth) flags c⟩

/-- Reads an expression. -/
def expr (flags : Flags) : Reader Parsed := fun c =>
  (nestedTo (c.rest.length + 1)).expr flags c

end Reader

end InfraLint
