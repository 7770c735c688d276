import InfraLint.Config.Basic
import InfraLint.Grammar.Template

/-!
# Reading configuration files

The grammar of bodies: attributes and blocks, one to a line. `ConfigFile.parse` reads a whole file;
lines are those of the first byte of an attribute's name, of a list element and of a block's
keyword.
-/

namespace InfraLint

/-- The file being read: its name and where its lines start. -/
structure Origin where
  file : String
  index : Text.LineIndex

/-- The line of a place. -/
def Origin.lineAt (origin : Origin) (place : Cursor) : Nat :=
  origin.index.lineOf place.offset

/-- The token of an expression at its place, cited at `line`. -/
def Origin.token (origin : Origin) (span : Spanned) (line : Nat) : Token :=
  ⟨String.ofList (Text.trimBlank (span.first.between span.last)), origin.file, line,
    .expression span.expr.toExpr⟩

/-- The attributes and blocks of a body, each in source order. -/
structure Body where
  attributes : List Attribute := []
  blocks : List Block := []

/-- One entry of a body. -/
inductive BodyItem where
  | setting (a : Attribute)
  | block (b : Block)

/-- A body from its entries. Two attributes of one name make no body. -/
def Body.ofItems? : List BodyItem → Option Body
  | [] => some {}
  | .setting a :: rest => do
    let body ← Body.ofItems? rest
    if body.attributes.any (·.name == a.name) then none
    else some { body with attributes := a :: body.attributes }
  | .block b :: rest => do
    let body ← Body.ofItems? rest
    return { body with blocks := b :: body.blocks }

namespace Reader

/-- Reads what follows the name of an attribute. -/
def settingValue (origin : Origin) (name : String) (line : Nat) : Reader Attribute := do
  exactly "="
  inlineBlanks
  let first ← here
  let parsed ← expr ⟨false, false⟩
  let last ← here
  let elements := parsed.elements.map fun found =>
    found.map fun element => origin.token element (origin.lineAt element.first)
  return ⟨name, origin.token ⟨first, last, parsed.expr⟩ line, elements⟩

/-- Reads one attribute. -/
def setting (origin : Origin) : Reader Attribute := do
  let first ← here
  let name ← identifier
  inlineBlanks
  settingValue origin name (origin.lineAt first)

/-- Reads the labels of a block. -/
def labels : Reader (List String) :=
  many do
    let label ← quotedString <|> identifier
    inlineBlanks
    return label

/-- Reads the body of a block in braces, given a reader for bodies on lines of their own. A body on
one line has at most one attribute and no blocks. -/
def blockBody (origin : Origin) (body : Reader Body) : Reader Body := do
  exactly "\x7b"
  (do
    inlineBlanks
    let _ ← attempt lineComment
    lineEnd
    let inner ← body
    exactly "\x7d"
    return inner) <|> do
    inlineBlanks
    let inner ← attempt (setting origin)
    inlineBlanks
    exactly "\x7d"
    return { attributes := inner.toList }

/-- Reads an attribute or a block. -/
def bodyItem (origin : Origin) (body : Reader Body) : Reader BodyItem := do
  let first ← here
  let name ← identifier
  inlineBlanks
  let line := origin.lineAt first
  match ← peek? with
  | some '=' => return .setting (← settingValue origin name line)
  | _ =>
    let found ← labels
    let inner ← blockBody origin body
    return .block ⟨name, found, inner.attributes, inner.blocks, origin.file, line⟩

/-- Reads at most `fuel` entries of a body, each up to the end of its line. -/
def bodyItems (origin : Origin) (body : Reader Body) : Nat → Reader (List BodyItem)
  | 0 => pure []
  | fuel + 1 => do
    match ← peek? with
    | some c =>
      if Text.isIdStart c then
        let item ← bodyItem origin body
        inlineBlanks
        let _ ← attempt lineComment
        lineEnd <|> atEnd
        anyBlanks
        return item :: (← bodyItems origin body fuel)
      else return []
    | none => return []

/-- Reads a body with blocks nested at most `depth` deep. -/
def bodyTo (origin : Origin) : Nat → Reader Body
  | 0 => failure
  | depth + 1 => do
    anyBlanks
    let items ← fun c => bodyItems origin (bodyTo origin depth) (c.rest.length + 1) c
    match Body.ofItems? items with
    | some body => return body
    | none => failure

/-- Reads a whole text as a body. Each nesting level consumes a character. -/
def wholeBody (origin : Origin) : Reader Body := fun c =>
  (bodyTo origin (c.rest.length + 1) <* atEnd) c

end Reader

/-- Reads a configuration file, or fails when the text does not follow the grammar. Findings cite
it as `path`. -/
def ConfigFile.parse? (path source : String) : Option ConfigFile := do
  let origin : Origin := ⟨path, Text.LineIndex.ofText source⟩
  let (body, _) ← Reader.wholeBody origin (Cursor.start source)
  return ⟨path, body.attributes, body.blocks, Waiver.scan source⟩

end InfraLint
