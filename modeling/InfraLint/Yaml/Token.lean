import InfraLint.Yaml.Basic
import InfraLint.Yaml.Scalar

/-!
# YAML tokens

The signs and words that a document consists of. Collections by indentation have tokens of their
own, which stand for a change of column. This module also reads the tokens that are names: anchors,
aliases, tags and directives.
-/

namespace InfraLint.Yaml

/-- A token. -/
inductive Token where
  /-- The directive `%YAML`. -/
  | version (major minor : Nat)
  /-- The directive `%TAG`: a handle and what it stands for. -/
  | handle (name : String) (text : String)
  | documentStart
  | documentEnd
  | blockSequenceStart
  | blockMappingStart
  /-- The end of a collection by indentation. -/
  | blockEnd
  | flowSequenceStart
  | flowSequenceEnd
  | flowMappingStart
  | flowMappingEnd
  /-- A comma. -/
  | flowEntry
  /-- A dash. -/
  | blockEntry
  /-- A question mark, or the start of a key that has none. -/
  | key
  /-- A colon. -/
  | value
  | alias (name : String)
  | anchor (name : String)
  /-- A tag: a handle, which may be empty, and the rest. -/
  | tag (handle rest : String)
  | scalar (style : Style) (text : String)
deriving Repr, DecidableEq

/-! ## Anchors and aliases -/

/-- The signs besides a gap that may follow an anchor. -/
def anchorEnds : List Char :=
  ['?', ':', ',', ']', '\x7d', '%', '@', '\x60']

/-- Reads the name of an anchor or alias, from its sign on. -/
def anchorName? (place : Place) : Option (String × Place) :=
  let (name, place) := place.next.span isNameChar
  if name.isEmpty then none
  else if atGap place.rest || place.rest.head?.any anchorEnds.contains then
    some (String.ofList name, place)
  else none

/-! ## Tags -/

/-- The signs that can stand in a tag. -/
def tagSigns : List Char :=
  [';', '/', '?', ':', '@', '&', '=', '+', '$', '.', '%', '!', '~', '*', '\x27', '(', ')']

/-- Whether a character can stand in a tag. Some signs can do so only where the tag has an end of
its own, that is where `enclosed` is set. -/
def isTagChar (enclosed : Bool) (c : Char) : Bool :=
  isNameChar c || tagSigns.contains c || (enclosed && [',', '[', ']'].contains c)

/-- The byte that two digits of base sixteen stand for. -/
def byte? (a b : Char) : Option Nat := do
  return 16 * (← Reader.hexValue? a) + (← Reader.hexValue? b)

/-- How many bytes follow a given first byte of a character; not every byte is one. -/
def followers? (byte : Nat) : Option Nat :=
  if byte < 0x80 then some 0
  else if byte < 0xC0 then none
  else if byte < 0xE0 then some 1
  else if byte < 0xF0 then some 2
  else if byte < 0xF8 then some 3
  else none

/-- Reads the characters of a tag. Bytes can be written as a percent sign with two digits, and the
bytes of one character must stand together; `pending` says how many are still to come. -/
def tagCharsFrom (enclosed : Bool) (pending : Nat) (done : List Char) (mark : Mark) :
    List Char → Option (List Char × Place)
  | [] => if pending == 0 then some (done.reverse, ⟨[], mark⟩) else none
  | '%' :: a :: b :: rest => do
    let byte ← byte? a b
    let pending ←
      if pending == 0 then followers? byte
      else if 0x80 ≤ byte && byte < 0xC0 then some (pending - 1)
      else none
    tagCharsFrom enclosed pending (Char.ofNat byte :: done) (((mark.next '%').next a).next b) rest
  | c :: rest =>
    if pending != 0 || c == '%' then none
    else if isTagChar enclosed c then
      tagCharsFrom enclosed 0 (c :: done) (mark.next c) rest
    else some (done.reverse, ⟨c :: rest, mark⟩)

/-- Reads the characters of a tag. -/
def tagChars? (enclosed : Bool) (place : Place) : Option (List Char × Place) :=
  tagCharsFrom enclosed 0 [] place.mark place.rest

/-- Reads the characters of a tag, at least one. -/
def tagChars1? (enclosed : Bool) (place : Place) : Option (List Char × Place) := do
  let (cs, place) ← tagChars? enclosed place
  if cs.isEmpty then none else return (cs, place)

/-- Reads an exclamation mark, a name and a second exclamation mark, of which name and second mark
may be missing. -/
def handle? (place : Place) : Option (List Char × Place) :=
  match place.rest with
  | '!' :: _ =>
    let (name, place) := place.next.span isNameChar
    match place.rest with
    | '!' :: _ => some ('!' :: name ++ ['!'], place.next)
    | _ => some ('!' :: name, place)
  | _ => none

/-- Whether the characters of a handle have a second exclamation mark. -/
def isFullHandle (cs : List Char) : Bool :=
  1 < cs.length && cs.getLast? == some '!'

/-- Reads a tag in angle brackets. -/
def enclosedTag? (place : Place) : Option (Token × Place) := do
  let (cs, place) ← tagChars1? true (place.skip 2)
  match place.rest with
  | '>' :: _ => return (.tag "" (String.ofList cs), place.next)
  | _ => none

/-- Reads a tag with a handle. What looks like a handle with one mark only is part of the tag, and
the handle is then that mark. The mark alone is a tag without handle. -/
def shortTag? (place : Place) : Option (Token × Place) := do
  let (cs, place) ← handle? place
  if isFullHandle cs then
    let (more, place) ← tagChars1? false place
    return (.tag (String.ofList cs) (String.ofList more), place)
  else
    let (more, place) ← tagChars? false place
    let rest := cs.drop 1 ++ more
    return (if rest.isEmpty then .tag "" "!" else .tag "!" (String.ofList rest), place)

/-- Reads a tag. A gap must follow or, inside brackets, a comma. -/
def tag? (flow : Bool) (place : Place) : Option (Token × Place) := do
  let (tag, place) ←
    match place.next.rest with
    | '<' :: _ => enclosedTag? place
    | _ => shortTag? place
  if atGap place.rest || (flow && place.rest.head? == some ',') then return (tag, place) else none

/-! ## Directives -/

/-- Reads a part of a version: up to nine digits. -/
def versionPart? (place : Place) : Option (Nat × Place) :=
  let (digits, place) := place.span Char.isDigit
  if digits.isEmpty || 9 < digits.length then none
  else some (Reader.digitsValue digits, place)

/-- Reads the rest of a directive that gives a version. -/
def versionRest? (place : Place) : Option (Token × Place) := do
  let (major, place) ← versionPart? place.skipSpaces
  match place.rest with
  | '.' :: _ =>
    let (minor, place) ← versionPart? place.next
    return (.version major minor, place)
  | _ => none

/-- Reads the rest of a directive that defines a handle. -/
def handleRest? (place : Place) : Option (Token × Place) := do
  let (name, place) ← handle? place.skipSpaces
  if name != ['!'] && !isFullHandle name then none
  else if !place.rest.head?.any isSpace then none
  else
    let (text, place) ← tagChars1? true place.skipSpaces
    if atGap place.rest then
      return (.handle (String.ofList name) (String.ofList text), place)
    else none

/-- Reads a directive and the rest of its line. -/
def directive? (place : Place) : Option (Token × Place) := do
  let (name, place) := place.next.span isNameChar
  if !atGap place.rest then none
  else
    let (token, place) ←
      match String.ofList name with
      | "YAML" => versionRest? place
      | "TAG" => handleRest? place
      | _ => none
    return (token, ← place.skipLine?)

end InfraLint.Yaml
