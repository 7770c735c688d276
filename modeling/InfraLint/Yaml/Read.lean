import InfraLint.Assoc
import InfraLint.Yaml.Scanner

/-!
# From tokens to documents

`Document.parse?` reads a text that holds at most one document. Every collection is read by a
function of its own, which starts behind the token that opens it. Where a value is left out, nothing
is written, which is a value too.
-/

namespace InfraLint.Yaml

/-- What reading has come to: the tokens that are left, the handles of tags, and the numbers of the
anchors met so far. -/
structure Progress where
  tokens : List Token
  handles : List (String × String)
  anchors : List (String × Nat) := []

/-- Reads something from the tokens, or fails. -/
abbrev TokenReader := StateT Progress Option

namespace TokenReader

/-- The next token, if there is one, which stays unread. -/
def peek? : TokenReader (Option Token) := fun p => some (p.tokens.head?, p)

/-- Passes a token. -/
def skip : TokenReader Unit := fun p => some ((), { p with tokens := p.tokens.drop 1 })

/-- Reads a token if it stands here, and says whether it did. -/
def accept (token : Token) : TokenReader Bool := fun p =>
  if p.tokens.head? == some token then some (true, { p with tokens := p.tokens.drop 1 })
  else some (false, p)

/-- Reads a token. -/
def expect (token : Token) : TokenReader Unit := do
  if ← accept token then return else failure

/-- Whether one of some tokens stands here. -/
def isAt (tokens : List Token) : TokenReader Bool := do
  return (← peek?).any tokens.contains

/-! ## Anchors and tags -/

/-- Numbers an anchor: by how many names there are. A name that is used again takes the number that
the next new name will get too. -/
def numberAnchor (name : String) : TokenReader Nat := fun p =>
  some (p.anchors.length, { p with anchors := Assoc.insert name p.anchors.length p.anchors })

/-- The anchor that stands here, if one does. -/
def anchor? : TokenReader (Option Nat) := do
  match ← peek? with
  | some (.anchor name) =>
    skip
    return some (← numberAnchor name)
  | _ => return none

/-- The whole text of a tag. Its handle must be known, unless it has none. -/
def tagText (handle rest : String) : TokenReader String := fun p =>
  if handle.isEmpty then some (rest, p)
  else (p.handles.lookup handle).map fun text => (text ++ rest, p)

/-- The tag that stands here, if one does. -/
def tag? : TokenReader (Option String) := do
  match ← peek? with
  | some (.tag handle rest) =>
    skip
    return some (← tagText handle rest)
  | _ => return none

/-- Reads the anchor and the tag of a value, in either order. -/
def properties : TokenReader (Option Nat × Option String) := do
  match ← anchor? with
  | some anchor => return (some anchor, ← tag?)
  | none =>
    let tag ← tag?
    if tag.isSome then return (← anchor?, tag) else return (none, none)

/-! ## Values -/

mutual

/-- Reads a value. Collections by indentation are read only if `block` is set, and a sequence in the
column of the keys around it only if `shared` is set. -/
def node : Nat → (block shared : Bool) → TokenReader Yaml
  | 0, _, _ => failure
  | fuel + 1, block, shared => do
    match ← peek? with
    | some (.alias name) =>
      skip
      fun p => (p.anchors.lookup name).map fun number => (.alias number, p)
    | _ =>
      let (anchor, tag) ← properties
      let next ← peek?
      if next == some .blockEntry && shared then
        return .sequence anchor (← sharedItems fuel)
      match next with
      | some (.scalar style text) =>
        skip
        return .scalar anchor (if tag == some "!" then none else tag) style text
      | some .flowSequenceStart =>
        skip
        return .sequence anchor (← flowItems fuel true)
      | some .flowMappingStart =>
        skip
        return .mapping anchor (← flowEntries fuel true)
      | _ =>
        if next == some .blockSequenceStart && block then
          skip
          return .sequence anchor (← blockItems fuel)
        else if next == some .blockMappingStart && block then
          skip
          return .mapping anchor (← blockEntries fuel)
        else if anchor.isSome || tag.isSome then return .scalar anchor tag .plain ""
        else failure

/-- Reads a value that is left out before one of some tokens. -/
def nodeUnless : Nat → (block shared : Bool) → (ends : List Token) → TokenReader Yaml
  | 0, _, _, _ => failure
  | fuel + 1, block, shared, ends => do
    if ← isAt ends then return nothing else node fuel block shared

/-- Reads the items of a sequence by indentation. -/
def blockItems : Nat → TokenReader (List Yaml)
  | 0 => failure
  | fuel + 1 => do
    if ← accept .blockEnd then return []
    expect .blockEntry
    let item ← nodeUnless fuel true false [.blockEntry, .blockEnd]
    return item :: (← blockItems fuel)

/-- Reads the items of a sequence in the column of the keys around it. -/
def sharedItems : Nat → TokenReader (List Yaml)
  | 0 => failure
  | fuel + 1 => do
    if ← accept .blockEntry then
      let item ← nodeUnless fuel true false [.blockEntry, .key, .value, .blockEnd]
      return item :: (← sharedItems fuel)
    else return []

/-- Reads the entries of a mapping by indentation. -/
def blockEntries : Nat → TokenReader (List (Yaml × Yaml))
  | 0 => failure
  | fuel + 1 => do
    if ← accept .blockEnd then return []
    expect .key
    let ends : List Token := [.key, .value, .blockEnd]
    let key ← nodeUnless fuel true true ends
    let value ← if ← accept .value then nodeUnless fuel true true ends else pure nothing
    return (key, value) :: (← blockEntries fuel)

/-- Reads the items of a sequence in brackets; in front of the `first` one there is no comma. -/
def flowItems : Nat → (first : Bool) → TokenReader (List Yaml)
  | 0, _ => failure
  | fuel + 1, first => do
    if ← accept .flowSequenceEnd then return []
    if !first then expect .flowEntry
    if ← accept .flowSequenceEnd then return []
    let item ← if ← accept .key then flowPair fuel else node fuel false false
    return item :: (← flowItems fuel false)

/-- Reads a mapping with one entry that is an item of a sequence in brackets. The token behind a key
that is left out is passed. -/
def flowPair : Nat → TokenReader Yaml
  | 0 => failure
  | fuel + 1 => do
    let key ←
      if ← isAt [.value, .flowEntry, .flowSequenceEnd] then
        skip
        pure nothing
      else node fuel false false
    let value ←
      if ← accept .value then nodeUnless fuel false false [.flowEntry, .flowSequenceEnd]
      else pure nothing
    return .mapping none [(key, value)]

/-- Reads the entries of a mapping in brackets; in front of the `first` one there is no comma. -/
def flowEntries : Nat → (first : Bool) → TokenReader (List (Yaml × Yaml))
  | 0, _ => failure
  | fuel + 1, first => do
    if ← accept .flowMappingEnd then return []
    if !first then expect .flowEntry
    if ← accept .flowMappingEnd then return []
    let entry ←
      if ← accept .key then
        let key ← nodeUnless fuel false false [.value, .flowEntry, .flowMappingEnd]
        let value ←
          if ← accept .value then nodeUnless fuel false false [.flowEntry, .flowMappingEnd]
          else pure nothing
        pure (key, value)
      else
        let key ← node fuel false false
        pure (key, nothing)
    return entry :: (← flowEntries fuel false)

end

/-! ## Documents -/

/-- The handles that need no definition. -/
def commonHandles : List (String × String) :=
  [("!", "!"), ("!!", "tag:yaml.org,2002:")]

/-- Reads directives, at most `fuel` of them. There is at most one version, which must be `1.1` or
`1.2`, and each handle is defined once. -/
def directives : Nat → (versioned : Bool) → TokenReader Unit
  | 0, _ => failure
  | fuel + 1, versioned => do
    match ← peek? with
    | some (.version major minor) =>
      if versioned || major != 1 || !(minor == 1 || minor == 2) then failure
      skip
      directives fuel true
    | some (.handle name text) =>
      if ((← get).handles.lookup name).isSome then failure
      modify fun p => { p with handles := p.handles ++ [(name, text)] }
      skip
      directives fuel versioned
    | _ => return

/-- Whether directives or the start of a document stand here. -/
def isExplicit : TokenReader Bool := do
  match ← peek? with
  | some (.version _ _) | some (.handle _ _) | some .documentStart => return true
  | _ => return false

/-- Reads the value of a document. -/
def documentRoot (fuel : Nat) : TokenReader Yaml := do
  if ← isExplicit then
    directives fuel false
    expect .documentStart
    modify fun p => { p with handles := p.handles ++ commonHandles }
    let isEmpty := (← peek?).isNone || (← isExplicit) || (← isAt [.documentEnd])
    if isEmpty then return nothing else node fuel true false
  else
    modify fun p => { p with handles := commonHandles }
    node fuel true false

/-- Reads a document, behind which nothing may follow but marks of its end. -/
def document (fuel : Nat) : TokenReader Document := do
  let root ← documentRoot fuel
  if (← get).tokens.all (· == .documentEnd) then return .ofRoot root else failure

end TokenReader

/-- The document of a text that holds at most one, or `some none` if it holds none. -/
def Document.parse? (text : String) : Option (Option Document) := do
  let tokens ← Token.ofText? text
  if tokens.isEmpty then return none
  let (found, _) ← TokenReader.document (3 * tokens.length + 8) ⟨tokens, [], []⟩
  return some found

end InfraLint.Yaml
