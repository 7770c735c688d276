import InfraLint.Expr.Eval
import InfraLint.Waiver

/-!
# Configuration files

A configuration file is a body of attributes and blocks, and blocks have bodies of their own. Every
attribute, list element and block carries the file and line it came from, so that a finding can
point at it.
-/

namespace InfraLint

/-- What a token holds. -/
inductive TokenValue where
  /-- An expression that has not been evaluated. -/
  | expression (e : Expr)
  /-- A string that evaluation has produced. -/
  | resolved (text : String)
  /-- A value that evaluation has produced and that is no string. -/
  | unresolvable (kind : Value.Kind)

/-- The value of an attribute, or one element of it, with its place. -/
structure Token where
  /-- The source text of the value. -/
  raw : String
  file : String
  line : Nat
  value : TokenValue

namespace Token

/-- A string that has already been evaluated. -/
def ofString (text file : String) (line : Nat) : Token :=
  ⟨text, file, line, .resolved text⟩

/-- A value of another kind that has already been evaluated. -/
def ofKind (kind : Value.Kind) (raw file : String) (line : Nat) : Token :=
  ⟨raw, file, line, .unresolvable kind⟩

/-- The expression of a token that has not been evaluated. -/
def expression? (token : Token) : Option Expr :=
  match token.value with
  | .expression e => some e
  | _ => none

/-- Whether the token is a quoted string without interpolation, a number or a truth value. -/
def isLiteral (token : Token) : Bool :=
  match token.expression? with
  | some e => e.isLiteral
  | none => false

/-- Whether the token is the word `null`. -/
def isNull (token : Token) : Bool :=
  match token.expression? with
  | some e => e.isNull
  | none => false

end Token

/-- A setting `name = value`. -/
structure Attribute where
  name : String
  /-- The whole right side, at the line of the name. -/
  token : Token
  /-- One token for each element when the value is an array literal. -/
  elements : Option (List Token)

/-- The line of an attribute is that of its name. -/
def Attribute.line (attr : Attribute) : Nat := attr.token.line

/-- The file of an attribute. -/
def Attribute.file (attr : Attribute) : String := attr.token.file

/-- A block such as `resource "aws_instance" "web"` with its body. -/
structure Block where
  kind : String
  labels : List String
  attributes : List Attribute
  blocks : List Block
  file : String
  line : Nat

namespace Block

/-- The attribute with a given name. -/
def attribute? (block : Block) (name : String) : Option Attribute :=
  block.attributes.find? (·.name == name)

/-- Whether the block has an attribute with a given name. -/
def hasAttribute (block : Block) (name : String) : Bool :=
  (block.attribute? name).isSome

/-- The blocks directly inside of a given kind, in source order. -/
def nested (block : Block) (kind : String) : List Block :=
  block.blocks.filter (·.kind == kind)

/-- Whether the block declares a resource of a given type. -/
def isResourceOf (block : Block) (type : String) : Bool :=
  block.kind == "resource" && block.labels[0]? == some type

/-- The local name of a resource: its second label. -/
def resourceName? (block : Block) : Option String :=
  if block.kind == "resource" then block.labels[1]? else none

end Block

/-- A configuration file that has been read. -/
structure ConfigFile where
  path : String
  attributes : List Attribute
  blocks : List Block
  waivers : List Waiver

namespace ConfigFile

/-- The blocks at the top of the file of a given kind, in source order. -/
def blocksOf (file : ConfigFile) (kind : String) : List Block :=
  file.blocks.filter (·.kind == kind)

/-- The resources of a given type, in source order. -/
def resources (file : ConfigFile) (type : String) : List Block :=
  file.blocks.filter (·.isResourceOf type)

/-- Whether a waiver of this file silences `rule` at `line`. -/
def isWaived (file : ConfigFile) (rule : String) (line : Nat) : Bool :=
  file.waivers.any (·.covers rule line)

end ConfigFile

end InfraLint
