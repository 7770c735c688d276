import InfraLint.Number.Basic

/-!
# Expressions

The expressions of the configuration language. Grouping of binary operators is already settled, and
the trimming that a template's `~` asks for has already been done, so an expression holds what its
value depends on and nothing of how it was laid out.
-/

namespace InfraLint

/-- An operator in front of a term. -/
inductive UnaryOp where
  | negate
  | invert
deriving Repr, DecidableEq

/-- An operator between two operands. -/
inductive BinaryOp where
  | or
  | and
  | eq
  | ne
  | lt
  | le
  | gt
  | ge
  | add
  | sub
  | mul
  | div
  | mod
deriving Repr, DecidableEq

/-- How tightly an operator binds. -/
def BinaryOp.precedence : BinaryOp → Nat
  | or => 1
  | and => 2
  | eq | ne => 3
  | lt | le | gt | ge => 4
  | add | sub => 5
  | mul | div | mod => 6

/-- The variables of a `for`: the element, and its key if a name is given for it. -/
structure Binder where
  key : Option String
  value : String
deriving Repr, DecidableEq

mutual

/-- An expression. -/
inductive Expr where
  | null
  | bool (value : Bool)
  | number (value : Number)
  /-- A quoted string without interpolation. -/
  | string (value : String)
  | array (items : List Expr)
  | object (items : List ObjectItem)
  /-- A quoted string with at least one interpolation or directive. -/
  | template (parts : List TemplatePart)
  | heredoc (parts : List TemplatePart)
  | variable (name : String)
  | traversal (base : Expr) (steps : List Step)
  | call (name : String) (arguments : List Expr)
  | paren (inner : Expr)
  | conditional (test yes no : Expr)
  | unary (op : UnaryOp) (operand : Expr)
  | binary (left : Expr) (op : BinaryOp) (right : Expr)
  /-- A list built from a collection; a missing condition is `true`. -/
  | forList (binder : Binder) (collection value condition : Expr)
  /-- A map built from a collection; a missing condition is `true`. With `grouped`, the values of
  equal keys are collected in lists. -/
  | forObject (binder : Binder) (collection key value condition : Expr) (grouped : Bool)

/-- One entry of an object. -/
inductive ObjectItem where
  | mk (key : ObjectKey) (value : Expr)

/-- A key of an object: a bare name stands for itself, any other expression is evaluated. -/
inductive ObjectKey where
  | name (text : String)
  | computed (key : Expr)

/-- One step of a traversal. -/
inductive Step where
  /-- `.name` -/
  | member (name : String)
  /-- `[key]` -/
  | index (key : Expr)
  /-- `.0` -/
  | position (index : Nat)
  /-- `.*` with the names that directly follow it, applied to each element. -/
  | eachMember (names : List String)
  /-- `[*]`: all further steps apply to each element. -/
  | each

/-- One part of a template. -/
inductive TemplatePart where
  | literal (text : String)
  | interpolation (value : Expr)
  | choice (test : Expr) (yes no : List TemplatePart)
  | loop (binder : Binder) (collection : Expr) (body : List TemplatePart)
  /-- Text that is no template. -/
  | unreadable

end

namespace Expr

/-- The kinds of expression that a reader of a configuration tells apart. -/
inductive Kind where
  | null
  | bool
  | number
  | string
  | array
  | object
  | template
  | heredoc
  | variable
  | traversal
  | call
  | parenthesis
  | conditional
  | unary
  | binary
  | comprehension
deriving Repr, DecidableEq

/-- The kind of an expression. -/
def kind : Expr → Kind
  | .null => .null
  | .bool _ => .bool
  | .number _ => .number
  | .string _ => .string
  | .array _ => .array
  | .object _ => .object
  | .template _ => .template
  | .heredoc _ => .heredoc
  | .variable _ => .variable
  | .traversal _ _ => .traversal
  | .call _ _ => .call
  | .paren _ => .parenthesis
  | .conditional _ _ _ => .conditional
  | .unary _ _ => .unary
  | .binary _ _ _ => .binary
  | .forList _ _ _ _ => .comprehension
  | .forObject _ _ _ _ _ _ => .comprehension

/-- Whether the expression is a quoted string without interpolation, a number or a truth value. -/
def isLiteral : Expr → Bool
  | .string _ | .number _ | .bool _ => true
  | _ => false

/-- Whether the expression is the word `null`. -/
def isNull : Expr → Bool
  | .null => true
  | _ => false

end Expr

end InfraLint
