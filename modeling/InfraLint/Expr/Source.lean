import InfraLint.Expr.Basic

/-!
# Expressions as they are written

What the grammar finds before anything is made of it. A `SourceExpr` keeps whatever decides how the
expression is written down again: the digits of a number, the marks of a template, the delimiter of
a heredoc, what ends each entry of an object, operators in the order in which they stand. Blanks
and comments are left out, except for those in front of a closing bracket and for the fact that a
line ends in front of an entry. `SourceExpr.tree` says what such an expression means.
-/

namespace InfraLint

/-- The marks `~` at the two ends of a sequence in braces. Text on a marked side is trimmed. -/
structure Marks where
  before : Bool
  after : Bool
deriving Repr, DecidableEq

/-- What stands between the last item of a list in brackets and the closing bracket: a comma or
none, and the blanks behind it. -/
structure ListEnd where
  comma : Bool
  blanks : String
deriving Repr, DecidableEq

/-- What ends an entry of an object. Only the last entry can do without. -/
inductive ItemEnd where
  | comma
  | line
  | nothing
deriving Repr, DecidableEq

mutual

/-- An expression as it is written. -/
inductive SourceExpr where
  | null
  | bool (value : Bool)
  /-- A number and its literal. -/
  | number (literal : String) (value : Number)
  /-- A quoted string without interpolation. -/
  | string (value : String)
  | array (items : List SourceExpr) (ending : ListEnd)
  /-- An object; `gap` stands in front of its closing brace, behind whatever ends the last entry. -/
  | object (items : List SourceItem) (gap : String)
  /-- A quoted string with at least one interpolation or directive. -/
  | template (parts : List SourcePart)
  /-- A heredoc. If it is an indented one, `margin` is what has been taken off its lines. -/
  | heredoc (delimiter : String) (margin : Option Nat) (parts : List SourcePart)
  | variable (name : String)
  | traversal (base : SourceExpr) (steps : List SourceStep)
  | call (name : String) (arguments : List SourceExpr) (ending : ListEnd)
  | paren (inner : SourceExpr)
  | conditional (test yes no : SourceExpr)
  | unary (op : UnaryOp) (operand : SourceExpr)
  /-- An operand, the operator behind it and all that follows. -/
  | binary (left : SourceExpr) (op : BinaryOp) (right : SourceExpr)
  /-- A `for` that builds a list. -/
  | forList (binder : Binder) (collection value : SourceExpr) (condition : Option SourceExpr)
  /-- A `for` that builds a map. -/
  | forObject (binder : Binder) (collection key value : SourceExpr) (condition : Option SourceExpr)
    (grouped : Bool)

/-- One entry of an object; `fresh` says that a line ends in front of it, and `colon` that a colon
stands for its equals sign. -/
inductive SourceItem where
  | mk (fresh : Bool) (key : SourceKey) (colon : Bool) (value : SourceExpr) (ending : ItemEnd)

/-- A key of an object: a bare name, or any other expression. -/
inductive SourceKey where
  | name (text : String)
  | computed (key : SourceExpr)

/-- One step of a traversal. -/
inductive SourceStep where
  /-- `.name` -/
  | member (name : String)
  /-- `[key]` -/
  | index (key : SourceExpr)
  /-- `.0` -/
  | position (index : Nat)
  /-- `.*` -/
  | eachMember
  /-- `[*]` -/
  | each

/-- One part of a template. -/
inductive SourcePart where
  | text (chars : List Char)
  | interpolation (marks : Marks) (value : SourceExpr)
  /-- A choice with the marks of `if`, of `else` if there is one, and of `endif`. -/
  | choice (opening : Marks) (test : SourceExpr) (yes : List SourcePart) (middle : Option Marks)
    (no : List SourcePart) (closing : Marks)
  /-- A loop with the marks of `for` and of `endfor`. -/
  | loop (opening : Marks) (binder : Binder) (collection : SourceExpr) (body : List SourcePart)
    (closing : Marks)

end

namespace SourceExpr

/-- Whether the expression is a chain of binary operators. -/
def isBinary : SourceExpr → Bool
  | .binary _ _ _ => true
  | _ => false

/-- Whether the expression is the literal of a number. -/
def isNumber : SourceExpr → Bool
  | .number _ _ => true
  | _ => false

end SourceExpr

end InfraLint
