import InfraLint.Expr.Quoted
import InfraLint.Expr.Source
import InfraLint.Text.Lines

/-!
# Writing expressions down

`SourcePart.textOf` writes the parts of a template down again, which is the text that the template
stands for. Text of a template is written as it is, with only its signs doubled; inside a quoted
template that is nested in an expression its special characters are escaped as well. Escaping is a
switch that goes on where such a template starts and off where it ends, so text behind the end of a
nested one is written without it. A heredoc that has lost a margin is written apart, with a switch
of its own that is off at first, and then every line of it gets the margin back, also those that
belong to something nested in it.

No blank is written behind a word where another sign can follow: behind an opening bracket, the word
`for` and a blank would be read as the start of a `for`.
-/

namespace InfraLint

/-- A text that is being written, with the switch for escaping. -/
abbrev Writing := StateM Bool String

/-- The sign of an operator in front of a term. -/
def UnaryOp.sign : UnaryOp → String
  | negate => "-"
  | invert => "!"

/-- The sign of an operator between two operands. A minus needs the blank in front of it, since it
can stand in a name. -/
def BinaryOp.sign : BinaryOp → String
  | or => "||"
  | and => "&&"
  | eq => "=="
  | ne => "!="
  | lt => "<"
  | le => "<="
  | gt => ">"
  | ge => ">="
  | add => "+"
  | sub => " -"
  | mul => "*"
  | div => "/"
  | mod => "%"

/-- The variables of a `for` and the word behind them. -/
def Binder.written (binder : Binder) : String :=
  match binder.key with
  | some key => key ++ ", " ++ binder.value ++ " in "
  | none => binder.value ++ " in "

/-- What is written behind an entry of an object. -/
def ItemEnd.written : ItemEnd → String
  | comma => ","
  | line => "\n"
  | nothing => ""

/-- A mark, if there is one. -/
def Marks.sign (mark : Bool) : String :=
  if mark then "~" else ""

/-- A directive between its marks. -/
def Marks.directive (marks : Marks) (inner : String) : String :=
  "%\x7b" ++ Marks.sign marks.before ++ " " ++ inner ++ " " ++ Marks.sign marks.after ++ "\x7d"

/-- A text with a margin of so many spaces in front of its lines, empty ones apart. -/
def indentLines (margin : Nat) (text : String) : String :=
  String.ofList <| Text.mapLines false
    (fun line => if line.isEmpty then line else List.replicate margin ' ' ++ line) text.toList

/-- Text of a template, with its special characters escaped if the switch is on. -/
def Writing.text (cs : List Char) : Writing := do
  let signed := Quoted.escapeMarkers cs
  return String.ofList (if ← get then Text.escape signed else signed)

mutual

/-- An expression written down. -/
def SourceExpr.write : SourceExpr → Writing
  | .null => return "null"
  | .bool b => return if b then "true" else "false"
  | .number literal _ => return literal
  | .string s => return Quoted.quote s
  | .array items _ => return "[" ++ (← SourceExpr.writeAll items) ++ "]"
  | .object items _ => return "\x7b" ++ (← SourceItem.writeAll items) ++ "\x7d"
  | .template parts => do
    set true
    let inner ← SourcePart.writeAll parts
    set false
    return "\"" ++ inner ++ "\""
  | .heredoc delimiter none parts =>
    return "<<" ++ delimiter ++ "\n" ++ (← SourcePart.writeAll parts) ++ delimiter
  | .heredoc delimiter (some margin) parts =>
    let inner := (SourcePart.writeAll parts false).1
    return "<<-" ++ delimiter ++ "\n" ++ indentLines margin inner ++ delimiter
  | .variable name => return name
  | .traversal base steps =>
    return (← base.write) ++ (if base.isNumber then " " else "") ++ (← SourceStep.writeAll steps)
  | .call name arguments _ => return name ++ "(" ++ (← SourceExpr.writeAll arguments) ++ ")"
  | .paren e => return "(" ++ (← e.write) ++ ")"
  | .conditional test yes no =>
    return (← test.write) ++ "? " ++ (← yes.write) ++ " : " ++ (← no.write)
  | .unary op e => return op.sign ++ (← e.write)
  | .binary left op right => return (← left.write) ++ op.sign ++ " " ++ (← right.write)
  | .forList binder collection value condition =>
    return "[for " ++ binder.written ++ (← collection.write) ++ " : " ++ (← value.write) ++
      (← SourceExpr.writeCondition condition) ++ "]"
  | .forObject binder collection key value condition grouped =>
    return "\x7bfor " ++ binder.written ++ (← collection.write) ++ " : " ++ (← key.write) ++
      " => " ++ (← value.write) ++ (if grouped then "..." else "") ++
      (← SourceExpr.writeCondition condition) ++ "\x7d"

/-- Expressions written down with commas between them. -/
def SourceExpr.writeAll : List SourceExpr → Writing
  | [] => return ""
  | [e] => e.write
  | e :: rest => return (← e.write) ++ ", " ++ (← SourceExpr.writeAll rest)

/-- The condition of a `for` written down. -/
def SourceExpr.writeCondition : Option SourceExpr → Writing
  | none => return ""
  | some e => return " if " ++ (← e.write)

/-- The key of an object entry written down. -/
def SourceKey.write : SourceKey → Writing
  | .name text => return text
  | .computed e => e.write

/-- The entries of an object written down, each with what ends it. -/
def SourceItem.writeAll : List SourceItem → Writing
  | [] => return ""
  | .mk fresh key colon value ending :: rest =>
    return (if fresh then "\n" else "") ++ (← key.write) ++ (if colon then ": " else "= ") ++
      (← value.write) ++ ending.written ++ (← SourceItem.writeAll rest)

/-- The steps of a traversal written down. -/
def SourceStep.writeAll : List SourceStep → Writing
  | [] => return ""
  | .member name :: rest => return "." ++ name ++ (← SourceStep.writeAll rest)
  | .index key :: rest => return "[" ++ (← key.write) ++ "]" ++ (← SourceStep.writeAll rest)
  | .position i :: rest => return "." ++ toString i ++ (← SourceStep.writeAll rest)
  | .eachMember :: rest => return ".*" ++ (← SourceStep.writeAll rest)
  | .each :: rest => return "[*]" ++ (← SourceStep.writeAll rest)

/-- The parts of a template written down. -/
def SourcePart.writeAll : List SourcePart → Writing
  | [] => return ""
  | .text cs :: rest => return (← Writing.text cs) ++ (← SourcePart.writeAll rest)
  | .interpolation marks e :: rest =>
    return "$\x7b" ++ Marks.sign marks.before ++ (← e.write) ++ Marks.sign marks.after ++ "\x7d" ++
      (← SourcePart.writeAll rest)
  | .choice opening test yes middle no closing :: rest => do
    let head := opening.directive ("if " ++ (← test.write))
    let first ← SourcePart.writeAll yes
    let turn := (middle.map (·.directive "else")).getD ""
    let second ← SourcePart.writeAll no
    return head ++ first ++ turn ++ second ++ closing.directive "endif" ++
      (← SourcePart.writeAll rest)
  | .loop opening binder collection body closing :: rest => do
    let head := opening.directive ("for " ++ binder.written ++ (← collection.write))
    let inner ← SourcePart.writeAll body
    return head ++ inner ++ closing.directive "endfor" ++ (← SourcePart.writeAll rest)

end

/-- The text that a template stands for. -/
def SourcePart.textOf (parts : List SourcePart) : String :=
  (SourcePart.writeAll parts false).1

end InfraLint
