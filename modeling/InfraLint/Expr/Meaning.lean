import InfraLint.Expr.Regroup
import InfraLint.Expr.Write
import InfraLint.Text.Blank

/-!
# The meaning of written expressions

`SourceExpr.meaning` turns an expression as it is written into the one that is evaluated: binary
operators are grouped, the names behind a `.*` are given to it, and text next to a mark `~` is
trimmed. A template stands for its text, which is read once more to find its parts; how a text is
read is a parameter here, since the grammar comes later.
-/

namespace InfraLint

open Text

/-! ## Trimming next to a mark -/

/-- Whether a character is blank and ends no line. -/
def isInlineBlank (c : Char) : Bool :=
  isBlank c && c != '\n' && c != '\r'

/-- Takes off blanks at the start, up to and including one line end. -/
def trimStart (cs : List Char) : List Char :=
  match cs.dropWhile isInlineBlank with
  | '\r' :: '\n' :: rest => rest
  | '\n' :: rest => rest
  | rest => rest

/-- Takes off blanks at the end, up to and including one line end. -/
def trimEnd (cs : List Char) : List Char :=
  match cs.reverse.dropWhile isInlineBlank with
  | '\n' :: '\r' :: rest => rest.reverse
  | '\n' :: rest => rest.reverse
  | rest => rest.reverse

namespace SourcePart

/-- Whether a template starts with a mark that trims the text in front of it; `atEnd` is the mark
behind the last part. -/
def trimsBefore (atEnd : Bool) : List SourcePart → Bool
  | [] => atEnd
  | .text _ :: _ => false
  | .interpolation marks _ :: _ => marks.before
  | .choice opening _ _ _ _ _ :: _ => opening.before
  | .loop opening _ _ _ _ :: _ => opening.before

/-- A text between two places that may be marked. -/
def trimmed (before after : Bool) (cs : List Char) : String :=
  let cs := if before then trimStart cs else cs
  String.ofList (if after then trimEnd cs else cs)

end SourcePart

/-! ## Steps -/

/-- The name that a step selects by, if it is of that kind. -/
def Step.name? : Step → Option String
  | .member name => some name
  | _ => none

/-- Gives the names that directly follow a `.*` to it. -/
def Step.gather : List Step → List Step
  | [] => []
  | .eachMember names :: rest =>
    let rest := Step.gather rest
    .eachMember (names ++ (rest.takeWhile (·.name?.isSome)).filterMap Step.name?) ::
      rest.dropWhile (·.name?.isSome)
  | step :: rest => step :: Step.gather rest

/-! ## Expressions -/

mutual

/-- The operands and operators of an expression, each operand with its meaning. A text of a template
is read by `reread`. -/
def SourceExpr.tree (reread : String → List TemplatePart) : SourceExpr → OpTree
  | .null => .leaf .null
  | .bool b => .leaf (.bool b)
  | .number _ n => .leaf (.number n)
  | .string s => .leaf (.string s)
  | .array items _ => .leaf (.array (SourceExpr.meanings reread items))
  | .object items _ => .leaf (.object (SourceItem.meanings reread items))
  | .template parts => .leaf (.template (reread (SourcePart.textOf parts)))
  | .heredoc _ _ parts => .leaf (.heredoc (reread (SourcePart.textOf parts)))
  | .variable name => .leaf (.variable name)
  | .traversal base steps =>
    .leaf (.traversal (base.tree reread).regroup (Step.gather (SourceStep.meanings reread steps)))
  | .call name arguments _ => .leaf (.call name (SourceExpr.meanings reread arguments))
  | .paren e => .leaf (.paren (e.tree reread).regroup)
  | .conditional test yes no =>
    .leaf (.conditional (test.tree reread).regroup (yes.tree reread).regroup
      (no.tree reread).regroup)
  | .unary op e => .leaf (.unary op (e.tree reread).regroup)
  | .binary left op right => .node (left.tree reread) op (right.tree reread)
  | .forList binder collection value condition =>
    .leaf (.forList binder (collection.tree reread).regroup (value.tree reread).regroup
      (SourceExpr.conditionMeaning reread condition))
  | .forObject binder collection key value condition grouped =>
    .leaf (.forObject binder (collection.tree reread).regroup (key.tree reread).regroup
      (value.tree reread).regroup (SourceExpr.conditionMeaning reread condition) grouped)

/-- The meaning of the condition of a `for`; a missing one is `true`. -/
def SourceExpr.conditionMeaning (reread : String → List TemplatePart) : Option SourceExpr → Expr
  | none => .bool true
  | some e => (e.tree reread).regroup

/-- The meanings of expressions, in order. -/
def SourceExpr.meanings (reread : String → List TemplatePart) : List SourceExpr → List Expr
  | [] => []
  | e :: rest => (e.tree reread).regroup :: SourceExpr.meanings reread rest

/-- The meaning of an object's key. -/
def SourceKey.meaning (reread : String → List TemplatePart) : SourceKey → ObjectKey
  | .name text => .name text
  | .computed e => .computed (e.tree reread).regroup

/-- The meanings of the entries of an object. -/
def SourceItem.meanings (reread : String → List TemplatePart) : List SourceItem → List ObjectItem
  | [] => []
  | .mk _ key _ value _ :: rest =>
    .mk (key.meaning reread) (value.tree reread).regroup :: SourceItem.meanings reread rest

/-- The meanings of the steps of a traversal. -/
def SourceStep.meanings (reread : String → List TemplatePart) : List SourceStep → List Step
  | [] => []
  | .member name :: rest => .member name :: SourceStep.meanings reread rest
  | .index key :: rest => .index (key.tree reread).regroup :: SourceStep.meanings reread rest
  | .position i :: rest => .position i :: SourceStep.meanings reread rest
  | .eachMember :: rest => .eachMember [] :: SourceStep.meanings reread rest
  | .each :: rest => .each :: SourceStep.meanings reread rest

/-- The parts of a template when the mark in front of it is `mark` and the mark behind it
`atEnd`. -/
def SourcePart.meanings (reread : String → List TemplatePart) (mark atEnd : Bool) :
    List SourcePart → List TemplatePart
  | [] => []
  | .text cs :: rest =>
    .literal (SourcePart.trimmed mark (SourcePart.trimsBefore atEnd rest) cs) ::
      SourcePart.meanings reread false atEnd rest
  | .interpolation marks e :: rest =>
    .interpolation (e.tree reread).regroup :: SourcePart.meanings reread marks.after atEnd rest
  | .choice opening test yes (some middle) no closing :: rest =>
    .choice (test.tree reread).regroup
      (SourcePart.meanings reread opening.after middle.before yes)
      (SourcePart.meanings reread middle.after closing.before no) ::
      SourcePart.meanings reread closing.after atEnd rest
  | .choice opening test yes none _ closing :: rest =>
    .choice (test.tree reread).regroup
      (SourcePart.meanings reread opening.after closing.before yes) [] ::
      SourcePart.meanings reread closing.after atEnd rest
  | .loop opening binder collection body closing :: rest =>
    .loop binder (collection.tree reread).regroup
      (SourcePart.meanings reread opening.after closing.before body) ::
      SourcePart.meanings reread closing.after atEnd rest

end

/-- The expression that a written one stands for. -/
def SourceExpr.meaning (reread : String → List TemplatePart) (e : SourceExpr) : Expr :=
  (e.tree reread).regroup

end InfraLint
