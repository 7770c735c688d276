import InfraLint.Expr.Meaning
import InfraLint.Grammar.Expr

/-!
# Reading templates once more

The parts of a template are found by reading the text that the template stands for. That text can
hold further templates, which are read in the same way. A nested template takes up at least two
characters of the text around it, so the length of a text bounds how deep templates nest in it.
-/

namespace InfraLint

namespace Reader

/-- Reads a whole text as a template. -/
def wholeTemplate : Reader (List SourcePart) := fun c =>
  (templateParts (nestedTo (c.rest.length + 1)) plainChar <* atEnd) c

end Reader

/-- The parts of the template that a text is, with templates nested at most `depth` deep. -/
def TemplatePart.readTo : Nat → String → List TemplatePart
  | 0, _ => [.unreadable]
  | depth + 1, text =>
    match Reader.wholeTemplate (Cursor.start text) with
    | some (parts, _) => SourcePart.meanings (TemplatePart.readTo depth) false false parts
    | none => [.unreadable]

/-- The parts of the template that a text is. -/
def TemplatePart.read (text : String) : List TemplatePart :=
  TemplatePart.readTo (text.length + 1) text

/-- The expression that a written one stands for, with its templates read. -/
def SourceExpr.toExpr (e : SourceExpr) : Expr :=
  e.meaning TemplatePart.read

end InfraLint
