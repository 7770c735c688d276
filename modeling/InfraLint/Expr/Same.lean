import InfraLint.Expr.Source

/-!
# Equality of written expressions

`SourceExpr.same` decides whether two expressions are written alike, layout apart. It is what makes
the later of two entries with the same key replace the earlier one while an object is read. Numbers
are alike by value, whatever their digits, and the entries of an object in any order.

Inside a template the comparison is `strict`: what ends a list or an entry counts as well, and so
does the margin of a heredoc. Outside it does not.
-/

namespace InfraLint

mutual

/-- Whether two expressions are written alike. -/
def SourceExpr.same : Bool → SourceExpr → SourceExpr → Bool
  | _, .null, .null => true
  | _, .bool a, .bool b => a == b
  | _, .number _ a, .number _ b => a.compare b == .eq
  | _, .string a, .string b => a == b
  | strict, .array as m, .array bs n => (!strict || m == n) && SourceExpr.sameAll strict as bs
  | strict, .object as m, .object bs n =>
    (!strict || m == n) && as.length == bs.length && SourceItem.sameAll strict as bs
  | _, .template as, .template bs => SourcePart.sameAll as bs
  | strict, .heredoc d m as, .heredoc d' n bs =>
    d == d' && (if strict then m == n else m.isSome == n.isSome) && SourcePart.sameAll as bs
  | _, .variable a, .variable b => a == b
  | strict, .traversal a as, .traversal b bs => a.same strict b && SourceStep.sameAll strict as bs
  | strict, .call f as m, .call g bs n =>
    f == g && (!strict || m == n) && SourceExpr.sameAll strict as bs
  | strict, .paren a, .paren b => a.same strict b
  | strict, .conditional a b c, .conditional a' b' c' =>
    a.same strict a' && b.same strict b' && c.same strict c'
  | strict, .unary o a, .unary o' a' => o == o' && a.same strict a'
  | strict, .binary a o b, .binary a' o' b' => o == o' && a.same strict a' && b.same strict b'
  | strict, .forList x a b c, .forList x' a' b' c' =>
    x == x' && a.same strict a' && b.same strict b' && SourceExpr.sameCondition strict c c'
  | strict, .forObject x a b c d g, .forObject x' a' b' c' d' g' =>
    x == x' && g == g' && a.same strict a' && b.same strict b' && c.same strict c' &&
      SourceExpr.sameCondition strict d d'
  | _, _, _ => false
termination_by structural _ e => e

/-- Whether two lists of expressions are written alike. -/
def SourceExpr.sameAll : Bool → List SourceExpr → List SourceExpr → Bool
  | _, [], [] => true
  | strict, a :: as, b :: bs => a.same strict b && SourceExpr.sameAll strict as bs
  | _, _, _ => false
termination_by structural _ e => e

/-- Whether two conditions of a `for` are written alike. A missing one is like no other. -/
def SourceExpr.sameCondition : Bool → Option SourceExpr → Option SourceExpr → Bool
  | _, none, none => true
  | strict, some a, some b => a.same strict b
  | _, _, _ => false
termination_by structural _ e => e

/-- Whether two object keys are written alike. -/
def SourceKey.same : Bool → SourceKey → SourceKey → Bool
  | _, .name a, .name b => a == b
  | strict, .computed a, .computed b => a.same strict b
  | _, _, _ => false
termination_by structural _ e => e

/-- Whether two object entries are written alike. -/
def SourceItem.same : Bool → SourceItem → SourceItem → Bool
  | strict, .mk _ k c v e, .mk _ k' c' v' e' =>
    (!strict || c == c' && e == e') && k.same strict k' && v.same strict v'
termination_by structural _ e => e

/-- Whether each of the first object entries has one among the second that is written alike. -/
def SourceItem.sameAll : Bool → List SourceItem → List SourceItem → Bool
  | _, [], _ => true
  | strict, a :: as, bs => bs.any (fun b => a.same strict b) && SourceItem.sameAll strict as bs
termination_by structural _ e => e

/-- Whether two steps are written alike. -/
def SourceStep.same : Bool → SourceStep → SourceStep → Bool
  | _, .member a, .member b => a == b
  | strict, .index a, .index b => a.same strict b
  | _, .position a, .position b => a == b
  | _, .eachMember, .eachMember => true
  | _, .each, .each => true
  | _, _, _ => false
termination_by structural _ e => e

/-- Whether two traversals take the same steps. -/
def SourceStep.sameAll : Bool → List SourceStep → List SourceStep → Bool
  | _, [], [] => true
  | strict, a :: as, b :: bs => a.same strict b && SourceStep.sameAll strict as bs
  | _, _, _ => false
termination_by structural _ e => e

/-- Whether two template parts are written alike. -/
def SourcePart.same : SourcePart → SourcePart → Bool
  | .text a, .text b => a == b
  | .interpolation m a, .interpolation m' a' => m == m' && a.same true a'
  | .choice m a as n bs o, .choice m' a' as' n' bs' o' =>
    m == m' && n == n' && o == o' && a.same true a' && SourcePart.sameAll as as' &&
      SourcePart.sameAll bs bs'
  | .loop m x a as n, .loop m' x' a' as' n' =>
    m == m' && n == n' && x == x' && a.same true a' && SourcePart.sameAll as as'
  | _, _ => false
termination_by structural e => e

/-- Whether two templates are written alike. -/
def SourcePart.sameAll : List SourcePart → List SourcePart → Bool
  | [], [] => true
  | a :: as, b :: bs => a.same b && SourcePart.sameAll as bs
  | _, _ => false
termination_by structural e => e

end

end InfraLint
