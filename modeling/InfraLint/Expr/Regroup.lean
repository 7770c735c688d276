import InfraLint.Expr.Basic

/-!
# Grouping of binary operators

Operators are read as a chain that nests to the right. `OpTree.regroup` turns such a chain into the
tree that is evaluated: a weaker operator is moved above a stronger one, one rotation at a node
after its operands have been settled, and the operands of the result are settled again. Operators
of equal strength stay grouped to the right.
-/

namespace InfraLint

/-- Operands joined by binary operators. -/
inductive OpTree where
  | leaf (operand : Expr)
  | node (left : OpTree) (op : BinaryOp) (right : OpTree)

namespace OpTree

/-- The number of operators. -/
def size : OpTree → Nat
  | leaf _ => 0
  | node l _ r => l.size + r.size + 1

/-- Joins `left` and `right`, going down to the right operand of `left` when its operator is
weaker. -/
def joinLeft (left : OpTree) (op : BinaryOp) (right : OpTree) : OpTree :=
  match left with
  | node a o b => if o.precedence < op.precedence then node a o (node b op right)
    else node left op right
  | leaf _ => node left op right

/-- Joins `left` and `right`, going down to the left operand of `right` when its operator is
weaker. -/
def joinRight (left : OpTree) (op : BinaryOp) (right : OpTree) : OpTree :=
  match right with
  | node a o b => if o.precedence < op.precedence then node (node left op a) o b
    else node left op right
  | leaf _ => node left op right

/-- Joins two settled operands with at most one rotation. -/
def join (left : OpTree) (op : BinaryOp) (right : OpTree) : OpTree :=
  match left, right with
  | node a o b, node a' o' b' =>
    if o.precedence < op.precedence then node a o (joinRight b op right)
    else if o'.precedence < op.precedence then node (joinLeft left op a') o' b'
    else node left op right
  | node _ _ _, leaf _ => joinLeft left op right
  | _, _ => joinRight left op right

/-- Settles a node after its operands. -/
def settle : OpTree → OpTree
  | leaf e => leaf e
  | node l op r => join l.settle op r.settle

/-- A rotation on the left keeps the number of operators. -/
theorem size_joinLeft (l : OpTree) (op : BinaryOp) (r : OpTree) :
    (joinLeft l op r).size = l.size + r.size + 1 := by
  unfold joinLeft
  split
  · split
    · simp [size]; omega
    · simp [size]
  · simp [size]

/-- A rotation on the right keeps the number of operators. -/
theorem size_joinRight (l : OpTree) (op : BinaryOp) (r : OpTree) :
    (joinRight l op r).size = l.size + r.size + 1 := by
  unfold joinRight
  split
  · split
    · simp [size]; omega
    · simp [size]
  · simp [size]

/-- A join has the operators of both sides and the one between them. -/
theorem size_join (l : OpTree) (op : BinaryOp) (r : OpTree) :
    (join l op r).size = l.size + r.size + 1 := by
  unfold join
  split
  · split
    · simp [size, size_joinRight]; omega
    · split
      · simp [size, size_joinLeft]; omega
      · simp [size]
  · exact size_joinLeft _ _ _
  · exact size_joinRight _ _ _

/-- Settling moves operators and loses none. -/
@[simp] theorem size_settle (t : OpTree) : t.settle.size = t.size := by
  induction t with
  | leaf => rfl
  | node l op r ihl ihr => simp [settle, size_join, size, ihl, ihr]

/-- The expression of a tree of operators, with at most `fuel` nested operators: each node is
settled, and so are its operands in turn. -/
def regroupFuel : Nat → OpTree → Expr
  | _, leaf e => e
  | 0, node _ _ _ => .null
  | fuel + 1, t =>
    match t.settle with
    | leaf e => e
    | node l op r => .binary (regroupFuel fuel l) op (regroupFuel fuel r)

/-- The expression of a tree of operators. Settling keeps the number of operators, so that number
bounds the depth. -/
def regroup (t : OpTree) : Expr :=
  regroupFuel t.size t

end OpTree

end InfraLint
