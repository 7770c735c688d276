import InfraLint.Expr.Basic
import InfraLint.Expr.Value

/-!
# Evaluation

`Expr.eval` computes the value of an expression from the names in scope. It recurs on the
expression, so it is total, and it has no access to anything but the bindings: a reference to any
other name and every function call fail.
-/

namespace InfraLint

/-- Why an expression has no value. -/
inductive EvalError where
  | undefinedName (name : String)
  | undefinedFunction (name : String)
  | wrongKind (expected : String) (found : Value.Kind)
  | missingKey (key : String)
  | missingIndex (index : Nat)
  | badIndex (number : Number)
  | repeatedKey (key : String)
  | noResult (left right : Number)
  | unreadableTemplate
deriving Repr, DecidableEq

namespace EvalError

/-- The wording of an evaluation error. -/
def message : EvalError → String
  | undefinedName name => "undefined variable " ++ Quoted.quote name
  | undefinedFunction name => "undefined function " ++ Quoted.quote name
  | wrongKind expected found => "expected " ++ expected ++ ", found " ++ found.name
  | missingKey key => "no such key " ++ Quoted.quote key
  | missingIndex index => "index " ++ toString index ++ " is out of bounds"
  | badIndex number => number.text ++ " is not an index"
  | repeatedKey key => "key " ++ Quoted.quote key ++ " is given twice"
  | noResult left right => "no result for " ++ left.text ++ " and " ++ right.text
  | unreadableTemplate => "the text of the template cannot be read"

end EvalError

/-- The names in scope, innermost first. -/
abbrev Env := List (String × Value)

namespace Value

/-- The truth value that a value is. -/
def asBool : Value → Except EvalError Bool
  | .bool b => .ok b
  | v => .error (.wrongKind "bool" v.kind)

/-- The number that a value is. -/
def asNumber : Value → Except EvalError Number
  | .number n => .ok n
  | v => .error (.wrongKind "number" v.kind)

/-- The text of a value used as a key. -/
def asKey : Value → Except EvalError String
  | .string s => .ok s
  | .bool b => .ok (if b then "true" else "false")
  | .number n => .ok n.text
  | v => .error (.wrongKind "string" v.kind)

/-- The entry of a map under a key. -/
def member (name : String) : Value → Except EvalError Value
  | .map entries =>
    match entries.lookup name with
    | some v => .ok v
    | none => .error (.missingKey name)
  | v => .error (.wrongKind "map" v.kind)

/-- The item of a list at an index. -/
def item (index : Nat) : Value → Except EvalError Value
  | .list items =>
    match items[index]? with
    | some v => .ok v
    | none => .error (.missingIndex index)
  | v => .error (.wrongKind "list" v.kind)

/-- What `[key]` selects: an entry of a map by a string, an item of a list by a natural
number. -/
def index (v key : Value) : Except EvalError Value :=
  match v, key with
  | .map _, .string name => v.member name
  | .list _, .number (.natural i) => v.item i
  | .list _, .number n => .error (.badIndex n)
  | .map _, _ => .error (.wrongKind "string" key.kind)
  | .list _, _ => .error (.wrongKind "number" key.kind)
  | _, _ => .error (.wrongKind "list" v.kind)

/-- The elements that a splat visits: those of a list, none for null, else the value itself. -/
def elements : Value → List Value
  | .list items => items
  | .null => []
  | v => [v]

/-- The keys and values that a `for` visits. -/
def entries : Value → Except EvalError (List (Value × Value))
  | .list items => .ok (items.zipIdx.map fun (v, i) => (.number (.natural i), v))
  | .map entries => .ok (entries.map fun (k, v) => (.string k, v))
  | v => .error (.wrongKind "list" v.kind)

end Value

/-- The names in scope inside a `for`. -/
def Binder.bind (binder : Binder) (env : Env) (key value : Value) : Env :=
  match binder.key with
  | some name => (binder.value, value) :: (name, key) :: env
  | none => (binder.value, value) :: env

/-- The value of a unary operator. -/
def UnaryOp.apply (op : UnaryOp) (v : Value) : Except EvalError Value :=
  match op with
  | negate => return .number (← v.asNumber).neg
  | invert => return .bool !(← v.asBool)

/-- Applies a partial operation on numbers. -/
def BinaryOp.compute (op : Number → Number → Option Number) (a b : Value) :
    Except EvalError Value := do
  let x ← a.asNumber
  let y ← b.asNumber
  match op x y with
  | some z => return .number z
  | none => throw (.noResult x y)

/-- Compares two numbers. -/
def BinaryOp.order (accept : Ordering → Bool) (a b : Value) : Except EvalError Value := do
  let x ← a.asNumber
  let y ← b.asNumber
  return .bool (accept (x.compare y))

/-- The value of a binary operator. Both operands have been evaluated. -/
def BinaryOp.apply (op : BinaryOp) (a b : Value) : Except EvalError Value :=
  match op with
  | or => do
    let x ← a.asBool
    let y ← b.asBool
    return .bool (x || y)
  | and => do
    let x ← a.asBool
    let y ← b.asBool
    return .bool (x && y)
  | eq => return .bool (a.equal b)
  | ne => return .bool !(a.equal b)
  | lt => order (· == .lt) a b
  | le => order (· != .gt) a b
  | gt => order (· == .gt) a b
  | ge => order (· != .lt) a b
  | add => compute Number.add? a b
  | sub => compute Number.sub? a b
  | mul => compute Number.mul? a b
  | div => compute Number.div? a b
  | mod => compute Number.rem? a b

/-- Adds an entry to a map that a `for` builds. -/
def Value.collect (grouped : Bool) (key : String) (value : Value)
    (entries : List (String × Value)) : Except EvalError (List (String × Value)) :=
  match grouped, entries.lookup key with
  | true, some (.list items) => .ok (Assoc.insert key (.list (items ++ [value])) entries)
  | true, _ => .ok (Assoc.insert key (.list [value]) entries)
  | false, some _ => .error (.repeatedKey key)
  | false, none => .ok (Assoc.insert key value entries)

mutual

/-- The value of an expression. -/
def Expr.eval : Expr → Env → Except EvalError Value
  | .null, _ => .ok .null
  | .bool b, _ => .ok (.bool b)
  | .number n, _ => .ok (.number n)
  | .string s, _ => .ok (.string s)
  | .array items, env => do return .list (← Expr.evalAll items env)
  | .object items, env => do return .map (← ObjectItem.evalAll items env [])
  | .template [.interpolation e], env => e.eval env
  | .template parts, env => do return .string (← TemplatePart.evalAll parts env)
  | .heredoc parts, env => do return .string (← TemplatePart.evalAll parts env)
  | .variable name, env =>
    match env.lookup name with
    | some v => .ok v
    | none => .error (.undefinedName name)
  | .traversal base steps, env => do Step.evalAll steps env (← base.eval env)
  | .call name _, _ => .error (.undefinedFunction name)
  | .paren e, env => e.eval env
  | .conditional test yes no, env => do
    if ← (← test.eval env).asBool then yes.eval env else no.eval env
  | .unary op e, env => do op.apply (← e.eval env)
  | .binary l op r, env => do
    let a ← l.eval env
    let b ← r.eval env
    op.apply a b
  | .forList binder collection value condition, env => do
    let entries ← (← collection.eval env).entries
    let items ← entries.filterMapM fun (k, v) => do
      let inner := binder.bind env k v
      if ← (← condition.eval inner).asBool then return some (← value.eval inner) else return none
    return .list items
  | .forObject binder collection key value condition grouped, env => do
    let entries ← (← collection.eval env).entries
    let built ← entries.foldlM (fun built (k, v) => do
      let inner := binder.bind env k v
      if ← (← condition.eval inner).asBool then
        let name ← (← key.eval inner).asKey
        Value.collect grouped name (← value.eval inner) built
      else return built) []
    return .map built

/-- The values of a list of expressions, in order. -/
def Expr.evalAll : List Expr → Env → Except EvalError (List Value)
  | [], _ => .ok []
  | e :: rest, env => do
    let v ← e.eval env
    return v :: (← Expr.evalAll rest env)

/-- The text of an object's key. -/
def ObjectKey.eval : ObjectKey → Env → Except EvalError String
  | .name text, _ => .ok text
  | .computed e, env => do (← e.eval env).asKey

/-- Adds the entries of an object, in order, to those given. -/
def ObjectItem.evalAll : List ObjectItem → Env → List (String × Value) →
    Except EvalError (List (String × Value))
  | [], _, entries => .ok entries
  | .mk key value :: rest, env, entries => do
    let name ← key.eval env
    let v ← value.eval env
    ObjectItem.evalAll rest env (Assoc.insert name v entries)

/-- What the steps of a traversal lead to. -/
def Step.evalAll : List Step → Env → Value → Except EvalError Value
  | [], _, v => .ok v
  | .member name :: rest, env, v => do Step.evalAll rest env (← v.member name)
  | .index key :: rest, env, v => do
    let k ← key.eval env
    Step.evalAll rest env (← v.index k)
  | .position i :: rest, env, v => do Step.evalAll rest env (← v.item i)
  | .eachMember names :: rest, env, v => do
    let items ← v.elements.mapM fun x => names.foldlM (fun y name => y.member name) x
    Step.evalAll rest env (.list items)
  | .each :: rest, env, v => do
    return .list (← v.elements.mapM fun x => Step.evalAll rest env x)

/-- The text of a template. -/
def TemplatePart.evalAll : List TemplatePart → Env → Except EvalError String
  | [], _ => .ok ""
  | .literal s :: rest, env => do return s ++ (← TemplatePart.evalAll rest env)
  | .interpolation e :: rest, env => do
    let v ← e.eval env
    return v.text ++ (← TemplatePart.evalAll rest env)
  | .choice test yes no :: rest, env => do
    let s ← if ← (← test.eval env).asBool then TemplatePart.evalAll yes env
      else TemplatePart.evalAll no env
    return s ++ (← TemplatePart.evalAll rest env)
  | .loop binder collection body :: rest, env => do
    let entries ← (← collection.eval env).entries
    let texts ← entries.mapM fun (k, v) => TemplatePart.evalAll body (binder.bind env k v)
    return String.join texts ++ (← TemplatePart.evalAll rest env)
  | .unreadable :: _, _ => .error .unreadableTemplate

end

/-- The evaluation scope of one module: its input variables and its locals. -/
structure Scope where
  inputs : List (String × Value)
  locals : List (String × Value)
deriving Inhabited

namespace Scope

/-- A scope without bindings. -/
def empty : Scope := ⟨[], []⟩

/-- The names that expressions of the module can refer to. -/
def env (scope : Scope) : Env :=
  [("var", .map scope.inputs), ("local", .map scope.locals)]

/-- The value of an expression in the module's scope. -/
def evaluate (scope : Scope) (e : Expr) : Except EvalError Value :=
  e.eval scope.env

end Scope

end InfraLint
