import InfraLint.Config.Basic

/-!
# Resolving attributes to strings

A value is written as a literal, as a list of literals, or as an expression that gives a string or a
list. `Scope.values` reduces all four to strings, each with the token it came from. The elements of
an array literal keep their own lines; those of a list that an expression gives share the
attribute's line. What cannot be resolved is left out.
-/

namespace InfraLint

/-- The shape that a rule expects an attribute to have. -/
inductive Shape where
  | scalar
  | list
deriving Repr, DecidableEq

/-- Why a token gives no string, or an attribute no list. -/
inductive ResolveError where
  | evaluation (file : String) (line : Nat) (cause : EvalError)
  | mismatch (file : String) (line : Nat) (expected found : String)
deriving Repr, DecidableEq

namespace ResolveError

/-- The wording of a resolution error. -/
def message : ResolveError → String
  | evaluation file line cause =>
    file ++ ":" ++ toString line ++ ": cannot evaluate expression: Evaluation failed: " ++
      cause.message
  | mismatch file line expected found =>
    file ++ ":" ++ toString line ++ ": expected " ++ expected ++ ", found " ++ found

end ResolveError

/-- A string and the token it came from. -/
structure ResolvedValue where
  value : String
  token : Token

namespace Token

/-- The error that a token has another shape than expected. -/
def mismatch (token : Token) (expected found : String) : ResolveError :=
  .mismatch token.file token.line expected found

end Token

namespace Scope

/-- The value of a token's expression, with the token's place in case of failure. -/
def evaluateAt (scope : Scope) (token : Token) (e : Expr) : Except ResolveError Value :=
  match scope.evaluate e with
  | .ok v => .ok v
  | .error cause => .error (.evaluation token.file token.line cause)

/-- The string that a token stands for. Numbers and truth values count when they are written as
literals, not when an expression gives them. -/
def resolve (scope : Scope) (token : Token) : Except ResolveError String :=
  match token.value with
  | .resolved text => .ok text
  | .unresolvable kind => .error (token.mismatch "string" kind.name)
  | .expression (.string s) => .ok s
  | .expression (.number n) => .ok n.text
  | .expression (.bool b) => .ok (if b then "true" else "false")
  | .expression (.array _) => .error (token.mismatch "string" "list")
  | .expression (.object _) => .error (token.mismatch "string" "map")
  | .expression e => do
    match ← scope.evaluateAt token e with
    | .string s => return s
    | v => throw (token.mismatch "string" v.kind.name)

/-- The token of one element of a list that an expression gives. -/
def elementToken (token : Token) : Value → Token
  | .string s => .ofString s token.file token.line
  | v => .ofKind v.kind token.raw token.file token.line

/-- One token for each element of an attribute that is a list. -/
def resolveList (scope : Scope) (attr : Attribute) : Except ResolveError (List Token) :=
  match attr.elements with
  | some elements => .ok elements
  | none =>
    let token := attr.token
    match token.value with
    | .resolved _ => .error (token.mismatch "list" "string")
    | .unresolvable kind => .error (token.mismatch "list" kind.name)
    | .expression e =>
      if e.isLiteral then .error (token.mismatch "list" "string")
      else do
        match ← scope.evaluateAt token e with
        | .list items => return items.map (elementToken token)
        | v => throw (token.mismatch "list" v.kind.name)

/-- The tokens of an attribute that is expected to have a given shape. -/
def tokens (scope : Scope) (attr : Attribute) : Shape → List Token
  | .scalar => [attr.token]
  | .list =>
    match scope.resolveList attr with
    | .ok tokens => tokens
    | .error _ => []

/-- A token with its string, if it has one. -/
def resolved? (scope : Scope) (token : Token) : Option ResolvedValue :=
  match scope.resolve token with
  | .ok value => some ⟨value, token⟩
  | .error _ => none

/-- The strings of an attribute, in order, each with its token. -/
def values (scope : Scope) (attr : Attribute) (shape : Shape) : List ResolvedValue :=
  (scope.tokens attr shape).filterMap scope.resolved?

end Scope

end InfraLint
