import InfraLint.Module.Basic

/-!
# Bindings of a module

Where the variables and locals of a module get their values: defaults that the module declares,
variable files, arguments of the call, and the `locals` blocks. What cannot be evaluated binds
nothing.
-/

namespace InfraLint

/-- Arguments of a module call that are not input variables. -/
def metaArguments : List String :=
  ["source", "version", "providers", "count", "for_each", "depends_on"]

namespace Scope

/-- The names and values of settings that can be evaluated, in order. -/
def evaluable (scope : Scope) (settings : List (String × Token)) : List (String × Value) :=
  settings.filterMap fun (name, token) =>
    match token.expression? with
    | some e => (scope.evaluate e).toOption.map (name, ·)
    | none => none

/-- Binds variables in order, later values overriding earlier ones. -/
def bindAll (inputs bindings : List (String × Value)) : List (String × Value) :=
  bindings.foldl (fun bound (name, value) => Assoc.insert name value bound) inputs

/-- The default that a `variable` block declares. -/
def declaredDefault? (block : Block) : Option (String × Token) := do
  let name ← block.labels[0]?
  let default ← block.attribute? "default"
  return (name, default.token)

/-- The defaults that files declare, in file then source order. They see no names. -/
def declaredDefaults (files : List ConfigFile) : List (String × Value) :=
  empty.evaluable ((files.flatMap (·.blocksOf "variable")).filterMap declaredDefault?)

/-- The variables after the declared defaults. -/
def variableDefaults (files : List ConfigFile) : List (String × Value) :=
  bindAll [] (declaredDefaults files)

/-- The settings of a variable file. They see no names. -/
def fileSettings (file : ConfigFile) : List (String × Value) :=
  empty.evaluable (file.attributes.map fun attr => (attr.name, attr.token))

/-- The arguments that a call passes, evaluated where the call stands. -/
def callArguments (scope : Scope) (call : Block) : List (String × Value) :=
  scope.evaluable ((call.attributes.filter fun attr => !metaArguments.contains attr.name).map
    fun attr => (attr.name, attr.token))

/-! ## Locals -/

/-- A declared local: its name and expression. -/
abbrev Local := String × Expr

/-- The locals that files declare, in file then source order. -/
def declaredLocals (files : List ConfigFile) : List Local :=
  (files.flatMap (·.blocksOf "locals")).flatMap fun block =>
    block.attributes.filterMap fun attr => attr.token.expression?.map (attr.name, ·)

/-- Binds a local. -/
def setLocal (scope : Scope) (name : String) (value : Value) : Scope :=
  { scope with locals := Assoc.insert name value scope.locals }

/-- Goes once through pending locals and binds those that evaluate, each visible to the next. Gives
the scope and the locals that are still pending. -/
def localsPass (scope : Scope) : List Local → Scope × List Local
  | [] => (scope, [])
  | (name, e) :: rest =>
    match scope.evaluate e with
    | .ok value => localsPass (scope.setLocal name value) rest
    | .error _ =>
      let (scope', pending) := localsPass scope rest
      (scope', (name, e) :: pending)

/-- Repeats the pass until it binds nothing more, at most `fuel` times. -/
def localsPasses : Nat → Scope → List Local → Scope
  | 0, scope, _ => scope
  | fuel + 1, scope, pending =>
    let (scope', pending') := localsPass scope pending
    if pending'.isEmpty || pending'.length == pending.length then scope'
    else localsPasses fuel scope' pending'

/-- The scope of a module from its variables and files. Every pass but the last binds a local, so
their number bounds the passes. -/
def ofInputs (inputs : List (String × Value)) (files : List ConfigFile) : Scope :=
  let pending := declaredLocals files
  localsPasses (pending.length + 1) ⟨inputs, []⟩ pending

end Scope

end InfraLint
