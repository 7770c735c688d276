import InfraLint.Config.Basic
import InfraLint.Text.Raw

/-!
# Modules

A module is the set of configuration files of one directory together with the scope its expressions
are evaluated in. A module calls other modules; each call makes a module of its own, so the modules
of a configuration form a tree.
-/

namespace InfraLint

/-- A module and the modules it calls. -/
structure Module where
  /-- The labels of the calls that lead here, joined by dots; empty for the root. -/
  key : String
  /-- The source that the call names. -/
  source : Option String
  dir : RawText
  files : List ConfigFile
  scope : Scope
  children : List Module

namespace Module

/-- A module without calls. -/
def ofFiles (key : String) (files : List ConfigFile) (scope : Scope) : Module :=
  ⟨key, none, ".", files, scope, []⟩

/-- A module with an empty key counts as the root. -/
def isRoot (module : Module) : Bool := module.key.isEmpty

/-- The name that reports use for the module. -/
def displayName (module : Module) : String :=
  if module.isRoot then "root" else module.key

/-- The key of a module that this one calls under a label. -/
def childKey (module : Module) (label : String) : String :=
  if module.isRoot then label else module.key ++ "." ++ label

/-- The top-level blocks of a given kind, in file then source order. -/
def blocksOf (module : Module) (kind : String) : List Block :=
  module.files.flatMap (·.blocksOf kind)

/-- The resources of a given type, in file then source order. -/
def resources (module : Module) (type : String) : List Block :=
  module.files.flatMap (·.resources type)

/-- Whether the module has a resource of a given type. -/
def hasResources (module : Module) (type : String) : Bool :=
  !(module.resources type).isEmpty

/-- The first `provider` block with a given label. -/
def provider? (module : Module) (name : String) : Option Block :=
  (module.blocksOf "provider").find? fun block => block.labels[0]? == some name

/-- The file with a given path. -/
def file? (module : Module) (path : String) : Option ConfigFile :=
  module.files.find? (·.path == path)

mutual

/-- The number of modules in the tree. -/
def count : Module → Nat
  | ⟨_, _, _, _, _, children⟩ => countAll children + 1

/-- The number of modules in a list of trees. -/
def countAll : List Module → Nat
  | [] => 0
  | module :: rest => count module + countAll rest

end

mutual

/-- The modules of the tree, each before those it calls, in order of the calls. -/
def preorder : Module → List Module
  | ⟨key, source, dir, files, scope, children⟩ =>
    ⟨key, source, dir, files, scope, children⟩ :: preorderAll children

/-- The modules of a list of trees, one tree after the other. -/
def preorderAll : List Module → List Module
  | [] => []
  | module :: rest => preorder module ++ preorderAll rest

end

end Module

end InfraLint
