import InfraLint.Rule.Basic

/-!
# Registries

The rules that a run goes through, in order. Issues are reported in this order. Two rules of a
registry have different names: registering a rule under a name that is taken puts it in the place of
the earlier one.
-/

namespace InfraLint

/-- Puts a rule in the place of the one with its name, or at the end. -/
def Rule.place (rule : Rule) : List Rule → List Rule
  | [] => [rule]
  | other :: rest =>
    if other.name = rule.name then rule :: rest else other :: rule.place rest

/-- Rules in the order of their first registration. -/
structure Registry where
  rules : List Rule
deriving Repr, DecidableEq

namespace Registry

/-- The registry without rules. -/
def empty : Registry := ⟨[]⟩

/-- Registers a rule under its name. -/
def register (registry : Registry) (rule : Rule) : Registry := ⟨rule.place registry.rules⟩

/-- Registers rules one after the other. -/
def ofRules (rules : List Rule) : Registry := rules.foldl register empty

/-- The rule with a given name. -/
def get? (registry : Registry) (name : String) : Option Rule :=
  registry.rules.find? (·.name == name)

/-- Whether there is a rule with a given name. -/
def contains (registry : Registry) (name : String) : Bool := (registry.get? name).isSome

/-- The names of the rules. -/
def names (registry : Registry) : List String := registry.rules.map (·.name)

/-- The number of rules. -/
def size (registry : Registry) : Nat := registry.rules.length

/-- Whether there are no rules. -/
def isEmpty (registry : Registry) : Bool := registry.rules.isEmpty

end Registry

end InfraLint
