import InfraLint.Rule.Registry
import Mathlib.Data.List.Nodup

/-!
# Rules and their names

A registry that was built by registering rules one after the other never holds two rules of one name
(`Registry.IsBuilt.nodup_names`), so a name that an issue or an outcome carries leads back to the
rule it came from (`Registry.IsBuilt.get?_name`).
-/

namespace InfraLint

namespace Rule

/-- Registering a rule adds its name behind the others, unless it is there. -/
theorem map_name_place (rule : Rule) (rules : List Rule) :
    (rule.place rules).map (·.name) =
      if rule.name ∈ rules.map (·.name) then rules.map (·.name)
      else rules.map (·.name) ++ [rule.name] := by
  induction rules with
  | nil => rfl
  | cons other rest ih =>
      by_cases taken : other.name = rule.name
      · simp [place, taken]
      · have fresh : rule.name ≠ other.name := fun same => taken same.symm
        simp only [place, taken, if_false, List.map_cons, ih, List.mem_cons, fresh, false_or]
        split
        · rfl
        · rfl

theorem nodup_names_place (rule : Rule) {rules : List Rule}
    (distinct : (rules.map (·.name)).Nodup) : ((rule.place rules).map (·.name)).Nodup := by
  rw [map_name_place]
  split
  · exact distinct
  · next fresh =>
    rw [← List.concat_eq_append]
    exact distinct.concat fresh

end Rule

namespace Registry

/-- The registry was built by registering rules, one after the other. -/
def IsBuilt (registry : Registry) : Prop := ∃ rules, registry = ofRules rules

theorem nodup_names_foldl (rules : List Rule) {registry : Registry}
    (distinct : registry.names.Nodup) : (rules.foldl register registry).names.Nodup := by
  induction rules generalizing registry with
  | nil => exact distinct
  | cons rule rest ih => exact ih (rule.nodup_names_place distinct)

/-- No two rules of a registry have one name. -/
theorem IsBuilt.nodup_names {registry : Registry} (built : registry.IsBuilt) :
    registry.names.Nodup := by
  obtain ⟨rules, rfl⟩ := built
  exact nodup_names_foldl rules List.nodup_nil

/-- The name of a rule leads back to it. -/
theorem IsBuilt.get?_name {registry : Registry} (built : registry.IsBuilt) {rule : Rule}
    (member : rule ∈ registry.rules) : registry.get? rule.name = some rule := by
  cases found : registry.get? rule.name with
  | none =>
      have missed := List.find?_eq_none.1 found rule member
      simp at missed
  | some other =>
      have same : other.name = rule.name := by simpa using List.find?_some found
      have there : other ∈ registry.rules := List.mem_of_find?_eq_some found
      rw [List.inj_on_of_nodup_map built.nodup_names there member same]

end Registry

end InfraLint
