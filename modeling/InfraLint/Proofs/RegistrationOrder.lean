import InfraLint.Proofs.FirstOccurrences
import InfraLint.Proofs.Records
import InfraLint.Proofs.Registration
import InfraLint.Rule.Catalogue
import InfraLint.Rule.Run

/-!
# What registrations leave behind

A registry is the outcome of the registrations that have been made, one after the other.  A name has
the place of its first registration and the rule of its last one (`Registry.Keeps`).  A single
registration either fills a place that exists or opens one at the end
(`Registry.rules_register_of_getElem?`, `Registry.rules_register_of_not_mem`), and from this it follows
for any number of them (`Registry.keeps_registrations`).

A registry can also be kept as entries, each with the name that a rule had when it was registered
(`Registry.enter`).  Such a name is never looked up again in the rule, and yet it is always the name
of the rule beside it.
-/

namespace InfraLint

theorem isLast_concat_iff {α : Type} {has : α → Prop} {items : List α} {item last : α} :
    IsLast has (items ++ [last]) item ↔ has last ∧ last = item ∨ ¬ has last ∧ IsLast has items item := by
  by_cases holds : has last
  · have found : IsLast has (items ++ [last]) last :=
      IsLast.append_right (.here holds (List.forall_mem_nil _))
    simp only [holds, true_and, not_true_eq_false, false_and, or_false]
    exact ⟨fun other => found.unique other, fun same => same ▸ found⟩
  · simp only [holds, false_and, not_false_eq_true, true_and, false_or]
    have none : ∀ later ∈ [last], ¬ has later := by simpa using holds
    constructor
    · intro found
      have inside : item ∈ items := by
        refine (List.mem_append.1 found.mem).resolve_right fun member => ?_
        exact none item member found.holds
      obtain ⟨other, found'⟩ := IsLast.exists_of_mem inside found.holds
      exact found.unique (found'.append_left none) ▸ found'
    · exact fun found => found.append_left none

namespace Registry

variable {registry : Registry} {history : List Rule}

/-! ## One registration -/

theorem names_register (registry : Registry) (rule : Rule) :
    (registry.register rule).names =
      if rule.name ∈ registry.names then registry.names else registry.names ++ [rule.name] :=
  rule.map_name_place registry.rules

/-- A rule whose name is known takes the place of that name, and all other rules stay. -/
theorem rules_register_of_getElem? (distinct : registry.names.Nodup) {rule : Rule} {position : Nat}
    (there : registry.names[position]? = some rule.name) :
    (registry.register rule).rules = registry.rules.set position rule := by
  obtain ⟨rules⟩ := registry
  change rule.place rules = rules.set position rule
  replace distinct : (rules.map (·.name)).Nodup := distinct
  replace there : (rules.map (·.name))[position]? = some rule.name := there
  induction rules generalizing position with
  | nil => cases there
  | cons other rest ih =>
      rw [List.map_cons, List.nodup_cons] at distinct
      cases position with
      | zero =>
          have same : other.name = rule.name := Option.some.inj there
          rw [Rule.place, if_pos same, List.set_cons_zero]
      | succ position =>
          have later : (rest.map (·.name))[position]? = some rule.name := there
          have fresh : other.name ≠ rule.name := fun same =>
            distinct.1 (same ▸ List.mem_of_getElem? later)
          rw [Rule.place, if_neg fresh, List.set_cons_succ, ih distinct.2 later]

/-- A rule with a new name comes behind all the others. -/
theorem rules_register_of_not_mem {rule : Rule} (fresh : rule.name ∉ registry.names) :
    (registry.register rule).rules = registry.rules ++ [rule] := by
  obtain ⟨rules⟩ := registry
  change rule.place rules = rules ++ [rule]
  replace fresh : rule.name ∉ rules.map (·.name) := fresh
  induction rules with
  | nil => rfl
  | cons other rest ih =>
      rw [List.map_cons, List.mem_cons, not_or] at fresh
      rw [Rule.place, if_neg fun same => fresh.1 same.symm, ih fresh.2, List.cons_append]

theorem get?_register (registry : Registry) (rule : Rule) (name : String) :
    (registry.register rule).get? name =
      if rule.name = name then some rule else registry.get? name := by
  obtain ⟨rules⟩ := registry
  change (rule.place rules).find? (·.name == name) = if _ then _ else rules.find? (·.name == name)
  induction rules with
  | nil => by_cases same : rule.name = name <;> simp [Rule.place, same]
  | cons other rest ih =>
      rw [Rule.place]
      split
      · next taken => by_cases same : rule.name = name <;> simp [taken, same]
      · next taken =>
        rw [List.find?_cons, List.find?_cons, ih]
        split
        · next here =>
          have different : rule.name ≠ name := fun same => taken ((eq_of_beq here).trans same.symm)
          rw [if_neg different]
        · rfl

/-! ## Names that are stored -/

/-- Registers a rule among entries that carry names: in the first entry with the name of the rule, or
in a new one at the end. -/
def enter : List (String × Rule) → Rule → List (String × Rule)
  | [], rule => [(rule.name, rule)]
  | (name, other) :: rest, rule =>
    if name = rule.name then (name, rule) :: rest else (name, other) :: enter rest rule

/-- Entering a rule keeps every name beside a rule of that name. -/
theorem enter_map (rules : List Rule) (rule : Rule) :
    enter (rules.map fun rule => (rule.name, rule)) rule =
      (rule.place rules).map fun rule => (rule.name, rule) := by
  induction rules with
  | nil => rfl
  | cons other rest ih =>
      rw [List.map_cons, enter, Rule.place]
      split
      · next same => rw [List.map_cons, same]
      · rw [ih, List.map_cons]

/-! ## Any number of registrations -/

/-- What a registry has noted of the registrations that were made. -/
structure Records (registry : Registry) (history : List Rule) : Prop where
  /-- The names are those that have been registered, each once, in the order of their first
  registration. -/
  names_once : EachOnce (history.map (·.name)) registry.names
  /-- Under a name stands the rule that was registered last. -/
  get?_iff (name : String) (rule : Rule) :
    registry.get? name = some rule ↔ IsLast (·.name = name) history rule
  /-- Under a name that was not registered stands none. -/
  get?_eq_none_iff (name : String) :
    registry.get? name = none ↔ ∀ rule ∈ history, rule.name ≠ name
  /-- Entries with stored names have the same names and rules. -/
  entered : history.foldl enter [] = registry.names.zip registry.rules

theorem records_empty : empty.Records [] where
  names_once := .nil
  get?_iff _ _ := ⟨nofun, nofun⟩
  get?_eq_none_iff _ := ⟨fun _ => List.forall_mem_nil _, fun _ => rfl⟩
  entered := rfl

theorem zip_names (registry : Registry) :
    registry.names.zip registry.rules = registry.rules.map fun rule => (rule.name, rule) := by
  have pairs := List.zip_map' (f := Rule.name) (g := id) (l := registry.rules)
  rwa [List.map_id] at pairs

theorem Records.register (records : registry.Records history) (rule : Rule) :
    (registry.register rule).Records (history ++ [rule]) where
  names_once := by
    rw [List.map_append, List.map_singleton, names_register]
    split
    · next known => exact records.names_once.concat_of_mem known
    · next fresh => exact records.names_once.concat_of_not_mem fresh
  get?_iff name other := by
    rw [get?_register, isLast_concat_iff, ← records.get?_iff]
    split
    · next same => simp [same]
    · next different => simp [different]
  get?_eq_none_iff name := by
    rw [get?_register, List.forall_mem_append, List.forall_mem_singleton,
      ← records.get?_eq_none_iff]
    split
    · next same => simp [same]
    · next different => simp [different]
  entered := by
    rw [List.foldl_append, records.entered, zip_names, zip_names]
    exact enter_map registry.rules rule

theorem Records.foldl_register (records : registry.Records history) (rules : List Rule) :
    (rules.foldl Registry.register registry).Records (history ++ rules) := by
  induction rules generalizing registry history with
  | nil => rwa [List.append_nil]
  | cons rule rest ih =>
      have later := ih (records.register rule)
      rwa [List.append_assoc, List.singleton_append] at later

/-- What a registry keeps through any number of registrations, and what a further one does to it. -/
structure Keeps (registry : Registry) (history : List Rule) : Prop
    extends registry.Records history where
  names_nodup : registry.names.Nodup
  contains_iff (name : String) :
    registry.contains name = true ↔ ∃ rule, registry.get? name = some rule
  size_eq : registry.size = registry.names.length
  isEmpty_iff : registry.isEmpty = true ↔ registry.names = []
  /-- The runs that a registry starts have its names, in order. -/
  start_names : registry.start.map (·.rule.name) = registry.names
  /-- Each of them is a new run of the rule under its name. -/
  start_rules : ∀ run ∈ registry.start,
    run = .start run.rule ∧ registry.get? run.rule.name = some run.rule
  /-- A rule under a name that is taken replaces the one there, and leaves all else as it is. -/
  replaces (rule : Rule) (position : Nat) : registry.names[position]? = some rule.name →
    (registry.register rule).rules = registry.rules.set position rule ∧
      (registry.register rule).names = registry.names
  /-- A rule under a new name comes last. -/
  appends (rule : Rule) : rule.name ∉ registry.names →
    (registry.register rule).rules = registry.rules ++ [rule]

theorem Records.keeps (records : registry.Records history) (built : registry.IsBuilt) :
    registry.Keeps history where
  toRecords := records
  names_nodup := records.names_once.nodup
  contains_iff name := Option.isSome_iff_exists
  size_eq := (List.length_map _).symm
  isEmpty_iff := by rw [isEmpty, List.isEmpty_iff, names, List.map_eq_nil_iff]
  start_names := by rw [start, List.map_map]; rfl
  start_rules run member := by
    obtain ⟨rule, inside, rfl⟩ := List.mem_map.1 member
    exact ⟨rfl, built.get?_name inside⟩
  replaces rule position there := by
    refine ⟨rules_register_of_getElem? records.names_once.nodup there, ?_⟩
    rw [names_register, if_pos (List.mem_of_getElem? there)]
  appends rule fresh := rules_register_of_not_mem fresh

/-- Whatever has been registered, in a registry without rules or in that of the catalogue, the names
are distinct and in the order of their first registration, and the last registration under a name
counts. -/
theorem keeps_registrations (rules : List Rule) :
    (rules.foldl register empty).Keeps rules ∧
      (rules.foldl register default).Keeps (Rule.catalogue ++ rules) := by
  have first : default.Records Rule.catalogue := records_empty.foldl_register Rule.catalogue
  refine ⟨(records_empty.foldl_register rules).keeps ⟨rules, rfl⟩,
    (first.foldl_register rules).keeps ⟨Rule.catalogue ++ rules, ?_⟩⟩
  rw [default, ofRules, ofRules, List.foldl_append]

end Registry

end InfraLint
