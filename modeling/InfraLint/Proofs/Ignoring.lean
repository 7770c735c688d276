import InfraLint.Proofs.Calls

/-!
# Ignoring one more source

A source that is ignored takes the modules of that source out of the tree, each with all modules
below it, and changes nothing else (`Module.load_ignoring`).  Two loaders are compared at each
module: the one that ignores more follows those of the calls of the other whose source is not the
ignored one (`Site.Ignores.calls_eq`).  What a call enters does not depend on what is ignored, and
neither does the way from the root, so the modules that are left are the same on both sides.
-/

namespace InfraLint

namespace Module

mutual

/-- A tree without the modules below its root that have a given source, and without what is below
them. -/
def without (source : String) : Module → Module
  | ⟨key, origin, dir, files, scope, children⟩ =>
    ⟨key, origin, dir, files, scope, withoutAll source children⟩

/-- Trees without those whose root has a given source, and each of them without the modules of that
source. -/
def withoutAll (source : String) : List Module → List Module
  | [] => []
  | module :: rest =>
    if module.source = some source then withoutAll source rest
    else without source module :: withoutAll source rest

end

theorem withoutAll_eq (source : String) (modules : List Module) :
    withoutAll source modules =
      (modules.filter (·.source ≠ some source)).map (without source) := by
  induction modules with
  | nil => rfl
  | cons module rest ih =>
      by_cases same : module.source = some source
      · rw [withoutAll, if_pos same, ih, List.filter_cons_of_neg (by simpa using same)]
      · rw [withoutAll, if_neg same, ih, List.filter_cons_of_pos (by simpa using same),
          List.map_cons]

/-- Only the children of a module change. -/
theorem without_eq (source : String) (module : Module) :
    module.without source = { module with
      children := (module.children.filter (·.source ≠ some source)).map (without source) } := by
  obtain ⟨key, origin, dir, files, scope, children⟩ := module
  rw [without, withoutAll_eq]

end Module

namespace Site

/-- The second loader ignores one source more than the first one. -/
structure Ignores (site more : Site) (source : String) : Prop where
  tree : more.tree = site.tree
  manifest : more.manifest = site.manifest
  sources : ∀ other, other ∈ more.ignoredSources ↔ other = source ∨ other ∈ site.ignoredSources

namespace Ignores

variable {site more : Site} {source : String}

theorem leads_iff (ignores : site.Ignores more source) {parent : Module} {call : Call} :
    more.Leads parent call ↔ site.Leads parent call ∧ call.source ≠ source := by
  constructor
  · rintro ⟨labelled, literal, wanted, named, located, directory⟩
    rw [ignores.sources, not_or] at wanted
    rw [ignores.manifest] at named
    rw [ignores.tree] at located directory
    exact ⟨⟨labelled, literal, wanted.2, named, located, directory⟩, wanted.1⟩
  · rintro ⟨⟨labelled, literal, wanted, named, located, directory⟩, other⟩
    rw [← ignores.manifest] at named
    rw [← ignores.tree] at located directory
    refine ⟨labelled, literal, fun ignored => ?_, named, located, directory⟩
    rcases (ignores.sources _).1 ignored with same | known
    · exact other same
    · exact wanted known

/-- The calls that lead somewhere are the same, less those of the source. -/
theorem calls_eq (ignores : site.Ignores more source) (parent : Module) :
    more.calls parent = (site.calls parent).filter (·.source ≠ source) := by
  rw [calls, calls, List.filter_filterMap]
  congr 1
  funext block
  ext call
  rw [Option.filter_eq_some_iff, call?_eq_some_iff, call?_eq_some_iff, ignores.leads_iff, and_assoc,
    decide_eq_true_iff]

theorem enter_eq (ignores : site.Ignores more source) (parent : Module) (call : Call) :
    more.enter parent call = site.enter parent call := by
  rw [enter, enter, ignores.tree]

/-- A module that the first loader has loaded is loaded by the second one without the modules of the
source, given the same way from the root. -/
theorem isLoaded_without (ignores : site.Ignores more source) {ancestors : List Place}
    {module : Module} (loaded : site.IsLoaded ancestors module) :
    more.IsLoaded ancestors (module.without source) := by
  induction module using Module.inductionOn generalizing ancestors with
  | step module ih =>
      rw [Module.without_eq]
      refine ⟨ignores.tree ▸ loaded.files, loadChildren_eq_children_iff.2 ?_⟩
      -- A child is left out exactly if its call is.
      have same (child : Module) (call : Call)
          (pair : child ∈ module.children ∧
            site.enter module call = .ok { child with children := [] } ∧
            site.IsLoaded (call.place :: ancestors) child) :
          decide (child.source ≠ some source) ↔ decide (call.source ≠ source) := by
        have given : child.source = some call.source := (key_of_enter pair.2.1).2
        simp [given]
      have each := loadChildren_eq_children_iff.1 loaded.children
      have members := (List.forall₂_and_left _ _).2 ⟨fun child member => member, each.flip⟩
      have kept := List.rel_filter same members
      have calls : (more.calls module).filter (·.place ∉ ancestors) =
          ((site.calls module).filter (·.place ∉ ancestors)).filter (·.source ≠ source) := by
        rw [ignores.calls_eq, List.filter_comm]
      change List.Forall₂ _ ((more.calls module).filter (·.place ∉ ancestors)) _
      rw [calls, List.forall₂_map_right_iff]
      refine kept.flip.imp ?_
      rintro call child ⟨member, enters, below⟩
      refine ⟨?_, ih child member below⟩
      rw [Module.without_eq]
      exact (ignores.enter_eq module call).trans enters

end Ignores

end Site

namespace Module

/-- What is ignored has no part in opening the root. -/
theorem openRoot_ignoring (tree : FileTree) {options more : LoadOptions}
    (files : more.variableFiles = options.variableFiles) (dir : RawText) :
    openRoot tree more dir = (openRoot tree options dir).map fun (site, place, root) =>
      ({ site with ignoredSources := more.ignoredSources }, place, root) := by
  have paths : rootVariableFiles tree more dir = rootVariableFiles tree options dir := by
    rw [rootVariableFiles, rootVariableFiles, files]
  unfold openRoot
  rw [paths]
  split
  · rfl
  · split
    · cases readManifest tree dir with
      | error cause => rfl
      | ok manifest =>
          cases tree.readDir dir with
          | error cause => rfl
          | ok files =>
              cases rootVariableFiles tree options dir with
              | error cause => rfl
              | ok paths =>
                  simp only [ok_bind]
                  cases readSettings tree paths with
                  | error cause => rfl
                  | ok settings => rfl
    · rfl

/-- Ignoring one more source takes the modules of that source out of the tree, with all that is below
them, and leaves every other module as it was.  A tree that can be loaded can still be loaded. -/
theorem load_ignoring {tree : FileTree} {options more : LoadOptions} {dir : RawText} {source : String}
    {root : Module} (loaded : load tree options dir = .ok root)
    (files : more.variableFiles = options.variableFiles)
    (sources : ∀ other, other ∈ more.ignoredSources ↔
      other = source ∨ other ∈ options.ignoredSources) :
    load tree more dir = .ok (root.without source) := by
  obtain ⟨⟨site, place, bare⟩, opened, loaded⟩ := bind_eq_ok_iff.1 loaded
  obtain ⟨children, loads, made⟩ := bind_eq_ok_iff.1 loaded
  cases made
  have isLoaded := isLoaded_of_openRoot opened loads
  have ignores : site.Ignores { site with ignoredSources := more.ignoredSources } source := by
    obtain ⟨-, manifest, -, rfl⟩ := isRootOf_of_openRoot opened
    exact ⟨rfl, rfl, sources⟩
  have below := (ignores.isLoaded_without isLoaded).children
  rw [without_eq, Site.loadChildren_children, Site.loadChildren_children] at below
  have opened' : openRoot tree more dir =
      .ok ({ site with ignoredSources := more.ignoredSources }, place, bare) := by
    rw [openRoot_ignoring tree files, opened]
    rfl
  exact bind_eq_ok_iff.2 ⟨_, opened', bind_eq_ok_iff.2 ⟨_, below, by rw [without_eq]; rfl⟩⟩

/-- The module of the ignored source is taken out, and the root is left. -/
theorem load_ignoring_passedOn :
    ∃ root, load .passedOn {} "." = .ok root ∧ root.count = 2 ∧
      load .passedOn ⟨[], ["./app"]⟩ "." = .ok (root.without "./app") ∧
      (root.without "./app").count = 1 := by
  have loads : (load .passedOn {} ".").toOption.map (fun root =>
      (root.count, (root.without "./app").count)) = some (2, 1) := by
    simp only [load, Site.loadChildren_eq]
    decide +kernel
  obtain ⟨root, loaded, seen⟩ := exists_ok_of_map_toOption loads
  obtain ⟨two, one⟩ := Prod.mk.inj seen
  exact ⟨root, loaded, two, load_ignoring loaded rfl (by simp), one⟩

end Module

end InfraLint
