import InfraLint.Proofs.Calls
import InfraLint.Proofs.Paths
import InfraLint.Proofs.Traversal

/-!
# Names of modules

The key of a module is made of the labels of the calls that lead to it, with dots between them, and
reports name a module by its key, or the root by a word.  Labels are any texts, so names can
coincide: a label may hold a dot, may be that word, and may be empty, which makes a child of the root
count as the root (`Module.names_coincide`).

Where the labels hold no dots, a key can be cut at its dots into the labels again (`Module.trail`).
The trails below a module start with its own one, and those below two children differ in the label
of the child, so all of them are distinct (`Module.Apart.of_children`).
-/

namespace InfraLint

/-! ## Labels of calls -/

namespace Module

/-- The labels of the calls that a module makes, in file then source order. -/
def callLabels (module : Module) : List String :=
  (module.blocksOf "module").filterMap (·.labels[0]?)

/-- The key of a module, cut at its dots. -/
def trail (module : Module) : List (List Char) := Text.splitAt '.' module.key.toList

theorem trail_of_childKey_of_isRoot {parent child : Module} {label : String}
    (isRoot : parent.isRoot = true) (undotted : '.' ∉ label.toList)
    (key : child.key = parent.childKey label) : child.trail = [label.toList] := by
  rw [trail, key, childKey, if_pos isRoot, Text.splitAt_of_not_mem undotted]

theorem key_of_childKey {parent child : Module} {label : String} (below : parent.isRoot = false)
    (key : child.key = parent.childKey label) :
    child.key.toList = parent.key.toList ++ '.' :: label.toList := by
  rw [key, childKey, if_neg (by simp [below])]
  simp

theorem isRoot_of_childKey {parent child : Module} {label : String} (below : parent.isRoot = false)
    (key : child.key = parent.childKey label) : child.isRoot = false := by
  rw [isRoot, ← Bool.not_eq_true, String.isEmpty_iff, ← String.toList_eq_nil_iff,
    key_of_childKey below key]
  simp

theorem trail_of_childKey {parent child : Module} {label : String} (below : parent.isRoot = false)
    (undotted : '.' ∉ label.toList) (key : child.key = parent.childKey label) :
    child.trail = parent.trail ++ [label.toList] := by
  rw [trail, key_of_childKey below key, Text.splitAt_append, Text.splitAt_of_not_mem undotted, trail]

end Module

namespace Site

variable {site : Site}

theorem map_block_calls_sublist (site : Site) (parent : Module) :
    ((site.calls parent).map (·.block)).Sublist (parent.blocksOf "module") := by
  rw [calls]
  induction parent.blocksOf "module" with
  | nil => exact .slnil
  | cons block rest ih =>
      cases found : site.call? parent block with
      | none =>
          rw [List.filterMap_cons_none found]
          exact ih.cons block
      | some call =>
          rw [List.filterMap_cons_some found, List.map_cons, (call?_eq_some_iff.1 found).1]
          exact ih.cons_cons block

/-- The children of a loaded module have been loaded themselves, and have keys made of the labels of
some of its calls, in their order. -/
theorem IsLoaded.exists_labels {ancestors : List Place} {module : Module}
    (loaded : site.IsLoaded ancestors module) :
    ∃ labels, labels.Sublist module.callLabels ∧
      List.Forall₂ (fun label child => child.key = module.childKey label ∧
        ∃ places, site.IsLoaded places child) labels module.children := by
  have each := loadChildren_eq_children_iff.1 loaded.children
  refine ⟨((site.calls module).filter (·.place ∉ ancestors)).filterMap (·.block.labels[0]?), ?_, ?_⟩
  · have some : (((site.calls module).filter (·.place ∉ ancestors)).map (·.block)).Sublist
        (module.blocksOf "module") :=
      (List.filter_sublist.map _).trans (map_block_calls_sublist site module)
    have labels := some.filterMap (·.labels[0]?)
    rwa [List.filterMap_map] at labels
  · have leads : ∀ call ∈ (site.calls module).filter (·.place ∉ ancestors),
        site.Leads module call := by
      intro call member
      obtain ⟨block, -, found⟩ := List.mem_filterMap.1 (List.mem_filter.1 member).1
      exact (call?_eq_some_iff.1 found).2
    have pairs := (List.forall₂_and_left _ _).2 ⟨leads, each⟩
    generalize (site.calls module).filter (·.place ∉ ancestors) = calls at pairs
    generalize module.children = children at pairs
    induction pairs with
    | nil => exact .nil
    | @cons call child calls children pair _ ih =>
        obtain ⟨label, labelled, key⟩ := pair.1.labelled
        simp only [List.filterMap_cons, labelled]
        exact .cons ⟨(key_of_enter pair.2.1).1.trans key, _, pair.2.2⟩ ih

end Site

/-! ## Trails below a module -/

namespace Module

/-- The trails of the modules of a tree are distinct, and all of them start with one trail. -/
structure Apart (front : List (List Char)) (module : Module) : Prop where
  starts : ∀ other ∈ module.preorder, front <+: other.trail
  distinct : (module.preorder.map trail).Nodup

/-- Two trails that start with different labels at the same place differ. -/
theorem label_eq_of_starts {front trail : List (List Char)} {label other : String}
    (first : front ++ [label.toList] <+: trail) (second : front ++ [other.toList] <+: trail) :
    label = other := by
  have same := (List.prefix_of_prefix_length_le first second (by simp)).eq_of_length (by simp)
  exact String.toList_inj.1 (List.singleton_inj.1 (List.append_cancel_left same))

/-- Trees of which each starts with a label of its own have distinct trails. -/
theorem Apart.of_children {front : List (List Char)} {labels : List String}
    {children : List Module} (distinct : labels.Nodup)
    (each : List.Forall₂ (fun label child => child.Apart (front ++ [label.toList])) labels
      children) :
    ((children.flatMap preorder).map trail).Nodup ∧
      ∀ module ∈ children.flatMap preorder, ∃ label ∈ labels,
        front ++ [label.toList] <+: module.trail := by
  induction each with
  | nil => exact ⟨List.nodup_nil, fun module member => by cases member⟩
  | @cons label child labels children apart _ ih =>
      obtain ⟨fresh, distinct⟩ := List.nodup_cons.1 distinct
      obtain ⟨others, started⟩ := ih distinct
      rw [List.flatMap_cons, List.map_append]
      constructor
      · refine List.nodup_append.2 ⟨apart.distinct, others, ?_⟩
        intro trail inChild trail' inOthers same
        obtain ⟨module, member, rfl⟩ := List.mem_map.1 inChild
        obtain ⟨module', member', rfl⟩ := List.mem_map.1 inOthers
        obtain ⟨label', known, start⟩ := started module' member'
        rw [← same] at start
        exact fresh (label_eq_of_starts (apart.starts module member) start ▸ known)
      · intro module member
        rcases List.mem_append.1 member with member | member
        · exact ⟨label, List.mem_cons_self, apart.starts module member⟩
        · obtain ⟨label', known, start⟩ := started module member
          exact ⟨label', List.mem_cons_of_mem _ known, start⟩

/-- The labels that lead on from the modules of a tree hold no dots, and no module has two calls of
one label. -/
structure WellLabelled (module : Module) : Prop where
  distinct : ∀ other ∈ module.preorder, other.callLabels.Nodup
  undotted : ∀ other ∈ module.preorder, ∀ label ∈ other.callLabels, '.' ∉ label.toList

theorem mem_preorder_self (module : Module) : module ∈ module.preorder := by
  rw [preorder_eq]
  exact List.mem_cons_self

theorem WellLabelled.child {module child : Module} (labelled : module.WellLabelled)
    (member : child ∈ module.children) : child.WellLabelled := by
  have below (other : Module) (inside : other ∈ child.preorder) : other ∈ module.preorder := by
    rw [preorder_eq]
    exact List.mem_cons_of_mem _ (List.mem_flatMap.2 ⟨child, member, inside⟩)
  exact ⟨fun other inside => labelled.distinct other (below other inside),
    fun other inside => labelled.undotted other (below other inside)⟩

end Module

namespace Site.IsLoaded

variable {site : Site} {ancestors : List Place} {module : Module}

/-- One step down: where the label of a call is what the trail of its child ends in, and the tree of
every child is apart, all trails below the module are distinct. -/
theorem trails_below (loaded : site.IsLoaded ancestors module) (labelled : module.WellLabelled)
    {front : List (List Char)}
    (trails : ∀ label ∈ module.callLabels, ∀ child : Module, child.key = module.childKey label →
      child.isRoot = false ∧ child.trail = front ++ [label.toList])
    (below : ∀ child ∈ module.children, ∀ places, site.IsLoaded places child →
      child.isRoot = false → child.Apart child.trail) :
    ((module.children.flatMap Module.preorder).map Module.trail).Nodup ∧
      ∀ other ∈ module.children.flatMap Module.preorder, ∃ label ∈ module.callLabels,
        front ++ [label.toList] <+: other.trail := by
  obtain ⟨labels, known, each⟩ := loaded.exists_labels
  have members := (List.forall₂_and_left _ _).2 ⟨fun label member => known.subset member,
    ((List.forall₂_and_left _ _).2 ⟨fun child member => member, each.flip⟩).flip⟩
  have apart : List.Forall₂ (fun label child => child.Apart (front ++ [label.toList])) labels
      module.children := by
    refine members.imp ?_
    rintro label child ⟨called, member, key, places, loaded'⟩
    obtain ⟨inner, trail⟩ := trails label called child key
    exact trail ▸ below child member places loaded' inner
  have once := known.nodup (labelled.distinct module module.mem_preorder_self)
  obtain ⟨distinct, started⟩ := Module.Apart.of_children once apart
  refine ⟨distinct, fun other member => ?_⟩
  obtain ⟨label, called, start⟩ := started other member
  exact ⟨label, known.subset called, start⟩

/-- The trails of a loaded tree below the root are distinct, and start with the one of the module at
its top. -/
theorem apart (loaded : site.IsLoaded ancestors module) (labelled : module.WellLabelled)
    (inner : module.isRoot = false) : module.Apart module.trail := by
  induction module using Module.inductionOn generalizing ancestors with
  | step module ih =>
      obtain ⟨distinct, started⟩ := loaded.trails_below labelled
        (fun label called child key => ⟨Module.isRoot_of_childKey inner key,
          Module.trail_of_childKey inner
            (labelled.undotted module module.mem_preorder_self label called) key⟩)
        (fun child member places loaded' => ih child member loaded' (labelled.child member))
      constructor
      · intro other member
        rw [Module.preorder_eq] at member
        rcases List.mem_cons.1 member with rfl | member
        · exact List.prefix_refl _
        · obtain ⟨label, -, start⟩ := started other member
          exact (List.prefix_append _ _).trans start
      · rw [Module.preorder_eq, List.map_cons]
        refine List.nodup_cons.2 ⟨fun again => ?_, distinct⟩
        obtain ⟨other, member, same⟩ := List.mem_map.1 again
        obtain ⟨label, -, start⟩ := started other member
        -- The trail of the module itself is too short to be one of those below it.
        have longer := start.length_le
        rw [same, List.length_append] at longer
        exact absurd longer (Nat.not_succ_le_self _)

/-- Below a module with a key all modules have keys. -/
theorem inner_of_inner (loaded : site.IsLoaded ancestors module) (inner : module.isRoot = false) :
    ∀ other ∈ module.preorder, other.isRoot = false := by
  induction module using Module.inductionOn generalizing ancestors with
  | step module ih =>
      intro other member
      rw [Module.preorder_eq] at member
      rcases List.mem_cons.1 member with rfl | member
      · exact inner
      · obtain ⟨child, inside, member⟩ := List.mem_flatMap.1 member
        obtain ⟨labels, -, each⟩ := loaded.exists_labels
        obtain ⟨label, -, key, places, loaded'⟩ := exists_of_forall₂ each inside
        exact ih child inside loaded' (Module.isRoot_of_childKey inner key) other member

/-- All modules below a root have keys, unless the root makes a call labelled with nothing. -/
theorem inner_below (loaded : site.IsLoaded ancestors module) (isRoot : module.isRoot = true)
    (labelled : "" ∉ module.callLabels) :
    ∀ other ∈ module.children.flatMap Module.preorder, other.isRoot = false := by
  intro other member
  obtain ⟨child, inside, member⟩ := List.mem_flatMap.1 member
  obtain ⟨labels, known, each⟩ := loaded.exists_labels
  obtain ⟨label, called, key, places, loaded'⟩ := exists_of_forall₂ each inside
  have inner : child.isRoot = false := by
    rw [Module.childKey, if_pos isRoot] at key
    rw [Module.isRoot, key, ← Bool.not_eq_true, String.isEmpty_iff]
    rintro rfl
    exact labelled (known.subset called)
  exact loaded'.inner_of_inner inner other member

end Site.IsLoaded

/-! ## Names -/

namespace Module

theorem displayName_of_isRoot {module : Module} (isRoot : module.isRoot = true) :
    module.displayName = "root" := if_pos isRoot

theorem displayName_of_inner {module : Module} (inner : module.isRoot = false) :
    module.displayName = module.key := if_neg (by simp [inner])

theorem isRoot_of_load {tree : FileTree} {options : LoadOptions} {dir : RawText} {root : Module}
    (loaded : load tree options dir = .ok root) : root.isRoot = true :=
  String.isEmpty_iff.2 (isLoaded_of_load loaded).1.key

/-- The root alone counts as the root, unless it makes a call labelled with nothing. -/
theorem load_root_alone {tree : FileTree} {options : LoadOptions} {dir : RawText} {root : Module}
    (loaded : load tree options dir = .ok root) (labelled : "" ∉ root.callLabels) :
    root.preorder.filter (·.isRoot) = [root] := by
  obtain ⟨-, manifest, place, -, -, isLoaded⟩ := isLoaded_of_load loaded
  have isRoot := isRoot_of_load loaded
  rw [preorder_eq, List.filter_cons_of_pos isRoot, List.filter_eq_nil_iff.2 fun module member => by
    simp [isLoaded.inner_below isRoot labelled module member]]

/-- Names tell the modules of a loaded tree apart, and the root alone counts as the root, where no
module has two calls of one label, no label holds a dot, and the root has no call labelled with
nothing or with the word that stands for the root. -/
theorem load_names_distinct {tree : FileTree} {options : LoadOptions} {dir : RawText}
    {root : Module} (loaded : load tree options dir = .ok root)
    (distinct : ∀ module ∈ root.preorder, module.callLabels.Nodup)
    (undotted : ∀ module ∈ root.preorder, ∀ label ∈ module.callLabels, '.' ∉ label.toList)
    (labelled : "" ∉ root.callLabels) (other : "root" ∉ root.callLabels) :
    root.preorder.filter (·.isRoot) = [root] ∧ (root.preorder.map displayName).Nodup := by
  refine ⟨load_root_alone loaded labelled, ?_⟩
  obtain ⟨-, manifest, place, -, -, isLoaded⟩ := isLoaded_of_load loaded
  have isRoot := isRoot_of_load loaded
  have inner := isLoaded.inner_below isRoot labelled
  have trails (label : String) (called : label ∈ root.callLabels) (child : Module)
      (key : child.key = root.childKey label) :
      child.isRoot = false ∧ child.trail = [] ++ [label.toList] := by
    refine ⟨?_, trail_of_childKey_of_isRoot isRoot
      (undotted root root.mem_preorder_self label called) key⟩
    rw [childKey, if_pos isRoot] at key
    rw [Module.isRoot, key, ← Bool.not_eq_true, String.isEmpty_iff]
    rintro rfl
    exact labelled called
  have wellLabelled : root.WellLabelled := ⟨distinct, undotted⟩
  obtain ⟨once, started⟩ := isLoaded.trails_below wellLabelled trails
    (fun child member places loaded' => loaded'.apart (wellLabelled.child member))
  -- A module below the root whose trail is a single label is a child under that label.
  have unlike (module : Module) (member : module ∈ root.children.flatMap preorder) (label : String)
      (uncalled : label ∉ root.callLabels) : module.trail ≠ [label.toList] := by
    intro same
    obtain ⟨first, called, start⟩ := started module member
    rw [same] at start
    exact uncalled (label_eq_of_starts start (List.prefix_refl ([] ++ [label.toList])) ▸ called)
  have keys : (root.children.flatMap preorder).map displayName =
      (root.children.flatMap preorder).map key :=
    List.map_congr_left fun module member => displayName_of_inner (inner module member)
  rw [preorder_eq, List.map_cons, displayName_of_isRoot isRoot, keys]
  refine List.nodup_cons.2 ⟨fun again => ?_, ?_⟩
  · obtain ⟨module, member, named⟩ := List.mem_map.1 again
    exact unlike module member "root" other (by rw [trail, named]; rfl)
  · refine List.Nodup.of_map (fun key => Text.splitAt '.' key.toList) ?_
    rw [List.map_map]
    exact once

/-- Two modules that call each other keep to all of this. -/
theorem load_names_distinct_mutualCalls :
    ∃ root, load .mutualCalls {} "." = .ok root ∧
      (∀ module ∈ root.preorder, module.callLabels.Nodup) ∧
      (∀ module ∈ root.preorder, ∀ label ∈ module.callLabels, '.' ∉ label.toList) ∧
      root.callLabels = ["app"] ∧
      root.preorder.filter (·.isRoot) = [root] ∧ (root.preorder.map displayName).Nodup := by
  have loads : (load .mutualCalls {} ".").toOption.map (fun root =>
      (decide (∀ module ∈ root.preorder, module.callLabels.Nodup),
        decide (∀ module ∈ root.preorder, ∀ label ∈ module.callLabels, '.' ∉ label.toList),
        root.callLabels)) = some (true, true, ["app"]) := by
    simp only [load, Site.loadChildren_eq]
    decide +kernel
  obtain ⟨root, loaded, seen⟩ := exists_ok_of_map_toOption loads
  simp only [Prod.mk.injEq, decide_eq_true_iff] at seen
  obtain ⟨distinct, undotted, labels⟩ := seen
  refine ⟨root, loaded, distinct, undotted, labels,
    load_names_distinct loaded distinct undotted ?_ ?_⟩
  · rw [labels]
    decide
  · rw [labels]
    decide

end Module

/-- A root that makes a call with a given label and a call `a`, which leads to a call `b`. -/
def FileTree.calling (label : String) : FileTree :=
  (((FileTree.empty.write "main.tf" (.text ("module \"" ++ label ++
    "\" \x7b\n  source = \"./app\"\n\x7d\nmodule \"a\" \x7b\n  source = \"./a\"\n\x7d\n"))).write
    "app/main.tf" (.text "")).write
    "a/main.tf" (.text "module \"b\" \x7b\n  source = \"./b\"\n\x7d\n")).write
    "a/b/main.tf" (.text "")

/-- Distinct labels beside each other are not enough: with no text as label the child counts as the
root too, a child can be labelled with the name of the root, and a label with a dot can be the name of
a module further down. -/
theorem Module.names_coincide :
    (∃ root, load (.calling "") {} "." = .ok root ∧
      (∀ module ∈ root.preorder, module.callLabels.Nodup) ∧
      root.preorder.map isRoot = [true, true, false, false]) ∧
    (∃ root, load (.calling "root") {} "." = .ok root ∧
      (∀ module ∈ root.preorder, module.callLabels.Nodup) ∧
      root.preorder.map displayName = ["root", "root", "a", "a.b"]) ∧
    ∃ root, load (.calling "a.b") {} "." = .ok root ∧
      (∀ module ∈ root.preorder, module.callLabels.Nodup) ∧
      root.preorder.map displayName = ["root", "a.b", "a", "a.b"] := by
  have unlabelled : (load (.calling "") {} ".").toOption.map (fun root =>
      (decide (∀ module ∈ root.preorder, module.callLabels.Nodup), root.preorder.map isRoot)) =
      some (true, [true, true, false, false]) := by
    simp only [load, Site.loadChildren_eq]
    decide +kernel
  have asRoot : (load (.calling "root") {} ".").toOption.map (fun root =>
      (decide (∀ module ∈ root.preorder, module.callLabels.Nodup), root.preorder.map displayName)) =
      some (true, ["root", "root", "a", "a.b"]) := by
    simp only [load, Site.loadChildren_eq]
    decide +kernel
  have dotted : (load (.calling "a.b") {} ".").toOption.map (fun root =>
      (decide (∀ module ∈ root.preorder, module.callLabels.Nodup), root.preorder.map displayName)) =
      some (true, ["root", "a.b", "a", "a.b"]) := by
    simp only [load, Site.loadChildren_eq]
    decide +kernel
  obtain ⟨first, loaded, seen⟩ := exists_ok_of_map_toOption unlabelled
  obtain ⟨second, loaded', seen'⟩ := exists_ok_of_map_toOption asRoot
  obtain ⟨third, loaded'', seen''⟩ := exists_ok_of_map_toOption dotted
  rw [Prod.mk.injEq, decide_eq_true_iff] at seen seen' seen''
  exact ⟨⟨first, loaded, seen⟩, ⟨second, loaded', seen'⟩, third, loaded'', seen''⟩

end InfraLint
