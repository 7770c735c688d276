import InfraLint.Module.Load
import Mathlib.Data.Finset.Card
import Mathlib.Data.List.Forall2

/-!
# Following module calls comes to an end

Calls lead from directory to directory, and nothing in the files keeps them from leading back.  What
stops the loader is that it does not enter a directory on the way from the root to the call.

`Site.visit` is the loader with an explicit stack of these directories, onto which a directory is
put before its calls are followed and from which it is taken afterwards, and with a bound on how
deep calls may nest; `none` says that the bound was met.  A bound above the number of directories is
never met, the stack is left as it was, and the outcome is that of `Site.loadChildren`
(`Site.visit_finishes`).

What the loader can do in one step is said by `Site.loadChildren_ok_iff`: each child comes from a
call whose directory is not on the way.  Going down a path of the tree, the directories are
therefore distinct (`Site.places_of_path`), and a path is no longer than there are directories.
-/

namespace InfraLint

/-! ## Results one after the other -/

@[simp] theorem ok_bind {ε α β : Type} (a : α) (next : α → Except ε β) :
    ((.ok a : Except ε α) >>= next) = next a := rfl

@[simp] theorem error_bind {ε α β : Type} (cause : ε) (next : α → Except ε β) :
    ((.error cause : Except ε α) >>= next) = .error cause := rfl

theorem bind_eq_ok_iff {ε α β : Type} {first : Except ε α} {next : α → Except ε β} {b : β} :
    (first >>= next) = .ok b ↔ ∃ a, first = .ok a ∧ next a = .ok b := by
  cases first with
  | error cause =>
      constructor
      · intro failed
        cases failed
      · rintro ⟨a, failed, -⟩
        cases failed
  | ok a =>
      constructor
      · intro done
        exact ⟨a, rfl, done⟩
      · rintro ⟨a', same, done⟩
        cases same
        exact done

theorem exists_ok_of_map_toOption {ε α β : Type} {result : Except ε α} {view : α → β} {b : β}
    (seen : result.toOption.map view = some b) : ∃ a, result = .ok a ∧ view a = b := by
  cases result with
  | error cause => cases seen
  | ok a => exact ⟨a, rfl, Option.some.inj seen⟩

theorem exists_of_forall₂ {α β : Type} {related : α → β → Prop} {items : List α}
    {others : List β} (each : List.Forall₂ related items others) {other : β}
    (member : other ∈ others) : ∃ item ∈ items, related item other := by
  induction each with
  | nil => cases member
  | cons first _ ih =>
      rcases List.mem_cons.1 member with rfl | later
      · exact ⟨_, List.mem_cons_self, first⟩
      · obtain ⟨item, there, both⟩ := ih later
        exact ⟨item, List.mem_cons_of_mem _ there, both⟩

/-! ## Directories -/

-- named once, so that tests for membership below share it
local instance Place.lawfulBEq : LawfulBEq Place := inferInstance

namespace FileTree

/-- The directories of a tree, each once. -/
def directorySet (tree : FileTree) : Finset Place :=
  (tree.directories.filter fun place => tree.entryAt? place = some .directory).toFinset

theorem mem_directories {tree : FileTree} {place : Place}
    (there : tree.entryAt? place = some .directory) : place ∈ tree.directories := by
  unfold entryAt? at there
  split at there
  · next root =>
    rw [List.isEmpty_iff.1 root]
    exact List.mem_cons_self
  · obtain ⟨before, after, split, -⟩ := List.lookup_eq_some_iff.1 there
    refine List.mem_cons_of_mem _ (List.mem_filterMap.2 ⟨(place, .directory), ?_, rfl⟩)
    rw [split]
    exact List.mem_append_right _ List.mem_cons_self

theorem mem_directorySet {tree : FileTree} {place : Place} :
    place ∈ tree.directorySet ↔ tree.entryAt? place = some .directory := by
  unfold directorySet
  rw [List.mem_toFinset, List.mem_filter, decide_eq_true_eq]
  exact ⟨And.right, fun there => ⟨mem_directories there, there⟩⟩

/-- Distinct directories are no more than there are. -/
theorem length_le_card {tree : FileTree} {places : List Place} (distinct : places.Nodup)
    (there : ∀ place ∈ places, tree.entryAt? place = some .directory) :
    places.length ≤ tree.directorySet.card := by
  rw [← List.toFinset_card_of_nodup distinct]
  refine Finset.card_le_card fun place member => ?_
  exact mem_directorySet.2 (there place (List.mem_toFinset.1 member))

end FileTree

namespace Site

variable {site : Site}

theorem isDirectory_of_callDir? {key source : String} {parentDir dir : RawText}
    (found : site.callDir? key source parentDir = some dir) :
    site.tree.isDirectory dir = true := by
  have kept : ∀ path, (if site.tree.isDirectory path then some path else none) = some dir →
      site.tree.isDirectory dir = true := by
    intro path taken
    split at taken
    · next there =>
      cases taken
      exact there
    · cases taken
  unfold callDir? at found
  split at found
  · exact kept _ found
  · split at found
    · exact kept _ found
    · cases found

/-- A call leads to a directory, which is the place of its path. -/
theorem place_of_call? {parent : Module} {block : Block} {call : Call}
    (found : site.call? parent block = some call) :
    site.tree.locate call.dir = some call.place ∧
      site.tree.entryAt? call.place = some .directory := by
  simp only [call?, Option.bind_eq_bind, Option.bind_eq_some_iff] at found
  obtain ⟨label, -, source, -, found⟩ := found
  split at found
  · cases found
  · simp only [Option.bind_eq_some_iff] at found
    obtain ⟨dir, known, place, located, made⟩ := found
    cases made
    have there := isDirectory_of_callDir? known
    rw [FileTree.isDirectory, FileTree.entry?, located, Option.bind_some, beq_iff_eq] at there
    exact ⟨located, there⟩

/-- A call is followed unless its directory is on the way: all directories there are remain but
those. -/
theorem mem_remaining_iff {parent : Module} {block : Block} {call : Call}
    (found : site.call? parent block = some call) {ancestors : List Place} :
    call.place ∈ site.remaining ancestors ↔ call.place ∉ ancestors := by
  have there := FileTree.mem_directories (place_of_call? found).2
  simp [remaining, there]

/-! ## One step down -/

/-- Goes through blocks of a module one after the other and follows the calls among them whose
directories are not on the way. -/
def loadBlocks (site : Site) (ancestors : List Place) (parent : Module) :
    List Block → Except LoadError (List Module)
  | [] => .ok []
  | block :: rest =>
    match site.call? parent block with
    | none => site.loadBlocks ancestors parent rest
    | some call =>
      if call.place ∈ ancestors then site.loadBlocks ancestors parent rest
      else do
        let child ← site.enter parent call
        let children ← site.loadChildren (call.place :: ancestors) child
        let others ← site.loadBlocks ancestors parent rest
        return { child with children := children } :: others

theorem loadChildren_eq (site : Site) (ancestors : List Place) (parent : Module) :
    site.loadChildren ancestors parent =
      site.loadBlocks ancestors parent (parent.blocksOf "module") := by
  rw [loadChildren, calls]
  induction parent.blocksOf "module" with
  | nil => rfl
  | cons block rest ih =>
      rw [loadBlocks]
      cases found : site.call? parent block with
      | none =>
          rw [List.filterMap_cons_none found]
          exact ih
      | some call =>
          simp only [List.filterMap_cons_some found, List.mapM_cons, mem_remaining_iff found, ← ih]
          by_cases known : call.place ∈ ancestors
          · simp only [known, not_true_eq_false, dite_false, if_true, pure_bind, bind_assoc,
              List.filterMap_cons, id_eq]
          · simp only [known, not_false_eq_true, dite_true, if_false, pure_bind, bind_assoc,
              List.filterMap_cons, id_eq]

/-- A module that a call makes, entered and with all modules below it. -/
def Yields (site : Site) (ancestors : List Place) (parent : Module) (call : Call)
    (child : Module) : Prop :=
  ∃ entered below, site.enter parent call = .ok entered ∧
    site.loadChildren (call.place :: ancestors) entered = .ok below ∧
    child = { entered with children := below }

theorem loadBlocks_ok_iff {ancestors : List Place} {parent : Module} {blocks : List Block}
    {children : List Module} :
    site.loadBlocks ancestors parent blocks = .ok children ↔
      List.Forall₂ (site.Yields ancestors parent)
        ((blocks.filterMap (site.call? parent)).filter (·.place ∉ ancestors)) children := by
  induction blocks generalizing children with
  | nil =>
      rw [List.filterMap_nil, List.filter_nil, List.forall₂_nil_left_iff]
      exact ⟨fun same => (Except.ok.inj same).symm, fun same => by rw [same]; rfl⟩
  | cons block rest ih =>
      rw [loadBlocks]
      cases found : site.call? parent block with
      | none =>
          rw [List.filterMap_cons_none found]
          exact ih
      | some call =>
          rw [List.filterMap_cons_some found, List.filter_cons]
          by_cases known : call.place ∈ ancestors
          · simp only [known, if_true, not_true_eq_false, decide_false, Bool.false_eq_true, if_false]
            exact ih
          · simp only [known, if_false, not_false_eq_true, decide_true, if_true, bind_eq_ok_iff]
            constructor
            · rintro ⟨entered, enters, below, loads, others, rests, same⟩
              cases same
              exact .cons ⟨entered, below, enters, loads, rfl⟩ (ih.1 rests)
            · intro each
              cases each with
              | cons first others =>
                  obtain ⟨entered, below, enters, loads, rfl⟩ := first
                  exact ⟨entered, enters, below, loads, _, ih.2 others, rfl⟩

/-- What the loader can do in one step: each child comes from a call whose directory is not on the
way, in the order of the calls. -/
theorem loadChildren_ok_iff {ancestors : List Place} {parent : Module} {children : List Module} :
    site.loadChildren ancestors parent = .ok children ↔
      List.Forall₂ (site.Yields ancestors parent)
        ((site.calls parent).filter (·.place ∉ ancestors)) children := by
  rw [loadChildren_eq, loadBlocks_ok_iff, calls]

/-! ## The way as a stack -/

/-- The directories that are not on the way. -/
def unvisited (site : Site) (stack : List Place) : Finset Place :=
  site.tree.directorySet.filter (· ∉ stack)

/-- A step down to a directory that is not on the way leaves fewer of them. -/
theorem card_unvisited_lt {place : Place} {stack : List Place}
    (there : site.tree.entryAt? place = some .directory) (fresh : place ∉ stack) :
    (site.unvisited (place :: stack)).card < (site.unvisited stack).card := by
  have taken : site.unvisited (place :: stack) = (site.unvisited stack).erase place := by
    ext other
    simp only [unvisited, Finset.mem_filter, Finset.mem_erase, List.mem_cons, not_or]
    exact and_left_comm
  rw [taken]
  refine Finset.card_erase_lt_of_mem (Finset.mem_filter.2 ⟨?_, fresh⟩)
  exact FileTree.mem_directorySet.2 there

/-- Modules that were loaded, or why they could not be, and the stack that is left. -/
abbrev Visit := Except LoadError (List Module) × List Place

/-- Goes through blocks of a module with a stack of the directories on the way.  The directory of a
call is put on the stack, `below` follows the calls in it, and what is on top is taken off. -/
def visitBlocks (site : Site) (below : Module → List Place → Option Visit) (parent : Module) :
    List Block → List Place → Option Visit
  | [], stack => some (.ok [], stack)
  | block :: rest, stack =>
    match site.call? parent block with
    | none => site.visitBlocks below parent rest stack
    | some call =>
      if call.place ∈ stack then site.visitBlocks below parent rest stack
      else
        match site.enter parent call with
        | .error cause => some (.error cause, stack)
        | .ok child =>
          match below child (call.place :: stack) with
          | none => none
          | some (.error cause, left) => some (.error cause, left)
          | some (.ok children, left) =>
            match site.visitBlocks below parent rest left.tail with
            | none => none
            | some (.error cause, last) => some (.error cause, last)
            | some (.ok others, last) =>
              some (.ok ({ child with children := children } :: others), last)

/-- Follows the calls of a module, nested less than `bound` deep; `none` if they nest deeper. -/
def visit (site : Site) : Nat → Module → List Place → Option Visit
  | 0, _, _ => none
  | bound + 1, parent, stack =>
    site.visitBlocks (site.visit bound) parent (parent.blocksOf "module") stack

/-- A visit ends with a result, and leaves the stack as it was if it has loaded all modules. -/
def Finishes (visited : Option Visit) (result : Except LoadError (List Module))
    (stack : List Place) : Prop :=
  ∃ left, visited = some (result, left) ∧ ∀ children, result = .ok children → left = stack

theorem visitBlocks_finishes {below : Module → List Place → Option Visit} {stack : List Place}
    (each : ∀ place child, site.tree.entryAt? place = some .directory → place ∉ stack →
      Finishes (below child (place :: stack)) (site.loadChildren (place :: stack) child)
        (place :: stack)) (parent : Module) (blocks : List Block) :
    Finishes (site.visitBlocks below parent blocks stack) (site.loadBlocks stack parent blocks)
      stack := by
  induction blocks with
  | nil => exact ⟨stack, rfl, fun _ _ => rfl⟩
  | cons block rest ih =>
      rw [visitBlocks, loadBlocks]
      cases found : site.call? parent block with
      | none => exact ih
      | some call =>
          by_cases known : call.place ∈ stack
          · simp only [known, if_true]
            exact ih
          · simp only [known, if_false]
            cases site.enter parent call with
            | error cause => exact ⟨stack, rfl, fun children failed => by cases failed⟩
            | ok child =>
                obtain ⟨left, visited, kept⟩ := each call.place child (place_of_call? found).2 known
                simp only [visited, ok_bind]
                cases loaded : site.loadChildren (call.place :: stack) child with
                | error cause => exact ⟨left, rfl, fun children failed => by cases failed⟩
                | ok children =>
                    -- The stack is as it was before the call, so the rest of the blocks see it so.
                    obtain ⟨last, rests, restored⟩ := ih
                    simp only [kept children loaded, List.tail_cons, rests, ok_bind]
                    cases others : site.loadBlocks stack parent rest with
                    | error cause => exact ⟨last, rfl, fun children failed => by cases failed⟩
                    | ok siblings => exact ⟨last, rfl, fun _ _ => restored siblings others⟩

/-- A bound above the number of directories that are not on the way is never met. -/
theorem visit_finishes {bound : Nat} {stack : List Place}
    (enough : (site.unvisited stack).card < bound) (parent : Module) :
    Finishes (site.visit bound parent stack) (site.loadChildren stack parent) stack := by
  induction bound generalizing stack parent with
  | zero => exact absurd enough (Nat.not_lt_zero _)
  | succ bound ih =>
      rw [visit, loadChildren_eq]
      refine visitBlocks_finishes (fun place child there fresh => ih ?_ child) parent _
      exact Nat.lt_of_lt_of_le (card_unvisited_lt there fresh) (Nat.le_of_lt_succ enough)

end Site

/-! ## Paths -/

namespace Module

/-- What holds of a module whenever it holds of its children, holds of every module. -/
theorem inductionOn {motive : Module → Prop}
    (step : ∀ module, (∀ child ∈ module.children, motive child) → motive module)
    (module : Module) : motive module :=
  step module fun child _ => inductionOn step child
termination_by sizeOf module
decreasing_by
  have smaller := List.sizeOf_lt_of_mem ‹child ∈ module.children›
  cases module
  simp only [mk.sizeOf_spec] at *
  omega

/-- A way down a tree of modules, from its root on. -/
inductive IsPath : Module → List Module → Prop where
  | here (module : Module) : IsPath module [module]
  | down {module child : Module} {path : List Module} :
      child ∈ module.children → IsPath child path → IsPath module (module :: path)

mutual

/-- The number of modules on the longest way down a tree. -/
def depth : Module → Nat
  | ⟨_, _, _, _, _, children⟩ => depthAll children + 1

/-- The number of modules on the longest way down one of several trees. -/
def depthAll : List Module → Nat
  | [] => 0
  | module :: rest => max (depth module) (depthAll rest)

end

mutual

/-- Some way down a tree is as long as the tree is deep. -/
theorem exists_path_length : ∀ module : Module,
    ∃ path, module.IsPath path ∧ path.length = module.depth
  | ⟨key, source, dir, files, scope, children⟩ => by
      rcases exists_path_length_all children with ⟨child, member, path, isPath, long⟩ | flat
      · refine ⟨_, .down member isPath, ?_⟩
        rw [List.length_cons, long, depth]
      · refine ⟨_, .here _, ?_⟩
        rw [List.length_singleton, depth, flat]

theorem exists_path_length_all : ∀ modules : List Module,
    (∃ child ∈ modules, ∃ path, IsPath child path ∧ path.length = depthAll modules) ∨
      depthAll modules = 0
  | [] => .inr rfl
  | module :: rest => by
      obtain ⟨path, isPath, long⟩ := exists_path_length module
      rcases Nat.le_total (depthAll rest) module.depth with less | more
      · refine .inl ⟨module, List.mem_cons_self, path, isPath, ?_⟩
        rw [long, depthAll, Nat.max_eq_left less]
      · rcases exists_path_length_all rest with ⟨child, member, path, isPath, long⟩ | flat
        · refine .inl ⟨child, List.mem_cons_of_mem _ member, path, isPath, ?_⟩
          rw [long, depthAll, Nat.max_eq_right more]
        · refine .inr ?_
          rw [depthAll, Nat.max_eq_right more, flat]

end

end Module

namespace Site

variable {site : Site}

theorem dir_of_enter {parent child : Module} {call : Call}
    (entered : site.enter parent call = .ok child) : child.dir = call.dir := by
  obtain ⟨files, -, made⟩ := bind_eq_ok_iff.1 entered
  cases made
  rfl

/-- A directory, given by a path that leads to it. -/
def IsPlace (site : Site) (module : Module) (place : Place) : Prop :=
  site.tree.locate module.dir = some place ∧ site.tree.entryAt? place = some .directory

/-- Down a way from a module, the places are new ones, and no two are the same. -/
theorem places_of_path {module parent : Module} {path : List Module}
    (isPath : module.IsPath path) {ancestors : List Place} {children : List Module}
    (loaded : site.loadChildren ancestors parent = .ok children)
    (same : module = { parent with children := children }) {place : Place}
    (here : site.IsPlace parent place) :
    ∃ places, List.Forall₂ site.IsPlace path (place :: places) ∧ places.Nodup ∧
      ∀ other ∈ places, other ∉ ancestors := by
  induction isPath generalizing parent ancestors children place with
  | here module =>
      subst same
      exact ⟨[], .cons here .nil, List.nodup_nil, fun other member => by cases member⟩
  | @down module child path member _ ih =>
      subst same
      -- The child comes from a call, and is itself a module whose calls were followed.
      obtain ⟨call, followed, entered, below, enters, loads, made⟩ :=
        exists_of_forall₂ (loadChildren_ok_iff.1 loaded) member
      obtain ⟨called, fresh⟩ := List.mem_filter.1 followed
      obtain ⟨block, -, found⟩ := List.mem_filterMap.1 called
      have there : site.IsPlace entered call.place := by
        rw [IsPlace, dir_of_enter enters]
        exact place_of_call? found
      obtain ⟨places, each, distinct, new⟩ := ih loads made there
      refine ⟨call.place :: places, .cons here each, List.nodup_cons.2 ⟨?_, distinct⟩, ?_⟩
      · intro again
        exact new call.place again List.mem_cons_self
      · intro other member
        rcases List.mem_cons.1 member with rfl | later
        · exact of_decide_eq_true fresh
        · exact fun known => new other later (List.mem_cons_of_mem _ known)

end Site

/-! ## Loading a tree -/

/-- What is opened as the root is the directory that was asked for. -/
theorem Module.isPlace_of_openRoot {tree : FileTree} {options : LoadOptions} {dir : RawText}
    {site : Site} {place : Place} {root : Module}
    (opened : Module.openRoot tree options dir = .ok (site, place, root)) :
    site.tree = tree ∧ site.IsPlace root place := by
  unfold Module.openRoot at opened
  split at opened
  · cases opened
  · next found located =>
    split at opened
    · next there =>
      obtain ⟨manifest, -, opened⟩ := bind_eq_ok_iff.1 opened
      obtain ⟨files, -, opened⟩ := bind_eq_ok_iff.1 opened
      obtain ⟨variableFiles, -, opened⟩ := bind_eq_ok_iff.1 opened
      obtain ⟨settings, -, made⟩ := bind_eq_ok_iff.1 opened
      cases made
      exact ⟨rfl, located, there⟩
    · cases opened

/-- The loader with an explicit stack and a bound on how deep calls may nest. -/
def Module.loadWithin (bound : Nat) (tree : FileTree) (options : LoadOptions) (dir : RawText) :
    Option (Except LoadError Module) :=
  match Module.openRoot tree options dir with
  | .error cause => some (.error cause)
  | .ok (site, place, root) =>
    match site.visit bound root [place] with
    | none => none
    | some (.error cause, _) => some (.error cause)
    | some (.ok children, _) => some (.ok { root with children := children })

namespace Module

/-- A bound of the number of directories is never met. -/
theorem loadWithin_eq {bound : Nat} {tree : FileTree} (enough : tree.directorySet.card ≤ bound)
    (options : LoadOptions) (dir : RawText) :
    loadWithin bound tree options dir = some (load tree options dir) := by
  unfold loadWithin load
  cases opened : openRoot tree options dir with
  | error cause => rfl
  | ok start =>
      obtain ⟨site, place, root⟩ := start
      obtain ⟨rfl, -, there⟩ := isPlace_of_openRoot opened
      have fewer : (site.unvisited [place]).card < bound := by
        have whole : site.unvisited [] = site.tree.directorySet := by simp [Site.unvisited]
        have less := Site.card_unvisited_lt there (List.not_mem_nil (a := place))
        rw [whole] at less
        exact Nat.lt_of_lt_of_le less enough
      obtain ⟨left, visited, -⟩ := Site.visit_finishes fewer root
      simp only [visited, ok_bind]
      cases site.loadChildren [place] root with
      | error cause => rfl
      | ok children => rfl

/-- The places on a way down a loaded tree. -/
theorem places_of_load {tree : FileTree} {options : LoadOptions} {dir : RawText} {root : Module}
    (loaded : load tree options dir = .ok root) {path : List Module} (isPath : root.IsPath path) :
    ∃ places : List Place, places.Nodup ∧
      List.Forall₂ (fun module place => tree.locate module.dir = some place ∧
        place ∈ tree.directorySet) path places := by
  obtain ⟨⟨site, place, bare⟩, opened, loaded⟩ := bind_eq_ok_iff.1 loaded
  obtain ⟨children, loads, made⟩ := bind_eq_ok_iff.1 loaded
  obtain ⟨rfl, here⟩ := isPlace_of_openRoot opened
  cases made
  obtain ⟨places, each, distinct, new⟩ := Site.places_of_path isPath loads rfl here
  refine ⟨place :: places, List.nodup_cons.2 ⟨?_, distinct⟩, each.imp ?_⟩
  · intro again
    exact new place again (List.mem_singleton.2 rfl)
  · rintro module other ⟨located, there⟩
    exact ⟨located, FileTree.mem_directorySet.2 there⟩

end Module

/-! ## Locals -/

namespace Scope

theorem length_localsPass_le (scope : Scope) (pending : List Local) :
    (localsPass scope pending).2.length ≤ pending.length := by
  induction pending generalizing scope with
  | nil => exact Nat.le_refl _
  | cons declared rest ih =>
      obtain ⟨name, e⟩ := declared
      rw [localsPass]
      cases scope.evaluate e with
      | ok value => exact Nat.le_succ_of_le (ih _)
      | error cause => exact Nat.succ_le_succ (ih scope)

/-- The passes over the locals end by themselves: more passes than there are locals change
nothing. -/
theorem localsPasses_eq {bound other : Nat} {scope : Scope} {pending : List Local}
    (enough : pending.length < bound) (more : pending.length < other) :
    localsPasses bound scope pending = localsPasses other scope pending := by
  induction bound generalizing other scope pending with
  | zero => exact absurd enough (Nat.not_lt_zero _)
  | succ bound ih =>
      cases other with
      | zero => exact absurd more (Nat.not_lt_zero _)
      | succ other =>
          simp only [localsPasses]
          split
          · rfl
          · next going =>
            have fewer := length_localsPass_le scope pending
            have changed : (localsPass scope pending).2.length ≠ pending.length := by
              intro same
              simp [same] at going
            exact ih (by omega) (by omega)

end Scope

/-- Loading a tree comes to an end, whatever calls the files make: calls never nest as deep as there
are directories, and the passes over the locals of a module are no more than there are locals.  On
every way down the tree that is loaded, each module is in a directory of its own, so the tree is no
deeper than there are directories. -/
theorem Module.load_ends_on_distinct_places (tree : FileTree) (options : LoadOptions)
    (dir : RawText) :
    (∀ bound, tree.directorySet.card ≤ bound →
      loadWithin bound tree options dir = some (load tree options dir)) ∧
    (∀ inputs files bound, (Scope.declaredLocals files).length < bound →
      Scope.localsPasses bound ⟨inputs, []⟩ (Scope.declaredLocals files) =
        Scope.ofInputs inputs files) ∧
    ∀ root, load tree options dir = .ok root →
      (∀ path, root.IsPath path →
        ∃ places : List Place, places.Nodup ∧
          List.Forall₂ (fun module place => tree.locate module.dir = some place ∧
            place ∈ tree.directorySet) path places) ∧
      root.depth ≤ tree.directorySet.card := by
  refine ⟨fun bound enough => loadWithin_eq enough options dir, ?_, ?_⟩
  · intro inputs files bound enough
    exact Scope.localsPasses_eq enough (Nat.lt_succ_self _)
  · intro root loaded
    refine ⟨fun path isPath => places_of_load loaded isPath, ?_⟩
    obtain ⟨path, isPath, long⟩ := root.exists_path_length
    obtain ⟨places, distinct, each⟩ := places_of_load loaded isPath
    rw [← long, each.length_eq]
    refine FileTree.length_le_card distinct fun place member => ?_
    obtain ⟨module, -, -, there⟩ := exists_of_forall₂ each member
    exact FileTree.mem_directorySet.1 there

/-- Two directories whose modules call each other. -/
def FileTree.mutualCalls : FileTree :=
  (FileTree.empty.write "main.tf" (.text "module \"app\" \x7b\n  source = \"./app\"\n\x7d\n")).write
    "app/main.tf" (.text "module \"up\" \x7b\n  source = \"../\"\n\x7d\n")

/-- The second module is loaded, and its call back to the first one is not followed. -/
theorem Module.load_ends_on_distinct_places_mutualCalls :
    FileTree.mutualCalls.directorySet.card = 2 ∧
      ∃ root, load .mutualCalls {} "." = .ok root ∧ root.count = 2 ∧ root.depth ≤ 2 := by
  have two : FileTree.mutualCalls.directorySet.card = 2 := by decide +kernel
  have loads : ((load .mutualCalls {} ".").map (·.count)).toOption = some 2 := by
    simp only [load, Site.loadChildren_eq]
    decide +kernel
  cases loaded : load .mutualCalls {} "." with
  | error cause =>
      rw [loaded] at loads
      cases loads
  | ok root =>
      rw [loaded] at loads
      obtain ⟨-, deep⟩ := (load_ends_on_distinct_places .mutualCalls {} ".").2.2 root loaded
      rw [two] at deep
      exact ⟨two, root, rfl, Option.some.inj loads, deep⟩

end InfraLint
