import InfraLint.Proofs.Bindings
import InfraLint.Proofs.Loading

/-!
# Which calls are followed, and what they bind

A `module` block makes a child if it is labelled, its source is a plain string that is not ignored,
its directory is known and exists (`Site.Leads`), and that directory is none of those on the way from
the root (`Site.Follows`).  The children of a module are paired with these blocks, in their order
(`Site.children_of_isLoaded`), at every place of a loaded tree (`Site.isLoaded_of_path`).

A child sees the arguments of its call as they are evaluated in the module that makes the call, and
its own defaults where the call passes nothing (`Site.Makes`).  The variables of the root come from
its defaults and the variable files.
-/

namespace InfraLint

/-! ## Files that have been read -/

theorem mapM_ok_iff {ε α β : Type} {f : α → Except ε β} {items : List α} {results : List β} :
    items.mapM f = .ok results ↔ List.Forall₂ (fun item result => f item = .ok result) items
      results := by
  induction items generalizing results with
  | nil =>
      rw [List.mapM_nil, List.forall₂_nil_left_iff]
      exact ⟨fun same => (Except.ok.inj same).symm, fun same => by rw [same]; rfl⟩
  | cons item rest ih =>
      rw [List.mapM_cons, bind_eq_ok_iff]
      constructor
      · rintro ⟨result, first, others⟩
        obtain ⟨tail, rests, same⟩ := bind_eq_ok_iff.1 others
        cases same
        exact .cons first (ih.1 rests)
      · intro each
        cases each with
        | cons first others =>
            exact ⟨_, first, bind_eq_ok_iff.2 ⟨_, ih.2 others, rfl⟩⟩

namespace FileTree

variable {tree : FileTree}

theorem namesOnce_of_readConfig {path : RawText} {file : ConfigFile}
    (read : tree.readConfig path = .ok file) : ∀ block ∈ file.blocks, block.NamesOnce := by
  rw [readConfig] at read
  split at read
  · cases read
  · split at read
    · cases read
    · next parsed =>
      cases read
      exact ConfigFile.namesOnce_of_parse? parsed

theorem namesOnce_of_readDir {dir : RawText} {files : List ConfigFile}
    (read : tree.readDir dir = .ok files) :
    ∀ file ∈ files, ∀ block ∈ file.blocks, block.NamesOnce := by
  intro file member
  obtain ⟨name, -, parsed⟩ := exists_of_forall₂ (mapM_ok_iff.1 read) member
  exact namesOnce_of_readConfig parsed

theorem isDirectory_iff {path : RawText} :
    tree.isDirectory path = true ↔
      ∃ place, tree.locate path = some place ∧ tree.entryAt? place = some .directory := by
  rw [isDirectory, beq_iff_eq, entry?, Option.bind_eq_some_iff]

end FileTree

/-! ## Calls that lead somewhere -/

/-- The path of the directory that a call names: the entry of the manifest for its key, or else a
source that starts with `./` or `../`, from the directory of the module that makes the call. -/
inductive CallPath (manifest : List (String × RawText)) (key source : String) (parentDir : RawText) :
    RawText → Prop where
  | listed {path : RawText} : manifest.lookup key = some path →
      CallPath manifest key source parentDir path
  | relative : manifest.lookup key = none →
      Text.hasLead "./" source = true ∨ Text.hasLead "../" source = true →
      CallPath manifest key source parentDir (PathText.join parentDir source)

theorem literalSource?_eq_some_iff {block : Block} {source : String} :
    literalSource? block = some source ↔ ∃ attr, block.attribute? "source" = some attr ∧
      attr.token.expression? = some (.string source) := by
  rw [literalSource?, Option.bind_eq_bind, Option.bind_eq_some_iff]
  refine exists_congr fun attr => and_congr_right fun _ => ?_
  constructor
  · intro found
    split at found
    · next written =>
      cases found
      exact written
    · cases found
  · intro written
    rw [written]

namespace Site

variable {site : Site}

theorem callDir?_eq_some_iff {key source : String} {parentDir path : RawText} :
    site.callDir? key source parentDir = some path ↔
      CallPath site.manifest key source parentDir path ∧ site.tree.isDirectory path = true := by
  have kept (dir : RawText) : (if site.tree.isDirectory dir then some dir else none) = some path ↔
      dir = path ∧ site.tree.isDirectory path = true := by
    rw [Option.ite_none_right_eq_some, Option.some_inj, and_comm]
    exact and_congr_right fun same => by rw [same]
  unfold callDir?
  cases listed : site.manifest.lookup key with
  | some dir =>
      refine (kept dir).trans (and_congr_left fun _ => ⟨fun same => ?_, fun named => ?_⟩)
      · rw [← same]
        exact .listed listed
      · cases named with
        | listed listed' => exact Option.some.inj (listed.symm.trans listed')
        | relative absent _ => rw [listed] at absent; cases absent
  | none =>
      by_cases lead : (Text.hasLead "./" source || Text.hasLead "../" source) = true
      · simp only [lead, if_true]
        refine (kept _).trans (and_congr_left fun _ => ⟨fun same => ?_, fun named => ?_⟩)
        · rw [← same]
          exact .relative listed (Bool.or_eq_true_iff.1 lead)
        · cases named with
          | listed listed' => rw [listed] at listed'; cases listed'
          | relative _ _ => rfl
      · simp only [lead, if_false, Bool.false_eq_true]
        refine iff_of_false (fun found => by cases found) fun found => ?_
        cases found.1 with
        | listed listed' => rw [listed] at listed'; cases listed'
        | relative _ lead' => exact lead (Bool.or_eq_true_iff.2 lead')

/-- A call of a module leads to a directory: it has a label, its source is a plain string that is
not ignored, and the path that it names is one of a directory. -/
structure Leads (site : Site) (parent : Module) (call : Call) : Prop where
  labelled : ∃ label, call.block.labels[0]? = some label ∧ call.key = parent.childKey label
  literal : ∃ attr, call.block.attribute? "source" = some attr ∧
    attr.token.expression? = some (.string call.source)
  wanted : call.source ∉ site.ignoredSources
  named : CallPath site.manifest call.key call.source parent.dir call.dir
  located : site.tree.locate call.dir = some call.place
  directory : site.tree.entryAt? call.place = some .directory

theorem call?_eq_some_iff {parent : Module} {block : Block} {call : Call} :
    site.call? parent block = some call ↔ call.block = block ∧ site.Leads parent call := by
  constructor
  · intro found
    obtain ⟨located, directory⟩ := place_of_call? found
    simp only [call?, Option.bind_eq_bind, Option.bind_eq_some_iff] at found
    obtain ⟨label, labelled, source, written, found⟩ := found
    split at found
    · cases found
    · next wanted =>
      simp only [Option.bind_eq_some_iff] at found
      obtain ⟨dir, known, place, -, made⟩ := found
      cases made
      have literal := literalSource?_eq_some_iff.1 written
      have named := (callDir?_eq_some_iff.1 known).1
      exact ⟨rfl, ⟨label, labelled, rfl⟩, literal, by simpa using wanted, named, located, directory⟩
  · obtain ⟨key, source, dir, place, block'⟩ := call
    rintro ⟨rfl, ⟨label, labelled, rfl⟩, literal, wanted, named, located, directory⟩
    have written := literalSource?_eq_some_iff.2 literal
    have known := callDir?_eq_some_iff.2
      ⟨named, FileTree.isDirectory_iff.2 ⟨place, located, directory⟩⟩
    have unignored : site.ignoredSources.contains source = false := by simpa using wanted
    simp only [call?, Option.bind_eq_bind, labelled, written, unignored, known, located,
      Option.bind_some, Bool.false_eq_true, if_false]
    rfl

/-- A call of a module that is followed: it leads to a directory that is none of those of the
modules on the way from the root, its own one included. -/
def Follows (site : Site) (way : List Module) (parent : Module) (call : Call) : Prop :=
  site.Leads parent call ∧ ∀ above ∈ way, site.tree.locate above.dir ≠ some call.place

/-- A block of a module is a call that is followed. -/
def IsFollowed (site : Site) (way : List Module) (parent : Module) (block : Block) : Prop :=
  ∃ call, call.block = block ∧ site.Follows way parent call

/-! ## Loaded modules -/

/-- A module has been loaded, given the places on the way from the root to it: its files have been
read, and its calls have been followed. -/
structure IsLoaded (site : Site) (ancestors : List Place) (module : Module) : Prop where
  files : site.tree.readDir module.dir = .ok module.files
  children : site.loadChildren ancestors module = .ok module.children

/-- What the calls of a module lead to does not depend on the children that it has already. -/
theorem loadChildren_children (ancestors : List Place) (parent : Module)
    (children : List Module) :
    site.loadChildren ancestors { parent with children := children } =
      site.loadChildren ancestors parent := by
  rw [loadChildren, loadChildren]
  rfl

/-- One step down: the calls of a module have been followed exactly if each child is what its call
has entered and has been loaded itself. -/
theorem loadChildren_eq_children_iff {ancestors : List Place} {module : Module} :
    site.loadChildren ancestors module = .ok module.children ↔
      List.Forall₂ (fun call child => site.enter module call = .ok { child with children := [] } ∧
          site.IsLoaded (call.place :: ancestors) child)
        ((site.calls module).filter (·.place ∉ ancestors)) module.children := by
  rw [loadChildren_ok_iff]
  constructor
  · refine fun each => each.imp ?_
    rintro call child ⟨entered, below, enters, loads, rfl⟩
    obtain ⟨files, read, made⟩ := bind_eq_ok_iff.1 enters
    cases made
    exact ⟨enters, read, by rwa [loadChildren_children]⟩
  · refine fun each => each.imp ?_
    rintro call ⟨key, source, dir, files, scope, children⟩ ⟨enters, loaded⟩
    exact ⟨_, children, enters, by rw [loadChildren_children, loaded.children], rfl⟩

theorem IsLoaded.namesOnce {ancestors : List Place} {module : Module}
    (loaded : site.IsLoaded ancestors module) (kind : String) :
    ∀ block ∈ module.blocksOf kind, block.NamesOnce := by
  intro block member
  obtain ⟨file, there, member⟩ := List.mem_flatMap.1 member
  exact FileTree.namesOnce_of_readDir loaded.files file there block (List.mem_filter.1 member).1

/-- Places are those of the modules on a way. -/
def ArePlaces (site : Site) (places : List Place) (way : List Module) : Prop :=
  ∀ place, place ∈ places ↔ ∃ above ∈ way, site.tree.locate above.dir = some place

theorem ArePlaces.cons {places : List Place} {way : List Module}
    (are : site.ArePlaces places way) {place : Place} {module : Module}
    (located : site.tree.locate module.dir = some place) :
    site.ArePlaces (place :: places) (way ++ [module]) := by
  intro other
  rw [List.mem_cons, are other]
  constructor
  · rintro (rfl | ⟨above, member, there⟩)
    · exact ⟨module, List.mem_append_right _ List.mem_cons_self, located⟩
    · exact ⟨above, List.mem_append_left _ member, there⟩
  · rintro ⟨above, member, there⟩
    rcases List.mem_append.1 member with member | member
    · exact .inr ⟨above, member, there⟩
    · rw [List.mem_singleton.1 member, located] at there
      exact .inl (Option.some.inj there).symm

/-- Every way down a loaded tree ends at a module that has been loaded, given the places of the
modules on the way. -/
theorem isLoaded_of_path {module last : Module} {path : List Module} (isPath : module.IsPath path)
    (ends : path.getLast? = some last) {before : List Module} {ancestors : List Place}
    (loaded : site.IsLoaded ancestors module)
    (are : site.ArePlaces ancestors (before ++ [module])) :
    ∃ places, site.IsLoaded places last ∧ site.ArePlaces places (before ++ path) := by
  induction isPath generalizing before ancestors with
  | here module =>
      cases ends
      exact ⟨ancestors, loaded, are⟩
  | @down module child path member below ih =>
      obtain ⟨call, followed, enters, loaded'⟩ :=
        exists_of_forall₂ (loadChildren_eq_children_iff.1 loaded.children) member
      obtain ⟨called, -⟩ := List.mem_filter.1 followed
      obtain ⟨block, -, found⟩ := List.mem_filterMap.1 called
      have located : site.tree.locate child.dir = some call.place := by
        rw [← (place_of_call? found).1, ← dir_of_enter enters]
      have further : path.getLast? = some last := by
        cases below with
        | here => exact ends
        | down => exact ends
      obtain ⟨places, done, along⟩ := ih further loaded' (are.cons located)
      rw [List.append_assoc] at along
      exact ⟨places, done, along⟩

/-! ## What a call makes -/

/-- The module that a call makes.  A variable has the value that the call passes, evaluated in the
module that makes the call, or else the last default that can be evaluated, or else none. -/
structure Makes (site : Site) (parent : Module) (call : Call) (child : Module) : Prop where
  key : child.key = call.key
  source : child.source = some call.source
  dir : child.dir = call.dir
  files : site.tree.readDir call.dir = .ok child.files
  scope : child.scope = Scope.ofInputs child.scope.inputs child.files
  inputs : ∀ name, ∃ default, Scope.empty.LastValue (Scope.defaults child.files) name default ∧
    child.scope.inputs.lookup name = (parent.scope.argument? call.block name).or default

theorem key_of_enter {parent child : Module} {call : Call}
    (enters : site.enter parent call = .ok child) :
    child.key = call.key ∧ child.source = some call.source := by
  obtain ⟨files, -, made⟩ := bind_eq_ok_iff.1 enters
  cases made
  exact ⟨rfl, rfl⟩

theorem makes_of_enter {parent child : Module} {call : Call} (once : call.block.NamesOnce)
    (enters : site.enter parent call = .ok { child with children := [] }) :
    site.Makes parent call child := by
  obtain ⟨files, read, made⟩ := bind_eq_ok_iff.1 enters
  obtain ⟨key, source, dir, files', scope, children⟩ := child
  simp only [pure, Except.pure, Except.ok.injEq, Module.mk.injEq] at made
  obtain ⟨rfl, rfl, rfl, rfl, rfl, -⟩ := made
  refine ⟨rfl, rfl, rfl, read, by rw [Scope.inputs_ofInputs], fun name => ?_⟩
  refine ⟨_, Scope.lookup_variableDefaults files name, ?_⟩
  rw [Scope.inputs_ofInputs, Scope.lookup_bindAll, Scope.lookup_callArguments _ once]

open Classical in
/-- The children of a loaded module are what the followed calls among its blocks make, in the order
of the blocks. -/
theorem children_of_isLoaded {places : List Place} {way : List Module} {module : Module}
    (loaded : site.IsLoaded places module) (are : site.ArePlaces places way) :
    List.Forall₂ (fun block child => ∃ call, call.block = block ∧ site.Follows way module call ∧
        site.Makes module call child)
      ((module.blocksOf "module").filter (site.IsFollowed way module)) module.children := by
  have once := loaded.namesOnce "module"
  have each := loadChildren_eq_children_iff.1 loaded.children
  rw [calls] at each
  generalize module.blocksOf "module" = blocks at once each
  generalize module.children = children at each
  have onWay (place : Place) :
      place ∉ places ↔ ∀ above ∈ way, site.tree.locate above.dir ≠ some place := by
    rw [are place]
    constructor
    · intro fresh above member there
      exact fresh ⟨above, member, there⟩
    · rintro fresh ⟨above, member, there⟩
      exact fresh above member there
  induction blocks generalizing children with
  | nil =>
      cases each
      exact .nil
  | cons block rest ih =>
      have later := fun other member => once other (List.mem_cons_of_mem _ member)
      cases found : site.call? module block with
      | none =>
          have idle : ¬ site.IsFollowed way module block := by
            rintro ⟨call, made, leads, -⟩
            rw [call?_eq_some_iff.2 ⟨made, leads⟩] at found
            cases found
          rw [List.filter_cons_of_neg (by simpa using idle)]
          rw [List.filterMap_cons_none found] at each
          exact ih later children each
      | some call =>
          obtain ⟨made, leads⟩ := call?_eq_some_iff.1 found
          rw [List.filterMap_cons_some found, List.filter_cons] at each
          by_cases known : call.place ∈ places
          · have idle : ¬ site.IsFollowed way module block := by
              rintro ⟨other, made', leads', fresh⟩
              rw [call?_eq_some_iff.2 ⟨made', leads'⟩] at found
              cases found
              exact (onWay _).2 fresh known
            rw [List.filter_cons_of_neg (by simpa using idle)]
            rw [if_neg (by simpa using known)] at each
            exact ih later children each
          · have follows : site.Follows way module call := ⟨leads, (onWay _).1 known⟩
            have taken : site.IsFollowed way module block := ⟨call, made, follows⟩
            rw [List.filter_cons_of_pos (by simpa using taken)]
            rw [if_pos (by simpa using known)] at each
            cases each with
            | cons first others =>
                have distinct : call.block.NamesOnce := made ▸ once block List.mem_cons_self
                exact .cons ⟨call, made, follows, makes_of_enter distinct first.1⟩
                  (ih later _ others)

end Site

/-! ## The root -/

/-- The variable files that are applied to the root, in order. -/
def appliedVariableFiles (tree : FileTree) (options : LoadOptions) (dir : RawText) : List RawText :=
  let default := PathText.join dir defaultVariableFile
  if tree.isFile default then default :: options.variableFiles else options.variableFiles

theorem rootVariableFiles_eq_of_ok {tree : FileTree} {options : LoadOptions} {dir : RawText}
    {paths : List RawText} (found : rootVariableFiles tree options dir = .ok paths) :
    paths = appliedVariableFiles tree options dir := by
  obtain ⟨configured, each, made⟩ := bind_eq_ok_iff.1 found
  have same : configured = options.variableFiles := by
    refine (List.forall₂_eq_eq_eq ▸ (mapM_ok_iff.1 each).imp ?_ : options.variableFiles = _).symm
    intro path other kept
    split at kept
    · exact Except.ok.inj kept
    · cases kept
  cases made
  rw [same]
  rfl

namespace Module

/-- What the root of a tree is: its files are those of the directory that was asked for, and a
variable has the last value among the defaults that it declares and the settings of the variable
files. -/
structure IsRootOf (root : Module) (tree : FileTree) (options : LoadOptions) (dir : RawText) :
    Prop where
  key : root.key = ""
  source : root.source = none
  path : root.dir = dir
  files : tree.readDir dir = .ok root.files
  scope : root.scope = Scope.ofInputs root.scope.inputs root.files
  inputs : ∃ variableFiles, List.Forall₂ (fun path file => tree.readConfig path = .ok file)
      (appliedVariableFiles tree options dir) variableFiles ∧
    ∀ name, Scope.empty.LastValue
      (Scope.defaults root.files ++ variableFiles.flatMap Scope.settingsOf) name
      (root.scope.inputs.lookup name)

theorem isRootOf_of_openRoot {tree : FileTree} {options : LoadOptions} {dir : RawText} {site : Site}
    {place : Place} {root : Module}
    (opened : openRoot tree options dir = .ok (site, place, root)) :
    root.IsRootOf tree options dir ∧ ∃ manifest, readManifest tree dir = .ok manifest ∧
      site = ⟨tree, options.ignoredSources, manifest⟩ := by
  unfold openRoot at opened
  split at opened
  · cases opened
  · split at opened
    · obtain ⟨manifest, listed, opened⟩ := bind_eq_ok_iff.1 opened
      obtain ⟨files, read, opened⟩ := bind_eq_ok_iff.1 opened
      obtain ⟨paths, found, opened⟩ := bind_eq_ok_iff.1 opened
      obtain ⟨settings, given, made⟩ := bind_eq_ok_iff.1 opened
      obtain ⟨variableFiles, each, same⟩ := bind_eq_ok_iff.1 given
      cases rootVariableFiles_eq_of_ok found
      cases same
      cases made
      refine ⟨⟨rfl, rfl, rfl, read, by rw [Scope.inputs_ofInputs], variableFiles,
        mapM_ok_iff.1 each, fun name => ?_⟩, manifest, listed, rfl⟩
      rw [Scope.inputs_ofInputs]
      exact Scope.lookup_bindAll_files files variableFiles name
    · cases opened

/-- A root that has been opened and whose calls have been followed has been loaded. -/
theorem isLoaded_of_openRoot {tree : FileTree} {options : LoadOptions} {dir : RawText} {site : Site}
    {place : Place} {root : Module} {children : List Module}
    (opened : openRoot tree options dir = .ok (site, place, root))
    (loads : site.loadChildren [place] root = .ok children) :
    site.IsLoaded [place] { root with children := children } := by
  obtain ⟨isRoot, manifest, -, rfl⟩ := isRootOf_of_openRoot opened
  refine ⟨?_, by rwa [Site.loadChildren_children]⟩
  rw [isRoot.path]
  exact isRoot.files

/-- A tree that can be loaded: its root, and what its modules have been loaded with. -/
theorem isLoaded_of_load {tree : FileTree} {options : LoadOptions} {dir : RawText} {root : Module}
    (loaded : load tree options dir = .ok root) :
    root.IsRootOf tree options dir ∧ ∃ manifest place, readManifest tree dir = .ok manifest ∧
      tree.locate root.dir = some place ∧
      Site.IsLoaded ⟨tree, options.ignoredSources, manifest⟩ [place] root := by
  obtain ⟨⟨site, place, bare⟩, opened, loaded⟩ := bind_eq_ok_iff.1 loaded
  obtain ⟨children, loads, made⟩ := bind_eq_ok_iff.1 loaded
  cases made
  have isLoaded := isLoaded_of_openRoot opened loads
  obtain ⟨-, located, -⟩ := isPlace_of_openRoot opened
  obtain ⟨isRoot, manifest, listed, rfl⟩ := isRootOf_of_openRoot opened
  exact ⟨⟨isRoot.key, isRoot.source, isRoot.path, isRoot.files, isRoot.scope, isRoot.inputs⟩,
    manifest, place, listed, located, isLoaded⟩

end Module

open Classical in
/-- At the end of every way down a tree, the children of the module are what the followed calls among
its `module` blocks make, one each, in file then source order. -/
def Site.FollowsCalls (site : Site) (root : Module) : Prop :=
  ∀ way module, root.IsPath way → way.getLast? = some module →
    List.Forall₂ (fun block child => ∃ call, call.block = block ∧ site.Follows way module call ∧
        site.Makes module call child)
      ((module.blocksOf "module").filter (site.IsFollowed way module)) module.children

namespace Module

/-- A loaded tree has the modules that its calls lead to.  The children of every module are made by
the `module` blocks with a label, with a plain string as source that is not ignored, and with a
directory that is known, exists, and is none of those of the modules on the way from the root.  A
child binds a variable to what the call passes under its name, evaluated in the scope of the module
that makes the call, or else to the last default that can be evaluated.  The root binds it to the
last value among its defaults, the default variable file and the configured ones. -/
theorem load_follows_calls {tree : FileTree} {options : LoadOptions} {dir : RawText} {root : Module}
    (loaded : load tree options dir = .ok root) :
    root.IsRootOf tree options dir ∧ ∃ manifest, readManifest tree dir = .ok manifest ∧
      Site.FollowsCalls ⟨tree, options.ignoredSources, manifest⟩ root := by
  obtain ⟨isRoot, manifest, place, listed, located, isLoaded⟩ := isLoaded_of_load loaded
  refine ⟨isRoot, manifest, listed, fun way module isPath ends => ?_⟩
  have start : Site.ArePlaces ⟨tree, options.ignoredSources, manifest⟩ [place] ([] ++ [root]) :=
    Site.ArePlaces.cons (fun other => by simp) located
  obtain ⟨places, there, are⟩ := Site.isLoaded_of_path isPath ends isLoaded start
  exact Site.children_of_isLoaded there are

end Module

/-- A module that passes its variable to the module it calls, and calls itself.  The variable files
override the default of the variable. -/
def FileTree.passedOn : FileTree :=
  (((FileTree.empty.write "main.tf" (.text ("variable \"env\" \x7b\n  default = \"dev\"\n\x7d\n" ++
    "module \"app\" \x7b\n  source = \"./app\"\n  name = var.env\n\x7d\n" ++
    "module \"self\" \x7b\n  source = \"./\"\n\x7d\n"))).write
    "terraform.tfvars" (.text "env = \"test\"\n")).write
    "prod.tfvars" (.text "env = \"prod\"\n")).write
    "app/main.tf" (.text "variable \"name\" \x7b\n  default = \"none\"\n\x7d\n")

/-- The value of the last variable file reaches the child, and the call back to the root is not
followed. -/
theorem Module.load_follows_calls_passedOn :
    ∃ root, load .passedOn ⟨["prod.tfvars"], []⟩ "." = .ok root ∧
      root.children.map (fun child =>
        (child.key, (child.scope.inputs.lookup "name").map Value.text)) = [("app", some "prod")] ∧
      root.IsRootOf .passedOn ⟨["prod.tfvars"], []⟩ "." ∧
      ∃ manifest, readManifest .passedOn "." = .ok manifest ∧
        Site.FollowsCalls ⟨.passedOn, [], manifest⟩ root := by
  have loads : (load .passedOn ⟨["prod.tfvars"], []⟩ ".").toOption.map (fun root =>
      root.children.map fun child =>
        (child.key, (child.scope.inputs.lookup "name").map Value.text)) =
      some [("app", some "prod")] := by
    simp only [load, Site.loadChildren_eq]
    decide +kernel
  obtain ⟨root, loaded, seen⟩ := exists_ok_of_map_toOption loads
  exact ⟨root, loaded, seen, load_follows_calls loaded⟩

end InfraLint
