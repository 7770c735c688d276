import InfraLint.Proofs.IssueOrder
import InfraLint.Proofs.ModuleNames

/-!
# What a finding cites

A finding cites a file by the path as it is shown, without the `.` components at its front.  A file
of a module has been read under a name in the directory of the module, and its path is what is shown
for this name (`FileTree.HoldsIn`).

The path that is shown need not name one file.  It does so where the paths of the files are texts:
then it leads to the same text as the path that was read, so files that have been read and that show
the same path are equal (`FileTree.HoldsIn.eq_of_path`).  And what a rule finds in a block cites the
file that the block was read from (`Rule.file_of_blockFindings`).
-/

namespace InfraLint

theorem ConfigFile.waivers_of_parse? {path source : String} {file : ConfigFile}
    (read : parse? path source = some file) : file.waivers = Waiver.scan source := by
  obtain ⟨_, -, made⟩ := Option.bind_eq_some_iff.1 read
  cases made
  rfl

/-! ## Files of a tree -/

namespace FileTree

open PathText

variable {tree : FileTree} {path dir : RawText} {text : String} {file other : ConfigFile}

/-- The names of the configuration files at a place, where they are known to be sorted. -/
theorem configNames_eq {place : Place} {names : List RawText} (located : tree.locate dir = some place)
    (listed : (tree.fileNames place).filter isConfiguration = names)
    (sorted : names.Pairwise fun a b => (!decide (b.bytes < a.bytes)) = true) :
    tree.configNames dir = names := by
  simp only [configNames, located, listed]
  exact List.mergeSort_of_pairwise sorted

/-- The text at a path reads as a file, which has the path as it is shown. -/
def ReadsAs (tree : FileTree) (path : RawText) (text : String) (file : ConfigFile) : Prop :=
  tree.read? path = some text ∧ ConfigFile.parse? (shown path) text = some file

theorem ReadsAs.path_eq (reads : tree.ReadsAs path text file) : file.path = shown path :=
  ConfigFile.path_of_parse? reads.2

theorem ReadsAs.waivers_eq (reads : tree.ReadsAs path text file) :
    file.waivers = Waiver.scan text :=
  ConfigFile.waivers_of_parse? reads.2

/-- A file is what stands under one of the names in a directory. -/
def HoldsIn (tree : FileTree) (dir : RawText) (file : ConfigFile) : Prop :=
  ∃ name ∈ tree.configNames dir, ∃ text, tree.ReadsAs (join dir name) text file

/-- The paths of all files of a directory are texts. -/
def HasTextPaths (tree : FileTree) (dir : RawText) : Prop :=
  ∀ name ∈ tree.configNames dir, (join dir name).IsText

/-- A path that is a text is cited by a path that leads to the same text. -/
theorem ReadsAs.read?_path (reads : tree.ReadsAs path text file) (isText : path.IsText) :
    tree.read? file.path = some text := by
  rw [reads.path_eq]
  exact read?_shown isText reads.1

theorem ReadsAs.parse?_path (reads : tree.ReadsAs path text file) :
    ConfigFile.parse? file.path text = some file := by
  rw [reads.path_eq]
  exact reads.2

theorem ReadsAs.eq_of_path {path' : RawText} {text' : String} (reads : tree.ReadsAs path text file)
    (reads' : tree.ReadsAs path' text' other) (isText : path.IsText) (isText' : path'.IsText)
    (same : file.path = other.path) : file = other := by
  have read := reads.read?_path isText
  rw [same, reads'.read?_path isText'] at read
  cases read
  have parsed := reads.parse?_path
  rw [same, reads'.parse?_path] at parsed
  exact (Option.some.inj parsed).symm

/-- Where all paths are texts, a path names one file, also among those of several directories. -/
theorem HoldsIn.eq_of_path {dir' : RawText} (texts : tree.HasTextPaths dir)
    (texts' : tree.HasTextPaths dir') (held : tree.HoldsIn dir file)
    (held' : tree.HoldsIn dir' other) (same : file.path = other.path) : file = other := by
  obtain ⟨name, member, text, reads⟩ := held
  obtain ⟨name', member', text', reads'⟩ := held'
  exact reads.eq_of_path reads' (texts name member) (texts' name' member') same

theorem HoldsIn.inOrder (held : tree.HoldsIn dir file) : file.InOrder := by
  obtain ⟨name, listed, text, read, parsed⟩ := held
  exact ConfigFile.inOrder_of_parse? parsed

theorem readsAs_of_readConfig (read : tree.readConfig path = .ok file) :
    ∃ text, tree.ReadsAs path text file := by
  unfold readConfig at read
  split at read
  · cases read
  · next text there =>
    split at read
    · cases read
    · next parsed =>
      cases read
      exact ⟨text, there, parsed⟩

theorem holdsIn_of_readDir {files : List ConfigFile} (read : tree.readDir dir = .ok files) :
    ∀ file ∈ files, tree.HoldsIn dir file := by
  intro file member
  obtain ⟨name, listed, reads⟩ := exists_of_forall₂ (mapM_ok_iff.1 read) member
  exact ⟨name, listed, readsAs_of_readConfig reads⟩

end FileTree

/-- The files of all modules of a loaded tree stand in the directories of the modules. -/
theorem Site.IsLoaded.holds {site : Site} {ancestors : List Place} {root : Module}
    (loaded : site.IsLoaded ancestors root) :
    ∀ module ∈ root.preorder, ∀ file ∈ module.files, site.tree.HoldsIn module.dir file := by
  induction root using Module.inductionOn generalizing ancestors with
  | step root ih =>
      intro module visited
      rw [Module.preorder_eq] at visited
      rcases List.mem_cons.1 visited with rfl | below
      · exact FileTree.holdsIn_of_readDir loaded.files
      · obtain ⟨child, member, inside⟩ := List.mem_flatMap.1 below
        obtain ⟨call, -, -, loaded'⟩ :=
          exists_of_forall₂ (Site.loadChildren_eq_children_iff.1 loaded.children) member
        exact ih child member loaded' module inside

theorem Module.holds_of_load {tree : FileTree} {options : LoadOptions} {dir : RawText}
    {root : Module} (loaded : load tree options dir = .ok root) :
    ∀ module ∈ root.preorder, ∀ file ∈ module.files, tree.HoldsIn module.dir file := by
  obtain ⟨-, manifest, place, -, -, isLoaded⟩ := isLoaded_of_load loaded
  exact isLoaded.holds

/-! ## Findings -/

variable {file : String} {low high : Nat}

theorem Stacked.exists_liesIn {blocks : List Block}
    (stacked : Stacked (Block.LiesIn file) low high blocks) :
    ∀ block ∈ blocks, ∃ low high, block.LiesIn file low high := by
  induction blocks generalizing low with
  | nil => simp
  | cons block rest ih =>
      obtain ⟨mid, lies, above⟩ := stacked
      exact List.forall_mem_cons.2 ⟨⟨low, mid, lies⟩, ih above⟩

namespace Rule

/-- What a rule finds in a block cites the file of the block. -/
theorem file_of_blockFindings (rule : Rule) (facts : Facts) (module : Module) (state : Snapshot)
    {block : Block} (lies : block.LiesIn file low high) :
    ∀ finding ∈ rule.blockFindings facts module state block, finding.file = file := by
  by_cases volumes : rule.check = .volumeTypeGiven
  · -- the devices are not looked at in order, but all of them stand inside the block
    intro finding member
    simp only [blockFindings, volumes, List.mem_map, List.mem_filter, List.mem_flatMap,
      Block.nested] at member
    obtain ⟨device, ⟨⟨kind, -, inside, -⟩, -⟩, rfl⟩ := member
    exact (lies.blocks.within device.spot (List.mem_map_of_mem inside)).1
  · intro finding member
    have ascends := rule.ascends_blockFindings facts module state lies fun given =>
      absurd given volumes
    exact (ascends.within finding.spot (List.mem_map_of_mem member)).1

/-- What a rule finds in a module stands in a block of a file of the module, and cites this file. -/
theorem exists_file_of_mem_findings (rule : Rule) (facts : Facts) {module : Module}
    (state : Snapshot) (inOrder : ∀ file ∈ module.files, file.InOrder) {finding : Finding}
    (member : finding ∈ rule.findings facts module state) :
    ∃ file ∈ module.files, ∃ block ∈ file.resources rule.resourceType,
      finding ∈ rule.blockFindings facts module state block ∧ finding.file = file.path := by
  obtain ⟨block, resource, found⟩ := List.mem_flatMap.1 member
  obtain ⟨file, there, inside⟩ := List.mem_flatMap.1 resource
  obtain ⟨low, high, stacked⟩ := inOrder file there
  obtain ⟨low', high', lies⟩ := stacked.exists_liesIn block (List.mem_filter.1 inside).1
  exact ⟨file, there, block, inside, found,
    rule.file_of_blockFindings facts module state lies finding found⟩

end Rule

end InfraLint
