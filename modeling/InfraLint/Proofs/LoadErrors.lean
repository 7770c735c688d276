import InfraLint.Proofs.Calls

/-!
# What a load error is about

A tree of modules cannot be loaded for two kinds of reason.  Some file has a content that cannot be
used (`LoadError.IsContent`): a configuration file, a variable file or the manifest.  Or what the
loader was asked for is not there: the directory, or a variable file that was named
(`Module.IsRefused`).

All readers of files fail with errors of the first kind only (`Raises`), and so does the loader once
it follows calls.  What it is asked for is looked up before that, but not first: a variable file that
is missing is noticed only if the manifest and the configuration files of the root can be used
(`Module.load_refused_iff`).
-/

namespace InfraLint

/-! ## Kinds of errors -/

/-- If a computation fails, then with an error of some kind. -/
def Raises {ε α : Type} (computation : Except ε α) (kind : ε → Prop) : Prop :=
  ∀ cause, computation = .error cause → kind cause

namespace Raises

variable {ε α β : Type} {kind : ε → Prop}

theorem of_ok (a : α) : Raises (.ok a : Except ε α) kind := by
  intro cause failed
  cases failed

theorem of_error {cause : ε} (holds : kind cause) : Raises (.error cause : Except ε α) kind := by
  intro other failed
  cases failed
  exact holds

theorem bind {first : Except ε α} {next : α → Except ε β} (raises : Raises first kind)
    (each : ∀ a, first = .ok a → Raises (next a) kind) : Raises (first >>= next) kind := by
  cases ran : first with
  | error cause => exact of_error (raises cause ran)
  | ok a => exact each a ran

theorem mapM {f : α → Except ε β} {items : List α} (each : ∀ item ∈ items, Raises (f item) kind) :
    Raises (items.mapM f) kind := by
  induction items with
  | nil => exact of_ok []
  | cons item rest ih =>
      rw [List.mapM_cons]
      refine bind (each item List.mem_cons_self) fun result _ => ?_
      refine bind (ih fun other member => each other (List.mem_cons_of_mem _ member)) ?_
      exact fun results _ => of_ok (result :: results)

end Raises

/-- Going through items fails exactly if it fails at one of them. -/
theorem mapM_fails_iff {ε α β : Type} {f : α → Except ε β} {items : List α} :
    (∃ cause, items.mapM f = .error cause) ↔ ∃ item ∈ items, ∃ cause, f item = .error cause := by
  constructor
  · rintro ⟨cause, failed⟩
    have raises : Raises (items.mapM f) fun _ => ∃ item ∈ items, ∃ cause, f item = .error cause :=
      .mapM fun item member cause failed => ⟨item, member, cause, failed⟩
    exact raises cause failed
  · rintro ⟨item, member, cause, fails⟩
    cases ran : items.mapM f with
    | error other => exact ⟨other, rfl⟩
    | ok results =>
        obtain ⟨result, -, done⟩ := exists_of_forall₂ (mapM_ok_iff.1 ran).flip member
        rw [fails] at done
        cases done

/-! ## Errors about the content of files -/

/-- An error is about the content of a file. -/
inductive LoadError.IsContent : LoadError → Prop where
  | unreadable (path : RawText) : IsContent (.unreadable path)
  | malformed (file : String) : IsContent (.malformed file)
  | badManifest : IsContent .badManifest

namespace FileTree

variable (tree : FileTree)

theorem raises_readConfig (path : RawText) : Raises (tree.readConfig path) LoadError.IsContent := by
  rw [readConfig]
  split
  · exact .of_error (.unreadable path)
  · split
    · exact .of_error (.malformed _)
    · exact .of_ok _

theorem raises_readDir (dir : RawText) : Raises (tree.readDir dir) LoadError.IsContent :=
  .mapM fun name _ => tree.raises_readConfig (PathText.join dir name)

theorem raises_readManifest (dir : RawText) : Raises (readManifest tree dir) LoadError.IsContent := by
  simp only [readManifest]
  split
  · split
    · exact .of_error (.unreadable _)
    · split
      · exact .of_error .badManifest
      · exact .of_ok _
  · exact .of_ok []

theorem raises_readSettings (paths : List RawText) :
    Raises (readSettings tree paths) LoadError.IsContent := by
  refine Raises.bind (.mapM fun path _ => tree.raises_readConfig path) ?_
  exact fun files _ => .of_ok (files.flatMap Scope.fileSettings)

end FileTree

namespace Site

variable {site : Site}

theorem raises_enter (parent : Module) (call : Call) :
    Raises (site.enter parent call) LoadError.IsContent := by
  refine Raises.bind (site.tree.raises_readDir call.dir) ?_
  exact fun files _ => .of_ok _

theorem raises_loadBlocks {ancestors : List Place} {parent : Module}
    (below : ∀ (call : Call) (child : Module), call.place ∈ site.remaining ancestors →
      Raises (site.loadChildren (call.place :: ancestors) child) LoadError.IsContent)
    (blocks : List Block) :
    Raises (site.loadBlocks ancestors parent blocks) LoadError.IsContent := by
  induction blocks with
  | nil => exact .of_ok []
  | cons block rest ih =>
      rw [loadBlocks]
      cases found : site.call? parent block with
      | none => exact ih
      | some call =>
          by_cases known : call.place ∈ ancestors
          · simp only [known, if_true]
            exact ih
          · simp only [known, if_false]
            refine (raises_enter parent call).bind fun child _ => ?_
            refine (below call child ((mem_remaining_iff found).2 known)).bind fun children _ => ?_
            exact ih.bind fun others _ => .of_ok _

/-- Following calls fails over the content of files only. -/
theorem raises_loadChildren (ancestors : List Place) (parent : Module) :
    Raises (site.loadChildren ancestors parent) LoadError.IsContent := by
  rw [loadChildren_eq]
  exact raises_loadBlocks (fun call child fresh =>
    have := site.remaining_lt fresh
    raises_loadChildren (call.place :: ancestors) child) _
termination_by (site.remaining ancestors).length

end Site

/-! ## Errors about what is asked for -/

/-- What the loader is asked for is not there. -/
inductive Module.IsRefused (tree : FileTree) (options : LoadOptions) (dir : RawText) : Prop where
  | directory : tree.isDirectory dir = false → IsRefused tree options dir
  | variableFile {manifest : List (String × RawText)} {files : List ConfigFile} {path : RawText} :
      tree.isDirectory dir = true → readManifest tree dir = .ok manifest →
      tree.readDir dir = .ok files → path ∈ options.variableFiles → tree.isFile path = false →
      IsRefused tree options dir

section

variable {tree : FileTree} {options : LoadOptions} {dir : RawText}

/-- Looking up the variable files that are named fails if one is missing. -/
theorem raises_rootVariableFiles : Raises (rootVariableFiles tree options dir) fun cause =>
    ∃ path ∈ options.variableFiles, tree.isFile path = false ∧
      cause = .variableFileNotFound path := by
  refine Raises.bind (.mapM fun path member => ?_) fun configured _ => .of_ok _
  split
  · exact .of_ok path
  · next missing => exact .of_error ⟨path, member, Bool.eq_false_iff.2 missing, rfl⟩

theorem exists_rootVariableFiles_eq_error {path : RawText} (member : path ∈ options.variableFiles)
    (missing : tree.isFile path = false) :
    ∃ other, rootVariableFiles tree options dir = .error (.variableFileNotFound other) := by
  cases found : rootVariableFiles tree options dir with
  | error cause =>
      obtain ⟨other, -, -, rfl⟩ := raises_rootVariableFiles cause found
      exact ⟨other, rfl⟩
  | ok paths =>
      obtain ⟨configured, each, -⟩ := bind_eq_ok_iff.1 found
      obtain ⟨kept, -, done⟩ := exists_of_forall₂ (mapM_ok_iff.1 each).flip member
      rw [missing] at done
      cases done

namespace Module

/-- If what is asked for is there, the root cannot be opened only over the content of a file. -/
theorem raises_openRoot (there : ¬ IsRefused tree options dir) :
    Raises (openRoot tree options dir) LoadError.IsContent := by
  cases directory : tree.isDirectory dir with
  | false => exact absurd (.directory directory) there
  | true =>
      obtain ⟨place, located, entry⟩ := FileTree.isDirectory_iff.1 directory
      simp only [openRoot, located, entry, if_true]
      refine (tree.raises_readManifest dir).bind fun manifest listed => ?_
      refine (tree.raises_readDir dir).bind fun files read => ?_
      refine Raises.bind ?_ fun paths _ => ?_
      · intro cause failed
        obtain ⟨path, member, missing, -⟩ := raises_rootVariableFiles cause failed
        exact absurd (.variableFile directory listed read member missing) there
      · exact (tree.raises_readSettings paths).bind fun settings _ => .of_ok _

/-- What is refused is refused while the root is opened, and not over the content of a file. -/
theorem exists_openRoot_eq_error (refused : IsRefused tree options dir) :
    ∃ cause, openRoot tree options dir = .error cause ∧ ¬ cause.IsContent := by
  cases refused with
  | directory directory =>
      refine ⟨.notADirectory dir, ?_, nofun⟩
      rw [openRoot]
      cases located : tree.locate dir with
      | none => rfl
      | some place =>
          have entry : tree.entryAt? place ≠ some .directory := by
            intro entry
            rw [FileTree.isDirectory_iff.2 ⟨place, located, entry⟩] at directory
            cases directory
          simp only [entry, if_false]
  | variableFile directory listed read member missing =>
      obtain ⟨place, located, entry⟩ := FileTree.isDirectory_iff.1 directory
      obtain ⟨path, failed⟩ : ∃ path, rootVariableFiles tree options dir =
          .error (.variableFileNotFound path) := exists_rootVariableFiles_eq_error member missing
      refine ⟨.variableFileNotFound path, ?_, nofun⟩
      simp only [openRoot, located, entry, if_true, listed, read, failed, ok_bind, error_bind]

/-- A tree cannot be loaded over anything but the content of a file exactly if what is asked for is
not there. -/
theorem load_refused_iff :
    (∃ cause, load tree options dir = .error cause ∧ ¬ cause.IsContent) ↔
      IsRefused tree options dir := by
  constructor
  · rintro ⟨cause, failed, other⟩
    by_contra there
    have raises : Raises (load tree options dir) LoadError.IsContent := by
      refine (raises_openRoot there).bind ?_
      rintro ⟨site, place, root⟩ -
      exact (Site.raises_loadChildren [place] root).bind fun children _ => .of_ok _
    exact other (raises cause failed)
  · intro refused
    obtain ⟨cause, failed, other⟩ := exists_openRoot_eq_error refused
    refine ⟨cause, ?_, other⟩
    rw [load, failed]
    rfl

end Module

end

end InfraLint
