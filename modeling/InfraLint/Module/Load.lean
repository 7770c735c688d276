import InfraLint.Config.File
import InfraLint.FileTree
import InfraLint.Json.Decode
import InfraLint.Json.Read
import InfraLint.Module.Scope

/-!
# Loading a module tree

`Module.load` reads the configuration files of a directory and follows the module calls in them. A
call is followed when its source is a plain string that is not ignored and its directory is known:
the module manifest of the root names it, or the source is a path that starts with `./` or `../`. A
call that leads back to a directory on the way from the root is not followed, so a finite file tree
has a finite module tree whatever the calls are.
-/

namespace InfraLint

/-- Why a configuration cannot be loaded. -/
inductive LoadError where
  /-- A file is no text. -/
  | unreadable (path : RawText)
  /-- A configuration file does not follow the grammar. -/
  | malformed (file : String)
  | notADirectory (path : RawText)
  | variableFileNotFound (path : RawText)
  /-- The module manifest is no manifest. -/
  | badManifest
deriving Repr, DecidableEq

namespace LoadError

/-- The wording of a load error. -/
def message : LoadError → String
  | unreadable path => "Failed to read " ++ path.display ++ ": stream did not contain valid UTF-8"
  | malformed file => "Failed to parse " ++ file ++ ": unexpected input"
  | notADirectory path => "Not a configuration directory: " ++ path.display
  | variableFileNotFound path => "Variable file not found: " ++ path.display
  | badManifest => "Invalid module manifest: unexpected content"

end LoadError

/-- How a module tree is loaded. -/
structure LoadOptions where
  /-- Variable files that are applied to the root after `terraform.tfvars`. -/
  variableFiles : List RawText := []
  /-- Module sources that are never loaded. -/
  ignoredSources : List String := []
deriving Repr, DecidableEq

/-- What stays the same while a tree is loaded. -/
structure Site where
  tree : FileTree
  ignoredSources : List String
  /-- The directories that the manifest names, by module key. -/
  manifest : List (String × RawText)

/-! ## Reading files -/

namespace FileTree

/-- Reads a configuration file. -/
def readConfig (tree : FileTree) (path : RawText) : Except LoadError ConfigFile :=
  match tree.read? path with
  | none => .error (.unreadable path)
  | some source =>
    match ConfigFile.parse? (PathText.shown path) source with
    | none => .error (.malformed (PathText.shown path))
    | some file => .ok file

/-- The configuration files directly inside a directory, in the order of their names. -/
def configNames (tree : FileTree) (dir : RawText) : List RawText :=
  match tree.locate dir with
  | some place =>
    ((tree.fileNames place).filter PathText.isConfiguration).mergeSort fun a b =>
      !(b.bytes < a.bytes)
  | none => []

/-- Reads the configuration files of a directory. -/
def readDir (tree : FileTree) (dir : RawText) : Except LoadError (List ConfigFile) :=
  (tree.configNames dir).mapM fun name => tree.readConfig (PathText.join dir name)

end FileTree

/-! ## The manifest -/

/-- Where the manifest of a root directory is. -/
def manifestPath : String := ".terraform/modules/modules.json"

/-- One entry of a manifest: a module key and a directory. -/
def manifestEntry? (json : Json) : Option (String × String) := do
  match ← json.fields? ["Key", "Dir"] with
  | [key, dir] => return (← Json.required Json.string? key, ← Json.required Json.string? dir)
  | _ => none

/-- The entries of a manifest. -/
def manifestEntries? (json : Json) : Option (List (String × String)) := do
  match ← json.fields? ["Modules"] with
  | [modules] => Json.withDefault (Json.listOf? manifestEntry?) [] modules
  | _ => none

/-- The directories that the manifest of `dir` names. The entry of the root itself is left out, and
of several entries for one key the last one counts. -/
def readManifest (tree : FileTree) (dir : RawText) :
    Except LoadError (List (String × RawText)) :=
  let path := PathText.join dir manifestPath
  if tree.isFile path then
    match tree.read? path with
    | none => .error (.unreadable path)
    | some content =>
      match (Json.parse? content).bind manifestEntries? with
      | none => .error .badManifest
      | some entries =>
        .ok (Assoc.ofPairs ((entries.filter fun (key, _) => !key.isEmpty).map
          fun (key, target) => (key, PathText.join dir target)))
  else .ok []

/-! ## Calls -/

/-- A module call that can be followed. -/
structure Call where
  key : String
  source : String
  dir : RawText
  /-- The place that `dir` leads to. -/
  place : Place
  block : Block

/-- The source of a call, if it is a plain string. -/
def literalSource? (block : Block) : Option String := do
  match (← block.attribute? "source").token.expression? with
  | some (.string source) => some source
  | _ => none

namespace Site

/-- The directory of a call, if it is known and exists. The manifest comes first. -/
def callDir? (site : Site) (key source : String) (parentDir : RawText) : Option RawText :=
  match site.manifest.lookup key with
  | some dir => if site.tree.isDirectory dir then some dir else none
  | none =>
    if Text.hasLead "./" source || Text.hasLead "../" source then
      let dir := PathText.join parentDir source
      if site.tree.isDirectory dir then some dir else none
    else none

/-- The call that a `module` block of `parent` makes, if it can be followed. -/
def call? (site : Site) (parent : Module) (block : Block) : Option Call := do
  let label ← block.labels[0]?
  let source ← literalSource? block
  if site.ignoredSources.contains source then none
  else
    let key := parent.childKey label
    let dir ← site.callDir? key source parent.dir
    let place ← site.tree.locate dir
    return ⟨key, source, dir, place, block⟩

/-- The calls of a module that can be followed, in file then source order. -/
def calls (site : Site) (parent : Module) : List Call :=
  (parent.blocksOf "module").filterMap (site.call? parent)

/-- The module that a call makes, before its own calls are followed. Arguments override the
defaults that the module declares. -/
def enter (site : Site) (parent : Module) (call : Call) : Except LoadError Module := do
  let files ← site.tree.readDir call.dir
  let inputs := Scope.bindAll (Scope.variableDefaults files)
    (parent.scope.callArguments call.block)
  return ⟨call.key, some call.source, call.dir, files, Scope.ofInputs inputs files, []⟩

/-- The directories that are not on the way from the root. -/
def remaining (site : Site) (ancestors : List Place) : List Place :=
  site.tree.directories.filter fun place => !ancestors.contains place

/-- Going down to a directory that is not on the way leaves fewer. -/
theorem remaining_lt (site : Site) {ancestors : List Place} {place : Place}
    (h : place ∈ site.remaining ancestors) :
    (site.remaining (place :: ancestors)).length < (site.remaining ancestors).length := by
  have hsub : site.remaining (place :: ancestors) =
      (site.remaining ancestors).filter (fun p => !(p == place)) := by
    simp only [remaining, List.filter_filter, List.contains_cons]
    congr 1
    funext p
    cases p == place <;> cases ancestors.contains p <;> rfl
  rw [hsub]
  apply List.length_filter_lt_length_iff_exists.2
  exact ⟨place, h, by simp⟩

/-- The modules that `parent` calls, with all modules below them. `ancestors` are the places on the
way from the root to `parent`, itself included. -/
def loadChildren (site : Site) (ancestors : List Place) (parent : Module) :
    Except LoadError (List Module) := do
  let loaded ← (site.calls parent).mapM fun call =>
    if _h : call.place ∈ site.remaining ancestors then do
      let child ← site.enter parent call
      let children ← loadChildren site (call.place :: ancestors) child
      return some { child with children := children }
    else return none
  return loaded.filterMap id
termination_by (site.remaining ancestors).length
decreasing_by exact site.remaining_lt _h

end Site

/-! ## The root -/

/-- The variable file that is applied when it exists. -/
def defaultVariableFile : String := "terraform.tfvars"

/-- The variable files of the root, in order. Every configured one must exist. -/
def rootVariableFiles (tree : FileTree) (options : LoadOptions) (dir : RawText) :
    Except LoadError (List RawText) := do
  let default := PathText.join dir defaultVariableFile
  let configured ← options.variableFiles.mapM fun path =>
    if tree.isFile path then .ok path else .error (.variableFileNotFound path)
  return if tree.isFile default then default :: configured else configured

/-- The settings of variable files, in order. -/
def readSettings (tree : FileTree) (paths : List RawText) :
    Except LoadError (List (String × Value)) := do
  let files ← paths.mapM tree.readConfig
  return files.flatMap Scope.fileSettings

/-- Opens the root of a tree, before its calls are followed: what stays the same from here on, the
place of the root, and its module. -/
def Module.openRoot (tree : FileTree) (options : LoadOptions) (dir : RawText) :
    Except LoadError (Site × Place × Module) :=
  match tree.locate dir with
  | none => .error (.notADirectory dir)
  | some place =>
    if tree.entryAt? place = some .directory then do
      let manifest ← readManifest tree dir
      let files ← tree.readDir dir
      let variableFiles ← rootVariableFiles tree options dir
      let settings ← readSettings tree variableFiles
      let inputs := Scope.bindAll (Scope.variableDefaults files) settings
      return (⟨tree, options.ignoredSources, manifest⟩, place,
        ⟨"", none, dir, files, Scope.ofInputs inputs files, []⟩)
    else .error (.notADirectory dir)

/-- Loads the module tree of a directory. -/
def Module.load (tree : FileTree) (options : LoadOptions) (dir : RawText) :
    Except LoadError Module := do
  let (site, place, root) ← Module.openRoot tree options dir
  let children ← site.loadChildren [place] root
  return { root with children := children }

end InfraLint
