import InfraLint.Text.Cut
import InfraLint.Text.Raw

/-!
# Directories and files

A file tree is a finite set of directories and files under one root, with a working directory. The
names in it are raw texts, and so are paths: they are joined textually, and looked up one component
at a time from the working directory. `locate` gives the place that a path leads to, which is the
same for all spellings of the path. What findings cite is the path as a text (`PathText.shown`).
-/

namespace InfraLint

/-- What stands at a place of a file tree. -/
inductive Entry where
  | directory
  | text (content : String)
  /-- A file whose bytes are no text. -/
  | binary
deriving Repr, DecidableEq

/-- A place in a file tree: the names from the root down. -/
abbrev Place := List RawText

/-- Directories and files under a root, and the working directory. -/
structure FileTree where
  entries : List (Place × Entry)
  workingDir : Place

namespace PathText

/-- What stands between the components of a path. -/
def slash : UInt8 := 0x2F

/-- The components of a path. -/
def components (path : RawText) : List RawText :=
  (Text.splitAt slash path.bytes).map RawText.mk

/-- The path with these components. -/
def ofComponents (names : List RawText) : RawText :=
  ⟨[slash].intercalate (names.map RawText.bytes)⟩

/-- Whether a path leads on from the root. -/
def isFromRoot (path : RawText) : Bool :=
  path.bytes.head? == some slash

/-- Joins two paths. A path from the root replaces the first one. -/
def join (base path : RawText) : RawText :=
  if isFromRoot path || base.isEmpty then path
  else if base.bytes.getLast? == some slash then base ++ path
  else base ++ "/" ++ path

/-- Whether following a component stays where it is. -/
def isIdle (name : RawText) : Bool := name == "." || name.isEmpty

/-- A path without `.` components at its front. -/
def trimmed (path : RawText) : RawText :=
  match components path with
  | name :: rest => if name == "." then ofComponents (rest.dropWhile isIdle) else path
  | [] => path

/-- The path as findings cite it: without `.` components at its front, and as a text. -/
def shown (path : RawText) : String := (trimmed path).display

/-- Whether a file name ends in `.tf`, with something before it. -/
def isConfiguration (name : RawText) : Bool :=
  (RawText.ofText ".tf").bytes.isSuffixOf name.bytes && name != ".tf"

end PathText

namespace FileTree

/-- What stands at a place. The root is a directory. -/
def entryAt? (tree : FileTree) (place : Place) : Option Entry :=
  if place.isEmpty then some .directory else tree.entries.lookup place

/-- Follows path components from a place. All but the last must be directories; `..` goes up, and
stays at the root. -/
def follow (tree : FileTree) (place : Place) : List RawText → Option Place
  | [] => some place
  | name :: rest =>
    if tree.entryAt? place == some .directory then
      if PathText.isIdle name then tree.follow place rest
      else if name == ".." then tree.follow place.dropLast rest
      else
        let next := place ++ [name]
        if (tree.entryAt? next).isSome then tree.follow next rest else none
    else none

/-- The place that a path leads to, if something stands there. A path that starts with a slash
leads on from the root, any other from the working directory. -/
def locate (tree : FileTree) (path : RawText) : Option Place :=
  if path.isEmpty then none
  else
    let start := if PathText.isFromRoot path then [] else tree.workingDir
    tree.follow start (PathText.components path)

/-- What stands at the end of a path. -/
def entry? (tree : FileTree) (path : RawText) : Option Entry :=
  (tree.locate path).bind tree.entryAt?

/-- Whether a path leads to a directory. -/
def isDirectory (tree : FileTree) (path : RawText) : Bool :=
  tree.entry? path == some .directory

/-- Whether a path leads to a file, of text or of other bytes. -/
def isFile (tree : FileTree) (path : RawText) : Bool :=
  match tree.entry? path with
  | some (.text _) | some .binary => true
  | _ => false

/-- The text of a file, if there is one. -/
def read? (tree : FileTree) (path : RawText) : Option String :=
  match tree.entry? path with
  | some (.text content) => some content
  | _ => none

/-- The directories of the tree. -/
def directories (tree : FileTree) : List Place :=
  [] :: tree.entries.filterMap fun (place, entry) =>
    if entry == .directory then some place else none

/-- The names of the files directly inside a place. -/
def fileNames (tree : FileTree) (place : Place) : List RawText :=
  tree.entries.filterMap fun (p, entry) =>
    match entry, p.getLast? with
    | .directory, _ => none
    | _, some name => if p.dropLast == place then some name else none
    | _, none => none

/-! ## Building a tree -/

/-- A tree with nothing in it, worked in from its root. -/
def empty : FileTree := ⟨[], []⟩

/-- Adds an entry at a place, unless something stands there. -/
def add (tree : FileTree) (place : Place) (entry : Entry) : FileTree :=
  if (tree.entryAt? place).isSome then tree
  else { tree with entries := tree.entries ++ [(place, entry)] }

/-- The places above and including a place, from the top. -/
def chain (place : Place) : List Place :=
  (List.range place.length).map fun n => place.take (n + 1)

/-- Creates a directory and those above it. -/
def addDirectory (tree : FileTree) (place : Place) : FileTree :=
  (chain place).foldl (fun tree p => tree.add p .directory) tree

/-- The place that a path from the root means, without looking anything up. -/
def placeOf (path : RawText) : Place :=
  (PathText.components path).foldl (fun place name =>
    if PathText.isIdle name then place
    else if name == ".." then place.dropLast
    else place ++ [name]) []

/-- Creates a directory at a path. -/
def mkdir (tree : FileTree) (path : RawText) : FileTree :=
  tree.addDirectory (placeOf path)

/-- Creates a file and the directories above it. -/
def write (tree : FileTree) (path : RawText) (content : Entry) : FileTree :=
  let place := placeOf path
  (tree.addDirectory place.dropLast).add place content

/-- Creates a directory and works in it. -/
def enter (tree : FileTree) (path : RawText) : FileTree :=
  { tree.mkdir path with workingDir := placeOf path }

end FileTree

end InfraLint
