import InfraLint.Command.Run

/-!
# The program

Reads the files that a command may need, runs it, and prints what it has to say. The files are those
below the working directory and below the paths named by the arguments, except for those whose name
is no text: they cannot be opened here. Other programs are not started, so a deep check finds no
client.
-/

namespace InfraLint

/-- Adds what stands at a path on disk, and all below it, to a tree. -/
partial def FileTree.collect (tree : FileTree) (path : String) : IO FileTree := do
  let spot := (← IO.currentDir) / path
  if ← spot.isDir then
    let mut tree := tree.mkdir path
    for entry in ← spot.readDir do
      tree ← tree.collect (PathText.join path entry.fileName).display
    return tree
  else
    match ← (IO.FS.readBinFile spot).toBaseIO with
    | .ok bytes =>
      match String.fromUTF8? bytes with
      | some content => return tree.write path (.text content)
      | none => return tree.write path .binary
    | .error _ => return tree

/-- The parts of an argument that may be paths. -/
def argumentPaths (argument : String) : List String :=
  ((Text.splitAt '=' argument.toList).map String.ofList).filter (!·.isEmpty)

/-- The files that a command may need. -/
def FileTree.forArguments (arguments : List String) : IO FileTree := do
  let current := toString (← IO.currentDir)
  let mut tree ← FileTree.empty.collect current
  for path in arguments.flatMap argumentPaths do
    tree ← tree.collect (PathText.join current path).display
  return tree.enter current

end InfraLint

/-- Runs the program. -/
def main (arguments : List String) : IO UInt32 := do
  let world : InfraLint.Command.Surroundings :=
    ⟨← InfraLint.FileTree.forArguments arguments, ← IO.getEnv "HOME", fun _ => .missing⟩
  let ending := InfraLint.Command.run arguments world
  IO.print ending.output
  IO.eprint ending.errors
  return ending.exit.toUInt32
