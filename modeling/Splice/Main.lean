import Splice.Command.Run

/-!
# Command line

Reads the files that a command may look at, runs the command on them, prints what it says and writes
the files that it changes.
-/

namespace Splice.Main

/-- The names that lead to an absolute path. -/
def placeOf (path : Path) : Place :=
  path.normalize.components.filterMap fun
    | .name text => some text
    | _ => none

/-- Adds a file, or a directory with all that is in it, to a tree. -/
partial def gather (entry : IO.FS.DirEntry) (place : Place) (tree : FileTree) : IO FileTree := do
  if ← entry.path.isDir then
    let inner ← try entry.path.readDir catch _ => pure #[]
    let mut tree := tree.plant place .directory
    for child in inner do
      tree ← gather child (place ++ [child.fileName]) tree
    return tree
  else
    try
      let bytes ← IO.FS.readBinFile entry.path
      let content := match String.fromUTF8? bytes with
        | some text => Content.text text
        | none => .bytes bytes.toList
      return tree.plant place (.file content)
    catch _ => return tree

/-- Adds what is at an absolute path to a tree. -/
def gatherAt (path : Path) (tree : FileTree) : IO FileTree := do
  gather { root := ← IO.currentDir, fileName := path.text } (placeOf path) tree

/-- The files that an invocation may look at. -/
def gatherFor (surroundings : Surroundings) (invocation : Invocation) : IO FileTree := do
  let mut tree := FileTree.empty.plant (placeOf surroundings.workingDirectory) .directory
  -- The configuration is under the root and says where else to look.
  for path in invocation.searched surroundings tree do
    tree ← gatherAt path tree
  for path in invocation.searched surroundings tree do
    tree ← gatherAt path tree
  match invocation.target? surroundings tree with
  | some path => gatherAt path tree
  | none => return tree

/-- Writes what differs between two trees. -/
def store (before after : FileTree) : IO Unit := do
  for (place, item) in after.changesSince before do
    let name := (FileTree.pathOf place).text
    match item with
    | .directory => IO.FS.createDirAll name
    | .file (.text text) => IO.FS.writeFile name text
    | .file (.bytes bytes) => IO.FS.writeBinFile name ⟨bytes.toArray⟩

/-- Runs a command line once on the given files. -/
def perform (surroundings : Surroundings) (arguments : List String) (tree : FileTree) : IO Nat := do
  let outcome := runCommand surroundings arguments tree
  store tree outcome.tree
  IO.print outcome.printed.out
  IO.eprint outcome.printed.err
  return outcome.status

/-- Builds again whenever files change. -/
partial def watch (surroundings : Surroundings) (invocation : Invocation)
    (arguments : List String) (tree : FileTree) : IO Nat := do
  IO.sleep 200
  let current ← gatherFor surroundings invocation
  if (current.changesSince tree).isEmpty then watch surroundings invocation arguments tree
  else
    IO.eprintln "\nFile change detected, rebuilding..."
    let _ ← perform surroundings arguments current
    watch surroundings invocation arguments (← gatherFor surroundings invocation)

/-- Runs a command line. -/
def runMain (arguments : List String) : IO Nat := do
  let surroundings : Surroundings :=
    { workingDirectory := ⟨(← IO.currentDir).toString⟩
      allowsColours := (← IO.getEnv "NO_COLOR").isNone
      logFilter := ← IO.getEnv "STITCH_LOG" }
  match Invocation.parse arguments with
  | .error _ => perform surroundings arguments .empty
  | .ok invocation =>
    let status ← perform surroundings arguments (← gatherFor surroundings invocation)
    if invocation.isWatching && status = 0 then
      IO.eprintln "\nWatching for file changes... (press Ctrl+C to stop)"
      watch surroundings invocation arguments (← gatherFor surroundings invocation)
    else return status

end Splice.Main

/-- Runs the command line and exits with its status. -/
def main (arguments : List String) : IO UInt32 := do
  return (← Splice.Main.runMain arguments).toUInt32
