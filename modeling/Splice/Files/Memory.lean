import Splice.Files.Basic
import Splice.Text.Lines

/-!
# Files in memory

A finite map from paths to contents.  Two spellings with the same components are one path, and a
directory is there when some file lies below it.
-/

namespace Splice

/-- The stored files, by the components of their paths. -/
structure MemoryFiles where
  /-- The files in order of their first insertion. -/
  files : List (List Path.Component × String)
deriving DecidableEq, Repr

namespace MemoryFiles

/-- A store without files. -/
def empty : MemoryFiles := ⟨[]⟩

/-- The content stored at a list of components. -/
def content? (store : MemoryFiles) (key : List Path.Component) : Option String :=
  store.files.lookup key

/-- The list of files in which `key` has the content. -/
def put (key : List Path.Component) (content : String) :
    List (List Path.Component × String) → List (List Path.Component × String)
  | [] => [(key, content)]
  | (other, old) :: files =>
    if other = key then (key, content) :: files else (other, old) :: put key content files

/-- Stores a file, in place of an earlier one at the same path. -/
def insert (store : MemoryFiles) (path : Path) (content : String) : MemoryFiles :=
  ⟨put path.components content store.files⟩

/-- The components of the files strictly below a path. -/
def below (store : MemoryFiles) (key : List Path.Component) : List (List Path.Component) :=
  (store.files.map (·.1)).filter fun other => other ≠ key && key.isPrefixOf other

/-- Whether a directory is implied at a path. -/
def isDirectory (store : MemoryFiles) (path : Path) : Bool :=
  !(store.below path.components).isEmpty

/-- Whether a file or a directory is at a path. -/
def has (store : MemoryFiles) (path : Path) : Bool :=
  (store.content? path.components).isSome || store.isDirectory path

/-- The lines of the file at a path. -/
def readLines (store : MemoryFiles) (path : Path) : Except FileError (List String) :=
  match store.content? path.components with
  | some content => .ok (Text.linesOf content)
  | none => .error (.noFile path)

/-- The names directly below a path. -/
def entries (store : MemoryFiles) (path : Path) : Except FileError (List String) :=
  if store.isDirectory path then
    .ok (sortedNames ((store.below path.components).filterMap fun key =>
      (key[path.components.length]?).map Path.Component.text))
  else .error (.noDirectory path)

/-- The store as a place that files come from. -/
def view (store : MemoryFiles) : Files where
  has := store.has
  readLines := store.readLines
  entries := store.entries
  stored := store.files.map fun file => Path.ofComponents file.1

end MemoryFiles

end Splice
