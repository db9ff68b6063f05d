import Splice.Files.Basic
import Splice.Text.Lines
import Splice.Text.Utf8

/-!
# File trees

A tree of directories and files, with the operations of an operating system on it.  Unlike normal
paths, a path is walked step by step here, so every directory on the way has to be there.

Devices, permissions and links are left out: what stands in a tree can be read, a file can be
written in every directory, and a name leads to one place only.
-/

namespace Splice

/-- What a file holds. -/
inductive Content where
  | text (value : String)
  | bytes (value : List UInt8)
deriving DecidableEq, Repr

namespace Content

/-- The content as text, with broken parts replaced. -/
def lossy : Content → String
  | text value => value
  | bytes value => Text.decodeLossy value

/-- The content as text, if it is one. -/
def strict? : Content → Option String
  | text value => some value
  | bytes value => Text.decodeStrict? value

end Content

/-- What stands at a place. -/
inductive Item where
  | file (content : Content)
  | directory
deriving DecidableEq, Repr

/-- The names that lead from the root to a place. -/
abbrev Place := List String

/-- The items of a file system by their places.  The root is a directory. -/
structure FileTree where
  /-- The items below the root. -/
  items : List (Place × Item)
deriving DecidableEq, Repr

namespace FileTree

/-- A tree with nothing below the root. -/
def empty : FileTree := ⟨[]⟩

/-- The item at a place. -/
def item? (tree : FileTree) (place : Place) : Option Item :=
  if place = [] then some .directory else tree.items.lookup place

/-- The list of items with the one at a place set. -/
def put (place : Place) (item : Item) : List (Place × Item) → List (Place × Item)
  | [] => [(place, item)]
  | (other, old) :: items =>
    if other = place then (place, item) :: items else (other, old) :: put place item items

/-- The tree with the item at a place set. -/
def set (tree : FileTree) (place : Place) (item : Item) : FileTree := ⟨put place item tree.items⟩

/-- The tree with every missing item on the way to a place made a directory. -/
def setParents (tree : FileTree) (above : Place) : Place → FileTree
  | [] | [_] => tree
  | name :: below =>
    let place := above ++ [name]
    let tree := if (tree.item? place).isSome then tree else tree.set place .directory
    tree.setParents place below

/-- The tree with an item and the directories on the way to it. -/
def plant (tree : FileTree) (place : Place) (item : Item) : FileTree :=
  (tree.setParents [] place).set place item

/-! ## Walking -/

/-- One step of a walk. -/
def move (place : Place) : Path.Component → Place
  | .root => []
  | .here => place
  | .up => place.dropLast
  | .name text => place ++ [text]

/-- Walks from a place; every place that is left has to be a directory. -/
def walk (tree : FileTree) : Place → List Path.Component → Except FileError Place
  | place, [] => .ok place
  | place, step :: steps =>
    match tree.item? place with
    | none => .error .missing
    | some (.file _) => .error .notDirectory
    | some .directory => walk tree (move place step) steps

/-- The steps of an absolute path.  Unlike in its components, a `.` at the end is a step. -/
def steps (path : Path) : List Path.Component :=
  let segments := path.segments
  path.components ++ if 1 < segments.length ∧ (segments.getLast?.any (·.1 = ['.'])) then [.here] else []

/-- Whether a path ends with a separator after a name. -/
def endsOpen (path : Path) : Bool :=
  path.components.getLast?.any (· ≠ .root) && path.segments.getLast?.any (·.1 = [])

/-- The place that an absolute path names; something may stand there or not. -/
def locate (tree : FileTree) (path : Path) : Except FileError Place := tree.walk [] (steps path)

/-- The item that an absolute path names. -/
def find (tree : FileTree) (path : Path) : Except FileError Item := do
  let place ← tree.locate path
  match tree.item? place with
  | none => .error .missing
  | some (.file content) => if endsOpen path then .error .notDirectory else .ok (.file content)
  | some .directory => .ok .directory

/-! ## Operations -/

/-- Whether something is at a path. -/
def has (tree : FileTree) (path : Path) : Bool :=
  match tree.find path with
  | .ok _ => true
  | .error _ => false

/-- Whether a file is at a path. -/
def isFile (tree : FileTree) (path : Path) : Bool :=
  match tree.find path with
  | .ok (.file _) => true
  | _ => false

/-- The content of the file at a path. -/
def read (tree : FileTree) (path : Path) : Except FileError Content := do
  match ← tree.find path with
  | .file content => .ok content
  | .directory => .error .isDirectory

/-- The text of the file at a path. -/
def readText (tree : FileTree) (path : Path) : Except FileError String := do
  let content ← tree.read path
  match content.strict? with
  | some text => .ok text
  | none => .error .notText

/-- Whether the file at a path holds a text. -/
def holds (tree : FileTree) (path : Path) (text : String) : Bool :=
  match tree.readText path with
  | .ok current => current = text
  | .error _ => false

/-- The lines of the file at a path, with broken parts replaced. -/
def readLines (tree : FileTree) (path : Path) : Except FileError (List String) := do
  let content ← tree.read path
  .ok (Text.linesOf content.lossy)

/-- The names in the directory at a place. -/
def children (tree : FileTree) (place : Place) : List String :=
  tree.items.filterMap fun (other, _) =>
    if other.dropLast = place then other.getLast? else none

/-- The names in the directory at a path. -/
def entries (tree : FileTree) (path : Path) : Except FileError (List String) := do
  match ← tree.find path with
  | .file _ => .error .notDirectory
  | .directory => do
    let place ← tree.locate path
    .ok (sortedNames (tree.children place))

/-- Makes the directory that steps from the root lead to. -/
def makeDirectory (tree : FileTree) (steps : List Path.Component) : Except FileError FileTree := do
  let place ← tree.walk [] steps
  match tree.item? place with
  | none => .ok (tree.set place .directory)
  | some _ => .error .alreadyThere

/-- Whether steps from the root lead to a directory. -/
def isDirectory (tree : FileTree) (steps : List Path.Component) : Bool :=
  match tree.walk [] steps with
  | .ok place => tree.item? place = some .directory
  | .error _ => false

/-- Makes a directory and all that are missing on the way to it.  The steps come last first. -/
def makeDirectories (tree : FileTree) : (reversed : List Path.Component) → Except FileError FileTree
  | [] => .ok tree
  | last :: before =>
    let steps := (last :: before).reverse
    match tree.makeDirectory steps with
    | .ok tree => .ok tree
    | .error .missing => do
      let tree ← tree.makeDirectories before
      match tree.makeDirectory steps with
      | .ok tree => .ok tree
      | .error cause => if tree.isDirectory steps then .ok tree else .error cause
    | .error cause => if tree.isDirectory steps then .ok tree else .error cause

/-- Writes a text to the file at an absolute path. -/
def write (tree : FileTree) (path : Path) (text : String) : Except FileError FileTree := do
  let place ← tree.locate path
  if endsOpen path then .error .isDirectory
  else
    match tree.item? place with
    | some .directory => .error .isDirectory
    | _ => .ok (tree.set place (.file (.text text)))

/-- The items that are new or different in a tree. -/
def changesSince (tree before : FileTree) : List (Place × Item) :=
  tree.items.filter fun (place, item) => before.item? place ≠ some item

/-- The path of a place. -/
def pathOf (place : Place) : Path := .ofComponents (.root :: place.map .name)

/-- The tree as a place that files come from, with relative paths seen from a directory. -/
def view (tree : FileTree) (workingDirectory : Path) : Files where
  has path := tree.has (workingDirectory.join path)
  readLines path := tree.readLines (workingDirectory.join path)
  entries path := tree.entries (workingDirectory.join path)
  stored := tree.items.filterMap fun (place, item) =>
    match item with
    | .file _ => some (pathOf place)
    | .directory => none

end FileTree

end Splice
