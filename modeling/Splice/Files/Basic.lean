import Splice.Path.Basic

/-!
# Files

What a build asks of the place its files come from: whether something is there, the lines of a file
and the names in a directory.
-/

namespace Splice

/-- Why a file or a directory cannot be used. -/
inductive FileError where
  /-- No file is stored at the path. -/
  | noFile (path : Path)
  /-- No directory is implied at the path. -/
  | noDirectory (path : Path)
  /-- Nothing is there. -/
  | missing
  /-- A directory stands where a file is wanted. -/
  | isDirectory
  /-- A file stands where a directory is wanted. -/
  | notDirectory
  /-- A file stands where a directory is to be made. -/
  | alreadyThere
  /-- The content of a file is no text. -/
  | notText
  /-- An empty path names no place. -/
  | emptyPath
deriving DecidableEq, Repr

/-- The wording of a file error. -/
def FileError.message : FileError → String
  | noFile path => "no such file: " ++ path.text
  | noDirectory path => "no such directory: " ++ path.text
  | missing => "No such file or directory (os error 2)"
  | isDirectory => "Is a directory (os error 21)"
  | notDirectory => "Not a directory (os error 20)"
  | alreadyThere => "File exists (os error 17)"
  | notText => "stream did not contain valid UTF-8"
  | emptyPath => "cannot make an empty path absolute"

/-- A place that files come from. -/
structure Files where
  /-- Whether a file or a directory is at the path. -/
  has : Path → Bool
  /-- The lines of the file at the path. -/
  readLines : Path → Except FileError (List String)
  /-- The names in the directory at the path, in increasing order. -/
  entries : Path → Except FileError (List String)
  /-- The paths of all files. -/
  stored : List Path

/-- Names in increasing order with one more name in its place, unless it is there. -/
def insertName (name : String) : List String → List String
  | [] => [name]
  | other :: others =>
    if name = other then other :: others
    else if name < other then name :: other :: others
    else other :: insertName name others

/-- The distinct names of a list, in increasing order. -/
def sortedNames (names : List String) : List String := names.foldr insertName []

theorem mem_insertName {name new : String} {names : List String} :
    name ∈ insertName new names ↔ name = new ∨ name ∈ names := by
  induction names with
  | nil => simp [insertName]
  | cons other others ih =>
      simp only [insertName]
      split
      · simp_all
      · split
        · simp
        · simp only [List.mem_cons, ih]
          exact or_left_comm

theorem mem_sortedNames {name : String} {names : List String} :
    name ∈ sortedNames names ↔ name ∈ names := by
  induction names with
  | nil => simp [sortedNames]
  | cons first others ih =>
      rw [sortedNames, List.foldr_cons, mem_insertName, List.mem_cons, ← ih]
      rfl

end Splice
