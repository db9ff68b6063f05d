import Splice.Search.Located

/-!
# Resolutions

The outcome of a session: the files in the order of the output with their rendered lines, and the
locations that they provide.
-/

namespace Splice

/-- A location declared by a `provide`. -/
structure Asset where
  /-- The normal path of the location. -/
  path : Path
  /-- The name it is provided under. -/
  label : Option String
  /-- The file that declares it. -/
  declaredIn : Path
  /-- The line that declares it. -/
  line : Nat
deriving DecidableEq, Repr

/-- A file of the output and its lines, each with its line feed. -/
structure Rendered where
  /-- The file. -/
  file : Located
  /-- The lines that reach the output. -/
  lines : List String
deriving DecidableEq, Repr

/-- The outcome of a session. -/
structure Resolution where
  /-- The files in order. -/
  sources : List Rendered
  /-- The declared locations in order. -/
  provided : List Asset
deriving DecidableEq, Repr

namespace Resolution

/-- No files and no locations. -/
def empty : Resolution := ⟨[], []⟩

/-- The paths of the files. -/
def paths (resolution : Resolution) : List Path := resolution.sources.map (·.file.path)

/-- Adds a location unless it was declared under the same name before. -/
def addAsset (resolution : Resolution) (asset : Asset) : Resolution :=
  if resolution.provided.any fun other => other.path = asset.path && other.label = asset.label then
    resolution
  else { resolution with provided := resolution.provided ++ [asset] }

/-- Adding a location leaves the files alone. -/
@[simp]
theorem sources_addAsset (resolution : Resolution) (asset : Asset) :
    (resolution.addAsset asset).sources = resolution.sources := by
  unfold addAsset
  split <;> rfl

/-- Adds a file. -/
def addSource (resolution : Resolution) (source : Rendered) : Resolution :=
  { resolution with sources := resolution.sources ++ [source] }

/-- A file is added at the end. -/
@[simp]
theorem paths_addSource (resolution : Resolution) (source : Rendered) :
    (resolution.addSource source).paths = resolution.paths ++ [source.file.path] := by
  simp [paths, addSource]

/-- The output: the lines of all files in order. -/
def concatenate (resolution : Resolution) : String :=
  String.join (resolution.sources.flatMap (·.lines))

end Resolution

end Splice
