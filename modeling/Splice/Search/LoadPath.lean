import Splice.Files.Basic
import Splice.Search.Located

/-!
# The load path

The roots under which files are searched, each once, the one registered last first.
-/

namespace Splice

/-- A base under which files are searched. -/
@[ext]
structure Root where
  /-- The path of the base. -/
  path : Path
  /-- The path is a normal one, so a base is spelled in one way. -/
  normal : path.normalize = path
deriving Repr

namespace Root

instance : DecidableEq Root := fun one other =>
  decidable_of_iff (one.path = other.path) Root.ext_iff.symm

/-- The base that `location` stands for under a path. -/
def under (base location : Path) : Root where
  path := base.anchor location
  normal := Path.normalize_anchor base location

/-- The base at a path of its own. -/
def ofPath (path : Path) : Root where
  path := path.normalize
  normal := path.normalize_normalize

instance : Coe Path Root := ⟨ofPath⟩

instance : CoeOut Root Path := ⟨path⟩

@[simp]
theorem path_under (base location : Path) : (under base location).path = base.anchor location := by
  rw [under]

/-- The place that `reference` names under a root, if something is there. -/
def find? (files : Files) (root : Root) (reference : Path) : Option Located :=
  let located := Located.under root reference
  if files.has located.path then some located else none

end Root

/-- The search bases in order of priority. -/
structure LoadPath where
  /-- The bases, highest priority first. -/
  bases : List Root
deriving DecidableEq, Repr

namespace LoadPath

/-- A load path without roots. -/
def empty : LoadPath := ⟨[]⟩

/-- The paths of the bases. -/
def roots (loadPath : LoadPath) : List Path := loadPath.bases.map Root.path

/-- Gives a root the highest priority. -/
def register (loadPath : LoadPath) (root : Root) : LoadPath :=
  ⟨root :: loadPath.bases.filter (· ≠ root)⟩

/-- Every place that `reference` names, highest priority first. -/
def findAll (loadPath : LoadPath) (files : Files) (reference : Path) : List Located :=
  loadPath.bases.filterMap fun root => Root.find? files root reference

/-- The place that `reference` names under the first root that has it. -/
def find? (loadPath : LoadPath) (files : Files) (reference : Path) : Option Located :=
  loadPath.bases.findSome? fun root => Root.find? files root reference

/-- The roots to watch: those that lie under no other root. -/
def watched (loadPath : LoadPath) : List Path :=
  loadPath.roots.filter fun root =>
    !loadPath.roots.any fun other => other ≠ root && root.startsWith other

end LoadPath

end Splice
