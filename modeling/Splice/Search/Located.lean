import Splice.Path.Normal

/-!
# Located files

A file together with the way it was reached.  Its normal path identifies it.
-/

namespace Splice

/-- A place reached through a root or an alias. -/
structure Located where
  /-- The root, alias location or directory it was found under. -/
  root : Path
  /-- The way from there, as written. -/
  relative : Path
  /-- The path that identifies it. -/
  path : Path
  /-- The path is a normal one, so two ways to one file agree on it. -/
  normal : path.normalize = path
deriving DecidableEq, Repr

namespace Located

/-- The place that `relative` names under `root`. -/
def under (root relative : Path) : Located where
  root
  relative
  path := root.anchor relative
  normal := Path.normalize_anchor root relative

/-- The place at a path of its own. -/
def ofPath (path : Path) : Located where
  root := path.normalize.parent?.getD ⟨""⟩
  relative := ⟨path.normalize.fileName?.getD ""⟩
  path := path.normalize
  normal := path.normalize_normalize

@[simp]
theorem path_under (root relative : Path) :
    (under root relative).path = root.anchor relative := by
  rw [under]

@[simp]
theorem path_ofPath (path : Path) : (ofPath path).path = path.normalize := by
  rw [ofPath]

/-- Paths of located files that have the same components are the same. -/
theorem path_eq_of_components {left right : Located}
    (same : left.path.components = right.path.components) : left.path = right.path :=
  Path.eq_of_components left.normal right.normal same

/-- The directory that contains the place. -/
def directory (located : Located) : Path := located.path.parent?.getD located.path

end Located

end Splice
