import Splice.Log
import Splice.Search.LoadPath
import Splice.Template.Placeholder
import Splice.Yaml.Value

/-!
# Constants

Every root of the load path may hold a resource of constants.  A root of higher priority replaces
whole values, and configuration replaces what was found.  Resources are written in YAML, unless
another way to parse them is given.
-/

namespace Splice

/-- What a root contributes. -/
inductive Contribution where
  /-- The root cannot be listed. -/
  | unreadable
  /-- The root has no resource. -/
  | absent
  /-- The resource is of no use. -/
  | ignored (path : Path) (cause : ResourceError)
  /-- The constants of the resource. -/
  | constants (constants : Mapping Json)

namespace Constants

/-- Reads the resource at a path, which has to hold a mapping or nothing. -/
def readResource (files : Files) (path : Path) (parse : String → Option Json := Yaml.read?) :
    Except ResourceError (Mapping Json) :=
  match files.readLines path with
  | .error cause => .error (.unreadable cause)
  | .ok lines =>
    match parse ("\n".intercalate lines) with
    | none => .error .malformed
    | some (.object fields) => .ok (.ofList fields)
    | some .null => .ok .empty
    | some other => .error (.notMapping other)

/-- What a root contributes under the given resource name. -/
def ofRoot (files : Files) (name : String) (root : Root)
    (parse : String → Option Json := Yaml.read?) : Contribution :=
  match files.entries root with
  | .error _ => .unreadable
  | .ok names =>
    if name ∈ names then
      let path := root.path.join ⟨name⟩
      match readResource files path parse with
      | .ok constants => .constants constants
      | .error cause => .ignored path cause
    else .absent

/-- The constants found under the roots, the highest priority on top. -/
def ofRoots (files : Files) (name : String) (loadPath : LoadPath)
    (parse : String → Option Json := Yaml.read?) : Mapping Json :=
  loadPath.bases.foldr (fun root constants =>
    match ofRoot files name root parse with
    | .constants found => constants.overlay found
    | _ => constants) .empty

/-- What there is to report about the roots, from the lowest priority on. -/
def events (files : Files) (name : String) (loadPath : LoadPath)
    (parse : String → Option Json := Yaml.read?) : List Event :=
  loadPath.bases.reverse.filterMap fun root =>
    match ofRoot files name root parse with
    | .unreadable => some (.skippedRoot root)
    | .ignored path cause => some (.ignoredConstants path cause)
    | _ => none

end Constants

/-- The constants of an environment and where they come from. -/
structure ConstantPool where
  /-- The name of the resource under each root. -/
  resource : String
  /-- The constants given by configuration. -/
  configured : Mapping Json
  /-- The constants found under the roots. -/
  found : Mapping Json
  /-- The constants in force. -/
  merged : Mapping Json

namespace ConstantPool

/-- A pool that has not looked at any root. -/
def ofConfigured (resource : String) (configured : Mapping Json) : ConstantPool :=
  ⟨resource, configured, .empty, configured⟩

/-- Looks at all roots again. -/
def reload (pool : ConstantPool) (files : Files) (loadPath : LoadPath)
    (parse : String → Option Json := Yaml.read?) : ConstantPool :=
  let found := Constants.ofRoots files pool.resource loadPath parse
  { pool with found, merged := found.overlay pool.configured }

end ConstantPool

end Splice
