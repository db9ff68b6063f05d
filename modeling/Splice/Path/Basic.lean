/-!
# Paths

A path keeps its spelling.  Its meaning is the list of its components: empty segments and `.` say
nothing, except a `.` that opens a relative path, and `..` is kept.
-/

namespace Splice

/-- A path as it was written. -/
structure Path where
  /-- The spelling of the path. -/
  text : String
deriving DecidableEq, Repr, Inhabited

namespace Path

/-- One step of a path. -/
inductive Component where
  /-- The separator that opens an absolute path. -/
  | root
  /-- The `.` that opens a relative path. -/
  | here
  /-- The step `..`. -/
  | up
  /-- A step into the entry of that name. -/
  | name (text : String)
deriving DecidableEq, Repr

/-- The spelling of a component. -/
def Component.text : Component → String
  | root => "/"
  | here => "."
  | up => ".."
  | name text => text

/-- The component that a segment after the first one stands for. -/
def innerComponent (segment : List Char) : Option Component :=
  if segment = [] ∨ segment = ['.'] then none
  else if segment = ['.', '.'] then some .up
  else some (.name (String.ofList segment))

/-- The segments between separators, each with the component it stands for. -/
def segments (path : Path) : List (List Char × Option Component) :=
  match path.text.toList.splitOn '/' with
  | [] => []
  | [] :: [] => []
  | [] :: others => ([], some .root) :: others.map fun segment => (segment, innerComponent segment)
  | ['.'] :: others => (['.'], some .here) :: others.map fun segment => (segment, innerComponent segment)
  | all => all.map fun segment => (segment, innerComponent segment)

/-- The components of a path, which decide what it names. -/
def components (path : Path) : List Component := path.segments.filterMap (·.2)

/-- Two spellings of one path. -/
def same (left right : Path) : Bool := left.components = right.components

/-- Whether a path starts at the root. -/
def isAbsolute (path : Path) : Bool := path.text.toList.head? = some '/'

/-- The plain spelling of a list of components. -/
def ofComponents : List Component → Path
  | .root :: others => ⟨"/" ++ "/".intercalate (others.map Component.text)⟩
  | others => ⟨"/".intercalate (others.map Component.text)⟩

/-- The path `extra` seen from `base`.  An absolute `extra` stands for itself; an empty one leaves a
trailing separator. -/
def join (base extra : Path) : Path :=
  if extra.isAbsolute then extra
  else if base.text.toList.getLast? = some '/' ∨ base.text = "" then ⟨base.text ++ extra.text⟩
  else ⟨base.text ++ "/" ++ extra.text⟩

/-- The path of the containing directory, unless the path is empty or the root. -/
def parent? (path : Path) : Option Path :=
  match path.components.getLast? with
  | none | some .root => none
  | some _ => some (ofComponents path.components.dropLast)

/-- The last component when it is a name. -/
def fileName? (path : Path) : Option String :=
  match path.components.getLast? with
  | some (.name text) => some text
  | _ => none

/-- What follows the last point of the file name.  A name whose only point comes first has no
extension. -/
def extension? (path : Path) : Option String :=
  path.fileName?.bind fun name =>
    let stem := name.toList.reverse.dropWhile (· ≠ '.')
    if stem.length ≤ 1 then none
    else some (String.ofList (name.toList.reverse.takeWhile (· ≠ '.')).reverse)

/-- Whether `path` is `base` or lies under it. -/
def startsWith (path base : Path) : Bool := base.components.isPrefixOf path.components

/-- The segments left after the first `count` components. -/
def dropSegments : Nat → List (List Char × Option Component) → List (List Char × Option Component)
  | 0, segments => segments
  | _ + 1, [] => []
  | count + 1, (_, none) :: segments => dropSegments (count + 1) segments
  | count + 1, (_, some _) :: segments => dropSegments count segments

/-- The rest of a path after its first `count` components, spelled as in the path. -/
def dropComponents (count : Nat) (path : Path) : Path :=
  let silent := fun (segment : List Char × Option Component) => segment.2.isNone
  let kept := (dropSegments count path.segments).dropWhile silent
  let kept := (kept.reverse.dropWhile silent).reverse
  ⟨"/".intercalate (kept.map fun segment => String.ofList segment.1)⟩

/-- The path as seen from `base`, when it is `base` or lies under it. -/
def relativeTo? (path base : Path) : Option Path :=
  if path.startsWith base then some (path.dropComponents base.components.length) else none

instance : ToString Path := ⟨Path.text⟩

end Path

end Splice
