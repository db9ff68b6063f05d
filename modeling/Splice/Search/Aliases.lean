import Splice.Files.Basic
import Splice.Search.Located
import Splice.Table

/-!
# Aliases

Names that stand for locations.  A reference whose first component is such a name leads to the
location, or to the rest of the reference under it.
-/

namespace Splice

/-- Locations by name. -/
abbrev Aliases := Table Path

namespace Aliases

/-- The place that a reference names through an alias, if something is there. -/
def find? (aliases : Aliases) (files : Files) (reference : Path) : Option Located :=
  match reference.components with
  | .name first :: _ =>
    match Table.get? first aliases with
    | none => none
    | some location =>
      let rest := reference.dropComponents 1
      let located := if rest.text = "" then Located.ofPath location else Located.under location rest
      if files.has located.path then some located else none
  | _ => none

end Aliases

end Splice
