import Splice.Number.Binary64
import Splice.Table

/-!
# Values

The values of constants: the JSON values, with whole numbers kept apart from doubles.
-/

namespace Splice

/-- A JSON value.  A whole number lies between `-2 ^ 63` and `2 ^ 64 - 1`, a double is finite, and
the fields of an object stand in increasing order of their names. -/
inductive Json where
  | null
  | bool (value : Bool)
  | whole (value : Int)
  | double (value : Binary64)
  | text (value : String)
  | array (items : List Json)
  | object (fields : List (String × Json))
deriving Inhabited, Repr

namespace Json

/-- The object with the given fields.  The last value of a name counts. -/
def ofFields (fields : List (String × Json)) : Json := .object (Table.ofList fields)

end Json

end Splice
