import Splice.Table
import Splice.Toml.DateTime

/-!
# TOML values
-/

namespace Splice

/-- A TOML value.  The entries of a table stand in increasing order of their names. -/
inductive Toml where
  | string (value : String)
  | integer (value : Int)
  | float (value : Binary64)
  | boolean (value : Bool)
  | dateTime (value : Toml.DateTime)
  | array (items : List Toml)
  | table (entries : List (String × Toml))
deriving Inhabited, Repr

end Splice
