import Splice.Json.Text
import Splice.Text.Blank
import Splice.Text.Case

/-!
# Projections

The closed set of conversions that a placeholder may apply to a value.  A projection that does not
fit the kind of a value gives nothing.
-/

namespace Splice

namespace Json

/-- The text that stands for a value in the output: a text as it is, anything else as compact JSON.
`null` has none. -/
def display? : Json → Option String
  | null => none
  | text value => some value
  | value => some value.compact

/-- The value of the integer literal at the start of a text, after blanks.  It is zero when there is
no digit or the value is no signed 64-bit integer. -/
def leadingInteger (text : List Char) : Int :=
  let (negative, rest) := Decimal.scanSign (Text.trimStart text)
  let size : Int := Decimal.natOfDigits (rest.takeWhile Decimal.isDigit)
  let value := if negative then -size else size
  if fitsSigned 64 value then value else 0

/-- The double nearest to the longest decimal literal at the start of a text, after blanks, or
zero. -/
def leadingDouble (text : List Char) : Binary64 :=
  match Decimal.scan? (Text.trimStart text) with
  | some (decimal, _) => decimal.toBinary64
  | none => .finite false 0 Binary64.leastExponent

/-- A double without its fraction, as a signed 64-bit integer. -/
def truncated (value : Binary64) : Option Int := value.truncate?.map (clampSigned 64)

end Json

/-- The conversions of a placeholder. -/
inductive Projection where
  | toText
  | toInteger
  | toDouble
  | inspect
  | upcase
  | downcase
  | strip
  | length
deriving DecidableEq, Repr

namespace Projection

/-- The projection of a name.  Each has two. -/
def ofName? (name : String) : Option Projection :=
  match name with
  | "to_s" | "toString" => some toText
  | "to_i" | "toInt" => some toInteger
  | "to_f" | "toFloat" => some toDouble
  | "inspect" | "quoted" => some inspect
  | "upcase" | "toUpperCase" => some upcase
  | "downcase" | "toLowerCase" => some downcase
  | "strip" | "trim" => some strip
  | "length" | "size" => some length
  | _ => none

/-- A number as an integer.  A signed 64-bit integer is itself; any other number goes through the
nearest double. -/
def integerOf? : Json → Option Int
  | .text value => some (Json.leadingInteger value.toList)
  | .whole value => if fitsSigned 64 value then some value else Json.truncated (Binary64.ofInt value)
  | .double value => Json.truncated value
  | _ => none

/-- A number as a double. -/
def doubleOf? : Json → Option Binary64
  | .text value => some (Json.leadingDouble value.toList)
  | .whole value => some (Binary64.ofInt value)
  | .double value => some value
  | _ => none

/-- The text on which the text projections work. -/
def textOf? : Json → Option (List Char)
  | .text value => some value.toList
  | _ => none

/-- The number of characters, items or fields. -/
def lengthOf? : Json → Option Nat
  | .text value => some value.toList.length
  | .array items => some items.length
  | .object fields => some fields.length
  | _ => none

/-- Applies a projection to a value. -/
def apply (projection : Projection) (value : Json) : Option Json :=
  match projection with
  | toText => value.display?.map .text
  | toInteger => (integerOf? value).map .whole
  | toDouble => ((doubleOf? value).filter Binary64.isFinite).map .double
  | inspect =>
    match value with
    | .null => none
    | other => some (.text other.compact)
  | upcase => (textOf? value).map fun text => .text (String.ofList (Text.Case.upper text))
  | downcase => (textOf? value).map fun text => .text (String.ofList (Text.Case.lower text))
  | strip => (textOf? value).map fun text => .text (String.ofList (Text.trim text))
  | length => (lengthOf? value).map fun size => .whole size

end Projection

end Splice
