import Splice.Json.Basic
import Splice.Number.Shortest

/-!
# The text of a value

Compact JSON text: no blanks between tokens, and doubles with the fewest digits that read back.
-/

namespace Splice

namespace Decimal

/-- The digits of a natural. -/
def digitsOf (value : Nat) : List Char := Nat.toDigits 10 value

/-- Where a decimal is written without an exponent: the powers of ten of the leading digit. -/
structure Layout where
  /-- The least leading place in positional notation. -/
  least : Int
  /-- The greatest leading place in positional notation. -/
  greatest : Int

/-- The decimal as text.  Positional notation has at least one digit on either side of the point; an
exponent has a sign and follows the digits without a needless point. -/
def layOut (layout : Layout) (decimal : Decimal) : List Char :=
  let digits := digitsOf decimal.digits
  let place : Int := decimal.exponent + digits.length - 1
  let body :=
    if decimal.digits = 0 then ['0', '.', '0']
    else if layout.least ≤ place ∧ place ≤ layout.greatest then
      if 0 ≤ decimal.exponent then digits ++ List.replicate decimal.exponent.toNat '0' ++ ['.', '0']
      else if 0 ≤ place then
        digits.take (place.toNat + 1) ++ ['.'] ++ digits.drop (place.toNat + 1)
      else ['0', '.'] ++ List.replicate ((-place).toNat - 1) '0' ++ digits
    else
      let mantissa :=
        match digits with
        | first :: second :: others => first :: '.' :: second :: others
        | few => few
      let sign := if place < 0 then '-' else '+'
      mantissa ++ ['e', sign] ++ digitsOf place.natAbs
  if decimal.negative then '-' :: body else body

end Decimal

namespace Json

/-- Doubles are positional from `0.00001` to below `10 ^ 16`. -/
def layout : Decimal.Layout := ⟨-5, 15⟩

/-- The lower-case hexadecimal digit of a number below sixteen. -/
def hexDigit (value : Nat) : Char := ("0123456789abcdef".toList)[value]?.getD '0'

/-- A character inside a JSON string.  Quotes, backslashes and control characters are escaped, the
common ones by a letter. -/
def escapeChar (c : Char) : List Char :=
  if c = '"' then ['\\', '"']
  else if c = '\\' then ['\\', '\\']
  else if c = '\n' then ['\\', 'n']
  else if c = '\r' then ['\\', 'r']
  else if c = '\t' then ['\\', 't']
  else if c = '\x08' then ['\\', 'b']
  else if c = '\x0c' then ['\\', 'f']
  else if c.toNat < 0x20 then ['\\', 'u', '0', '0', hexDigit (c.toNat / 16), hexDigit (c.toNat % 16)]
  else [c]

/-- A text as a JSON string. -/
def quote (text : String) : String :=
  String.ofList ('"' :: text.toList.flatMap escapeChar ++ ['"'])

/-- A whole number in decimal. -/
def wholeText (value : Int) : String :=
  let digits := Decimal.digitsOf value.natAbs
  String.ofList (if value < 0 then '-' :: digits else digits)

/-- The text of a double.  A number that is not finite has no JSON form and reads `null`. -/
def doubleText : Binary64 → String
  | .finite negative mantissa exponent =>
    String.ofList ((Binary64.shortest negative mantissa exponent).layOut layout)
  | _ => "null"

mutual

/-- The compact text of a value. -/
def compact : Json → String
  | null => "null"
  | bool value => if value then "true" else "false"
  | whole value => wholeText value
  | double value => doubleText value
  | text value => quote value
  | array items => "[" ++ ",".intercalate (compactItems items) ++ "]"
  | object fields => "\x7b" ++ ",".intercalate (compactFields fields) ++ "\x7d"

/-- The texts of the items of an array. -/
def compactItems : List Json → List String
  | [] => []
  | item :: items => compact item :: compactItems items

/-- The texts of the fields of an object. -/
def compactFields : List (String × Json) → List String
  | [] => []
  | (name, value) :: fields => (quote name ++ ":" ++ compact value) :: compactFields fields

end

end Json

end Splice
