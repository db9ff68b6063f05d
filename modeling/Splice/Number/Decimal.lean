import Splice.Number.Binary64

/-!
# Decimal literals

A decimal is a sign, a natural and a power of ten.  A literal has digits with at most one point
among or beside them and may end in a complete exponent.
-/

namespace Splice

/-- The number `± digits · 10 ^ exponent`. -/
structure Decimal where
  /-- Whether the number has a minus sign. -/
  negative : Bool
  /-- The digits as a natural. -/
  digits : Nat
  /-- The power of ten. -/
  exponent : Int
deriving DecidableEq, Repr

namespace Decimal

/-- The ten digits. -/
def isDigit (c : Char) : Bool := '0' ≤ c && c ≤ '9'

/-- The natural that digits stand for. -/
def natOfDigits (digits : List Char) : Nat :=
  digits.foldl (fun value c => 10 * value + (c.toNat - '0'.toNat)) 0

/-- A sign at the start of a text, where `true` means minus, and what follows it. -/
def scanSign : List Char → Bool × List Char
  | '-' :: rest => (true, rest)
  | '+' :: rest => (false, rest)
  | text => (false, text)

/-- A complete exponent at the start of a text, or zero and the text itself. -/
def scanExponent (text : List Char) : Int × List Char :=
  match text with
  | c :: rest =>
    if c = 'e' ∨ c = 'E' then
      let (negative, rest) := scanSign rest
      match rest.takeWhile isDigit with
      | [] => (0, text)
      | digits =>
        let size : Int := natOfDigits digits
        (if negative then -size else size, rest.dropWhile isDigit)
    else (0, text)
  | [] => (0, text)

/-- The longest decimal literal at the start of a text, and what follows it. -/
def scan? (text : List Char) : Option (Decimal × List Char) :=
  let (negative, rest) := scanSign text
  let whole := rest.takeWhile isDigit
  let rest := rest.dropWhile isDigit
  let (part, rest) :=
    match rest with
    | '.' :: tail => (tail.takeWhile isDigit, tail.dropWhile isDigit)
    | _ => ([], rest)
  if whole = [] ∧ part = [] then none
  else
    let (exponent, rest) := scanExponent rest
    some (⟨negative, natOfDigits (whole ++ part), exponent - part.length⟩, rest)

/-- The decimal of a text that is one literal. -/
def parse? (text : List Char) : Option Decimal :=
  match scan? text with
  | some (decimal, []) => some decimal
  | _ => none

/-- How many digits a natural has. -/
def digitCount (value : Nat) : Nat := (Nat.toDigits 10 value).length

/-- The double nearest to a decimal.  Magnitudes beyond all doubles need no exact arithmetic. -/
def toBinary64 (decimal : Decimal) : Binary64 :=
  let size : Int := digitCount decimal.digits + decimal.exponent
  if decimal.digits = 0 ∨ size < -400 then .finite decimal.negative 0 Binary64.leastExponent
  else if 400 < size then .infinity decimal.negative
  else if 0 ≤ decimal.exponent then
    Binary64.ofRatio decimal.negative (decimal.digits * tenTo decimal.exponent.toNat) 1
  else Binary64.ofRatio decimal.negative decimal.digits (tenTo (-decimal.exponent).toNat)

end Decimal

end Splice
