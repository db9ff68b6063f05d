import Splice.Number.Range

/-!
# Double-precision numbers

A finite number is a mantissa of at most 53 bits times a power of two.  Rounding is to nearest, ties
to the even mantissa, in exact arithmetic.
-/

namespace Splice

/-- A double-precision number.  In a finite one the mantissa has 53 bits unless the exponent is the
least one, so that each number has one form and two zeros differ in sign. -/
inductive Binary64 where
  | finite (negative : Bool) (mantissa : Nat) (exponent : Int)
  | infinity (negative : Bool)
  | nan
deriving DecidableEq, Repr

namespace Binary64

/-- The least exponent of a finite number. -/
def leastExponent : Int := -1074

/-- The greatest exponent of a finite number. -/
def greatestExponent : Int := 971

/-- The quotient of two naturals rounded to nearest, ties to even. -/
def roundDiv (num den : Nat) : Nat :=
  let quotient := num / den
  let twice := 2 * (num % den)
  if den < twice ∨ (twice = den ∧ quotient % 2 = 1) then quotient + 1 else quotient

/-- The fraction `num / den` divided by a power of two. -/
def scaleDown (num den : Nat) (exponent : Int) : Nat × Nat :=
  if 0 ≤ exponent then (num, den * twoTo exponent.toNat) else (num * twoTo (-exponent).toNat, den)

/-- The double nearest to `num / den`, with the given sign. -/
def ofRatio (negative : Bool) (num den : Nat) : Binary64 :=
  if num = 0 then .finite negative 0 leastExponent
  else
    let guess : Int := (num.log2 : Int) - den.log2 - 52
    let (high, low) := scaleDown num den guess
    let exponent := max (if high < twoTo 52 * low then guess - 1 else guess) leastExponent
    let (high, low) := scaleDown num den exponent
    let mantissa := roundDiv high low
    let (mantissa, exponent) :=
      if mantissa = twoTo 53 then (twoTo 52, exponent + 1) else (mantissa, exponent)
    if greatestExponent < exponent then .infinity negative
    else .finite negative mantissa exponent

/-- The double nearest to an integer. -/
def ofInt (value : Int) : Binary64 := ofRatio (value < 0) value.natAbs 1

/-- Whether the number is neither infinite nor `nan`. -/
def isFinite : Binary64 → Bool
  | finite .. => true
  | _ => false

/-- The number without its fraction, for a finite number. -/
def truncate? : Binary64 → Option Int
  | finite negative mantissa exponent =>
    let whole : Int :=
      if 0 ≤ exponent then mantissa * twoTo exponent.toNat else mantissa / twoTo (-exponent).toNat
    some (if negative then -whole else whole)
  | _ => none

end Binary64

end Splice
