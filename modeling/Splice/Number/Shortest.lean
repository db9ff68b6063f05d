import Splice.Number.Decimal

/-!
# Shortest decimals

The fewest digits that read back as the same double and, among those, the ones nearest to it.
-/

namespace Splice.Binary64

/-- Whether `digits · 10 ^ place` rounds to the finite number `mantissa · 2 ^ exponent`.  The reals
that do so reach halfway to the neighbours, ends included for an even mantissa; below a power of two
the neighbour is half as far. -/
def readsBack (mantissa : Nat) (exponent : Int) (digits : Nat) (place : Int) : Bool :=
  let narrow := mantissa = twoTo 52 ∧ leastExponent < exponent
  -- Everything is measured in quarters of the unit of the mantissa.
  let low := if narrow then 4 * mantissa - 1 else 4 * mantissa - 2
  let high := 4 * mantissa + 2
  let (num, den) :=
    if 0 ≤ place then (digits * tenTo place.toNat, 1) else (digits, tenTo (-place).toNat)
  let (num, den) := scaleDown (4 * num) den exponent
  if mantissa % 2 = 0 then low * den ≤ num && num ≤ high * den
  else low * den < num && num < high * den

/-- The candidate with digits down to the given place, if one of the two neighbours there reads
back.  The nearer one wins, and of two equally near ones the even one. -/
def candidate? (mantissa : Nat) (exponent place : Int) : Option Nat :=
  let (num, den) :=
    if 0 ≤ exponent then (mantissa * twoTo exponent.toNat, 1)
    else (mantissa, twoTo (-exponent).toNat)
  let (num, den) :=
    if 0 ≤ place then (num, den * tenTo place.toNat) else (num * tenTo (-place).toNat, den)
  let near := roundDiv num den
  let far := if near * den ≤ num then near + 1 else near - 1
  if readsBack mantissa exponent near place then some near
  else if readsBack mantissa exponent far place then some far
  else none

/-- The position of the leading digit of a positive finite number: the power of ten at or below
it. -/
def leadingPlace (mantissa : Nat) (exponent : Int) : Int :=
  if 0 ≤ exponent then Decimal.digitCount (mantissa * twoTo exponent.toNat) - 1
  else
    let den := twoTo (-exponent).toNat
    let guess : Int := (Decimal.digitCount mantissa : Int) - Decimal.digitCount den
    let reached :=
      if 0 ≤ guess then den * tenTo guess.toNat ≤ mantissa else den ≤ mantissa * tenTo (-guess).toNat
    if reached then guess else guess - 1

/-- Moves trailing zeros of the digits into the exponent. -/
def stripZeros : Nat → Nat → Int → Nat × Int
  | 0, digits, place => (digits, place)
  | fuel + 1, digits, place =>
    if digits ≠ 0 ∧ digits % 10 = 0 then stripZeros fuel (digits / 10) (place + 1)
    else (digits, place)

/-- The shortest decimal of a finite number.  Seventeen digits always read back. -/
def shortest (negative : Bool) (mantissa : Nat) (exponent : Int) : Decimal :=
  if mantissa = 0 then ⟨negative, 0, 0⟩
  else
    let top := leadingPlace mantissa exponent
    let found := (List.range 17).findSome? fun (count : Nat) =>
      (candidate? mantissa exponent (top - count)).map fun digits => (digits, top - count)
    let exact :=
      if 0 ≤ exponent then (mantissa * twoTo exponent.toNat, 0)
      else (mantissa * fiveTo (-exponent).toNat, exponent)
    let (digits, place) := found.getD exact
    let (digits, place) := stripZeros 20 digits place
    ⟨negative, digits, place⟩

end Splice.Binary64
