/-!
# Powers and ranges

The powers that numbers are scaled by, and the ranges of the words that hold whole numbers.
-/

namespace Splice

/-- `2 ^ exponent`. -/
def twoTo (exponent : Nat) : Nat := Nat.pow 2 exponent

/-- `5 ^ exponent`. -/
def fiveTo (exponent : Nat) : Nat := Nat.pow 5 exponent

/-- `10 ^ exponent`. -/
def tenTo (exponent : Nat) : Nat := Nat.pow 10 exponent

/-- Whether a number fits a signed word of the given number of bits. -/
def fitsSigned (bits : Nat) (value : Int) : Bool :=
  -(twoTo (bits - 1) : Int) ≤ value && value < twoTo (bits - 1)

/-- Whether a number lies between the least number of signed words of the given number of bits and
the greatest one of unsigned words. -/
def fitsWord (bits : Nat) (value : Int) : Bool :=
  -(twoTo (bits - 1) : Int) ≤ value && value < twoTo bits

/-- The nearest number that fits a signed word. -/
def clampSigned (bits : Nat) (value : Int) : Int :=
  max (-(twoTo (bits - 1) : Int)) (min value (twoTo (bits - 1) - 1))

end Splice
