import Splice.Proofs.Number.Digits
import Splice.Template.Projection

/-!
# Integers as integers

A whole number may lie between `-2 ^ 63` and `2 ^ 64 - 1`, but the integer of a value is a signed
word.  The numbers that are one are kept, also on the way through their text.  Those from `2 ^ 63`
on are not: the number itself goes through the nearest double, which is beyond all signed words, and
becomes the greatest of them, and its text becomes zero.
-/

namespace Splice

theorem twoTo_pos (exponent : Nat) : 0 < twoTo exponent := Nat.pow_pos (by decide)

theorem twoTo_add (left right : Nat) : twoTo (left + right) = twoTo left * twoTo right :=
  Nat.pow_add 2 left right

namespace Binary64

theorem le_roundDiv (num den : Nat) : num / den ≤ roundDiv num den := by
  unfold roundDiv
  dsimp only
  split
  · exact Nat.le_succ _
  · exact Nat.le_refl _

theorem truncate?_finite (mantissa exponent : Nat) :
    (finite false mantissa exponent).truncate? = some ((mantissa * twoTo exponent : Nat) : Int) := by
  simp [truncate?]

theorem twoTo_le_of_log2 {value bits : Nat} (size : value.log2 = bits) (positive : 0 < bits) :
    twoTo bits ≤ value := by
  subst size
  refine Nat.log2_self_le ?_
  rintro rfl
  exact absurd positive (by decide)

/-- A natural of at least 53 bits is rounded to a multiple of the power of two that leaves 53
bits. -/
theorem truncate?_ofInt {value extra : Nat} (size : value.log2 = 52 + extra) (small : extra < 971) :
    (ofInt value).truncate? =
      some ((roundDiv value (twoTo extra) * twoTo extra : Nat) : Int) := by
  have reached : twoTo 52 * twoTo extra ≤ value :=
    twoTo_add 52 extra ▸ twoTo_le_of_log2 size (by omega)
  have proper : value ≠ 0 := by
    have := Nat.mul_pos (twoTo_pos 52) (twoTo_pos extra)
    omega
  have unsigned : ¬ (value : Int) < 0 := by omega
  have guess : ((value.log2 : Int) - (1 : Nat).log2 - 52) = extra := by
    have one : (1 : Nat).log2 = 0 := by decide
    rw [size, one]
    omega
  have scaled : scaleDown value 1 extra = (value, twoTo extra) := by simp [scaleDown]
  have lowest : max (extra : Int) leastExponent = extra := by
    rw [leastExponent]
    omega
  have bounded : ¬ greatestExponent < (extra : Int) ∧ ¬ greatestExponent < (extra : Int) + 1 := by
    rw [greatestExponent]
    omega
  rw [ofInt, ofRatio, Int.natAbs_natCast, if_neg proper]
  simp only [guess, scaled, if_neg (Nat.not_lt.mpr reached), lowest, unsigned, decide_false]
  split
  · -- The mantissa has grown by one bit, which moves into the exponent.
    rename_i carried
    rw [if_neg bounded.2, carried]
    refine (truncate?_finite (twoTo 52) (extra + 1)).trans ?_
    rw [twoTo_add, ← Nat.mul_assoc, Nat.mul_right_comm]
    rfl
  · rw [if_neg bounded.1]
    exact truncate?_finite _ extra

/-- Rounding does not go below a power of two. -/
theorem twoTo_le_truncate {value extra : Nat} (size : value.log2 = 52 + extra)
    (small : extra < 971) :
    ∃ whole : Int, (ofInt value).truncate? = some whole ∧ (twoTo (52 + extra) : Int) ≤ whole := by
  refine ⟨_, truncate?_ofInt size small, ?_⟩
  have quotient : twoTo 52 ≤ value / twoTo extra := by
    rw [Nat.le_div_iff_mul_le (twoTo_pos extra), ← twoTo_add]
    exact twoTo_le_of_log2 size (by omega)
  rw [twoTo_add]
  exact Int.ofNat_le.mpr (Nat.mul_le_mul_right _ (Nat.le_trans quotient (le_roundDiv value _)))

end Binary64

/-! ## The text of an integer -/

theorem Text.trimStart_cons {c : Char} (solid : isBlank c = false) (text : List Char) :
    trimStart (c :: text) = c :: text :=
  List.dropWhile_cons_of_neg (by simp [solid])

/-- The text of a whole number is read as that number if it is a signed word, and as zero
otherwise. -/
theorem Json.leadingInteger_wholeText (value : Int) :
    leadingInteger (wholeText value).toList = if fitsSigned 64 value then value else 0 := by
  obtain ⟨first, others, digits, digit⟩ := Decimal.exists_digitsOf_eq_cons value.natAbs
  have read : Decimal.natOfDigits ((Decimal.digitsOf value.natAbs).takeWhile Decimal.isDigit) =
      value.natAbs := by
    rw [Decimal.takeWhile_digitsOf, Decimal.natOfDigits_digitsOf]
  by_cases negative : value < 0
  · have spelled : (wholeText value).toList = '-' :: Decimal.digitsOf value.natAbs := by
      simp [wholeText, negative]
    have size : -(value.natAbs : Int) = value := by omega
    rw [leadingInteger, spelled, Text.trimStart_cons (by decide), Decimal.scanSign]
    simp only [read, size, if_true]
  · have spelled : (wholeText value).toList = Decimal.digitsOf value.natAbs := by
      simp [wholeText, negative]
    have size : (value.natAbs : Int) = value := by omega
    have kept : Text.trimStart (Decimal.digitsOf value.natAbs) = Decimal.digitsOf value.natAbs := by
      rw [digits, Text.trimStart_cons (Decimal.isBlank_of_isDigit digit)]
    rw [leadingInteger, spelled, kept, Decimal.scanSign_digitsOf]
    simp [read, size]

/-! ## The projection -/

theorem fitsSigned_iff {value : Int} (least : -(twoTo 63 : Int) ≤ value) :
    fitsSigned 64 value = true ↔ value < twoTo 63 := by
  simp [fitsSigned, least]

/-- The double nearest to a number beyond the signed words is beyond them too. -/
theorem Json.truncated_of_large {value : Int} (large : (twoTo 63 : Int) ≤ value)
    (admitted : value < twoTo 64) :
    truncated (Binary64.ofInt value) = some ((twoTo 63 : Int) - 1) := by
  obtain ⟨size, rfl⟩ := Int.eq_ofNat_of_zero_le (Int.le_trans (Int.natCast_nonneg _) large)
  have lower : twoTo 63 ≤ size := Int.ofNat_le.mp large
  have bits : size.log2 = 52 + 11 := by
    have proper : size ≠ 0 := by
      have := twoTo_pos 63
      omega
    exact (Nat.log2_eq_iff proper).mpr ⟨lower, Int.ofNat_lt.mp admitted⟩
  obtain ⟨whole, rounded, beyond⟩ := Binary64.twoTo_le_truncate bits (by decide)
  have clamped : clampSigned 64 whole = (twoTo 63 : Int) - 1 := by
    have above : (twoTo 63 : Int) ≤ whole := beyond
    have positive := twoTo_pos 63
    simp only [clampSigned, Nat.reduceSub]
    omega
  rw [truncated, rounded, Option.map_some, clamped]

namespace Projection

/-- The integer of an admitted whole number is the number itself exactly if it is a signed word, and
so is the integer of its text.  For the other numbers, those from `2 ^ 63` on, the first is the
greatest signed word and the second is zero. -/
theorem toInteger_keeps_iff {value : Int} (least : -(twoTo 63 : Int) ≤ value)
    (greatest : value < twoTo 64) :
    (toInteger.apply (.whole value) = some (.whole value) ↔ value < twoTo 63) ∧
    ((toText.apply (.whole value)).bind toInteger.apply = some (.whole value) ↔
      value < twoTo 63) ∧
    ((twoTo 63 : Int) ≤ value →
      toInteger.apply (.whole value) = some (.whole ((twoTo 63 : Int) - 1)) ∧
      (toText.apply (.whole value)).bind toInteger.apply = some (.whole 0)) := by
  have throughText : (toText.apply (.whole value)).bind toInteger.apply =
      some (.whole (if fitsSigned 64 value then value else 0)) := by
    rw [← Json.leadingInteger_wholeText]
    rfl
  rw [throughText]
  by_cases word : value < twoTo 63
  · have fits := (fitsSigned_iff least).mpr word
    have kept : toInteger.apply (.whole value) = some (.whole value) := by
      simp [apply, integerOf?, fits]
    refine ⟨by simp [kept, word], by simp [fits, word], fun large => ?_⟩
    exact absurd word (Int.not_lt.mpr large)
  · have large : (twoTo 63 : Int) ≤ value := Int.not_lt.mp word
    have unfit : ¬ fitsSigned 64 value = true := fun fits => word ((fitsSigned_iff least).mp fits)
    have clamped : toInteger.apply (.whole value) = some (.whole ((twoTo 63 : Int) - 1)) := by
      simp [apply, integerOf?, unfit, Json.truncated_of_large large greatest]
    have positive := twoTo_pos 63
    have other : (twoTo 63 : Int) - 1 ≠ value ∧ 0 ≠ value := by omega
    rw [clamped, if_neg unfit]
    exact ⟨by simp [other.1, word], by simp [other.2, word], fun _ => ⟨rfl, rfl⟩⟩

/-- The greatest signed word is kept, and the next number is not. -/
theorem greatestWord_kept :
    toInteger.apply (.whole 9223372036854775807) = some (.whole 9223372036854775807) ∧
    (toText.apply (.whole 9223372036854775807)).bind toInteger.apply =
      some (.whole 9223372036854775807) ∧
    toInteger.apply (.whole 9223372036854775808) ≠ some (.whole 9223372036854775808) := by
  obtain ⟨direct, throughText, _⟩ :=
    @toInteger_keeps_iff 9223372036854775807 (by decide) (by decide)
  obtain ⟨beyond, _, _⟩ := @toInteger_keeps_iff 9223372036854775808 (by decide) (by decide)
  refine ⟨direct.mpr (by decide), throughText.mpr (by decide), fun kept => ?_⟩
  exact absurd (beyond.mp kept) (by decide)

/-- The number after the greatest signed word has two integers, and neither is the number. -/
theorem beyondWords_changed :
    toInteger.apply (.whole 9223372036854775808) = some (.whole 9223372036854775807) ∧
    (toText.apply (.whole 9223372036854775808)).bind toInteger.apply = some (.whole 0) := by
  have direct : integerOf? (.whole 9223372036854775808) = some 9223372036854775807 := by
    decide +kernel
  have throughText : integerOf? (.text "9223372036854775808") = some 0 := by decide +kernel
  have text : Json.wholeText 9223372036854775808 = "9223372036854775808" := by decide +kernel
  constructor
  · simp [apply, direct]
  · simp [apply, Json.display?, Json.compact, text, throughText]

end Projection

end Splice
