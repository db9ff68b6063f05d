import Mathlib.Data.List.TakeWhile
import Splice.Json.Text
import Splice.Text.Blank

/-!
# Digits

The decimal digits of a natural are read back as that natural.  A digit is no blank and no sign, so
nothing of a number is lost when a text is trimmed or a sign is looked for.
-/

namespace Splice.Decimal

theorem natOfDigits_digitsOf (value : Nat) : natOfDigits (digitsOf value) = value :=
  Nat.ofDigitChars_ten_toDigits

theorem isDigit_of_mem_digitsOf {value : Nat} {c : Char} (member : c ∈ digitsOf value) :
    isDigit c = true := by
  have digit : c.isDigit = true := Nat.isDigit_of_mem_toDigits (by decide) (by decide) member
  simpa [Char.isDigit, isDigit, Char.le_def] using digit

/-- The digits of a natural begin with a digit. -/
theorem exists_digitsOf_eq_cons (value : Nat) :
    ∃ first others, digitsOf value = first :: others ∧ isDigit first = true := by
  have nonempty : digitsOf value ≠ [] := Nat.toDigits_ne_nil
  obtain ⟨first, others, digits⟩ := List.exists_cons_of_ne_nil nonempty
  have member : first ∈ digitsOf value := by simp [digits]
  exact ⟨first, others, digits, isDigit_of_mem_digitsOf member⟩

theorem takeWhile_digitsOf (value : Nat) : (digitsOf value).takeWhile isDigit = digitsOf value :=
  List.takeWhile_eq_self_iff.mpr fun _ member => isDigit_of_mem_digitsOf member

theorem isBlank_of_isDigit {c : Char} (digit : isDigit c = true) : Text.isBlank c = false := by
  have bounds : 48 ≤ c.toNat ∧ c.toNat ≤ 57 := by
    simpa [isDigit, Char.le_def, UInt32.le_iff_toNat_le] using digit
  simp only [Text.isBlank, Bool.or_eq_false_iff, Bool.and_eq_false_iff, decide_eq_false_iff_not,
    beq_eq_false_iff_ne]
  omega

/-- Digits begin with no sign. -/
theorem scanSign_digitsOf (value : Nat) : scanSign (digitsOf value) = (false, digitsOf value) := by
  obtain ⟨first, others, digits, digit⟩ := exists_digitsOf_eq_cons value
  rw [digits, scanSign.eq_def]
  split
  · simp_all [isDigit]
  · simp_all [isDigit]
  · rfl

end Splice.Decimal
