import Splice.Proofs.Number.Digits
import Splice.Proofs.Text.Marks
import Splice.Template.Projection

/-!
# Integers at the start of a text

The integer of a text is the value of the longest literal that stands there after blanks, if it has
a digit and is a signed word, and zero otherwise.  The literal may be cut off by counting bytes: no
byte of another character looks like a digit, so that the bytes counted are those of the digits and
the cut is made between two characters.
-/

namespace Splice

namespace Decimal

/-! ## Literals -/

/-- The natural that digits stand for by their places. -/
def placeValue : List Char → Nat
  | [] => 0
  | digit :: digits => (digit.toNat - '0'.toNat) * tenTo digits.length + placeValue digits

theorem natOfDigits_eq (digits : List Char) : natOfDigits digits = placeValue digits := by
  have fold (value : Nat) :
      digits.foldl (fun value c => 10 * value + (c.toNat - '0'.toNat)) value =
        value * tenTo digits.length + placeValue digits := by
    induction digits generalizing value with
    | nil => simp [placeValue, tenTo]
    | cons digit digits ih =>
        have more : tenTo (digits.length + 1) = tenTo digits.length * 10 := rfl
        rw [List.foldl_cons, ih, placeValue, List.length_cons, more, Nat.add_mul, Nat.add_assoc,
          Nat.mul_comm 10 value, Nat.mul_assoc, Nat.mul_comm 10]
  rw [natOfDigits, fold, Nat.zero_mul, Nat.zero_add]

/-- An integer literal: a sign or none, and digits, of which there may be none. -/
structure Literal where
  /-- The sign, if there is one. -/
  sign : Option Char
  /-- The digits. -/
  digits : List Char
  /-- There are two signs. -/
  signed : ∀ c ∈ sign, c = '-' ∨ c = '+'
  /-- Nothing but digits follows. -/
  numeric : ∀ c ∈ digits, isDigit c = true

/-- The spelling of a literal. -/
def Literal.text (literal : Literal) : List Char := literal.sign.toList ++ literal.digits

/-- The integer that a literal stands for. -/
def Literal.value (literal : Literal) : Int :=
  if literal.sign = some '-' then -(placeValue literal.digits : Int) else placeValue literal.digits

/-- The sign at the start of a text. -/
def sign? (text : List Char) : Option Char := text.head?.filter fun c => c = '-' || c = '+'

theorem sign?_cons (c : Char) (text : List Char) :
    sign? (c :: text) = if c = '-' ∨ c = '+' then some c else none := by
  simp [sign?, Option.filter_some]

theorem scanSign_eq (text : List Char) :
    scanSign text = (decide (sign? text = some '-'), text.drop (sign? text).toList.length) := by
  rw [scanSign.eq_def]
  split
  · rfl
  · rfl
  · rename_i minus plus
    have unsigned : sign? text = none := by
      cases text with
      | nil => rfl
      | cons c text =>
          rw [sign?_cons, if_neg]
          rintro (rfl | rfl)
          · exact minus text rfl
          · exact plus text rfl
    simp [unsigned]

/-- The literal at the start of a text. -/
def leading (text : List Char) : Literal where
  sign := sign? text
  digits := (text.drop (sign? text).toList.length).takeWhile isDigit
  signed c member := by simpa [sign?] using (Option.filter_eq_some_iff.mp member).2
  numeric _ member := List.mem_takeWhile_imp member

theorem sign?_append (text : List Char) :
    (sign? text).toList ++ text.drop (sign? text).toList.length = text := by
  cases text with
  | nil => rfl
  | cons c text =>
      rw [sign?_cons]
      split <;> rfl

theorem leading_isPrefix (text : List Char) : (leading text).text <+: text := by
  refine ⟨(text.drop (sign? text).toList.length).dropWhile isDigit, ?_⟩
  rw [Literal.text, leading, List.append_assoc, List.takeWhile_append_dropWhile, sign?_append]

theorem isDigit_of_sign {c : Char} (sign : c = '-' ∨ c = '+') : isDigit c = false := by
  rcases sign with rfl | rfl <;> rfl

/-- Digits at the start of a text are among all digits there. -/
theorem isPrefix_takeWhile {digits text : List Char} (numeric : ∀ c ∈ digits, isDigit c = true)
    (within : digits <+: text) : digits <+: text.takeWhile isDigit := by
  obtain ⟨rest, rfl⟩ := within
  rw [List.takeWhile_append_of_pos numeric]
  exact List.prefix_append digits _

/-- No literal at the start of a text is longer than the leading one. -/
theorem leading_longest {literal : Literal} {text : List Char} (within : literal.text <+: text) :
    literal.text <+: (leading text).text := by
  obtain ⟨sign, digits, signed, numeric⟩ := literal
  cases sign with
  | some c =>
      obtain ⟨rest, rfl⟩ := within
      have same : sign? (c :: (digits ++ rest)) = some c := by
        rw [sign?_cons, if_pos (signed c rfl)]
      have digitsFirst := isPrefix_takeWhile numeric (List.prefix_append digits rest)
      simpa [Literal.text, leading, same] using digitsFirst
  | none =>
      cases digits with
      | nil => exact List.nil_prefix
      | cons d digits =>
          obtain ⟨rest, rfl⟩ := within
          have unsigned : sign? (d :: (digits ++ rest)) = none := by
            rw [sign?_cons, if_neg]
            intro sign
            simp [isDigit_of_sign sign] at numeric
          have digitsFirst := isPrefix_takeWhile numeric (List.prefix_append (d :: digits) rest)
          simpa [Literal.text, leading, unsigned] using digitsFirst

end Decimal

/-! ## Bytes -/

namespace Text

/-- The bytes of a text. -/
def bytes (text : List Char) : List UInt8 := text.flatMap String.utf8EncodeChar

/-- Whether a byte is that of a digit. -/
def isDigitByte (byte : UInt8) : Bool := 48 ≤ byte && byte ≤ 57

theorem utf8EncodeChar_of_ascii {c : Char} (ascii : c.toNat < 128) :
    String.utf8EncodeChar c = [c.toUInt8] :=
  String.utf8EncodeChar_eq_singleton (Char.utf8Size_eq_one_iff.mpr (Nat.le_of_lt_succ ascii))

theorem isDigitByte_of_ascii {c : Char} (ascii : c.toNat < 128) :
    isDigitByte c.toUInt8 = Decimal.isDigit c := by
  have kept : c.toUInt8.toNat = c.toNat := by
    refine (UInt32.toNat_toUInt8 c.val).trans (Nat.mod_eq_of_lt ?_)
    exact Nat.lt_trans ascii (by decide)
  simp [isDigitByte, Decimal.isDigit, Char.le_def, UInt8.le_iff_toNat_le, UInt32.le_iff_toNat_le,
    kept]

/-- The bytes of a wider character do not open with that of a digit. -/
theorem exists_lead {c : Char} (wide : 128 ≤ c.toNat) :
    ∃ lead others, String.utf8EncodeChar c = lead :: others ∧ isDigitByte lead = false := by
  have apart {value : Nat} (low : 192 ≤ value) (high : value < 256) :
      isDigitByte (UInt8.ofNat value) = false := by
    have kept : (UInt8.ofNat value).toNat = value := UInt8.toNat_ofNat_of_lt' high
    have above : 57 < value := by omega
    simp [isDigitByte, UInt8.le_iff_toNat_le, kept, above]
  have size : ¬ c.val.toNat ≤ 127 := Nat.not_le.mpr wide
  rw [String.utf8EncodeChar.eq_def]
  simp only [if_neg size]
  -- Two, three or four bytes are written, and the first one tells how many.
  split
  · exact ⟨_, _, rfl, apart (by omega) (by omega)⟩
  · split
    · exact ⟨_, _, rfl, apart (by omega) (by omega)⟩
    · exact ⟨_, _, rfl, apart (by omega) (by omega)⟩

theorem isDigit_of_wide {c : Char} (wide : 128 ≤ c.toNat) : Decimal.isDigit c = false := by
  have above : 57 < c.toNat := by omega
  simp [Decimal.isDigit, Char.le_def, UInt32.le_iff_toNat_le, above]

/-- As many bytes at the start of a text are those of digits as characters there are digits. -/
theorem length_takeWhile_bytes (text : List Char) :
    ((bytes text).takeWhile isDigitByte).length = (text.takeWhile Decimal.isDigit).length := by
  induction text with
  | nil => rfl
  | cons c text ih =>
      rw [bytes, List.flatMap_cons]
      rcases Nat.lt_or_ge c.toNat 128 with ascii | wide
      · rw [utf8EncodeChar_of_ascii ascii, List.singleton_append, List.takeWhile_cons,
          List.takeWhile_cons, isDigitByte_of_ascii ascii]
        split
        · exact congrArg Nat.succ ih
        · rfl
      · obtain ⟨lead, others, first, other⟩ := exists_lead wide
        rw [first, List.cons_append, List.takeWhile_cons_of_neg (by simp [other]),
          List.takeWhile_cons_of_neg (by simp [isDigit_of_wide wide])]
        rfl

/-- The characters that are written in one byte each. -/
theorem length_bytes_of_ascii {text : List Char} (ascii : ∀ c ∈ text, c.toNat < 128) :
    (bytes text).length = text.length := by
  induction text with
  | nil => rfl
  | cons c text ih =>
      obtain ⟨own, others⟩ := List.forall_mem_cons.mp ascii
      rw [bytes, List.flatMap_cons, utf8EncodeChar_of_ascii own, List.singleton_append,
        List.length_cons, List.length_cons]
      exact congrArg Nat.succ (ih others)

/-- After the bytes of the front part of a text no character is cut in two. -/
theorem isValid_bytes (front back : List Char) :
    String.Pos.Raw.IsValid (String.ofList (front ++ back)) ⟨(bytes front).length⟩ := by
  refine String.Pos.Raw.isValid_iff_exists_append.mpr
    ⟨String.ofList front, String.ofList back, String.ofList_append, ?_⟩
  rw [String.Pos.Raw.ext_iff, String.byteIdx_rawEndPos, ← String.size_toByteArray,
    String.toByteArray_ofList, List.utf8Encode, List.size_toByteArray, bytes]

end Text

/-! ## The integer of a text -/

namespace Decimal

/-- How many bytes a sign at the start of a text takes. -/
def signBytes (text : List Char) : Nat := (sign? text).toList.length

/-- How many bytes after the sign are those of digits. -/
def digitBytes (text : List Char) : Nat :=
  (((Text.bytes text).drop (signBytes text)).takeWhile Text.isDigitByte).length

theorem Literal.ascii_sign (literal : Literal) : ∀ c ∈ literal.sign.toList, c.toNat < 128 := by
  intro c member
  rcases literal.signed c (Option.mem_toList.mp member) with rfl | rfl <;> decide

theorem Literal.ascii_digits (literal : Literal) : ∀ c ∈ literal.digits, c.toNat < 128 := by
  intro c member
  by_contra wide
  have other := Text.isDigit_of_wide (Nat.not_lt.mp wide)
  rw [literal.numeric c member] at other
  cases other

/-- The bytes that are counted are those of the sign. -/
theorem length_bytes_sign (text : List Char) :
    (Text.bytes (sign? text).toList).length = signBytes text :=
  Text.length_bytes_of_ascii (leading text).ascii_sign

/-- The bytes that are counted are those of the literal. -/
theorem length_bytes_leading (text : List Char) :
    (Text.bytes (leading text).text).length = signBytes text + digitBytes text := by
  have opens : Text.bytes text =
      Text.bytes (sign? text).toList ++ Text.bytes (text.drop (signBytes text)) := by
    rw [Text.bytes, Text.bytes, Text.bytes, ← List.flatMap_append, signBytes, sign?_append]
  have digits : digitBytes text = (leading text).digits.length := by
    rw [digitBytes, opens, List.drop_left' (length_bytes_sign text),
      Text.length_takeWhile_bytes]
    rfl
  have whole : (leading text).text.length = signBytes text + (leading text).digits.length :=
    List.length_append
  rw [digits, ← whole]
  refine Text.length_bytes_of_ascii fun c member => ?_
  rcases List.mem_append.mp member with sign | digit
  · exact (leading text).ascii_sign c sign
  · exact (leading text).ascii_digits c digit

/-- A text may be cut behind its sign. -/
theorem isValid_signBytes (text : List Char) :
    String.Pos.Raw.IsValid (String.ofList text) ⟨signBytes text⟩ := by
  have cut := Text.isValid_bytes (sign? text).toList (text.drop (sign? text).toList.length)
  rwa [sign?_append, length_bytes_sign] at cut

/-- A text may be cut behind its literal. -/
theorem isValid_literalBytes (text : List Char) :
    String.Pos.Raw.IsValid (String.ofList text) ⟨signBytes text + digitBytes text⟩ := by
  obtain ⟨rest, whole⟩ := leading_isPrefix text
  have cut := Text.isValid_bytes (leading text).text rest
  rwa [whole, length_bytes_leading] at cut

theorem Literal.value_of_nil {literal : Literal} (empty : literal.digits = []) :
    literal.value = 0 := by
  simp [value, empty, placeValue]

theorem value_leading (text : List Char) :
    (leading text).value =
      if (scanSign text).1 then -(natOfDigits ((scanSign text).2.takeWhile isDigit) : Int)
      else natOfDigits ((scanSign text).2.takeWhile isDigit) := by
  rw [scanSign_eq, natOfDigits_eq, Literal.value, leading]
  by_cases negative : sign? text = some '-'
  · simp [negative]
  · simp [negative]

end Decimal

theorem Json.leadingInteger_eq (text : List Char) :
    leadingInteger text =
      if fitsSigned 64 (Decimal.leading (Text.trimStart text)).value then
        (Decimal.leading (Text.trimStart text)).value
      else 0 := by
  rw [Decimal.value_leading, leadingInteger]

/-- A text falls into blanks and a rest that begins with none.  The rest begins with a longest
literal.  Counting one byte for a sign and then the bytes of digits leads to the end of the literal,
and no character is cut in two on the way.  The integer of the text is the value of the literal if
it has a digit and its value is a signed word, the least and the greatest included, and zero
otherwise. -/
theorem Json.leadingInteger_longest_literal (text : String) :
    ∃ (blanks trimmed : List Char) (literal : Decimal.Literal),
      text.toList = blanks ++ trimmed ∧ (∀ c ∈ blanks, Text.isBlank c = true) ∧
      (∀ c ∈ trimmed.head?, Text.isBlank c = false) ∧
      literal.text <+: trimmed ∧
      (∀ other : Decimal.Literal, other.text <+: trimmed → other.text <+: literal.text) ∧
      String.Pos.Raw.IsValid (String.ofList trimmed) ⟨Decimal.signBytes trimmed⟩ ∧
      String.Pos.Raw.IsValid (String.ofList trimmed)
        ⟨Decimal.signBytes trimmed + Decimal.digitBytes trimmed⟩ ∧
      (Text.bytes literal.text).length = Decimal.signBytes trimmed + Decimal.digitBytes trimmed ∧
      leadingInteger text.toList =
        if literal.digits ≠ [] ∧ -(twoTo 63 : Int) ≤ literal.value ∧ literal.value < twoTo 63 then
          literal.value
        else 0 := by
  obtain ⟨⟨blanks, blank, parts⟩, starts⟩ :=
    Text.dropWhile_eq_iff.mp (rfl : Text.trimStart text.toList = _)
  refine ⟨blanks, _, Decimal.leading (Text.trimStart text.toList), parts, blank, starts,
    Decimal.leading_isPrefix _, fun other => Decimal.leading_longest, Decimal.isValid_signBytes _,
    Decimal.isValid_literalBytes _, Decimal.length_bytes_leading _, ?_⟩
  rw [leadingInteger_eq]
  by_cases empty : (Decimal.leading (Text.trimStart text.toList)).digits = []
  · simp [empty, Decimal.Literal.value_of_nil empty]
  · simp [empty, fitsSigned]

/-- The least signed word is read behind a wide blank, up to a digit of another script. -/
example : Json.leadingInteger "\u3000-09223372036854775808\u0663".toList = -9223372036854775808 := by
  decide +kernel

end Splice
