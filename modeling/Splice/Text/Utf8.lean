/-!
# UTF-8

Decoding of bytes.  A byte sequence that begins no character, or that stops being one, is broken;
each longest broken part becomes one replacement character.
-/

namespace Splice.Text

/-- Whether a byte continues a character. -/
def isTail (byte : UInt8) : Bool := 0x80 ≤ byte && byte ≤ 0xBF

/-- How many further bytes a leading byte announces, and between which limits the second byte
lies. -/
def announced (lead : UInt8) : Option (Nat × UInt8 × UInt8) :=
  if lead < 0x80 then some (0, 0, 0)
  else if 0xC2 ≤ lead && lead ≤ 0xDF then some (1, 0x80, 0xBF)
  else if lead = 0xE0 then some (2, 0xA0, 0xBF)
  else if lead = 0xED then some (2, 0x80, 0x9F)
  else if 0xE1 ≤ lead && lead ≤ 0xEF then some (2, 0x80, 0xBF)
  else if lead = 0xF0 then some (3, 0x90, 0xBF)
  else if 0xF1 ≤ lead && lead ≤ 0xF3 then some (3, 0x80, 0xBF)
  else if lead = 0xF4 then some (3, 0x80, 0x8F)
  else none

/-- How many of the bytes after the lead belong to its character, whole or broken. -/
def tailLength (count : Nat) (low high : UInt8) (rest : List UInt8) : Nat :=
  match count, rest with
  | count + 1, second :: rest =>
    if low ≤ second && second ≤ high then 1 + ((rest.take count).takeWhile isTail).length else 0
  | _, _ => 0

/-- The code of a character from its bytes. -/
def codeOf (lead : UInt8) (tail : List UInt8) : Nat :=
  let first :=
    match tail.length with
    | 0 => lead.toNat
    | 1 => lead.toNat % 32
    | 2 => lead.toNat % 16
    | _ => lead.toNat % 8
  tail.foldl (fun code byte => 64 * code + byte.toNat % 64) first

/-- The first character of bytes, `none` if it is broken, and the bytes after it. -/
def firstChar (lead : UInt8) (rest : List UInt8) : Option Char × List UInt8 :=
  match announced lead with
  | none => (none, rest)
  | some (count, low, high) =>
    let size := tailLength count low high rest
    if size = count then (some (Char.ofNat (codeOf lead (rest.take size))), rest.drop size)
    else (none, rest.drop size)

theorem length_firstChar_le (lead : UInt8) (rest : List UInt8) :
    (firstChar lead rest).2.length ≤ rest.length := by
  unfold firstChar
  split
  · simp
  · dsimp only
    split <;> simp

/-- The characters of bytes, `none` for each broken part. -/
def decode (bytes : List UInt8) : List (Option Char) :=
  match bytes with
  | [] => []
  | lead :: rest => (firstChar lead rest).1 :: decode (firstChar lead rest).2
termination_by bytes.length
decreasing_by
  have := length_firstChar_le lead rest
  simp only [List.length_cons]
  omega

/-- The text of bytes with replacement characters for broken parts. -/
def decodeLossy (bytes : List UInt8) : String :=
  String.ofList ((decode bytes).map (·.getD '\ufffd'))

/-- The text of bytes without broken parts. -/
def decodeStrict? (bytes : List UInt8) : Option String :=
  ((decode bytes).mapM id).map String.ofList

end Splice.Text
