import Splice.Toml.Basic

/-!
# TOML scalars

Strings of four kinds, and the words that stand for numbers, booleans and date-times.
-/

namespace Splice.Toml

/-- The characters that may stand in strings and comments besides quotes and breaks. -/
def isVisible (c : Char) : Bool := c = '\t' || (0x20 ≤ c.toNat && c.toNat ≠ 0x7F)

/-- A space or a tab. -/
def isBlank (c : Char) : Bool := c = ' ' || c = '\t'

/-- What follows a line break. -/
def newline? : List Char → Option (List Char)
  | '\n' :: rest => some rest
  | '\r' :: '\n' :: rest => some rest
  | _ => none

/-! ## Strings -/

/-- The value of a hexadecimal digit. -/
def hexValue? (c : Char) : Option Nat :=
  if '0' ≤ c ∧ c ≤ '9' then some (c.toNat - '0'.toNat)
  else if 'a' ≤ c ∧ c ≤ 'f' then some (c.toNat - 'a'.toNat + 10)
  else if 'A' ≤ c ∧ c ≤ 'F' then some (c.toNat - 'A'.toNat + 10)
  else none

/-- The character of a code in exactly `count` hexadecimal digits at the start of a text. -/
def codedChar? (count : Nat) (text : List Char) : Option (Char × List Char) := do
  let digits := text.take count
  let code ← digits.foldlM (fun value c => (hexValue? c).map (16 * value + ·)) 0
  if digits.length = count ∧ code.isValidChar then some (Char.ofNat code, text.drop count) else none

/-- The character that is escaped at the start of a text, after the backslash. -/
def escape? : List Char → Option (Char × List Char)
  | 'b' :: rest => some ('\x08', rest)
  | 't' :: rest => some ('\t', rest)
  | 'n' :: rest => some ('\n', rest)
  | 'f' :: rest => some ('\x0c', rest)
  | 'r' :: rest => some ('\r', rest)
  | 'e' :: rest => some ('\x1b', rest)
  | '"' :: rest => some ('"', rest)
  | '\\' :: rest => some ('\\', rest)
  | 'x' :: rest => codedChar? 2 rest
  | 'u' :: rest => codedChar? 4 rest
  | 'U' :: rest => codedChar? 8 rest
  | _ => none

/-- What follows an escaped line end: blanks, a break, and then all blanks and breaks. -/
def joinedLine? (text : List Char) : Option (List Char) :=
  (newline? (text.dropWhile isBlank)).map trimLines
where
  /-- The text without leading blanks and breaks. -/
  trimLines : List Char → List Char
    | '\r' :: '\n' :: rest => trimLines rest
    | c :: rest => if isBlank c || c = '\n' then trimLines rest else c :: rest
    | [] => []

/-- The inside of a basic string up to its closing quote, and what follows. -/
def basic? : Nat → List Char → Option (List Char × List Char)
  | 0, _ => none
  | _ + 1, [] => none
  | _ + 1, '"' :: rest => some ([], rest)
  | fuel + 1, '\\' :: rest => do
    let (c, rest) ← escape? rest
    let (text, rest) ← basic? fuel rest
    some (c :: text, rest)
  | fuel + 1, c :: rest =>
    if isVisible c then do
      let (text, rest) ← basic? fuel rest
      some (c :: text, rest)
    else none

/-- The inside of a literal string up to its closing quote, and what follows. -/
def literal? : List Char → Option (List Char × List Char)
  | [] => none
  | '\'' :: rest => some ([], rest)
  | c :: rest =>
    if isVisible c then (literal? rest).map fun (text, rest) => (c :: text, rest) else none

/-- The text of a run of quotes that ends a string of several lines, and what follows.  Three quotes
close it, and up to two more belong to the text. -/
def closing? (quote : Char) (text : List Char) : Option (List Char × List Char) :=
  let count := min 5 (text.takeWhile (· = quote)).length
  if 3 ≤ count then some (List.replicate (count - 3) quote, text.drop count) else none

/-- The inside of a basic string of several lines, and what follows. -/
def basicLines? : Nat → List Char → Option (List Char × List Char)
  | 0, _ => none
  | fuel + 1, text =>
    match closing? '"' text with
    | some closed => some closed
    | none =>
      match text with
      | [] => none
      | '\\' :: rest =>
        match joinedLine? rest with
        | some rest => basicLines? fuel rest
        | none => do
          let (c, rest) ← escape? rest
          let (text, rest) ← basicLines? fuel rest
          some (c :: text, rest)
      | '\r' :: '\n' :: rest => do
        let (text, rest) ← basicLines? fuel rest
        some ('\r' :: '\n' :: text, rest)
      | c :: rest =>
        if isVisible c || c = '\n' then do
          let (text, rest) ← basicLines? fuel rest
          some (c :: text, rest)
        else none

/-- The inside of a literal string of several lines, and what follows. -/
def literalLines? : Nat → List Char → Option (List Char × List Char)
  | 0, _ => none
  | fuel + 1, text =>
    match closing? '\'' text with
    | some closed => some closed
    | none =>
      match text with
      | [] => none
      | '\r' :: '\n' :: rest => do
        let (text, rest) ← literalLines? fuel rest
        some ('\r' :: '\n' :: text, rest)
      | c :: rest =>
        if isVisible c || c = '\n' then do
          let (text, rest) ← literalLines? fuel rest
          some (c :: text, rest)
        else none

/-- A string on one line at the start of a text. -/
def shortString? : List Char → Option (List Char × List Char)
  | '"' :: rest => basic? (rest.length + 1) rest
  | '\'' :: rest => literal? rest
  | _ => none

/-- A string at the start of a text.  A break right after three quotes is left out. -/
def string? (text : List Char) : Option (List Char × List Char) :=
  let inner := fun (rest : List Char) => (newline? rest).getD rest
  match text with
  | '"' :: '"' :: '"' :: rest => basicLines? (rest.length + 1) (inner rest)
  | '\'' :: '\'' :: '\'' :: rest => literalLines? (rest.length + 1) (inner rest)
  | _ => shortString? text

/-! ## Words -/

/-- Digits of a class without the underscores between them.  An underscore has a digit on either
side. -/
def plainDigits? (isDigit : Char → Bool) : List Char → Option (List Char)
  | [] => none
  | [c] => if isDigit c then some [c] else none
  | c :: '_' :: rest => if isDigit c then (plainDigits? isDigit rest).map (c :: ·) else none
  | c :: rest => if isDigit c then (plainDigits? isDigit rest).map (c :: ·) else none

/-- The natural of digits in a base. -/
def naturalIn (base : Nat) (digits : List Char) : Nat :=
  digits.foldl (fun value c => base * value + (hexValue? c).getD 0) 0

/-- The natural of a word with an opening that selects a base other than ten. -/
def based? : List Char → Option Nat
  | '0' :: 'x' :: rest => (plainDigits? (fun c => (hexValue? c).isSome) rest).map (naturalIn 16)
  | '0' :: 'o' :: rest => (plainDigits? (fun c => '0' ≤ c && c ≤ '7') rest).map (naturalIn 8)
  | '0' :: 'b' :: rest => (plainDigits? (fun c => c = '0' || c = '1') rest).map (naturalIn 2)
  | _ => none

/-- The digits of a whole part, which has no leading zero. -/
def wholePart? (text : List Char) : Option (List Char) :=
  match plainDigits? Decimal.isDigit text with
  | some ('0' :: _ :: _) => none
  | other => other

/-- The integer of a word, between the limits of 64 bits. -/
def integer? (word : List Char) : Option Int := do
  let (negative, size) := Decimal.scanSign word
  let size ← match based? word with
    | some size => some size
    | none => (wholePart? size).map (naturalIn 10)
  let value : Int := if negative then -size else size
  if fitsSigned 64 value then some value else none

/-- The exponent of a float, after its letter. -/
def exponent? (text : List Char) : Option Int := do
  let (negative, digits) := Decimal.scanSign text
  let digits ← plainDigits? Decimal.isDigit digits
  let size : Int := naturalIn 10 digits
  some (if negative then -size else size)

/-- The finite float of a word, which has a fraction, an exponent or both. -/
def finite? (word : List Char) : Option Binary64 := do
  let (negative, rest) := Decimal.scanSign word
  let isMark := fun (c : Char) => c = 'e' || c = 'E'
  let mantissa := rest.takeWhile (!isMark ·)
  let power := rest.dropWhile (!isMark ·)
  let whole ← wholePart? (mantissa.takeWhile (· ≠ '.'))
  let part ← match mantissa.dropWhile (· ≠ '.') with
    | [] => if power = [] then none else some []
    | _ :: digits => plainDigits? Decimal.isDigit digits
  let exponent ← match power with
    | [] => some 0
    | _ :: digits => exponent? digits
  let decimal : Decimal := ⟨negative, naturalIn 10 (whole ++ part), exponent - part.length⟩
  let value := decimal.toBinary64
  if value.isFinite then some value else none

/-- The float of a word. -/
def float? (word : List Char) : Option Binary64 :=
  match String.ofList word with
  | "inf" | "+inf" => some (.infinity false)
  | "-inf" => some (.infinity true)
  | "nan" | "+nan" | "-nan" => some .nan
  | _ => finite? word

/-- The characters of a word. -/
def isWordChar (c : Char) : Bool :=
  Decimal.isDigit c || ('a' ≤ c && c ≤ 'z') || ('A' ≤ c && c ≤ 'Z')
    || c = '_' || c = '-' || c = '+' || c = '.' || c = ':'

/-- The word at the start of a text, and what follows.  After a date, one space may come before a
time. -/
def word (text : List Char) : List Char × List Char :=
  let first := text.takeWhile isWordChar
  let rest := text.dropWhile isWordChar
  match date? first, rest with
  | some (_, []), ' ' :: c :: tail =>
    if Decimal.isDigit c then
      let time := (c :: tail).takeWhile isWordChar
      (first ++ ' ' :: time, (c :: tail).dropWhile isWordChar)
    else (first, rest)
  | _, _ => (first, rest)

/-- The value of a word. -/
def wordValue? (word : List Char) : Option Toml :=
  if word = "true".toList then some (.boolean true)
  else if word = "false".toList then some (.boolean false)
  else
    match integer? word with
    | some value => some (.integer value)
    | none =>
      match float? word with
      | some value => some (.float value)
      | none => (dateTime? word).map .dateTime

end Splice.Toml
