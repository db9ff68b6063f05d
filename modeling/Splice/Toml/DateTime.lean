import Splice.Number.Decimal

/-!
# Dates and times

Date-times of TOML: a date, a time or both, and with both perhaps an offset.  Seconds may be left
out, and fractions are cut to nanoseconds.
-/

namespace Splice.Toml

/-- A calendar date. -/
structure Date where
  /-- The year, of four digits. -/
  year : Nat
  /-- The month, from one. -/
  month : Nat
  /-- The day, from one. -/
  day : Nat
deriving DecidableEq, Repr

/-- A time of day. -/
structure Time where
  /-- The hour. -/
  hour : Nat
  /-- The minute. -/
  minute : Nat
  /-- The second, if written. -/
  second : Option Nat
  /-- The fraction of the second in nanoseconds, if written. -/
  nanosecond : Option Nat
deriving DecidableEq, Repr

/-- How far a time is ahead of universal time. -/
inductive Offset where
  | utc
  | minutes (ahead : Int)
deriving DecidableEq, Repr

/-- A date, a time or both. -/
structure DateTime where
  /-- The date. -/
  date : Option Date
  /-- The time. -/
  time : Option Time
  /-- The offset. -/
  offset : Option Offset
deriving DecidableEq, Repr

/-! ## Reading -/

/-- A number of exactly `count` digits at the start of a text. -/
def fixedNumber? (count : Nat) (text : List Char) : Option (Nat × List Char) :=
  let digits := text.take count
  if digits.length = count ∧ digits.all Decimal.isDigit then
    some (Decimal.natOfDigits digits, text.drop count)
  else none

/-- What follows a given character. -/
def expect? (c : Char) : List Char → Option (List Char)
  | d :: rest => if d = c then some rest else none
  | [] => none

/-- How many days a month has. -/
def daysIn (year month : Nat) : Nat :=
  if month = 2 then
    if year % 4 = 0 ∧ (year % 100 ≠ 0 ∨ year % 400 = 0) then 29 else 28
  else if [4, 6, 9, 11].contains month then 30
  else 31

/-- A date at the start of a text. -/
def date? (text : List Char) : Option (Date × List Char) := do
  let (year, rest) ← fixedNumber? 4 text
  let rest ← expect? '-' rest
  let (month, rest) ← fixedNumber? 2 rest
  let rest ← expect? '-' rest
  let (day, rest) ← fixedNumber? 2 rest
  if 1 ≤ month ∧ month ≤ 12 ∧ 1 ≤ day ∧ day ≤ daysIn year month then
    some (⟨year, month, day⟩, rest)
  else none

/-- A fraction at the start of a text, in nanoseconds.  Further digits are cut. -/
def fraction? : List Char → Option (Option Nat × List Char)
  | '.' :: rest =>
    let digits := rest.takeWhile Decimal.isDigit
    if digits = [] then none
    else
      let kept := digits.take 9
      some (some (Decimal.natOfDigits kept * tenTo (9 - kept.length)), rest.drop digits.length)
  | rest => some (none, rest)

/-- A time at the start of a text. -/
def time? (text : List Char) : Option (Time × List Char) := do
  let (hour, rest) ← fixedNumber? 2 text
  let rest ← expect? ':' rest
  let (minute, rest) ← fixedNumber? 2 rest
  if 23 < hour ∨ 59 < minute then none
  else
    match rest with
    | ':' :: rest => do
      let (second, rest) ← fixedNumber? 2 rest
      let (nanosecond, rest) ← fraction? rest
      if 60 < second then none else some (⟨hour, minute, some second, nanosecond⟩, rest)
    | rest => some (⟨hour, minute, none, none⟩, rest)

/-- An offset that makes up a whole text. -/
def offset? : List Char → Option (Option Offset)
  | [] => some none
  | ['Z'] | ['z'] => some (some .utc)
  | sign :: rest => do
    let (hour, rest) ← fixedNumber? 2 rest
    let rest ← expect? ':' rest
    let (minute, rest) ← fixedNumber? 2 rest
    let ahead : Int := 60 * hour + minute
    if rest ≠ [] ∨ 23 < hour ∨ 59 < minute then none
    else if sign = '+' then some (some (.minutes ahead))
    else if sign = '-' then some (some (.minutes (-ahead)))
    else none

/-- The date-time of a whole text. -/
def dateTime? (text : List Char) : Option DateTime :=
  match date? text with
  | some (date, []) => some ⟨some date, none, none⟩
  | some (date, mark :: rest) =>
    if mark = 'T' ∨ mark = 't' ∨ mark = ' ' then do
      let (time, rest) ← time? rest
      let offset ← offset? rest
      some ⟨some date, some time, offset⟩
    else none
  | none =>
    match time? text with
    | some (time, []) => some ⟨none, some time, none⟩
    | _ => none

/-! ## Writing -/

/-- A natural with leading zeros up to a width. -/
def padded (width value : Nat) : List Char :=
  let digits := Nat.toDigits 10 value
  List.replicate (width - digits.length) '0' ++ digits

/-- The text of a date. -/
def Date.text (date : Date) : List Char :=
  padded 4 date.year ++ '-' :: padded 2 date.month ++ '-' :: padded 2 date.day

/-- The text of a time.  A fraction has no trailing zeros, but one digit at least. -/
def Time.text (time : Time) : List Char :=
  let second := match time.second with
    | some second => ':' :: padded 2 second
    | none => []
  let fraction := match time.nanosecond with
    | some nanosecond =>
      let digits := ((padded 9 nanosecond).reverse.dropWhile (· = '0')).reverse
      '.' :: (if digits = [] then ['0'] else digits)
    | none => []
  padded 2 time.hour ++ ':' :: padded 2 time.minute ++ second ++ fraction

/-- The text of an offset. -/
def Offset.text : Offset → List Char
  | utc => ['Z']
  | minutes ahead =>
    let size := ahead.natAbs
    (if ahead < 0 then '-' else '+') :: padded 2 (size / 60) ++ ':' :: padded 2 (size % 60)

/-- The text of a date-time. -/
def DateTime.text (value : DateTime) : String :=
  let date := (value.date.map Date.text).getD []
  let time := (value.time.map Time.text).getD []
  let mark := if value.date.isSome && value.time.isSome then ['T'] else []
  String.ofList (date ++ mark ++ time ++ (value.offset.map Offset.text).getD [])

end Splice.Toml
