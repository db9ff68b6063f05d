import Splice.Log.Filter

/-!
# Log lines

How an event is written, plain or in colours.
-/

namespace Splice

/-- The sequence that starts a way of display. -/
def ansi (code : String) : String := "\x1b[" ++ code ++ "m"

/-- A text in a way of display, if colours are on, and back to the usual one. -/
def paint (colours : Bool) (code reset : String) (text : String) : String :=
  if colours then ansi code ++ text ++ ansi reset else text

namespace Level

/-- The name of a level, in a column of five characters. -/
def column : Level → String
  | error => "ERROR"
  | warn => " WARN"
  | info => " INFO"
  | debug => "DEBUG"
  | trace => "TRACE"

/-- The colour of a level. -/
def colour : Level → String
  | error => "31"
  | warn => "33"
  | info => "32"
  | debug => "34"
  | trace => "35"

end Level

namespace Event

/-- A character of a message; those that control a terminal are spelled out. -/
def safeChar (c : Char) : String :=
  if c = '\x1b' then "\\x1b"
  else if c = '\x07' then "\\x07"
  else if c = '\x08' then "\\x08"
  else if c = '\x0c' then "\\x0c"
  else if c = '\x7f' then "\\x7f"
  else if 0x80 ≤ c.toNat && c.toNat ≤ 0x9F then
    "\\u\x7b" ++ String.ofList (Nat.toDigits 16 c.toNat) ++ "\x7d"
  else String.singleton c

/-- A message without characters that control a terminal. -/
def safeMessage (message : String) : String := String.join (message.toList.map safeChar)

/-- The line of an event. -/
def line (colours : Bool) (event : Event) : String :=
  let details := event.details.map fun (name, value) =>
    " " ++ paint colours "3" "0" name ++ paint colours "2" "0" "=" ++ value
  paint colours event.level.colour "0" event.level.column ++ " " ++ safeMessage event.message
    ++ String.join details ++ "\n"

/-- The lines of the events that a filter shows. -/
def lines (filter : LogFilter) (colours : Bool) (events : List Event) : String :=
  String.join ((events.filter filter.shows).map (line colours))

end Event

end Splice
