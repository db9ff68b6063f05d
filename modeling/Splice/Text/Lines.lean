/-!
# Lines of a text

A line feed ends a line, and a carriage return right before it belongs to the ending.
-/

namespace Splice.Text

/-- The lines of a text without their endings.  A text that ends with a line feed has no empty last
line; a carriage return without a line feed is part of its line. -/
def lines : List Char → List (List Char)
  | [] => []
  | '\n' :: rest => [] :: lines rest
  | '\r' :: '\n' :: rest => [] :: lines rest
  | c :: rest =>
    match lines rest with
    | [] => [[c]]
    | line :: others => (c :: line) :: others

/-- The text without one line ending at its end. -/
def chomp (text : List Char) : List Char :=
  match text.reverse with
  | '\n' :: '\r' :: rest => rest.reverse
  | '\n' :: rest => rest.reverse
  | '\r' :: rest => rest.reverse
  | _ => text

/-- The lines of a string without their endings. -/
def linesOf (text : String) : List String := (lines text.toList).map String.ofList

end Splice.Text
