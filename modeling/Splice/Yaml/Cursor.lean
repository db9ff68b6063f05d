/-!
# Cursors in a YAML text

A position in a text, with the line and the column that indentation is measured by, and the classes
of characters that the tokens are made of.
-/

namespace Splice.Yaml

/-- A space or a tab. -/
def isSpace (c : Char) : Bool := c = ' ' || c = '\t'

/-- The characters that break a line. -/
def isBreak (c : Char) : Bool :=
  c = '\r' || c = '\n' || c = '\u0085' || c = '\u2028' || c = '\u2029'

/-- The characters of anchors, handles and directive names. -/
def isWord (c : Char) : Bool :=
  ('0' ≤ c && c ≤ '9') || ('a' ≤ c && c ≤ 'z') || ('A' ≤ c && c ≤ 'Z') || c = '_' || c = '-'

/-- The characters that a document may contain. -/
def isAllowed (c : Char) : Bool :=
  let code := c.toNat
  code = 9 || code = 0xA || code = 0xD || (0x20 ≤ code && code ≤ 0x7E) || code = 0x85
    || (0xA0 ≤ code && code ≤ 0xFFFD) || (0x10000 ≤ code && code ≤ 0x10FFFF)

/-- A position in a text. -/
structure Cursor where
  /-- What is still to be read. -/
  rest : List Char
  /-- How many characters have been read. -/
  index : Nat
  /-- How many lines have been read. -/
  line : Nat
  /-- How many characters of the current line have been read. -/
  column : Nat

namespace Cursor

/-- The start of a text. -/
def start (text : List Char) : Cursor := ⟨text, 0, 0, 0⟩

/-- The character at some distance. -/
def at? (cursor : Cursor) (distance : Nat) : Option Char := cursor.rest[distance]?

/-- Whether a given character is at some distance. -/
def looksAt (cursor : Cursor) (distance : Nat) (c : Char) : Bool := cursor.at? distance = some c

/-- Whether the character at some distance has a property; the end has none. -/
def sees (cursor : Cursor) (distance : Nat) (property : Char → Bool) : Bool :=
  (cursor.at? distance).any property

/-- Whether the text ends at some distance. -/
def atEnd (cursor : Cursor) (distance : Nat) : Bool := (cursor.at? distance).isNone

/-- Whether a word ends at some distance: by a space, a break or the end. -/
def wordEnds (cursor : Cursor) (distance : Nat) : Bool :=
  cursor.atEnd distance || cursor.sees distance fun c => isSpace c || isBreak c

/-- Whether a line ends at some distance: by a break or the end. -/
def lineEnds (cursor : Cursor) (distance : Nat) : Bool :=
  cursor.atEnd distance || cursor.sees distance isBreak

/-- Moves over characters of the current line. -/
def skip (cursor : Cursor) (count : Nat) : Cursor :=
  { cursor with
    rest := cursor.rest.drop count
    index := cursor.index + count
    column := cursor.column + count }

/-- The characters from here on that have a property. -/
def run (cursor : Cursor) (property : Char → Bool) : List Char := cursor.rest.takeWhile property

/-- Moves over characters of the current line that have a property. -/
def skipWhile (cursor : Cursor) (property : Char → Bool) : Cursor :=
  cursor.skip (cursor.run property).length

/-- Reads a line break.  All breaks but the two Unicode separators become a line feed. -/
def takeBreak (cursor : Cursor) : List Char × Cursor :=
  match cursor.rest with
  | '\r' :: '\n' :: rest => (['\n'], ⟨rest, cursor.index + 2, cursor.line + 1, 0⟩)
  | c :: rest =>
    if isBreak c then
      (if c = '\u2028' ∨ c = '\u2029' then [c] else ['\n'],
        ⟨rest, cursor.index + 1, cursor.line + 1, 0⟩)
    else ([], cursor)
  | [] => ([], cursor)

/-- Moves over a line break. -/
def skipBreak (cursor : Cursor) : Cursor := cursor.takeBreak.2

/-- Moves over a comment that starts here. -/
def skipComment (cursor : Cursor) : Cursor :=
  if cursor.looksAt 0 '#' then cursor.skipWhile (!isBreak ·) else cursor

/-- Whether three of the given character stand at the start of a line, as a word of their own. -/
def isMarker (cursor : Cursor) (c : Char) : Bool :=
  cursor.column = 0 && cursor.looksAt 0 c && cursor.looksAt 1 c && cursor.looksAt 2 c
    && cursor.wordEnds 3

/-- Whether a document starts or ends here by a marker. -/
def atMarker (cursor : Cursor) : Bool := cursor.isMarker '-' || cursor.isMarker '.'

end Cursor

end Splice.Yaml
