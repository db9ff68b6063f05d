import Splice.Toml.Scalar
import Splice.Toml.Tree

/-!
# TOML documents

The grammar of documents: keys, values, headers and the lines that hold them.
-/

namespace Splice.Toml

/-! ## Blanks and comments -/

/-- The text after blanks. -/
def skipBlanks (text : List Char) : List Char := text.dropWhile isBlank

/-- The text after a comment, if one starts here.  A comment holds no control characters. -/
def skipComment (text : List Char) : List Char :=
  match text with
  | '#' :: rest => rest.dropWhile isVisible
  | _ => text

/-- The text after the end of a line, with blanks and a comment before it. -/
def lineEnd? (text : List Char) : Option (List Char) :=
  match skipComment (skipBlanks text) with
  | [] => some []
  | rest => newline? rest

/-- The text after blanks, comments and line breaks. -/
def skipLines : Nat → List Char → List Char
  | 0, text => text
  | fuel + 1, text =>
    let rest := skipComment (skipBlanks text)
    match newline? rest with
    | some rest => skipLines fuel rest
    | none => rest

/-! ## Keys -/

/-- The characters of a key without quotes. -/
def isKeyChar (c : Char) : Bool :=
  Decimal.isDigit c || ('a' ≤ c && c ≤ 'z') || ('A' ≤ c && c ≤ 'Z') || c = '_' || c = '-'

/-- One part of a key. -/
def simpleKey? (text : List Char) : Option (String × List Char) :=
  match text with
  | '"' :: _ | '\'' :: _ => (shortString? text).map fun (name, rest) => (String.ofList name, rest)
  | _ =>
    match text.takeWhile isKeyChar with
    | [] => none
    | name => some (String.ofList name, text.dropWhile isKeyChar)

/-- A key of parts with dots between them, and what follows it and its blanks. -/
def key? : Nat → List Char → Option (List String × List Char)
  | 0, _ => none
  | fuel + 1, text => do
    let (name, rest) ← simpleKey? (skipBlanks text)
    match skipBlanks rest with
    | '.' :: rest => do
      let (names, rest) ← key? fuel rest
      some (name :: names, rest)
    | rest => some ([name], rest)

/-! ## Values -/

mutual

/-- A value at the start of a text.  `depth` bounds the nesting of arrays and inline tables, `fuel`
the number of steps. -/
def value? : (fuel depth : Nat) → List Char → Option (Toml × List Char)
  | 0, _, _ => none
  | fuel + 1, depth, text =>
    match text with
    | '"' :: _ | '\'' :: _ => (string? text).map fun (value, rest) => (.string (String.ofList value), rest)
    | '[' :: rest =>
      if depth = 0 then none
      else do
        let (items, rest) ← items? fuel (depth - 1) rest
        some (.array items, rest)
    | '\x7b' :: rest =>
      if depth = 0 then none
      else do
        let (entries, rest) ← inline? fuel (depth - 1) [] rest
        some (.table (finishEntries entries), rest)
    | _ => do
      let (word, rest) := word text
      let value ← wordValue? word
      some (value, rest)

/-- The items of an array up to its end.  The last one may have a comma after it. -/
def items? : (fuel depth : Nat) → List Char → Option (List Toml × List Char)
  | 0, _, _ => none
  | fuel + 1, depth, text =>
    match skipLines (text.length + 1) text with
    | ']' :: rest => some ([], rest)
    | text => do
      let (item, rest) ← value? fuel depth text
      match skipLines (rest.length + 1) rest with
      | ',' :: rest => do
        let (items, rest) ← items? fuel depth rest
        some (item :: items, rest)
      | ']' :: rest => some ([item], rest)
      | _ => none

/-- The entries of an inline table up to its end.  The last one may have a comma after it. -/
def inline? : (fuel depth : Nat) → Entries → List Char → Option (Entries × List Char)
  | 0, _, _, _ => none
  | fuel + 1, depth, entries, text =>
    match skipLines (text.length + 1) text with
    | '\x7d' :: rest => some (entries, rest)
    | text => do
      let (path, rest) ← key? (text.length + 1) text
      let rest ← expect? '=' rest
      let (value, rest) ← value? fuel depth (skipBlanks rest)
      let entries ← setKey .header value path entries
      match skipLines (rest.length + 1) rest with
      | ',' :: rest => inline? fuel depth entries rest
      | '\x7d' :: rest => some (entries, rest)
      | _ => none

end

/-- How deep arrays and inline tables may be nested. -/
def depthLimit : Nat := 80

/-! ## Lines -/

/-- A header of one or two brackets: whether it is repeated, its path, and what follows. -/
def header? (text : List Char) : Option (Bool × List String × List Char) :=
  match text with
  | '[' :: '[' :: rest => do
    let (path, rest) ← key? (rest.length + 1) rest
    let rest ← expect? ']' rest
    let rest ← expect? ']' rest
    some (true, path, rest)
  | '[' :: rest => do
    let (path, rest) ← key? (rest.length + 1) rest
    let rest ← expect? ']' rest
    some (false, path, rest)
  | _ => none

/-- Opens the table of a header in a document. -/
def openHeader (repeated : Bool) (path : List String) (entries : Entries) : Option Entries := do
  let name ← path.getLast?
  alongHeader (if repeated then openTables name else openTable name) path.dropLast entries

/-- Reads the lines of a document.  `current` is the path of the last header. -/
def lines? : Nat → (current : List String) → Entries → List Char → Option Entries
  | 0, _, _, _ => none
  | fuel + 1, current, entries, text =>
    match lineEnd? text with
    | some [] => some entries
    | some rest => lines? fuel current entries rest
    | none =>
      match skipBlanks text with
      | '[' :: rest => do
        let (repeated, path, rest) ← header? ('[' :: rest)
        let entries ← openHeader repeated path entries
        let rest ← lineEnd? rest
        lines? fuel path entries rest
      | text => do
        let (path, rest) ← key? (text.length + 1) text
        let rest ← expect? '=' rest
        let rest := skipBlanks rest
        let (value, rest) ← value? (2 * rest.length + 2) depthLimit rest
        let entries ← alongHeader (setKey .header value path) current entries
        let rest ← lineEnd? rest
        lines? fuel current entries rest

/-- The table of a TOML text.  A byte order mark may come first. -/
def read? (text : String) : Option (Table Toml) :=
  let text := match text.toList with
    | '\ufeff' :: rest => rest
    | other => other
  (lines? (text.length + 1) [] [] text).map finishEntries

end Splice.Toml
