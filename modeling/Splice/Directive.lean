import Splice.Directive.Token

/-!
# Directives

A directive is the payload of a line comment that opens with `=` and names a file: `require` asks
for a file, `provide` declares a location and may give it another name.  The grammar is strict, so a
payload with anything out of place is no directive.
-/

namespace Splice

/-- How the path of a `require` is enclosed. -/
inductive Delimiter where
  | doubleQuote
  | singleQuote
  | angleBracket
deriving DecidableEq, Repr

namespace Delimiter

/-- The character before an enclosed path. -/
def opening : Delimiter → Char
  | doubleQuote => '"'
  | singleQuote => '\''
  | angleBracket => '<'

/-- The character after an enclosed path. -/
def closing : Delimiter → Char
  | doubleQuote => '"'
  | singleQuote => '\''
  | angleBracket => '>'

/-- Quoted paths are looked up beside the requiring file first. -/
def isQuoted : Delimiter → Bool
  | angleBracket => false
  | _ => true

end Delimiter

/-- What a `require` names: a path and how it is enclosed. -/
structure Target where
  /-- The path between the delimiters. -/
  path : String
  /-- The delimiters around it. -/
  delimiter : Delimiter
deriving DecidableEq, Repr

/-- The target as it is written, delimiters included. -/
def Target.written (target : Target) : String :=
  String.singleton target.delimiter.opening ++ target.path
    ++ String.singleton target.delimiter.closing

/-- A build directive in a line comment. -/
inductive Directive where
  /-- The file depends on the target. -/
  | require (target : Target)
  /-- The file provides a location, possibly under another name. -/
  | provide (location : String) (label : Option String)
deriving DecidableEq, Repr

namespace Directive

/-- Whether the directive is a `require`. -/
def isRequire : Directive → Bool
  | require _ => true
  | provide _ _ => false

/-- Whether the directive is a `provide`. -/
def isProvide : Directive → Bool
  | require _ => false
  | provide _ _ => true

/-- The name under which a location is provided. -/
def label? : Directive → Option String
  | require _ => none
  | provide _ label => label

/-! ## Reading -/

/-- The tokens of a payload, if it holds nothing else. -/
def tokens? (lexer : Lexer) (payload : List Char) : Option (List Lexeme) :=
  (lexer payload).mapM fun (token, text) => token.map fun token => ⟨token, text⟩

/-- A place among the tokens of a payload. -/
structure Cursor where
  /-- All tokens. -/
  tokens : List Lexeme
  /-- How many of them have been read. -/
  position : Nat

namespace Cursor

/-- The kind of the next token. -/
def peek? (cursor : Cursor) : Option Token := cursor.tokens[cursor.position]?.map (·.token)

/-- The place after the next token. -/
def advance (cursor : Cursor) : Cursor := { cursor with position := cursor.position + 1 }

/-- Reads a token. -/
def bump? (cursor : Cursor) : Option (Lexeme × Cursor) :=
  cursor.tokens[cursor.position]?.map fun lexeme => (lexeme, cursor.advance)

/-- Reads a token of the given kind. -/
def expect? (cursor : Cursor) (token : Token) : Option Cursor := do
  let (lexeme, cursor) ← cursor.bump?
  if lexeme.token = token then some cursor else none

/-- Reads gaps as long as there are any. -/
def skipGaps (cursor : Cursor) : Cursor :=
  if _gap : cursor.peek? = some .gap then cursor.advance.skipGaps else cursor
termination_by cursor.tokens.length - cursor.position
decreasing_by
  obtain ⟨lexeme, found, _⟩ := Option.map_eq_some_iff.1 _gap
  obtain ⟨inside, _⟩ := List.getElem?_eq_some_iff.1 found
  simp only [advance]
  omega

/-- Whether all tokens have been read. -/
def isDone (cursor : Cursor) : Bool := cursor.tokens.length ≤ cursor.position

/-- Reads a quoted text. -/
def quoted? (cursor : Cursor) : Option (String × Cursor) := do
  let (lexeme, cursor) ← cursor.bump?
  match lexeme.token with
  | .doubleQuoted | .singleQuoted => some (lexeme.content, cursor)
  | _ => none

/-- Reads the name that a location is given, if there is one.  A gap has to come before it.  Where
no name is given, the cursor goes back to where it was. -/
def label? (cursor : Cursor) : Option (Option String × Cursor) :=
  let checkpoint := cursor.position
  let cursor := cursor.skipGaps
  if cursor.peek? ≠ some .naming then some (none, { cursor with position := checkpoint })
  else if cursor.position = checkpoint then none
  else do
    let cursor ← cursor.advance.expect? .gap
    let (label, cursor) ← cursor.quoted?
    some (some label, cursor)

end Cursor

/-- The delimiters around the text of a token. -/
def Token.delimiter? : Token → Option Delimiter
  | doubleQuoted => some .doubleQuote
  | singleQuoted => some .singleQuote
  | angleBracketed => some .angleBracket
  | _ => none

/-- Reads the target of a `require`. -/
def required? (cursor : Cursor) : Option (Directive × Cursor) := do
  let cursor ← cursor.expect? .gap
  let (lexeme, cursor) ← cursor.bump?
  let delimiter ← lexeme.token.delimiter?
  some (.require ⟨lexeme.content, delimiter⟩, cursor)

/-- Reads the location of a `provide` and its name. -/
def provided? (cursor : Cursor) : Option (Directive × Cursor) := do
  let cursor ← cursor.expect? .gap
  let (location, cursor) ← cursor.quoted?
  let (label, cursor) ← cursor.label?
  some (.provide location label, cursor)

/-- Reads what follows the word of a directive. -/
def operands? : Token → Cursor → Option (Directive × Cursor)
  | .require, cursor => required? cursor
  | .provide, cursor => provided? cursor
  | _, _ => none

/-- The directive that tokens make up. -/
def ofTokens? (tokens : List Lexeme) : Option Directive := do
  let cursor := Cursor.skipGaps ⟨tokens, 0⟩
  let cursor ← cursor.expect? .equals
  let cursor ← cursor.expect? .gap
  let (word, cursor) ← cursor.bump?
  let (directive, cursor) ← operands? word.token cursor
  if cursor.skipGaps.isDone then some directive else none

/-- The directive that a comment payload carries. -/
def ofPayload? (payload : List Char) (lexer : Lexer := lex) : Option Directive :=
  (tokens? lexer payload).bind ofTokens?

end Directive

end Splice
