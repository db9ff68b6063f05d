import Splice.Text.Cut

/-!
# Tokens of a directive

A lexer cuts the payload of a comment into tokens, from its front on.  What it takes next is the
longest text there that is a token, and a text that begins with no token is reported as such.  Words
need no boundary: what comes after one may stand right beside it.
-/

namespace Splice.Directive

/-- The kinds of tokens. -/
inductive Token where
  /-- The mark of a directive. -/
  | equals
  /-- The word `require`. -/
  | require
  /-- The word `provide`. -/
  | provide
  /-- The word `as`. -/
  | naming
  /-- What stands between words. -/
  | gap
  /-- A text between double quotes. -/
  | doubleQuoted
  /-- A text between single quotes. -/
  | singleQuoted
  /-- A text between angle brackets. -/
  | angleBracketed
deriving DecidableEq, Repr

/-- The characters between the words of a directive. -/
def separators : List Char := [' ', '\t', '\r', '\n', '\x0b', '\x0c']

/-- What the texts of a token look like. -/
inductive Pattern where
  /-- One text only. -/
  | word (text : List Char)
  /-- Characters out of some, at least one. -/
  | run (characters : List Char)
  /-- Two marks and what is between them, which does not hold the closing one. -/
  | enclosed (opening closing : Char)
deriving DecidableEq, Repr

/-- The pattern of a token. -/
def Token.pattern : Token → Pattern
  | equals => .word "=".toList
  | require => .word "require".toList
  | provide => .word "provide".toList
  | naming => .word "as".toList
  | gap => .run separators
  | doubleQuoted => .enclosed '"' '"'
  | singleQuoted => .enclosed '\'' '\''
  | angleBracketed => .enclosed '<' '>'

/-- The tokens that are looked for. -/
def Token.all : List Token :=
  [equals, require, provide, naming, gap, doubleQuoted, singleQuoted, angleBracketed]

/-- A token and its text. -/
structure Lexeme where
  /-- The kind. -/
  token : Token
  /-- The text as it stands in the payload. -/
  text : List Char
deriving DecidableEq, Repr

/-- The text between the first and the last character. -/
def Lexeme.content (lexeme : Lexeme) : String := String.ofList (lexeme.text.drop 1).dropLast

/-- Cuts a payload into pieces, each with its token if it is one. -/
abbrev Lexer := List Char → List (Option Token × List Char)

/-- The longest text with a pattern at the start of a text, and what follows. -/
def Pattern.take? : Pattern → List Char → Option (List Char × List Char)
  | word mark, text => (Text.after? mark text).map fun rest => (mark, rest)
  | run characters, text =>
    match text.takeWhile (· ∈ characters) with
    | [] => none
    | c :: front => some (c :: front, text.dropWhile (· ∈ characters))
  | enclosed opening closing, text => do
    let text ← Text.after? [opening] text
    let (inside, rest) ← Text.cut? [closing] text
    some (opening :: (inside ++ [closing]), rest)

/-- The token at the start of a text, and what follows. -/
def munch? (text : List Char) : Option (Lexeme × List Char) :=
  Token.all.findSome? fun token =>
    (token.pattern.take? text).map fun (front, rest) => (⟨token, front⟩, rest)

/-- What is taken stands at the start of the text. -/
theorem Pattern.eq_append_of_take? {pattern : Pattern} {text front rest : List Char}
    (taken : pattern.take? text = some (front, rest)) : text = front ++ rest := by
  cases pattern with
  | word mark =>
    obtain ⟨after, found, pair⟩ := Option.map_eq_some_iff.1 taken
    cases pair
    exact Text.eq_append_of_after? found
  | run characters =>
    simp only [take?] at taken
    split at taken
    · cases taken
    · rename_i some_taken
      cases taken
      rw [← some_taken, List.takeWhile_append_dropWhile]
  | enclosed opening closing =>
    simp only [take?, Option.bind_eq_bind, Option.bind_eq_some_iff, Prod.exists, Option.some.injEq,
      Prod.mk.injEq] at taken
    obtain ⟨after, opened, inside, last, closed, rfl, rfl⟩ := taken
    rw [Text.eq_append_of_after? opened, Text.eq_append_of_cut? closed]
    simp

theorem Token.ne_nil_of_take? {token : Token} {text front rest : List Char}
    (taken : token.pattern.take? text = some (front, rest)) : front ≠ [] := by
  rintro rfl
  cases token with
  | equals | require | provide | naming => simp [pattern, Pattern.take?] at taken
  | gap =>
    simp only [pattern, Pattern.take?] at taken
    split at taken <;> cases taken
  | doubleQuoted | singleQuoted | angleBracketed =>
    simp [pattern, Pattern.take?, Option.bind_eq_some_iff] at taken

theorem length_lt_of_munch? {text rest : List Char} {lexeme : Lexeme}
    (found : munch? text = some (lexeme, rest)) : rest.length < text.length := by
  obtain ⟨token, _, taken⟩ := List.exists_of_findSome?_eq_some found
  obtain ⟨⟨front, after⟩, matched, pair⟩ := Option.map_eq_some_iff.1 taken
  cases pair
  have whole := congrArg List.length (Pattern.eq_append_of_take? matched)
  have := List.length_pos_iff.2 (Token.ne_nil_of_take? matched)
  simp at whole
  omega

/-- The lexer that is used.  A character with which no token begins is a piece of its own. -/
def lex : Lexer
  | [] => []
  | c :: text =>
    match _found : munch? (c :: text) with
    | none => (none, [c]) :: lex text
    | some (lexeme, rest) => (some lexeme.token, lexeme.text) :: lex rest
termination_by text => text.length
decreasing_by
  · exact Nat.lt_succ_self _
  · exact length_lt_of_munch? (by assumption)

end Splice.Directive
