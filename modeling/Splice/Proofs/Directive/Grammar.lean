import Splice.Line
import Splice.Proofs.Directive.Cursor
import Splice.Proofs.Directive.Tokens

/-!
# The grammar of directives

A line carries a directive exactly when it is built by the rules below, and by no more than one of
them.  The rules put texts together, while the reader cuts a text into tokens and goes through
these.  A text is built by the rules exactly when its tokens make up the directive, and since the
tokens of a text do not depend on the lexer, as long as it takes the longest match, neither does the
reading.
-/

namespace Splice

namespace Directive

/-! ## Rules -/

/-- Any number of separators. -/
def Spaces (text : List Char) : Prop := ∀ c ∈ text, c ∈ separators

/-- At least one separator. -/
def Gap (text : List Char) : Prop := text ≠ [] ∧ Spaces text

/-- A path between delimiters, which does not hold the closing one. -/
def Enclosed (delimiter : Delimiter) (text : List Char) (path : String) : Prop :=
  delimiter.closing ∉ path.toList ∧
    text = delimiter.opening :: (path.toList ++ [delimiter.closing])

/-- A text between quotes of one kind, which does not hold a quote of that kind. -/
def Quoted (text : List Char) (content : String) : Prop :=
  Enclosed .doubleQuote text content ∨ Enclosed .singleQuote text content

/-- What may follow the location of a `provide`: nothing, or the name that it is given. -/
inductive Naming : List Char → Option String → Prop
  | none {back : List Char} : Spaces back → Naming back none
  | some {first second name back : List Char} {label : String} : Gap first → Gap second →
      Quoted name label → Spaces back →
      Naming (first ++ "as".toList ++ second ++ name ++ back) (some label)

/-- The payloads that carry a directive. -/
inductive Payload : List Char → Directive → Prop
  | require {front first second target back : List Char} {delimiter : Delimiter} {path : String} :
      Spaces front → Gap first → Gap second → Enclosed delimiter target path → Spaces back →
      Payload (front ++ ['='] ++ first ++ "require".toList ++ second ++ target ++ back)
        (.require ⟨path, delimiter⟩)
  | provide {front first second target rest : List Char} {location : String}
      {label : Option String} :
      Spaces front → Gap first → Gap second → Quoted target location → Naming rest label →
      Payload (front ++ ['='] ++ first ++ "provide".toList ++ second ++ target ++ rest)
        (.provide location label)

/-- The lines that carry a directive: blanks, the mark of a line comment and a payload. -/
inductive Written : List Char → Directive → Prop
  | line {blanks payload : List Char} {directive : Directive} :
      (∀ c ∈ blanks, Text.isBlank c = true) → Payload payload directive →
      Written (blanks ++ ['/', '/'] ++ payload) directive

/-! ## Texts of tokens -/

/-- The token of a text between delimiters. -/
def tokenOf : Delimiter → Token
  | .doubleQuote => .doubleQuoted
  | .singleQuote => .singleQuoted
  | .angleBracket => .angleBracketed

theorem delimiter?_eq_some_iff {token : Token} {delimiter : Delimiter} :
    token.delimiter? = some delimiter ↔ token = tokenOf delimiter := by
  cases token <;> cases delimiter <;> decide

theorem gap_iff {text : List Char} : Gap text ↔ Token.gap.pattern.Fits text := Iff.rfl

theorem enclosed_iff {delimiter : Delimiter} {text : List Char} {path : String} :
    Enclosed delimiter text path ↔ (tokenOf delimiter).pattern.Fits text ∧
      Lexeme.content ⟨tokenOf delimiter, text⟩ = path := by
  have pattern : (tokenOf delimiter).pattern = .enclosed delimiter.opening delimiter.closing := by
    cases delimiter <;> rfl
  rw [pattern]
  constructor
  · rintro ⟨absent, rfl⟩
    exact ⟨⟨path.toList, absent, rfl⟩, by simp [Lexeme.content]⟩
  · rintro ⟨⟨inside, absent, rfl⟩, rfl⟩
    simpa [Enclosed, Lexeme.content] using absent

theorem Enclosed.of_lexeme {delimiter : Delimiter} {lexeme : Lexeme}
    (enclosed : lexeme.token.delimiter? = some delimiter)
    (fits : lexeme.token.pattern.Fits lexeme.text) :
    Enclosed delimiter lexeme.text lexeme.content := by
  obtain ⟨token, text⟩ := lexeme
  obtain rfl := delimiter?_eq_some_iff.mp enclosed
  exact enclosed_iff.mpr ⟨fits, rfl⟩

theorem Quoted.of_lexeme {lexeme : Lexeme} (quoted : lexeme.IsQuoted)
    (fits : lexeme.token.pattern.Fits lexeme.text) : Quoted lexeme.text lexeme.content := by
  rcases quoted with double | single
  · exact .inl (.of_lexeme (by rw [double]; rfl) fits)
  · exact .inr (.of_lexeme (by rw [single]; rfl) fits)

theorem Quoted.exists_token {text : List Char} {content : String} (quoted : Quoted text content) :
    ∃ token, Lexeme.IsQuoted ⟨token, text⟩ ∧ token.pattern.Fits text ∧
      Lexeme.content ⟨token, text⟩ = content := by
  rcases quoted with double | single
  · exact ⟨.doubleQuoted, .inl rfl, enclosed_iff.mp double⟩
  · exact ⟨.singleQuoted, .inr rfl, enclosed_iff.mp single⟩

theorem Lexeme.IsQuoted.ne_gap {lexeme : Lexeme} (quoted : lexeme.IsQuoted) :
    lexeme.token ≠ .gap := by
  rcases quoted with double | single
  · simp [double]
  · simp [single]

/-! ## From tokens to texts -/

theorem Gaps.spaces {gaps : List Lexeme} (isGaps : Gaps gaps)
    (fits : ∀ lexeme ∈ gaps, lexeme.token.pattern.Fits lexeme.text) :
    Spaces (gaps.flatMap (·.text)) := by
  intro c member
  obtain ⟨lexeme, listed, inside⟩ := List.mem_flatMap.mp member
  have gap := fits lexeme listed
  rw [isGaps lexeme listed] at gap
  exact gap.2 c inside

theorem Gaps.gap {gaps : List Lexeme} (isGaps : Gaps gaps) (proper : gaps ≠ [])
    (fits : ∀ lexeme ∈ gaps, lexeme.token.pattern.Fits lexeme.text) :
    Gap (gaps.flatMap (·.text)) := by
  refine ⟨?_, isGaps.spaces fits⟩
  obtain ⟨lexeme, others, rfl⟩ := List.exists_cons_of_ne_nil proper
  have first := Token.ne_nil_of_fits (fits lexeme List.mem_cons_self)
  simp [first]

theorem Clause.naming {lexemes : List Lexeme} {label : Option String}
    (clause : Clause lexemes label)
    (fits : ∀ lexeme ∈ lexemes, lexeme.token.pattern.Fits lexeme.text) :
    Naming (lexemes.flatMap (·.text)) label := by
  cases clause with
  | none gaps => exact .none (gaps.spaces fits)
  | some proper gaps quoted ending =>
      simp only [List.forall_mem_append, List.forall_mem_cons] at fits
      obtain ⟨front, word, gap, name, back⟩ := fits
      obtain rfl : _ = "as".toList := word
      simpa using Naming.some (gaps.gap proper front) (gap_iff.mpr gap) (.of_lexeme quoted name)
        (ending.spaces back)

theorem Form.payload {lexemes : List Lexeme} {directive : Directive} (form : Form lexemes directive)
    (fits : ∀ lexeme ∈ lexemes, lexeme.token.pattern.Fits lexeme.text) :
    Payload (lexemes.flatMap (·.text)) directive := by
  obtain ⟨gaps, operands⟩ := form
  simp only [List.forall_mem_append, List.forall_mem_cons] at fits
  obtain ⟨front, mark, first, word, later⟩ := fits
  obtain rfl : _ = "=".toList := mark
  cases operands with
  | require enclosed ending =>
      obtain ⟨second, target, back⟩ := by simpa only [List.forall_mem_cons] using later
      obtain rfl : _ = "require".toList := word
      simpa using Payload.require (gaps.spaces front) (gap_iff.mpr first) (gap_iff.mpr second)
        (.of_lexeme enclosed target) (ending.spaces back)
  | provide quoted clause =>
      obtain ⟨second, target, rest⟩ := by simpa only [List.forall_mem_cons] using later
      obtain rfl : _ = "provide".toList := word
      simpa using Payload.provide (gaps.spaces front) (gap_iff.mpr first) (gap_iff.mpr second)
        (.of_lexeme quoted target) (clause.naming rest)

/-! ## From texts to tokens -/

theorem Lexed.cons_spaces {spaces rest : List Char} {later : List Lexeme} (lexed : Lexed rest later)
    (only : Spaces spaces) (other : ∀ lexeme ∈ later.head?, lexeme.token ≠ .gap) :
    ∃ gaps, Gaps gaps ∧ Lexed (spaces ++ rest) (gaps ++ later) := by
  by_cases proper : spaces = []
  · subst proper
    exact ⟨[], by simp [Gaps], lexed⟩
  · exact ⟨[⟨.gap, spaces⟩], by simp [Gaps], lexed.cons_gap ⟨proper, only⟩ other⟩

theorem Spaces.lexed {spaces : List Char} (only : Spaces spaces) :
    ∃ gaps, Gaps gaps ∧ Lexed spaces gaps := by
  simpa using Lexed.nil.cons_spaces only (by simp)

theorem Naming.lexed {text : List Char} {label : Option String} (naming : Naming text label) :
    ∃ lexemes, Lexed text lexemes ∧ Clause lexemes label := by
  cases naming with
  | none only =>
      obtain ⟨gaps, isGaps, lexed⟩ := only.lexed
      exact ⟨gaps, lexed, .none isGaps⟩
  | @some first second name back _ isFirst isSecond isName only =>
      obtain ⟨gaps, isGaps, ending⟩ := only.lexed
      obtain ⟨token, quoted, fits, rfl⟩ := isName.exists_token
      have named := ending.cons_token fits quoted.ne_gap
      have spaced := named.cons_gap (gap_iff.mp isSecond) (by simpa using quoted.ne_gap)
      have isWord : Token.naming.pattern.Fits "as".toList := rfl
      have word := spaced.cons_token isWord (by decide)
      have lexed := word.cons_gap (gap_iff.mp isFirst) (by simp)
      refine ⟨_, by simpa using lexed, ?_⟩
      have before : Gaps [⟨.gap, first⟩] := by simp [Gaps]
      exact .some (List.cons_ne_nil _ []) before quoted isGaps

/-- What stands before the operands of a directive. -/
theorem Lexed.form {front first mark rest : List Char} {kind : Token} {later : List Lexeme}
    {directive : Directive} (lexed : Lexed rest later) (only : Spaces front) (isFirst : Gap first)
    (fits : kind.pattern.Fits mark) (operands : Operands kind later directive) :
    ∃ lexemes, Lexed (front ++ ['='] ++ first ++ mark ++ rest) lexemes ∧
      Form lexemes directive := by
  have other : kind ≠ .gap := by
    rintro rfl
    cases operands
  have word := lexed.cons_token fits other
  have spaced := word.cons_gap (gap_iff.mp isFirst) (by simpa using other)
  have isMark : Token.equals.pattern.Fits ['='] := rfl
  have marked := spaced.cons_token isMark (by decide)
  obtain ⟨gaps, isGaps, whole⟩ := marked.cons_spaces only (by simp)
  exact ⟨_, by simpa using whole, .intro isGaps operands⟩

theorem Payload.lexed {text : List Char} {directive : Directive}
    (payload : Payload text directive) :
    ∃ lexemes, Lexed text lexemes ∧ Form lexemes directive := by
  cases payload with
  | @require _ _ _ _ _ delimiter _ isFront isFirst isSecond isTarget isBack =>
      obtain ⟨gaps, isGaps, ending⟩ := isBack.lexed
      obtain ⟨fits, rfl⟩ := enclosed_iff.mp isTarget
      have enclosed : (tokenOf delimiter).delimiter? = some delimiter :=
        delimiter?_eq_some_iff.mpr rfl
      have other : tokenOf delimiter ≠ .gap := by cases delimiter <;> decide
      have named := ending.cons_token fits other
      have spaced := named.cons_gap (gap_iff.mp isSecond) (by simpa using other)
      have isWord : Token.require.pattern.Fits "require".toList := rfl
      simpa using spaced.form isFront isFirst isWord (.require enclosed isGaps)
  | provide isFront isFirst isSecond isTarget naming =>
      obtain ⟨lexemes, ending, clause⟩ := naming.lexed
      obtain ⟨token, quoted, fits, rfl⟩ := isTarget.exists_token
      have named := ending.cons_token fits quoted.ne_gap
      have spaced := named.cons_gap (gap_iff.mp isSecond) (by simpa using quoted.ne_gap)
      have isWord : Token.provide.pattern.Fits "provide".toList := rfl
      simpa using spaced.form isFront isFirst isWord (.provide quoted clause)

/-! ## Reading -/

/-- A text is built by the rules exactly when its tokens make up the directive. -/
theorem payload_iff {text : List Char} {directive : Directive} :
    Payload text directive ↔ ∃ lexemes, Lexed text lexemes ∧ Form lexemes directive := by
  constructor
  · exact Payload.lexed
  · rintro ⟨lexemes, lexed, form⟩
    rw [lexed.eq_flatMap]
    exact form.payload lexed.fits

section Lexer

variable {lexer : Lexer} (longest : LongestMatch lexer)

include longest

theorem ofPayload?_eq_some_iff {payload : List Char} {directive : Directive} :
    ofPayload? payload lexer = some directive ↔ Payload payload directive := by
  simp only [ofPayload?, Option.bind_eq_some_iff, tokens?_eq_some_iff longest,
    ofTokens?_eq_some_iff, payload_iff]

theorem directive_eq_some_iff {text : String} {directive : Directive} :
    (Line.classify text lexer).directive = some directive ↔ Written text.toList directive := by
  simp only [Line.classify, Option.bind_eq_some_iff, Text.after?_eq_some_iff, Text.trimStart,
    Text.dropWhile_eq_iff, ofPayload?_eq_some_iff longest]
  constructor
  · rintro ⟨payload, ⟨⟨blanks, isBlanks, whole⟩, _⟩, isPayload⟩
    rw [whole, ← List.append_assoc]
    exact .line isBlanks isPayload
  · intro written
    generalize text.toList = line at written
    cases written with
    | @line blanks payload _ isBlanks isPayload =>
        refine ⟨payload, ⟨⟨blanks, isBlanks, by simp⟩, ?_⟩, isPayload⟩
        simp [Text.isBlank]

/-- Nothing in a line depends on the lexer. -/
theorem classify_eq (text : String) : Line.classify text lexer = Line.classify text := by
  have same : (Line.classify text lexer).directive = (Line.classify text).directive := by
    apply Option.ext
    intro directive
    rw [directive_eq_some_iff longest, directive_eq_some_iff longestMatch_lex]
  rw [Line.classify, Line.classify, Line.mk.injEq]
  exact ⟨rfl, rfl, rfl, rfl, rfl, rfl, same⟩

end Lexer

/-- With any lexer that takes the longest match and reports what is no token, a line is classified
as carrying a directive exactly when the rules build the line and that directive, it carries none
exactly when they build none, and they never build two. -/
theorem classify_directive_iff_written {lexer : Lexer} (longest : LongestMatch lexer)
    (text : String) :
    (∀ directive, (Line.classify text lexer).directive = some directive ↔
      Written text.toList directive) ∧
    ((Line.classify text lexer).directive = none ↔ ∀ directive, ¬ Written text.toList directive) ∧
    (∀ first second, Written text.toList first → Written text.toList second → first = second) ∧
    Line.classify text lexer = Line.classify text := by
  refine ⟨fun _ => directive_eq_some_iff longest, ?_, ?_, classify_eq longest text⟩
  · simp only [Option.eq_none_iff_forall_ne_some, ne_eq, directive_eq_some_iff longest]
  · intro first second isFirst isSecond
    have read := (directive_eq_some_iff longest).mpr isFirst
    exact Option.some.inj (read.symm.trans ((directive_eq_some_iff longest).mpr isSecond))

/-- A name needs a gap before it, and the mark of the other quotes may stand in it. -/
theorem written_naming : LongestMatch lex ∧
    Written "\t// = provide 'kit' \tas \"it's\"".toList (.provide "kit" (some "it's")) ∧
    ∀ directive, ¬ Written "// = provide 'kit'as \"it's\"".toList directive :=
  ⟨longestMatch_lex,
    ((classify_directive_iff_written longestMatch_lex "\t// = provide 'kit' \tas \"it's\"").1 _).mp
      (by decide +kernel),
    (classify_directive_iff_written longestMatch_lex "// = provide 'kit'as \"it's\"").2.1.mp
      (by decide +kernel)⟩

end Directive

end Splice
