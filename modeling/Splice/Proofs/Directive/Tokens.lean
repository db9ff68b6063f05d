import Mathlib.Data.List.Basic
import Splice.Directive
import Splice.Proofs.Text.Marks

/-!
# Longest match

What a lexer is taken to do is said by the patterns alone: it takes the longest text at the front
that is a token, goes on behind it, and reports an error where no token begins.  The first character
of a text tells which token it can be, so that there is one way only to cut a text into tokens,
whatever lexer does it.
-/

namespace Splice

/-- A single character stands leftmost if it does not occur before. -/
theorem Text.leftmost_singleton_iff {c : Char} {text before rest : List Char} :
    Leftmost [c] text before rest ↔ text = before ++ c :: rest ∧ c ∉ before := by
  constructor
  · intro leftmost
    refine ⟨by simpa using leftmost.parts, fun inside => ?_⟩
    obtain ⟨front, back, rfl⟩ := List.append_of_mem inside
    have early := leftmost.first front (back ++ c :: rest) (by simp [leftmost.parts])
    rw [List.length_append, List.length_cons] at early
    omega
  · rintro ⟨rfl, absent⟩
    refine ⟨by simp, fun front back whole => ?_⟩
    by_contra early
    have shorter : (front ++ [c]).length ≤ before.length := by
      rw [List.length_append, List.length_singleton]
      omega
    have inside : front ++ [c] <+: before :=
      List.prefix_of_prefix_length_le ⟨back, whole.symm⟩ (List.prefix_append _ _) shorter
    exact absent (inside.subset (by simp))

namespace Directive

/-! ## Patterns -/

/-- The texts with a pattern. -/
def Pattern.Fits : Pattern → List Char → Prop
  | word mark, text => text = mark
  | run characters, text => text ≠ [] ∧ ∀ c ∈ text, c ∈ characters
  | enclosed opening closing, text =>
      ∃ inside, closing ∉ inside ∧ text = opening :: (inside ++ [closing])

/-- What may follow a text with a pattern that goes on as long as it can. -/
def Pattern.Stops : Pattern → List Char → Prop
  | run characters, rest => ∀ c ∈ rest.head?, c ∉ characters
  | _, _ => True

theorem takeWhile_eq_of_stops {characters front rest : List Char}
    (only : ∀ c ∈ front, c ∈ characters) (stops : ∀ c ∈ rest.head?, c ∉ characters) :
    (front ++ rest).takeWhile (· ∈ characters) = front := by
  rw [List.takeWhile_append_of_pos (by simpa using only)]
  cases rest with
  | nil => simp
  | cons c rest => rw [List.takeWhile_cons_of_neg (by simpa using stops), List.append_nil]

theorem Pattern.take?_eq_some_iff {pattern : Pattern} {text front rest : List Char} :
    pattern.take? text = some (front, rest) ↔
      text = front ++ rest ∧ pattern.Fits front ∧ pattern.Stops rest := by
  cases pattern with
  | word mark =>
      simp only [take?, Option.map_eq_some_iff, Text.after?_eq_some_iff, Prod.mk.injEq, Fits, Stops]
      constructor
      · rintro ⟨_, rfl, rfl, rfl⟩
        exact ⟨rfl, rfl, trivial⟩
      · rintro ⟨rfl, rfl, _⟩
        exact ⟨rest, rfl, rfl, rfl⟩
  | run characters =>
      constructor
      · intro taken
        have whole := eq_append_of_take? taken
        simp only [take?] at taken
        split at taken
        · cases taken
        · rename_i c others first
          obtain ⟨rfl, dropped⟩ := Prod.mk.inj (Option.some.inj taken)
          have only : ∀ d ∈ c :: others, d ∈ characters := by
            intro d member
            rw [← first] at member
            simpa using List.mem_takeWhile_imp member
          refine ⟨whole, ⟨List.cons_ne_nil _ _, only⟩, ?_⟩
          simpa [Stops] using (Text.dropWhile_eq_iff.mp dropped).2
      · rintro ⟨rfl, ⟨proper, only⟩, stops⟩
        have dropped : (front ++ rest).dropWhile (· ∈ characters) = rest := by
          refine Text.dropWhile_eq_iff.mpr ⟨⟨front, by simpa using only, rfl⟩, ?_⟩
          simpa [Stops] using stops
        simp only [take?, takeWhile_eq_of_stops only stops, dropped]
        cases front with
        | nil => exact absurd rfl proper
        | cons c front => rfl
  | enclosed opening closing =>
      simp only [take?, Option.bind_eq_bind, Option.bind_eq_some_iff, Prod.exists,
        Option.some.injEq, Prod.mk.injEq, Text.after?_eq_some_iff, Text.cut?_eq_some_iff,
        Text.leftmost_singleton_iff, Fits, Stops]
      constructor
      · rintro ⟨_, rfl, inside, _, ⟨rfl, absent⟩, rfl, rfl⟩
        exact ⟨by simp, ⟨inside, absent, rfl⟩, trivial⟩
      · rintro ⟨rfl, ⟨inside, absent, rfl⟩, _⟩
        exact ⟨inside ++ closing :: rest, by simp, inside, rest, ⟨rfl, absent⟩, rfl, rfl⟩

/-- Something is taken from a text that begins with a text of the pattern. -/
theorem Pattern.exists_take? {pattern : Pattern} {front : List Char} (fits : pattern.Fits front)
    (rest : List Char) : ∃ taken, pattern.take? (front ++ rest) = some taken := by
  cases pattern with
  | word | enclosed => exact ⟨_, take?_eq_some_iff.mpr ⟨rfl, fits, trivial⟩⟩
  | run characters =>
      -- The text may go on with further characters of the run.
      obtain ⟨⟨more, only, parts⟩, stops⟩ :=
        Text.dropWhile_eq_iff.mp (rfl : rest.dropWhile (· ∈ characters) = _)
      refine ⟨(front ++ more, rest.dropWhile (· ∈ characters)),
        take?_eq_some_iff.mpr ⟨?_, ⟨?_, ?_⟩, ?_⟩⟩
      · rw [List.append_assoc, ← parts]
      · simp [fits.1]
      · exact List.forall_mem_append.mpr ⟨fits.2, by simpa using only⟩
      · simpa [Stops] using stops

/-- Of two texts with a pattern the one behind which it stops is not the shorter one. -/
theorem Pattern.length_le_of_stops {pattern : Pattern} {front longer rest : List Char}
    (fits : pattern.Fits front) (stops : pattern.Stops rest) (other : pattern.Fits longer)
    (within : longer <+: front ++ rest) : longer.length ≤ front.length := by
  cases pattern with
  | word mark =>
      obtain rfl : longer = mark := other
      obtain rfl : front = longer := fits
      exact Nat.le_refl _
  | run characters =>
      obtain ⟨tail, parts⟩ := within
      have taken : longer <+: (longer ++ tail).takeWhile (· ∈ characters) := by
        rw [List.takeWhile_append_of_pos (by simpa using other.2)]
        exact List.prefix_append _ _
      rw [parts, takeWhile_eq_of_stops fits.2 stops] at taken
      exact taken.length_le
  | enclosed opening closing =>
      obtain ⟨inside, absent, rfl⟩ := fits
      obtain ⟨inner, without, rfl⟩ := other
      obtain ⟨tail, parts⟩ := within
      have same : inside ++ closing :: rest = inner ++ closing :: tail := by simpa using parts.symm
      -- Both end at the first closing character of the same text.
      obtain ⟨rfl, _⟩ := (Text.leftmost_singleton_iff.mpr ⟨same, without⟩).unique
        (Text.leftmost_singleton_iff.mpr ⟨rfl, absent⟩)
      exact Nat.le_refl _

/-- A pattern stops behind the longest text that has it. -/
theorem Pattern.stops_of_longest {pattern : Pattern} {front rest : List Char}
    (fits : pattern.Fits front)
    (longest : ∀ longer, pattern.Fits longer → longer <+: front ++ rest →
      longer.length ≤ front.length) : pattern.Stops rest := by
  cases pattern with
  | word | enclosed => trivial
  | run characters =>
      intro c first inside
      obtain ⟨tail, rfl⟩ := List.head?_eq_some_iff.mp first
      have more : (run characters).Fits (front ++ [c]) := by
        refine ⟨by simp, List.forall_mem_append.mpr ⟨fits.2, ?_⟩⟩
        simpa using inside
      have short := longest (front ++ [c]) more ⟨tail, by simp⟩
      rw [List.length_append, List.length_singleton] at short
      omega

/-! ## Tokens -/

/-- The characters with which the texts of a pattern begin. -/
def Pattern.firsts : Pattern → List Char
  | word mark => mark.take 1
  | run characters => characters
  | enclosed opening _ => [opening]

theorem Token.mem_all (token : Token) : token ∈ Token.all := by
  cases token <;> decide

theorem Token.ne_nil_of_fits {token : Token} {text : List Char} (fits : token.pattern.Fits text) :
    text ≠ [] := by
  rintro rfl
  cases token <;> simp [pattern, Pattern.Fits] at fits

theorem Pattern.Fits.first {pattern : Pattern} {c : Char} {text : List Char}
    (fits : pattern.Fits (c :: text)) : c ∈ pattern.firsts := by
  cases pattern with
  | word mark =>
      obtain rfl : c :: text = mark := fits
      simp [firsts]
  | run characters => exact fits.2 c List.mem_cons_self
  | enclosed opening closing =>
      obtain ⟨_, _, parts⟩ := fits
      simp [firsts, (List.cons.inj parts).1]

/-- No two tokens begin with the same character. -/
theorem Token.eq_of_first {one other : Token} {c : Char} (first : c ∈ one.pattern.firsts)
    (second : c ∈ other.pattern.firsts) : one = other := by
  have apart : (Token.all.all fun one => Token.all.all fun other => one.pattern.firsts.all fun c =>
      !decide (c ∈ other.pattern.firsts) || decide (one = other)) = true := by decide +kernel
  simp only [List.all_eq_true, Bool.or_eq_true, Bool.not_eq_true', decide_eq_false_iff_not,
    decide_eq_true_eq] at apart
  exact (apart one (mem_all one) other (mem_all other) c first).resolve_left (not_not_intro second)

theorem Token.eq_of_fits {one other : Token} {front longer text : List Char}
    (fits : one.pattern.Fits front) (within : front <+: text) (again : other.pattern.Fits longer)
    (inside : longer <+: text) : one = other := by
  cases text with
  | nil => exact absurd (List.prefix_nil.mp within) (ne_nil_of_fits fits)
  | cons c text =>
      obtain ⟨_, rfl, _⟩ := (List.prefix_cons_iff.mp within).resolve_left (ne_nil_of_fits fits)
      obtain ⟨_, rfl, _⟩ := (List.prefix_cons_iff.mp inside).resolve_left (ne_nil_of_fits again)
      exact eq_of_first fits.first again.first

/-- The front of a text is a token, and nothing longer at its front is one. -/
structure Longest (token : Token) (front rest : List Char) : Prop where
  /-- The front has the pattern of the token. -/
  fits : token.pattern.Fits front
  /-- Nothing longer has the pattern of any token. -/
  longest : ∀ (other : Token) (longer : List Char), other.pattern.Fits longer →
    longer <+: front ++ rest → longer.length ≤ front.length

theorem longest_iff {token : Token} {front rest : List Char} :
    Longest token front rest ↔ token.pattern.Fits front ∧ token.pattern.Stops rest := by
  constructor
  · intro longest
    exact ⟨longest.fits, Pattern.stops_of_longest longest.fits (longest.longest token)⟩
  · rintro ⟨fits, stops⟩
    refine ⟨fits, fun other longer again inside => ?_⟩
    obtain rfl := Token.eq_of_fits fits (List.prefix_append front rest) again inside
    exact Pattern.length_le_of_stops fits stops again inside

/-- What a lexer is taken to do. -/
structure LongestMatch (lexer : Lexer) : Prop where
  /-- There is nothing in an empty text. -/
  empty : lexer [] = []
  /-- The longest token at the front is taken, and the rest is cut in turn. -/
  token : ∀ {token : Token} {front rest : List Char}, Longest token front rest →
    lexer (front ++ rest) = (some token, front) :: lexer rest
  /-- Where no token begins there is an error. -/
  error : ∀ {text : List Char}, text ≠ [] →
    (∀ (token : Token) (front : List Char), token.pattern.Fits front → ¬ front <+: text) →
    ∃ piece pieces, lexer text = (none, piece) :: pieces

/-! ## The lexer -/

theorem munch?_eq_some {text rest : List Char} {lexeme : Lexeme}
    (found : munch? text = some (lexeme, rest)) :
    text = lexeme.text ++ rest ∧ Longest lexeme.token lexeme.text rest := by
  obtain ⟨token, _, taken⟩ := List.exists_of_findSome?_eq_some found
  obtain ⟨⟨front, after⟩, matched, pair⟩ := Option.map_eq_some_iff.mp taken
  obtain ⟨rfl, rfl⟩ := Prod.mk.inj pair
  obtain ⟨whole, known⟩ := Pattern.take?_eq_some_iff.mp matched
  exact ⟨whole, longest_iff.mpr known⟩

theorem munch?_eq_none_iff {text : List Char} :
    munch? text = none ↔
      ∀ (token : Token) (front : List Char), token.pattern.Fits front → ¬ front <+: text := by
  constructor
  · rintro missing token front fits ⟨rest, rfl⟩
    have untaken := List.findSome?_eq_none_iff.mp missing token (Token.mem_all token)
    obtain ⟨taken, found⟩ := Pattern.exists_take? fits rest
    simp [found] at untaken
  · intro absent
    cases found : munch? text with
    | none => rfl
    | some taken =>
        obtain ⟨whole, longest⟩ := munch?_eq_some found
        exact absurd ⟨taken.2, whole.symm⟩ (absent taken.1.token taken.1.text longest.fits)

theorem munch?_of_longest {token : Token} {front rest : List Char}
    (longest : Longest token front rest) :
    munch? (front ++ rest) = some (⟨token, front⟩, rest) := by
  cases found : munch? (front ++ rest) with
  | none =>
      exact absurd (List.prefix_append front rest)
        (munch?_eq_none_iff.mp found token front longest.fits)
  | some taken =>
      obtain ⟨⟨other, text⟩, after⟩ := taken
      obtain ⟨whole, again⟩ := munch?_eq_some found
      have within : text <+: front ++ rest := ⟨after, whole.symm⟩
      have inside : front <+: text ++ after := ⟨rest, whole⟩
      obtain rfl := Token.eq_of_fits longest.fits (List.prefix_append _ _) again.fits within
      have same : front.length = text.length :=
        Nat.le_antisymm (again.longest _ _ longest.fits inside)
          (longest.longest _ _ again.fits within)
      obtain ⟨rfl, rfl⟩ := List.append_inj whole same
      rfl

/-- The lexer that is used does what a lexer is taken to do. -/
theorem longestMatch_lex : LongestMatch lex where
  empty := by rw [lex]
  token := by
    intro token front rest longest
    have found := munch?_of_longest longest
    cases front with
    | nil => exact absurd rfl (Token.ne_nil_of_fits longest.fits)
    | cons c front =>
        rw [List.cons_append] at found ⊢
        rw [lex]
        split
        · rename_i missing
          rw [found] at missing
          cases missing
        · rename_i other
          cases Option.some.inj (found.symm.trans other)
          rfl
  error := by
    intro text proper absent
    cases text with
    | nil => exact absurd rfl proper
    | cons c text =>
        rw [lex]
        split
        · exact ⟨_, _, rfl⟩
        · rename_i found
          rw [munch?_eq_none_iff.mpr absent] at found
          cases found

/-! ## Texts cut into tokens -/

/-- How a text is cut into tokens, by the longest match. -/
inductive Lexed : List Char → List Lexeme → Prop
  | nil : Lexed [] []
  | cons {lexeme : Lexeme} {rest : List Char} {lexemes : List Lexeme} :
      Longest lexeme.token lexeme.text rest → Lexed rest lexemes →
      Lexed (lexeme.text ++ rest) (lexeme :: lexemes)

/-- Whatever lexer takes the longest match, it finds the tokens of a text that consists of tokens,
and none in a text that does not. -/
theorem tokens?_eq_some_iff {lexer : Lexer} (longest : LongestMatch lexer) {text : List Char}
    {lexemes : List Lexeme} : tokens? lexer text = some lexemes ↔ Lexed text lexemes := by
  constructor
  · intro found
    induction size : text.length using Nat.strong_induction_on generalizing text lexemes with
    | _ size ih =>
        cases next : munch? text with
        | none =>
            cases text with
            | nil =>
                rw [tokens?, longest.empty] at found
                cases found
                exact .nil
            | cons c text =>
                obtain ⟨piece, pieces, cut⟩ :=
                  longest.error (List.cons_ne_nil c text) (munch?_eq_none_iff.mp next)
                simp [tokens?, cut] at found
        | some taken =>
            obtain ⟨⟨token, front⟩, rest⟩ := taken
            obtain ⟨rfl, first⟩ := munch?_eq_some next
            have shorter := length_lt_of_munch? next
            rw [tokens?, longest.token first] at found
            simp only [List.mapM_cons, Option.map_some, Option.bind_eq_bind, Option.bind_some,
              Option.bind_eq_some_iff] at found
            obtain ⟨others, later, same⟩ := found
            cases same
            exact .cons first (ih _ (size ▸ shorter) later rfl)
  · intro lexed
    induction lexed with
    | nil =>
        rw [tokens?, longest.empty]
        rfl
    | cons first _ ih =>
        rw [tokens?] at ih ⊢
        simp [longest.token first, ih]

namespace Lexed

variable {text rest : List Char} {lexemes later : List Lexeme}

/-- Nothing is lost. -/
theorem eq_flatMap (lexed : Lexed text lexemes) : text = lexemes.flatMap (·.text) := by
  induction lexed with
  | nil => rfl
  | cons _ _ ih => rw [List.flatMap_cons, ← ih]

theorem fits (lexed : Lexed text lexemes) :
    ∀ lexeme ∈ lexemes, lexeme.token.pattern.Fits lexeme.text := by
  induction lexed with
  | nil => simp
  | cons longest _ ih => exact List.forall_mem_cons.mpr ⟨longest.fits, ih⟩

/-- A token that is no gap may stand before anything. -/
theorem cons_token {token : Token} {front : List Char} (lexed : Lexed rest later)
    (fits : token.pattern.Fits front) (other : token ≠ .gap) :
    Lexed (front ++ rest) (⟨token, front⟩ :: later) := by
  have stops : token.pattern.Stops rest := by
    cases token with
    | gap => exact absurd rfl other
    | _ => trivial
  have longest : Longest token front rest := longest_iff.mpr ⟨fits, stops⟩
  exact @cons ⟨token, front⟩ rest later longest lexed

/-- A gap may stand before anything but a gap. -/
theorem cons_gap {gap : List Char} (lexed : Lexed rest later) (fits : Token.gap.pattern.Fits gap)
    (other : ∀ lexeme ∈ later.head?, lexeme.token ≠ .gap) :
    Lexed (gap ++ rest) (⟨.gap, gap⟩ :: later) := by
  have stops : Token.gap.pattern.Stops rest := by
    intro c first inside
    cases lexed with
    | nil => cases first
    | @cons lexeme rest _ next =>
        obtain ⟨d, text, parts⟩ := List.exists_cons_of_ne_nil (Token.ne_nil_of_fits next.fits)
        obtain rfl : d = c := by simpa [parts] using first
        have begins : d ∈ lexeme.token.pattern.firsts := (parts ▸ next.fits).first
        exact other lexeme rfl (Token.eq_of_first begins inside)
  have longest : Longest .gap gap rest := longest_iff.mpr ⟨fits, stops⟩
  exact @cons ⟨.gap, gap⟩ rest later longest lexed

end Lexed

end Directive

end Splice
