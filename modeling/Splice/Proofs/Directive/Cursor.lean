import Splice.Directive
import Splice.Proofs.Text.Marks

/-!
# Reading tokens with a cursor

What a cursor reads is told by the tokens that are still ahead of it.  The reader of directives goes
through the tokens once, save for the name of a location: the cursor looks for it behind the gaps
and comes back when there is none.  The gaps are then read a second time, at the end.
-/

namespace Splice.Directive

namespace Cursor

variable {cursor next : Cursor}

/-- The tokens that are still to be read. -/
def ahead (cursor : Cursor) : List Lexeme := cursor.tokens.drop cursor.position

@[simp] theorem ahead_zero (tokens : List Lexeme) : ahead ⟨tokens, 0⟩ = tokens := rfl

@[simp] theorem ahead_advance (cursor : Cursor) : cursor.advance.ahead = cursor.ahead.tail := by
  rw [ahead, ahead, List.tail_drop]
  rfl

theorem peek?_eq (cursor : Cursor) : cursor.peek? = cursor.ahead.head?.map (·.token) := by
  rw [peek?, ahead, List.head?_drop]

theorem peek?_eq_some_iff {token : Token} :
    cursor.peek? = some token ↔ ∃ text later, cursor.ahead = ⟨token, text⟩ :: later := by
  rw [peek?_eq]
  cases cursor.ahead with
  | nil => simp
  | cons lexeme later =>
      obtain ⟨kind, text⟩ := lexeme
      simp

theorem bump?_eq_some_iff {lexeme : Lexeme} :
    cursor.bump? = some (lexeme, next) ↔
      (∃ later, cursor.ahead = lexeme :: later) ∧ next = cursor.advance := by
  have read : cursor.bump? = cursor.ahead.head?.map fun lexeme => (lexeme, cursor.advance) := by
    rw [bump?, ahead, List.head?_drop]
  rw [read, ← List.head?_eq_some_iff, Option.map_eq_some_iff]
  simp [eq_comm]

theorem expect?_eq_some_iff {token : Token} :
    cursor.expect? token = some next ↔
      (∃ text later, cursor.ahead = ⟨token, text⟩ :: later) ∧ next = cursor.advance := by
  simp only [expect?, Option.bind_eq_bind, Option.bind_eq_some_iff, Prod.exists, bump?_eq_some_iff,
    Option.ite_none_right_eq_some, Option.some.injEq]
  constructor
  · rintro ⟨⟨_, text⟩, _, ⟨⟨later, first⟩, rfl⟩, rfl, rfl⟩
    exact ⟨⟨text, later, first⟩, rfl⟩
  · rintro ⟨⟨text, later, first⟩, rfl⟩
    exact ⟨⟨token, text⟩, _, ⟨⟨later, first⟩, rfl⟩, rfl, rfl⟩

theorem isDone_iff : cursor.isDone = true ↔ cursor.ahead = [] := by
  rw [isDone, decide_eq_true_iff, ahead, List.drop_eq_nil_iff]

end Cursor

/-- Tokens that are gaps. -/
def Gaps (lexemes : List Lexeme) : Prop := ∀ lexeme ∈ lexemes, lexeme.token = .gap

namespace Cursor

variable {cursor next : Cursor}

theorem ahead_skipGaps (cursor : Cursor) :
    cursor.skipGaps.ahead = cursor.ahead.dropWhile (·.token = .gap) := by
  fun_induction skipGaps cursor with
  | case1 cursor gap ih =>
      obtain ⟨text, later, first⟩ := peek?_eq_some_iff.mp gap
      rw [ih, ahead_advance, first, List.tail_cons, List.dropWhile_cons_of_pos (by simp)]
  | case2 cursor other =>
      rw [peek?_eq] at other
      cases ahead : cursor.ahead with
      | nil => rfl
      | cons lexeme later => rw [List.dropWhile_cons_of_neg (by simpa [ahead] using other)]

theorem position_le_skipGaps (cursor : Cursor) : cursor.position ≤ cursor.skipGaps.position := by
  fun_induction skipGaps cursor with
  | case1 cursor _ ih => exact Nat.le_of_succ_le ih
  | case2 cursor => exact Nat.le_refl _

theorem tokens_skipGaps (cursor : Cursor) : cursor.skipGaps.tokens = cursor.tokens := by
  fun_induction skipGaps cursor with
  | case1 _ _ ih => exact ih
  | case2 => rfl

/-- The cursor has not moved if no gap was ahead. -/
theorem position_skipGaps_eq_iff :
    cursor.skipGaps.position = cursor.position ↔ cursor.peek? ≠ some .gap := by
  rw [skipGaps]
  split
  · rename_i gap
    have moved : cursor.position + 1 ≤ cursor.advance.skipGaps.position :=
      cursor.advance.position_le_skipGaps
    simp only [gap, ne_eq, not_true_eq_false, iff_false]
    omega
  · rename_i other
    simpa using other

/-- The gaps are passed, all of them. -/
theorem ahead_skipGaps_eq_iff {later : List Lexeme} :
    cursor.skipGaps.ahead = later ↔ (∃ gaps, Gaps gaps ∧ cursor.ahead = gaps ++ later) ∧
      ∀ lexeme ∈ later.head?, lexeme.token ≠ .gap := by
  simp only [ahead_skipGaps, Text.dropWhile_eq_iff, decide_eq_true_eq, decide_eq_false_iff_not,
    Gaps, ne_eq]

/-- All that is left is gaps. -/
theorem isDone_skipGaps_iff : cursor.skipGaps.isDone = true ↔ Gaps cursor.ahead := by
  rw [isDone_iff, ahead_skipGaps_eq_iff]
  simp

end Cursor

/-- A text between quotes. -/
def Lexeme.IsQuoted (lexeme : Lexeme) : Prop :=
  lexeme.token = .doubleQuoted ∨ lexeme.token = .singleQuoted

/-- The tokens behind the location of a `provide`. -/
inductive Clause : List Lexeme → Option String → Prop
  | none {back : List Lexeme} : Gaps back → Clause back none
  | some {gaps back : List Lexeme} {word gap : List Char} {name : Lexeme} : gaps ≠ [] → Gaps gaps →
      name.IsQuoted → Gaps back →
      Clause (gaps ++ ⟨.naming, word⟩ :: ⟨.gap, gap⟩ :: name :: back) (some name.content)

/-- The tokens behind the word of a directive. -/
inductive Operands : Token → List Lexeme → Directive → Prop
  | require {gap : List Char} {target : Lexeme} {back : List Lexeme} {delimiter : Delimiter} :
      target.token.delimiter? = some delimiter → Gaps back →
      Operands .require (⟨.gap, gap⟩ :: target :: back) (.require ⟨target.content, delimiter⟩)
  | provide {gap : List Char} {location : Lexeme} {rest : List Lexeme} {label : Option String} :
      location.IsQuoted → Clause rest label →
      Operands .provide (⟨.gap, gap⟩ :: location :: rest) (.provide location.content label)

/-- The tokens of a directive. -/
inductive Form : List Lexeme → Directive → Prop
  | intro {front later : List Lexeme} {mark gap word : List Char} {kind : Token}
      {directive : Directive} : Gaps front → Operands kind later directive →
      Form (front ++ ⟨.equals, mark⟩ :: ⟨.gap, gap⟩ :: ⟨kind, word⟩ :: later) directive

namespace Cursor

variable {cursor next : Cursor}

theorem quoted?_eq_some_iff {content : String} :
    cursor.quoted? = some (content, next) ↔ ∃ lexeme : Lexeme, lexeme.IsQuoted ∧
      lexeme.content = content ∧ (∃ later, cursor.ahead = lexeme :: later) ∧
      next = cursor.advance := by
  simp only [quoted?, Option.bind_eq_bind, Option.bind_eq_some_iff, Prod.exists, bump?_eq_some_iff]
  constructor
  · rintro ⟨lexeme, _, ⟨first, rfl⟩, found⟩
    split at found
    · obtain ⟨rfl, rfl⟩ := Prod.mk.inj (Option.some.inj found)
      exact ⟨lexeme, .inl ‹_›, rfl, first, rfl⟩
    · obtain ⟨rfl, rfl⟩ := Prod.mk.inj (Option.some.inj found)
      exact ⟨lexeme, .inr ‹_›, rfl, first, rfl⟩
    · cases found
  · rintro ⟨lexeme, double | single, rfl, first, rfl⟩
    · exact ⟨lexeme, _, ⟨first, rfl⟩, by rw [double]⟩
    · exact ⟨lexeme, _, ⟨first, rfl⟩, by rw [single]⟩

/-- Where no name is given the cursor is where it was. -/
theorem label?_eq_some_none_iff :
    cursor.label? = some (none, next) ↔
      cursor.skipGaps.peek? ≠ some .naming ∧ next = cursor := by
  have back : (⟨cursor.skipGaps.tokens, cursor.position⟩ : Cursor) = cursor := by
    rw [tokens_skipGaps]
  rw [label?]
  by_cases named : cursor.skipGaps.peek? = some .naming
  · by_cases stayed : cursor.skipGaps.position = cursor.position
    · simp [named, stayed]
    · simp [named, stayed, Option.bind_eq_some_iff]
  · simp [named, back, eq_comm]

theorem label?_eq_some_some_iff {label : String} :
    cursor.label? = some (some label, next) ↔ cursor.peek? = some .gap ∧
      ∃ word gap name later, name.IsQuoted ∧ name.content = label ∧
      cursor.skipGaps.ahead = ⟨.naming, word⟩ :: ⟨.gap, gap⟩ :: name :: later ∧
      next = cursor.skipGaps.advance.advance.advance := by
  rw [label?]
  constructor
  · intro read
    by_cases named : cursor.skipGaps.peek? = some .naming
    · by_cases stayed : cursor.skipGaps.position = cursor.position
      · simp [named, stayed] at read
      · simp only [named, ne_eq, not_true_eq_false, if_false, stayed, Option.bind_eq_bind,
          Option.bind_eq_some_iff, Prod.exists, expect?_eq_some_iff, quoted?_eq_some_iff,
          Option.some.injEq, Prod.mk.injEq] at read
        obtain ⟨_, ⟨⟨gap, _, second⟩, rfl⟩, _, _, ⟨name, quoted, rfl, ⟨later, third⟩, rfl⟩, rfl,
          rfl⟩ := read
        obtain ⟨word, _, first⟩ := peek?_eq_some_iff.mp named
        obtain rfl := by simpa [first] using second
        obtain rfl := by simpa [first] using third
        exact ⟨not_not.mp (position_skipGaps_eq_iff.not.mp stayed), word, gap, name, later, quoted,
          rfl, first, rfl⟩
    · simp [named] at read
  · rintro ⟨gap, word, between, name, later, quoted, rfl, ahead, rfl⟩
    have named : cursor.skipGaps.peek? = some .naming := peek?_eq_some_iff.mpr ⟨word, _, ahead⟩
    have moved : cursor.skipGaps.position ≠ cursor.position :=
      position_skipGaps_eq_iff.not.mpr (not_not.mpr gap)
    simp only [named, ne_eq, not_true_eq_false, if_false, moved, Option.bind_eq_bind,
      Option.bind_eq_some_iff, Prod.exists, expect?_eq_some_iff, quoted?_eq_some_iff]
    have second : cursor.skipGaps.advance.ahead = ⟨.gap, between⟩ :: name :: later := by
      simp [ahead]
    have third : cursor.skipGaps.advance.advance.ahead = name :: later := by simp [ahead]
    exact ⟨_, ⟨⟨between, _, second⟩, rfl⟩, _, _, ⟨name, quoted, rfl, ⟨later, third⟩, rfl⟩, rfl⟩

/-- The name is given, and nothing but gaps follows, exactly when the tokens ahead say so. -/
theorem exists_label?_iff {label : Option String} :
    (∃ next, cursor.label? = some (label, next) ∧ next.skipGaps.isDone = true) ↔
      Clause cursor.ahead label := by
  simp only [isDone_skipGaps_iff]
  constructor
  · rintro ⟨next, read, ending⟩
    cases label with
    | none =>
        obtain ⟨_, rfl⟩ := label?_eq_some_none_iff.mp read
        exact .none ending
    | some label =>
        obtain ⟨first, word, gap, name, later, quoted, rfl, ahead, rfl⟩ :=
          label?_eq_some_some_iff.mp read
        obtain ⟨⟨gaps, isGaps, parts⟩, _⟩ := ahead_skipGaps_eq_iff.mp ahead
        rw [parts]
        refine .some ?_ isGaps quoted (by simpa [ahead] using ending)
        rintro rfl
        simp [peek?_eq, parts] at first
  · intro clause
    generalize tokens : cursor.ahead = lexemes at clause
    cases clause with
    | none gaps =>
        refine ⟨cursor, label?_eq_some_none_iff.mpr ⟨?_, rfl⟩, tokens ▸ gaps⟩
        have nothing : cursor.skipGaps.ahead = [] :=
          ahead_skipGaps_eq_iff.mpr ⟨⟨_, gaps, by simp [tokens]⟩, by simp⟩
        simp [peek?_eq, nothing]
    | @some gaps back word gap name proper isGaps quoted ending =>
        have ahead : cursor.skipGaps.ahead = ⟨.naming, word⟩ :: ⟨.gap, gap⟩ :: name :: back :=
          ahead_skipGaps_eq_iff.mpr ⟨⟨gaps, isGaps, tokens⟩, by simp⟩
        have first : cursor.peek? = some .gap := by
          obtain ⟨lexeme, others, rfl⟩ := List.exists_cons_of_ne_nil proper
          simpa [peek?_eq, tokens] using isGaps lexeme List.mem_cons_self
        refine ⟨_, label?_eq_some_some_iff.mpr
          ⟨first, word, gap, name, back, quoted, rfl, ahead, rfl⟩, ?_⟩
        simpa [ahead] using ending

end Cursor

section Operands

variable {cursor : Cursor} {directive : Directive}

theorem exists_required?_iff :
    (∃ next, required? cursor = some (directive, next) ∧ next.skipGaps.isDone = true) ↔
      Operands .require cursor.ahead directive := by
  simp only [required?, Option.bind_eq_bind, Option.bind_eq_some_iff, Prod.exists,
    Cursor.expect?_eq_some_iff, Cursor.bump?_eq_some_iff, Cursor.isDone_skipGaps_iff,
    Option.some.injEq, Prod.mk.injEq]
  constructor
  · rintro ⟨_, ⟨_, ⟨⟨gap, _, first⟩, rfl⟩, target, _, ⟨⟨back, second⟩, rfl⟩, delimiter, enclosed,
      rfl, rfl⟩, ending⟩
    obtain rfl := by simpa [first] using second
    rw [first]
    exact .require enclosed (by simpa [first] using ending)
  · intro operands
    generalize ahead : cursor.ahead = lexemes at operands
    cases operands with
    | @require gap target back delimiter enclosed ending =>
        exact ⟨_, ⟨_, ⟨⟨gap, _, rfl⟩, rfl⟩, target, _, ⟨⟨back, by simp [ahead]⟩, rfl⟩, delimiter,
          enclosed, rfl, rfl⟩, by simpa [ahead] using ending⟩

theorem exists_provided?_iff :
    (∃ next, provided? cursor = some (directive, next) ∧ next.skipGaps.isDone = true) ↔
      Operands .provide cursor.ahead directive := by
  simp only [provided?, Option.bind_eq_bind, Option.bind_eq_some_iff, Prod.exists,
    Cursor.expect?_eq_some_iff, Cursor.quoted?_eq_some_iff, Option.some.injEq, Prod.mk.injEq]
  constructor
  · rintro ⟨next, ⟨_, ⟨⟨gap, _, first⟩, rfl⟩, _, _, ⟨location, quoted, rfl, ⟨rest, second⟩, rfl⟩,
      label, _, read, rfl, rfl⟩, ending⟩
    obtain rfl := by simpa [first] using second
    have clause := Cursor.exists_label?_iff.mp ⟨_, read, ending⟩
    rw [first]
    exact .provide quoted (by simpa [first] using clause)
  · intro operands
    generalize ahead : cursor.ahead = lexemes at operands
    cases operands with
    | @provide gap location rest label quoted clause =>
        have behind : cursor.advance.advance.ahead = rest := by simp [ahead]
        obtain ⟨next, read, ending⟩ := Cursor.exists_label?_iff.mpr (behind ▸ clause)
        exact ⟨next, ⟨_, ⟨⟨gap, _, rfl⟩, rfl⟩, _, _, ⟨location, quoted, rfl,
          ⟨rest, by simp [ahead]⟩, rfl⟩, label, next, read, rfl, rfl⟩, ending⟩

theorem exists_operands?_iff {kind : Token} :
    (∃ next, operands? kind cursor = some (directive, next) ∧ next.skipGaps.isDone = true) ↔
      Operands kind cursor.ahead directive := by
  cases kind with
  | require => exact exists_required?_iff
  | provide => exact exists_provided?_iff
  | _ =>
      constructor
      · rintro ⟨_, read, _⟩
        cases read
      · intro operands
        cases operands

/-- The cursor reads a directive exactly from the tokens of one. -/
theorem ofTokens?_eq_some_iff {tokens : List Lexeme} :
    ofTokens? tokens = some directive ↔ Form tokens directive := by
  simp only [ofTokens?, Option.bind_eq_bind, Option.bind_eq_some_iff, Prod.exists,
    Cursor.expect?_eq_some_iff, Cursor.bump?_eq_some_iff, Option.ite_none_right_eq_some,
    Option.some.injEq]
  constructor
  · rintro ⟨_, ⟨⟨mark, _, first⟩, rfl⟩, _, ⟨⟨gap, _, second⟩, rfl⟩, ⟨kind, word⟩, _,
      ⟨⟨later, third⟩, rfl⟩, _, next, read, ending, rfl⟩
    obtain rfl := by simpa [first] using second
    obtain rfl := by simpa [first] using third
    obtain ⟨⟨front, gaps, rfl⟩, _⟩ := Cursor.ahead_skipGaps_eq_iff.mp first
    have operands := exists_operands?_iff.mp ⟨next, read, ending⟩
    exact .intro gaps (by simpa [first] using operands)
  · intro form
    cases form with
    | @intro front later mark gap word kind _ gaps operands =>
        have first := Cursor.ahead_skipGaps_eq_iff.mpr ⟨⟨front, gaps, Cursor.ahead_zero
          (front ++ ⟨.equals, mark⟩ :: ⟨.gap, gap⟩ :: ⟨kind, word⟩ :: later)⟩, by simp⟩
        generalize Cursor.skipGaps ⟨_, 0⟩ = start at first ⊢
        have behind : start.advance.advance.advance.ahead = later := by simp [first]
        obtain ⟨next, read, ending⟩ := exists_operands?_iff.mpr (behind ▸ operands)
        have second : start.advance.ahead = ⟨.gap, gap⟩ :: ⟨kind, word⟩ :: later := by simp [first]
        have third : start.advance.advance.ahead = ⟨kind, word⟩ :: later := by simp [first]
        exact ⟨_, ⟨⟨mark, _, first⟩, rfl⟩, _, ⟨⟨gap, _, second⟩, rfl⟩, ⟨kind, word⟩, _,
          ⟨⟨later, third⟩, rfl⟩, directive, next, read, ending, rfl⟩

end Operands

end Splice.Directive
