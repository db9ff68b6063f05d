import Splice.Proofs.Outcome
import Splice.Proofs.Text.Marks
import Splice.Template.Placeholder

/-!
# Filling a line

A text falls into plain pieces and placeholders in one way only, which is found by looking for the
leftmost opening mark and the nearest closing mark after it.  A line is filled piece by piece, from
the left.  Its ending has no part in that, since it holds no character of a mark, and the text put
in for a placeholder is not looked at.
-/

namespace Splice

/-- What is removed with a line ending consists of the characters of line endings. -/
theorem Text.chomp_parts (text : List Char) :
    ∃ ending, text = chomp text ++ ending ∧ ∀ c ∈ ending, c = '\n' ∨ c = '\r' := by
  have restore {back : List Char} {front : List Char} (turned : text.reverse = back ++ front) :
      text = front.reverse ++ back.reverse := by
    rw [← List.reverse_append, ← turned, List.reverse_reverse]
  unfold chomp
  split
  · rename_i rest turned
    exact ⟨['\r', '\n'], @restore ['\n', '\r'] rest turned, by simp⟩
  · rename_i rest _ turned
    exact ⟨['\n'], @restore ['\n'] rest turned, by simp⟩
  · rename_i rest turned
    exact ⟨['\r'], @restore ['\r'] rest turned, by simp⟩
  · exact ⟨[], by simp, by simp⟩

namespace Template

open Text (Leftmost)

/-! ## The pieces of a text -/

/-- A part of a line: plain text, or the expression of a placeholder. -/
inductive Piece where
  | literal (text : List Char)
  | placeholder (expression : List Char)
deriving DecidableEq, Repr

/-- The pieces of a text, by the leftmost opening mark and the nearest closing mark after it. -/
def pieces (text : List Char) : List Piece :=
  match _found : firstPlaceholder? text with
  | none => [.literal text]
  | some (before, expression, rest) => .literal before :: .placeholder expression :: pieces rest
termination_by text.length
decreasing_by exact length_lt_of_firstPlaceholder? (by assumption)

theorem pieces_of_none {text : List Char} (missing : firstPlaceholder? text = none) :
    pieces text = [.literal text] := by
  rw [pieces]
  split
  · rfl
  · rename_i found
    rw [missing] at found
    cases found

theorem pieces_of_some {text before expression rest : List Char}
    (found : firstPlaceholder? text = some (before, expression, rest)) :
    pieces text = .literal before :: .placeholder expression :: pieces rest := by
  rw [pieces]
  split
  · rename_i missing
    rw [found] at missing
    cases missing
  · rename_i other
    cases Option.some.inj (found.symm.trans other)
    rfl

/-- How a text falls into pieces.  The leftmost opening mark and the nearest closing mark after it
enclose a placeholder, and what follows falls into pieces in turn; a text in which no closing mark
comes after an opening one is one plain piece. -/
inductive Splits : List Char → List Piece → Prop
  | plain {text : List Char} :
      (∀ before inside rest, text ≠ before ++ opening ++ inside ++ closing ++ rest) →
      Splits text [.literal text]
  | placeholder {text before opened inside rest : List Char} {pieces : List Piece} :
      Leftmost opening text before opened → Leftmost closing opened inside rest →
      Splits rest pieces →
      Splits text (.literal before :: .placeholder (Text.trim inside) :: pieces)

theorem opening_ne_nil : opening ≠ [] := by decide +kernel

theorem closing_ne_nil : closing ≠ [] := by decide +kernel

theorem firstPlaceholder?_eq_some_iff {text before expression rest : List Char} :
    firstPlaceholder? text = some (before, expression, rest) ↔
      ∃ opened inside, Leftmost opening text before opened ∧
        Leftmost closing opened inside rest ∧ Text.trim inside = expression := by
  simp only [firstPlaceholder?, Option.bind_eq_bind, Option.bind_eq_some_iff, Prod.exists,
    Text.cut?_eq_some_iff, Option.some.injEq, Prod.mk.injEq]
  constructor
  · rintro ⟨_, opened, found, inside, _, closed, rfl, rfl, rfl⟩
    exact ⟨opened, inside, found, closed, rfl⟩
  · rintro ⟨opened, inside, found, closed, rfl⟩
    exact ⟨before, opened, found, inside, rest, closed, rfl, rfl, rfl⟩

/-- There is a first placeholder as soon as some closing mark comes after some opening one. -/
theorem firstPlaceholder?_eq_none_iff {text : List Char} :
    firstPlaceholder? text = none ↔
      ∀ before inside rest, text ≠ before ++ opening ++ inside ++ closing ++ rest := by
  constructor
  · intro missing before inside rest whole
    have parts : text = before ++ opening ++ (inside ++ closing ++ rest) := by simp [whole]
    cases opens : Text.cut? opening text with
    | none => exact Text.cut?_eq_none_iff.mp opens before _ parts
    | some found =>
        obtain ⟨front, opened⟩ := found
        obtain ⟨gap, after⟩ := (Text.cut?_eq_some_iff.mp opens).suffix parts
        cases closes : Text.cut? closing opened with
        | none => exact Text.cut?_eq_none_iff.mp closes (gap ++ inside) rest (by simp [← after])
        | some found => simp [firstPlaceholder?, opens, closes] at missing
  · intro absent
    cases found : firstPlaceholder? text with
    | none => rfl
    | some parts =>
        obtain ⟨opened, inside, first, second, _⟩ := firstPlaceholder?_eq_some_iff.mp found
        refine absurd ?_ (absent parts.1 inside parts.2.2)
        rw [first.parts, second.parts]
        simp

/-- A text falls into the pieces that are found, and into no others. -/
theorem splits_iff {text : List Char} {split : List Piece} :
    Splits text split ↔ split = pieces text := by
  constructor
  · intro splits
    induction splits with
    | plain absent => rw [pieces_of_none (firstPlaceholder?_eq_none_iff.mpr absent)]
    | placeholder first second _ ih =>
        rw [pieces_of_some (firstPlaceholder?_eq_some_iff.mpr ⟨_, _, first, second, rfl⟩), ih]
  · rintro rfl
    fun_induction pieces text with
    | case1 text missing => exact .plain (firstPlaceholder?_eq_none_iff.mp missing)
    | case2 text before expression rest found ih =>
        obtain ⟨_, _, first, second, rfl⟩ := firstPlaceholder?_eq_some_iff.mp found
        exact .placeholder first second ih

/-- What is put behind a text joins its last piece, which is plain, if it holds no character of a
mark. -/
theorem Splits.append {text ending : List Char} {split : List Piece} (splits : Splits text split)
    (apart : ∀ c ∈ ending, c ∉ opening ++ closing) :
    ∃ front last, split = front ++ [.literal last] ∧
      Splits (text ++ ending) (front ++ [.literal (last ++ ending)]) := by
  have apartOpening : ∀ c ∈ ending, c ∉ opening := fun c member inside =>
    apart c member (List.mem_append_left _ inside)
  have apartClosing : ∀ c ∈ ending, c ∉ closing := fun c member inside =>
    apart c member (List.mem_append_right _ inside)
  induction splits with
  | @plain text absent =>
      refine ⟨[], text, rfl, .plain fun before inside rest whole => ?_⟩
      obtain ⟨inner, parts⟩ := Text.within_of_append whole closing_ne_nil apartClosing
      exact absent before inside inner parts
  | @placeholder text before opened inside rest pieces first second _ ih =>
      obtain ⟨front, last, rfl, longer⟩ := ih
      exact ⟨.literal before :: .placeholder (Text.trim inside) :: front, last, rfl,
        .placeholder (first.append opening_ne_nil apartOpening)
          (second.append closing_ne_nil apartClosing) longer⟩

/-! ## Filling -/

/-- The text of a piece, or the expression that has no value. -/
def Piece.fill (constants : Constants) : Piece → Except String (List Char)
  | literal text => .ok text
  | placeholder expression =>
    match evaluate? constants expression with
    | some text => .ok text.toList
    | none => .error (String.ofList expression)

/-- A text is filled from the left as its pieces are filled one by one: what has been put together
so far stays in front. -/
theorem fill_eq (constants : Constants) (result rest : List Char) :
    fill constants result rest =
      (fun texts => result ++ texts.flatten) <$> (pieces rest).mapM (·.fill constants) := by
  -- The induction goes along the loop, since what it has put together changes from round to round.
  fun_induction fill constants result rest with
  | case1 result rest missing =>
      rw [pieces_of_none missing]
      simp [Piece.fill]
  | case2 result rest before expression later found value evaluated ih =>
      have valued : (Piece.placeholder expression).fill constants = .ok value.toList := by
        rw [Piece.fill, evaluated]
      rw [ih, pieces_of_some found, List.mapM_cons, List.mapM_cons, valued]
      cases (pieces later).mapM (·.fill constants) with
      | error missing => rfl
      | ok texts => simp [Piece.fill, bind, Except.bind, pure, Except.pure, Functor.map, Except.map]
  | case3 result rest before expression later found unknown =>
      have missing : (Piece.placeholder expression).fill constants =
          .error (String.ofList expression) := by
        rw [Piece.fill, unknown]
      rw [pieces_of_some found, List.mapM_cons, List.mapM_cons, missing]
      rfl

/-- The ending of a line makes no difference to what it is filled to. -/
theorem render_eq (constants : Constants) (line : String) :
    render constants line = (pieces line.toList).mapM (·.fill constants) >>= fun texts =>
      .ok (String.ofList (Text.trimEnd texts.flatten ++ ['\n'])) := by
  obtain ⟨ending, whole, breaks⟩ := Text.chomp_parts line.toList
  have apart : ∀ c ∈ ending, c ∉ opening ++ closing := by
    intro c member
    rcases breaks c member with rfl | rfl <;> decide +kernel
  have blank : ∀ c ∈ ending, Text.isBlank c = true := by
    intro c member
    rcases breaks c member with rfl | rfl <;> decide +kernel
  obtain ⟨front, last, short, long⟩ :=
    (splits_iff.mpr (rfl : pieces (Text.chomp line.toList) = _)).append apart
  rw [← whole] at long
  rw [render, fill_eq, short, ← splits_iff.mp long, List.mapM_append, List.mapM_append]
  cases front.mapM (·.fill constants) with
  | error missing => rfl
  | ok texts =>
      have same : Text.trimEnd (texts.flatten ++ (last ++ ending)) =
          Text.trimEnd (texts.flatten ++ last) := by
        rw [← List.append_assoc, Text.trimEnd_append blank]
      simp [Piece.fill, bind, Except.bind, pure, Except.pure, same]

theorem render_error_iff {constants : Constants} {line missing : String} :
    render constants line = .error missing ↔
      (pieces line.toList).mapM (·.fill constants) = .error missing := by
  rw [render_eq]
  cases (pieces line.toList).mapM (·.fill constants) with
  | error other => simp [bind, Except.bind]
  | ok texts => simp [bind, Except.bind]

/-- The text that a piece stands for: plain text for itself, a placeholder for the value of its
expression. -/
inductive Piece.Stands (constants : Constants) : Piece → List Char → Prop
  | literal (text : List Char) : Stands constants (.literal text) text
  | value {expression : List Char} {text : String} :
      evaluate? constants expression = some text →
      Stands constants (.placeholder expression) text.toList

theorem Piece.fill_ok_iff {constants : Constants} {piece : Piece} {text : List Char} :
    piece.fill constants = .ok text ↔ piece.Stands constants text := by
  constructor
  · intro filled
    cases piece with
    | literal plain =>
        obtain rfl := Except.ok.inj filled
        exact .literal plain
    | placeholder expression =>
        rw [fill] at filled
        split at filled
        · rename_i value evaluated
          obtain rfl := Except.ok.inj filled
          exact .value evaluated
        · cases filled
  · rintro (_ | evaluated)
    · rfl
    · rw [fill, evaluated]

theorem Piece.fill_error_iff {constants : Constants} {piece : Piece} {missing : String} :
    piece.fill constants = .error missing ↔
      ∃ expression, piece = .placeholder expression ∧ evaluate? constants expression = none ∧
        missing = String.ofList expression := by
  cases piece with
  | literal plain => simp [fill]
  | placeholder expression =>
      rw [fill]
      split
      · rename_i evaluated
        simp [evaluated]
      · rename_i unknown
        simp [unknown, eq_comm]

/-- The error of a line is the expression of one of its placeholders, which has no value. -/
theorem exists_placeholder_of_render_error {constants : Constants} {line missing : String}
    (failed : render constants line = .error missing) :
    ∃ split expression, Splits line.toList split ∧ .placeholder expression ∈ split ∧
      String.ofList expression = missing ∧ evaluate? constants expression = none := by
  obtain ⟨_, piece, _, parts, _, unfilled⟩ := mapM_error_iff.mp (render_error_iff.mp failed)
  obtain ⟨expression, rfl, unknown, rfl⟩ := Piece.fill_error_iff.mp unfilled
  exact ⟨_, expression, splits_iff.mpr rfl, by simp [parts], rfl, unknown⟩

/-- Pieces can be filled exactly if the expressions of their placeholders have values. -/
theorem forall_fill_iff {constants : Constants} {split : List Piece} :
    (∀ piece ∈ split, ∃ text, piece.fill constants = .ok text) ↔
      ∀ expression, Piece.placeholder expression ∈ split →
        ∃ text, evaluate? constants expression = some text := by
  constructor
  · intro filled expression member
    obtain ⟨_, stands⟩ := filled _ member
    cases Piece.fill_ok_iff.mp stands with
    | value evaluated => exact ⟨_, evaluated⟩
  · intro evaluated piece member
    cases piece with
    | literal plain => exact ⟨plain, rfl⟩
    | placeholder expression =>
        obtain ⟨text, value⟩ := evaluated expression member
        exact ⟨text.toList, Piece.fill_ok_iff.mpr (.value value)⟩

theorem fill_congr {constants others : Constants} {split : List Piece}
    (same : ∀ expression, Piece.placeholder expression ∈ split →
      evaluate? others expression = evaluate? constants expression) :
    split.mapM (·.fill others) = split.mapM (·.fill constants) := by
  refine mapM_congr fun piece member => ?_
  cases piece with
  | literal plain => rfl
  | placeholder expression => rw [Piece.fill, Piece.fill, same expression member]

/-- A line, its ending included, falls into pieces in one way, whatever the constants are.  It can
be filled exactly if the expressions of all placeholders have values, and then to what its pieces
stand for, put together, less trailing blanks, and one line feed.  Otherwise the error is the
expression of the leftmost placeholder without a value.  Nothing else is ever evaluated: constants
that give the placeholders of the line the same values fill it alike, whatever text that puts in. -/
theorem render_follows_split (line : String) :
    ∃ split, Splits line.toList split ∧ (∀ other, Splits line.toList other → other = split) ∧
      ∀ constants,
        ((∃ text, render constants line = .ok text) ↔
          ∀ expression, Piece.placeholder expression ∈ split →
            ∃ text, evaluate? constants expression = some text) ∧
        (∀ text, render constants line = .ok text ↔
          ∃ texts kept blanks, List.Forall₂ (Piece.Stands constants) split texts ∧
            texts.flatten = kept ++ blanks ∧ (∀ c ∈ blanks, Text.isBlank c = true) ∧
            (∀ c ∈ kept.getLast?, Text.isBlank c = false) ∧
            text = String.ofList (kept ++ ['\n'])) ∧
        (∀ missing, render constants line = .error missing ↔
          ∃ before expression after, split = before ++ .placeholder expression :: after ∧
            (∀ earlier, Piece.placeholder earlier ∈ before →
              ∃ text, evaluate? constants earlier = some text) ∧
            evaluate? constants expression = none ∧ missing = String.ofList expression) ∧
        ∀ others, (∀ expression, Piece.placeholder expression ∈ split →
            evaluate? others expression = evaluate? constants expression) →
          render others line = render constants line := by
  refine ⟨pieces line.toList, splits_iff.mpr rfl, fun _ => splits_iff.mp, fun constants => ?_⟩
  refine ⟨?_, fun text => ?_, fun missing => ?_, fun others same => ?_⟩
  · rw [← forall_fill_iff, ← exists_mapM_ok_iff, render_eq]
    constructor
    · rintro ⟨text, filled⟩
      obtain ⟨texts, run, _⟩ := bind_ok.mp filled
      exact ⟨texts, run⟩
    · rintro ⟨texts, run⟩
      exact ⟨_, bind_ok.mpr ⟨texts, run, rfl⟩⟩
  · rw [render_eq, bind_ok]
    simp only [mapM_ok_iff, Piece.fill_ok_iff]
    constructor
    · rintro ⟨texts, stands, done⟩
      obtain ⟨⟨blanks, blank, parts⟩, ends⟩ :=
        Text.trimEnd_eq_iff.mp (rfl : Text.trimEnd texts.flatten = _)
      exact ⟨texts, _, blanks, stands, parts, blank, ends, (Except.ok.inj done).symm⟩
    · rintro ⟨texts, kept, blanks, stands, parts, blank, ends, rfl⟩
      refine ⟨texts, stands, ?_⟩
      rw [Text.trimEnd_eq_iff.mpr ⟨⟨blanks, blank, parts⟩, ends⟩]
  · rw [render_error_iff, mapM_error_iff]
    constructor
    · rintro ⟨before, piece, after, parts, filled, failed⟩
      obtain ⟨expression, rfl, unknown, rfl⟩ := Piece.fill_error_iff.mp failed
      exact ⟨before, expression, after, parts, forall_fill_iff.mp filled, unknown, rfl⟩
    · rintro ⟨before, expression, after, parts, evaluated, unknown, rfl⟩
      exact ⟨before, _, after, parts, forall_fill_iff.mpr evaluated,
        Piece.fill_error_iff.mpr ⟨expression, rfl, unknown, rfl⟩⟩
  · rw [render_eq, render_eq, fill_congr same]

/-- A line whose value makes a mark together with the text beside it, and whose last mark is never
closed. -/
def joinedMarks : String := "<%= A %>%= B %> <%= C \r\n"

theorem joinedMarks_filled :
    ∃ split, Splits joinedMarks.toList split ∧
      split = [.literal [], .placeholder ['A'], .literal "%= B %> <%= C \r\n".toList] ∧
      render [("A", .text "<")] joinedMarks = .ok "<%= B %> <%= C\n" ∧
      render [("A", .text "<"), ("B", .text "b")] joinedMarks = .ok "<%= B %> <%= C\n" := by
  obtain ⟨split, splits, _, filled⟩ := render_follows_split joinedMarks
  have parts : split = [.literal [], .placeholder ['A'], .literal "%= B %> <%= C \r\n".toList] := by
    rw [splits_iff.mp splits]
    decide +kernel
  have value : evaluate? [("A", .text "<")] ['A'] = some "<" := by decide +kernel
  have last : "<%= B %> <%= C".toList.getLast? = some 'C' := by decide +kernel
  have one : render [("A", .text "<")] joinedMarks = .ok "<%= B %> <%= C\n" := by
    refine ((filled _).2.1 _).mpr ⟨[[], "<".toList, "%= B %> <%= C \r\n".toList],
      "<%= B %> <%= C".toList, " \r\n".toList, ?_, ?_, ?_, ?_, ?_⟩
    · rw [parts]
      exact .cons (.literal _) (.cons (.value value) (.cons (.literal _) .nil))
    · decide +kernel
    · exact List.all_eq_true.mp (by decide +kernel)
    · rw [last]
      rintro _ ⟨⟩
      decide +kernel
    · decide +kernel
  refine ⟨split, splits, parts, one, ?_⟩
  rw [(filled [("A", .text "<")]).2.2.2 [("A", .text "<"), ("B", .text "b")] ?_, one]
  intro expression member
  obtain rfl : expression = ['A'] := by simpa [parts] using member
  decide +kernel

end Template

end Splice
