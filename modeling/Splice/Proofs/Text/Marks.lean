import Mathlib.Data.List.Infix
import Mathlib.Data.List.TakeWhile
import Splice.Text.Blank
import Splice.Text.Cut

/-!
# Marks in a text

When a text begins with a mark, when it contains one, where it stands first, and where the removal
of characters from the ends of a text stops.
-/

namespace Splice.Text

theorem after?_append (mark rest : List Char) : after? mark (mark ++ rest) = some rest := by
  induction mark with
  | nil => rfl
  | cons c mark ih => simp [after?, ih]

theorem after?_eq_some_iff {mark text rest : List Char} :
    after? mark text = some rest ↔ text = mark ++ rest := by
  constructor
  · exact eq_append_of_after?
  · rintro rfl
    exact after?_append mark rest

theorem beginsWith_iff {mark text : List Char} : beginsWith mark text = true ↔ mark <+: text := by
  simp only [beginsWith, Option.isSome_iff_exists, after?_eq_some_iff]
  constructor
  · rintro ⟨rest, rfl⟩
    exact List.prefix_append mark rest
  · rintro ⟨rest, rfl⟩
    exact ⟨rest, rfl⟩

theorem isSome_cut?_append (mark front back : List Char) :
    (cut? mark (front ++ (mark ++ back))).isSome = true := by
  induction front with
  | nil =>
      rw [List.nil_append]
      cases whole : mark ++ back with
      | nil =>
          obtain rfl : mark = [] := (List.append_eq_nil_iff.mp whole).1
          rfl
      | cons c tail => rw [cut?, ← whole, after?_append]; rfl
  | cons c front ih =>
      rw [List.cons_append, cut?]
      split
      · rfl
      · rwa [Option.isSome_map]

theorem contains_iff {mark text : List Char} : contains mark text = true ↔ mark <:+: text := by
  constructor
  · intro found
    obtain ⟨⟨before, rest⟩, cut⟩ := Option.isSome_iff_exists.mp found
    exact ⟨before, rest, (eq_append_of_cut? cut).symm⟩
  · rintro ⟨front, back, rfl⟩
    rw [contains, List.append_assoc]
    exact isSome_cut?_append mark front back

/-! ## The leftmost occurrence -/

/-- The leftmost occurrence of a mark in a text, by what stands before it and what follows it. -/
structure Leftmost (mark text before rest : List Char) : Prop where
  /-- The mark stands there. -/
  parts : text = before ++ mark ++ rest
  /-- It stands nowhere earlier. -/
  first : ∀ front back, text = front ++ mark ++ back → before.length ≤ front.length

namespace Leftmost

variable {mark text before rest : List Char}

theorem of_cut? (found : cut? mark text = some (before, rest)) :
    Leftmost mark text before rest := by
  refine ⟨eq_append_of_cut? found, ?_⟩
  fun_induction cut? mark text generalizing before with
  | case1 =>
      obtain ⟨_, _, pair⟩ := Option.map_eq_some_iff.mp found
      cases pair
      exact fun _ _ _ => Nat.zero_le _
  | case2 =>
      cases found
      exact fun _ _ _ => Nat.zero_le _
  | case3 c tail missing ih =>
      obtain ⟨⟨inner, _⟩, sub, pair⟩ := Option.map_eq_some_iff.mp found
      cases pair
      intro front back whole
      cases front with
      | nil =>
          rw [whole, List.nil_append, after?_append] at missing
          cases missing
      | cons d front =>
          obtain ⟨_, tails⟩ := List.cons.inj whole
          exact Nat.succ_le_succ (ih sub front back tails)

theorem unique {before' rest' : List Char} (one : Leftmost mark text before rest)
    (other : Leftmost mark text before' rest') : before = before' ∧ rest = rest' := by
  have size : before.length = before'.length :=
    Nat.le_antisymm (one.first _ _ other.parts) (other.first _ _ one.parts)
  have same : before ++ (mark ++ rest) = before' ++ (mark ++ rest') := by
    rw [← List.append_assoc, ← List.append_assoc, ← one.parts, other.parts]
  obtain ⟨front, back⟩ := List.append_inj same size
  exact ⟨front, List.append_cancel_left back⟩

/-- What follows any occurrence of the mark also follows the leftmost one. -/
theorem suffix {front back : List Char} (leftmost : Leftmost mark text before rest)
    (other : text = front ++ mark ++ back) : back <:+ rest := by
  have shorter := leftmost.first front back other
  have size := congrArg List.length (leftmost.parts.symm.trans other)
  simp only [List.length_append] at size
  refine List.suffix_of_suffix_length_le ⟨front ++ mark, other.symm⟩
    ⟨before ++ mark, leftmost.parts.symm⟩ ?_
  omega

end Leftmost

theorem cut?_eq_some_iff {mark text before rest : List Char} :
    cut? mark text = some (before, rest) ↔ Leftmost mark text before rest := by
  constructor
  · exact .of_cut?
  · intro leftmost
    have present : contains mark text = true :=
      contains_iff.mpr ⟨before, rest, leftmost.parts.symm⟩
    obtain ⟨⟨front, back⟩, found⟩ := Option.isSome_iff_exists.mp present
    obtain ⟨rfl, rfl⟩ := leftmost.unique (.of_cut? found)
    exact found

theorem cut?_eq_none_iff {mark text : List Char} :
    cut? mark text = none ↔ ∀ front back, text ≠ front ++ mark ++ back := by
  constructor
  · rintro missing front back rfl
    simp [List.append_assoc, ← Option.not_isSome_iff_eq_none, isSome_cut?_append] at missing
  · intro absent
    cases found : cut? mark text with
    | none => rfl
    | some pair => exact absurd (eq_append_of_cut? found) (absent pair.1 pair.2)

/-- A mark that shares no character with the ending of a text stands before it. -/
theorem within_of_append {text ending front mark back : List Char}
    (whole : text ++ ending = front ++ mark ++ back) (proper : mark ≠ [])
    (apart : ∀ c ∈ ending, c ∉ mark) : ∃ rest, text = front ++ mark ++ rest := by
  rcases List.append_eq_append_iff.mp whole with ⟨gap, longer, rest⟩ | ⟨rest, parts, _⟩
  · cases last : gap.getLast? with
    | none =>
        obtain rfl := List.getLast?_eq_none_iff.mp last
        exact ⟨[], by simpa using longer.symm⟩
    | some c =>
        have inEnding : c ∈ ending := by
          rw [rest]
          exact List.mem_append_left _ (List.mem_of_getLast? last)
        have lastOfMark : mark.getLast? = some c := by
          have ends := congrArg List.getLast? longer
          rwa [List.getLast?_append_of_ne_nil _ proper, List.getLast?_append, last,
            Option.some_or] at ends
        exact absurd (List.mem_of_getLast? lastOfMark) (apart c inEnding)
  · exact ⟨rest, parts⟩

/-- A mark without the character between two texts stands in one of them. -/
theorem infix_of_append_cons {mark left right : List Char} {c : Char}
    (within : mark <:+: left ++ c :: right) (apart : c ∉ mark) :
    mark <:+: left ∨ mark <:+: right := by
  obtain ⟨front, back, whole⟩ := within
  rcases List.append_eq_append_iff.mp whole with ⟨gap, parts, _⟩ | ⟨gap, parts, rest⟩
  · exact .inl ⟨front, gap, parts.symm⟩
  · cases gap with
    | nil => exact .inl ⟨front, [], by simpa using parts⟩
    | cons d gap =>
        obtain ⟨rfl, rfl⟩ := List.cons.inj rest
        rcases List.append_eq_append_iff.mp parts with ⟨inner, _, last⟩ | ⟨inner, _, last⟩
        · exact absurd (by simp [last]) apart
        · cases inner with
          | nil =>
              rw [List.nil_append] at last
              exact absurd (by simp [← last]) apart
          | cons e inner =>
              obtain ⟨_, rfl⟩ := List.cons.inj last
              exact .inr ⟨inner, back, rfl⟩

/-- An ending that shares no character with the mark leaves the leftmost occurrence where it is. -/
theorem Leftmost.append {mark text before rest ending : List Char}
    (leftmost : Leftmost mark text before rest) (proper : mark ≠ [])
    (apart : ∀ c ∈ ending, c ∉ mark) : Leftmost mark (text ++ ending) before (rest ++ ending) := by
  refine ⟨by rw [leftmost.parts, List.append_assoc], fun front back whole => ?_⟩
  obtain ⟨inner, parts⟩ := within_of_append whole proper apart
  exact leftmost.first front inner parts

/-! ## Characters at the ends -/

/-- Leading items are removed up to the first one that is not of their kind. -/
theorem dropWhile_eq_iff {α : Type} {kind : α → Bool} {text rest : List α} :
    text.dropWhile kind = rest ↔
      (∃ front, (∀ c ∈ front, kind c = true) ∧ text = front ++ rest) ∧
        ∀ c ∈ rest.head?, kind c = false := by
  constructor
  · rintro rfl
    refine ⟨⟨text.takeWhile kind, ?_, List.takeWhile_append_dropWhile.symm⟩, ?_⟩
    · intro c member
      exact List.mem_takeWhile_imp member
    · intro c first
      have := List.head?_dropWhile_not kind text
      rw [first] at this
      simpa using this
  · rintro ⟨⟨front, kinds, rfl⟩, stops⟩
    rw [List.dropWhile_append_of_pos kinds]
    cases rest with
    | nil => rfl
    | cons c rest => rw [List.dropWhile_cons_of_neg (by simp [stops c rfl])]

/-- Trailing blanks are removed down to the last character that is none. -/
theorem trimEnd_eq_iff {text kept : List Char} :
    trimEnd text = kept ↔
      (∃ blanks, (∀ c ∈ blanks, isBlank c = true) ∧ text = kept ++ blanks) ∧
        ∀ c ∈ kept.getLast?, isBlank c = false := by
  rw [trimEnd, List.reverse_eq_iff, dropWhile_eq_iff, List.head?_reverse]
  refine and_congr_left fun _ => ?_
  constructor
  · rintro ⟨front, blank, parts⟩
    refine ⟨front.reverse, by simpa using blank, ?_⟩
    simpa using congrArg List.reverse parts
  · rintro ⟨blanks, blank, rfl⟩
    exact ⟨blanks.reverse, by simpa using blank, by simp⟩

theorem trimEnd_append {blanks : List Char} (blank : ∀ c ∈ blanks, isBlank c = true)
    (text : List Char) : trimEnd (text ++ blanks) = trimEnd text := by
  rw [trimEnd, List.reverse_append, List.dropWhile_append_of_pos (by simpa using blank), trimEnd]

theorem trimEnd_trimEnd (text : List Char) : trimEnd (trimEnd text) = trimEnd text := by
  obtain ⟨_, ends⟩ := trimEnd_eq_iff.mp (rfl : trimEnd text = _)
  exact trimEnd_eq_iff.mpr ⟨⟨[], by simp, (List.append_nil _).symm⟩, ends⟩

/-- Blanks are removed at both ends up to the outermost characters that are none. -/
theorem trim_eq_iff {text kept : List Char} :
    trim text = kept ↔
      (∃ front back, (∀ c ∈ front, isBlank c = true) ∧ (∀ c ∈ back, isBlank c = true) ∧
        text = front ++ kept ++ back) ∧
      (∀ c ∈ kept.head?, isBlank c = false) ∧ ∀ c ∈ kept.getLast?, isBlank c = false := by
  constructor
  · intro trimmed
    obtain ⟨⟨back, blankBack, rest⟩, ends⟩ := trimEnd_eq_iff.mp trimmed
    obtain ⟨⟨front, blankFront, whole⟩, starts⟩ := dropWhile_eq_iff.mp rest
    refine ⟨⟨front, back, blankFront, blankBack, by simp [whole]⟩, fun c first => ?_, ends⟩
    exact starts c (by rw [List.head?_append, first]; rfl)
  · rintro ⟨⟨front, back, blankFront, blankBack, rfl⟩, starts, ends⟩
    rw [trim, trimStart, List.append_assoc, List.dropWhile_append_of_pos blankFront]
    cases kept with
    | nil =>
        have gone : back.dropWhile isBlank = [] := List.dropWhile_eq_nil_iff.mpr blankBack
        rw [List.nil_append, gone]
        rfl
    | cons c kept =>
        rw [List.cons_append, List.dropWhile_cons_of_neg (by simp [starts c rfl])]
        exact trimEnd_eq_iff.mpr ⟨⟨back, blankBack, rfl⟩, ends⟩

/-- A text has no blanks at its ends if both parts of it have none and something else stands between
them. -/
theorem trim_append_cons {left right : List Char} {c : Char} (trimmedLeft : trim left = left)
    (trimmedRight : trim right = right) (solid : isBlank c = false) :
    trim (left ++ c :: right) = left ++ c :: right := by
  obtain ⟨_, starts, _⟩ := trim_eq_iff.mp trimmedLeft
  obtain ⟨_, _, ends⟩ := trim_eq_iff.mp trimmedRight
  refine trim_eq_iff.mpr ⟨⟨[], [], by simp, by simp, by simp⟩, fun d first => ?_, fun d last => ?_⟩
  · cases left with
    | nil => exact Option.some.inj first ▸ solid
    | cons e left => exact starts d first
  · cases right with
    | nil =>
        obtain rfl : c = d := by simpa using last
        exact solid
    | cons e right => exact ends d (by simpa using last)

end Splice.Text
