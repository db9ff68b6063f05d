import Splice.Proofs.Source.Pass

/-!
# Documentation blocks

A documentation block begins with a line that opens a documentation comment and ends with the first
line that closes a comment, be it the same one.  Every list of lines falls into lines outside
blocks, blocks, and perhaps a last block that is never closed, and comments are stripped from one
such stretch after the other.
-/

namespace Splice

namespace Source

/-! ## Stretches -/

/-- Lines that open a documentation block and do not close it. -/
structure Unclosed (block : List SourceLine) : Prop where
  /-- The first line opens the block. -/
  begins : ∃ first ∈ block.head?, first.beginsDoc = true
  /-- No line closes it. -/
  inside : ∀ line ∈ block, line.endsBlock = false

/-- A documentation block: the lines before the last one, and the last one. -/
structure DocBlock (body : List SourceLine) (last : SourceLine) : Prop where
  /-- The first line opens the block. -/
  begins : ∃ first ∈ (body ++ [last]).head?, first.beginsDoc = true
  /-- No earlier line closes it. -/
  inside : ∀ line ∈ body, line.endsBlock = false
  /-- The last line closes it. -/
  closes : last.endsBlock = true

/-- Lines that begin with an opening one are a block that is never closed or start with a closed
one. -/
theorem unclosed_or_docBlock {first : SourceLine} (rest : List SourceLine)
    (begins : first.beginsDoc = true) :
    Unclosed (first :: rest) ∨
      ∃ body last back, DocBlock body last ∧ first :: rest = body ++ last :: back := by
  cases closing : (first :: rest).find? (·.endsBlock) with
  | none =>
      refine .inl ⟨⟨first, rfl, begins⟩, fun line member => ?_⟩
      simpa using List.find?_eq_none.mp closing line member
  | some last =>
      obtain ⟨closes, body, back, parts, before⟩ := List.find?_eq_some_iff_append.mp closing
      refine .inr ⟨body, last, back, ⟨⟨first, ?_, begins⟩, by simpa using before, closes⟩, parts⟩
      have front : (first :: rest).head? = (body ++ [last]).head? := by
        rw [parts]
        cases body <;> rfl
      exact front ▸ rfl

/-- What holds of the empty list, is kept by a line outside blocks and by a block in front, and
holds of a block that is never closed, holds of all lines. -/
@[elab_as_elim]
theorem stretch_induction {motive : List SourceLine → Prop} (nil : motive [])
    (line : ∀ {line rest}, line.beginsDoc = false → motive rest → motive (line :: rest))
    (block : ∀ {body last rest}, DocBlock body last → motive rest → motive (body ++ last :: rest))
    (unclosed : ∀ {rest}, Unclosed rest → motive rest) (lines : List SourceLine) :
    motive lines := by
  induction size : lines.length using Nat.strongRecOn generalizing lines with
  | ind size ih =>
      subst size
      cases lines with
      | nil => exact nil
      | cons first rest =>
          cases begins : first.beginsDoc with
          | false => exact line begins (ih rest.length (by simp) rest rfl)
          | true =>
              rcases unclosed_or_docBlock rest begins with opened | ⟨body, last, back, closed, parts⟩
              · exact unclosed opened
              · rw [parts] at ih ⊢
                refine block closed (ih back.length ?_ back rfl)
                simp only [List.length_append, List.length_cons]
                omega

/-! ## Stripping -/

theorem strip_line {line : SourceLine} (outside : line.beginsDoc = false)
    (rest : List SourceLine) :
    strip none (line :: rest) = (if line.isComment then [] else [line]) ++ strip none rest := by
  rw [strip]
  simp only [outside, Option.isNone_none, Bool.not_false, Bool.and_self, if_true]
  split <;> rfl

/-- The lines of a block are set aside until it is closed. -/
theorem strip_body {block body : List SourceLine} (inside : ∀ line ∈ body, line.endsBlock = false)
    (rest : List SourceLine) :
    strip (some block) (body ++ rest) = strip (some (block ++ body)) rest := by
  induction body generalizing block with
  | nil => simp
  | cons line body ih =>
      obtain ⟨open_line, open_body⟩ := List.forall_mem_cons.mp inside
      rw [List.cons_append, strip]
      simp only [Option.isNone_some, Bool.false_and, Bool.false_eq_true, if_false, open_line,
        Bool.not_false, if_true, Option.getD_some]
      rw [ih open_body]
      simp

/-- A line that opens a block is treated as if the block had been open before it. -/
theorem strip_first {first : SourceLine} (begins : first.beginsDoc = true)
    (rest : List SourceLine) : strip none (first :: rest) = strip (some []) (first :: rest) := by
  rw [strip, strip]
  simp [begins]

theorem strip_last {block : List SourceLine} {last : SourceLine} (closes : last.endsBlock = true)
    (rest : List SourceLine) :
    strip (some block) (last :: rest) =
      (if last.endsDoc then [] else block ++ [last]) ++ strip none rest := by
  rw [strip]
  simp only [Option.isNone_some, Bool.false_and, Bool.false_eq_true, if_false, closes,
    Bool.not_true, Option.getD_some]
  split <;> rfl

/-- A block is dropped as a whole if its last line closes a documentation comment, else it is kept
as a whole. -/
theorem strip_docBlock {body : List SourceLine} {last : SourceLine} (block : DocBlock body last)
    (rest : List SourceLine) :
    strip none (body ++ last :: rest) =
      (if last.endsDoc then [] else body ++ [last]) ++ strip none rest := by
  obtain ⟨first, front, begins⟩ := block.begins
  have opened : strip none (body ++ last :: rest) = strip (some []) (body ++ last :: rest) := by
    cases body with
    | nil =>
        obtain rfl : last = first := by simpa using front
        exact strip_first begins rest
    | cons line body =>
        obtain rfl : line = first := by simpa using front
        exact strip_first begins (body ++ last :: rest)
  rw [opened, strip_body block.inside, strip_last block.closes, List.nil_append]

/-- A block that is never closed is kept. -/
theorem strip_unclosed {block : List SourceLine} (unclosed : Unclosed block) :
    strip none block = block := by
  obtain ⟨first, front, begins⟩ := unclosed.begins
  cases block with
  | nil => simp at front
  | cons line rest =>
      obtain rfl : line = first := by simpa using front
      rw [strip_first begins, ← List.append_nil (line :: rest), strip_body unclosed.inside]
      simp [strip]

/-- Stripping leaves lines out and changes nothing else. -/
theorem strip_sublist (lines : List SourceLine) : (strip none lines).Sublist lines := by
  induction lines using stretch_induction with
  | nil => exact List.Sublist.refl _
  | @line line rest outside ih =>
      rw [strip_line outside]
      split
      · exact ih.cons line
      · exact ih.cons_cons line
  | @block body last rest block ih =>
      rw [strip_docBlock block, List.append_cons body last rest]
      split
      · exact ih.trans (List.sublist_append_right _ _)
      · exact (List.Sublist.refl _).append ih
  | unclosed unclosed => simp [strip_unclosed unclosed]

/-! ## Lines at whose end no block is open -/

/-- Each line that opens a documentation block is followed by one that closes it, unless it closes
it itself. -/
def Closed (lines : List SourceLine) : Prop :=
  ∀ front line rest, lines = front ++ line :: rest → line.beginsDoc = true →
    ∃ other ∈ line :: rest, other.endsBlock = true

theorem Closed.of_append {front rest : List SourceLine} (closed : Closed (front ++ rest)) :
    Closed rest := by
  intro before line after parts
  exact closed (front ++ before) line after (by rw [parts, List.append_assoc])

theorem Unclosed.not_closed {block : List SourceLine} (unclosed : Unclosed block) :
    ¬ Closed block := by
  intro closed
  obtain ⟨first, front, begins⟩ := unclosed.begins
  obtain ⟨rest, rfl⟩ := List.head?_eq_some_iff.mp front
  obtain ⟨other, member, closes⟩ := closed [] first rest rfl begins
  simp [unclosed.inside other member] at closes

/-- What comes after closed lines is stripped on its own. -/
theorem strip_append {front : List SourceLine} (closed : Closed front) (rest : List SourceLine) :
    strip none (front ++ rest) = strip none front ++ strip none rest := by
  induction front using stretch_induction with
  | nil => simp [strip]
  | @line line tail outside ih =>
      have later : Closed tail := (show Closed ([line] ++ tail) from closed).of_append
      rw [List.cons_append, strip_line outside, strip_line outside, ih later, List.append_assoc]
  | @block body last tail block ih =>
      have later : Closed tail := by
        rw [List.append_cons] at closed
        exact closed.of_append
      rw [List.append_assoc, List.cons_append, strip_docBlock block, strip_docBlock block, ih later,
        List.append_assoc]
  | unclosed unclosed => exact absurd closed unclosed.not_closed

end Source

end Splice
