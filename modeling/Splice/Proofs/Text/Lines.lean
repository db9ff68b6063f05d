import Mathlib.Data.List.Basic
import Splice.Text.Lines

/-!
# Texts made of lines

No line of a text holds a line feed, and lines that are each ended by a line feed are the lines of
the text they make together.
-/

namespace Splice.Text

theorem not_mem_of_mem_lines {text line : List Char} (member : line ∈ lines text) :
    '\n' ∉ line := by
  fun_induction lines text generalizing line with
  | case1 => simp at member
  | case2 rest ih | case3 rest ih =>
      rcases List.mem_cons.mp member with rfl | later
      · exact List.not_mem_nil
      · exact ih later
  | case4 c rest unbroken _ last ih =>
      obtain rfl := List.mem_singleton.mp member
      simpa using Ne.symm unbroken
  | case5 c rest unbroken _ first others after ih =>
      rw [after] at ih
      rcases List.mem_cons.mp member with rfl | later
      · exact List.not_mem_cons_of_ne_of_not_mem (Ne.symm unbroken) (ih List.mem_cons_self)
      · exact ih (List.mem_cons_of_mem _ later)

/-- No line of a text holds a line feed. -/
theorem not_mem_of_mem_linesOf {text line : String} (member : line ∈ linesOf text) :
    '\n' ∉ line.toList := by
  obtain ⟨inner, own, rfl⟩ := List.mem_map.mp member
  rw [String.toList_ofList]
  exact not_mem_of_mem_lines own

/-- A character that does not end a line joins the line after it. -/
theorem lines_cons {c : Char} {rest line : List Char} {others : List (List Char)}
    (unbroken : c ≠ '\n') (apart : c = '\r' → rest.head? ≠ some '\n')
    (after : lines rest = line :: others) : lines (c :: rest) = (c :: line) :: others := by
  rw [lines, after]
  · exact unbroken
  · rintro _ rfl rfl
    exact apart rfl rfl

/-- A line ends at its line feed, unless a carriage return comes right before it. -/
theorem lines_append {line : List Char} (unbroken : '\n' ∉ line)
    (bare : line.getLast? ≠ some '\r') (rest : List Char) :
    lines (line ++ '\n' :: rest) = line :: lines rest := by
  induction line with
  | nil => rfl
  | cons c tail ih =>
      obtain ⟨other, inside⟩ := not_or.mp (List.mem_cons.not.mp unbroken)
      cases tail with
      | nil =>
          refine lines_cons (Ne.symm other) (fun same => absurd ?_ bare) rfl
          rw [same]
          rfl
      | cons next tail =>
          have later : (next :: tail).getLast? ≠ some '\r' := by simpa using bare
          refine lines_cons (Ne.symm other) (fun _ => ?_) (ih inside later)
          simpa using fun same : next = '\n' => inside (by simp [same])

/-- Lines with their line feeds, put together, are read as these lines. -/
theorem linesOf_join (texts : List (List Char)) (unbroken : ∀ text ∈ texts, '\n' ∉ text)
    (bare : ∀ text ∈ texts, text.getLast? ≠ some '\r') :
    linesOf (String.join (texts.map fun text => String.ofList (text ++ ['\n']))) =
      texts.map String.ofList := by
  rw [linesOf, String.toList_join]
  refine congrArg (List.map String.ofList) ?_
  induction texts with
  | nil => rfl
  | cons text texts ih =>
      obtain ⟨here, others⟩ := List.forall_mem_cons.mp unbroken
      obtain ⟨last, lasts⟩ := List.forall_mem_cons.mp bare
      rw [List.map_cons, List.flatMap_cons, String.toList_ofList, List.append_assoc,
        List.singleton_append, lines_append here last, ih others lasts]

end Splice.Text
