/-!
# Cutting a text at a mark

Removal of a fixed beginning, and the two sides of the leftmost occurrence of a mark.
-/

namespace Splice.Text

/-- What follows `mark` when the text begins with it. -/
def after? : (mark text : List Char) → Option (List Char)
  | [], text => some text
  | _ :: _, [] => none
  | m :: mark, c :: text => if m = c then after? mark text else none

/-- The text before and the text after the leftmost occurrence of `mark`. -/
def cut? (mark : List Char) : List Char → Option (List Char × List Char)
  | [] => (after? mark []).map ([], ·)
  | c :: tail =>
    match after? mark (c :: tail) with
    | some rest => some ([], rest)
    | none => (cut? mark tail).map fun (before, rest) => (c :: before, rest)

/-- Whether the text begins with `mark`. -/
def beginsWith (mark text : List Char) : Bool := (after? mark text).isSome

/-- Whether `mark` occurs in the text. -/
def contains (mark text : List Char) : Bool := (cut? mark text).isSome

theorem eq_append_of_after? {mark text rest : List Char} (found : after? mark text = some rest) :
    text = mark ++ rest := by
  fun_induction after? mark text with
  | case1 => simpa using found
  | case2 => simp at found
  | case3 _ _ _ inner => simp [inner found]
  | case4 => simp at found

/-- A cut loses nothing. -/
theorem eq_append_of_cut? {mark text before rest : List Char}
    (found : cut? mark text = some (before, rest)) : text = before ++ mark ++ rest := by
  fun_induction cut? mark text generalizing before with
  | case1 =>
    obtain ⟨last, sub, pair⟩ := Option.map_eq_some_iff.1 found
    cases pair
    simpa using eq_append_of_after? sub
  | case2 c tail last sub =>
    cases found
    simpa using eq_append_of_after? sub
  | case3 c tail _ inner =>
    obtain ⟨⟨first, last⟩, sub, pair⟩ := Option.map_eq_some_iff.1 found
    cases pair
    simp [inner sub]

/-- What follows a proper mark is shorter than the text. -/
theorem length_lt_of_cut? {mark text before rest : List Char}
    (found : cut? mark text = some (before, rest)) (proper : mark ≠ []) :
    rest.length < text.length := by
  have whole := congrArg List.length (eq_append_of_cut? found)
  have := List.length_pos_iff.2 proper
  simp at whole
  omega

end Splice.Text
