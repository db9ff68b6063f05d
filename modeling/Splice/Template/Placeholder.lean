import Splice.Template.Projection
import Splice.Text.Cut
import Splice.Text.Lines

/-!
# Placeholders

A line of source may hold placeholders `<%= NAME.step.step %>`.  Filling a line replaces each one by
the text of the constant it names, carried through its steps.
-/

namespace Splice

/-- The constants in force, by name. -/
abbrev Constants := Table Json

namespace Template

/-- What opens a placeholder. -/
def opening : List Char := "<%=".toList

/-- What closes a placeholder. -/
def closing : List Char := "%>".toList

/-- The leftmost placeholder of a text: the text before it, its expression without outer blanks, and
the text after it. -/
def firstPlaceholder? (text : List Char) : Option (List Char × List Char × List Char) := do
  let (before, rest) ← Text.cut? opening text
  let (expression, rest) ← Text.cut? closing rest
  some (before, Text.trim expression, rest)

theorem length_lt_of_firstPlaceholder? {text before expression rest : List Char}
    (found : firstPlaceholder? text = some (before, expression, rest)) :
    rest.length < text.length := by
  simp only [firstPlaceholder?, Option.bind_eq_bind] at found
  obtain ⟨⟨first, middle⟩, opened, found⟩ := Option.bind_eq_some_iff.1 found
  obtain ⟨⟨inner, last⟩, closed, found⟩ := Option.bind_eq_some_iff.1 found
  simp only [Option.some.injEq, Prod.mk.injEq] at found
  have outer := Text.length_lt_of_cut? opened (by decide +kernel)
  have shorter := Text.length_lt_of_cut? closed (by decide +kernel)
  rw [← found.2.2]
  exact Nat.lt_trans shorter outer

/-! ## Evaluation -/

/-- The natural that a step in decimal digits stands for.  A plus sign may come first. -/
def position? (step : List Char) : Option Nat :=
  let digits := match step with
    | '+' :: rest => rest
    | other => other
  if digits ≠ [] ∧ digits.all Decimal.isDigit then some (Decimal.natOfDigits digits) else none

/-- The projection that a step names, applied to a value. -/
def project? (value : Json) (step : List Char) : Option Json :=
  (Projection.ofName? (String.ofList step)).bind (·.apply value)

/-- One step from a value: a field of an object, an item of an array, or else a projection. -/
def step? (value : Json) (step : List Char) : Option Json :=
  match value with
  | .object fields =>
    match Table.get? (String.ofList step) fields with
    | some field => some field
    | none => project? value step
  | .array items =>
    match position? step with
    | some position => items[position]?
    | none => project? value step
  | other => project? other step

/-- The value at the end of a chain of steps. -/
def follow? : Json → List (List Char) → Option Json
  | value, [] => some value
  | value, step :: steps => (step? value step).bind (follow? · steps)

/-- The text that replaces a placeholder with the given expression. -/
def evaluate? (constants : Constants) (expression : List Char) : Option String :=
  match (expression.splitOn '.').map Text.trim with
  | [] => none
  | name :: steps => do
    let value ← Table.get? (String.ofList name) constants
    let value ← follow? value steps
    value.display?

/-- Fills a text from its left end on, behind what has been put together so far.  The first
expression without a value is the error.  Replaced text is not looked at again. -/
def fill (constants : Constants) (result rest : List Char) : Except String (List Char) :=
  match _found : firstPlaceholder? rest with
  | none => .ok (result ++ rest)
  | some (before, expression, rest) =>
    match evaluate? constants expression with
    | some value => fill constants (result ++ before ++ value.toList) rest
    | none => .error (String.ofList expression)
termination_by rest.length
decreasing_by exact length_lt_of_firstPlaceholder? (by assumption)

/-- The line with its placeholders replaced, without trailing blanks, and ended by one line feed. -/
def render (constants : Constants) (line : String) : Except String String := do
  let text ← fill constants [] (Text.chomp line.toList)
  .ok (String.ofList (Text.trimEnd text ++ ['\n']))

end Template

end Splice
