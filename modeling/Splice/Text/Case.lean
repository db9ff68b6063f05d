import Splice.Text.Case.Ranges

/-!
# Upper and lower case

Case mappings of whole texts.  They look at one character at a time, except that a capital sigma at
the end of a word becomes the final small sigma.
-/

namespace Splice.Text.Case

/-- Whether a code point lies in one of the ranges. -/
def inRanges (ranges : List (Nat × Nat)) (c : Char) : Bool :=
  ranges.any fun (first, last) => first ≤ c.toNat && c.toNat ≤ last

/-- Whether a code point is a member of a run. -/
def Shift.covers (run : Shift) (code : Nat) : Bool :=
  run.first ≤ code && code ≤ run.last && (code - run.first) % run.stride = 0

/-- The other case of a character, from the sequences or the runs that cover it. -/
def convert (sequences : List (Nat × List Nat)) (runs : List Shift) (c : Char) : List Char :=
  match sequences.lookup c.toNat with
  | some codes => codes.map Char.ofNat
  | none =>
    match runs.find? (·.covers c.toNat) with
    | some run => [Char.ofNat (c.toNat + run.shift).toNat]
    | none => [c]

/-- The upper case of a character. -/
def upperChar (c : Char) : List Char := convert upperSequences upperShifts c

/-- The lower case of a character outside any context. -/
def lowerChar (c : Char) : List Char := convert lowerSequences lowerShifts c

/-- Whether a cased character is met after skipping characters that case ignores. -/
def meetsCased (text : List Char) : Bool :=
  match text.dropWhile (inRanges ignorableRanges) with
  | c :: _ => inRanges casedRanges c
  | [] => false

/-- The upper case of a text. -/
def upper (text : List Char) : List Char := text.flatMap upperChar

/-- The lower case of the text after `before`, which stands in reverse order. -/
def lowerFrom : (before text : List Char) → List Char
  | _, [] => []
  | before, c :: rest =>
    let here :=
      if c = 'Σ' then [if meetsCased before && !meetsCased rest then 'ς' else 'σ']
      else lowerChar c
    here ++ lowerFrom (c :: before) rest

/-- The lower case of a text. -/
def lower (text : List Char) : List Char := lowerFrom [] text

end Splice.Text.Case
