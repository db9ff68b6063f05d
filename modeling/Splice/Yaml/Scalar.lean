import Splice.Yaml.Cursor

/-!
# YAML scalars

The three ways to write a text: plainly, between quotes, and as an indented block.  Line breaks
inside the first two are folded: one break becomes a space, more breaks lose the first one.
-/

namespace Splice.Yaml

/-! ## Folding -/

/-- The spaces and breaks met since the last visible character. -/
structure Gap where
  /-- Whether a line has ended. -/
  broken : Bool
  /-- The spaces of the line, as long as it has not ended. -/
  spaces : List Char
  /-- The first line break. -/
  first : List Char
  /-- The further line breaks. -/
  others : List Char

namespace Gap

/-- No gap. -/
def none : Gap := ⟨false, [], [], []⟩

/-- The gap after an escaped line break, which stands for nothing. -/
def escaped : Gap := ⟨true, [], [], []⟩

/-- The text that a gap becomes once a visible character follows. -/
def fold (gap : Gap) : List Char :=
  if gap.broken then
    if gap.first.head? = some '\n' then
      if gap.others = [] then [' '] else gap.others
    else gap.first ++ gap.others
  else gap.spaces

end Gap

/-- Reads spaces and breaks.  In a plain scalar of a block, a tab may not stand in for indentation,
which is what `margin` is for. -/
def readGap (margin : Nat) : Nat → Gap → Cursor → Option (Gap × Cursor)
  | 0, gap, cursor => some (gap, cursor)
  | fuel + 1, gap, cursor =>
    match cursor.rest with
    | c :: _ =>
      if isSpace c then
        if gap.broken then
          if c = '\t' ∧ cursor.column < margin then none
          else readGap margin fuel gap (cursor.skip 1)
        else readGap margin fuel { gap with spaces := gap.spaces ++ [c] } (cursor.skip 1)
      else if isBreak c then
        let (text, cursor) := cursor.takeBreak
        if gap.broken then readGap margin fuel { gap with others := gap.others ++ text } cursor
        else readGap margin fuel ⟨true, [], text, gap.others⟩ cursor
      else some (gap, cursor)
    | [] => some (gap, cursor)

/-! ## Plain scalars -/

/-- The visible characters of a plain scalar from here on.  A colon before a space ends it; inside a
flow collection so do the flow indicators, and a colon right before one is refused. -/
def plainRun (flow : Bool) : List Char → Option (List Char)
  | [] => some []
  | c :: rest =>
    let next := rest.head?
    if isSpace c || isBreak c then some []
    else if flow && c = ':' && next.any (",?[]\x7b\x7d".toList.contains ·) then none
    else if c = ':' && next.all fun c => isSpace c || isBreak c then some []
    else if flow && ",[]\x7b\x7d".toList.contains c then some []
    else (plainRun flow rest).map (c :: ·)

/-- Reads a plain scalar whose lines have to stand to the right of `margin` outside flow
collections.  The flag tells whether the scalar was ended by a new line. -/
def readPlain (flow : Bool) (margin : Nat) :
    Nat → List Char → Gap → Cursor → Option (List Char × Bool × Cursor)
  | 0, text, gap, cursor => some (text, gap.broken, cursor)
  | fuel + 1, text, gap, cursor =>
    if cursor.atMarker || cursor.looksAt 0 '#' then some (text, gap.broken, cursor)
    else do
      let visible ← plainRun flow cursor.rest
      let (text, gap) := if visible = [] then (text, gap) else (text ++ gap.fold ++ visible, Gap.none)
      let cursor := cursor.skip visible.length
      if cursor.sees 0 fun c => isSpace c || isBreak c then
        let (gap, cursor) ← readGap margin cursor.rest.length gap cursor
        if !flow && cursor.column < margin then some (text, gap.broken, cursor)
        else readPlain flow margin fuel text gap cursor
      else some (text, gap.broken, cursor)

/-! ## Quoted scalars -/

/-- The value of a hexadecimal digit. -/
def hexValue? (c : Char) : Option Nat :=
  if '0' ≤ c ∧ c ≤ '9' then some (c.toNat - '0'.toNat)
  else if 'a' ≤ c ∧ c ≤ 'f' then some (c.toNat - 'a'.toNat + 10)
  else if 'A' ≤ c ∧ c ≤ 'F' then some (c.toNat - 'A'.toNat + 10)
  else none

/-- The number that hexadecimal digits stand for. -/
def hexNumber? (digits : List Char) : Option Nat :=
  digits.foldlM (fun value c => (hexValue? c).map (16 * value + ·)) 0

/-- The character of a code written in exactly `count` hexadecimal digits. -/
def codedChar? (count : Nat) (digits : List Char) : Option Char := do
  let code ← if digits.length = count then hexNumber? digits else none
  if code.isValidChar then some (Char.ofNat code) else none

/-- The character that a one-letter escape stands for. -/
def escape? : Char → Option Char
  | '0' => some '\x00'
  | 'a' => some '\x07'
  | 'b' => some '\x08'
  | 't' | '\t' => some '\t'
  | 'n' => some '\n'
  | 'v' => some '\x0b'
  | 'f' => some '\x0c'
  | 'r' => some '\r'
  | 'e' => some '\x1b'
  | ' ' => some ' '
  | '"' => some '"'
  | '/' => some '/'
  | '\\' => some '\\'
  | 'N' => some '\u0085'
  | '_' => some '\u00a0'
  | 'L' => some '\u2028'
  | 'P' => some '\u2029'
  | _ => none

/-- How many hexadecimal digits follow a coded escape. -/
def codeLength? : Char → Option Nat
  | 'x' => some 2
  | 'u' => some 4
  | 'U' => some 8
  | _ => none

/-- How a run of visible characters between quotes ends. -/
inductive RunEnd where
  /-- Before the closing quote, a space, a break or the end. -/
  | stopped
  /-- At a backslash before a line break. -/
  | escapedBreak
deriving DecidableEq

/-- The visible characters between single quotes from here on, and how many were read.  Two quotes
stand for one. -/
def singleRun : List Char → List Char × Nat
  | '\'' :: '\'' :: rest =>
    let (text, count) := singleRun rest
    ('\'' :: text, count + 2)
  | c :: rest =>
    if c = '\'' ∨ isSpace c ∨ isBreak c then ([], 0)
    else
      let (text, count) := singleRun rest
      (c :: text, count + 1)
  | [] => ([], 0)

/-- The visible characters between double quotes from here on, how many were read, and how the run
ends. -/
def doubleRun : Nat → List Char → Option (List Char × Nat × RunEnd)
  | 0, _ => some ([], 0, .stopped)
  | _ + 1, [] => some ([], 0, .stopped)
  | fuel + 1, '\\' :: c :: rest =>
    if isBreak c then some ([], 1, .escapedBreak)
    else
      match codeLength? c with
      | some count => do
        let decoded ← codedChar? count (rest.take count)
        let (text, read, stop) ← doubleRun fuel (rest.drop count)
        some (decoded :: text, read + count + 2, stop)
      | none => do
        let decoded ← escape? c
        let (text, read, stop) ← doubleRun fuel rest
        some (decoded :: text, read + 2, stop)
  | fuel + 1, c :: rest =>
    if c = '\\' then none
    else if c = '"' ∨ isSpace c ∨ isBreak c then some ([], 0, .stopped)
    else do
      let (text, read, stop) ← doubleRun fuel rest
      some (c :: text, read + 1, stop)

/-- Reads the inside of a quoted scalar and its closing quote. -/
def readQuoted (quote : Char) : Nat → List Char → Cursor → Option (List Char × Cursor)
  | 0, _, _ => none
  | fuel + 1, text, cursor =>
    if cursor.atMarker || cursor.atEnd 0 then none
    else do
      let (visible, count, stop) ←
        if quote = '\'' then
          let (visible, count) := singleRun cursor.rest
          some (visible, count, RunEnd.stopped)
        else doubleRun cursor.rest.length cursor.rest
      let text := text ++ visible
      let cursor := cursor.skip count
      if stop = .stopped ∧ cursor.looksAt 0 quote then some (text, cursor.skip 1)
      else
        let (gap, cursor) := match stop with
          | .stopped => (Gap.none, cursor)
          | .escapedBreak => (Gap.escaped, cursor.skipBreak)
        let (gap, cursor) ← readGap 0 cursor.rest.length gap cursor
        readQuoted quote fuel (text ++ gap.fold) cursor

/-! ## Block scalars -/

/-- What becomes of the line breaks at the end of a block scalar. -/
inductive Chomping where
  | clip
  | strip
  | keep
deriving DecidableEq

/-- The header of a block scalar after its indicator: the chomping and the indentation, if given. -/
def readHeader (cursor : Cursor) : Option (Chomping × Option Nat × Cursor) :=
  let chomping? := fun (cursor : Cursor) =>
    if cursor.looksAt 0 '+' then some (Chomping.keep, cursor.skip 1)
    else if cursor.looksAt 0 '-' then some (Chomping.strip, cursor.skip 1)
    else none
  let increment? := fun (cursor : Cursor) =>
    match cursor.at? 0 with
    | some c => if '0' ≤ c ∧ c ≤ '9' then some (c.toNat - '0'.toNat, cursor.skip 1) else none
    | none => none
  let header :=
    match chomping? cursor with
    | some (chomping, cursor) =>
      match increment? cursor with
      | some (increment, cursor) => (chomping, some increment, cursor)
      | none => (chomping, none, cursor)
    | none =>
      match increment? cursor with
      | some (increment, cursor) =>
        match chomping? cursor with
        | some (chomping, cursor) => (chomping, some increment, cursor)
        | none => (.clip, some increment, cursor)
      | none => (.clip, none, cursor)
  let (chomping, increment, cursor) := header
  let cursor := (cursor.skipWhile isSpace).skipComment
  if increment = some 0 || !cursor.lineEnds 0 then none
  else some (chomping, increment, cursor.skipBreak)

/-- Reads indentation and line breaks before the next line of a block scalar.  Without a known
indentation all spaces count as such; the widest one seen is returned with the breaks. -/
def readIndent (indent : Option Nat) :
    Nat → Nat → List Char → Cursor → Option (Nat × List Char × Cursor)
  | 0, widest, breaks, cursor => some (widest, breaks, cursor)
  | fuel + 1, widest, breaks, cursor =>
    let spaces := (cursor.run (· = ' ')).length
    let cursor := match indent with
      | none => cursor.skip spaces
      | some indent => cursor.skip (min spaces (indent - cursor.column))
    let widest := max widest cursor.column
    if indent.all (cursor.column < ·) && cursor.looksAt 0 '\t' then none
    else if cursor.sees 0 isBreak then
      let (text, cursor) := cursor.takeBreak
      readIndent indent fuel widest (breaks ++ text) cursor
    else some (widest, breaks, cursor)

/-- Reads the lines of a block scalar.  `first` is the break after the line before, `others` are the
breaks after that, and `spaced` tells whether that line began with a space. -/
def readBlockLines (literal : Bool) (indent : Nat) :
    Nat → List Char → (first others : List Char) → (spaced : Bool) → Cursor →
      Option (List Char × List Char × List Char × Cursor)
  | 0, text, first, others, _, cursor => some (text, first, others, cursor)
  | fuel + 1, text, first, others, spaced, cursor =>
    if cursor.column ≠ indent || cursor.atEnd 0 then some (text, first, others, cursor)
    else do
      let indented := cursor.sees 0 isSpace
      let joint :=
        if !literal && first.head? = some '\n' && !spaced && !indented then
          if others = [] then [' '] else []
        else first
      let line := cursor.run (!isBreak ·)
      let (first, cursor) := (cursor.skip line.length).takeBreak
      let (_, breaks, cursor) ← readIndent (some indent) (cursor.rest.length + 1) 0 [] cursor
      readBlockLines literal indent fuel (text ++ joint ++ others ++ line) first breaks indented cursor

/-- Reads a block scalar after its indicator.  `parent` is the indentation of the surrounding
collection, negative at the top. -/
def readBlock (literal : Bool) (parent : Int) (cursor : Cursor) : Option (List Char × Cursor) := do
  let (chomping, increment, cursor) ← readHeader cursor
  let indent? := increment.map fun increment => (if 0 ≤ parent then parent.toNat else 0) + increment
  let (widest, breaks, cursor) ← readIndent indent? (cursor.rest.length + 1) 0 [] cursor
  let indent := indent?.getD (max (max widest (parent + 1).toNat) 1)
  let (text, first, others, cursor) ←
    readBlockLines literal indent (cursor.rest.length + 1) [] [] breaks false cursor
  let tail := match chomping with
    | .strip => []
    | .clip => first
    | .keep => first ++ others
  some (text ++ tail, cursor)

end Splice.Yaml
