import Splice.Yaml.Scalar
import Splice.Yaml.Token

/-!
# Scanning YAML

The tokens of a text.  A key that is written without an indicator is recognized only at the colon
after it, so its token is put in front of what has been read since.
-/

namespace Splice.Yaml

/-- A place where a key without an indicator may have started. -/
structure KeyStart where
  /-- Whether only a key may stand here. -/
  required : Bool
  /-- How many tokens come before it. -/
  position : Nat
  /-- The number of characters before it. -/
  index : Nat
  /-- The line it stands on. -/
  line : Nat
  /-- The column it stands at. -/
  column : Nat

/-- The state between two tokens. -/
structure Scan where
  /-- Where the next token is looked for. -/
  cursor : Cursor
  /-- The tokens so far. -/
  tokens : Array Token
  /-- The indentation of the innermost block collection, or `-1`. -/
  indent : Int
  /-- The indentations around it. -/
  indents : List Int
  /-- Whether a key may start here. -/
  keyAllowed : Bool
  /-- The possible key of each open flow collection, innermost first, and of the block around. -/
  keys : List (Option KeyStart)

namespace Scan

/-- Whether a flow collection is open. -/
def inFlow (scan : Scan) : Bool := 1 < scan.keys.length

/-- Adds a token. -/
def push (scan : Scan) (token : Token) : Scan := { scan with tokens := scan.tokens.push token }

/-- Ends the block collections that reach further than a column. -/
def unroll (scan : Scan) (column : Int) : Scan :=
  if scan.inFlow then scan
  else
    let closed := (scan.indent :: scan.indents).takeWhile (column < ·)
    let left := (scan.indent :: scan.indents).dropWhile (column < ·)
    { scan with
      tokens := scan.tokens ++ (closed.map fun _ => Token.blockEnd).toArray
      indent := left.headD (-1)
      indents := left.tail }

/-- Starts a block collection at a column that is further to the right, with its token put at a
position. -/
def roll (scan : Scan) (column position : Nat) (token : Token) : Scan :=
  if scan.inFlow || (column : Int) ≤ scan.indent then scan
  else
    { scan with
      tokens := scan.tokens.insertIdxIfInBounds position token
      indent := column
      indents := scan.indent :: scan.indents }

/-- Forgets the possible key of the innermost collection.  A required key cannot be forgotten. -/
def dropKey (scan : Scan) : Option Scan :=
  match scan.keys with
  | some start :: others =>
    if start.required then none else some { scan with keys := none :: others }
  | _ => some scan

/-- Marks this place as a possible key. -/
def markKey (scan : Scan) : Option Scan :=
  if !scan.keyAllowed then some scan
  else do
    let scan ← scan.dropKey
    let cursor := scan.cursor
    let start : KeyStart :=
      { required := !scan.inFlow && scan.indent = cursor.column
        position := scan.tokens.size
        index := cursor.index
        line := cursor.line
        column := cursor.column }
    some { scan with keys := some start :: scan.keys.tail }

/-- Forgets possible keys that can no longer be one: a key stands on one line and has at most 1024
characters. -/
def dropStaleKeys (scan : Scan) : Option Scan := do
  let keys ← scan.keys.mapM fun key =>
    match key with
    | none => some none
    | some start =>
      if start.line < scan.cursor.line ∨ start.index + 1024 < scan.cursor.index then
        if start.required then none else some none
      else some key
  some { scan with keys }

/-- Moves over spaces, comments and line breaks to the next token.  A tab counts as a space only
where no key may start. -/
def skipToToken : Nat → Scan → Scan
  | 0, scan => scan
  | fuel + 1, scan =>
    let cursor := scan.cursor
    let cursor := if cursor.column = 0 ∧ cursor.looksAt 0 '\ufeff' then cursor.skip 1 else cursor
    let tabs := scan.inFlow || !scan.keyAllowed
    let cursor := (cursor.skipWhile fun c => c = ' ' || (tabs && c = '\t')).skipComment
    if cursor.sees 0 isBreak then
      skipToToken fuel
        { scan with cursor := cursor.skipBreak, keyAllowed := !scan.inFlow || scan.keyAllowed }
    else { scan with cursor }

/-! ## Tags and directives -/

/-- The characters of a tag.  A verbatim tag and a tag stem may hold flow indicators. -/
def isTagChar (verbatim : Bool) (c : Char) : Bool :=
  isWord c || ";/?:@&=+$.%!~*'()".toList.contains c || (verbatim && ",[]".toList.contains c)

/-- Decodes the bytes written as `%` and two digits in a tag. -/
def decodeTag : Nat → List Char → Option (List Char)
  | 0, _ => some []
  | _ + 1, [] => some []
  | fuel + 1, '%' :: text => do
    let byte ← codedByte? text
    let count :=
      if byte < 0x80 then 1 else if byte < 0xC0 then 0 else if byte < 0xE0 then 2
      else if byte < 0xF0 then 3 else if byte < 0xF8 then 4 else 0
    if count = 0 then none
    else
      let written := text.take (3 * count - 1)
      let bytes ← (List.range count).mapM fun place =>
        if place = 0 ∨ written[3 * place - 1]? = some '%' then codedByte? (written.drop (3 * place))
        else none
      let decoded ← String.fromUTF8? (bytes.map Nat.toUInt8).toByteArray
      let others ← decodeTag fuel (text.drop (3 * count - 1))
      some (decoded.toList ++ others)
  | fuel + 1, c :: text => (decodeTag fuel text).map (c :: ·)
where
  /-- The byte of the first two hexadecimal digits. -/
  codedByte? (text : List Char) : Option Nat :=
    if text.length < 2 then none else hexNumber? (text.take 2)

/-- Reads the characters of a tag. -/
def readTagText (verbatim : Bool) (cursor : Cursor) : Option (List Char × Cursor) := do
  let written := cursor.run (isTagChar verbatim)
  let text ← decodeTag (written.length + 1) written
  some (text, cursor.skip written.length)

/-- Reads a handle: an exclamation mark, word characters and perhaps another mark. -/
def readHandle (cursor : Cursor) : List Char × Cursor :=
  let word := (cursor.skip 1).run isWord
  let cursor := cursor.skip (1 + word.length)
  if cursor.looksAt 0 '!' then ('!' :: word ++ ['!'], cursor.skip 1) else ('!' :: word, cursor)

/-- Reads a tag that starts here. -/
def readTag (flow : Bool) (cursor : Cursor) : Option (Token × Cursor) := do
  let (token, cursor) ←
    if cursor.looksAt 1 '<' then do
      let (text, cursor) ← readTagText true (cursor.skip 2)
      if text = [] ∨ !cursor.looksAt 0 '>' then none
      else some (Token.tag [] text, cursor.skip 1)
    else do
      let (handle, after) := readHandle cursor
      if 1 < handle.length ∧ handle.getLast? = some '!' then do
        let (text, cursor) ← readTagText false after
        if text = [] then none else some (Token.tag handle text, cursor)
      else do
        let (text, cursor) ← readTagText false after
        match handle.tail ++ text with
        | [] => some (Token.tag [] ['!'], cursor)
        | suffix => some (Token.tag ['!'] suffix, cursor)
  if cursor.wordEnds 0 || (flow && cursor.looksAt 0 ',') then some (token, cursor) else none

/-- Reads a number of at most nine digits. -/
def readNumber (cursor : Cursor) : Option (Nat × Cursor) :=
  let digits := cursor.run fun c => '0' ≤ c && c ≤ '9'
  if digits = [] ∨ 9 < digits.length then none
  else
    some (digits.foldl (fun value c => 10 * value + (c.toNat - '0'.toNat)) 0,
      cursor.skip digits.length)

/-- Reads a directive and the rest of its line. -/
def readDirective (cursor : Cursor) : Option (Token × Cursor) := do
  let name := (cursor.skip 1).run isWord
  let cursor := cursor.skip (1 + name.length)
  if name = [] ∨ !cursor.wordEnds 0 then none
  else
    let (token, cursor) ←
      if name = "YAML".toList then do
        let (major, cursor) ← readNumber (cursor.skipWhile isSpace)
        if !cursor.looksAt 0 '.' then none
        else
          let (minor, cursor) ← readNumber (cursor.skip 1)
          some (Token.version major minor, cursor)
      else if name = "TAG".toList then do
        let cursor := cursor.skipWhile isSpace
        if !cursor.looksAt 0 '!' then none
        else
          let (handle, cursor) := readHandle cursor
          let complete := handle = ['!'] || handle.getLast? = some '!'
          if !complete || !cursor.sees 0 isSpace then none
          else
            let (stem, cursor) ← readTagText true (cursor.skipWhile isSpace)
            if stem = [] ∨ !cursor.wordEnds 0 then none
            else some (Token.tagHandle handle stem, cursor)
      else none
    let cursor := (cursor.skipWhile isSpace).skipComment
    if cursor.lineEnds 0 then some (token, cursor.skipBreak) else none

/-! ## Tokens -/

/-- Adds a token of one or more characters. -/
def mark (scan : Scan) (token : Token) (width : Nat) : Scan :=
  { scan.push token with cursor := scan.cursor.skip width }

/-- Reads a marker or a directive, which end all block collections. -/
def endBlocks (scan : Scan) : Option Scan :=
  (scan.unroll (-1)).dropKey.map fun scan => { scan with keyAllowed := false }

/-- Opens a flow collection. -/
def openFlow (scan : Scan) (token : Token) : Option Scan := do
  let scan ← scan.markKey
  some { scan.mark token 1 with keys := none :: scan.keys, keyAllowed := true }

/-- Closes a flow collection. -/
def closeFlow (scan : Scan) (token : Token) : Option Scan := do
  let scan ← scan.dropKey
  let keys := if scan.inFlow then scan.keys.tail else scan.keys
  some { scan.mark token 1 with keys, keyAllowed := false }

/-- Reads the indicator of a sequence entry. -/
def entry (scan : Scan) : Option Scan := do
  if !scan.inFlow && !scan.keyAllowed then none
  else
    let scan := scan.roll scan.cursor.column scan.tokens.size .blockSequenceStart
    let scan ← scan.dropKey
    some { scan.mark .blockEntry 1 with keyAllowed := true }

/-- Reads the indicator of a key. -/
def keyIndicator (scan : Scan) : Option Scan := do
  if !scan.inFlow && !scan.keyAllowed then none
  else
    let scan := scan.roll scan.cursor.column scan.tokens.size .blockMappingStart
    let scan ← scan.dropKey
    some { scan.mark .key 1 with keyAllowed := !scan.inFlow }

/-- Reads the indicator of a value.  It settles the possible key before it. -/
def valueIndicator (scan : Scan) : Option Scan :=
  match scan.keys with
  | some start :: others =>
    let scan := { scan with tokens := scan.tokens.insertIdxIfInBounds start.position .key }
    let scan := scan.roll start.column start.position .blockMappingStart
    some { scan.mark .value 1 with keys := none :: others, keyAllowed := false }
  | _ =>
    if !scan.inFlow && !scan.keyAllowed then none
    else
      let scan := scan.roll scan.cursor.column scan.tokens.size .blockMappingStart
      some { scan.mark .value 1 with keyAllowed := !scan.inFlow }

/-- Reads an anchor or a reference to one. -/
def name (scan : Scan) (token : List Char → Token) : Option Scan := do
  let scan ← scan.markKey
  let word := (scan.cursor.skip 1).run isWord
  let cursor := scan.cursor.skip (1 + word.length)
  let stops := cursor.wordEnds 0 || cursor.sees 0 ("?:,]\x7d%@`".toList.contains ·)
  if word = [] ∨ !stops then none
  else some { scan.push (token word) with cursor, keyAllowed := false }

/-- Reads a tag. -/
def tag (scan : Scan) : Option Scan := do
  let scan ← scan.markKey
  let (token, cursor) ← readTag scan.inFlow scan.cursor
  some { scan.push token with cursor, keyAllowed := false }

/-- Reads a block scalar. -/
def block (scan : Scan) (literal : Bool) : Option Scan := do
  let scan ← scan.dropKey
  let (text, cursor) ← readBlock literal scan.indent (scan.cursor.skip 1)
  some { scan.push (.scalar text .quoted) with cursor, keyAllowed := true }

/-- Reads a quoted scalar. -/
def quoted (scan : Scan) (quote : Char) : Option Scan := do
  let scan ← scan.markKey
  let cursor := scan.cursor.skip 1
  let (text, cursor) ← readQuoted quote (cursor.rest.length + 1) [] cursor
  some { scan.push (.scalar text .quoted) with cursor, keyAllowed := false }

/-- Reads a plain scalar. -/
def plain (scan : Scan) : Option Scan := do
  let scan ← scan.markKey
  let margin := (scan.indent + 1).toNat
  let (text, broken, cursor) ←
    readPlain scan.inFlow margin (scan.cursor.rest.length + 1) [] .none scan.cursor
  some { scan.push (.scalar text .plain) with cursor, keyAllowed := broken }

/-- The characters that cannot start a plain scalar. -/
def indicators : List Char := "-?:,[]\x7b\x7d#&*!|>'\"%@`".toList

/-- Whether a plain scalar may start here. -/
def startsPlain (scan : Scan) : Bool :=
  let cursor := scan.cursor
  !(cursor.wordEnds 0 || cursor.sees 0 (indicators.contains ·))
    || (cursor.looksAt 0 '-' && !cursor.sees 1 isSpace)
    || (!scan.inFlow && cursor.sees 0 (fun c => c = '?' || c = ':') && !cursor.wordEnds 1)

/-- Reads the token at a character. -/
def token (scan : Scan) (c : Char) : Option Scan := do
  let cursor := scan.cursor
  let flow := scan.inFlow
  if cursor.column = 0 ∧ c = '%' then
    let scan ← scan.endBlocks
    let (token, cursor) ← readDirective cursor
    some { scan.push token with cursor }
  else if cursor.isMarker '-' then
    let scan ← scan.endBlocks
    some (scan.mark .documentStart 3)
  else if cursor.isMarker '.' then
    let scan ← scan.endBlocks
    some (scan.mark .documentEnd 3)
  else if c = '[' then scan.openFlow .flowSequenceStart
  else if c = '\x7b' then scan.openFlow .flowMappingStart
  else if c = ']' then scan.closeFlow .flowSequenceEnd
  else if c = '\x7d' then scan.closeFlow .flowMappingEnd
  else if c = ',' then do
    let scan ← scan.dropKey
    some { scan.mark .flowEntry 1 with keyAllowed := true }
  else if c = '-' ∧ cursor.wordEnds 1 then scan.entry
  else if c = '?' ∧ (flow || cursor.wordEnds 1) then scan.keyIndicator
  else if c = ':' ∧ (flow || cursor.wordEnds 1) then scan.valueIndicator
  else if c = '*' then scan.name .reference
  else if c = '&' then scan.name .anchor
  else if c = '!' then scan.tag
  else if c = '|' ∧ !flow then scan.block true
  else if c = '>' ∧ !flow then scan.block false
  else if c = '\'' ∨ c = '"' then scan.quoted c
  else if scan.startsPlain then scan.plain
  else none

/-- Ends the stream: open blocks end, and a required key is missing. -/
def finish (scan : Scan) : Option (List Token) :=
  scan.endBlocks.map (·.tokens.toList)

/-- Reads tokens to the end.  Each one takes a character at least. -/
def loop : Nat → Scan → Option (List Token)
  | 0, _ => none
  | fuel + 1, scan => do
    let scan := skipToToken (scan.cursor.rest.length + 1) scan
    let scan ← scan.dropStaleKeys
    let scan := scan.unroll scan.cursor.column
    match scan.cursor.rest with
    | [] => scan.finish
    | c :: _ => do
      let scan ← scan.token c
      loop fuel scan

end Scan

/-- The tokens of a text, unless it breaks the rules of the language. -/
def tokens? (text : List Char) : Option (List Token) :=
  if text.all isAllowed then
    Scan.loop (text.length + 1)
      { cursor := Cursor.start text
        tokens := #[]
        indent := -1
        indents := []
        keyAllowed := true
        keys := [none] }
  else none

end Splice.Yaml
