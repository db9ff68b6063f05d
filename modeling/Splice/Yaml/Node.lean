import Splice.Yaml.Token

/-!
# YAML nodes

The tree that a stream of tokens stands for.  A stream has one document at most.
-/

namespace Splice.Yaml

/-- A node of a document. -/
inductive Node where
  | scalar (tag : Option (List Char)) (text : List Char) (style : Style)
  | sequence (tag : Option (List Char)) (items : List Node)
  | mapping (tag : Option (List Char)) (entries : List (Node × Node))
  /-- Another node, by the number of its anchor. -/
  | reference (anchor : Nat)
deriving Inhabited

/-- An anchored node. -/
structure Anchored where
  /-- The number of the anchor. -/
  anchor : Nat
  /-- How many anchors were set before this one. -/
  order : Nat
  /-- The node. -/
  node : Node

/-- What is known while a document is read. -/
structure Reading where
  /-- The tokens to come. -/
  tokens : List Token
  /-- What the handles of tags stand for. -/
  handles : List (List Char × List Char)
  /-- The number that each anchor name stands for at this point. -/
  names : List (List Char × Nat)
  /-- How many anchors have been set. -/
  anchors : Nat
  /-- The anchored nodes that are complete. -/
  nodes : List Anchored

namespace Reading

/-- The next token. -/
def peek? (reading : Reading) : Option Token := reading.tokens.head?

/-- Moves over a token. -/
def skip (reading : Reading) : Reading := { reading with tokens := reading.tokens.tail }

/-- Whether the next token is one of the given ones. -/
def sees (reading : Reading) (tokens : List Token) : Bool :=
  reading.peek?.any (tokens.contains ·)

/-- Gives a name to the node that starts here.  Its number is how many names are in use. -/
def setAnchor (reading : Reading) (name : List Char) : Nat × Nat × Reading :=
  let number := reading.names.length
  let names := (reading.names.filter (·.1 ≠ name)) ++ [(name, number)]
  (number, reading.anchors, { reading with names, anchors := reading.anchors + 1 })

/-- The tag that a handle and a suffix stand for. -/
def resolveTag (reading : Reading) (handle suffix : List Char) : Option (List Char) :=
  if handle = [] then some suffix else (reading.handles.lookup handle).map (· ++ suffix)

/-- The anchor and the tag before a node, in either order. -/
def properties (reading : Reading) :
    Option (Option (List Char) × Option (List Char) × Reading) :=
  match reading.tokens with
  | .anchor name :: .tag handle suffix :: rest
  | .tag handle suffix :: .anchor name :: rest => do
    let tag ← reading.resolveTag handle suffix
    some (some name, some tag, { reading with tokens := rest })
  | .anchor name :: rest => some (some name, none, { reading with tokens := rest })
  | .tag handle suffix :: rest => do
    let tag ← reading.resolveTag handle suffix
    some (none, some tag, { reading with tokens := rest })
  | _ => some (none, none, reading)

end Reading

/-- A scalar that is not written. -/
def Node.empty : Node := .scalar none [] .plain

/-- What may stand where a node is read. -/
structure Place where
  /-- Block collections may start. -/
  block : Bool
  /-- A sequence may start without further indentation. -/
  indentless : Bool

mutual

/-- Reads a node.  The first argument bounds the number of steps. -/
def readNode : Nat → Place → Reading → Option (Node × Reading)
  | 0, _, _ => none
  | fuel + 1, place, reading =>
    match reading.tokens with
    | .reference name :: rest => do
      let number ← reading.names.lookup name
      some (.reference number, { reading with tokens := rest })
    | _ => do
      let (name, tag, reading) ← reading.properties
      match name with
      | none => readContent fuel place tag false reading
      | some name => do
        let (anchor, order, reading) := reading.setAnchor name
        let (node, reading) ← readContent fuel place tag true reading
        some (node, { reading with nodes := ⟨anchor, order, node⟩ :: reading.nodes })

/-- Reads what follows the properties of a node.  After an anchor or a tag it may be missing. -/
def readContent : Nat → Place → Option (List Char) → Bool → Reading → Option (Node × Reading)
  | 0, _, _, _, _ => none
  | fuel + 1, place, tag, anchored, reading =>
    match reading.peek? with
    | some (.scalar text style) =>
      -- The tag `!` on a scalar says nothing.
      let tag := if tag = some ['!'] then none else tag
      some (.scalar tag text style, reading.skip)
    | some .flowSequenceStart => do
      let (items, reading) ← readFlowItems fuel true reading.skip
      some (.sequence tag items, reading)
    | some .flowMappingStart => do
      let (entries, reading) ← readFlowEntries fuel true reading.skip
      some (.mapping tag entries, reading)
    | other =>
      if place.indentless && other = some .blockEntry then do
        let (items, reading) ← readIndentless fuel reading
        some (.sequence tag items, reading)
      else if place.block && other = some .blockSequenceStart then do
        let (items, reading) ← readBlockItems fuel reading.skip
        some (.sequence tag items, reading)
      else if place.block && other = some .blockMappingStart then do
        let (entries, reading) ← readBlockEntries fuel reading.skip
        some (.mapping tag entries, reading)
      else if anchored || tag.isSome then some (.scalar tag [] .plain, reading)
      else none

/-- Reads a node unless one of the given tokens comes next; then it is empty. -/
def readUnless : Nat → Place → List Token → Reading → Option (Node × Reading)
  | 0, _, _, _ => none
  | fuel + 1, place, stops, reading =>
    if reading.sees stops then some (.empty, reading) else readNode fuel place reading

/-- Reads the entries of a block sequence. -/
def readBlockItems : Nat → Reading → Option (List Node × Reading)
  | 0, _ => none
  | fuel + 1, reading =>
    match reading.peek? with
    | some .blockEntry => do
      let (item, reading) ← readUnless fuel ⟨true, false⟩ [.blockEntry, .blockEnd] reading.skip
      let (items, reading) ← readBlockItems fuel reading
      some (item :: items, reading)
    | some .blockEnd => some ([], reading.skip)
    | _ => none

/-- Reads the entries of a sequence at the indentation of the mapping around it. -/
def readIndentless : Nat → Reading → Option (List Node × Reading)
  | 0, _ => none
  | fuel + 1, reading =>
    match reading.peek? with
    | some .blockEntry => do
      let (item, reading) ←
        readUnless fuel ⟨true, false⟩ [.blockEntry, .key, .value, .blockEnd] reading.skip
      let (items, reading) ← readIndentless fuel reading
      some (item :: items, reading)
    | _ => some ([], reading)

/-- Reads the entries of a block mapping. -/
def readBlockEntries : Nat → Reading → Option (List (Node × Node) × Reading)
  | 0, _ => none
  | fuel + 1, reading =>
    match reading.peek? with
    | some .key => do
      let stops := [.key, .value, .blockEnd]
      let (key, reading) ← readUnless fuel ⟨true, true⟩ stops reading.skip
      let (value, reading) ←
        if reading.sees [.value] then readUnless fuel ⟨true, true⟩ stops reading.skip
        else some (.empty, reading)
      let (entries, reading) ← readBlockEntries fuel reading
      some ((key, value) :: entries, reading)
    | some .blockEnd => some ([], reading.skip)
    | _ => none

/-- Reads the items of a flow sequence.  An item with a key is a mapping of one entry. -/
def readFlowItems : Nat → (first : Bool) → Reading → Option (List Node × Reading)
  | 0, _, _ => none
  | fuel + 1, first, reading =>
    if reading.sees [.flowSequenceEnd] then some ([], reading.skip)
    else if !first && !reading.sees [.flowEntry] then none
    else
      let reading := if first then reading else reading.skip
      if reading.sees [.flowSequenceEnd] then some ([], reading.skip)
      else do
        let (item, reading) ←
          if reading.sees [.key] then readFlowPair fuel reading.skip
          else readNode fuel ⟨false, false⟩ reading
        let (items, reading) ← readFlowItems fuel false reading
        some (item :: items, reading)

/-- Reads a mapping of one entry after its key indicator.  A missing key takes the next token with
it. -/
def readFlowPair : Nat → Reading → Option (Node × Reading)
  | 0, _ => none
  | fuel + 1, reading => do
    let (key, reading) ←
      if reading.sees [.value, .flowEntry, .flowSequenceEnd] then some (.empty, reading.skip)
      else readNode fuel ⟨false, false⟩ reading
    let (value, reading) ←
      if reading.sees [.value] then
        readUnless fuel ⟨false, false⟩ [.flowEntry, .flowSequenceEnd] reading.skip
      else some (.empty, reading)
    some (.mapping none [(key, value)], reading)

/-- Reads the entries of a flow mapping. -/
def readFlowEntries : Nat → (first : Bool) → Reading → Option (List (Node × Node) × Reading)
  | 0, _, _ => none
  | fuel + 1, first, reading =>
    if reading.sees [.flowMappingEnd] then some ([], reading.skip)
    else if !first && !reading.sees [.flowEntry] then none
    else
      let reading := if first then reading else reading.skip
      if reading.sees [.flowMappingEnd] then some ([], reading.skip)
      else do
        let (entry, reading) ←
          if reading.sees [.key] then do
            let stops := [.flowEntry, .flowMappingEnd]
            let (key, reading) ← readUnless fuel ⟨false, false⟩ (.value :: stops) reading.skip
            let (value, reading) ←
              if reading.sees [.value] then readUnless fuel ⟨false, false⟩ stops reading.skip
              else some (.empty, reading)
            some ((key, value), reading)
          else do
            let (key, reading) ← readNode fuel ⟨false, false⟩ reading
            some ((key, Node.empty), reading)
        let (entries, reading) ← readFlowEntries fuel false reading
        some (entry :: entries, reading)

end

/-- A document: its root and its anchored nodes. -/
structure Document where
  /-- The root node. -/
  root : Node
  /-- The anchored nodes. -/
  anchored : List Anchored

/-- What handles stand for unless a directive says otherwise. -/
def standardHandles : List (List Char × List Char) :=
  [(['!'], ['!']), (['!', '!'], "tag:yaml.org,2002:".toList)]

/-- Reads the directives before a document, which may set the version and each handle once. -/
def readDirectives (version : Bool) (handles : List (List Char × List Char)) :
    List Token → Option (List (List Char × List Char) × List Token)
  | .version major minor :: rest =>
    if version || major ≠ 1 || (minor ≠ 1 && minor ≠ 2) then none
    else readDirectives true handles rest
  | .tagHandle handle stem :: rest =>
    if (handles.lookup handle).isSome then none
    else readDirectives version (handles ++ [(handle, stem)]) rest
  | rest => some (handles, rest)

/-- The document of a token stream.  A stream without tokens has none, and more than one document is
refused. -/
def document? (tokens : List Token) : Option (Option Document) := do
  let (handles, rest) ← readDirectives false [] tokens
  let explicit := rest.head? = some .documentStart
  let directed := rest.length < tokens.length
  if tokens = [] then some none
  else if directed && !explicit then none
  else
    let rest := if explicit then rest.tail else rest
    let reading : Reading :=
      { tokens := rest
        handles := handles ++ standardHandles
        names := []
        anchors := 0
        nodes := [] }
    let bare := match rest with
      | [] | .documentStart :: _ | .documentEnd :: _ | .version .. :: _ | .tagHandle .. :: _ => true
      | _ => false
    let (root, reading) ←
      if explicit && bare then some (.empty, reading)
      else readNode (4 * rest.length + 4) ⟨true, false⟩ reading
    if reading.tokens.all (· = .documentEnd) then some (some ⟨root, reading.nodes⟩) else none

end Splice.Yaml
