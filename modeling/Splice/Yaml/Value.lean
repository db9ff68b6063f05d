import Splice.Json.Basic
import Splice.Number.Decimal
import Splice.Yaml.Node
import Splice.Yaml.Scan

/-!
# The value of a YAML document

Plain scalars may be `null`, booleans or numbers; all other scalars are text.  Mappings have the
texts of their keys as names.
-/

namespace Splice.Yaml

/-! ## Scalars -/

/-- Digits after leading zeros are no number. -/
def hasLeadingZero (text : List Char) : Bool :=
  let digits := (Decimal.scanSign text).2
  1 < digits.length && digits.head? = some '0' && digits.all Decimal.isDigit

/-- The value of a digit in a base of at most sixteen. -/
def digitIn? (base : Nat) (c : Char) : Option Nat := (hexValue? c).filter (· < base)

/-- The natural that digits in a base stand for.  There is at least one digit. -/
def naturalIn? (base : Nat) (digits : List Char) : Option Nat :=
  if digits = [] then none
  else digits.foldlM (fun value c => (digitIn? base c).map (base * value + ·)) 0

/-- The size of an integer literal without its sign, with the base that its opening selects. -/
def magnitude? (text : List Char) : Option Nat :=
  match text with
  | '0' :: 'x' :: digits => naturalIn? 16 digits
  | '0' :: 'o' :: digits => naturalIn? 8 digits
  | '0' :: 'b' :: digits => naturalIn? 2 digits
  | digits => if hasLeadingZero digits then none else naturalIn? 10 digits

/-- The integer of a literal, with one optional sign. -/
def integer? (text : List Char) : Option Int :=
  match text with
  | '-' :: size => (magnitude? size).map fun size => -(size : Int)
  | '+' :: size => (magnitude? size).map fun size => (size : Int)
  | size => (magnitude? size).map fun size => (size : Int)

/-- What an integer literal means. -/
inductive Whole where
  /-- A whole number that a value can hold. -/
  | fits (value : Int)
  /-- A 128-bit integer that no value can hold. -/
  | tooLarge
  /-- No integer, or one so large that it is read otherwise. -/
  | other

/-- The meaning of a text as an integer literal. -/
def whole (text : List Char) : Whole :=
  match integer? text with
  | some value =>
    if fitsWord 64 value then .fits value
    else if fitsWord 128 value then .tooLarge
    else .other
  | none => .other

/-- The double of a literal.  Infinities and `nan` have words of their own. -/
def double? (text : List Char) : Option Binary64 :=
  let unsigned := match text with
    | '+' :: rest => rest
    | rest => rest
  let signed := text.head? = some '+' && unsigned.head?.any fun c => c = '+' || c = '-'
  if signed then none
  else if [".inf", ".Inf", ".INF"].contains (String.ofList unsigned) then some (.infinity false)
  else if ["-.inf", "-.Inf", "-.INF"].contains (String.ofList text) then some (.infinity true)
  else if [".nan", ".NaN", ".NAN"].contains (String.ofList text) then some .nan
  else ((Decimal.parse? unsigned).map Decimal.toBinary64).filter Binary64.isFinite

/-- A double as a value.  One that is not finite is `null`. -/
def ofDouble (value : Binary64) : Json := if value.isFinite then .double value else .null

/-- The words for `null`. -/
def isNull (text : String) : Bool := ["null", "Null", "NULL", "~"].contains text

/-- The words for the two booleans. -/
def boolean? (text : String) : Option Bool :=
  if ["true", "True", "TRUE"].contains text then some true
  else if ["false", "False", "FALSE"].contains text then some false
  else none

/-- The value of a plain scalar. -/
def plainValue (text : List Char) : Option Json :=
  let word := String.ofList text
  if text = [] ∨ isNull word then some .null
  else
    match boolean? word with
    | some value => some (.bool value)
    | none =>
      match whole text with
      | .fits value => some (.whole value)
      | .tooLarge => none
      | .other =>
        match if hasLeadingZero text then none else double? text with
        | some value => some (ofDouble value)
        | none => some (.text word)

/-- Whether a tag is local, which no value can express. -/
def isLocal (tag : Option (List Char)) : Bool := tag.any fun tag => tag.head? = some '!'

/-- The value of a scalar.  A standard tag forces its kind; any other tag makes it text. -/
def scalarValue (tag : Option (List Char)) (text : List Char) (style : Style) : Option Json :=
  let word := String.ofList text
  match tag.map String.ofList with
  | none => if style = .plain then plainValue text else some (.text word)
  | some "tag:yaml.org,2002:bool" => (boolean? word).map .bool
  | some "tag:yaml.org,2002:int" =>
    match whole text with
    | .fits value => some (.whole value)
    | _ => none
  | some "tag:yaml.org,2002:float" => (double? text).map ofDouble
  | some "tag:yaml.org,2002:null" => if isNull word then some .null else none
  | some _ => if isLocal tag then none else some (.text word)

/-! ## Documents -/

mutual

/-- How many events a node takes: one for a scalar or a reference, two for the ends of a
collection. -/
def Node.events : Node → Nat
  | .scalar .. | .reference _ => 1
  | .sequence _ items => 2 + eventsOfItems items
  | .mapping _ entries => 2 + eventsOfEntries entries

/-- The events of the items of a sequence. -/
def eventsOfItems : List Node → Nat
  | [] => 0
  | item :: items => item.events + eventsOfItems items

/-- The events of the entries of a mapping. -/
def eventsOfEntries : List (Node × Node) → Nat
  | [] => 0
  | (key, value) :: entries => key.events + value.events + eventsOfEntries entries

end

namespace Document

/-- The node of an anchor.  Of several with one number the last one counts. -/
def anchored? (document : Document) (anchor : Nat) : Option Node :=
  let found := document.anchored.filter (·.anchor = anchor)
  let last := found.foldl (fun best next =>
    match best with
    | some (best : Anchored) => if best.order < next.order then some next else some best
    | none => some next) none
  last.map (·.node)

/-- The node itself or the one it refers to, counting the references followed.  They are limited to
a hundred for each event of the document. -/
def settle (document : Document) (node : Node) : StateT Nat Option Node := do
  match node with
  | .reference anchor =>
    modify (· + 1)
    if document.root.events * 100 < (← get) then failure
    else StateT.lift (document.anchored? anchor)
  | other => pure other

/-- The name that a key stands for. -/
def keyName (document : Document) (key : Node) : StateT Nat Option String := do
  match ← document.settle key with
  | .scalar _ text _ => pure (String.ofList text)
  | _ => failure

/-- The value of a node in which collections are nested at most `depth` deep. -/
def value (document : Document) : (depth : Nat) → Node → StateT Nat Option Json
  | 0, node => do
    match ← document.settle node with
    | .scalar tag text style => StateT.lift (scalarValue tag text style)
    | _ => failure
  | depth + 1, node => do
    match ← document.settle node with
    | .scalar tag text style => StateT.lift (scalarValue tag text style)
    | .sequence tag items =>
      if isLocal tag then failure
      else
        let values ← items.mapM (document.value depth)
        pure (.array values)
    | .mapping tag entries =>
      if isLocal tag then failure
      else
        let fields ← entries.mapM fun (key, node) => do
          let name ← document.keyName key
          let value ← document.value depth node
          pure (name, value)
        pure (Json.ofFields fields)
    | .reference _ => failure

end Document

/-- How deep collections may be nested. -/
def depthLimit : Nat := 128

/-- The value of a YAML text, unless it is no single document.  A text without a document is
`null`. -/
def read? (text : String) : Option Json := do
  let tokens ← tokens? text.toList
  match ← document? tokens with
  | none => some .null
  | some document => (document.value depthLimit document.root).run' 0

end Splice.Yaml
