/-!
# YAML tokens

The words of a YAML stream.  Indentation shows as tokens that start and end block collections.
-/

namespace Splice.Yaml

/-- Whether a scalar is written plainly; only plain scalars are read as anything but text. -/
inductive Style where
  | plain
  | quoted
deriving DecidableEq, Repr

/-- A word of a YAML stream. -/
inductive Token where
  | version (major minor : Nat)
  | tagHandle (handle stem : List Char)
  | documentStart
  | documentEnd
  | blockSequenceStart
  | blockMappingStart
  | blockEnd
  | flowSequenceStart
  | flowSequenceEnd
  | flowMappingStart
  | flowMappingEnd
  | blockEntry
  | flowEntry
  | key
  | value
  | reference (name : List Char)
  | anchor (name : List Char)
  | tag (handle suffix : List Char)
  | scalar (text : List Char) (style : Style)
deriving DecidableEq, Repr

end Splice.Yaml
