import Splice.Failure
import Splice.Line
import Splice.Search.Located
import Splice.Template.Placeholder

/-!
# Source files

A file as a list of classified lines, which are rendered in one pass.
-/

namespace Splice

/-- A line of a file with its number, counted from one. -/
structure SourceLine extends Line where
  /-- The number of the line. -/
  number : Nat
deriving DecidableEq, Repr

/-- A located file and its lines. -/
structure Source where
  /-- Where the file is. -/
  file : Located
  /-- The lines in order. -/
  lines : List SourceLine
deriving DecidableEq, Repr

namespace SourceLine

/-- The line with its placeholders replaced. -/
def render (constants : Constants) (file : Path) (line : SourceLine) : Except Failure String :=
  match Template.render constants line.text with
  | .ok text => .ok text
  | .error expression => .error (.undefinedConstant expression file line.number)

end SourceLine

namespace Source

/-- The source of a file with the given texts as lines. -/
def ofTexts (file : Located) (texts : List String) : Source :=
  ⟨file, texts.zipIdx.map fun (text, index) => ⟨Line.classify text, index + 1⟩⟩

/-- Reads a located file. -/
def load (files : Files) (file : Located) : Except Failure Source :=
  match files.readLines file.path with
  | .ok texts => .ok (ofTexts file texts)
  | .error cause => .error (.readSource file.path cause)

/-- The lines that carry a directive, each with it. -/
def directives (source : Source) : List (SourceLine × Directive) :=
  source.lines.filterMap fun line => line.directive.map fun directive => (line, directive)

/-! ## Rendering -/

/-- What rendering has at hand between two lines of a file. -/
structure Pass where
  /-- The texts of the lines that have reached the output. -/
  rendered : Array String
  /-- The lines of the documentation block that is open. -/
  block : Option (List SourceLine)

namespace Pass

/-- Renders lines behind those that have been rendered. -/
def push (constants : Constants) (file : Path) (rendered : Array String)
    (lines : List SourceLine) : Except Failure (Array String) :=
  lines.foldlM (fun rendered line => rendered.push <$> line.render constants file) rendered

/-- Goes on by a line.  Directive lines never reach the output.  Where comments are stripped, a
documentation block is held back until it is closed: if that is done by a documentation closer, the
block is dropped, and if not it is rendered.  Outside blocks line comments are dropped. -/
def step (constants : Constants) (stripComments : Bool) (file : Path) (pass : Pass)
    (line : SourceLine) : Except Failure Pass :=
  if line.directive.isSome then .ok pass
  else if !stripComments then do
    .ok { pass with rendered := ← push constants file pass.rendered [line] }
  else
    match if pass.block.isNone && line.beginsDoc then some [] else pass.block with
    | some block =>
      let block := block ++ [line]
      if !line.endsBlock then .ok { pass with block := some block }
      else if !line.endsDoc then do
        .ok ⟨← push constants file pass.rendered block, none⟩
      else .ok { pass with block := none }
    | none =>
      if line.isComment then .ok pass
      else do
        .ok { pass with rendered := ← push constants file pass.rendered [line] }

end Pass

/-- The text of every line that reaches the output.  A block that is never closed does. -/
def render (constants : Constants) (stripComments : Bool) (source : Source) :
    Except Failure (List String) := do
  let pass ← source.lines.foldlM (Pass.step constants stripComments source.file.path) ⟨#[], none⟩
  let rendered ← Pass.push constants source.file.path pass.rendered (pass.block.getD [])
  .ok rendered.toList

end Source

end Splice
