import Splice.Diff.Divide
import Splice.Diff.Slide

/-!
# Line diffs

The changes between two texts, line by line.  Between kept lines the deleted ones come first.
-/

namespace Splice.Diff

/-- One line of a diff. -/
structure Change where
  /-- What happens to the line. -/
  action : Action
  /-- The line, with the characters that end it. -/
  text : String
deriving DecidableEq, Repr

/-- The lines of a text, each with what ends it: a line feed, a carriage return or both.  `line` is
the beginning of the current line, last character first. -/
def splitLines (line : List Char) : List Char → List (List Char)
  | [] => if line = [] then [] else [line.reverse]
  | '\r' :: '\n' :: rest => ('\n' :: '\r' :: line).reverse :: splitLines [] rest
  | c :: rest =>
    if c = '\r' ∨ c = '\n' then (c :: line).reverse :: splitLines [] rest
    else splitLines (c :: line) rest

/-- The lines of a text, each with what ends it. -/
def linesOf (text : String) : List String := (splitLines [] text.toList).map String.ofList

/-- The changes of a block. -/
def Block.changes (block : Block) : List Change := block.lines.map fun line => ⟨block.action, line⟩

/-- The changes of a script.  Deleted and inserted lines wait for the next kept ones, so that all
deleted ones come before the inserted ones. -/
def changesOf (deleted inserted : List Change) : Script → List Change
  | [] => deleted ++ inserted
  | block :: script =>
    match block.action with
    | .keep => deleted ++ inserted ++ block.changes ++ changesOf [] [] script
    | .delete => changesOf (deleted ++ block.changes) inserted script
    | .insert => changesOf deleted (inserted ++ block.changes) script

/-- The changes that lead from one text to another. -/
def between (old new : String) : List Change :=
  let oldLines := linesOf old
  let newLines := linesOf new
  changesOf [] [] (settle (divide (oldLines.length + newLines.length) oldLines newLines))

/-- The line of a change with its line feed, also if it is the last one and has none. -/
def Change.terminated (change : Change) : String :=
  match change.text.toList.getLast? with
  | some c => if c = '\r' ∨ c = '\n' then change.text else change.text ++ "\n"
  | none => "\n"

end Splice.Diff
