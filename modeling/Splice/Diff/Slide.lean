import Splice.Diff.Basic

/-!
# Sliding

An inserted block can move across kept lines that repeat it, and across deleted blocks.  Blocks move
up as far as they can and then down as far as they can, and join blocks of their kind on the way.
-/

namespace Splice.Diff

/-- A block in a script: the blocks before it, nearest first, and those after it. -/
structure Focus where
  /-- The blocks before, nearest first. -/
  before : List Block
  /-- The block. -/
  block : Block
  /-- The blocks after. -/
  after : List Block

/-- Kept lines put in front of blocks. -/
def keepInFront (lines : List String) : List Block → List Block
  | ⟨.keep, others⟩ :: blocks => ⟨.keep, lines ++ others⟩ :: blocks
  | blocks => ⟨.keep, lines⟩ :: blocks

/-- Kept lines put behind blocks, of which the nearest comes first. -/
def keepBehind (lines : List String) : List Block → List Block
  | ⟨.keep, others⟩ :: blocks => ⟨.keep, others ++ lines⟩ :: blocks
  | blocks => ⟨.keep, lines⟩ :: blocks

/-- Puts kept lines, if there are any, back in front. -/
def restore (lines : List String) (blocks : List Block) : List Block :=
  if lines = [] then blocks else ⟨.keep, lines⟩ :: blocks

theorem weight_restore_le (lines : List String) (blocks : List Block) :
    Script.weight (restore lines blocks) ≤ lines.length + 1 + Script.weight blocks := by
  unfold restore
  split <;> simp [Script.weight]

/-- Moves a block up. -/
def slideUp (before : List Block) (block : Block) (after : List Block) : Focus :=
  match before with
  | [] => ⟨before, block, after⟩
  | near :: others =>
    match block.action, near.action with
    | .insert, .keep =>
      let size := sharedEnd near.lines block.lines
      if 0 < size then
        let moved := near.lines.drop (near.lines.length - size)
        slideUp (restore (near.lines.take (near.lines.length - size)) others)
          ⟨.insert, moved ++ block.lines.take (block.lines.length - size)⟩ (keepInFront moved after)
      else ⟨before, block, after⟩
    | .insert, .delete | .delete, .insert => slideUp others block (near :: after)
    | .insert, .insert | .delete, .delete =>
      slideUp others ⟨block.action, near.lines ++ block.lines⟩ after
    | _, _ => ⟨before, block, after⟩
termination_by Script.weight before
decreasing_by
  · have bound := sharedEnd_le_left near.lines block.lines
    have smaller := weight_restore_le
      (near.lines.take (near.lines.length - sharedEnd near.lines block.lines)) others
    simp only [List.length_take] at smaller
    simp only [Script.weight] at smaller ⊢
    omega
  all_goals simp [Script.weight]

/-- Moves a block down. -/
def slideDown (before : List Block) (block : Block) (after : List Block) : Focus :=
  match after with
  | [] => ⟨before, block, after⟩
  | near :: others =>
    match block.action, near.action with
    | .insert, .keep =>
      let size := sharedStart near.lines block.lines
      if 0 < size then
        let moved := near.lines.take size
        slideDown (keepBehind moved before) ⟨.insert, block.lines.drop size ++ moved⟩
          (restore (near.lines.drop size) others)
      else ⟨before, block, after⟩
    | .insert, .delete | .delete, .insert => slideDown (near :: before) block others
    | .insert, .insert | .delete, .delete =>
      slideDown before ⟨block.action, block.lines ++ near.lines⟩ others
    | _, _ => ⟨before, block, after⟩
termination_by Script.weight after
decreasing_by
  · have bound := sharedStart_le_left near.lines block.lines
    have smaller := weight_restore_le
      (near.lines.drop (sharedStart near.lines block.lines)) others
    simp only [List.length_drop] at smaller
    simp only [Script.weight] at smaller ⊢
    omega
  all_goals simp [Script.weight]

/-- Slides every block of one kind in turn.  The first argument bounds the number of blocks that are
looked at, which can be more than there are because a block that joins another one can end up higher
than it was. -/
def slideAll (action : Action) : Nat → List Block → List Block → Script
  | fuel + 1, before, block :: after =>
    if block.action = action then
      let up := slideUp before block after
      let down := slideDown up.before up.block up.after
      slideAll action fuel (down.block :: down.before) down.after
    else slideAll action fuel (block :: before) after
  | _, before, after => before.reverse ++ after

/-- Slides the deleted blocks of a script and then the inserted ones. -/
def settle (script : Script) : Script :=
  let fuel := (script.weight + 1) * (script.length + 1)
  slideAll .insert fuel [] (slideAll .delete fuel [] script)

end Splice.Diff
