/-!
# Edit scripts

A script turns one list of lines into another.  It consists of blocks of lines that are kept,
deleted or inserted, and its two sides are the lists before and after.
-/

namespace Splice.Diff

/-- What happens to a line. -/
inductive Action where
  | keep
  | delete
  | insert
deriving DecidableEq, Repr

/-- Lines with one fate. -/
structure Block where
  /-- What happens to the lines. -/
  action : Action
  /-- The lines. -/
  lines : List String
deriving DecidableEq, Repr

/-- A list of blocks, in order. -/
abbrev Script := List Block

namespace Script

/-- The script of one block, or of none if there are no lines. -/
def ofLines (action : Action) (lines : List String) : Script :=
  if lines = [] then [] else [⟨action, lines⟩]

/-- How many lines and blocks there are. -/
def weight : Script → Nat
  | [] => 0
  | block :: script => block.lines.length + 1 + weight script

end Script

/-- How many lines two lists share at their starts. -/
def sharedStart : List String → List String → Nat
  | a :: as, b :: bs => if a = b then sharedStart as bs + 1 else 0
  | _, _ => 0

/-- How many lines two lists share at their ends. -/
def sharedEnd (left right : List String) : Nat := sharedStart left.reverse right.reverse

theorem sharedStart_le_left (left right : List String) : sharedStart left right ≤ left.length := by
  fun_induction sharedStart left right with
  | case1 a as bs ih => simpa using ih
  | case2 => simp
  | case3 => simp

theorem sharedEnd_le_left (left right : List String) : sharedEnd left right ≤ left.length := by
  simpa [sharedEnd] using sharedStart_le_left left.reverse right.reverse

end Splice.Diff
