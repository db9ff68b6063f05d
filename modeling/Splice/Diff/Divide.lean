import Splice.Diff.Basic

/-!
# Shortest scripts

A script with as few changed lines as possible, found by divide and conquer: shared lines at both
ends are kept, and between them the lists are split at a point that a shortest script passes.  That
point is where two searches meet, one from the start and one from the end, each of which records how
far it gets on every diagonal with a given number of changes.
-/

namespace Splice.Diff

/-- How far a search gets on each diagonal.  The diagonal `k` holds the points with `x - y = k`. -/
structure Frontier where
  /-- The greatest diagonal that is recorded. -/
  width : Nat
  /-- The `x` reached on the diagonals from `-width` to `width`. -/
  reached : Array Nat

namespace Frontier

/-- The frontier before the search. -/
def start (width : Nat) : Frontier := ⟨width, Array.replicate (2 * width + 1) 0⟩

/-- The `x` reached on a diagonal. -/
def get (frontier : Frontier) (diagonal : Int) : Nat :=
  frontier.reached.getD (diagonal + frontier.width).toNat 0

/-- Records the `x` reached on a diagonal. -/
def set (frontier : Frontier) (diagonal : Int) (x : Nat) : Frontier :=
  { frontier with reached := frontier.reached.setIfInBounds (diagonal + frontier.width).toNat x }

/-- The `x` at which the search enters a diagonal with `cost` changes. -/
def entrance (frontier : Frontier) (cost : Nat) (diagonal : Int) : Nat :=
  if diagonal = -cost ∨
      (diagonal ≠ cost ∧ frontier.get (diagonal - 1) < frontier.get (diagonal + 1)) then
    frontier.get (diagonal + 1)
  else frontier.get (diagonal - 1) + 1

end Frontier

/-- The diagonals that `cost` changes can lead to, greatest first. -/
def diagonals (cost : Nat) : List Int :=
  (List.range (cost + 1)).map fun (index : Nat) => (cost : Int) - 2 * index

/-- How many lines two lists share from given positions on. -/
def sharedFrom (old new : List String) (x y : Nat) : Nat := sharedStart (old.drop x) (new.drop y)

/-- The two searches. -/
structure Search where
  /-- From the start. -/
  forward : Frontier
  /-- From the end. -/
  backward : Frontier

/-- The search from the start enters a diagonal.  The point where it meets the other search, if it
does, is the result instead. -/
def stepForward (old new : List String) (cost : Nat) (search : Search) (diagonal : Int) :
    Except (Nat × Nat) Search :=
  let delta : Int := old.length - new.length
  let x := search.forward.entrance cost diagonal
  let y := ((x : Int) - diagonal).toNat
  let reached := x + sharedFrom old new x y
  let opposite := delta - diagonal
  if delta % 2 ≠ 0 ∧ opposite.natAbs < cost ∧ old.length ≤ reached + search.backward.get opposite then
    .error (x, y)
  else .ok { search with forward := search.forward.set diagonal reached }

/-- The search from the end enters a diagonal, on the reversed lists. -/
def stepBackward (oldReversed newReversed : List String) (cost : Nat) (search : Search)
    (diagonal : Int) : Except (Nat × Nat) Search :=
  let oldSize := oldReversed.length
  let newSize := newReversed.length
  let delta : Int := oldSize - newSize
  let x := search.backward.entrance cost diagonal
  let y := ((x : Int) - diagonal).toNat
  let shared := sharedFrom oldReversed newReversed x y
  let opposite := delta - diagonal
  if delta % 2 = 0 ∧ opposite.natAbs ≤ cost ∧
      oldSize ≤ x + shared + search.forward.get opposite then
    .error (oldSize - (x + shared), newSize - (y + shared))
  else .ok { search with backward := search.backward.set diagonal (x + shared) }

/-- The greatest number of changes that one search has to consider. -/
def costBound (old new : List String) : Nat := (old.length + new.length + 1) / 2 + 1

/-- Both searches with one number of changes. -/
def searchRound (old new oldReversed newReversed : List String) (search : Search) (cost : Nat) :
    Except (Nat × Nat) Search := do
  let search ← (diagonals cost).foldlM (stepForward old new cost) search
  (diagonals cost).foldlM (stepBackward oldReversed newReversed cost) search

/-- A point on a shortest script. -/
def middle? (old new : List String) : Option (Nat × Nat) :=
  let bound := costBound old new
  let start := Frontier.start (bound + 1)
  match (List.range bound).foldlM (searchRound old new old.reverse new.reverse) ⟨start, start⟩ with
  | .error point => some point
  | .ok _ => none

/-- A shortest script.  The first argument bounds how often the lists are split. -/
def divide : Nat → List String → List String → Script
  | fuel, old, new =>
    let front := sharedStart old new
    let oldRest := old.drop front
    let newRest := new.drop front
    let back := sharedEnd oldRest newRest
    let oldCore := oldRest.take (oldRest.length - back)
    let newCore := newRest.take (newRest.length - back)
    let replaced := Script.ofLines .delete oldCore ++ Script.ofLines .insert newCore
    let core :=
      if oldCore = [] ∨ newCore = [] then replaced
      else
        match fuel, middle? oldCore newCore with
        | fuel + 1, some (x, y) =>
          divide fuel (oldCore.take x) (newCore.take y)
            ++ divide fuel (oldCore.drop x) (newCore.drop y)
        | _, _ => replaced
    Script.ofLines .keep (old.take front) ++ core
      ++ Script.ofLines .keep (oldRest.drop (oldRest.length - back))

end Splice.Diff
