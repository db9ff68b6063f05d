import Splice.Toml.Basic

/-!
# Building tables

The tables of a document while it is read.  How a table came to be decides who may add to it.
-/

namespace Splice.Toml

/-- How a table came to be. -/
inductive Origin where
  /-- By a header of its own. -/
  | header
  /-- On the way to the table of a header. -/
  | implied
  /-- On the way to a dotted key. -/
  | dotted
deriving DecidableEq, Repr

/-- A node of the document under construction. -/
inductive Tree where
  /-- A value, inline tables included, to which nothing can be added. -/
  | value (value : Toml)
  /-- A table that may grow. -/
  | table (origin : Origin) (entries : List (String × Tree))
  /-- The tables of repeated headers, the last one first. -/
  | tables (items : List (List (String × Tree)))
deriving Inhabited

/-- The entries of a table under construction. -/
abbrev Entries := List (String × Tree)

/-- The entry of a name. -/
def pair? (name : String) (entries : Entries) : Option Tree := Table.get? name entries

/-- The entries with the entry of a name set. -/
def setEntry (name : String) (tree : Tree) (entries : Entries) : Entries :=
  Table.insert name tree entries

/-- Changes the table at the end of a header path.  Missing tables on the way are implied; the last
of repeated tables stands for all of them. -/
def alongHeader (change : Entries → Option Entries) : List String → Entries → Option Entries
  | [], entries => change entries
  | name :: path, entries =>
    match (pair? name entries).getD (.table .implied []) with
    | .value _ => none
    | .table origin inner => do
      let inner ← alongHeader change path inner
      some (setEntry name (.table origin inner) entries)
    | .tables [] => none
    | .tables (last :: others) => do
      let last ← alongHeader change path last
      some (setEntry name (.tables (last :: others)) entries)

/-- Opens the table of a header.  A table can be opened once, and not after dotted keys made it. -/
def openTable (name : String) (entries : Entries) : Option Entries :=
  match pair? name entries with
  | none => some (setEntry name (.table .header []) entries)
  | some (.table .implied inner) => some (setEntry name (.table .header inner) entries)
  | some _ => none

/-- Opens another one of repeated tables. -/
def openTables (name : String) (entries : Entries) : Option Entries :=
  match pair? name entries with
  | none => some (setEntry name (.tables [[]]) entries)
  | some (.tables items) => some (setEntry name (.tables ([] :: items)) entries)
  | some _ => none

/-- Sets a dotted key.  Every table on the way is new or was not opened by a header, and the one
that receives the key has to come from dotted keys, unless the key has no dots. -/
def setKey (origin : Origin) (value : Toml) : List String → Entries → Option Entries
  | [], _ => none
  | [name], entries =>
    if (pair? name entries).isSome || origin = .implied then none
    else some (setEntry name (.value value) entries)
  | name :: path, entries =>
    match (pair? name entries).getD (.table .dotted []) with
    | .table .header _ => none
    | .table origin inner => do
      let inner ← setKey origin value path inner
      some (setEntry name (.table origin inner) entries)
    | _ => none

mutual

/-- The finished value of a tree. -/
def Tree.finish : Tree → Toml
  | .value value => value
  | .table _ entries => .table (finishEntries entries)
  | .tables items => .array (finishItems items).reverse

/-- The finished entries of a table. -/
def finishEntries : List (String × Tree) → List (String × Toml)
  | [] => []
  | (name, tree) :: entries => (name, tree.finish) :: finishEntries entries

/-- The finished tables of repeated headers. -/
def finishItems : List (List (String × Tree)) → List Toml
  | [] => []
  | entries :: items => .table (finishEntries entries) :: finishItems items

end

end Splice.Toml
