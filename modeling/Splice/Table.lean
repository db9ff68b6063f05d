/-!
# Tables

Finite maps from names to values, kept as lists.  A mapping is such a list with its names in
increasing order.
-/

namespace Splice

/-- A list of named values. -/
abbrev Table (α : Type) := List (String × α)

namespace Table

variable {α : Type}

/-- The value of a name. -/
def get? (name : String) : Table α → Option α
  | [] => none
  | (key, value) :: others => if key = name then some value else get? name others

/-- The table in which a name has the given value.  Names stay in increasing order. -/
def insert (name : String) (value : α) : Table α → Table α
  | [] => [(name, value)]
  | (key, old) :: others =>
    if key = name then (name, value) :: others
    else if name < key then (name, value) :: (key, old) :: others
    else (key, old) :: insert name value others

/-- The table whose entries come from `upper` where it has the name, and from `lower` elsewhere. -/
def overlay (lower upper : Table α) : Table α :=
  upper.foldl (fun table (name, value) => table.insert name value) lower

/-- The table of a list of entries, in which the last entry of a name counts. -/
def ofList (entries : List (String × α)) : Table α := overlay [] entries

/-- Looking up after an insertion. -/
theorem get?_insert (table : Table α) (name key : String) (value : α) :
    (table.insert name value).get? key = if name = key then some value else table.get? key := by
  induction table with
  | nil => simp [insert, get?]
  | cons entry others inner =>
    obtain ⟨head, old⟩ := entry
    simp only [insert]
    split
    · subst head
      simp only [get?]
      split <;> rfl
    · split
      · simp [get?]
      · simp only [get?, inner]
        split <;> split <;> simp_all

/-! ## Order -/

/-- The names stand in increasing order. -/
def Ordered (table : Table α) : Prop := table.Pairwise fun one other => one.1 < other.1

theorem mem_of_mem_insert {table : Table α} {name : String} {value : α} {entry : String × α}
    (member : entry ∈ table.insert name value) : entry = (name, value) ∨ entry ∈ table := by
  induction table with
  | nil => exact .inl (List.mem_singleton.1 member)
  | cons first others ih =>
      obtain ⟨key, old⟩ := first
      rw [insert] at member
      split at member
      · rcases List.mem_cons.1 member with here | later
        · exact .inl here
        · exact .inr (List.mem_cons_of_mem _ later)
      · split at member
        · exact List.mem_cons.1 member
        · rcases List.mem_cons.1 member with here | later
          · exact .inr (here ▸ List.mem_cons_self)
          · exact (ih later).imp_right (List.mem_cons_of_mem _)

theorem Ordered.insert {table : Table α} (ordered : table.Ordered) (name : String) (value : α) :
    (table.insert name value).Ordered := by
  induction table with
  | nil => exact List.pairwise_singleton _ _
  | cons first others ih =>
      obtain ⟨key, old⟩ := first
      obtain ⟨above, later⟩ := List.pairwise_cons.1 ordered
      rw [Table.insert]
      split
      · rename_i same
        subst same
        exact List.pairwise_cons.2 ⟨above, later⟩
      · rename_i other
        split
        · rename_i less
          refine List.pairwise_cons.2 ⟨List.forall_mem_cons.2 ⟨less, ?_⟩, ordered⟩
          exact fun entry member => String.lt_trans less (above entry member)
        · rename_i notLess
          have greater : key < name :=
            Decidable.by_contra fun reverse =>
              other (String.le_antisymm (String.not_lt.1 notLess) (String.not_lt.1 reverse))
          refine List.pairwise_cons.2 ⟨fun entry member => ?_, ih later⟩
          rcases mem_of_mem_insert member with rfl | old
          · exact greater
          · exact above entry old

theorem Ordered.overlay {lower : Table α} (ordered : lower.Ordered) (upper : Table α) :
    (lower.overlay upper).Ordered := by
  induction upper generalizing lower with
  | nil => exact ordered
  | cons entry upper ih => exact ih (ordered.insert entry.1 entry.2)

theorem ordered_ofList (entries : List (String × α)) : (ofList entries).Ordered :=
  Ordered.overlay List.Pairwise.nil entries

end Table

/-- A table whose names stand in increasing order, so that it is settled by the values of its names.
Inside of other values tables stand as they come. -/
structure Mapping (α : Type) where
  /-- The names with their values. -/
  table : Table α
  /-- The names stand in increasing order. -/
  ordered : table.Ordered

namespace Mapping

variable {α : Type}

/-- The mapping without names. -/
def empty : Mapping α := ⟨[], List.Pairwise.nil⟩

/-- The mapping of a list of entries, in which the last entry of a name counts. -/
def ofList (entries : List (String × α)) : Mapping α :=
  ⟨Table.ofList entries, Table.ordered_ofList entries⟩

/-- The mapping whose values come from `upper` where it has the name, and from `lower` elsewhere. -/
def overlay (lower upper : Mapping α) : Mapping α :=
  ⟨lower.table.overlay upper.table, lower.ordered.overlay upper.table⟩

instance : Coe (Table α) (Mapping α) := ⟨ofList⟩

instance : CoeOut (Mapping α) (Table α) := ⟨table⟩

end Mapping

end Splice
