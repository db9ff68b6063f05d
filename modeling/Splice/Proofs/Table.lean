import Splice.Table

/-!
# Tables as mappings

What is laid over a mapping takes precedence, name by name, and a mapping is settled by the values
of its names, since these stand in increasing order.
-/

namespace Splice

namespace Table

variable {α : Type}

/-! ## Values of names -/

theorem get?_eq_none_iff {table : Table α} {name : String} :
    table.get? name = none ↔ ∀ entry ∈ table, entry.1 ≠ name := by
  induction table with
  | nil => simp [get?]
  | cons entry others ih =>
      obtain ⟨key, value⟩ := entry
      rw [get?, List.forall_mem_cons, ← ih]
      split
      · rename_i same
        simp [same]
      · rename_i other
        simp [other]

theorem get?_append (front back : Table α) (name : String) :
    get? name (front ++ back) = (get? name front).or (get? name back) := by
  induction front with
  | nil => rfl
  | cons entry front ih =>
      rw [List.cons_append, get?, get?, ih]
      split <;> rfl

/-- What is laid over a table counts where it has the name, with the last value that it gives the
name, and the table elsewhere. -/
theorem get?_overlay (lower upper : Table α) (name : String) :
    (lower.overlay upper).get? name = (get? name upper.reverse).or (lower.get? name) := by
  induction upper generalizing lower with
  | nil => rfl
  | cons entry upper ih =>
      refine (ih (lower.insert entry.1 entry.2)).trans ?_
      rw [get?_insert, List.reverse_cons, get?_append, Option.or_assoc, get?, get?]
      split <;> rfl

/-- The last value of a name counts. -/
theorem get?_ofList (entries : List (String × α)) (name : String) :
    (ofList entries).get? name = get? name entries.reverse := by
  rw [ofList, get?_overlay, get?, Option.or_none]

/-! ## Order -/

/-- A name below the first one has no value. -/
theorem Ordered.get?_of_lt {key name : String} {value : α} {others : Table α}
    (ordered : Ordered ((key, value) :: others)) (less : name < key) :
    get? name ((key, value) :: others) = none := by
  have above := (List.pairwise_cons.mp ordered).1
  refine get?_eq_none_iff.mpr (List.forall_mem_cons.mpr ⟨?_, fun entry member => ?_⟩)
  · rintro rfl
    exact String.lt_irrefl key less
  · rintro rfl
    exact String.lt_asymm less (above entry member)

/-- The first name has no value in what follows it. -/
theorem Ordered.get?_first {key : String} {value : α} {others : Table α}
    (ordered : Ordered ((key, value) :: others)) : get? key others = none := by
  refine get?_eq_none_iff.mpr fun entry member same => ?_
  have above := (List.pairwise_cons.mp ordered).1 entry member
  exact String.lt_irrefl key (same ▸ above)

/-- An ordered table gives no name two values. -/
theorem Ordered.get?_reverse {table : Table α} (ordered : table.Ordered) (name : String) :
    get? name table.reverse = table.get? name := by
  induction table with
  | nil => rfl
  | cons entry others ih =>
      obtain ⟨key, value⟩ := entry
      rw [List.reverse_cons, get?_append, ih (List.pairwise_cons.mp ordered).2, get?, get?, get?]
      split
      · rename_i same
        rw [← same, ordered.get?_first, Option.none_or]
      · rw [Option.or_none]

/-- Ordered tables that give all names the same values are the same. -/
theorem Ordered.ext {one other : Table α} (left : one.Ordered) (right : other.Ordered)
    (same : ∀ name, one.get? name = other.get? name) : one = other := by
  induction one generalizing other with
  | nil =>
      cases other with
      | nil => rfl
      | cons entry others => simpa [get?] using same entry.1
  | cons entry others ih =>
      obtain ⟨key, value⟩ := entry
      cases other with
      | nil => simpa [get?] using same key
      | cons entry rest =>
          obtain ⟨first, found⟩ := entry
          -- Each of the two first names has a value, so neither is below the other.
          have keys : key = first := by
            refine String.le_antisymm (String.not_lt.mp fun less => ?_)
              (String.not_lt.mp fun less => ?_)
            · have missing := left.get?_of_lt less
              rw [same first] at missing
              simp [get?] at missing
            · have missing := right.get?_of_lt less
              rw [← same key] at missing
              simp [get?] at missing
          subst keys
          have values : value = found := by simpa [get?] using same key
          have tails (name : String) : get? name others = get? name rest := by
            by_cases here : key = name
            · rw [← here, left.get?_first, right.get?_first]
            · simpa [get?, here] using same name
          rw [values, ih (List.pairwise_cons.mp left).2 (List.pairwise_cons.mp right).2 tails]

end Table

namespace Mapping

variable {α : Type}

/-- The value of a name. -/
def get? (name : String) (mapping : Mapping α) : Option α := mapping.table.get? name

/-- The upper mapping counts where it has the name, and the lower one elsewhere. -/
theorem get?_overlay (lower upper : Mapping α) (name : String) :
    (lower.overlay upper).get? name = (upper.get? name).or (lower.get? name) := by
  refine (lower.table.get?_overlay upper.table name).trans ?_
  rw [upper.ordered.get?_reverse]
  rfl

/-- Mappings that give all names the same values are the same. -/
theorem ext_get? {one other : Mapping α} (same : ∀ name, one.get? name = other.get? name) :
    one = other := by
  obtain ⟨table, ordered⟩ := one
  obtain ⟨rest, sorted⟩ := other
  obtain rfl : table = rest := ordered.ext sorted same
  rfl

end Mapping

end Splice
