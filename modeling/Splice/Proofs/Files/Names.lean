import Splice.Proofs.Files.Writing
import Splice.Proofs.Path.Absolute

/-!
# Names in directories

In a tree whose names are steps of paths, the names that a directory lists are those under which
something stands in it.
-/

namespace Splice

namespace Path

/-! ## Joining a name -/

/-- The component that the first segment stands for. -/
def headComponent (segment : List Char) : Option Component :=
  if segment = [] then some .root
  else if segment = ['.'] then some .here
  else innerComponent segment

theorem segments_eq {path : Path} {first : List Char} {others : List (List Char)}
    (spelled : path.text.toList ≠ []) (pieces : path.text.toList.splitOn '/' = first :: others) :
    path.segments = (first, headComponent first) ::
      others.map fun segment => (segment, innerComponent segment) := by
  unfold segments headComponent
  rw [pieces]
  split
  · simp_all
  · -- The only piece is empty, and so is the path.
    rename_i only
    obtain ⟨rfl, rfl⟩ := List.cons.inj only
    have joined : ['/'].intercalate (path.text.toList.splitOn '/') = path.text.toList :=
      List.intercalate_splitOn '/'
    rw [pieces] at joined
    exact absurd joined.symm spelled
  · simp_all
  · simp_all
  · simp_all

theorem isAbsolute_name {name : String} (inner : (Component.name name).IsInner) :
    isAbsolute ⟨name⟩ = false := by
  have clean : '/' ∉ name.toList := inner.1
  cases text : name.toList with
  | nil => simp [isAbsolute, text]
  | cons letter letters =>
      rw [text, List.mem_cons, not_or] at clean
      simpa [isAbsolute, text] using Ne.symm clean.1

/-- A path whose text ends in a separator and a name ends in that name. -/
theorem segments_concat {path base : Path} {front : List Char} {name : String}
    (inner : (Component.name name).IsInner) (joined : path.text.toList = front ++ '/' :: name.toList)
    (spelled : base.text.toList = front ++ ['/'] ∨ base.text.toList = front ∧ front ≠ []) :
    ∃ before, path.segments = before ++ [(name.toList, some (.name name))] ∧
      before.filterMap (·.2) = base.components := by
  have single : name.toList.splitOn '/' = [name.toList] := List.splitOn_eq_singleton inner.1
  have stands : innerComponent name.toList = some (.name name) := inner.2
  cases pieces : front.splitOn '/' with
  | nil => exact absurd pieces (List.splitOn_ne_nil '/' front)
  | cons first others =>
      have cut : path.text.toList.splitOn '/' = first :: (others ++ [name.toList]) := by
        rw [joined, List.splitOn_append_cons_self, pieces, single, List.cons_append]
      have whole := segments_eq (by simp [joined]) cut
      refine ⟨(first, headComponent first) ::
        others.map fun segment => (segment, innerComponent segment), ?_, ?_⟩
      · rw [whole, List.map_append, List.map_cons, List.map_nil, stands, List.cons_append]
      · rcases spelled with ends | ⟨same, nonempty⟩
        · have cut : base.text.toList.splitOn '/' = first :: (others ++ [[]]) := by
            rw [ends, List.splitOn_append_cons_self, pieces, List.splitOn_nil, List.cons_append]
          have silent : innerComponent [] = none := rfl
          rw [components, segments_eq (by simp [ends]) cut, List.map_append, ← List.cons_append,
            List.filterMap_append, List.map_cons, List.map_nil, silent]
          simp
        · rw [components, segments_eq (by rwa [same]) (same ▸ pieces)]

/-- A name that is joined to a path is its last segment. -/
theorem segments_join (base : Path) {name : String} (inner : (Component.name name).IsInner) :
    ∃ before, (base.join ⟨name⟩).segments = before ++ [(name.toList, some (.name name))] ∧
      before.filterMap (·.2) = base.components := by
  have stands : innerComponent name.toList = some (.name name) := inner.2
  have single : name.toList.splitOn '/' = [name.toList] := List.splitOn_eq_singleton inner.1
  have relative : ¬isAbsolute ⟨name⟩ = true := by simp [isAbsolute_name inner]
  have nonempty : name.toList ≠ [] := fun empty => by simp [innerComponent, empty] at stands
  have visible : name.toList ≠ ['.'] := fun point => by simp [innerComponent, point] at stands
  rw [join, if_neg relative]
  split
  · rename_i open_
    rcases open_ with separated | empty
    · obtain ⟨front, ends⟩ := List.getLast?_eq_some_iff.mp separated
      exact segments_concat inner (by simp [ends]) (.inl ends)
    · have same : (⟨base.text ++ name⟩ : Path) = ⟨name⟩ := by rw [empty, String.empty_append]
      rw [same, segments_eq nonempty single, headComponent, if_neg nonempty, if_neg visible, stands]
      exact ⟨[], rfl, by rw [components, segments, empty]; rfl⟩
  · rename_i closed
    rw [not_or] at closed
    refine segments_concat inner (by simp) (.inr ⟨rfl, fun empty => closed.2 ?_⟩)
    exact String.toList_eq_nil_iff.mp empty

/-- A name that is joined to a path is its last step. -/
theorem components_join (base : Path) {name : String} (inner : (Component.name name).IsInner) :
    (base.join ⟨name⟩).components = base.components ++ [.name name] := by
  obtain ⟨before, segments, known⟩ := base.segments_join inner
  rw [components, segments, List.filterMap_append, known]
  rfl

/-- The text of a path up to where another one is joined to it. -/
def opened (base : Path) : String :=
  if base.text.toList.getLast? = some '/' ∨ base.text = "" then base.text else base.text ++ "/"

theorem join_eq (base : Path) {extra : Path} (relative : extra.isAbsolute = false) :
    base.join extra = ⟨base.opened ++ extra.text⟩ := by
  rw [join, if_neg (by simp [relative]), opened]
  split
  · rfl
  · rfl

theorem opened_opened (base middle : Path) :
    opened ⟨base.opened ++ middle.text⟩ = base.opened ++ middle.opened := by
  by_cases empty : middle.text = ""
  · have settled : base.opened.toList.getLast? = some '/' ∨ base.opened = "" := by
      unfold opened
      split <;> simp_all
    simp [opened.eq_def middle, empty, opened.eq_def ⟨base.opened⟩, settled]
  · have last : (base.opened ++ middle.text).toList.getLast? = middle.text.toList.getLast? := by
      have nonempty : middle.text.toList ≠ [] := fun none => empty (String.toList_eq_nil_iff.mp none)
      rw [String.toList_append, List.getLast?_append, List.getLast?_eq_some_getLast nonempty,
        Option.some_or]
    have whole : base.opened ++ middle.text ≠ "" := fun none => empty (by simp_all)
    rw [opened, opened.eq_def middle, last]
    simp only [empty, whole, or_false]
    split
    · rfl
    · rw [String.append_assoc]

/-- Joining a relative path in two steps. -/
theorem join_join (base middle : Path) {extra : Path} (relative : extra.isAbsolute = false) :
    base.join (middle.join extra) = (base.join middle).join extra := by
  by_cases absolute : middle.isAbsolute = true
  · have joined : (middle.join extra).isAbsolute = true := isAbsolute_join absolute extra
    rw [join, if_pos joined, join.eq_def base middle, if_pos absolute]
  · have inside : middle.isAbsolute = false := by simpa using absolute
    have joined : (middle.join extra).isAbsolute = false := by
      unfold join
      rw [if_neg (by simp [relative])]
      cases text : middle.text.toList with
      | nil =>
          have empty : middle.text = "" := String.toList_eq_nil_iff.mp text
          rw [if_pos (.inr empty), empty, String.empty_append]
          exact relative
      | cons letter letters =>
          have first : letter ≠ '/' := by simpa [isAbsolute, text] using inside
          split <;> simp [isAbsolute, text, first]
    rw [join_eq base joined, join_eq middle relative, join_eq base inside,
      join_eq _ relative, opened_opened, String.append_assoc]

end Path

namespace FileTree

variable {tree : FileTree} {name : String}

/-! ## Directories -/

theorem mem_children_iff {place : Place} :
    name ∈ tree.children place ↔ (tree.item? (place ++ [name])).isSome = true := by
  have below : place ++ [name] ≠ [] := by simp
  rw [item?, if_neg below, List.lookup_isSome_iff, children, List.mem_filterMap]
  refine exists_congr fun entry => and_congr_right fun _ => ?_
  rw [beq_iff_eq, Option.ite_none_right_eq_some]
  constructor
  · rintro ⟨above, last⟩
    obtain ⟨front, parts⟩ := List.getLast?_eq_some_iff.mp last
    rw [parts, List.dropLast_concat] at above
    rw [parts, above]
  · rintro same
    rw [← same]
    simp

/-- A name that is joined to a path is looked for in the directory at the path. -/
theorem steps_join (base : Path) (inner : (Path.Component.name name).IsInner) :
    steps (base.join ⟨name⟩) = base.components ++ [.name name] := by
  obtain ⟨before, segments, _⟩ := base.segments_join inner
  have visible : name.toList ≠ ['.'] := fun point => by
    have stands := inner.2
    simp [Path.Component.text, Path.innerComponent, point] at stands
  have last : ¬(1 < (base.join ⟨name⟩).segments.length ∧
      (base.join ⟨name⟩).segments.getLast?.any (·.1 = ['.']) = true) := by
    simp [segments, visible]
  rw [steps, base.components_join inner, if_neg last, List.append_nil]

theorem endsOpen_join (base : Path) (inner : (Path.Component.name name).IsInner) :
    endsOpen (base.join ⟨name⟩) = false := by
  obtain ⟨before, segments, _⟩ := base.segments_join inner
  have nonempty : name.toList ≠ [] := fun empty => by
    have stands := inner.2
    simp [Path.Component.text, Path.innerComponent, empty] at stands
  rw [endsOpen, segments]
  simp [nonempty]

/-- A point at the end of the path of a directory makes no difference. -/
theorem locate_directory_iff {path : Path} {place : Place} :
    tree.locate path = .ok place ∧ tree.item? place = some .directory ↔
      tree.walk [] path.components = .ok place ∧ tree.item? place = some .directory := by
  refine and_congr_left fun there => ?_
  rw [locate, steps]
  split
  · rw [walk_append, bind_ok]
    constructor
    · rintro ⟨middle, walked, moved⟩
      rw [walk] at moved
      split at moved
      · cases moved
      · cases moved
      · exact Except.ok.inj moved ▸ walked
    · intro walked
      refine ⟨place, walked, ?_⟩
      rw [walk, there]
      rfl
  · rw [List.append_nil]

theorem locate_join_iff {base : Path} {found : Place}
    (inner : (Path.Component.name name).IsInner) :
    tree.locate (base.join ⟨name⟩) = .ok found ↔
      ∃ place, tree.locate base = .ok place ∧ tree.item? place = some .directory ∧
        place ++ [name] = found := by
  simp only [← and_assoc, locate_directory_iff]
  rw [locate, steps_join base inner, walk_append, bind_ok]
  refine exists_congr fun place => ?_
  rw [and_assoc]
  refine and_congr_right fun _ => ?_
  rw [walk]
  split
  · simp_all
  · simp_all
  · simp_all [walk, move]

theorem entries_ok {path : Path} {names : List String} :
    tree.entries path = .ok names ↔ ∃ place, tree.locate path = .ok place ∧
      tree.item? place = some .directory ∧ sortedNames (tree.children place) = names := by
  rw [entries, bind_ok]
  constructor
  · rintro ⟨item, found, listed⟩
    obtain ⟨place, located, there, _⟩ := find_ok.mp found
    split at listed
    · cases listed
    · rw [located] at listed
      exact ⟨place, located, there, Except.ok.inj listed⟩
  · rintro ⟨place, located, there, listed⟩
    refine ⟨.directory, find_ok.mpr ⟨place, located, there, fun _ => rfl⟩, ?_⟩
    rw [located, ← listed]
    rfl

/-- A directory lists a name if the name is a step of paths and something is there under it. -/
theorem mem_entries_iff (named : tree.Named) (directory : Path) (name : String) :
    (∃ names, tree.entries directory = .ok names ∧ name ∈ names) ↔
      (Path.Component.name name).IsInner ∧ tree.has (directory.join ⟨name⟩) = true := by
  simp only [entries_ok, has_iff, find_ok]
  constructor
  · rintro ⟨names, ⟨place, located, there, rfl⟩, member⟩
    obtain ⟨item, stands⟩ :=
      Option.isSome_iff_exists.mp (mem_children_iff.mp (mem_sortedNames.mp member))
    have inner : (Path.Component.name name).IsInner := by
      rw [item?, if_neg (by simp)] at stands
      obtain ⟨front, back, parts, _⟩ := List.lookup_eq_some_iff.mp stands
      exact named (place ++ [name], item) (by simp [parts]) name (by simp)
    exact ⟨inner, item, place ++ [name], (locate_join_iff inner).mpr ⟨place, located, there, rfl⟩,
      stands, by simp [endsOpen_join directory inner]⟩
  · rintro ⟨inner, item, found, located, stands, _⟩
    obtain ⟨place, above, there, rfl⟩ := (locate_join_iff inner).mp located
    have listed := mem_children_iff.mpr (Option.isSome_iff_exists.mpr ⟨item, stands⟩)
    exact ⟨_, ⟨place, above, there, rfl⟩, mem_sortedNames.mpr listed⟩

end FileTree

end Splice
