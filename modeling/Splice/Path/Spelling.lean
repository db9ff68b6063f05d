import Splice.Path.Basic

/-!
# Plain spellings

Every path has a list of components of a certain form.  A list of that form is spelled in a plain
way, and reading the plain spelling gives the list back.
-/

namespace Splice.Path

/-- A component that a segment after the first one can stand for. -/
def Component.IsInner (component : Component) : Prop :=
  '/' ∉ component.text.toList ∧ innerComponent component.text.toList = some component

/-- A list of components that some path has: only the first one may be the root or `.`. -/
def Spelled : List Component → Prop
  | .root :: others | .here :: others => ∀ component ∈ others, component.IsInner
  | others => ∀ component ∈ others, component.IsInner

/-! ## Reading a spelling -/

/-- No segment holds the separator. -/
theorem separator_not_mem_segment (text segment : List Char) (member : segment ∈ text.splitOn '/') :
    '/' ∉ segment := by
  induction text generalizing segment with
  | nil =>
      have empty : segment = [] := by simpa [List.splitOn_eq_splitOnP] using member
      simp [empty]
  | cons c rest ih =>
      rw [List.splitOn_cons_eq_if_modifyHead] at member
      split at member
      · rcases List.mem_cons.mp member with rfl | later
        · simp
        · exact ih segment later
      · rename_i distinct
        cases pieces : rest.splitOn '/' with
        | nil => simp [pieces] at member
        | cons head tail =>
            rw [pieces] at ih member
            rcases List.mem_cons.mp member with rfl | later
            · have clean := ih head (by simp)
              simp only [List.mem_cons, not_or]
              exact ⟨fun same => distinct (by simp [← same]), clean⟩
            · exact ih segment (by simp [later])

/-- A segment without separators stands for an inner component or for none. -/
theorem isInner_of_innerComponent {segment : List Char} {component : Component}
    (clean : '/' ∉ segment) (stands : innerComponent segment = some component) :
    component.IsInner := by
  unfold innerComponent at stands
  split at stands
  · simp at stands
  · split at stands
    · cases stands
      constructor <;> decide
    · cases stands
      constructor
      · simpa [Component.text] using clean
      · simp_all [innerComponent, Component.text]

/-- The components of a path, told from its segments. -/
theorem components_eq (path : Path) :
    path.components =
      match path.text.toList.splitOn '/' with
      | [] | [[]] => []
      | [] :: others => .root :: others.filterMap innerComponent
      | ['.'] :: others => .here :: others.filterMap innerComponent
      | all => all.filterMap innerComponent := by
  have inner (all : List (List Char)) :
      (all.map fun segment => (segment, innerComponent segment)).filterMap (·.2) =
        all.filterMap innerComponent := by
    rw [List.filterMap_map]
    rfl
  unfold components segments
  split <;> simp_all only [List.filterMap_cons, List.filterMap_nil]

/-- The components of a path have the form of a spelled list. -/
theorem spelled_components (path : Path) : Spelled path.components := by
  have inner (segments : List (List Char))
      (known : ∀ segment ∈ segments, segment ∈ path.text.toList.splitOn '/') :
      ∀ component ∈ segments.filterMap innerComponent, component.IsInner := by
    intro component member
    obtain ⟨segment, present, stands⟩ := List.mem_filterMap.mp member
    exact isInner_of_innerComponent
      (separator_not_mem_segment _ segment (known segment present)) stands
  rw [components_eq]
  split
  · simp [Spelled]
  · simp [Spelled]
  · exact inner _ (by simp_all)
  · exact inner _ (by simp_all)
  · have all := inner (path.text.toList.splitOn '/') (by simp)
    unfold Spelled
    split
    · simp_all
    · simp_all
    · exact all

/-! ## Reading a plain spelling -/

/-- Joined components are cut apart again. -/
theorem splitOn_join (list : List Component) (some_component : list ≠ [])
    (clean : ∀ component ∈ list, '/' ∉ component.text.toList) :
    ("/".intercalate (list.map Component.text)).toList.splitOn '/' =
      list.map fun component => component.text.toList := by
  rw [String.toList_intercalate]
  refine (List.splitOn_intercalate '/' ?_ (by simpa using some_component)).trans (by simp)
  intro segment member
  rw [List.map_map, List.mem_map] at member
  obtain ⟨component, present, rfl⟩ := member
  exact clean component present

/-- The spellings of inner components stand for them. -/
theorem filterMap_text (inner : List Component)
    (proper : ∀ component ∈ inner, component.IsInner) :
    (inner.map fun component => component.text.toList).filterMap innerComponent = inner := by
  induction inner with
  | nil => rfl
  | cons first others ih =>
      rw [List.map_cons, List.filterMap_cons_some (proper first (by simp)).2]
      rw [ih fun component member => proper component (by simp [member])]

/-- An absolute spelling opens with the root. -/
theorem components_absolute (rest : String) :
    components ⟨"/" ++ rest⟩ =
      .root :: (rest.toList.splitOn '/').filterMap innerComponent := by
  have segments : (("/" ++ rest).toList.splitOn '/') = [] :: rest.toList.splitOn '/' := by
    simp [List.splitOn_cons_eq_if_modifyHead]
  rw [components_eq, segments]
  cases pieces : rest.toList.splitOn '/' with
  | nil => exact absurd pieces (List.splitOn_ne_nil '/' _)
  | cons first others => rfl

/-- A relative spelling that opens with `.` keeps it. -/
theorem components_here (others : List Component)
    (proper : ∀ component ∈ others, component.IsInner) :
    (ofComponents (.here :: others)).components = .here :: others := by
  have clean : ∀ component ∈ Component.here :: others, '/' ∉ component.text.toList := by
    intro component member
    rcases List.mem_cons.mp member with rfl | later
    · decide
    · exact (proper component later).1
  rw [components_eq]
  simp only [ofComponents]
  rw [splitOn_join _ (by simp) clean]
  exact congrArg (Component.here :: ·) (filterMap_text others proper)

/-- A relative spelling of inner components has just these. -/
theorem components_inner (list : List Component) (proper : ∀ component ∈ list, component.IsInner) :
    (ofComponents list).components = list := by
  cases list with
  | nil => rfl
  | cons first others =>
      have stands := (proper first (by simp)).2
      have relative : ofComponents (first :: others) =
          ⟨"/".intercalate ((first :: others).map Component.text)⟩ := by
        cases first with
        | root => exact absurd (proper .root (by simp)).1 (by decide)
        | here | up | name text => rfl
      rw [components_eq, relative, splitOn_join _ (by simp) fun c member => (proper c member).1,
        List.map_cons]
      -- The first segment stands for an inner component, so it is neither empty nor `.`.
      split
      · simp_all
      · simp_all [innerComponent]
      · simp_all [innerComponent]
      · simp_all [innerComponent]
      · exact filterMap_text (first :: others) proper

/-- A spelled list is read back from its plain spelling. -/
theorem components_ofComponents (list : List Component) (spelled : Spelled list) :
    (ofComponents list).components = list := by
  match list, spelled with
  | [], _ => rfl
  | .root :: [], _ => rfl
  | .root :: first :: others, proper =>
      have clean : ∀ component ∈ first :: others, '/' ∉ component.text.toList :=
        fun component member => (proper component member).1
      rw [ofComponents, components_absolute, splitOn_join _ (by simp) clean,
        filterMap_text _ proper]
  | .here :: others, proper => exact components_here others proper
  | .up :: others, proper => exact components_inner (.up :: others) proper
  | .name text :: others, proper => exact components_inner (.name text :: others) proper

end Splice.Path
