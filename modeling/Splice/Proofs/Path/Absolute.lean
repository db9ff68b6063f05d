import Splice.Search.Located

/-!
# Absolute paths

Joining, normalizing and going to the containing directory lead from absolute paths to absolute
paths only.
-/

namespace Splice

namespace Path

/-- A plain spelling that opens with the root is absolute. -/
theorem isAbsolute_ofComponents (others : List Component) :
    (ofComponents (.root :: others)).isAbsolute = true := by
  simp [ofComponents, isAbsolute]

/-- The components of an absolute path open with the root. -/
theorem components_of_isAbsolute {path : Path} (absolute : path.isAbsolute = true) :
    ∃ others, path.components = .root :: others := by
  have opening : path.text.toList.head? = some '/' := by simpa [isAbsolute] using absolute
  obtain ⟨rest, spelling⟩ := List.head?_eq_some_iff.mp opening
  have text : path = ⟨"/" ++ String.ofList rest⟩ := by
    cases path
    simp_all [← String.toList_inj]
  rw [text, components_absolute]
  exact ⟨_, rfl⟩

theorem isAbsolute_join {base : Path} (absolute : base.isAbsolute = true) (extra : Path) :
    (base.join extra).isAbsolute = true := by
  have opening : base.text.toList.head? = some '/' := by simpa [isAbsolute] using absolute
  unfold join
  split
  · assumption
  · split <;> simp [isAbsolute, opening]

/-- A step from above the root stays above the root. -/
theorem foldComponent_on_root (done : List Component) (step : Component) :
    ∃ top, foldComponent (done ++ [.root]) step = top ++ [.root] := by
  cases step with
  | root => exact ⟨.root :: done, rfl⟩
  | here => exact ⟨done, rfl⟩
  | name text => exact ⟨.name text :: done, rfl⟩
  | up =>
      match done with
      | [] => exact ⟨[], rfl⟩
      | .name _ :: below => exact ⟨below, rfl⟩
      | .root :: below => exact ⟨.root :: below, rfl⟩
      | .here :: below => exact ⟨.up :: .here :: below, rfl⟩
      | .up :: below => exact ⟨.up :: .up :: below, rfl⟩

theorem foldl_on_root (steps done : List Component) :
    ∃ top, steps.foldl foldComponent (done ++ [.root]) = top ++ [.root] := by
  induction steps generalizing done with
  | nil => exact ⟨done, rfl⟩
  | cons step steps ih =>
      obtain ⟨top, first⟩ := foldComponent_on_root done step
      rw [List.foldl_cons, first]
      exact ih top

theorem isAbsolute_normalize {path : Path} (absolute : path.isAbsolute = true) :
    path.normalize.isAbsolute = true := by
  obtain ⟨others, components⟩ := components_of_isAbsolute absolute
  obtain ⟨top, folded⟩ := foldl_on_root others []
  have opens : normalComponents path.components = .root :: top.reverse := by
    rw [components, normalComponents, List.foldl_cons]
    exact (congrArg List.reverse folded).trans (by simp)
  rw [normalize, opens]
  exact isAbsolute_ofComponents _

theorem isAbsolute_anchor {base : Path} (absolute : base.isAbsolute = true) (location : Path) :
    (base.anchor location).isAbsolute = true :=
  isAbsolute_normalize (isAbsolute_join absolute location)

/-- A path seen from an absolute directory is absolute. -/
theorem isAbsolute_absolute {base : Path} (absolute : base.isAbsolute = true) (path : Path) :
    (base.absolute path).isAbsolute = true := by
  have walk (steps : List Path) {start : Path} (rooted : start.isAbsolute = true) :
      (steps.foldl join start).isAbsolute = true := by
    induction steps generalizing start with
    | nil => exact rooted
    | cons step steps ih => exact ih (isAbsolute_join rooted step)
  unfold Path.absolute
  extract_lets steps start whole
  have rooted : start.isAbsolute = true := by
    simp only [start]
    split
    · rfl
    · rfl
    · rfl
    · exact absolute
  split
  · exact isAbsolute_join (walk steps rooted) _
  · exact walk steps rooted

end Path

/-- The directory of a file with an absolute path is absolute. -/
theorem Located.isAbsolute_directory {located : Located}
    (absolute : located.path.isAbsolute = true) : located.directory.isAbsolute = true := by
  obtain ⟨others, components⟩ := Path.components_of_isAbsolute absolute
  unfold directory Path.parent?
  split
  · simpa using absolute
  · simpa using absolute
  · cases others with
    | nil => simp_all
    | cons first rest =>
        rw [components, List.dropLast_cons_cons]
        exact Path.isAbsolute_ofComponents _

end Splice
