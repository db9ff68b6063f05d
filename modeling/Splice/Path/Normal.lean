import Splice.Path.Spelling

/-!
# Normal paths

Lexical normalization: `.` disappears and `..` takes back the name before it.  At the root `..` has
no effect; at the start of a relative path it stays.
-/

namespace Splice.Path

/-- One component added to a normal path, whose last component comes first. -/
def foldComponent (done : List Component) : Component → List Component
  | .here => done
  | .up =>
    match done with
    | .name _ :: others => others
    | .root :: _ => done
    | _ => .up :: done
  | component => component :: done

/-- The components of the normal form. -/
def normalComponents (components : List Component) : List Component :=
  (components.foldl foldComponent []).reverse

/-- The normal form of a path, in its plain spelling. -/
def normalize (path : Path) : Path := ofComponents (normalComponents path.components)

/-! ## Normal lists -/

/-- The components of a normal path, the last one first: names, on the root or on steps `..` or on
nothing. -/
inductive Normal : List Component → Prop
  | nil : Normal []
  | root : Normal [.root]
  | up {done : List Component} : (∀ component ∈ done, component = .up) → Normal (.up :: done)
  | name {text : String} {done : List Component} :
      (Component.name text).IsInner → Normal done → Normal (.name text :: done)

/-- Adding an inner component leaves a list normal. -/
theorem Normal.foldComponent {done : List Component} {component : Component}
    (normal : Normal done) (inner : component.IsInner) :
    Normal (Path.foldComponent done component) := by
  cases component with
  | root => exact absurd inner.1 (by decide)
  | here => exact normal
  | name text => exact .name inner normal
  | up =>
      cases normal with
      | nil => exact .up (by simp)
      | root => exact .root
      | up ups => exact .up (by simpa using ups)
      | name _ before => exact before

/-- Adding inner components leaves a list normal. -/
theorem Normal.foldl {done : List Component} (normal : Normal done) (inner : List Component)
    (proper : ∀ component ∈ inner, component.IsInner) :
    Normal (inner.foldl Path.foldComponent done) := by
  induction inner generalizing done with
  | nil => exact normal
  | cons first others ih =>
      exact ih (normal.foldComponent (proper first (by simp)))
        fun component member => proper component (by simp [member])

/-- The components of a path fold to a normal list. -/
theorem normal_foldl_components (path : Path) :
    Normal (path.components.foldl foldComponent []) := by
  have spelled := spelled_components path
  generalize path.components = components at spelled
  unfold Spelled at spelled
  split at spelled
  · exact Normal.root.foldl _ spelled
  · rename_i others
    exact Normal.nil.foldl others spelled
  · exact Normal.nil.foldl _ spelled

/-- Folding the components of a normal list in order gives the list again. -/
theorem Normal.foldl_reverse {done : List Component} (normal : Normal done) :
    done.reverse.foldl Path.foldComponent [] = done := by
  induction normal with
  | nil | root => rfl
  | name _ _ ih => simp [ih, Path.foldComponent]
  | @up done ups =>
      induction done with
      | nil => rfl
      | cons first others ih =>
          obtain rfl : first = .up := ups first (by simp)
          have before := ih fun component member => ups component (by simp [member])
          rw [List.reverse_cons, List.foldl_append, before]
          rfl

/-- Below the root a normal list has inner components only. -/
theorem Normal.reverse_eq {done : List Component} (normal : Normal done) :
    ∃ inner : List Component, (∀ component ∈ inner, component.IsInner) ∧
      (done.reverse = inner ∨ done.reverse = .root :: inner) := by
  induction normal with
  | nil => exact ⟨[], by simp, .inl rfl⟩
  | root => exact ⟨[], by simp, .inr rfl⟩
  | @up done ups =>
      refine ⟨(.up :: done).reverse, ?_, .inl rfl⟩
      intro component member
      obtain rfl : component = .up := by
        rcases List.mem_cons.mp (List.mem_reverse.mp member) with same | below
        · exact same
        · exact ups component below
      constructor <;> decide
  | @name text done proper _ ih =>
      obtain ⟨inner, below, shape⟩ := ih
      refine ⟨inner ++ [.name text], ?_, ?_⟩
      · intro component member
        rcases List.mem_append.mp member with earlier | last
        · exact below component earlier
        · rwa [List.mem_singleton.mp last]
      · rcases shape with shape | shape
        · exact .inl (by simp [shape])
        · exact .inr (by simp [shape])

/-- A normal list in order is a list that some path has. -/
theorem Normal.spelled_reverse {done : List Component} (normal : Normal done) :
    Spelled done.reverse := by
  obtain ⟨inner, proper, shape | shape⟩ := normal.reverse_eq
  · rw [shape]
    unfold Spelled
    split
    · exact fun component member => proper component (by simp [member])
    · exact fun component member => proper component (by simp [member])
    · exact proper
  · rw [shape]
    exact proper

/-- The components of a normal form. -/
@[simp]
theorem components_normalize (path : Path) :
    path.normalize.components = normalComponents path.components :=
  components_ofComponents _ (normal_foldl_components path).spelled_reverse

/-- A normal form is its own normal form. -/
@[simp]
theorem normalize_normalize (path : Path) : path.normalize.normalize = path.normalize := by
  rw [normalize, components_normalize, normalComponents, normalComponents,
    (normal_foldl_components path).foldl_reverse]
  rfl

/-- Normal paths with the same components are the same. -/
theorem eq_of_components {left right : Path} (normal_left : left.normalize = left)
    (normal_right : right.normalize = right) (same : left.components = right.components) :
    left = right := by
  rw [← normal_left, ← normal_right, normalize, normalize, same]

/-! ## Anchoring -/

/-- The path `location` anchored at `base`, as a normal path. -/
def anchor (base location : Path) : Path := (base.join location).normalize

@[simp]
theorem normalize_anchor (base location : Path) :
    (base.anchor location).normalize = base.anchor location :=
  normalize_normalize _

/-- The absolute spelling of a path in the directory `base`.  Doubled separators and `.` are left
out and a trailing separator is kept; exactly two leading separators stay two. -/
def absolute (base path : Path) : Path :=
  let steps := (path.components.filter fun component => component ≠ .here && component ≠ .root).map
    fun component => (⟨component.text⟩ : Path)
  let start : Path :=
    match path.text.toList with
    | '/' :: '/' :: '/' :: _ => ⟨"/"⟩
    | '/' :: '/' :: _ => ⟨"//"⟩
    | '/' :: _ => ⟨"/"⟩
    | _ => base
  let whole := steps.foldl join start
  if path.text.toList.getLast? = some '/' then whole.join ⟨""⟩ else whole

end Splice.Path
