import Mathlib.Logic.Relation
import Splice.Proofs.Files.Names

/-!
# Canonical paths

A path is brought to its normal form by three reductions, which drop a `.`, a name together with the
step `..` after it, and a step `..` at the root.  Every path reduces to its normal form and no
reduction changes the normal form, so two paths have the same one exactly if they reduce to a common
list.  Folding a list of components onto another one gives the same as folding its normal form,
which is why a normal form can stand for either side of a joined path.
-/

namespace Splice

namespace Path

open Relation (ReflTransGen)

/-! ## Components of a joined path -/

theorem components_of_pieces {path : Path} {first : List Char} {others : List (List Char)}
    (spelled : path.text.toList ≠ []) (pieces : path.text.toList.splitOn '/' = first :: others) :
    path.components = (headComponent first).toList ++ others.filterMap innerComponent := by
  rw [components, segments_eq spelled pieces, List.filterMap_cons, List.filterMap_map]
  cases headComponent first with
  | none => rfl
  | some component => rfl

/-- The components of a relative path are those of its segments, perhaps after a `.`. -/
theorem components_of_relative {path : Path} (relative : path.isAbsolute = false) :
    path.components = (path.text.toList.splitOn '/').filterMap innerComponent ∨
      path.components = .here :: (path.text.toList.splitOn '/').filterMap innerComponent := by
  have joined : ['/'].intercalate (path.text.toList.splitOn '/') = path.text.toList :=
    List.intercalate_splitOn '/'
  rw [components_eq]
  split
  · simp_all
  · simp_all [innerComponent]
  · -- A first segment that is empty stands before a separator.
    rename_i others proper pieces
    obtain ⟨second, more, rfl⟩ := List.exists_cons_of_ne_nil proper
    rw [pieces] at joined
    simp [isAbsolute, ← joined, List.intercalate] at relative
  · rename_i pieces
    rw [pieces, List.filterMap_cons_none (by rfl)]
    exact .inr rfl
  · exact .inl rfl

/-- What is spelled behind the separator of a path comes after its components. -/
theorem components_opened {base : Path} (spelled : base.text ≠ "") (rest : String) :
    components ⟨base.opened ++ rest⟩ =
      base.components ++ (rest.toList.splitOn '/').filterMap innerComponent := by
  obtain ⟨front, ends, shape⟩ : ∃ front, base.opened.toList = front ++ ['/'] ∧
      (base.text.toList = front ++ ['/'] ∨ base.text.toList = front ∧ front ≠ []) := by
    unfold opened
    split
    · rename_i open_
      obtain ⟨front, ends⟩ := List.getLast?_eq_some_iff.mp (open_.resolve_right spelled)
      exact ⟨front, ends, .inl ends⟩
    · exact ⟨base.text.toList, by simp, .inr ⟨rfl, by simpa using spelled⟩⟩
  obtain ⟨first, others, pieces⟩ := List.exists_cons_of_ne_nil (List.splitOn_ne_nil '/' front)
  have whole : components ⟨base.opened ++ rest⟩ = (headComponent first).toList ++
      (others ++ rest.toList.splitOn '/').filterMap innerComponent := by
    refine components_of_pieces (by simp [ends]) ?_
    rw [String.toList_append, ends, List.append_assoc, List.singleton_append,
      List.splitOn_append_cons_self, pieces, List.cons_append]
  have known : base.components =
      (headComponent first).toList ++ others.filterMap innerComponent := by
    rcases shape with ended | ⟨same, nonempty⟩
    · have cut : base.text.toList.splitOn '/' = first :: (others ++ [[]]) := by
        rw [ended, List.splitOn_append_cons_self, pieces, List.splitOn_nil, List.cons_append]
      rw [components_of_pieces (by simp [ended]) cut]
      simp [innerComponent]
    · exact components_of_pieces (by rwa [same]) (same ▸ pieces)
  rw [whole, known, List.filterMap_append, List.append_assoc]

/-! ## Folding twice -/

/-- Folding a component onto a list that is itself folded. -/
theorem foldComponent_refold (done above : List Component) (component : Component) :
    foldComponent (above.reverse.foldl foldComponent done) component =
      (foldComponent above component).reverse.foldl foldComponent done := by
  have push (step : Component) : foldComponent (above.reverse.foldl foldComponent done) step =
      (step :: above).reverse.foldl foldComponent done := by
    rw [List.reverse_cons, List.foldl_append]
    rfl
  cases component with
  | root => exact push .root
  | here => rfl
  | name text => exact push (.name text)
  | up =>
      match above with
      | [] => exact push .up
      | .here :: _ => exact push .up
      | .up :: _ => exact push .up
      | .root :: below | .name _ :: below => simp [foldComponent]

/-- Components may be folded first among themselves and then onto what stands before them. -/
theorem foldl_refold (steps above done : List Component) :
    steps.foldl foldComponent (above.reverse.foldl foldComponent done) =
      (steps.foldl foldComponent above).reverse.foldl foldComponent done := by
  induction steps generalizing above with
  | nil => rfl
  | cons step steps ih => rw [List.foldl_cons, foldComponent_refold, ih, List.foldl_cons]

theorem foldl_normalComponents (steps done : List Component) :
    (normalComponents steps).foldl foldComponent done = steps.foldl foldComponent done :=
  (foldl_refold steps [] done).symm

/-- A relative path is folded onto what it is joined to. -/
theorem normalize_join (base : Path) {extra : Path} (relative : extra.isAbsolute = false) :
    (base.join extra).normalize = ofComponents
      (extra.components.foldl foldComponent (base.components.foldl foldComponent [])).reverse := by
  have inner (done : List Component) : extra.components.foldl foldComponent done =
      ((extra.text.toList.splitOn '/').filterMap innerComponent).foldl foldComponent done := by
    rcases components_of_relative relative with plain | dotted
    · rw [plain]
    · rw [dotted]
      rfl
  rw [join_eq base relative, normalize, normalComponents]
  by_cases empty : base.text = ""
  · have nothing : base.components = [] := by rw [components, segments, empty]; rfl
    have same : (⟨base.opened ++ extra.text⟩ : Path) = extra := by simp [opened, empty]
    rw [same, nothing]
    rfl
  · rw [components_opened empty, List.foldl_append, inner]

/-! ## The shape of a normal form -/

/-- Only an absolute path has the root among its components. -/
theorem root_mem_components_iff {path : Path} :
    .root ∈ path.components ↔ path.isAbsolute = true := by
  constructor
  · intro member
    by_contra relative
    have outside : .root ∉ (path.text.toList.splitOn '/').filterMap innerComponent := by
      intro inside
      obtain ⟨segment, present, stands⟩ := List.mem_filterMap.mp inside
      have inner := isInner_of_innerComponent (separator_not_mem_segment _ segment present) stands
      exact absurd inner.1 (by decide)
    rcases components_of_relative (by simpa using relative) with plain | dotted
    · exact outside (plain ▸ member)
    · rw [dotted, List.mem_cons] at member
      exact outside (member.resolve_left (by decide))
  · intro absolute
    obtain ⟨others, components⟩ := components_of_isAbsolute absolute
    simp [components]

theorem mem_foldComponent {done : List Component} {component step : Component}
    (member : component ∈ foldComponent done step) : component = step ∨ component ∈ done := by
  cases step with
  | here => exact .inr member
  | root | name text => exact List.mem_cons.mp member
  | up =>
      match done with
      | [] => exact List.mem_cons.mp member
      | .here :: _ | .up :: _ => exact List.mem_cons.mp member
      | .root :: _ => exact .inr member
      | .name _ :: _ => exact .inr (List.mem_cons_of_mem _ member)

/-- Folding brings in no new components. -/
theorem mem_foldl_foldComponent {steps done : List Component} {component : Component}
    (member : component ∈ steps.foldl foldComponent done) :
    component ∈ steps ∨ component ∈ done := by
  induction steps generalizing done with
  | nil => exact .inr member
  | cons step steps ih =>
      rcases ih member with later | folded
      · exact .inl (List.mem_cons_of_mem _ later)
      · rcases mem_foldComponent folded with rfl | before
        · exact .inl List.mem_cons_self
        · exact .inr before

@[simp]
theorem isAbsolute_normalize_eq (path : Path) : path.normalize.isAbsolute = path.isAbsolute := by
  rw [Bool.eq_iff_iff]
  refine ⟨fun absolute => ?_, isAbsolute_normalize⟩
  rw [← root_mem_components_iff, components_normalize, normalComponents, List.mem_reverse]
    at absolute
  exact root_mem_components_iff.mp ((mem_foldl_foldComponent absolute).resolve_right (by simp))

/-- A normal list in order is the root or some steps `..`, followed by names. -/
theorem Normal.shape {done : List Component} (normal : Normal done) :
    (∃ names : List String, done.reverse = .root :: names.map .name) ∨
      ∃ (back : Nat) (names : List String),
        done.reverse = List.replicate back .up ++ names.map .name := by
  induction normal with
  | nil => exact .inr ⟨0, [], rfl⟩
  | root => exact .inl ⟨[], rfl⟩
  | @up done ups =>
      refine .inr ⟨done.length + 1, [], ?_⟩
      rw [List.map_nil, List.append_nil, List.eq_replicate_iff]
      refine ⟨by simp, fun component member => ?_⟩
      rcases List.mem_cons.mp (List.mem_reverse.mp member) with same | below
      · exact same
      · exact ups component below
  | @name text done _ _ ih =>
      rcases ih with ⟨names, shape⟩ | ⟨back, names, shape⟩
      · exact .inl ⟨names ++ [text], by simp [shape]⟩
      · exact .inr ⟨back, names ++ [text], by simp [shape]⟩

theorem components_normalize_of_isAbsolute {path : Path} (absolute : path.isAbsolute = true) :
    ∃ names : List String, path.normalize.components = .root :: names.map .name := by
  have rooted : .root ∈ path.normalize.components := root_mem_components_iff.mpr (by simpa)
  rw [components_normalize, normalComponents] at rooted ⊢
  rcases (normal_foldl_components path).shape with shape | ⟨back, names, shape⟩
  · exact shape
  · simp [shape] at rooted

theorem components_normalize_of_relative {path : Path} (relative : path.isAbsolute = false) :
    ∃ (back : Nat) (names : List String),
      path.normalize.components = List.replicate back .up ++ names.map .name := by
  have unrooted : .root ∉ path.normalize.components := by
    rw [root_mem_components_iff, isAbsolute_normalize_eq, relative]
    decide
  rw [components_normalize, normalComponents] at unrooted ⊢
  rcases (normal_foldl_components path).shape with ⟨names, shape⟩ | shape
  · simp [shape] at unrooted
  · exact shape

/-! ## Reductions -/

/-- One reduction of a list of components. -/
inductive Reduces : List Component → List Component → Prop
  /-- A `.` says nothing. -/
  | here (front rest : List Component) : Reduces (front ++ .here :: rest) (front ++ rest)
  /-- A step `..` takes back the name before it. -/
  | back (front rest : List Component) (name : String) :
      Reduces (front ++ .name name :: .up :: rest) (front ++ rest)
  /-- Nothing is above the root. -/
  | top (rest : List Component) : Reduces (.root :: .up :: rest) (.root :: rest)

/-- A reduction does not change the normal form. -/
theorem Reduces.normalComponents_eq {list reduced : List Component} (step : Reduces list reduced) :
    normalComponents reduced = normalComponents list := by
  cases step with
  | here front rest => simp [normalComponents, foldComponent]
  | back front rest name => simp [normalComponents, foldComponent]
  | top rest => rfl

/-- A normal list with inner components still behind it reduces to what these are folded to. -/
theorem Normal.reduces_foldl {done : List Component} (normal : Normal done)
    {steps : List Component} (inner : ∀ step ∈ steps, step.IsInner) :
    ReflTransGen Reduces (done.reverse ++ steps) (steps.foldl Path.foldComponent done).reverse := by
  induction steps generalizing done with
  | nil => simpa using ReflTransGen.refl
  | cons step steps ih =>
      obtain ⟨own, later⟩ := List.forall_mem_cons.mp inner
      have folded := ih (normal.foldComponent own) later
      have push (unchanged : Path.foldComponent done step = step :: done) :
          ReflTransGen Reduces (done.reverse ++ step :: steps)
            (steps.foldl Path.foldComponent (Path.foldComponent done step)).reverse := by
        rw [unchanged] at folded ⊢
        simpa using folded
      cases step with
      | root => exact absurd own.1 (by decide)
      | here => exact absurd own.2 (by decide)
      | name text => exact push rfl
      | up =>
          cases normal with
          | nil | up => exact push rfl
          | root => exact .head (.top steps) folded
          | @name text below =>
              refine .head ?_ folded
              rw [List.reverse_cons, List.append_assoc]
              exact .back below.reverse steps text

/-- Every path reduces to its normal form. -/
theorem reduces_normalize (path : Path) :
    ReflTransGen Reduces path.components path.normalize.components := by
  have spelled := spelled_components path
  rw [components_normalize, normalComponents]
  generalize path.components = components at spelled
  unfold Spelled at spelled
  split at spelled
  · exact Normal.root.reduces_foldl spelled
  · rename_i others
    exact .head (.here [] others) (Normal.nil.reduces_foldl spelled)
  · exact Normal.nil.reduces_foldl spelled

/-- Two paths have the same normal form exactly if they reduce to a common list. -/
theorem normalize_eq_iff {one other : Path} :
    one.normalize = other.normalize ↔
      Relation.Join (ReflTransGen Reduces) one.components other.components := by
  have kept {list reduced : List Component} (steps : ReflTransGen Reduces list reduced) :
      normalComponents reduced = normalComponents list := by
    induction steps with
    | refl => rfl
    | tail _ step ih => exact step.normalComponents_eq.trans ih
  constructor
  · intro same
    exact ⟨one.normalize.components, one.reduces_normalize, same ▸ other.reduces_normalize⟩
  · rintro ⟨common, left, right⟩
    rw [normalize, normalize, ← kept left, ← kept right]

/-! ## Joining normal forms -/

theorem normalize_join_left (base extra : Path) :
    (base.normalize.join extra).normalize = (base.join extra).normalize := by
  cases absolute : extra.isAbsolute with
  | true => simp only [join, absolute, if_true]
  | false =>
      rw [normalize_join _ absolute, normalize_join _ absolute, components_normalize,
        foldl_normalComponents]

theorem normalize_join_right (base extra : Path) :
    (base.join extra.normalize).normalize = (base.join extra).normalize := by
  cases absolute : extra.isAbsolute with
  | true => simp only [join, isAbsolute_normalize_eq, absolute, if_true, normalize_normalize]
  | false =>
      rw [normalize_join _ absolute, normalize_join _ (by simpa using absolute),
        components_normalize, foldl_normalComponents]

/-- Normal forms are canonical.  Normalizing twice changes nothing.  The normal form of an absolute
path is absolute and has names only; that of a relative path is relative and has steps `..` and then
names.  Two paths have the same normal form exactly if they reduce to a common list.  Either side of
a joined path may be normalized before it is joined, so whether two located files are the same is
told from the normal forms of their roots and of the ways from there. -/
theorem normalForm_canonical (one other : Path) :
    one.normalize.normalize = one.normalize ∧
    (one.isAbsolute = true → one.normalize.isAbsolute = true ∧
      ∃ names : List String, one.normalize.components = .root :: names.map .name) ∧
    (one.isAbsolute = false → one.normalize.isAbsolute = false ∧
      ∃ (back : Nat) (names : List String),
        one.normalize.components = List.replicate back .up ++ names.map .name) ∧
    (one.normalize = other.normalize ↔
      Relation.Join (ReflTransGen Reduces) one.components other.components) ∧
    (one.join other).normalize = (one.normalize.join other).normalize ∧
    (one.join other).normalize = (one.join other.normalize).normalize ∧
    ∀ root relative : Path,
      (Located.under one other).path = (Located.under root relative).path ↔
        (Located.under one.normalize other.normalize).path =
          (Located.under root.normalize relative.normalize).path := by
  have anchored (base extra : Path) :
      base.normalize.anchor extra.normalize = base.anchor extra := by
    rw [anchor, anchor, normalize_join_left, normalize_join_right]
  refine ⟨normalize_normalize one, fun absolute => ?_, fun relative => ?_, normalize_eq_iff,
    (normalize_join_left one other).symm, (normalize_join_right one other).symm, ?_⟩
  · exact ⟨isAbsolute_normalize absolute, components_normalize_of_isAbsolute absolute⟩
  · exact ⟨by simpa using relative, components_normalize_of_relative relative⟩
  · intro root relative
    simp only [Located.path_under, anchored]

/-- An absolute path that goes back beyond the root. -/
def beyondRoot : Path := ⟨"//p/./x/../../../q/"⟩

/-- A relative path that goes back beyond its start. -/
def beyondStart : Path := ⟨"./a/../../b/."⟩

theorem beyondRoot_canonical :
    beyondRoot.isAbsolute = true ∧
    (∃ names : List String, beyondRoot.normalize.components = .root :: names.map .name) ∧
    beyondStart.isAbsolute = false ∧
    (∃ (back : Nat) (names : List String),
      beyondStart.normalize.components = List.replicate back .up ++ names.map .name) ∧
    (beyondRoot.join beyondStart.normalize).normalize = ⟨"/b"⟩ ∧
    (beyondRoot.normalize.join beyondStart).normalize = ⟨"/b"⟩ := by
  have absolute : beyondRoot.isAbsolute = true := by decide
  have relative : beyondStart.isAbsolute = false := by decide
  have joined : (beyondRoot.join beyondStart).normalize = ⟨"/b"⟩ := by decide +kernel
  obtain ⟨_, rooted, _, _, left, right, _⟩ := normalForm_canonical beyondRoot beyondStart
  obtain ⟨_, _, unrooted, _⟩ := normalForm_canonical beyondStart beyondRoot
  exact ⟨absolute, (rooted absolute).2, relative, (unrooted relative).2, right.symm.trans joined,
    left.symm.trans joined⟩

end Path

end Splice
