import Splice.Proofs.Path.Canonical
import Splice.Proofs.Search.Priority

/-!
# Watched locations

A root is watched if it lies under no other root.  Every root lies under a watched one: a root that
is not watched lies under a shorter one, and that under a shorter one in turn, until one is watched.
It lies under no second one, since of two locations above one path one lies under the other.
-/

namespace Splice

namespace Path

/-! ## Lying under a path -/

/-- The path is the location, or names lead down from the location to it. -/
def LiesUnder (path location : Path) : Prop :=
  ∃ names : List String, path.components = location.components ++ names.map .name

namespace LiesUnder

variable {path location above : Path}

theorem refl (path : Path) : path.LiesUnder path := ⟨[], by simp⟩

theorem trans (under : path.LiesUnder location) (higher : location.LiesUnder above) :
    path.LiesUnder above := by
  obtain ⟨below, steps⟩ := under
  obtain ⟨names, first⟩ := higher
  exact ⟨names ++ below, by rw [steps, first, List.map_append, List.append_assoc]⟩

/-- A normal path has fewer components than the other normal paths that lie under it. -/
theorem length_lt (under : path.LiesUnder location) (normal : path.normalize = path)
    (higher : location.normalize = location) (distinct : location ≠ path) :
    location.components.length < path.components.length := by
  obtain ⟨names, steps⟩ := under
  have some_name : names ≠ [] := by
    rintro rfl
    exact distinct (eq_of_components higher normal (by simpa using steps.symm))
  have := List.length_pos_iff.mpr some_name
  rw [steps, List.length_append, List.length_map]
  omega

/-- Of two locations above one path one lies under the other. -/
theorem comparable (under : path.LiesUnder location) (other : path.LiesUnder above) :
    location.LiesUnder above ∨ above.LiesUnder location := by
  obtain ⟨one, steps⟩ := under
  obtain ⟨two, again⟩ := other
  rcases List.append_eq_append_iff.mp (steps.symm.trans again) with
    ⟨gap, longer, rest⟩ | ⟨gap, longer, rest⟩
  · obtain ⟨names, _, _, named, _⟩ := List.map_eq_append_iff.mp rest
    exact .inr ⟨names, by rw [longer, named]⟩
  · obtain ⟨names, _, _, named, _⟩ := List.map_eq_append_iff.mp rest
    exact .inl ⟨names, by rw [longer, named]⟩

end LiesUnder

/-- An absolute path in normal form. -/
structure IsPlace (path : Path) : Prop where
  /-- The path starts at the root. -/
  absolute : path.isAbsolute = true
  /-- The path is its own normal form. -/
  normal : path.normalize = path

theorem IsPlace.components_eq {path : Path} (place : path.IsPlace) :
    ∃ names : List String, path.components = .root :: names.map .name := by
  have shape := components_normalize_of_isAbsolute place.absolute
  rwa [place.normal] at shape

/-- Between absolute normal paths the comparison of components tells which lies under which.  This
is not so of relative ones, among which `../..` opens with the components of `..`. -/
theorem startsWith_iff_liesUnder {path location : Path} (place : path.IsPlace)
    (other : location.IsPlace) : path.startsWith location = true ↔ path.LiesUnder location := by
  rw [startsWith, List.isPrefixOf_iff_prefix]
  constructor
  · rintro ⟨rest, steps⟩
    obtain ⟨names, own⟩ := place.components_eq
    obtain ⟨above, high⟩ := other.components_eq
    have tails : names.map Component.name = above.map .name ++ rest := by
      rw [own, high, List.cons_append] at steps
      exact (List.cons.inj steps).2.symm
    obtain ⟨_, below, _, _, named⟩ := List.map_eq_append_iff.mp tails
    exact ⟨below, by rw [← steps, named]⟩
  · rintro ⟨names, steps⟩
    exact ⟨names.map .name, steps.symm⟩

end Path

namespace LoadPath

variable {loadPath : LoadPath}

/-! ## What is watched -/

theorem normal_of_mem {root : Path} (member : root ∈ loadPath.roots) : root.normalize = root := by
  obtain ⟨base, _, rfl⟩ := List.mem_map.mp member
  exact base.normal

theorem watched_sublist (loadPath : LoadPath) : loadPath.watched.Sublist loadPath.roots :=
  List.filter_sublist

section Absolute

variable (absolute : ∀ root ∈ loadPath.roots, root.isAbsolute = true)

include absolute

theorem mem_watched_iff {root : Path} :
    root ∈ loadPath.watched ↔
      root ∈ loadPath.roots ∧ ∀ other ∈ loadPath.roots, root.LiesUnder other → other = root := by
  have place {path : Path} (member : path ∈ loadPath.roots) : path.IsPlace :=
    ⟨absolute path member, normal_of_mem member⟩
  rw [watched, List.mem_filter]
  refine and_congr_right fun member => ?_
  simp only [Bool.not_eq_true', List.any_eq_false, Bool.and_eq_true, decide_eq_true_eq, not_and]
  refine forall₂_congr fun other present => ?_
  rw [Path.startsWith_iff_liesUnder (place member) (place present)]
  exact not_imp_comm.trans (by rw [not_not])

/-- The step from a root that is not watched to a shorter one is taken until one is watched. -/
theorem exists_watched {root : Path} (member : root ∈ loadPath.roots) :
    ∃ location ∈ loadPath.watched, root.LiesUnder location := by
  induction size : root.components.length using Nat.strong_induction_on generalizing root with
  | _ size ih =>
      by_cases watched : root ∈ loadPath.watched
      · exact ⟨root, watched, .refl root⟩
      · rw [mem_watched_iff absolute, not_and] at watched
        obtain ⟨other, present, under, distinct⟩ : ∃ other ∈ loadPath.roots,
            root.LiesUnder other ∧ other ≠ root := by simpa using watched member
        have shorter := under.length_lt (normal_of_mem member) (normal_of_mem present) distinct
        obtain ⟨location, found, higher⟩ := ih _ (size ▸ shorter) present rfl
        exact ⟨location, found, under.trans higher⟩

/-- No watched location lies under another one. -/
theorem eq_of_liesUnder_watched {location above : Path} (found : location ∈ loadPath.watched)
    (other : above ∈ loadPath.watched) (under : location.LiesUnder above) : location = above :=
  (((mem_watched_iff absolute).mp found).2 above ((watched_sublist _).subset other) under).symm

theorem watched_unique {root location above : Path} (found : location ∈ loadPath.watched)
    (under : root.LiesUnder location) (other : above ∈ loadPath.watched)
    (again : root.LiesUnder above) : location = above := by
  rcases under.comparable again with lower | higher
  · exact eq_of_liesUnder_watched absolute found other lower
  · exact (eq_of_liesUnder_watched absolute other found higher).symm

end Absolute

/-- The watched locations of a load path to which absolute roots were registered, in any order and
perhaps repeatedly, are some of its roots, in the order of the load path and each once.  None lies
under another one, and every root that was registered lies under exactly one of them. -/
theorem watched_covers_once {registered : List Root}
    (made : registered.foldl register empty = loadPath)
    (absolute : ∀ root ∈ registered, root.path.isAbsolute = true) :
    loadPath.watched.Sublist loadPath.roots ∧
    (loadPath.watched.map Path.components).Nodup ∧
    (∀ location ∈ loadPath.watched, ∀ above ∈ loadPath.watched,
      location.LiesUnder above → location = above) ∧
    (∀ root, root ∈ loadPath.bases ↔ root ∈ registered) ∧
    ∀ root ∈ loadPath.roots,
      ∃! location, location ∈ loadPath.watched ∧ root.LiesUnder location := by
  have bases : loadPath.bases = registered.dedup.reverse := made ▸ bases_foldl_register registered
  have mem_bases (root : Root) : root ∈ loadPath.bases ↔ root ∈ registered := by
    rw [bases, List.mem_reverse, List.mem_dedup]
  have proper : ∀ root ∈ loadPath.roots, root.isAbsolute = true := by
    intro root member
    obtain ⟨base, present, rfl⟩ := List.mem_map.mp member
    exact absolute base ((mem_bases base).mp present)
  have within := watched_sublist loadPath
  refine ⟨within, ?_, ?_, mem_bases, ?_⟩
  · have once : loadPath.bases.Nodup := by
      rw [bases, List.nodup_reverse]
      exact List.nodup_dedup registered
    exact (nodup_components once).sublist (within.map Path.components)
  · intro location found above other under
    exact eq_of_liesUnder_watched proper found other under
  · intro root member
    obtain ⟨location, found, under⟩ := exists_watched proper member
    refine ⟨location, ⟨found, under⟩, fun above other => ?_⟩
    exact watched_unique proper other.1 other.2 found under

/-- Roots nested three deep that were registered from the inside out, one of them twice, and one
that only its spelling has in common with another one. -/
def nestedRoots : List Root :=
  [.ofPath ⟨"/p/lib/ui"⟩, .ofPath ⟨"/p/lib"⟩, .ofPath ⟨"/shared"⟩, .ofPath ⟨"/p"⟩,
    .ofPath ⟨"/p/lib/ui/"⟩, .ofPath ⟨"/project"⟩]

theorem nestedRoots_covered_once :
    ∃ loadPath, nestedRoots.foldl register empty = loadPath ∧
      loadPath.roots = [⟨"/project"⟩, ⟨"/p/lib/ui"⟩, ⟨"/p"⟩, ⟨"/shared"⟩, ⟨"/p/lib"⟩] ∧
      loadPath.watched = [⟨"/project"⟩, ⟨"/p"⟩, ⟨"/shared"⟩] ∧
      (∀ root ∈ nestedRoots, root.path.isAbsolute = true) ∧
      ∃! location : Path, location ∈ loadPath.watched ∧ Path.LiesUnder ⟨"/p/lib/ui"⟩ location := by
  have absolute : ∀ root ∈ nestedRoots, root.path.isAbsolute = true := by
    decide +kernel
  obtain ⟨_, _, _, _, covered⟩ := watched_covers_once rfl absolute
  refine ⟨_, rfl, ?_, ?_, absolute, covered _ ?_⟩
  · decide +kernel
  · decide +kernel
  · decide +kernel

end LoadPath

end Splice
