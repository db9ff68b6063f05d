import Mathlib.Data.List.Dedup
import Mathlib.Data.List.Nodup
import Splice.Command.Arguments
import Splice.Proofs.Project.Footprint

/-!
# Priority of roots

Registrations move a root to the front.  After any sequence of them the load path has the roots of
the sequence, the latest first, each at the place of its last registration.  A search looks under
the root registered last, and only then under the others as if nothing had been registered.
-/

namespace Splice

/-- Of the occurrences of an item the last one counts, so an item at the end takes the place of
those before it. -/
theorem dedup_concat {α : Type} [DecidableEq α] (list : List α) (last : α) :
    (list ++ [last]).dedup = list.dedup.filter (· ≠ last) ++ [last] := by
  induction list with
  | nil => rfl
  | cons first others ih =>
      rw [List.cons_append, List.dedup_cons, List.dedup_cons, ih]
      by_cases same : first = last
      · subst same
        rw [if_pos (by simp)]
        split <;> simp
      · by_cases again : first ∈ others
        · rw [if_pos (by simp [again]), if_pos again]
        · rw [if_neg (by simp [again, same]), if_neg again, List.filter_cons_of_pos (by simpa)]
          rfl

namespace LoadPath

/-! ## The order of roots -/

/-- The bases of a sequence of registrations are those of the sequence, each where it was registered
last, the latest first. -/
theorem bases_foldl_register (registered : List Root) :
    (registered.foldl register empty).bases = registered.dedup.reverse := by
  induction registered using List.reverseRecOn with
  | nil => rfl
  | append_singleton earlier root ih =>
      rw [List.foldl_append, List.foldl_cons, List.foldl_nil, register, ih, dedup_concat,
        List.reverse_append, List.filter_reverse]
      rfl

/-- The root of a project comes first in the sequence of registrations. -/
theorem ofLocations_eq (root : Root) (locations : List Path) :
    ofLocations root locations = (root :: locations.map (.under root)).foldl register empty := by
  rw [ofLocations, List.foldl_cons, List.foldl_map]

theorem bases_ofLocations (root : Root) (locations : List Path) :
    (ofLocations root locations).bases = (root :: locations.map (.under root)).dedup.reverse := by
  rw [ofLocations_eq, bases_foldl_register]

/-- Distinct bases stay distinct when their paths are compared by components. -/
theorem nodup_components {loadPath : LoadPath} (once : loadPath.bases.Nodup) :
    (loadPath.roots.map Path.components).Nodup := by
  rw [roots, List.map_map]
  refine once.map fun left right same => ?_
  exact Root.ext (Path.eq_of_components left.normal right.normal same)

/-! ## Overriding -/

theorem find?_eq_head? (loadPath : LoadPath) (files : Files) (reference : Path) :
    loadPath.find? files reference = (loadPath.findAll files reference).head? := by
  rw [find?, findAll, List.head?_filterMap]

/-- A root that has been registered is searched first, and what it does not have is found as
before, also if the root was on the load path already. -/
theorem find?_register (loadPath : LoadPath) (files : Files) (root : Root) (reference : Path) :
    (loadPath.register root).find? files reference =
      (Root.find? files root reference).or (loadPath.find? files reference) := by
  rw [find?, register, List.findSome?_cons]
  cases under : Root.find? files root reference with
  | some located => rfl
  | none =>
      -- Where the further root stood before, it has nothing to offer.
      refine findSome?_filter fun base _ dropped => ?_
      obtain rfl : base = root := by simpa using dropped
      exact under

end LoadPath

namespace Project

/-- The load path of a project is that of its root, of the configured locations and of those on the
command line in this order: each location anchored at the root, the latest first, each root only
where it was registered last.  No root is there twice, however it was spelled, and the root of the
project always is.  On every load path the search gives the first of all places, and after a further
root was registered it gives the place under that root if something stands there, and else what it
gave before. -/
theorem roots_latest_first (tree : FileTree) (workingDirectory : Path) {root : Path}
    (invocation : Invocation) (entries : List String) {config : Config} (log : List Event)
    {constants : Constants} (spelled : root.text ≠ "")
    (mapped : config.constantsMapping = .ok constants) :
    (∃ project,
      ofConfig tree workingDirectory root (invocation.override entries config) log = .ok project ∧
      project.environment.root = .under (workingDirectory.absolute root) ⟨"."⟩ ∧
      project.environment.loadPath.bases =
        (project.environment.root :: (config.loadPath ++ invocation.loadPath).map
          (.under project.environment.root)).dedup.reverse ∧
      (project.environment.loadPath.roots.map Path.components).Nodup ∧
      project.environment.root ∈ project.environment.loadPath.bases) ∧
    ∀ (loadPath : LoadPath) (files : Files) (further : Root) (reference : Path),
      (loadPath.register further).find? files reference =
        (if files.has (further.path.anchor reference) then some (.under further reference)
          else loadPath.find? files reference) ∧
      loadPath.find? files reference = (loadPath.findAll files reference).head? := by
  constructor
  · have overridden : (invocation.override entries config).constantsMapping = .ok constants :=
      mapped
    obtain ⟨project, made⟩ := exists_ofConfig tree workingDirectory log spelled overridden
    obtain ⟨_, _, _, settled, _⟩ := ofConfig_ok made
    have bases : project.environment.loadPath.bases = _ :=
      (congrArg LoadPath.bases settled.loadPath_eq).trans (LoadPath.bases_ofLocations _ _)
    refine ⟨project, made, settled.root_eq, ?_, LoadPath.nodup_components ?_, ?_⟩
    · rw [bases, settled.root_eq]
      rfl
    · rw [bases, List.nodup_reverse]
      exact List.nodup_dedup _
    · rw [bases, settled.root_eq]
      simp
  · intro loadPath files further reference
    refine ⟨?_, loadPath.find?_eq_head? files reference⟩
    rw [LoadPath.find?_register, Root.find?, Located.path_under]
    split <;> rfl

/-- One location under two spellings, and one with a trailing separator. -/
def respelled : Config := { loadPath := [⟨"lib"⟩, ⟨"src/../lib"⟩, ⟨"vendor/"⟩] }

/-- A further location, and the root of the project once more. -/
def searching : Invocation := ⟨none, false, false, [⟨"./src"⟩, ⟨"."⟩], false, none, none⟩

theorem respelled_latest_first :
    ∃ project,
      ofConfig .empty ⟨"/w"⟩ ⟨"p"⟩ (searching.override [] respelled) [] = .ok project ∧
      project.environment.root = .ofPath ⟨"/w/p"⟩ ∧
      project.environment.loadPath.roots =
        [⟨"/w/p"⟩, ⟨"/w/p/src"⟩, ⟨"/w/p/vendor"⟩, ⟨"/w/p/lib"⟩] := by
  obtain ⟨⟨project, made, root, bases, _⟩, _⟩ :=
    roots_latest_first .empty ⟨"/w"⟩ searching [] [] (by decide : (⟨"p"⟩ : Path).text ≠ "")
      (rfl : respelled.constantsMapping = .ok [])
  rw [root] at bases
  refine ⟨project, made, root.trans ?_, (congrArg (List.map Root.path) bases).trans ?_⟩
  · decide +kernel
  · decide +kernel

end Project

end Splice
