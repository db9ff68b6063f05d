import Splice.Proofs.Files.Memory
import Splice.Proofs.Search.Priority
import Splice.Proofs.Session.Coherence

/-!
# Spellings of a location

The single search of an environment asks for an absolute location as it is spelled, the exhaustive
one for its normal form.  Without a step `..` the two have the same components, and a store cannot
tell them apart.  With such a step it can, and then the searches may disagree.
-/

namespace Splice

namespace Path

/-- Names on top of a normal list leave it normal. -/
theorem Normal.names {done : List Component} (normal : Normal done) (inner : List Component)
    (proper : ∀ component ∈ inner, component.IsInner) (forward : .up ∉ inner) :
    Normal (inner.reverse ++ done) := by
  induction inner generalizing done with
  | nil => exact normal
  | cons first others ih =>
      obtain ⟨own, later⟩ := List.forall_mem_cons.mp proper
      rw [List.mem_cons, not_or] at forward
      have extended : Normal (first :: done) := by
        -- Inside a path the only component besides names is the step back.
        cases first with
        | root => exact absurd own.1 (by decide)
        | here => exact absurd own.2 (by decide)
        | up => exact absurd rfl forward.1
        | name text => exact .name own normal
      have below := ih extended later forward.2
      rwa [List.reverse_cons, List.append_assoc, List.singleton_append]

/-- An absolute path without a step back has the components of its normal form. -/
theorem components_normalize_of_forward {path : Path} (absolute : path.isAbsolute = true)
    (forward : .up ∉ path.components) : path.normalize.components = path.components := by
  obtain ⟨inner, components⟩ := components_of_isAbsolute absolute
  have spelled := spelled_components path
  rw [components] at spelled forward
  rw [List.mem_cons, not_or] at forward
  have folded := (Normal.root.names inner spelled forward.2).foldl_reverse
  rw [List.reverse_append, List.reverse_reverse, List.reverse_singleton, List.singleton_append]
    at folded
  rw [components_normalize, components, normalComponents, folded]
  simp

/-- An absolute location is anchored nowhere else. -/
theorem anchor_of_isAbsolute (base : Path) {location : Path}
    (absolute : location.isAbsolute = true) :
    base.anchor location = location.normalize := by
  rw [anchor, join, if_pos absolute]

end Path

namespace MemoryFiles

variable {store : MemoryFiles}

/-- Nothing stands at a path with a step back if no file was stored under such a path. -/
theorem has_of_back {path : Path} (plain : ∀ file ∈ store.files, .up ∉ file.1)
    (back : .up ∈ path.components) : store.has path = false := by
  rw [Bool.eq_false_iff]
  intro there
  obtain ⟨rest, stored⟩ := has_iff_leads.mp there
  obtain ⟨file, member, leads⟩ := List.mem_map.mp ((mem_keys_iff _).mpr stored)
  refine plain file member ?_
  rw [leads]
  exact List.mem_append_left rest back

end MemoryFiles

namespace Environment

theorem Built.bases_ne_nil {environment : Environment} (built : Built environment) :
    environment.loadPath.bases ≠ [] := by
  induction built with
  | create _ created =>
      rw [(settled_of_create created).loadPath_eq]
      exact List.cons_ne_nil _ _
  | withLoadPath locations _ ih =>
      exact List.foldlRecOn (motive := fun searched : Environment => searched.loadPath.bases ≠ [])
        locations (fun searched location => searched.addRoot (searched.rootOf location)) ih
        fun _ _ _ _ => List.cons_ne_nil _ _
  | register => exact List.cons_ne_nil _ _
  | alike _ _ loadPath ih => rwa [loadPath]

/-- The single search gives the first place of the exhaustive one, and nothing exactly if there is
no place. -/
def SearchesAgree (environment : Environment) (location : Path) : Prop :=
  (environment.find? location).map Located.path =
      (environment.findAll location).head?.map Located.path ∧
    (environment.find? location = none ↔ environment.findAll location = [])

variable {environment : Environment} {location : Path}

theorem searchesAgree_of_relative (relative : location.isAbsolute = false) :
    environment.SearchesAgree location := by
  have first : environment.find? location = (environment.findAll location).head? := by
    rw [find?, if_neg (by simp [relative]), findAll, LoadPath.find?_eq_head?]
  rw [SearchesAgree, first]
  exact ⟨rfl, List.head?_eq_none_iff⟩

/-- An absolute location is found under every root or under none. -/
theorem findAll_of_isAbsolute (environment : Environment) (absolute : location.isAbsolute = true) :
    environment.findAll location =
      if environment.files.has location.normalize then
        environment.loadPath.bases.map fun root : Root => Located.under root location
      else [] := by
  unfold findAll LoadPath.findAll Root.find?
  simp only [Located.path_under, Path.anchor_of_isAbsolute _ absolute]
  split
  · exact congrFun List.filterMap_eq_map' _
  · simp

theorem searchesAgree_iff_of_isAbsolute (searched : environment.loadPath.bases ≠ [])
    (absolute : location.isAbsolute = true) :
    environment.SearchesAgree location ↔
      environment.files.has location.normalize = environment.files.has location := by
  obtain ⟨root, others, roots⟩ := List.exists_cons_of_ne_nil searched
  rw [SearchesAgree, find?, if_pos absolute, findAll_of_isAbsolute environment absolute, roots]
  cases environment.files.has location <;> cases environment.files.has location.normalize <;>
    simp [Path.anchor_of_isAbsolute, absolute]

/-- Over a store the two searches agree on a location unless it is absolute, has a step `..` and
what stands there as it is spelled is not what stands at its normal form.  If no file was stored
under a path with such a step, they disagree on every absolute location that has one and whose
normal form is there. -/
theorem searches_agree_iff (built : environment.Built) {store : MemoryFiles}
    (inMemory : environment.files = store.view) (location : Path) :
    (environment.SearchesAgree location ↔
      (location.isAbsolute = true → .up ∈ location.components →
        store.has location.normalize = store.has location)) ∧
    ((∀ file ∈ store.files, .up ∉ file.1) →
      (environment.SearchesAgree location ↔
        (location.isAbsolute = true → .up ∈ location.components →
          store.has location.normalize = false))) := by
  have general : environment.SearchesAgree location ↔
      (location.isAbsolute = true → .up ∈ location.components →
        store.has location.normalize = store.has location) := by
    cases absolute : location.isAbsolute with
    | false => simp [searchesAgree_of_relative absolute]
    | true =>
        rw [searchesAgree_iff_of_isAbsolute built.bases_ne_nil absolute, inMemory]
        constructor
        · exact fun same _ _ => same
        · intro same
          by_cases back : .up ∈ location.components
          · exact same rfl back
          · exact MemoryFiles.has_of_components
              (Path.components_normalize_of_forward absolute back)
  refine ⟨general, fun plain => general.trans ?_⟩
  refine forall_congr' fun _ => forall_congr' fun back => ?_
  rw [MemoryFiles.has_of_back plain back]

/-- A store with one file. -/
def lone : MemoryFiles := MemoryFiles.empty.insert ⟨"/p/a.js"⟩ "a();"

theorem lone_searches_agree :
    ∃ environment, create lone.view ⟨"/"⟩ ⟨"p"⟩ = .ok environment ∧
      environment.SearchesAgree ⟨"//p/./a.js/"⟩ ∧ ¬ environment.SearchesAgree ⟨"/p/x/../a.js"⟩ := by
  obtain ⟨environment, created⟩ :
      ∃ environment, create lone.view ⟨"/"⟩ ⟨"p"⟩ = .ok environment :=
    ⟨_, if_neg (by decide)⟩
  have agree :=
    searches_agree_iff (.create (by decide) created) (settled_of_create created).files_eq
  refine ⟨environment, created, ?_, ?_⟩
  · exact (agree ⟨"//p/./a.js/"⟩).1.mpr fun _ back => absurd back (by decide +kernel)
  · intro detour
    have missing :=
      ((agree ⟨"/p/x/../a.js"⟩).2 (by decide +kernel)).mp detour rfl (by decide +kernel)
    exact absurd missing (by decide +kernel)

/-- The single search misses the only file when it is spelled with a detour, and the exhaustive one
finds it. -/
theorem detour_missed :
    ∃ environment, create lone.view ⟨"/"⟩ ⟨"p"⟩ = .ok environment ∧
      environment.find? ⟨"/p/x/../a.js"⟩ = none ∧
      (environment.findAll ⟨"/p/x/../a.js"⟩).map Located.path = [⟨"/p/a.js"⟩] := by
  obtain ⟨environment, created⟩ :
      ∃ environment, create lone.view ⟨"/"⟩ ⟨"p"⟩ = .ok environment :=
    ⟨_, if_neg (by decide)⟩
  have evaluated : (create lone.view ⟨"/"⟩ ⟨"p"⟩).toOption.map (fun environment =>
      (environment.find? ⟨"/p/x/../a.js"⟩,
        (environment.findAll ⟨"/p/x/../a.js"⟩).map Located.path)) =
      some (none, [⟨"/p/a.js"⟩]) := by
    decide +kernel
  rw [created] at evaluated
  obtain ⟨single, all⟩ := Prod.mk.inj (Option.some.inj evaluated)
  exact ⟨environment, created, single, all⟩

end Environment

end Splice
