import Splice.Proofs.Session.Calls

/-!
# Lookups

A reference is looked up at one place after the other, and the first place where something stands
decides.  The places depend on the names known, on the load path and on the extension; the files
only say at which of them something stands.
-/

namespace Splice

/-! ## Trying one after the other -/

/-- The items of a list that are looked at until one is there, which is the last of them. -/
def tried {α : Type} (there : α → Bool) : List α → List α
  | [] => []
  | item :: others => item :: if there item then [] else tried there others

theorem find?_of_tried {α : Type} {there other : α → Bool} {list : List α}
    (same : ∀ item ∈ tried there list, other item = there item) :
    list.find? other = list.find? there := by
  induction list with
  | nil => rfl
  | cons item others ih =>
      have here : other item = there item := same item (by simp [tried])
      cases found : there item with
      | true => simp [here, found]
      | false =>
          have later := ih fun next member => same next (by simp [tried, found, member])
          simp [here, found, later]

theorem mem_tried_of_find? {α : Type} {there : α → Bool} {list : List α} {item : α}
    (found : list.find? there = some item) : item ∈ tried there list := by
  induction list with
  | nil => simp at found
  | cons first others ih =>
      cases here : there first with
      | true =>
          obtain rfl : first = item := by simpa [here] using found
          simp [tried]
      | false =>
          have later : others.find? there = some item := by simpa [here] using found
          simp [tried, here, ih later]

theorem findSome?_ite {α β : Type} (there : α → Bool) (value : α → β) (list : List α) :
    (list.findSome? fun item => if there item then some (value item) else none) =
      (list.find? there).map value := by
  induction list with
  | nil => rfl
  | cons item others ih =>
      cases found : there item with
      | true => simp [found]
      | false => simpa [found] using ih

theorem findSome?_of_mem {α β : Type} {one other : α → Option β} {list : List α}
    (same : ∀ item ∈ list, one item = other item) : list.findSome? one = list.findSome? other := by
  induction list with
  | nil => rfl
  | cons item others ih =>
      obtain ⟨here, later⟩ := List.forall_mem_cons.mp same
      rw [List.findSome?_cons, List.findSome?_cons, here, ih later]

/-! ## Probes -/

/-- A place to look at. -/
structure Probe where
  /-- The path that is asked for. -/
  asked : Path
  /-- The file that is found if something stands there. -/
  found : Located

/-- A file that is asked for by its own path. -/
def Probe.at (located : Located) : Probe := ⟨located.path, located⟩

namespace Files

variable (files : Files)

/-- The file of the first probe where something stands. -/
def first? (probes : List Probe) : Option Located :=
  (probes.find? fun probe => files.has probe.asked).map Probe.found

/-- The paths that are asked for until something stands there. -/
def tried (probes : List Probe) : List Path :=
  (Splice.tried (fun probe => files.has probe.asked) probes).map Probe.asked

theorem first?_append (front back : List Probe) :
    files.first? (front ++ back) = (files.first? front).or (files.first? back) := by
  unfold first?
  rw [List.find?_append]
  cases front.find? fun probe => files.has probe.asked <;> rfl

/-- Looking for each item of a list at its own probes. -/
theorem first?_flatMap {α : Type} (probes : α → List Probe) (list : List α) :
    files.first? (list.flatMap probes) = list.findSome? fun item => files.first? (probes item) := by
  induction list with
  | nil => rfl
  | cons item others ih =>
      rw [List.flatMap_cons, first?_append, ih, List.findSome?_cons]
      cases files.first? (probes item) <;> rfl

theorem first?_map {α : Type} (probe : α → Probe) (list : List α) :
    files.first? (list.map probe) = list.findSome? fun item =>
      if files.has (probe item).asked then some (probe item).found else none := by
  unfold first?
  rw [findSome?_ite (fun item => files.has (probe item).asked), List.find?_map, Option.map_map]
  rfl

theorem first?_at (located : Located) :
    files.first? [.at located] = if files.has located.path then some located else none := by
  rw [first?, List.find?_singleton, apply_ite (Option.map Probe.found)]
  rfl

theorem first?_of_tried {files other : Files} {probes : List Probe}
    (same : ∀ path ∈ files.tried probes, other.has path = files.has path) :
    other.first? probes = files.first? probes := by
  unfold first?
  rw [find?_of_tried]
  intro probe member
  exact same probe.asked (List.mem_map_of_mem member)

end Files

/-! ## References -/

/-- Where a reference leads through the name that it begins with. -/
def Aliases.probe? (aliases : Aliases) (reference : Path) : Option Probe :=
  match reference.components with
  | .name first :: _ => (Table.get? first aliases).map fun location =>
    let rest := reference.dropComponents 1
    .at (if rest.text = "" then .ofPath location else .under location rest)
  | _ => none

theorem Aliases.find?_eq_first? (aliases : Aliases) (files : Files) (reference : Path) :
    aliases.find? files reference = files.first? (aliases.probe? reference).toList := by
  unfold Aliases.find? Aliases.probe?
  cases reference.components with
  | nil => rfl
  | cons step steps =>
      cases step with
      | root | here | up => rfl
      | name first =>
          simp only
          cases Table.get? first aliases with
          | none => rfl
          | some location => exact (files.first?_at _).symm

theorem LoadPath.find?_eq_first? (loadPath : LoadPath) (files : Files) (reference : Path) :
    loadPath.find? files reference =
      files.first? (loadPath.bases.map fun root : Root => .at (.under root reference)) := by
  simp only [LoadPath.find?, Root.find?, Files.first?_map, Probe.at]

namespace Session

/-- Where a reference is looked for, in order. -/
def probes (environment : Environment) (session : Session) (reference : String) : List Probe :=
  let spellings := candidates environment.options reference
  if Path.isAbsolute ⟨reference⟩ then
    spellings.map fun spelling => ⟨⟨spelling⟩, .ofPath ⟨spelling⟩⟩
  else
    (spellings ++ [reference]).flatMap (fun spelling =>
      (session.aliases.probe? ⟨spelling⟩).toList) ++
    spellings.flatMap fun spelling =>
      environment.loadPath.bases.map fun root : Root => .at (.under root ⟨spelling⟩)

/-- Where a required target is looked for, in order. -/
def probesFrom (environment : Environment) (session : Session) (file : Located)
    (target : Target) : List Probe :=
  (if target.delimiter.isQuoted then
    (candidates environment.options target.path).map fun spelling =>
      .at (.under file.directory ⟨spelling⟩)
  else []) ++ session.probes environment target.path

/-- Every spelling begins with the reference. -/
theorem prefix_of_mem_candidates {options : Options} {reference spelling : String}
    (member : spelling ∈ candidates options reference) :
    reference.toList <+: spelling.toList := by
  simp only [candidates] at member
  split at member
  · simp_all
  · split at member
    · simp_all
    · split at member
      · rcases List.mem_cons.mp member with rfl | last
        · simp
        · simp_all
      · simp_all

theorem isAbsolute_of_mem_candidates {options : Options} {reference spelling : String}
    (absolute : Path.isAbsolute ⟨reference⟩ = true)
    (member : spelling ∈ candidates options reference) : Path.isAbsolute ⟨spelling⟩ = true := by
  obtain ⟨rest, spelled⟩ := prefix_of_mem_candidates member
  have front : reference.toList.head? = some '/' := by simpa [Path.isAbsolute] using absolute
  simp [Path.isAbsolute, ← spelled, front]

variable (environment : Environment) (session : Session)

theorem find?_eq_first? (reference : String) :
    session.find? environment reference =
      environment.files.first? (session.probes environment reference) := by
  unfold find? probes
  extract_lets spellings
  split
  · rename_i absolute
    rw [Files.first?_map]
    refine findSome?_of_mem fun spelling member => ?_
    rw [Environment.find?, if_pos (isAbsolute_of_mem_candidates absolute member)]
  · rw [Files.first?_append, Files.first?_flatMap, Files.first?_flatMap]
    simp only [← Aliases.find?_eq_first?, ← LoadPath.find?_eq_first?]
    split
    · rename_i found
      rw [found, Option.some_or]
    · rename_i nothing
      rw [nothing, Option.none_or]

theorem findBeside?_eq_first? (file : Located) (reference : String) :
    findBeside? environment file reference =
      environment.files.first? ((candidates environment.options reference).map fun spelling =>
        .at (.under file.directory ⟨spelling⟩)) := by
  simp only [findBeside?, Files.first?_map, Probe.at]

theorem locate?_eq_first? (file : Located) (target : Target) :
    session.locate? environment file target =
      environment.files.first? (session.probesFrom environment file target) := by
  rw [locate?, probesFrom, Files.first?_append, ← find?_eq_first?]
  cases target.delimiter.isQuoted with
  | false => rfl
  | true =>
      rw [if_pos rfl, if_pos rfl, ← findBeside?_eq_first?]
      cases findBeside? environment file target.path with
      | none => rfl
      | some found => rfl

/-! ## The same searches -/

section Searches

variable {one other : Environment} (loadPath : other.loadPath = one.loadPath)
  (extension : other.options.extension = one.options.extension)

include loadPath extension

theorem probes_eq (reference : String) :
    session.probes other reference = session.probes one reference := by
  have spellings : candidates other.options reference = candidates one.options reference := by
    rw [candidates, candidates, extension]
  rw [probes, probes, loadPath, spellings]

theorem probesFrom_eq (file : Located) (target : Target) :
    session.probesFrom other file target = session.probesFrom one file target := by
  have spellings : candidates other.options target.path = candidates one.options target.path := by
    rw [candidates, candidates, extension]
  rw [probesFrom, probesFrom, spellings, probes_eq session loadPath extension]

end Searches

end Session

end Splice
