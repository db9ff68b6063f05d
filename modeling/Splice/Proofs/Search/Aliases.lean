import Splice.Directive
import Splice.Files.Memory
import Splice.Proofs.Files.Names
import Splice.Proofs.Table
import Splice.Search.Aliases

/-!
# Names of locations

A reference reaches a location through its first component.  A name that is one step of a path
therefore leads to the location it was registered for, whatever else is registered later.  Any other
name can be registered as well, but no reference has it as its first component, and no search is
changed by it.
-/

namespace Splice

namespace Path

/-- The texts that are one step of a path. -/
theorem isInner_name_iff {name : String} :
    (Component.name name).IsInner ↔
      '/' ∉ name.toList ∧ name ≠ "" ∧ name ≠ "." ∧ name ≠ ".." := by
  have here : name.toList = ['.'] ↔ name = "." := by
    rw [← String.toList_inj]
    rfl
  have up : name.toList = ['.', '.'] ↔ name = ".." := by
    rw [← String.toList_inj]
    rfl
  simp only [Component.IsInner, Component.text, innerComponent, here, up, String.toList_eq_nil_iff]
  split_ifs with silent back
  · simpa using fun _ some_text other => absurd silent (not_or.mpr ⟨some_text, other⟩)
  · simp [back]
  · simpa [back] using fun _ => not_or.mp silent

theorem segments_name {name : String} (inner : (Component.name name).IsInner) :
    segments ⟨name⟩ = [(name.toList, some (.name name))] := by
  obtain ⟨clean, some_text, other, _⟩ := isInner_name_iff.mp inner
  have spelled : name.toList ≠ [] := by simpa using some_text
  have first : headComponent name.toList = some (.name name) := by
    have later : name.toList ≠ ['.'] := fun here => other (String.toList_inj.mp here)
    rw [headComponent, if_neg spelled, if_neg later]
    exact inner.2
  rw [segments_eq spelled (List.splitOn_eq_singleton clean), first, List.map_nil]

theorem components_name {name : String} (inner : (Component.name name).IsInner) :
    components ⟨name⟩ = [.name name] := by
  rw [components, segments_name inner]
  rfl

/-- Nothing is left of a single step behind its first component. -/
theorem dropComponents_name {name : String} (inner : (Component.name name).IsInner) :
    dropComponents 1 ⟨name⟩ = ⟨""⟩ := by
  rw [dropComponents, segments_name inner]
  rfl

/-- The name that opens a path is one step. -/
theorem isInner_of_components {path : Path} {first : String} {others : List Component}
    (components : path.components = .name first :: others) : (Component.name first).IsInner := by
  have spelled := spelled_components path
  rw [components] at spelled
  exact spelled (.name first) (by simp)

end Path

namespace Aliases

/-- A search depends on the locations of single steps only. -/
theorem find?_of_steps {one other : Aliases}
    (same : ∀ {name : String}, (Path.Component.name name).IsInner →
      Table.get? name one = Table.get? name other) (files : Files) (reference : Path) :
    one.find? files reference = other.find? files reference := by
  unfold find?
  cases components : reference.components with
  | nil => rfl
  | cons step steps =>
      cases step with
      | root | here | up => rfl
      | name first => simp only [same (Path.isInner_of_components components)]

theorem find?_nil (files : Files) (reference : Path) : Aliases.find? [] files reference = none := by
  unfold find?
  split <;> rfl

/-- A single step leads to its location if something is there. -/
theorem find?_name {aliases : Aliases} {files : Files} {name : String} {location : Path}
    (inner : (Path.Component.name name).IsInner) (known : Table.get? name aliases = some location)
    (there : files.has location.normalize = true) :
    aliases.find? files ⟨name⟩ = some (.ofPath location) := by
  simp only [find?, Path.components_name inner, known, Path.dropComponents_name inner, if_true,
    Located.path_ofPath, there]

/-- A single step leads to the location it was registered for, whatever other names are registered
later. -/
theorem find?_registered {files : Files} {name : String} {location : Path}
    (inner : (Path.Component.name name).IsInner) (there : files.has location.normalize = true)
    (aliases : Aliases) {later : Table Path} (others : ∀ entry ∈ later, entry.1 ≠ name) :
    Aliases.find? ((aliases.insert name location).overlay later) files ⟨name⟩ =
      some (.ofPath location) := by
  refine find?_name inner ?_ there
  have absent : Table.get? name later.reverse = none :=
    Table.get?_eq_none_iff.mpr fun entry member => others entry (List.mem_reverse.mp member)
  rw [Table.get?_overlay, absent, Option.none_or, Table.get?_insert, if_pos rfl]

/-- A name that is no single step is never looked up. -/
theorem find?_of_not_step {name : String} (outside : ¬ (Path.Component.name name).IsInner)
    (aliases : Aliases) (files : Files) (location reference : Path) (later : Table Path) :
    Aliases.find? ((aliases.insert name location).overlay later) files reference =
      Aliases.find? (aliases.overlay later) files reference := by
  refine find?_of_steps (fun {other} inner => ?_) files reference
  have apart : name ≠ other := fun same => outside (same ▸ inner)
  rw [Table.get?_overlay, Table.get?_overlay, Table.get?_insert, if_neg apart]

/-- A store with a location to name. -/
def kit : MemoryFiles := MemoryFiles.empty.insert ⟨"/p/kit/a.js"⟩ "a();"

/-- The names that lead to whatever location they are registered for, as long as they are not
registered again, are the single steps of paths.  Registering any other name changes no search, also
if names are registered later. -/
theorem leads_iff_step (name : String) :
    ((∀ (aliases : Aliases) (files : Files) (location : Path), location.isAbsolute = true →
        location.normalize = location → files.has location = true →
        ∀ later : Table Path, (∀ entry ∈ later, entry.1 ≠ name) →
          ∃ found, Aliases.find? ((aliases.insert name location).overlay later) files ⟨name⟩ =
            some found ∧ found.path = location) ↔
      '/' ∉ name.toList ∧ name ≠ "" ∧ name ≠ "." ∧ name ≠ "..") ∧
    (¬ ('/' ∉ name.toList ∧ name ≠ "" ∧ name ≠ "." ∧ name ≠ "..") →
      ∀ (aliases : Aliases) (files : Files) (location reference : Path) (later : Table Path),
        Aliases.find? ((aliases.insert name location).overlay later) files reference =
          Aliases.find? (aliases.overlay later) files reference) := by
  rw [← Path.isInner_name_iff]
  refine ⟨⟨fun leads => ?_, fun inner => ?_⟩, find?_of_not_step⟩
  · -- Where no other name is registered, nothing else could lead to the location.
    by_contra outside
    have there : kit.view.has ⟨"/p/kit"⟩ = true := by decide +kernel
    obtain ⟨found, search, _⟩ :=
      leads [] kit.view ⟨"/p/kit"⟩ rfl (by decide +kernel) there [] (by simp)
    rw [find?_of_not_step outside] at search
    cases (find?_nil kit.view ⟨name⟩).symm.trans search
  · intro aliases files location _ normal there later others
    refine ⟨.ofPath location, find?_registered inner (by rwa [normal]) aliases others, ?_⟩
    rw [Located.path_ofPath, normal]

/-- A name of two steps can be declared and registered, and does not lead to its location. -/
theorem twoSteps_lead_nowhere :
    Directive.ofPayload? "= provide \"kit\" as \"ui/kit\"".toList =
      some (.provide "kit" (some "ui/kit")) ∧
    kit.has ⟨"/p/kit"⟩ = true ∧
    Table.get? "ui/kit" (Table.insert "ui/kit" ⟨"/p/kit"⟩ []) = some (⟨"/p/kit"⟩ : Path) ∧
    Aliases.find? (Table.insert "ui/kit" ⟨"/p/kit"⟩ []) kit.view ⟨"ui/kit"⟩ = none := by
  decide +kernel

end Aliases

end Splice
