import Mathlib.Data.List.Induction
import Splice.Files.Memory
import Splice.Proofs.Files.Names

/-!
# Stored files

Everything that a store answers is told from the paths at which it holds content: a file is there if
its own path is one, a directory if it goes on to one, and what a directory lists are the components
that follow.  Storing a file changes the content at its own path only.  Hence looking, reading and
listing agree, whatever was stored before.
-/

namespace Splice

namespace MemoryFiles

variable {store : MemoryFiles} {path : Path}

/-! ## Contents -/

theorem mem_keys_iff (key : List Path.Component) :
    key ∈ store.files.map (·.1) ↔ (store.content? key).isSome = true := by
  rw [content?, List.lookup_isSome_iff, List.mem_map]
  simp only [beq_iff_eq, @eq_comm _ key]

theorem readLines_ok {lines : List String} :
    store.readLines path = .ok lines ↔
      ∃ content, store.content? path.components = some content ∧ Text.linesOf content = lines := by
  rw [readLines]
  cases store.content? path.components with
  | none => simp
  | some content => simp

theorem mem_files_of_readLines {lines : List String} (read : store.readLines path = .ok lines) :
    ∃ content, (path.components, content) ∈ store.files ∧ Text.linesOf content = lines := by
  obtain ⟨content, stored, same⟩ := readLines_ok.mp read
  obtain ⟨front, back, parts, _⟩ := List.lookup_eq_some_iff.mp stored
  exact ⟨content, by simp [parts], same⟩

/-- A path without a stored file cannot be read. -/
theorem readLines_of_unstored (unstored : store.content? path.components = none) :
    store.readLines path = .error (.noFile path) := by
  simp only [readLines, unstored]

theorem readLines_eq {edited : MemoryFiles}
    (same : edited.content? path.components = store.content? path.components) :
    edited.readLines path = store.readLines path := by
  rw [readLines, readLines, same]

theorem mem_below_iff {key other : List Path.Component} :
    other ∈ store.below key ↔
      ∃ next rest, other = key ++ next :: rest ∧ (store.content? other).isSome = true := by
  rw [below, List.mem_filter, mem_keys_iff, Bool.and_eq_true, decide_eq_true_iff,
    List.isPrefixOf_iff_prefix]
  constructor
  · rintro ⟨stored, distinct, tail, rfl⟩
    cases tail with
    | nil => exact absurd (List.append_nil key) distinct
    | cons next rest => exact ⟨next, rest, rfl, stored⟩
  · rintro ⟨next, rest, rfl, stored⟩
    exact ⟨stored, by simp, List.prefix_append key _⟩

/-- A directory is implied where the path of a file goes on. -/
theorem isDirectory_iff_goesOn :
    store.isDirectory path = true ↔
      ∃ next rest, (store.content? (path.components ++ next :: rest)).isSome = true := by
  rw [isDirectory, Bool.not_eq_true', List.isEmpty_eq_false_iff_exists_mem]
  simp only [mem_below_iff]
  constructor
  · rintro ⟨_, next, rest, rfl, stored⟩
    exact ⟨next, rest, stored⟩
  · rintro ⟨next, rest, stored⟩
    exact ⟨_, next, rest, rfl, stored⟩

theorem entries_ok {names : List String} :
    store.entries path = .ok names ↔ store.isDirectory path = true ∧
      sortedNames ((store.below path.components).filterMap fun key =>
        (key[path.components.length]?).map Path.Component.text) = names := by
  rw [entries]
  split
  · rename_i directory
    simp [directory]
  · rename_i other
    simp [other]

/-- Something is at a path if it is the path of a file or leads to one. -/
theorem has_iff_leads :
    store.has path = true ↔
      ∃ rest, (store.content? (path.components ++ rest)).isSome = true := by
  rw [has, Bool.or_eq_true, isDirectory_iff_goesOn]
  constructor
  · rintro (stored | ⟨next, rest, stored⟩)
    · exact ⟨[], by simpa using stored⟩
    · exact ⟨next :: rest, stored⟩
  · rintro ⟨rest, stored⟩
    cases rest with
    | nil => exact .inl (by simpa using stored)
    | cons next rest => exact .inr ⟨next, rest, stored⟩

/-- A store sees the components of a path only. -/
theorem has_of_components {left right : Path} (same : left.components = right.components) :
    store.has left = store.has right := by
  rw [Bool.eq_iff_iff, has_iff_leads, has_iff_leads, same]

/-- Stores with files at the same paths have something at the same paths. -/
theorem has_eq {edited : MemoryFiles}
    (paths : ∀ key, (edited.content? key).isSome = (store.content? key).isSome) :
    edited.has = store.has := by
  funext path
  rw [Bool.eq_iff_iff]
  simp only [has_iff_leads, paths]

end MemoryFiles

end Splice
