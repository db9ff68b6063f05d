import Mathlib.Logic.Relation
import Splice.Project
import Splice.Proofs.Outcome

/-!
# Writing to a file tree

Whatever is written to a tree, it only grows: directories stay directories, files stay files, and
every walk that was possible leads to the same place.  A file that has been written holds its text.
-/

namespace Splice

theorem lookup_cons {α β : Type} [BEq α] [LawfulBEq α] [DecidableEq α] (other key : α) (value : β)
    (entries : List (α × β)) :
    ((key, value) :: entries).lookup other =
      if other = key then some value else entries.lookup other := by
  rw [List.lookup_cons]
  by_cases same : other = key
  · simp [same]
  · rw [if_neg same, beq_eq_false_iff_ne.mpr same]

namespace FileTree

variable {tree before after : FileTree}

/-! ## Items -/

theorem lookup_put (place other : Place) (item : Item) (items : List (Place × Item)) :
    (put place item items).lookup other = if other = place then some item else items.lookup other := by
  induction items with
  | nil => exact lookup_cons other place item []
  | cons entry items ih =>
      obtain ⟨first, old⟩ := entry
      rw [put, lookup_cons]
      by_cases here : first = place
      · subst first
        rw [if_pos rfl, lookup_cons]
        split <;> rfl
      · rw [if_neg here, lookup_cons, ih]
        by_cases same : other = place
        · simp only [if_pos same, if_neg fun reached : other = first => here (reached ▸ same)]
        · simp only [if_neg same]

@[simp]
theorem item?_nil : tree.item? [] = some .directory := if_pos rfl

theorem item?_set {place : Place} (below : place ≠ []) (other : Place) (item : Item) :
    (tree.set place item).item? other = if other = place then some item else tree.item? other := by
  rw [item?, item?, set, lookup_put]
  by_cases top : other = []
  · simp [top, Ne.symm below]
  · simp [top]

theorem put_of_lookup {place : Place} {items : List (Place × Item)}
    (nothing : items.lookup place = none) (item : Item) :
    put place item items = items ++ [(place, item)] := by
  induction items with
  | nil => rfl
  | cons entry items ih =>
      obtain ⟨other, old⟩ := entry
      rw [lookup_cons] at nothing
      split at nothing
      · cases nothing
      · rename_i distinct
        rw [put, if_neg (Ne.symm distinct), ih nothing]
        rfl

/-! ## Changes -/

/-- Every name is a step that some path can take. -/
def Spelled (place : Place) : Prop := ∀ name ∈ place, (Path.Component.name name).IsInner

/-- Every item of a tree has such a place. -/
def Named (tree : FileTree) : Prop := ∀ entry ∈ tree.items, Spelled entry.1

/-- One change of a tree: a directory where nothing stood, or a file where no directory stood. -/
inductive Changes : FileTree → FileTree → Prop
  | directory {tree : FileTree} {place : Place} : Spelled place → tree.item? place = none →
      Changes tree (tree.set place .directory)
  | file {tree : FileTree} {place : Place} (content : Content) : Spelled place →
      tree.item? place ≠ some .directory → Changes tree (tree.set place (.file content))

/-- Any number of changes. -/
def Grows : FileTree → FileTree → Prop := Relation.ReflTransGen Changes

theorem Changes.item_directory (changes : Changes before after) {place : Place}
    (there : before.item? place = some .directory) : after.item? place = some .directory := by
  cases changes with
  | @directory made _ nothing =>
      have below : made ≠ [] := fun top => by simp [top] at nothing
      rw [item?_set below]
      split
      · rfl
      · exact there
  | @file written content _ vacant =>
      have below : written ≠ [] := fun top => vacant (by simp [top])
      have apart : place ≠ written := fun same => vacant (same ▸ there)
      rw [item?_set below, if_neg apart, there]

theorem Changes.item_file (changes : Changes before after) {place : Place} {content : Content}
    (there : before.item? place = some (.file content)) :
    ∃ other, after.item? place = some (.file other) := by
  cases changes with
  | @directory made _ nothing =>
      have below : made ≠ [] := fun top => by simp [top] at nothing
      have apart : place ≠ made := fun same => by simp [same ▸ there] at nothing
      exact ⟨content, by rw [item?_set below, if_neg apart, there]⟩
  | @file written other _ vacant =>
      have below : written ≠ [] := fun top => vacant (by simp [top])
      by_cases same : place = written
      · exact ⟨other, by rw [item?_set below, if_pos same]⟩
      · exact ⟨content, by rw [item?_set below, if_neg same, there]⟩

/-- A new item is counted, and a file that replaces one is counted in its place. -/
theorem Changes.stored_le (changes : Changes before after) (directory : Path) :
    (before.view directory).stored.length ≤ (after.view directory).stored.length := by
  cases changes with
  | @directory made _ nothing =>
      have below : made ≠ [] := fun top => by simp [top] at nothing
      rw [item?, if_neg below] at nothing
      simp [view, set, put_of_lookup nothing, List.filterMap_append]
  | @file written content _ _ =>
      simp only [view, set]
      induction before.items with
      | nil => simp [put]
      | cons entry items ih =>
          obtain ⟨other, old⟩ := entry
          simp only [put]
          split
          · cases old <;> simp
          · cases old <;> simpa [List.filterMap_cons] using ih

theorem Changes.named (changes : Changes before after) (named : before.Named) : after.Named := by
  have put_spelled {place : Place} (item : Item) (inner : Spelled place)
      (items : List (Place × Item)) (named : ∀ entry ∈ items, Spelled entry.1) :
      ∀ entry ∈ put place item items, Spelled entry.1 := by
    induction items with
    | nil => simpa [put] using inner
    | cons entry items ih =>
        obtain ⟨here, later⟩ := List.forall_mem_cons.mp named
        rw [put]
        split
        · exact List.forall_mem_cons.mpr ⟨inner, later⟩
        · exact List.forall_mem_cons.mpr ⟨here, ih later⟩
  cases changes with
  | directory inner _ => exact put_spelled _ inner _ named
  | file _ inner _ => exact put_spelled _ inner _ named

namespace Grows

theorem item_directory (grows : Grows before after) {place : Place}
    (there : before.item? place = some .directory) : after.item? place = some .directory := by
  induction grows with
  | refl => exact there
  | tail _ changes ih => exact changes.item_directory ih

theorem item_file (grows : Grows before after) {place : Place} {content : Content}
    (there : before.item? place = some (.file content)) :
    ∃ other, after.item? place = some (.file other) := by
  induction grows with
  | refl => exact ⟨content, there⟩
  | tail _ changes ih =>
      obtain ⟨middle, between⟩ := ih
      exact changes.item_file between

theorem stored_le (grows : Grows before after) (directory : Path) :
    (before.view directory).stored.length ≤ (after.view directory).stored.length := by
  induction grows with
  | refl => exact Nat.le_refl _
  | tail _ changes ih => exact Nat.le_trans ih (changes.stored_le directory)

theorem named (grows : Grows before after) (named : before.Named) : after.Named := by
  induction grows with
  | refl => exact named
  | tail _ changes ih => exact changes.named ih

end Grows

/-! ## Walks -/

theorem walk_append (place : Place) (front back : List Path.Component) :
    tree.walk place (front ++ back) =
      (tree.walk place front >>= fun middle => tree.walk middle back) := by
  induction front generalizing place with
  | nil => rfl
  | cons step front ih =>
      rw [List.cons_append, walk, walk]
      split
      · rfl
      · rfl
      · exact ih _

/-- Where directories stay directories, every walk leads to the same place. -/
theorem walk_of_directories
    (directories : ∀ {place : Place}, before.item? place = some .directory →
      after.item? place = some .directory)
    {place found : Place} {steps : List Path.Component}
    (walked : before.walk place steps = .ok found) : after.walk place steps = .ok found := by
  induction steps generalizing place with
  | nil => exact walked
  | cons step steps ih =>
      rw [walk] at walked
      split at walked
      · cases walked
      · cases walked
      · rename_i here
        rw [walk, directories here]
        exact ih walked

/-- The names among the steps are steps that some path can take. -/
def Takeable (steps : List Path.Component) : Prop :=
  ∀ name, .name name ∈ steps → (Path.Component.name name).IsInner

theorem takeable_components (path : Path) : Takeable path.components := by
  have spelled := path.spelled_components
  generalize path.components = components at spelled
  unfold Path.Spelled at spelled
  intro name member
  split at spelled
  · exact spelled _ (by simpa using member)
  · exact spelled _ (by simpa using member)
  · exact spelled _ member

theorem takeable_steps (path : Path) : Takeable (steps path) := by
  intro name member
  rcases List.mem_append.mp member with inside | last
  · exact takeable_components path name inside
  · split at last <;> simp at last

theorem spelled_of_walk {place found : Place} {steps : List Path.Component}
    (takeable : Takeable steps) (spelled : Spelled place)
    (walked : tree.walk place steps = .ok found) : Spelled found := by
  induction steps generalizing place with
  | nil => exact Except.ok.inj walked ▸ spelled
  | cons step steps ih =>
      rw [walk] at walked
      split at walked
      · cases walked
      · cases walked
      · refine ih (fun name member => takeable name (by simp [member])) ?_ walked
        cases step with
        | root => simp [Spelled, move]
        | here => exact spelled
        | up => exact fun name member => spelled name ((List.dropLast_sublist _).subset member)
        | name text =>
            intro name member
            rcases List.mem_append.mp member with above | last
            · exact spelled name above
            · obtain rfl := List.mem_singleton.mp last
              exact takeable _ (by simp)

/-! ## Finding -/

theorem find_ok {path : Path} {item : Item} :
    tree.find path = .ok item ↔ ∃ place, tree.locate path = .ok place ∧
      tree.item? place = some item ∧ (endsOpen path = true → item = .directory) := by
  rw [find, bind_ok]
  refine exists_congr fun place => and_congr_right fun _ => ?_
  cases tree.item? place with
  | none => simp
  | some there =>
      cases there with
      | directory => simp only [Except.ok.injEq, Option.some.injEq]; grind
      | file content => simp only [Option.some.injEq]; grind

theorem has_iff {path : Path} : tree.has path = true ↔ ∃ item, tree.find path = .ok item := by
  unfold has
  split <;> simp_all

theorem has_view (directory path : Path) :
    (tree.view directory).has path = tree.has (directory.join path) := by
  rw [view]

theorem Grows.has (grows : Grows before after) {path : Path} (there : before.has path = true) :
    after.has path = true := by
  obtain ⟨item, found⟩ := has_iff.mp there
  obtain ⟨place, located, stands, ending⟩ := find_ok.mp found
  have walked : after.locate path = .ok place := walk_of_directories grows.item_directory located
  refine has_iff.mpr ?_
  cases item with
  | directory =>
      exact ⟨.directory, find_ok.mpr ⟨place, walked, grows.item_directory stands, ending⟩⟩
  | file content =>
      obtain ⟨other, now⟩ := grows.item_file stands
      exact ⟨.file other, find_ok.mpr ⟨place, walked, now, by simpa using ending⟩⟩

/-- Where all items are still there, whatever is found is still found. -/
theorem find_of_items (kept : ∀ entry ∈ before.items, after.item? entry.1 = some entry.2)
    {path : Path} {item : Item} (found : before.find path = .ok item) : after.find path = .ok item := by
  have items {place : Place} {item : Item} (there : before.item? place = some item) :
      after.item? place = some item := by
    by_cases top : place = []
    · subst top
      rw [item?_nil] at there ⊢
      exact there
    · rw [item?, if_neg top] at there
      obtain ⟨front, back, parts, _⟩ := List.lookup_eq_some_iff.mp there
      exact kept (place, item) (by simp [parts])
  obtain ⟨place, located, there, ending⟩ := find_ok.mp found
  exact find_ok.mpr ⟨place, walk_of_directories items located, items there, ending⟩

/-! ## Operations -/

theorem grows_makeDirectory {steps : List Path.Component} (takeable : Takeable steps)
    (made : tree.makeDirectory steps = .ok after) : Grows tree after := by
  rw [makeDirectory, bind_ok] at made
  obtain ⟨place, walked, made⟩ := made
  split at made
  · rename_i nothing
    obtain rfl := Except.ok.inj made
    exact .single (.directory (spelled_of_walk takeable (by simp [Spelled]) walked) nothing)
  · cases made

theorem grows_makeDirectories {reversed : List Path.Component} (takeable : Takeable reversed)
    (made : tree.makeDirectories reversed = .ok after) : Grows tree after := by
  induction reversed generalizing after with
  | nil => exact Except.ok.inj made ▸ .refl
  | cons last reversed ih =>
      have whole : Takeable (last :: reversed).reverse := fun name member =>
        takeable name (List.mem_reverse.mp member)
      rw [makeDirectories] at made
      split at made
      · rename_i created
        exact Except.ok.inj made ▸ grows_makeDirectory whole created
      · obtain ⟨middle, parents, made⟩ := bind_ok.mp made
        have grown := ih (fun name member => takeable name (by simp [member])) parents
        split at made
        · rename_i created
          exact Except.ok.inj made ▸ grown.trans (grows_makeDirectory whole created)
        · split at made
          · exact Except.ok.inj made ▸ grown
          · cases made
      · split at made
        · exact Except.ok.inj made ▸ .refl
        · cases made

theorem write_ok {path : Path} {text : String} (written : tree.write path text = .ok after) :
    Changes tree after ∧ after.find path = .ok (.file (.text text)) := by
  rw [write, bind_ok] at written
  obtain ⟨place, located, written⟩ := written
  have spelled := spelled_of_walk (takeable_steps path) (by simp [Spelled]) located
  split at written
  · cases written
  rename_i closed
  split at written
  · cases written
  rename_i vacant
  obtain rfl := Except.ok.inj written
  have change : Changes tree (tree.set place (.file (.text text))) := .file _ spelled vacant
  have below : place ≠ [] := fun top => vacant (by simp [top])
  refine ⟨change, find_ok.mpr ⟨place, walk_of_directories change.item_directory located, ?_, ?_⟩⟩
  · rw [item?_set below, if_pos rfl]
  · exact fun ends => absurd ends closed

theorem holds_of_find {path : Path} {text : String}
    (found : tree.find path = .ok (.file (.text text))) : tree.holds path text = true := by
  simp [holds, readText, read, found, bind, Except.bind, Content.strict?]

end FileTree

/-- Writing a result makes the tree grow, unless it holds the result; afterwards it does. -/
theorem Resolution.writeTo_ok {resolution : Resolution} {tree : FileTree} {path : Path}
    {written : Option FileTree} (wrote : resolution.writeTo tree path = .ok written) :
    FileTree.Grows tree (written.getD tree) ∧
      (written.getD tree).holds path resolution.concatenate = true := by
  unfold writeTo at wrote
  extract_lets text at wrote
  split at wrote
  · rename_i held
    obtain rfl := Except.ok.inj wrote
    exact ⟨.refl, held⟩
  · split at wrote
    · cases wrote
    rename_i made parents
    split at wrote
    · cases wrote
    rename_i after added
    obtain rfl := Except.ok.inj wrote
    have takeable : FileTree.Takeable path.components.dropLast.reverse := fun name member =>
      FileTree.takeable_components path name
        ((List.dropLast_sublist _).subset (List.mem_reverse.mp member))
    obtain ⟨change, found⟩ := FileTree.write_ok added
    exact ⟨(FileTree.grows_makeDirectories takeable parents).tail change, FileTree.holds_of_find found⟩

end Splice
