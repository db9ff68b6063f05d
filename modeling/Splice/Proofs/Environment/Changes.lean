import Splice.Environment
import Splice.Files.Memory

/-!
# Changes of an environment

However the changes of an environment are mixed, the state that they lead to is settled by the last
options, the last configured constants and the locations in the order of their registration.  The
constants are always those that the present options find under the present load path.
-/

namespace Splice

/-- A change of an environment that has been created. -/
inductive Change where
  | loadPath (locations : List Path)
  | constants (constants : Mapping Json)
  | options (options : Options)
  | register (location : Path)
  | reload

namespace Change

/-- The environment after a change. -/
def apply (environment : Environment) : Change → Environment
  | loadPath locations => environment.withLoadPath locations
  | constants given => environment.withConstants given
  | options given => environment.withOptions given
  | register location => environment.register location
  | reload => environment.reload

/-- The options that a change gives. -/
def options? : Change → Option Options
  | options given => some given
  | _ => none

/-- The constants that a change gives. -/
def constants? : Change → Option (Mapping Json)
  | constants given => some given
  | _ => none

/-- The locations that a change registers. -/
def locations : Change → List Path
  | loadPath locations => locations
  | register location => [location]
  | _ => []

end Change

namespace LoadPath

/-- The load path of a root and of the locations registered after it. -/
def ofLocations (root : Root) (locations : List Path) : LoadPath :=
  locations.foldl (fun loadPath location => loadPath.register (.under root location))
    (LoadPath.empty.register root)

theorem ofLocations_concat (root : Root) (locations : List Path) (location : Path) :
    ofLocations root (locations ++ [location]) =
      (ofLocations root locations).register (.under root location) := by
  rw [ofLocations, ofLocations, List.foldl_append, List.foldl_cons, List.foldl_nil]

end LoadPath

namespace Environment

/-! ## Settled environments -/

section Settled

variable (environment : Environment) (files : Files) (root : Root) (options : Options)
  (configured : Mapping Json) (locations : List Path)

/-- An environment has taken these files and settings, whatever constants it has found. -/
structure Given : Prop where
  files_eq : environment.files = files
  root_eq : environment.root = root
  options_eq : environment.options = options
  loadPath_eq : environment.loadPath = LoadPath.ofLocations root locations
  resource_eq : environment.pool.resource = options.constantsFile
  configured_eq : environment.pool.configured = configured

/-- An environment has taken these files and settings, and its constants are those found with
them. -/
structure Settled : Prop extends Given environment files root options configured locations where
  found_eq : environment.pool.found =
    Constants.ofRoots files options.constantsFile (LoadPath.ofLocations root locations)
  merged_eq : environment.pool.merged = environment.pool.found.overlay configured

end Settled

variable {environment : Environment} {files : Files} {root : Root} {options : Options}
  {configured : Mapping Json} {locations : List Path}

/-- Looking at the constants again settles whatever was given. -/
theorem Given.reload (given : Given environment files root options configured locations) :
    Settled environment.reload files root options configured locations where
  files_eq := given.files_eq
  root_eq := given.root_eq
  options_eq := given.options_eq
  loadPath_eq := given.loadPath_eq
  resource_eq := given.resource_eq
  configured_eq := given.configured_eq
  found_eq := by
    rw [← given.files_eq, ← given.resource_eq, ← given.loadPath_eq]
    rfl
  merged_eq := by
    rw [← given.configured_eq]
    rfl

theorem Given.addRoot (given : Given environment files root options configured locations)
    (location : Path) :
    Given (environment.addRoot (environment.rootOf location)) files root options configured
      (locations ++ [location]) where
  files_eq := given.files_eq
  root_eq := given.root_eq
  options_eq := given.options_eq
  loadPath_eq := by
    rw [LoadPath.ofLocations_concat, ← given.loadPath_eq, ← given.root_eq]
    rfl
  resource_eq := given.resource_eq
  configured_eq := given.configured_eq

theorem Given.addRoots (given : Given environment files root options configured locations)
    (added : List Path) :
    Given (added.foldl
        (fun environment location => environment.addRoot (environment.rootOf location)) environment)
      files root options configured (locations ++ added) := by
  induction added generalizing environment locations with
  | nil =>
      rw [List.append_nil]
      exact given
  | cons location added ih =>
      have next := ih (given.addRoot location)
      rw [List.append_assoc] at next
      exact next

theorem Given.withLoadPath (given : Given environment files root options configured locations)
    (added : List Path) :
    Settled (environment.withLoadPath added) files root options configured (locations ++ added) :=
  (given.addRoots added).reload

theorem Given.withConstants (given : Given environment files root options configured locations)
    (constants : Mapping Json) :
    Settled (environment.withConstants constants) files root options constants locations :=
  Given.reload
    { given with
      resource_eq := congrArg Options.constantsFile given.options_eq
      configured_eq := rfl }

theorem Given.withOptions (given : Given environment files root options configured locations)
    (chosen : Options) :
    Settled (environment.withOptions chosen) files root chosen configured locations :=
  Given.reload { given with options_eq := rfl, resource_eq := rfl }

/-- A change settles an environment anew, with what it gives in place of what was given before. -/
theorem Given.apply (given : Given environment files root options configured locations)
    (change : Change) :
    Settled (change.apply environment) files root (change.options?.getD options)
      (change.constants?.getD configured) (locations ++ change.locations) := by
  cases change with
  | loadPath added => exact given.withLoadPath added
  | register location => exact (given.addRoot location).reload
  | constants constants =>
      have settled := given.withConstants constants
      rwa [← List.append_nil locations] at settled
  | options chosen =>
      have settled := given.withOptions chosen
      rwa [← List.append_nil locations] at settled
  | reload =>
      have settled := given.reload
      rwa [← List.append_nil locations] at settled

theorem settled_of_create {workingDirectory path : Path}
    (created : create files workingDirectory path = .ok environment) :
    Settled environment files (.under (workingDirectory.absolute path) ⟨"."⟩) {} .empty [] := by
  unfold create at created
  split at created
  · cases created
  · obtain rfl := Except.ok.inj created
    rw [ofRoot]
    generalize Root.under (workingDirectory.absolute path) ⟨"."⟩ = root
    exact Given.reload ⟨rfl, rfl, rfl, rfl, rfl, rfl⟩

/-! ## Sequences of changes -/

/-- What is given last counts, and what was there before the first one is the default. -/
theorem last_cons {α β : Type} (given? : α → Option β) (first : α) (others : List α) (default : β) :
    ((first :: others).filterMap given?).getLast?.getD default =
      (others.filterMap given?).getLast?.getD ((given? first).getD default) := by
  cases here : given? first with
  | none => rw [List.filterMap_cons_none here, Option.getD_none]
  | some value =>
      rw [List.filterMap_cons_some here, List.getLast?_cons, Option.getD_some, Option.getD_some]

theorem Settled.changes (settled : Settled environment files root options configured locations)
    (changes : List Change) :
    Settled (changes.foldl Change.apply environment) files root
      ((changes.filterMap Change.options?).getLast?.getD options)
      ((changes.filterMap Change.constants?).getLast?.getD configured)
      (locations ++ changes.flatMap Change.locations) := by
  induction changes generalizing environment options configured locations with
  | nil =>
      rw [List.flatMap_nil, List.append_nil]
      exact settled
  | cons change changes ih =>
      have final := ih (settled.toGiven.apply change)
      rw [last_cons, last_cons, List.flatMap_cons, ← List.append_assoc]
      exact final

/-- Whatever the sequence of changes after an environment was created: its options and its
configured constants are the last ones given, by default none; its load path is that of its root and
of all locations in the order of their registration; and its pool names the resource of its options,
holds what that resource gives under the load path, and puts the configured constants on top. -/
theorem state_after_changes {workingDirectory path : Path}
    (created : create files workingDirectory path = .ok environment) (changes : List Change) :
    let final := changes.foldl Change.apply environment
    final.files = files ∧
    final.root = .under (workingDirectory.absolute path) ⟨"."⟩ ∧
    final.options = (changes.filterMap Change.options?).getLast?.getD {} ∧
    final.pool.configured = (changes.filterMap Change.constants?).getLast?.getD .empty ∧
    final.loadPath = (changes.flatMap Change.locations).foldl
      (fun loadPath location => loadPath.register (.under final.root location))
      (LoadPath.empty.register final.root) ∧
    final.pool.resource = final.options.constantsFile ∧
    final.pool.found = Constants.ofRoots files final.options.constantsFile final.loadPath ∧
    final.constants = Table.overlay final.pool.found final.pool.configured := by
  intro final
  have settled := (settled_of_create created).changes changes
  refine ⟨settled.files_eq, settled.root_eq, settled.options_eq, settled.configured_eq, ?_, ?_, ?_,
    ?_⟩
  · rw [settled.root_eq]
    exact settled.loadPath_eq
  · rw [settled.options_eq]
    exact settled.resource_eq
  · rw [settled.options_eq, settled.loadPath_eq]
    exact settled.found_eq
  · rw [settled.configured_eq]
    exact congrArg Mapping.table settled.merged_eq

/-- Two resources of constants, of which the options name one at a time. -/
def twoResources : MemoryFiles :=
  (MemoryFiles.empty.insert ⟨"/p/values.yml"⟩ "Z: 1").insert ⟨"/p/a/constants.yml"⟩ "V: 2"

/-- Two locations, of which one is registered twice, with options and constants given in between. -/
def mixedChanges : List Change :=
  [.options { constantsFile := "values.yml" }, .register ⟨"a"⟩, .constants (.ofList [("U", .null)]),
    .loadPath [⟨"b"⟩, ⟨"a"⟩], .options { extension := none }, .reload,
    .constants (.ofList [("W", .null)])]

theorem mixedChanges_state :
    ∃ environment final : Environment,
      create twoResources.view ⟨"/"⟩ ⟨"p"⟩ = .ok environment ∧
      mixedChanges.foldl Change.apply environment = final ∧
      final.options = { extension := none } ∧ final.pool.configured = .ofList [("W", .null)] ∧
      final.loadPath.roots = [⟨"/p/a"⟩, ⟨"/p/b"⟩, ⟨"/p"⟩] ∧
      final.constants.map Prod.fst = ["V", "W"] := by
  obtain ⟨environment, created⟩ :
      ∃ environment, create twoResources.view ⟨"/"⟩ ⟨"p"⟩ = .ok environment :=
    ⟨_, if_neg (by decide)⟩
  obtain ⟨_, root, options, configured, loadPath, _, found, merged⟩ :=
    state_after_changes created mixedChanges
  refine ⟨environment, _, created, rfl, options, configured, ?_, ?_⟩
  · rw [loadPath, root]
    decide +kernel
  · rw [merged, found, options, configured, loadPath, root]
    decide +kernel

end Environment

end Splice
