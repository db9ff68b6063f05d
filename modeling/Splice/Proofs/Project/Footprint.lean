import Splice.Command.Run
import Splice.Proofs.Environment.Changes
import Splice.Proofs.Files.Names
import Splice.Proofs.Session.Agreement
import Splice.Proofs.Session.Growth
import Splice.Proofs.Session.Lookups

/-!
# The footprint of a project

What loading and resolving a project looks at: the places of its configuration file, the constants
under its roots, the places that its references are looked for, and the files that it reads.  In a
tree that has grown but in which the same stands at all these paths, the project is loaded with the
same settings and resolved with the same outcome.
-/

namespace Splice

namespace FileTree

/-! ## Paths at which trees agree -/

/-- The same item stands at a path in both trees, or nothing does in either. -/
def SameAt (before after : FileTree) (path : Path) : Prop :=
  (after.find path).toOption = (before.find path).toOption

instance (before after : FileTree) (path : Path) : Decidable (before.SameAt after path) :=
  inferInstanceAs (Decidable (_ = _))

namespace SameAt

variable {before after : FileTree} {path : Path}

theorem symm (same : before.SameAt after path) : after.SameAt before path := Eq.symm same

theorem find_ok (same : before.SameAt after path) {item : Item}
    (found : before.find path = .ok item) : after.find path = .ok item := by
  rw [SameAt, found] at same
  exact ok_of_toOption same

theorem has_eq (same : before.SameAt after path) : after.has path = before.has path := by
  rw [Bool.eq_iff_iff, has_iff, has_iff]
  exact exists_congr fun _ => ⟨same.symm.find_ok, same.find_ok⟩

theorem isFile_eq (same : before.SameAt after path) : after.isFile path = before.isFile path := by
  have file_iff (tree : FileTree) :
      tree.isFile path = true ↔ ∃ content, tree.find path = .ok (.file content) := by
    unfold isFile
    split <;> simp_all
  rw [Bool.eq_iff_iff, file_iff, file_iff]
  exact exists_congr fun _ => ⟨same.symm.find_ok, same.find_ok⟩

theorem read_ok (same : before.SameAt after path) {content : Content}
    (read : before.read path = .ok content) : after.read path = .ok content := by
  obtain ⟨item, found, taken⟩ := bind_ok.mp read
  exact bind_ok.mpr ⟨item, same.find_ok found, taken⟩

theorem readText_ok (same : before.SameAt after path) {text : String}
    (read : before.readText path = .ok text) : after.readText path = .ok text := by
  obtain ⟨content, found, taken⟩ := bind_ok.mp read
  exact bind_ok.mpr ⟨content, same.read_ok found, taken⟩

theorem readLines_ok (same : before.SameAt after path) {lines : List String}
    (read : before.readLines path = .ok lines) : after.readLines path = .ok lines := by
  obtain ⟨content, found, taken⟩ := bind_ok.mp read
  exact bind_ok.mpr ⟨content, same.read_ok found, taken⟩

end SameAt

/-! ## Lines -/

/-- The lines of all files. -/
def texts (tree : FileTree) : List String :=
  tree.items.flatMap fun entry =>
    match entry.2 with
    | .file content => Text.linesOf content.lossy
    | .directory => []

theorem mem_texts_of_load (tree : FileTree) {directory : Path} {file : Located} {source : Source}
    {line : SourceLine} (loaded : Source.load (tree.view directory) file = .ok source)
    (own : line ∈ source.lines) : ∃ text ∈ tree.texts, line.toLine = Line.classify text := by
  obtain ⟨lines, read, rfl⟩ := Source.load_ok.mp loaded
  obtain ⟨content, opened, rest⟩ := bind_ok.mp read
  obtain rfl := Except.ok.inj rest
  obtain ⟨item, stands, taken⟩ := bind_ok.mp opened
  obtain ⟨place, _, there, _⟩ := FileTree.find_ok.mp stands
  cases item with
  | directory => cases taken
  | file found =>
      obtain rfl := Except.ok.inj taken
      have below : place ≠ [] := fun top => by simp [top] at there
      rw [item?, if_neg below] at there
      obtain ⟨front, back, parts, _⟩ := List.lookup_eq_some_iff.mp there
      obtain ⟨⟨text, index⟩, member, rfl⟩ := List.mem_map.mp own
      refine ⟨text, List.mem_flatMap.mpr ⟨(place, .file found), by simp [parts], ?_⟩, rfl⟩
      exact List.fst_mem_of_mem_zipIdx member

end FileTree

variable {before after : FileTree} {workingDirectory : Path}

/-! ## Configuration -/

namespace Config

/-- The places that are looked at for the configuration file, up to the first one with a file. -/
def looked (tree : FileTree) (workingDirectory root : Path) : List Path :=
  tried (fun path => tree.isFile (workingDirectory.join path)) (candidates.map root.join)

variable {root : Path} (same : ∀ path ∈ looked before workingDirectory root,
  before.SameAt after (workingDirectory.join path))

include same

theorem path?_eq : path? after workingDirectory root = path? before workingDirectory root :=
  find?_of_tried fun path member => (same path member).isFile_eq

theorem load_ok {config : Config} {log : List Event}
    (loaded : load before workingDirectory root = .ok (config, log)) :
    load after workingDirectory root = .ok (config, log) := by
  unfold load at loaded ⊢
  rw [path?_eq same]
  split at loaded
  · exact loaded
  · rename_i path found
    split at loaded
    · cases loaded
    · rename_i text read
      rw [(same path (mem_tried_of_find? found)).readText_ok read]
      exact loaded

end Config

/-! ## Constants -/

namespace Constants

variable {tree : FileTree} {name : String}

theorem has_of_readResource {path : Path} {found : Mapping Json}
    (read : readResource (tree.view workingDirectory) path = .ok found) :
    tree.has (workingDirectory.join path) = true := by
  unfold readResource at read
  split at read
  · cases read
  · rename_i lines taken
    obtain ⟨content, opened, _⟩ := bind_ok.mp taken
    obtain ⟨item, stands, _⟩ := bind_ok.mp opened
    exact FileTree.has_iff.mpr ⟨item, stands⟩

/-- A root contributes constants if its resource can be read and has a name that can be listed. -/
theorem ofRoot_eq_constants_iff (named : tree.Named) {root : Root} {found : Mapping Json} :
    ofRoot (tree.view workingDirectory) name root = .constants found ↔
      (Path.Component.name name).IsInner ∧
        readResource (tree.view workingDirectory) (root.path.join ⟨name⟩) = .ok found := by
  have listed := tree.mem_entries_iff named (workingDirectory.join root) name
  unfold ofRoot
  constructor
  · intro contributes
    split at contributes
    · cases contributes
    · rename_i names entries
      split at contributes
      · rename_i member
        have inner := (listed.mp ⟨names, entries, member⟩).1
        extract_lets path at contributes
        split at contributes
        · rename_i constants read
          exact ⟨inner, Contribution.constants.inj contributes ▸ read⟩
        · cases contributes
      · cases contributes
  · rintro ⟨inner, read⟩
    have there := has_of_readResource read
    rw [Path.join_join _ _ (Path.isAbsolute_name inner)] at there
    obtain ⟨names, entries, member⟩ := listed.mpr ⟨inner, there⟩
    have listing : (tree.view workingDirectory).entries root = .ok names := entries
    simp only [listing, member, if_true, read]

theorem readResource_ok {path : Path} {found : Mapping Json}
    (same : before.SameAt after (workingDirectory.join path))
    (read : readResource (before.view workingDirectory) path = .ok found) :
    readResource (after.view workingDirectory) path = .ok found := by
  unfold readResource at read ⊢
  split at read
  · cases read
  · rename_i lines taken
    have again : (after.view workingDirectory).readLines path = .ok lines := same.readLines_ok taken
    rw [again]
    exact read

theorem ofRoots_eq (named : before.Named) (grown : after.Named) {loadPath : LoadPath}
    (same : ∀ root ∈ loadPath.bases,
      before.SameAt after (workingDirectory.join (root.path.join ⟨name⟩))) :
    ofRoots (after.view workingDirectory) name loadPath =
      ofRoots (before.view workingDirectory) name loadPath := by
  have contribution {root : Root} (member : root ∈ loadPath.bases) (found : Mapping Json) :
      ofRoot (after.view workingDirectory) name root = .constants found ↔
        ofRoot (before.view workingDirectory) name root = .constants found := by
    rw [ofRoot_eq_constants_iff named, ofRoot_eq_constants_iff grown]
    exact and_congr_right fun _ =>
      ⟨readResource_ok (same root member).symm, readResource_ok (same root member)⟩
  refine List.foldr_ext _ _ _ fun root member constants => ?_
  split
  · rename_i found contributes
    rw [(contribution member found).mp contributes]
  · rename_i nothing
    split
    · rename_i found contributes
      exact absurd ((contribution member found).mpr contributes) (nothing found)
    · rfl

end Constants

/-! ## Projects -/

namespace Project

/-- The paths that loading a project at a root and resolving it looks at. -/
inductive Consults (project : Project) (tree : FileTree) (workingDirectory root : Path) :
    Path → Prop
  | configuration {path : Path} : path ∈ Config.looked tree workingDirectory root →
      Consults project tree workingDirectory root path
  | constants {base : Root} : base ∈ project.environment.loadPath.bases →
      Consults project tree workingDirectory root
        (base.path.join ⟨project.environment.options.constantsFile⟩)
  | entry {front back : List String} {entry : String} {session : Session} {path : Path} :
      project.sourceFiles = front ++ entry :: back →
      Session.start.requireAll project.environment front = .ok session →
      path ∈ project.environment.files.tried (session.probes project.environment entry) →
      Consults project tree workingDirectory root path
  | require {call : Call} {line : SourceLine} {moment : Session} {target : Target} {path : Path} :
      Session.Made project.environment (Session.depthBound project.environment)
        project.sourceFiles call →
      call.ComesTo project.environment line moment →
      line.directive = some (.require target) →
      path ∈ project.environment.files.tried
        (moment.probesFrom project.environment call.file target) →
      Consults project tree workingDirectory root path
  | source {call : Call} {source : Source} :
      Session.Made project.environment (Session.depthBound project.environment)
        project.sourceFiles call →
      call.Reads project.environment source →
      Consults project tree workingDirectory root call.file.path

/-- A project has been loaded again with the same settings, over the files of another tree. -/
structure Reloaded (project again : Project) (after : FileTree) (workingDirectory : Path) :
    Prop where
  sourceFiles : again.sourceFiles = project.sourceFiles
  output : again.output = project.output
  root : again.environment.root = project.environment.root
  loadPath : again.environment.loadPath = project.environment.loadPath
  options : again.environment.options = project.environment.options
  constants : again.environment.constants = project.environment.constants
  files : again.environment.files = after.view workingDirectory

variable {root : Path}

theorem ofConfig_ok {tree : FileTree} {config : Config} {log : List Event} {project : Project}
    (made : ofConfig tree workingDirectory root config log = .ok project) :
    root.text ≠ "" ∧ ∃ constants, config.constantsMapping = .ok constants ∧
      project.environment.Settled (tree.view workingDirectory)
        (.under (workingDirectory.absolute root) ⟨"."⟩) config.options (.ofList constants)
        config.loadPath ∧
      project.sourceFiles = config.sourceFiles ∧
      project.output = config.output.map project.environment.root.path.join := by
  unfold ofConfig at made
  split at made
  · cases made
  · rename_i environment created
    have spelled : root.text ≠ "" := fun empty => by simp [Environment.create, empty] at created
    have fresh := Environment.settled_of_create created
    extract_lets prepared at made
    split at made
    · cases made
    · rename_i constants mapped
      obtain rfl := Except.ok.inj made
      have given : Environment.Given { environment with log := log ++ environment.log } _ _ _ _ _ :=
        { fresh.toGiven with }
      have searched : prepared.Settled _ _ _ _ _ :=
        (given.withOptions config.options).withLoadPath config.loadPath
      have settled := searched.withConstants constants
      rw [List.nil_append] at settled
      have rooted : (prepared.withConstants constants).root = prepared.root :=
        settled.root_eq.trans searched.root_eq.symm
      refine ⟨spelled, constants, mapped, settled, rfl, ?_⟩
      exact congrArg (fun root : Root => config.output.map root.path.join) rooted.symm

theorem exists_ofConfig (tree : FileTree) (workingDirectory : Path) {config : Config} (log : List Event)
    {constants : Constants} (spelled : root.text ≠ "")
    (mapped : config.constantsMapping = .ok constants) :
    ∃ project, ofConfig tree workingDirectory root config log = .ok project := by
  unfold ofConfig
  rw [Environment.create, if_neg spelled]
  simp only [mapped]
  exact ⟨_, rfl⟩

theorem ofConfig_again {config : Config} {log : List Event} {project : Project}
    (made : ofConfig before workingDirectory root config log = .ok project)
    (named : before.Named) (grown : after.Named)
    (resources : ∀ base ∈ project.environment.loadPath.bases, before.SameAt after
      (workingDirectory.join (base.path.join ⟨project.environment.options.constantsFile⟩))) :
    ∃ again, ofConfig after workingDirectory root config log = .ok again ∧
      Reloaded project again after workingDirectory := by
  obtain ⟨spelled, constants, mapped, settled, sources, output⟩ := ofConfig_ok made
  obtain ⟨again, remade⟩ := exists_ofConfig after workingDirectory log spelled mapped
  obtain ⟨_, others, remapped, resettled, again_sources, again_output⟩ := ofConfig_ok remade
  obtain rfl := Except.ok.inj (mapped.symm.trans remapped)
  rw [settled.loadPath_eq, settled.options_eq] at resources
  have rooted := resettled.root_eq.trans settled.root_eq.symm
  refine ⟨again, remade, again_sources.trans sources.symm, ?_, rooted,
    resettled.loadPath_eq.trans settled.loadPath_eq.symm,
    resettled.options_eq.trans settled.options_eq.symm, ?_, resettled.files_eq⟩
  · rw [output, again_output, rooted]
  · rw [Environment.constants, Environment.constants, settled.merged_eq, resettled.merged_eq,
      settled.found_eq, resettled.found_eq, Constants.ofRoots_eq named grown resources]

section Resolve

variable {project again : Project} (viewed : project.environment.files = before.view workingDirectory)
  (reloaded : Reloaded project again after workingDirectory)
  (unchanged : ∀ path, project.Consults before workingDirectory root path →
    before.SameAt after (workingDirectory.join path))

include viewed reloaded unchanged

theorem has_of_consults {path : Path}
    (consulted : project.Consults before workingDirectory root path) :
    again.environment.files.has path = project.environment.files.has path := by
  rw [viewed, reloaded.files, FileTree.has_view, FileTree.has_view]
  exact (unchanged path consulted).has_eq

theorem find?_again {front back : List String} {entry : String} {session : Session}
    (parts : project.sourceFiles = front ++ entry :: back)
    (run : Session.start.requireAll project.environment front = .ok session) :
    session.find? again.environment entry = session.find? project.environment entry := by
  have extension := congrArg Options.extension reloaded.options
  rw [Session.find?_eq_first?, Session.find?_eq_first?,
    Session.probes_eq session reloaded.loadPath extension]
  exact Files.first?_of_tried fun path member =>
    has_of_consults viewed reloaded unchanged (.entry parts run member)

theorem alike_again (grows : before.Grows after) :
    Session.Alike Eq (fun _ => False)
      (Session.Made project.environment (Session.depthBound project.environment)
        project.sourceFiles) project.environment again.environment where
  cycles := by rw [reloaded.options]
  has present := by
    rw [viewed, FileTree.has_view] at present
    rw [reloaded.files, FileTree.has_view]
    exact grows.has present
  rendered {source lines} rendered := by
    rw [reloaded.constants, reloaded.options]
    exact .inl ⟨lines, rendered, rfl⟩
  nested made requires := made.requires requires
  located {call line moment target} made comes asks := by
    have extension := congrArg Options.extension reloaded.options
    rw [Session.locate?_eq_first?, Session.locate?_eq_first?,
      Session.probesFrom_eq moment reloaded.loadPath extension]
    exact Files.first?_of_tried fun path member =>
      has_of_consults viewed reloaded unchanged (.require made comes asks member)
  loaded {call source} made reads := by
    obtain ⟨texts, read, parsed⟩ := Source.load_ok.mp reads.2
    rw [viewed] at read
    refine Source.load_ok.mpr ⟨texts, ?_, parsed⟩
    rw [reloaded.files]
    exact (unchanged _ (.source made reads)).readLines_ok read

/-- A project that is loaded again from a grown tree is resolved with the same outcome and reports,
if the same stands where resolving it looked. -/
theorem resolve_again (grows : before.Grows after) {resolution : Resolution} {events : List Event}
    (resolved : project.resolve = .ok (resolution, events)) :
    again.resolve = .ok (resolution, events) := by
  obtain ⟨proper, session, run, rfl, rfl⟩ := resolve_ok.mp resolved
  have alike := alike_again viewed reloaded unchanged grows
  rcases Session.follows_requireAll alike (find?_again viewed reloaded unchanged) session run with
    ⟨other, finished, matched⟩ | ⟨_, _, impossible⟩
  · -- The grown tree has at least as many files, so the bound on the depth is as large.
    have deep : Session.depthBound project.environment ≤ Session.depthBound again.environment := by
      rw [Session.depthBound, Session.depthBound, viewed, reloaded.files]
      exact Nat.succ_le_succ (grows.stored_le workingDirectory)
    rw [resolve_ok, reloaded.sourceFiles]
    exact ⟨proper, other, Session.requireAllWithin_le finished deep, matched.resolution_eq.symm,
      matched.trace.symm⟩
  · exact impossible.elim

end Resolve

/-! ## References alone -/

/-- No line of a tree gives a name, and all requires are of listed references, in angle brackets. -/
def References (tree : FileTree) (references : List String) : Prop :=
  ∀ text ∈ tree.texts, (Line.classify text).directive = none ∨
    ∃ reference ∈ references,
      (Line.classify text).directive = some (.require ⟨reference, .angleBracket⟩)

section References

variable {tree : FileTree} {references : List String} {project : Project}
  (viewed : project.environment.files = tree.view workingDirectory)
  (listed : References tree references)

include viewed listed

theorem directive_of_load {file : Located} {source : Source} {line : SourceLine}
    (loaded : Source.load project.environment.files file = .ok source)
    (own : line ∈ source.lines) :
    line.directive = none ∨
      ∃ reference ∈ references, line.directive = some (.require ⟨reference, .angleBracket⟩) := by
  rw [viewed] at loaded
  obtain ⟨text, member, classified⟩ := tree.mem_texts_of_load loaded own
  rw [classified]
  exact listed text member

theorem kept_nameless :
    Session.Kept project.environment (fun session => session.aliases = []) (fun _ => True) where
  note _ empty := empty
  provide _ _ _ loaded own declares _ := by
    rcases directive_of_load viewed listed loaded own with none | ⟨_, _, requires⟩
    · simp [none] at declares
    · simp [requires] at declares
  locate _ _ _ _ _ _ := trivial
  enter empty _ _ := empty
  emit empty _ _ := empty

/-- Where names have no part, what a project looks at is told from its references: places of the
configuration file, constants, the places of references, and files that are there. -/
theorem Consults.of_references (entered : project.sourceFiles ⊆ references) {path : Path}
    (consulted : project.Consults tree workingDirectory root path) :
    path ∈ Config.looked tree workingDirectory root ∨
    (∃ base ∈ project.environment.loadPath.bases,
      base.path.join ⟨project.environment.options.constantsFile⟩ = path) ∨
    (∃ reference ∈ references,
      path ∈ project.environment.files.tried (Session.start.probes project.environment reference)) ∨
    ∃ item, tree.find (workingDirectory.join path) = .ok item := by
  have kept := kept_nameless viewed listed
  have nameless {front : List String} {session : Session}
      (run : Session.start.requireAll project.environment front = .ok session) :
      session.aliases = [] :=
    kept.requireAll (fun _ _ => trivial) rfl run
  have plain {session : Session} (empty : session.aliases = []) (reference : String) :
      session.probes project.environment reference =
        Session.start.probes project.environment reference := by
    rw [Session.probes, Session.probes, empty]
    rfl
  cases consulted with
  | configuration member => exact .inl member
  | constants member => exact .inr (.inl ⟨_, member, rfl⟩)
  | @entry front back entry session path parts run member =>
      rw [plain (nameless run)] at member
      exact .inr (.inr (.inl ⟨entry, entered (by simp [parts]), member⟩))
  | @require call line moment target path made comes asks member =>
      obtain ⟨top, level, ⟨parts, earlier, found⟩, nested⟩ := made
      have calm := nested.kept kept (nameless earlier) trivial
      have empty := comes.kept kept calm.1 trivial
      obtain @⟨_, _, _, _, source, _, _, _, ⟨_, loaded⟩, lines, _⟩ := comes
      have own : line ∈ source.lines := by simp [lines]
      rcases directive_of_load viewed listed loaded own with none | ⟨_, inside, requires⟩
      · simp [none] at asks
      · obtain rfl := Directive.require.inj (Option.some.inj (requires.symm.trans asks))
        have places := plain empty
        rw [Session.probesFrom, Delimiter.isQuoted, if_neg (by simp), List.nil_append, places] at member
        exact .inr (.inr (.inl ⟨_, inside, member⟩))
  | @source call source made reads =>
      obtain ⟨texts, read, _⟩ := Source.load_ok.mp reads.2
      rw [viewed] at read
      obtain ⟨content, opened, _⟩ := bind_ok.mp read
      obtain ⟨item, stands, _⟩ := bind_ok.mp opened
      exact .inr (.inr (.inr ⟨item, stands⟩))

end References

end Project

/-! ## Invocations -/

namespace Invocation

variable {invocation : Invocation} {surroundings : Surroundings} {entries : List String}
  {output : Option Path}

theorem loadProject_ok {tree : FileTree} {project : Project} :
    invocation.loadProject surroundings entries output tree = .ok project ↔
      ∃ config log base,
        Config.load tree surroundings.workingDirectory (invocation.root surroundings) =
          .ok (config, log) ∧
        Project.ofConfig tree surroundings.workingDirectory (invocation.root surroundings)
          (invocation.override entries config) log = .ok base ∧
        { base with output := (output.map surroundings.workingDirectory.absolute).or base.output } =
          project := by
  unfold loadProject
  extract_lets root
  cases Config.load tree surroundings.workingDirectory root with
  | error failure => simp
  | ok loaded =>
      obtain ⟨config, log⟩ := loaded
      simp only
      rw [bind_ok]
      cases output with
      | none => simp [pure, Except.pure, root]
      | some place => simp [pure, Except.pure, root]

theorem files_of_loadProject {tree : FileTree} {project : Project}
    (loaded : invocation.loadProject surroundings entries output tree = .ok project) :
    project.environment.files = tree.view surroundings.workingDirectory := by
  obtain ⟨_, _, _, _, made, rfl⟩ := loadProject_ok.mp loaded
  obtain ⟨_, _, _, settled, _⟩ := Project.ofConfig_ok made
  exact settled.files_eq

/-- The project of an invocation is loaded again from a grown tree, if the same stands where loading
it looked. -/
theorem loadProject_again {project : Project}
    (loaded : invocation.loadProject surroundings entries output before = .ok project)
    (named : before.Named) (grows : before.Grows after)
    (unchanged : ∀ path, project.Consults before surroundings.workingDirectory
      (invocation.root surroundings) path →
      before.SameAt after (surroundings.workingDirectory.join path)) :
    ∃ again, invocation.loadProject surroundings entries output after = .ok again ∧
      project.Reloaded again after surroundings.workingDirectory := by
  obtain ⟨config, log, base, configured, made, rfl⟩ := loadProject_ok.mp loaded
  obtain ⟨again, remade, reloaded⟩ := Project.ofConfig_again made named (grows.named named)
    fun base member => unchanged _ (.constants member)
  have reconfigured := Config.load_ok (fun path member => unchanged _ (.configuration member))
    configured
  refine ⟨_, loadProject_ok.mpr ⟨config, log, again, reconfigured, remade, rfl⟩, ?_⟩
  exact { reloaded with output := by rw [reloaded.output] }

end Invocation

end Splice
