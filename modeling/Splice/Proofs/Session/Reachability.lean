import Splice.Proofs.Session.Depth
import Splice.Proofs.Session.Order

/-!
# What a resolution reaches

Where no reachable file gives names to locations, requires form a graph that does not depend on the
run.  Resolving an entry succeeds exactly when all that is reachable in the graph is in order, it
gathers exactly what is reachable, and only a reachable cycle can then be refused.
-/

namespace Splice

namespace Session

/-! ## The graph of requires -/

/-- Some require line of the file leads to the other one when no names have been given. -/
def Edge (environment : Environment) (file found : Located) : Prop :=
  ∃ source line target, Source.load environment.files file = .ok source ∧ line ∈ source.lines ∧
    line.directive = some (.require target) ∧ start.locate? environment file target = some found

/-- Requires lead from the entry to the file. -/
def Reachable (environment : Environment) (entry : String) (file : Located) : Prop :=
  ∃ top, start.find? environment entry = some top ∧
    Relation.ReflTransGen (Edge environment) top file

/-- The file gives no names to locations. -/
def Unnamed (environment : Environment) (file : Located) : Prop :=
  ∀ source, Source.load environment.files file = .ok source →
    ∀ line ∈ source.lines, ∀ location name,
      line.directive ≠ some (.provide location (some name))

/-- The file can be read, what it requires is found, what it provides is there, and all its lines
can be rendered. -/
def InOrder (environment : Environment) (file : Located) : Prop :=
  ∃ source, Source.load environment.files file = .ok source ∧
    (∀ line ∈ source.lines, ∀ target, line.directive = some (.require target) →
      ∃ found, start.locate? environment file target = some found) ∧
    (∀ line ∈ source.lines, ∀ location label, line.directive = some (.provide location label) →
      environment.files.has (file.directory.anchor ⟨location⟩) = true) ∧
    ∃ lines, source.render environment.constants environment.options.stripComments = .ok lines

/-- The entry is found, and every reachable file is in order. -/
def Complete (environment : Environment) (entry : String) : Prop :=
  (∃ top, start.find? environment entry = some top) ∧
    ∀ file, Reachable environment entry file → InOrder environment file

/-- No requires lead from a reachable file to itself. -/
def Acyclic (environment : Environment) (entry : String) : Prop :=
  ∀ file again, Reachable environment entry file →
    Relation.TransGen (Edge environment) file again → again.path ≠ file.path

variable {environment : Environment}

theorem Reachable.tail {entry : String} {file found : Located}
    (reached : Reachable environment entry file) (edge : Edge environment file found) :
    Reachable environment entry found := by
  obtain ⟨top, place, chain⟩ := reached
  exact ⟨top, place, chain.tail edge⟩

/-! ## Files that share a path -/

/-- A source is read from its path alone. -/
theorem load_of_path {files : Files} {file other : Located} {source : Source}
    (same : other.path = file.path) (loaded : Source.load files file = .ok source) :
    Source.load files other = .ok ⟨other, source.lines⟩ := by
  obtain ⟨texts, read, rfl⟩ := Source.load_ok.mp loaded
  exact Source.load_ok.mpr ⟨texts, same ▸ read, rfl⟩

theorem file_of_load {files : Files} {file : Located} {source : Source}
    (loaded : Source.load files file = .ok source) : source.file = file := by
  obtain ⟨texts, _, rfl⟩ := Source.load_ok.mp loaded
  rfl

/-- Requires are located from the path of the file alone. -/
theorem locate?_of_path {session : Session} {file other : Located} {target : Target}
    (same : other.path = file.path) :
    session.locate? environment other target = session.locate? environment file target := by
  have directory : other.directory = file.directory := by
    rw [Located.directory, Located.directory, same]
  rw [locate?, locate?, findBeside?, findBeside?, directory]

/-- Requires are located with the names of a session alone. -/
theorem locate?_of_aliases {session other : Session} {file : Located} {target : Target}
    (same : other.aliases = session.aliases) :
    other.locate? environment file target = session.locate? environment file target := by
  rw [locate?, locate?, find?, find?, same]

theorem Edge.of_path {file other found : Located} (same : other.path = file.path)
    (edge : Edge environment file found) : Edge environment other found := by
  obtain ⟨source, line, target, loaded, own, asks, place⟩ := edge
  exact ⟨_, line, target, load_of_path same loaded, own, asks, (locate?_of_path same).trans place⟩

theorem InOrder.of_path {file other : Located} (same : other.path = file.path)
    (inOrder : InOrder environment file) : InOrder environment other := by
  obtain ⟨source, loaded, located, provided, lines, rendered⟩ := inOrder
  refine ⟨_, load_of_path same loaded, ?_, ?_, lines, ?_⟩
  · intro line own target asks
    rw [locate?_of_path same]
    exact located line own target asks
  · intro line own location label declares
    rw [Located.directory, same]
    exact provided line own location label declares
  · rw [← file_of_load loaded] at same
    rw [Source.render_eq] at rendered ⊢
    rw [same]
    exact rendered

/-! ## Runs without names -/

/-- Where no reachable file gives names, none are given on the way, and all files that are called
for are reachable. -/
theorem kept_unnamed {entry : String}
    (unnamed : ∀ file, Reachable environment entry file → Unnamed environment file) :
    Kept environment (fun session => session.aliases = []) (Reachable environment entry) where
  note _ empty := empty
  provide {_ _ _ _ _ _ label} empty reached _ loaded own declares run := by
    obtain ⟨_, _, _, _, aliases⟩ := provide_ok run
    cases label with
    | none => exact aliases.trans empty
    | some name => exact absurd declares (unnamed _ reached _ loaded _ own _ name)
  locate empty reached loaded own asks place := by
    rw [locate?_of_aliases (show _ = start.aliases from empty)] at place
    exact reached.tail ⟨_, _, _, loaded, own, asks, place⟩
  enter empty _ _ := empty
  emit empty _ _ := empty

/-! ## Successful resolutions -/

section Success

variable {depth : Nat} {entry : String} {final : Session}
  (unnamed : ∀ file, Reachable environment entry file → Unnamed environment file)
  (run : start.requireAllWithin environment depth [entry] = .ok final)

include unnamed

/-- The only entry is the top of all calls, so all calls are made for reachable files. -/
theorem Made.reachable {call : Call} (made : Made environment depth [entry] call) :
    call.session.aliases = [] ∧ Reachable environment entry call.file := by
  obtain ⟨_, level, entered, nested⟩ := made
  cases entered with
  | @entry before after other session file parts earlier found =>
      cases before with
      | cons first rest => simp at parts
      | nil =>
          obtain ⟨rfl, _⟩ : entry = other ∧ [] = after := by simpa using parts
          obtain rfl := Except.ok.inj earlier
          exact nested.kept (kept_unnamed unnamed) rfl ⟨file, found, .refl⟩

/-- A call of the run locates its requires as the graph does. -/
theorem Made.locate {outer inner : Call} {line : SourceLine} {target : Target}
    (made : Made environment depth [entry] outer)
    (requires : Call.Requires environment outer line inner)
    (asks : line.directive = some (.require target)) :
    start.locate? environment outer.file target = some inner.file := by
  obtain ⟨empty, reached⟩ := made.reachable unnamed
  obtain ⟨comes, again, found⟩ := requires
  obtain rfl : target = _ := by simpa [asks] using again
  have moment := comes.kept (kept_unnamed unnamed) empty reached
  rwa [locate?_of_aliases (show _ = start.aliases from moment)] at found

/-- A successful call that reads its file makes a call along each edge from it. -/
theorem Made.requires_of_edge {call : Call} {source : Source} {after : Session} {found : Located}
    (made : Made environment depth [entry] call) (reads : call.Reads environment source)
    (finished : call.run environment = .ok after) (edge : Edge environment call.file found) :
    ∃ line inner, Call.Requires environment call line inner ∧ inner.file = found := by
  obtain ⟨text, line, target, loaded, own, asks, located⟩ := edge
  obtain rfl := Except.ok.inj (loaded.symm.trans reads.2)
  obtain ⟨inner, requires⟩ := reads.requires finished own asks
  have there := made.locate unnamed requires asks
  exact ⟨line, inner, requires, Option.some.inj (there.symm.trans located)⟩

include run

/-- A gathered file leads to gathered files only, which come before it if cycles are refused. -/
theorem mem_paths_of_edge {file found : Located} (member : file.path ∈ final.resolution.paths)
    (edge : Edge environment file found) :
    found.path ∈ final.resolution.paths ∧
      (environment.options.cycles = .fail → final.resolution.Before found.path file.path) := by
  -- The file was read by a call for the same path, which need not be for the same located file.
  obtain ⟨call, source, after, made, reads, finished, same⟩ := made_of_mem_paths run member
  obtain ⟨line, inner, requires, rfl⟩ :=
    made.requires_of_edge unnamed reads finished (edge.of_path same)
  refine ⟨made.required_mem requires run, fun refused => ?_⟩
  rcases made.before_or_cycle requires run with before | ⟨tolerated, _⟩
  · exact same ▸ before
  · simp [refused] at tolerated

/-- A gathered file is reachable and in order. -/
theorem reachable_of_mem_paths {path : Path} (member : path ∈ final.resolution.paths) :
    ∃ file, Reachable environment entry file ∧ file.path = path ∧ InOrder environment file := by
  obtain ⟨call, source, after, made, reads, finished, same⟩ := made_of_mem_paths run member
  refine ⟨call.file, (made.reachable unnamed).2, same, source, reads.2, ?_, ?_, ?_⟩
  · intro line own target asks
    obtain ⟨inner, requires⟩ := reads.requires finished own asks
    exact ⟨inner.file, made.locate unnamed requires asks⟩
  · intro line own location label declares
    exact reads.provides finished own declares
  · obtain ⟨_, _, lines, _, _, rendered, _⟩ := reads.run_ok finished
    exact ⟨lines, rendered⟩

/-- Whatever is reachable is gathered. -/
theorem mem_paths_of_reachable {file : Located} (reached : Reachable environment entry file) :
    file.path ∈ final.resolution.paths := by
  obtain ⟨top, place, chain⟩ := reached
  induction chain with
  | refl =>
      obtain ⟨middle, entered, same⟩ := foldlM_cons_ok.mp run
      obtain rfl := Except.ok.inj same
      obtain ⟨file, found, called⟩ := requireWithin_ok entered
      obtain rfl := Option.some.inj (place.symm.trans found)
      rw [← (coherent_of_run run).gathered]
      have finished : Call.run environment ⟨depth, start, top⟩ = .ok middle := called
      simpa [start] using Call.mem_emitted_of_run finished
  | tail _ edge ih => exact (mem_paths_of_edge unnamed run ih edge).1

theorem inOrder_of_reachable {file : Located} (reached : Reachable environment entry file) :
    InOrder environment file := by
  obtain ⟨other, _, same, inOrder⟩ :=
    reachable_of_mem_paths unnamed run (mem_paths_of_reachable unnamed run reached)
  exact inOrder.of_path same.symm

/-- Where cycles are refused, requires lead to earlier files only. -/
theorem before_of_transGen (refused : environment.options.cycles = .fail) {file again : Located}
    (member : file.path ∈ final.resolution.paths)
    (chain : Relation.TransGen (Edge environment) file again) :
    final.resolution.Before again.path file.path := by
  induction chain with
  | single edge => exact (mem_paths_of_edge unnamed run member edge).2 refused
  | tail _ edge ih =>
      exact Nat.lt_trans ((mem_paths_of_edge unnamed run ih.mem edge).2 refused) ih

end Success

/-! ## Failed resolutions -/

/-- Requires lead from every file being read to the file that is called for. -/
def Behind (environment : Environment) (entry : String) (session : Session) (file : Located) :
    Prop :=
  ∀ path ∈ session.inProgress, ∃ outer, outer.path = path ∧ Reachable environment entry outer ∧
    Relation.TransGen (Edge environment) outer file

theorem Behind.step {entry : String} {session moment : Session} {file found : Located}
    (behind : Behind environment entry session file) (reached : Reachable environment entry file)
    (edge : Edge environment file found)
    (reading : moment.inProgress = session.inProgress ++ [file.path]) :
    Behind environment entry moment found := by
  intro path member
  rw [reading] at member
  rcases List.mem_append.mp member with outside | innermost
  · obtain ⟨outer, same, before, chain⟩ := behind path outside
    exact ⟨outer, same, before, chain.tail edge⟩
  · exact ⟨file, (List.mem_singleton.mp innermost).symm, reached, .single edge⟩

/-- A line of a file in order can fail only in the call that it makes. -/
theorem InOrder.edge_of_obey_error {call : Session → Located → Except Halt Session}
    {file : Located} {source : Source} {line : SourceLine} {moment : Session} {halt : Halt}
    (inOrder : InOrder environment file) (loaded : Source.load environment.files file = .ok source)
    (own : line ∈ source.lines) (empty : moment.aliases = [])
    (obeyed : moment.obey environment call file line = .error halt) :
    ∃ found, Edge environment file found ∧ call moment found = .error halt := by
  obtain ⟨text, readable, located, provided, _⟩ := inOrder
  obtain rfl := Except.ok.inj (readable.symm.trans loaded)
  have plain (target : Target) :
      moment.locate? environment file target = start.locate? environment file target :=
    locate?_of_aliases empty
  rcases obey_error obeyed with ⟨_, _, declares, missing, _⟩ | ⟨_, asks, missing, _⟩ |
    ⟨target, found, asks, there, called⟩
  · simp [provided line own _ _ declares] at missing
  · obtain ⟨found, there⟩ := located line own _ asks
    simp [plain, there] at missing
  · exact ⟨found, ⟨text, line, target, loaded, own, asks, plain target ▸ there⟩, called⟩

/-- Where everything reachable is in order, a call with enough depth fails on a refused cycle
only. -/
theorem cycle_of_visit_error {entry : String}
    (unnamed : ∀ file, Reachable environment entry file → Unnamed environment file)
    (inOrder : ∀ file, Reachable environment entry file → InOrder environment file)
    (enumerated : environment.files.Enumerated) {depth : Nat} {session : Session} {file : Located}
    {halt : Halt} (empty : session.aliases = []) (reached : Reachable environment entry file)
    (behind : Behind environment entry session file) (enough : session.room environment < depth)
    (run : session.visit environment depth file = .error halt) :
    environment.options.cycles = .fail ∧ (∃ chain, halt.failure = .circularRequire chain) ∧
      ¬ Acyclic environment entry := by
  -- The failure is passed on from the innermost call, where the file is being read already.
  induction depth generalizing session file with
  | zero => simp at enough
  | succ depth ih =>
      obtain ⟨text, readable, _, _, rendered, renders⟩ := inOrder file reached
      rcases visit_error run with ⟨_, reading, refused, rfl⟩ | ⟨_, failure, unread, _⟩ |
        ⟨fresh, source, loaded, stopped | ⟨_, failure, _, unrendered, _⟩⟩
      · obtain ⟨outer, same, before, chain⟩ := behind file.path reading
        exact ⟨refused, ⟨_, rfl⟩, fun acyclic => acyclic outer file before chain same.symm⟩
      · simp [readable] at unread
      · obtain ⟨before, line, after, moment, lines, followed, obeyed⟩ := foldlM_error stopped
        have kept := kept_unnamed unnamed
        have unchanged : moment.aliases = [] :=
          kept.follow kept.visit (kept.enter empty reached fresh) reached
            (mem_inProgress_enter _ _) loaded (fun other member => by simp [lines, member]) followed
        have grown := extends_follow extends_visit followed
        obtain ⟨found, edge, called⟩ :=
          (inOrder file reached).edge_of_obey_error loaded (by simp [lines]) unchanged obeyed
        have room_left : moment.room environment < depth := by
          have taken := room_enter (enumerated loaded) fresh
          have same := grown.room_eq environment
          omega
        exact ih unchanged (reached.tail edge) (behind.step reached edge grown.inProgress) room_left
          called
      · obtain rfl := Except.ok.inj (readable.symm.trans loaded)
        simp [renders] at unrendered

/-! ## The outcome of a resolution -/

/-- A resolution is what one successful entry has gathered. -/
theorem resolve_ok {entry : String} {resolution : Resolution}
    (run : environment.resolve entry = .ok resolution) :
    ∃ top final, start.find? environment entry = some top ∧
      start.requireAllWithin environment (depthBound environment) [entry] = .ok final ∧
      final.resolution = resolution := by
  unfold Environment.resolve at run
  split at run
  · rename_i final required
    obtain ⟨top, place, _⟩ := requireWithin_ok required
    exact ⟨top, final, place, foldlM_cons_ok.mpr ⟨final, required, rfl⟩, Except.ok.inj run⟩
  · simp at run

section Outcome

variable {entry : String}
  (unnamed : ∀ file, Reachable environment entry file → Unnamed environment file)

include unnamed

theorem complete_of_resolve_ok {resolution : Resolution}
    (run : environment.resolve entry = .ok resolution) : Complete environment entry := by
  obtain ⟨top, final, place, required, _⟩ := resolve_ok run
  exact ⟨⟨top, place⟩, fun _ reached => inOrder_of_reachable unnamed required reached⟩

theorem acyclic_of_resolve_ok (refused : environment.options.cycles = .fail)
    {resolution : Resolution} (run : environment.resolve entry = .ok resolution) :
    Acyclic environment entry := by
  obtain ⟨_, final, _, required, _⟩ := resolve_ok run
  intro file again reached chain same
  have member := mem_paths_of_reachable unnamed required reached
  have before := before_of_transGen unnamed required refused member chain
  rw [same] at before
  exact Nat.lt_irrefl _ before

theorem mem_paths_of_resolve_ok {resolution : Resolution}
    (run : environment.resolve entry = .ok resolution) (path : Path) :
    path ∈ resolution.paths ↔ ∃ file, Reachable environment entry file ∧ file.path = path := by
  obtain ⟨_, final, _, required, rfl⟩ := resolve_ok run
  constructor
  · intro member
    obtain ⟨file, reached, same, _⟩ := reachable_of_mem_paths unnamed required member
    exact ⟨file, reached, same⟩
  · rintro ⟨file, reached, rfl⟩
    exact mem_paths_of_reachable unnamed required reached

/-- If everything reachable is in order, only a refused cycle stops the resolution. -/
theorem cycle_of_resolve_error (enumerated : environment.files.Enumerated)
    (complete : Complete environment entry) {failure : Failure}
    (run : environment.resolve entry = .error failure) :
    environment.options.cycles = .fail ∧ (∃ chain, failure = .circularRequire chain) ∧
      ¬ Acyclic environment entry := by
  obtain ⟨⟨top, place⟩, inOrder⟩ := complete
  unfold Environment.resolve at run
  split at run
  · simp at run
  · rename_i halt stopped
    obtain rfl := Except.error.inj run
    rw [require, requireWithin, place] at stopped
    have idle : Behind environment entry start top := by simp [Behind, start]
    have enough : start.room environment < depthBound environment :=
      Nat.lt_succ_of_le (List.length_filter_le _ _)
    exact cycle_of_visit_error unnamed inOrder enumerated rfl ⟨top, place, .refl⟩ idle enough stopped

end Outcome

/-- Over files in memory of which no reachable one gives names, an entry resolves under tolerated
cycles exactly when it is found and everything reachable is in order, and then exactly what is
reachable is gathered.  Under refused cycles it resolves exactly when moreover no cycle is
reachable, and if only that is wanting, the failure is a circular require. -/
theorem resolve_ok_iff_reachable_inOrder {store : MemoryFiles}
    (inMemory : environment.files = store.view) {entry : String}
    (unnamed : ∀ file, Reachable environment entry file → Unnamed environment file) :
    (environment.options.cycles = .tolerate →
      ((∃ resolution, environment.resolve entry = .ok resolution) ↔
        Complete environment entry)) ∧
    (∀ resolution, environment.resolve entry = .ok resolution →
      ∀ path, path ∈ resolution.paths ↔
        ∃ file, Reachable environment entry file ∧ file.path = path) ∧
    (environment.options.cycles = .fail →
      ((∃ resolution, environment.resolve entry = .ok resolution) ↔
        Complete environment entry ∧ Acyclic environment entry) ∧
      (Complete environment entry → ¬ Acyclic environment entry →
        ∃ chain, environment.resolve entry = .error (.circularRequire chain))) := by
  have enumerated : environment.files.Enumerated := inMemory ▸ store.enumerated
  refine ⟨fun tolerated => ⟨?_, ?_⟩, fun _ run => mem_paths_of_resolve_ok unnamed run,
    fun refused => ⟨⟨?_, ?_⟩, ?_⟩⟩
  · rintro ⟨_, run⟩
    exact complete_of_resolve_ok unnamed run
  · intro complete
    cases run : environment.resolve entry with
    | ok resolution => exact ⟨resolution, rfl⟩
    | error failure =>
        have cycle := cycle_of_resolve_error unnamed enumerated complete run
        simp [tolerated] at cycle
  · rintro ⟨_, run⟩
    exact ⟨complete_of_resolve_ok unnamed run, acyclic_of_resolve_ok unnamed refused run⟩
  · rintro ⟨complete, acyclic⟩
    cases run : environment.resolve entry with
    | ok resolution => exact ⟨resolution, rfl⟩
    | error failure =>
        exact absurd acyclic (cycle_of_resolve_error unnamed enumerated complete run).2.2
  · intro complete cyclic
    cases run : environment.resolve entry with
    | ok resolution => exact absurd (acyclic_of_resolve_ok unnamed refused run) cyclic
    | error failure =>
        obtain ⟨_, ⟨chain, rfl⟩, _⟩ := cycle_of_resolve_error unnamed enumerated complete run
        exact ⟨chain, rfl⟩

/-- Where no stored line gives a name, no file does. -/
theorem unnamed_of_store {store : MemoryFiles} (inMemory : environment.files = store.view)
    (plain : ∀ stored ∈ store.files, ∀ text ∈ Text.linesOf stored.2,
      (Line.classify text).label? = none) (file : Located) : Unnamed environment file := by
  intro source loaded line own location name declares
  rw [inMemory] at loaded
  obtain ⟨texts, read, rfl⟩ := Source.load_ok.mp loaded
  obtain ⟨content, stored, rfl⟩ := MemoryFiles.mem_files_of_readLines read
  obtain ⟨⟨text, index⟩, member, rfl⟩ := List.mem_map.mp own
  have unlabelled := plain _ stored text (List.fst_mem_of_mem_zipIdx member)
  rw [Line.label?, declares] at unlabelled
  simp [Directive.label?] at unlabelled

/-- Two files that require each other resolve under one policy and are a cycle under the other. -/
theorem mutualRequires_resolves :
    ∃ tolerant refusing resolution,
      tolerant.files = mutualRequires.view ∧ refusing.files = mutualRequires.view ∧
      tolerant.options.cycles = .tolerate ∧ refusing.options.cycles = .fail ∧
      tolerant.resolve "a" = .ok resolution ∧ Complete tolerant "a" ∧
      (∃ file, Reachable tolerant "a" file ∧ file.path = ⟨"/p/b.js"⟩) ∧
      ¬ (Complete refusing "a" ∧ Acyclic refusing "a") := by
  let tolerant := Environment.ofRoot mutualRequires.view ⟨"/p"⟩
  let refusing := tolerant.withOptions { cycles := .fail }
  have plain : ∀ stored ∈ mutualRequires.files, ∀ text ∈ Text.linesOf stored.2,
      (Line.classify text).label? = none := by
    decide +kernel
  have evaluated : (tolerant.resolve "a").toOption.map Resolution.paths =
      some [⟨"/p/b.js"⟩, ⟨"/p/a.js"⟩] := by
    decide +kernel
  have stopped : (refusing.resolve "a").toOption.isNone = true := by
    decide +kernel
  obtain ⟨resolution, finished, paths⟩ := Option.map_eq_some_iff.mp evaluated
  have run := ok_of_toOption finished
  have tolerates := resolve_ok_iff_reachable_inOrder rfl
    fun file (_ : Reachable tolerant "a" file) => unnamed_of_store rfl plain file
  have refuses := resolve_ok_iff_reachable_inOrder rfl
    fun file (_ : Reachable refusing "a" file) => unnamed_of_store rfl plain file
  refine ⟨tolerant, refusing, resolution, rfl, rfl, rfl, rfl, run, ?_, ?_, ?_⟩
  · exact (tolerates.1 rfl).mp ⟨resolution, run⟩
  · exact (tolerates.2.1 resolution run _).mp (by simp [paths])
  · intro possible
    obtain ⟨other, succeeded⟩ := ((refuses.2.2 rfl).1).mpr possible
    simp [succeeded, Except.toOption] at stopped

end Session

end Splice
