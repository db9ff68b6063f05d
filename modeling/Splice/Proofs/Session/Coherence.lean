import Splice.Files.Memory
import Splice.Proofs.Path.Absolute
import Splice.Proofs.Session.Calls

/-!
# Coherence of sessions

The books of a session agree at every moment: what is recorded as added is what was gathered, no
file is added or read twice, and a file being read has not been added.  In an environment that was
built from an absolute root all files have absolute normal paths, whichever way they were found.
-/

namespace Splice

/-! ## Ways to find a file -/

/-- The ways that lead to a file other than from beside the file that requires it. -/
inductive Route (environment : Environment) (session : Session) : Located → Prop
  | absolute {location : Path} : location.isAbsolute = true →
      Route environment session (.ofPath location)
  | named {name : String} {location : Path} : Table.get? name session.aliases = some location →
      Route environment session (.ofPath location)
  | underName {name : String} {location : Path} (rest : Path) :
      Table.get? name session.aliases = some location →
      Route environment session (.under location rest)
  | underRoot {root : Root} (reference : Path) : root ∈ environment.loadPath.bases →
      Route environment session (.under root reference)

namespace Route

variable {environment : Environment} {session : Session}

theorem of_loadPath {reference : Path} {found : Located}
    (search : environment.loadPath.find? environment.files reference = some found) :
    Route environment session found := by
  obtain ⟨root, member, place⟩ := List.exists_of_findSome?_eq_some search
  obtain rfl := Option.some.inj (Option.ite_none_right_eq_some.mp place).2
  exact .underRoot reference member

theorem of_aliases {reference : Path} {found : Located}
    (search : Aliases.find? session.aliases environment.files reference = some found) :
    Route environment session found := by
  unfold Aliases.find? at search
  split at search
  · split at search
    · simp at search
    · rename_i location known
      obtain rfl := Option.some.inj (Option.ite_none_right_eq_some.mp search).2
      split
      · exact .named known
      · exact .underName _ known
  · simp at search

theorem of_find {reference : String} {found : Located}
    (search : session.find? environment reference = some found) :
    Route environment session found := by
  unfold Session.find? at search
  extract_lets spellings at search
  split at search
  · obtain ⟨spelling, _, place⟩ := List.exists_of_findSome?_eq_some search
    unfold Environment.find? at place
    split at place
    · rename_i absolute
      obtain rfl := Option.some.inj (Option.ite_none_right_eq_some.mp place).2
      exact .absolute absolute
    · exact of_loadPath place
  · split at search
    · rename_i located place
      obtain rfl := Option.some.inj search
      obtain ⟨spelling, _, aliased⟩ := List.exists_of_findSome?_eq_some place
      exact of_aliases aliased
    · obtain ⟨spelling, _, place⟩ := List.exists_of_findSome?_eq_some search
      exact of_loadPath place

/-- A required file is found beside the file that requires it or on another way. -/
theorem of_locate {file found : Located} {target : Target}
    (search : session.locate? environment file target = some found) :
    (∃ reference, found = .under file.directory reference) ∨ Route environment session found := by
  unfold Session.locate? at search
  split at search
  · rename_i located beside
    obtain rfl := Option.some.inj search
    split at beside
    · obtain ⟨spelling, _, place⟩ := List.exists_of_findSome?_eq_some beside
      obtain rfl := Option.some.inj (Option.ite_none_right_eq_some.mp place).2
      exact .inl ⟨⟨spelling⟩, rfl⟩
    · simp at beside
  · exact .inr (of_find search)

end Route

/-! ## The books -/

namespace Session

/-- What a session records agrees: the added paths are those gathered, no path is recorded twice,
and no file being read has been added. -/
structure Coherent (session : Session) : Prop where
  /-- The added paths are those of the gathered files. -/
  gathered : session.emitted = session.resolution.paths
  /-- No file is added twice. -/
  added_once : session.emitted.Nodup
  /-- No file is entered twice. -/
  entered_once : session.inProgress.Nodup
  /-- No file being read has been added. -/
  apart : ∀ path ∈ session.inProgress, path ∉ session.emitted

theorem coherent_start : Coherent start :=
  ⟨rfl, by simp [start], by simp [start], by simp [start]⟩

theorem Coherent.provide {environment : Environment} {file : Located} {number : Nat}
    {location : String} {label : Option String} {session after : Session}
    (coherent : Coherent session)
    (run : session.provide environment file number location label = .ok after) :
    Coherent after := by
  obtain ⟨gathered, added_once, entered_once, apart⟩ := coherent
  obtain ⟨_, emitted, inProgress, sources, _⟩ := provide_ok run
  constructor
  · rw [emitted, gathered, Resolution.paths, Resolution.paths, sources]
  · rwa [emitted]
  · rwa [inProgress]
  · rwa [emitted, inProgress]

theorem Coherent.enter {session : Session} {path : Path} (coherent : Coherent session)
    (fresh : session.Fresh path) : Coherent (session.enter path) := by
  obtain ⟨gathered, added_once, entered_once, apart⟩ := coherent
  refine ⟨gathered, added_once, ?_, ?_⟩
  · simpa [Session.enter] using entered_once.concat fresh.2
  · intro other member
    rcases List.mem_append.mp member with earlier | last
    · exact apart other earlier
    · exact List.mem_singleton.mp last ▸ fresh.1

theorem Coherent.emit {session : Session} {file : Located} {outer : List Path}
    {lines : List String} (coherent : Coherent session)
    (innermost : session.inProgress = outer ++ [file.path]) :
    Coherent (session.emit file lines) := by
  obtain ⟨gathered, added_once, entered_once, apart⟩ := coherent
  rw [innermost] at entered_once apart
  have new : file.path ∉ session.emitted := apart file.path (by simp)
  have closed : (session.emit file lines).inProgress = outer := by simp [Session.emit, innermost]
  obtain ⟨outer_once, _, outside⟩ := List.nodup_append.mp entered_once
  constructor
  · simp [Session.emit, gathered]
  · simpa [Session.emit] using added_once.concat new
  · rwa [closed]
  · rw [closed]
    intro path member added
    rcases List.mem_append.mp added with earlier | last
    · exact apart path (by simp [member]) earlier
    · exact outside path member file.path (by simp) (List.mem_singleton.mp last)

/-- The books agree throughout a run. -/
theorem kept_coherent (environment : Environment) :
    Kept environment Coherent fun _ => True where
  note _ coherent := ⟨coherent.gathered, coherent.added_once, coherent.entered_once, coherent.apart⟩
  provide coherent _ _ _ _ _ run := coherent.provide run
  locate _ _ _ _ _ _ := trivial
  enter coherent _ fresh := coherent.enter fresh
  emit coherent _ innermost := coherent.emit innermost

end Session

/-! ## Absolute paths -/

namespace Environment

/-- Environments whose root and load path came about by construction.  Files, options, constants and
reports may have been replaced since. -/
inductive Built : Environment → Prop
  | create {files : Files} {workingDirectory root : Path} {environment : Environment} :
      workingDirectory.isAbsolute = true →
      Environment.create files workingDirectory root = .ok environment → Built environment
  | withLoadPath {environment : Environment} (locations : List Path) :
      Built environment → Built (environment.withLoadPath locations)
  | register {environment : Environment} (location : Path) :
      Built environment → Built (environment.register location)
  | alike {environment other : Environment} :
      Built environment → other.root = environment.root →
      other.loadPath = environment.loadPath → Built other

theorem ofRoot_root (files : Files) (root : Path) :
    (ofRoot files root).root = .under root ⟨"."⟩ := by
  simp only [ofRoot, reload, addRoot]

theorem ofRoot_bases (files : Files) (root : Path) :
    (ofRoot files root).loadPath.bases = [.under root ⟨"."⟩] := by
  simp only [ofRoot, reload, addRoot, LoadPath.register, LoadPath.empty, List.filter_nil]

/-- The root and all roots of the load path are absolute. -/
structure Anchored (environment : Environment) : Prop where
  /-- The root is absolute. -/
  root : environment.root.path.isAbsolute = true
  /-- The roots that are searched are absolute. -/
  loadPath : ∀ root ∈ environment.loadPath.bases, root.path.isAbsolute = true

theorem Anchored.addRoot {environment : Environment} (anchored : Anchored environment)
    {root : Root} (absolute : root.path.isAbsolute = true) :
    Anchored (environment.addRoot root) := by
  refine ⟨anchored.root, ?_⟩
  intro other member
  rcases List.mem_cons.mp member with rfl | earlier
  · exact absolute
  · exact anchored.loadPath other (List.mem_of_mem_filter earlier)

theorem Anchored.rootOf {environment : Environment} (anchored : Anchored environment)
    (location : Path) : (environment.rootOf location).path.isAbsolute = true := by
  rw [Environment.rootOf, Root.path_under]
  exact Path.isAbsolute_anchor anchored.root location

theorem Anchored.withLoadPath {environment : Environment} (anchored : Anchored environment)
    (locations : List Path) : Anchored (environment.withLoadPath locations) := by
  have registered : Anchored (locations.foldl
      (fun environment location => environment.addRoot (environment.rootOf location))
      environment) := by
    induction locations generalizing environment with
    | nil => exact anchored
    | cons location locations ih =>
        exact ih (anchored.addRoot (anchored.rootOf location))
  exact ⟨registered.root, registered.loadPath⟩

/-- By construction all roots are absolute. -/
theorem Built.anchored {environment : Environment} (built : Built environment) :
    Anchored environment := by
  induction built with
  | @create files workingDirectory root environment absolute created =>
      unfold Environment.create at created
      split at created
      · simp at created
      · obtain rfl := Except.ok.inj created
        have rooted := Path.isAbsolute_anchor (Path.isAbsolute_absolute absolute root) ⟨"."⟩
        constructor
        · rwa [ofRoot_root, Root.path_under]
        · simpa [ofRoot_bases] using rooted
  | withLoadPath locations _ ih => exact ih.withLoadPath locations
  | register location _ ih =>
      have registered := ih.addRoot (ih.rootOf location)
      exact ⟨registered.root, registered.loadPath⟩
  | alike _ root loadPath ih => exact ⟨root ▸ ih.root, loadPath ▸ ih.loadPath⟩

end Environment

namespace Session

/-- The locations and files that a session knows of have absolute paths. -/
structure Anchored (session : Session) : Prop where
  /-- Names stand for absolute locations. -/
  aliases : ∀ {name : String} {location : Path},
    Table.get? name session.aliases = some location → location.isAbsolute = true
  /-- Gathered files have absolute paths. -/
  sources : ∀ source ∈ session.resolution.sources, source.file.path.isAbsolute = true

theorem anchored_start : Anchored start := by
  constructor
  · intro name location known
    simp [start, Table.get?] at known
  · simp [start, Resolution.empty]

end Session

/-- Every way to a file ends at an absolute path. -/
theorem Route.isAbsolute {environment : Environment} {session : Session} {found : Located}
    (route : Route environment session found) (rooted : environment.Anchored)
    (anchored : session.Anchored) : found.path.isAbsolute = true := by
  cases route with
  | absolute absolute =>
      rw [Located.path_ofPath]
      exact Path.isAbsolute_normalize absolute
  | named known =>
      rw [Located.path_ofPath]
      exact Path.isAbsolute_normalize (anchored.aliases known)
  | underName rest known =>
      rw [Located.path_under]
      exact Path.isAbsolute_anchor (anchored.aliases known) rest
  | underRoot reference member =>
      rw [Located.path_under]
      exact Path.isAbsolute_anchor (rooted.loadPath _ member) reference

namespace Session

theorem Anchored.provide {environment : Environment} {file : Located} {number : Nat}
    {location : String} {label : Option String} {session after : Session}
    (anchored : Anchored session) (absolute : file.path.isAbsolute = true)
    (run : session.provide environment file number location label = .ok after) :
    Anchored after := by
  obtain ⟨_, _, _, sources, aliases⟩ := provide_ok run
  refine ⟨?_, by rw [sources]; exact anchored.sources⟩
  intro name place known
  rw [aliases] at known
  cases label with
  | none => exact anchored.aliases known
  | some given =>
      rw [Option.elim_some, Table.get?_insert] at known
      split at known
      · obtain rfl := Option.some.inj known
        exact Path.isAbsolute_anchor (Located.isAbsolute_directory absolute) _
      · exact anchored.aliases known

/-- Throughout a run in an anchored environment all paths are absolute. -/
theorem kept_anchored {environment : Environment} (rooted : environment.Anchored) :
    Kept environment Anchored fun file => file.path.isAbsolute = true where
  note _ anchored := ⟨anchored.aliases, anchored.sources⟩
  provide anchored absolute _ _ _ _ run := anchored.provide absolute run
  locate anchored absolute _ _ _ search := by
    rcases Route.of_locate search with ⟨reference, rfl⟩ | route
    · rw [Located.path_under]
      exact Path.isAbsolute_anchor (Located.isAbsolute_directory absolute) reference
    · exact route.isAbsolute rooted anchored
  enter anchored _ _ := ⟨anchored.aliases, anchored.sources⟩
  emit anchored absolute _ := by
    refine ⟨anchored.aliases, ?_⟩
    intro source member
    rcases List.mem_append.mp member with earlier | last
    · exact anchored.sources source earlier
    · rw [List.mem_singleton.mp last]
      exact absolute

/-! ## All runs -/

theorem coherent_of_run {environment : Environment} {depth : Nat} {entries : List String}
    {session : Session} (run : start.requireAllWithin environment depth entries = .ok session) :
    Coherent session :=
  (kept_coherent environment).requireAll (fun _ _ => trivial) coherent_start run

theorem anchored_of_run {environment : Environment} (built : environment.Built) {depth : Nat}
    {entries : List String} {session : Session}
    (run : start.requireAllWithin environment depth entries = .ok session) : Anchored session :=
  (kept_anchored built.anchored).requireAll
    (fun known search => (Route.of_find search).isAbsolute built.anchored known) anchored_start run

/-- A gathered file is gathered once, also when its path is compared by components. -/
theorem Coherent.nodup_normalize {session : Session} (coherent : Coherent session) :
    (session.resolution.paths.map fun path => path.normalize.components).Nodup := by
  have once : session.resolution.paths.Nodup := coherent.gathered ▸ coherent.added_once
  refine List.Nodup.map_on ?_ once
  intro left left_member right right_member same
  obtain ⟨leftSource, _, rfl⟩ := List.mem_map.mp left_member
  obtain ⟨rightSource, _, rfl⟩ := List.mem_map.mp right_member
  rw [leftSource.file.normal, rightSource.file.normal] at same
  exact Located.path_eq_of_components same

/-- After successful entries the books agree: the added paths are exactly those gathered, no file is
there twice however it was spelled, all paths are absolute and normal, and no file is being read.
At every call nested in a further one no file is entered twice and none being read has been
added. -/
theorem session_books_agree {environment : Environment} (built : environment.Built) {depth : Nat}
    {entries : List String} {session : Session}
    (run : start.requireAllWithin environment depth entries = .ok session) :
    (∀ path, path ∈ session.emitted ↔ path ∈ session.resolution.paths) ∧
    (session.resolution.paths.map fun path => path.normalize.components).Nodup ∧
    (∀ source ∈ session.resolution.sources,
      source.file.path.isAbsolute = true ∧ source.file.path.normalize = source.file.path) ∧
    session.inProgress = [] ∧
    ∀ (further level : Nat) (file : Located) (call : Call),
      Call.Nested environment ⟨further, session, file⟩ level call →
        call.session.inProgress.Nodup ∧
        ∀ path ∈ call.session.inProgress, path ∉ call.session.emitted := by
  have coherent := coherent_of_run run
  have anchored := anchored_of_run built run
  refine ⟨?_, coherent.nodup_normalize, ?_, (extends_requireAll run).inProgress, ?_⟩
  · intro path
    rw [coherent.gathered]
  · intro source member
    exact ⟨anchored.sources source member, source.file.normal⟩
  · intro further level file call nested
    have inside := (nested.kept (kept_coherent environment) coherent trivial).1
    exact ⟨inside.entered_once, inside.apart⟩

/-- A file that is required by alias and by a detour, and that requires the file reading it. -/
def manySpellings : MemoryFiles :=
  (MemoryFiles.empty.insert ⟨"/p/a.js"⟩
    "//= provide \"l\" as \"k\"\n//= require <k/b>\n//= require \"l/../l/b\"").insert
    ⟨"/p/l/b.js"⟩ "//= require \"../a\""

theorem manySpellings_books_agree :
    ∃ environment session,
      Environment.create manySpellings.view ⟨"/"⟩ ⟨"p"⟩ = .ok environment ∧
      start.requireAll environment ["a", "/p/l/b"] = .ok session ∧
      session.resolution.paths = [⟨"/p/l/b.js"⟩, ⟨"/p/a.js"⟩] ∧
      (session.resolution.paths.map fun path => path.normalize.components).Nodup ∧
      session.inProgress = [] := by
  obtain ⟨environment, created⟩ :
      ∃ environment, Environment.create manySpellings.view ⟨"/"⟩ ⟨"p"⟩ = .ok environment :=
    ⟨_, if_neg (by decide)⟩
  have evaluated : ((Environment.create manySpellings.view ⟨"/"⟩ ⟨"p"⟩).toOption.bind
      fun environment => (start.requireAll environment ["a", "/p/l/b"]).toOption).map
        (fun session => session.resolution.paths) = some [⟨"/p/l/b.js"⟩, ⟨"/p/a.js"⟩] := by
    decide +kernel
  rw [created] at evaluated
  obtain ⟨session, finished, paths⟩ := Option.map_eq_some_iff.mp evaluated
  have run : start.requireAll environment ["a", "/p/l/b"] = .ok session :=
    ok_of_toOption finished
  have agree := session_books_agree (.create (by decide) created) run
  exact ⟨environment, session, created, run, paths, agree.2.1, agree.2.2.2.1⟩

end Session

end Splice
