import Splice.Proofs.Session.Coherence
import Splice.Proofs.Source.Stripping

/-!
# Declared locations and their names

A session records a location the first time that it is declared under a name, while the name stands
for the location declared last.  Both books are written in the middle of reading a file that is
added only later.  At every moment each recorded location is declared on its line by a file that is
being read or has been added, names stand for recorded locations, and the names of recorded
locations are known.
-/

namespace Splice

/-! ## Recorded locations -/

namespace Resolution

/-- The recorded locations, each with the name it is declared under. -/
def declared (resolution : Resolution) : List (Path × Option String) :=
  resolution.provided.map fun asset => (asset.path, asset.label)

/-- A location is recorded at the end, unless it was recorded under the same name before. -/
theorem addAsset_cases (resolution : Resolution) (asset : Asset) :
    ((asset.path, asset.label) ∈ resolution.declared ∧ resolution.addAsset asset = resolution) ∨
    ((asset.path, asset.label) ∉ resolution.declared ∧
      (resolution.addAsset asset).provided = resolution.provided ++ [asset]) := by
  have known : (resolution.provided.any fun other =>
      other.path = asset.path && other.label = asset.label) = true ↔
      (asset.path, asset.label) ∈ resolution.declared := by
    simp [declared]
  unfold addAsset
  split
  · rename_i found
    exact .inl ⟨known.mp found, rfl⟩
  · rename_i missing
    exact .inr ⟨known.not.mp missing, rfl⟩

theorem mem_of_mem_addAsset {resolution : Resolution} {asset other : Asset}
    (member : other ∈ (resolution.addAsset asset).provided) :
    other = asset ∨ other ∈ resolution.provided := by
  rcases resolution.addAsset_cases asset with ⟨_, same⟩ | ⟨_, longer⟩
  · rw [same] at member
    exact .inr member
  · rw [longer] at member
    exact (List.mem_append.mp member).elim .inr fun last => .inl (List.mem_singleton.mp last)

theorem mem_declared_addAsset {resolution : Resolution} {asset : Asset}
    {entry : Path × Option String} :
    entry ∈ (resolution.addAsset asset).declared ↔
      entry ∈ resolution.declared ∨ entry = (asset.path, asset.label) := by
  rcases resolution.addAsset_cases asset with ⟨known, same⟩ | ⟨_, longer⟩
  · rw [same, or_iff_left_of_imp]
    rintro rfl
    exact known
  · simp [declared, longer]

theorem nodup_declared_addAsset {resolution : Resolution} (asset : Asset)
    (once : resolution.declared.Nodup) : (resolution.addAsset asset).declared.Nodup := by
  rcases resolution.addAsset_cases asset with ⟨_, same⟩ | ⟨new, longer⟩
  · rwa [same]
  · simpa [declared, longer] using once.concat new

end Resolution

/-- A line of the file declares the location: it carries a `provide` with the name of the location,
which leads from the directory of the file to the path, and something is there. -/
structure Asset.DeclaredBy (environment : Environment) (file : Located) (asset : Asset) : Prop where
  /-- The file is the one on record. -/
  declaredIn : file.path = asset.declaredIn
  /-- Something is at the path. -/
  present : environment.files.has asset.path = true
  /-- The line on record carries the declaration. -/
  line : ∃ source line location, Source.load environment.files file = .ok source ∧
    line ∈ source.lines ∧ line.number = asset.line ∧
    line.directive = some (.provide location asset.label) ∧
    file.directory.anchor ⟨location⟩ = asset.path

namespace Session

/-- The books on locations agree: no location is recorded twice under one name, each is declared by
a file that is being read or has been added, names stand for recorded locations, and the names of
recorded locations are known. -/
structure Declares (environment : Environment) (session : Session) : Prop where
  /-- No location is recorded twice under one name. -/
  once : session.resolution.declared.Nodup
  /-- Recorded locations are declared by files that have been entered. -/
  origin : ∀ asset ∈ session.resolution.provided, ∃ file : Located,
    asset.DeclaredBy environment file ∧
      (file.path ∈ session.inProgress ∨ file.path ∈ session.emitted)
  /-- Names stand for locations recorded under them. -/
  named : ∀ {name : String} {location : Path}, Table.get? name session.aliases = some location →
    (location, some name) ∈ session.resolution.declared
  /-- The names of recorded locations are known. -/
  known : ∀ {name : String} {location : Path},
    (location, some name) ∈ session.resolution.declared →
    ∃ latest, Table.get? name session.aliases = some latest

variable {environment : Environment}

theorem declares_start : Declares environment start := by
  refine ⟨?_, ?_, ?_, ?_⟩
  all_goals simp [start, Resolution.empty, Resolution.declared, Table.get?]

theorem Declares.provide {session after : Session} {file : Located} {source : Source}
    {line : SourceLine} {location : String} {label : Option String}
    (declares : Declares environment session) (reading : file.path ∈ session.inProgress)
    (loaded : Source.load environment.files file = .ok source) (own : line ∈ source.lines)
    (provides : line.directive = some (.provide location label))
    (run : session.provide environment file line.number location label = .ok after) :
    Declares environment after := by
  obtain ⟨present, emitted, inProgress, _, aliases⟩ := provide_ok run
  have resolution := resolution_of_provide run
  constructor
  · rw [resolution]
    exact Resolution.nodup_declared_addAsset _ declares.once
  · intro asset member
    rw [emitted, inProgress]
    rw [resolution] at member
    rcases Resolution.mem_of_mem_addAsset member with new | earlier
    · refine ⟨file, ⟨?_, ?_, source, line, location, loaded, own, ?_⟩, .inl reading⟩
      · simp only [new]
      · simp only [new, present]
      · simp only [new, provides, and_self]
    · exact declares.origin asset earlier
  · intro name place found
    rw [resolution, Resolution.mem_declared_addAsset]
    rw [aliases] at found
    cases label with
    | none => exact .inl (declares.named found)
    | some given =>
        rw [Option.elim_some, Table.get?_insert] at found
        split at found
        · rename_i same
          obtain rfl := Option.some.inj found
          exact .inr (by rw [same])
        · exact .inl (declares.named found)
  · intro name place recorded
    rw [resolution, Resolution.mem_declared_addAsset] at recorded
    rw [aliases]
    cases label with
    | none => exact declares.known (recorded.resolve_right (by simp))
    | some given =>
        rw [Option.elim_some, Table.get?_insert]
        split
        · exact ⟨_, rfl⟩
        · rename_i other
          refine declares.known (recorded.resolve_right fun new => other ?_)
          simpa [eq_comm] using congrArg Prod.snd new

theorem Declares.enter {session : Session} (declares : Declares environment session)
    (path : Path) : Declares environment (session.enter path) := by
  refine ⟨declares.once, fun asset member => ?_, declares.named, declares.known⟩
  obtain ⟨file, declared, entered⟩ := declares.origin asset member
  exact ⟨file, declared, entered.imp_left (List.mem_append_left _)⟩

/-- The innermost file leaves those being read and joins those that have been added. -/
theorem Declares.emit {session : Session} {file : Located} {outer : List Path}
    {lines : List String} (declares : Declares environment session)
    (innermost : session.inProgress = outer ++ [file.path]) :
    Declares environment (session.emit file lines) := by
  refine ⟨declares.once, fun asset member => ?_, declares.named, declares.known⟩
  obtain ⟨origin, declared, entered⟩ := declares.origin asset member
  refine ⟨origin, declared, ?_⟩
  simp only [Session.emit, innermost, List.dropLast_concat]
  rcases entered with reading | added
  · rw [innermost] at reading
    exact (List.mem_append.mp reading).imp_right (List.mem_append_right _)
  · exact .inr (List.mem_append_left _ added)

/-- The books on locations agree throughout a run. -/
theorem kept_declares (environment : Environment) :
    Kept environment (Declares environment) fun _ => True where
  note _ declares := ⟨declares.once, declares.origin, declares.named, declares.known⟩
  provide declares _ reading loaded own provides run :=
    declares.provide reading loaded own provides run
  locate _ _ _ _ _ _ := trivial
  enter declares _ _ := declares.enter _
  emit declares _ innermost := declares.emit innermost

theorem declares_of_run {depth : Nat} {entries : List String} {session : Session}
    (run : start.requireAllWithin environment depth entries = .ok session) :
    Declares environment session :=
  (kept_declares environment).requireAll (fun _ _ => trivial) declares_start run

end Session

/-! ## After a run -/

namespace Asset.DeclaredBy

variable {environment : Environment} {file : Located} {asset : Asset}

theorem normal (declared : asset.DeclaredBy environment file) :
    asset.path.normalize = asset.path := by
  obtain ⟨_, _, _, _, _, _, _, path⟩ := declared.line
  rw [← path]
  exact Path.normalize_anchor _ _

theorem isAbsolute (declared : asset.DeclaredBy environment file)
    (absolute : file.path.isAbsolute = true) : asset.path.isAbsolute = true := by
  obtain ⟨_, _, _, _, _, _, _, path⟩ := declared.line
  rw [← path]
  exact Path.isAbsolute_anchor (Located.isAbsolute_directory absolute) _

/-- What declares a location can be read off the text of its line. -/
theorem text (declared : asset.DeclaredBy environment file) :
    ∃ texts text location, environment.files.readLines file.path = .ok texts ∧
      0 < asset.line ∧ texts[asset.line - 1]? = some text ∧
      (Line.classify text).directive = some (.provide location asset.label) ∧
      (file.directory.join ⟨location⟩).normalize = asset.path := by
  obtain ⟨_, line, location, loaded, own, number, provides, path⟩ := declared.line
  obtain ⟨texts, read, rfl⟩ := Source.load_ok.mp loaded
  obtain ⟨positive, place⟩ := Source.text_of_mem_ofTexts own
  have classified : line.directive = _ := congrArg Line.directive (Source.classified_ofTexts own)
  rw [number] at positive place
  exact ⟨texts, line.text, location, read, positive, place, classified.symm.trans provides, path⟩

end Asset.DeclaredBy

namespace Session

variable {environment : Environment}

/-- Locations are told apart under one name by the components of their paths. -/
theorem Declares.nodup_components {session : Session} (declares : Declares environment session) :
    (session.resolution.provided.map fun asset => (asset.path.components, asset.label)).Nodup := by
  have told : session.resolution.provided.map (fun asset => (asset.path.components, asset.label)) =
      session.resolution.declared.map fun entry => (entry.1.components, entry.2) := by
    simp [Resolution.declared]
  have normal : ∀ entry ∈ session.resolution.declared, entry.1.normalize = entry.1 := by
    intro entry member
    obtain ⟨asset, recorded, rfl⟩ := List.mem_map.mp member
    obtain ⟨_, declared, _⟩ := declares.origin asset recorded
    exact declared.normal
  rw [told]
  refine List.Nodup.map_on ?_ declares.once
  intro left left_member right right_member same
  obtain ⟨components, label⟩ := Prod.mk.inj same
  refine Prod.ext ?_ label
  rw [← normal left left_member, ← normal right right_member, Path.normalize, Path.normalize,
    components]

/-- After a run every recorded location is declared by a file that was added. -/
theorem Declares.added {session : Session} (declares : Declares environment session)
    (coherent : session.Coherent) (idle : session.inProgress = []) {asset : Asset}
    (recorded : asset ∈ session.resolution.provided) :
    ∃ added ∈ session.resolution.sources, ∃ file, asset.DeclaredBy environment file ∧
      added.file.path = file.path := by
  obtain ⟨file, declared, entered⟩ := declares.origin asset recorded
  rw [idle, coherent.gathered] at entered
  obtain ⟨added, member, same⟩ := List.mem_map.mp (entered.resolve_left List.not_mem_nil)
  exact ⟨added, member, file, declared, same⟩

/-- After successful entries the books on locations agree.  No location is recorded twice under one
name.  Each one has an absolute normal path at which something is, and the file that declares it was
added: the line with its number carries a `provide` with its name, which leads there from the
directory of the file.  Names stand for locations recorded under them, and the names of recorded
locations are known. -/
theorem locations_and_names_agree (built : environment.Built) {depth : Nat}
    {entries : List String} {session : Session}
    (run : start.requireAllWithin environment depth entries = .ok session) :
    (session.resolution.provided.map fun asset => (asset.path.components, asset.label)).Nodup ∧
    (∀ asset ∈ session.resolution.provided,
      asset.path.isAbsolute = true ∧ asset.path.normalize = asset.path ∧
      environment.files.has asset.path = true ∧
      ∃ added ∈ session.resolution.sources, added.file.path = asset.declaredIn ∧
        ∃ texts text location, environment.files.readLines added.file.path = .ok texts ∧
          0 < asset.line ∧ texts[asset.line - 1]? = some text ∧
          (Line.classify text).directive = some (.provide location asset.label) ∧
          (added.file.directory.join ⟨location⟩).normalize = asset.path) ∧
    (∀ name location, Table.get? name session.aliases = some location →
      ∃ asset ∈ session.resolution.provided, asset.path = location ∧ asset.label = some name) ∧
    ∀ asset ∈ session.resolution.provided, ∀ name, asset.label = some name →
      ∃ location, Table.get? name session.aliases = some location := by
  have declares := declares_of_run run
  have anchored := anchored_of_run built run
  refine ⟨declares.nodup_components, ?_, ?_, ?_⟩
  · intro asset recorded
    obtain ⟨added, member, file, declared, same⟩ :=
      declares.added (coherent_of_run run) (extends_requireAll run).inProgress recorded
    have directory : added.file.directory = file.directory := by
      rw [Located.directory, Located.directory, same]
    refine ⟨declared.isAbsolute (same ▸ anchored.sources added member), declared.normal,
      declared.present, added, member, ?_⟩
    rw [same, directory]
    exact ⟨declared.declaredIn, declared.text⟩
  · intro name location found
    obtain ⟨asset, recorded, same⟩ := List.mem_map.mp (declares.named found)
    obtain ⟨path, label⟩ := Prod.mk.inj same
    exact ⟨asset, recorded, path, label⟩
  · intro asset recorded name label
    exact declares.known (List.mem_map.mpr ⟨asset, recorded, by rw [label]⟩)

/-- A file that gives one name to a location, to another one, and to the first one again. -/
def renamed : MemoryFiles :=
  ((MemoryFiles.empty.insert ⟨"/p/a.js"⟩ ("//= provide \"l\" as \"k\"\n//= provide \"m\" as \"k\"\n" ++
    "//= provide \"m/../l\" as \"k\"\n//= require <k/b>")).insert ⟨"/p/l/b.js"⟩ "b();").insert
    ⟨"/p/m/c.js"⟩ "c();"

theorem renamed_locations_agree :
    ∃ environment session,
      Environment.create renamed.view ⟨"/"⟩ ⟨"p"⟩ = .ok environment ∧
      start.requireAll environment ["a"] = .ok session ∧
      session.resolution.provided =
        [⟨⟨"/p/l"⟩, some "k", ⟨"/p/a.js"⟩, 1⟩, ⟨⟨"/p/m"⟩, some "k", ⟨"/p/a.js"⟩, 2⟩] ∧
      session.aliases = [("k", ⟨"/p/l"⟩)] ∧
      (session.resolution.provided.map fun asset => (asset.path.components, asset.label)).Nodup ∧
      ∀ asset ∈ session.resolution.provided, environment.files.has asset.path = true := by
  obtain ⟨environment, created⟩ :
      ∃ environment, Environment.create renamed.view ⟨"/"⟩ ⟨"p"⟩ = .ok environment :=
    ⟨_, if_neg (by decide)⟩
  have evaluated : ((Environment.create renamed.view ⟨"/"⟩ ⟨"p"⟩).toOption.bind
      fun environment => (start.requireAll environment ["a"]).toOption).map
        (fun session => (session.resolution.provided, session.aliases)) =
      some ([⟨⟨"/p/l"⟩, some "k", ⟨"/p/a.js"⟩, 1⟩, ⟨⟨"/p/m"⟩, some "k", ⟨"/p/a.js"⟩, 2⟩],
        [("k", ⟨"/p/l"⟩)]) := by
    decide +kernel
  rw [created] at evaluated
  obtain ⟨session, finished, books⟩ := Option.map_eq_some_iff.mp evaluated
  obtain ⟨provided, aliases⟩ := Prod.mk.inj books
  have run : start.requireAll environment ["a"] = .ok session := ok_of_toOption finished
  have agree := locations_and_names_agree (.create (by decide) created) run
  exact ⟨environment, session, created, run, provided, aliases, agree.1,
    fun asset recorded => (agree.2.1 asset recorded).2.2.1⟩

end Session

end Splice
