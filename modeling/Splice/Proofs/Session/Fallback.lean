import Splice.Proofs.Files.Memory
import Splice.Proofs.Session.Lookups
import Splice.Proofs.Session.Order

/-!
# Falling back from beside a file

A quoted target is looked for beside the requiring file and then like any other.  What is looked for
there is anything at all, so a directory of that name is taken for the file.  It hides what the
general search would find, and as a directory cannot be read, the session stops.  A session that
succeeds has not met such a directory.
-/

namespace Splice

namespace Session

/-- No spelling of a reference names a stored file beside a file. -/
def NoFileBeside (environment : Environment) (store : MemoryFiles) (file : Located)
    (reference : String) : Prop :=
  ∀ spelling ∈ candidates environment.options reference,
    store.content? (file.directory.anchor ⟨spelling⟩).components = none

instance (environment : Environment) (store : MemoryFiles) (file : Located) (reference : String) :
    Decidable (NoFileBeside environment store file reference) :=
  inferInstanceAs (Decidable (∀ spelling ∈ candidates environment.options reference, _ = none))

/-- The first directory that a spelling of a reference names beside a file. -/
def directoryBeside? (environment : Environment) (store : MemoryFiles) (file : Located)
    (reference : String) : Option Located :=
  ((candidates environment.options reference).find? fun spelling =>
    store.isDirectory (file.directory.anchor ⟨spelling⟩)).map fun spelling =>
      .under file.directory ⟨spelling⟩

/-- A required target is located as if it were not quoted: what the general search finds is called
for, and if it finds nothing, the failure names the file and the line. -/
structure FallsBack (environment : Environment) (session : Session) (file : Located)
    (target : Target) : Prop where
  /-- The general search locates the target. -/
  located : session.locate? environment file target = session.find? environment target.path
  /-- A line with that target follows the general search. -/
  followed : ∀ (call : Session → Located → Except Halt Session) (line : SourceLine),
    line.directive = some (.require target) →
    session.obey environment call file line =
      match session.find? environment target.path with
      | some found => call session found
      | none => .error ⟨.fileNotFound target.written (some (file.path, line.number)), session⟩

variable {environment : Environment} {store : MemoryFiles} {session : Session} {file : Located}
  {target : Target} {reference : String}

theorem fallsBack_iff : FallsBack environment session file target ↔
    session.locate? environment file target = session.find? environment target.path := by
  refine ⟨FallsBack.located, fun located => ⟨located, fun call line asks => ?_⟩⟩
  cases found : session.find? environment target.path <;> simp only [obey, asks, located, found]

/-- Where no file is stored beside a file, only a directory can be found there. -/
theorem findBeside?_of_noFile (inMemory : environment.files = store.view)
    (absent : NoFileBeside environment store file reference) :
    findBeside? environment file reference = directoryBeside? environment store file reference := by
  unfold findBeside? directoryBeside?
  rw [← findSome?_ite]
  refine findSome?_of_mem fun spelling member => ?_
  have implied : environment.files.has (file.directory.anchor ⟨spelling⟩) =
      store.isDirectory (file.directory.anchor ⟨spelling⟩) := by
    rw [inMemory]
    simp [MemoryFiles.view, MemoryFiles.has, absent spelling member]
  simp only [Located.path_under, implied]

theorem locate?_of_noFile (session : Session) (inMemory : environment.files = store.view)
    (quoted : target.delimiter.isQuoted = true)
    (absent : NoFileBeside environment store file target.path) :
    session.locate? environment file target =
      (directoryBeside? environment store file target.path).or
        (session.find? environment target.path) := by
  rw [locate?, if_pos quoted, findBeside?_of_noFile inMemory absent]
  cases directoryBeside? environment store file target.path <;> rfl

/-- A directory found beside a file cannot be read where no file is stored. -/
theorem load_of_directoryBeside (inMemory : environment.files = store.view)
    (absent : NoFileBeside environment store file reference) {hidden : Located}
    (beside : directoryBeside? environment store file reference = some hidden) :
    Source.load environment.files hidden =
      .error (.readSource hidden.path (.noFile hidden.path)) := by
  obtain ⟨spelling, found, rfl⟩ := Option.map_eq_some_iff.mp beside
  have unread : environment.files.readLines (file.directory.anchor ⟨spelling⟩) =
      .error (.noFile (file.directory.anchor ⟨spelling⟩)) := by
    rw [inMemory]
    exact MemoryFiles.readLines_of_unstored (absent spelling (List.mem_of_find?_eq_some found))
  simp only [Source.load, Located.path_under, unread]

/-- In a run that succeeds every file that was called for can be read. -/
theorem Made.load_required {depth : Nat} {entries : List String} {final : Session}
    {outer inner : Call} {line : SourceLine} (made : Made environment depth entries outer)
    (requires : Call.Requires environment outer line inner)
    (run : start.requireAllWithin environment depth entries = .ok final) :
    ∃ source, Source.load environment.files inner.file = .ok source := by
  obtain ⟨call, source, _, _, reads, _, same⟩ :=
    made_of_mem_paths run (made.required_mem requires run)
  obtain ⟨texts, read, _⟩ := Source.load_ok.mp reads.2
  rw [same] at read
  exact ⟨_, Source.load_ok.mpr ⟨texts, read, rfl⟩⟩

/-- A quoted target of which no spelling names a stored file beside the requiring file falls back to
the general search exactly if that search finds the directory, if any, that a spelling names there.
Such a directory is what is located, and it cannot be read.  Therefore every target of this kind
that a successful run comes to falls back. -/
theorem quoted_falls_back_iff (inMemory : environment.files = store.view)
    (quoted : target.delimiter.isQuoted = true) :
    (∀ (session : Session) (file : Located), NoFileBeside environment store file target.path →
      (FallsBack environment session file target ↔
        ∀ hidden, directoryBeside? environment store file target.path = some hidden →
          session.find? environment target.path = some hidden) ∧
      ∀ hidden, directoryBeside? environment store file target.path = some hidden →
        session.locate? environment file target = some hidden ∧
        Source.load environment.files hidden =
          .error (.readSource hidden.path (.noFile hidden.path))) ∧
    ∀ (depth : Nat) (entries : List String) (final moment : Session) (call : Call)
      (line : SourceLine), start.requireAllWithin environment depth entries = .ok final →
      Made environment depth entries call → call.ComesTo environment line moment →
      line.directive = some (.require target) →
      NoFileBeside environment store call.file target.path →
      FallsBack environment moment call.file target := by
  refine ⟨fun session file absent => ⟨?_, fun hidden beside => ⟨?_, ?_⟩⟩, ?_⟩
  · rw [fallsBack_iff, locate?_of_noFile session inMemory quoted absent]
    cases directoryBeside? environment store file target.path with
    | none => simp
    | some hidden => simp [eq_comm]
  · rw [locate?_of_noFile session inMemory quoted absent, beside, Option.some_or]
  · exact load_of_directoryBeside inMemory absent beside
  · intro depth entries final moment call line run made comes asks absent
    have located := locate?_of_noFile moment inMemory quoted absent
    rw [fallsBack_iff, located]
    cases beside : directoryBeside? environment store call.file target.path with
    | none => rfl
    | some hidden =>
        -- The directory was called for, so the run has read it, which cannot be.
        rw [beside, Option.some_or] at located
        obtain ⟨reads, lines, followed⟩ := comes
        obtain ⟨source, loaded⟩ :=
          made.load_required (.call (.follow reads lines followed) asks located) run
        rw [load_of_directoryBeside inMemory absent beside] at loaded
        cases loaded

/-- A library on the load path, and a directory of its name beside the file that requires it. -/
def hiddenLibrary : MemoryFiles :=
  ((MemoryFiles.empty.insert ⟨"/p/a/m.js"⟩ "//= require \"q-1.2\"").insert
    ⟨"/p/a/q-1.2/n"⟩ "").insert ⟨"/p/l/q-1.2.js"⟩ "q();"

/-- The setting in which the library is searched. -/
def librarySearch : Environment :=
  (Environment.ofRoot hiddenLibrary.view ⟨"/p"⟩).withLoadPath [⟨"l"⟩]

/-- The file that requires the library. -/
def libraryUser : Located := .under ⟨"/p"⟩ ⟨"a/m.js"⟩

theorem library_falls_back_unless_hidden :
    NoFileBeside librarySearch hiddenLibrary libraryUser "q-1.2.js" ∧
    FallsBack librarySearch start libraryUser ⟨"q-1.2.js", .singleQuote⟩ ∧
    NoFileBeside librarySearch hiddenLibrary libraryUser "q-1.2" ∧
    ¬ FallsBack librarySearch start libraryUser ⟨"q-1.2", .doubleQuote⟩ := by
  have full : NoFileBeside librarySearch hiddenLibrary libraryUser "q-1.2.js" := by
    decide +kernel
  have short : NoFileBeside librarySearch hiddenLibrary libraryUser "q-1.2" := by
    decide +kernel
  have beside : directoryBeside? librarySearch hiddenLibrary libraryUser "q-1.2" =
      some (.under ⟨"/p/a"⟩ ⟨"q-1.2"⟩) := by
    decide +kernel
  refine ⟨full, ?_, short, ?_⟩
  · refine ((quoted_falls_back_iff rfl rfl).1 start libraryUser full).1.mpr ?_
    intro hidden found
    have nothing : directoryBeside? librarySearch hiddenLibrary libraryUser "q-1.2.js" =
        none := by
      decide +kernel
    rw [nothing] at found
    cases found
  · intro back
    have found := ((quoted_falls_back_iff rfl rfl).1 start libraryUser short).1.mp back _ beside
    exact absurd found (by decide +kernel)

/-- The general search finds the library, but the directory is located in its place, and the session
stops because it cannot be read. -/
theorem library_hidden :
    NoFileBeside librarySearch hiddenLibrary libraryUser "q-1.2" ∧
    start.find? librarySearch "q-1.2" = some (.under ⟨"/p/l"⟩ ⟨"q-1.2.js"⟩) ∧
    start.locate? librarySearch libraryUser ⟨"q-1.2", .doubleQuote⟩ =
      some (.under ⟨"/p/a"⟩ ⟨"q-1.2"⟩) ∧
    librarySearch.resolve "a/m" =
      .error (.readSource ⟨"/p/a/q-1.2"⟩ (.noFile ⟨"/p/a/q-1.2"⟩)) := by
  decide +kernel

end Session

end Splice
