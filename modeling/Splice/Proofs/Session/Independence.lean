import Splice.Proofs.Files.Memory
import Splice.Proofs.Session.Agreement
import Splice.Proofs.Session.Lookups
import Splice.Proofs.Source.Blocks

/-!
# What a session does not depend on

Which files a session includes depends neither on constants nor on whether comments are stripped,
and stripping them leaves lines out of files that can be built with them.  The contents of files
that a session does not include have no part in it either.
-/

namespace Splice

namespace Session

/-! ## The same searches -/

section Searches

variable {one other : Environment} (loadPath : other.loadPath = one.loadPath)
  (extension : other.options.extension = one.options.extension)

include loadPath extension

theorem find?_eq (has : other.files.has = one.files.has) (session : Session) (reference : String) :
    session.find? other reference = session.find? one reference := by
  rw [find?_eq_first?, find?_eq_first?, probes_eq session loadPath extension, Files.first?,
    Files.first?, has]

theorem locate?_eq (has : other.files.has = one.files.has) (session : Session) (file : Located)
    (target : Target) : session.locate? other file target = session.locate? one file target := by
  rw [locate?_eq_first?, locate?_eq_first?, probesFrom_eq session loadPath extension, Files.first?,
    Files.first?, has]

end Searches

/-! ## Rendering -/

/-- What can be rendered with its comments can be rendered without them, and lines are left out. -/
theorem render_stripped {constants : Constants} {source : Source} {lines : List String}
    (rendered : source.render constants false = .ok lines) :
    ∃ others, source.render constants true = .ok others ∧ others.Sublist lines := by
  rw [Source.render_eq] at rendered ⊢
  exact mapM_sublist (Source.strip_sublist _) rendered

/-- In environments over the same files that search alike, all calls go alike if what is rendered in
the one is rendered in the other, or if it does not matter whether it is. -/
theorem alike_of_files {Lines : List String → List String → Prop} {Excused : Failure → Prop}
    {one other : Environment} {depth : Nat} {entries : List String}
    (files : other.files = one.files) (loadPath : other.loadPath = one.loadPath)
    (extension : other.options.extension = one.options.extension)
    (cycles : other.options.cycles = one.options.cycles)
    (rendered : ∀ {source : Source} {lines : List String},
      source.render one.constants one.options.stripComments = .ok lines →
        (∃ others, source.render other.constants other.options.stripComments = .ok others ∧
          Lines lines others) ∨
        ∃ failure, source.render other.constants other.options.stripComments = .error failure ∧
          Excused failure) :
    Alike Lines Excused (Made one depth entries) one other where
  cycles
  has present := files ▸ present
  rendered
  nested made requires := made.requires requires
  located _ _ _ := locate?_eq loadPath extension (by rw [files]) _ _ _
  loaded _ reads := files ▸ reads.2

/-- Two environments over the same files that search alike and treat cycles alike may differ in
their constants and in whether comments are stripped.  If sessions over the same entries succeed in
both, they include the same files in the same order and provide the same locations.  If the
constants are the same as well and the session that keeps comments succeeds, so does the one that
strips them, and the lines of each of its files are among those with comments kept, in the same
order. -/
theorem inclusion_ignores_rendering {one other : Environment} (files : other.files = one.files)
    (loadPath : other.loadPath = one.loadPath)
    (extension : other.options.extension = one.options.extension)
    (cycles : other.options.cycles = one.options.cycles) (depth : Nat) (entries : List String) :
    (∀ left right, start.requireAllWithin one depth entries = .ok left →
      start.requireAllWithin other depth entries = .ok right →
        right.resolution.sources.map (·.file) = left.resolution.sources.map (·.file) ∧
        right.resolution.provided = left.resolution.provided) ∧
    (other.constants = one.constants → one.options.stripComments = false →
      other.options.stripComments = true →
      ∀ kept, start.requireAllWithin one depth entries = .ok kept →
        ∃ stripped, start.requireAllWithin other depth entries = .ok stripped ∧
          List.Forall₂ (fun full short => short.file = full.file ∧ short.lines.Sublist full.lines)
            kept.resolution.sources stripped.resolution.sources) := by
  have entered (session : Session) (entry : String) :
      session.find? other entry = session.find? one entry :=
    find?_eq loadPath extension (by rw [files]) session entry
  constructor
  · intro left right here there
    have alike : Alike (fun _ _ => True) (fun _ => True) (Made one depth entries) one other := by
      refine alike_of_files files loadPath extension cycles fun {source lines} _ => ?_
      cases source.render other.constants other.options.stripComments with
      | error failure => exact .inr ⟨failure, rfl, trivial⟩
      | ok others => exact .inl ⟨others, rfl, trivial⟩
    rcases follows_requireAll alike (fun _ _ => entered _ _) left here with
      ⟨done, run, matched⟩ | ⟨halt, stopped, _⟩
    · obtain rfl := Except.ok.inj (there.symm.trans run)
      exact ⟨matched.files_eq, matched.provided⟩
    · simp [there] at stopped
  · intro constants keeps strips kept here
    have alike : Alike (fun full short => short.Sublist full) (fun _ => False)
        (Made one depth entries) one other := by
      refine alike_of_files files loadPath extension cycles fun rendered => .inl ?_
      rw [keeps] at rendered
      rw [constants, strips]
      exact render_stripped rendered
    rcases follows_requireAll alike (fun _ _ => entered _ _) kept here with
      ⟨stripped, run, matched⟩ | ⟨_, _, impossible⟩
    · exact ⟨stripped, run, matched.sources⟩
    · exact impossible.elim

/-- A file with a comment and a placeholder that requires one with a documentation block. -/
def commented : MemoryFiles :=
  (MemoryFiles.empty.insert ⟨"/p/a.js"⟩
    "//= provide \"b.js\" as \"k\"\n//= require <k>\n// note\nrun('<%= V %>');").insert
    ⟨"/p/b.js"⟩ "/** block\n **/\nb();"

/-- An environment over files with a value for the placeholder. -/
def valued (store : MemoryFiles) (value : String) (stripComments : Bool) : Environment :=
  ((Environment.ofRoot store.view ⟨"/p"⟩).withConstants (.ofList [("V", .text value)])).withOptions
    { stripComments }

theorem commented_inclusion :
    ∃ kept stripped changed : Session,
      start.requireAll (valued commented "1" false) ["a"] = .ok kept ∧
      start.requireAll (valued commented "1" true) ["a"] = .ok stripped ∧
      start.requireAll (valued commented "2" true) ["a"] = .ok changed ∧
      changed.resolution.sources.map (·.file) = kept.resolution.sources.map (·.file) ∧
      changed.resolution.provided = kept.resolution.provided ∧
      List.Forall₂ (fun full short => short.file = full.file ∧ short.lines.Sublist full.lines)
        kept.resolution.sources stripped.resolution.sources := by
  have first : (start.requireAll (valued commented "1" false) ["a"]).toOption.isSome = true := by
    decide +kernel
  have second : (start.requireAll (valued commented "2" true) ["a"]).toOption.isSome = true := by
    decide +kernel
  obtain ⟨kept, keeping⟩ := Option.isSome_iff_exists.mp first
  obtain ⟨changed, changing⟩ := Option.isSome_iff_exists.mp second
  have run := ok_of_toOption keeping
  have again := ok_of_toOption changing
  have alike (value : String) := @inclusion_ignores_rendering (valued commented "1" false)
    (valued commented value true) rfl rfl rfl rfl (depthBound (valued commented "1" false)) ["a"]
  obtain ⟨files, provided⟩ := (alike "2").1 kept changed run again
  obtain ⟨stripped, stripping, shorter⟩ := (alike "1").2 rfl rfl rfl kept run
  exact ⟨kept, stripped, changed, run, stripping, again, files, provided, shorter⟩

end Session

/-! ## Contents -/

namespace Session

/-- Two stores hold files at the same paths, and two environments over them are alike otherwise.  If
a session succeeds over the one store and the other store has the same content at each path that it
includes, the same entries succeed over the other store, with the same files, the same rendered
lines and the same provided locations. -/
theorem contents_elsewhere_ignored {one other : Environment} {store edited : MemoryFiles}
    (first : one.files = store.view) (second : other.files = edited.view)
    (paths : ∀ key, (edited.content? key).isSome = (store.content? key).isSome)
    (loadPath : other.loadPath = one.loadPath) (options : other.options = one.options)
    (constants : other.constants = one.constants) {entries : List String} {session : Session}
    (run : start.requireAll one entries = .ok session)
    (same : ∀ path ∈ session.resolution.paths,
      edited.content? path.components = store.content? path.components) :
    ∃ again, start.requireAll other entries = .ok again ∧
      again.resolution = session.resolution := by
  have has : other.files.has = one.files.has := by
    rw [first, second]
    exact MemoryFiles.has_eq paths
  have extension : other.options.extension = one.options.extension := by rw [options]
  have alike : Alike Eq (fun _ => False) (Made one (depthBound one) entries) one other := by
    refine
      { cycles := by rw [options]
        has := fun present => has ▸ present
        rendered := fun {source lines} rendered => .inl ⟨lines, ?_, rfl⟩
        nested := fun made requires => made.requires requires
        located := fun _ _ _ => locate?_eq loadPath extension has _ _ _
        loaded := fun {call source} made reads => ?_ }
    · rw [constants, options]
      exact rendered
    · -- The run succeeds, so a file that it reads ends up among those it includes.
      have included : call.file.path ∈ session.resolution.paths :=
        (coherent_of_run run).gathered ▸ made.mem_emitted reads run
      obtain ⟨texts, read, parsed⟩ := Source.load_ok.mp reads.2
      refine Source.load_ok.mpr ⟨texts, ?_, parsed⟩
      rw [first] at read
      rw [second]
      exact (MemoryFiles.readLines_eq (same _ included)).trans read
  rcases follows_requireAll alike (fun _ _ => find?_eq loadPath extension has _ _) session run with
    ⟨again, finished, matched⟩ | ⟨_, _, impossible⟩
  · have enumerated : other.files.Enumerated := second ▸ edited.enumerated
    exact ⟨again, requireAll_of_within enumerated finished, matched.resolution_eq⟩
  · exact impossible.elim

/-- The commented files with one more file, which none of them requires. -/
def commentedBeside (content : String) : MemoryFiles := commented.insert ⟨"/p/c.js"⟩ content

theorem commentedBeside_ignored :
    ∃ (one other : Environment) (session again : Session),
      one.files = (commentedBeside "//= require <missing>").view ∧
      other.files = (commentedBeside "c('<%= W %>');").view ∧
      start.requireAll one ["a"] = .ok session ∧ start.requireAll other ["a"] = .ok again ∧
      session.resolution.paths = [⟨"/p/b.js"⟩, ⟨"/p/a.js"⟩] ∧
      again.resolution = session.resolution := by
  let one := valued (commentedBeside "//= require <missing>") "1" true
  let other := valued (commentedBeside "c('<%= W %>');") "1" true
  have evaluated : (start.requireAll one ["a"]).toOption.map (fun session =>
      session.resolution.paths) = some [⟨"/p/b.js"⟩, ⟨"/p/a.js"⟩] := by
    decide +kernel
  obtain ⟨session, finished, found⟩ := Option.map_eq_some_iff.mp evaluated
  have run := ok_of_toOption finished
  have paths (key : List Path.Component) :
      ((commentedBeside "c('<%= W %>');").content? key).isSome =
        ((commentedBeside "//= require <missing>").content? key).isSome := by
    rw [Bool.eq_iff_iff, ← MemoryFiles.mem_keys_iff, ← MemoryFiles.mem_keys_iff]
    exact Iff.rfl
  have constants {environment : Environment} (none : environment.pool.found.table.isEmpty = true)
      (merged : environment.constants = Table.overlay environment.pool.found [("V", .text "1")]) :
      environment.constants = Table.overlay [] [("V", .text "1")] := by
    rw [merged, List.isEmpty_iff.mp none]
  have alike : other.constants = one.constants :=
    (constants (by decide +kernel) rfl).trans (constants (by decide +kernel) rfl).symm
  have loadPath (store : MemoryFiles) :
      (valued store "1" true).loadPath = ⟨[Path.anchor ⟨"/p"⟩ ⟨"."⟩]⟩ := rfl
  have options (store : MemoryFiles) :
      (valued store "1" true).options = { stripComments := true } := rfl
  have unchanged : ∀ path ∈ session.resolution.paths,
      (commentedBeside "c('<%= W %>');").content? path.components =
        (commentedBeside "//= require <missing>").content? path.components := by
    rw [found]
    decide +kernel
  obtain ⟨again, succeeded, same⟩ := @contents_elsewhere_ignored one other _ _ rfl rfl paths
    ((loadPath _).trans (loadPath _).symm) ((options _).trans (options _).symm) alike ["a"] session
    run unchanged
  exact ⟨one, other, session, again, rfl, rfl, run, succeeded, found, same⟩

end Session

end Splice
