import Splice.Files.Memory
import Splice.Project
import Splice.Proofs.Session.Calls

/-!
# What a run only adds to

Every step of a run goes on from what the steps before it have left, also the step at which it
fails.  A relation from earlier to later sessions that single steps respect is therefore respected
by calls, however deep they are nested, and by whole runs.  In particular further entries add files
and locations behind those that are there, and change none of them.
-/

namespace Splice

namespace Session

/-! ## Steps and calls -/

/-- The session that an outcome leaves behind, whether or not it is a success. -/
def remains : Except Halt Session → Session
  | .ok session => session
  | .error halt => halt.session

/-- A relation from earlier to later sessions that every single step respects. -/
structure Onward (environment : Environment) (Goes : Session → Session → Prop) : Prop where
  /-- Standing still is respected. -/
  refl : ∀ session, Goes session session
  /-- Steps may follow each other. -/
  trans : ∀ {first second third : Session}, Goes first second → Goes second third →
    Goes first third
  /-- Reports are respected. -/
  note : ∀ session event, Goes session (session.note event)
  /-- Declared locations are respected. -/
  provide : ∀ {session after : Session} {file : Located} {number : Nat} {location : String}
    {label : Option String},
    session.provide environment file number location label = .ok after → Goes session after
  /-- Files may be entered. -/
  enter : ∀ session path, Goes session (session.enter path)
  /-- Files may be added. -/
  emit : ∀ session file lines, Goes session (session.emit file lines)

namespace Onward

variable {environment : Environment} {Goes : Session → Session → Prop} {depth : Nat}

theorem bind (onward : Onward environment Goes) {session : Session}
    {outcome : Except Halt Session} {step : Session → Except Halt Session}
    (first : Goes session (remains outcome)) (later : ∀ next, Goes next (remains (step next))) :
    Goes session (remains (outcome >>= step)) := by
  cases outcome with
  | error halt => exact first
  | ok next => exact onward.trans first (later next)

theorem obey (onward : Onward environment Goes)
    (nested : ∀ session found, Goes session (remains (visit environment depth session found)))
    (file : Located) (session : Session) (line : SourceLine) :
    Goes session (remains (session.obey environment (Session.visit environment depth) file line)) := by
  cases run : session.obey environment (Session.visit environment depth) file line with
  | ok after =>
      rcases obey_ok run with ⟨_, rfl⟩ | ⟨_, _, _, declared⟩ | ⟨_, found, _, _, called⟩
      · exact onward.refl _
      · exact onward.provide declared
      · exact called ▸ nested session found
  | error halt =>
      rcases obey_error run with ⟨_, _, _, _, rfl⟩ | ⟨_, _, _, rfl⟩ | ⟨_, found, _, _, called⟩
      · exact onward.refl _
      · exact onward.refl _
      · exact called ▸ nested session found

theorem follow (onward : Onward environment Goes)
    (nested : ∀ session found, Goes session (remains (visit environment depth session found)))
    (file : Located) (session : Session) (lines : List SourceLine) :
    Goes session (remains (session.follow environment depth file lines)) := by
  induction lines generalizing session with
  | nil => exact onward.refl _
  | cons line rest ih =>
      rw [Session.follow, List.foldlM_cons]
      exact onward.bind (onward.obey nested file session line) ih

/-- Whatever becomes of a call, it goes on from the session it meets. -/
theorem visit (onward : Onward environment Goes) (session : Session) (file : Located) :
    Goes session (remains (visit environment depth session file)) := by
  induction depth generalizing session file with
  | zero => exact onward.refl _
  | succ depth ih =>
      have entered := onward.enter session file.path
      have read (source : Source) := onward.trans entered (onward.follow ih file _ source.lines)
      cases run : Session.visit environment (depth + 1) session file with
      | ok after =>
          rcases visit_ok run with ⟨_, rfl⟩ | ⟨_, _, rfl⟩ | ⟨_, source, _, _, _, followed, _, rfl⟩
          · exact onward.note _ _
          · exact onward.note _ _
          · have finished := read source
            rw [followed] at finished
            exact onward.trans finished (onward.emit _ _ _)
      | error halt =>
          rcases visit_error run with ⟨_, _, _, rfl⟩ | ⟨_, _, _, rfl⟩ |
            ⟨_, source, _, stopped | ⟨_, _, followed, _, rfl⟩⟩
          · exact onward.refl _
          · exact entered
          · exact stopped ▸ read source
          · have finished := read source
            rwa [followed] at finished

theorem requireWithin (onward : Onward environment Goes) (session : Session) (entry : String) :
    Goes session (remains (session.requireWithin environment depth entry)) := by
  unfold Session.requireWithin
  split
  · exact onward.visit _ _
  · exact onward.refl _

theorem requireAll (onward : Onward environment Goes) (session : Session) (entries : List String) :
    Goes session (remains (session.requireAllWithin environment depth entries)) := by
  induction entries generalizing session with
  | nil => exact onward.refl _
  | cons entry entries ih =>
      rw [requireAllWithin, List.foldlM_cons]
      exact onward.bind (onward.requireWithin session entry) ih

theorem follow_ok (onward : Onward environment Goes) {file : Located} {session after : Session}
    {lines : List SourceLine} (run : session.follow environment depth file lines = .ok after) :
    Goes session after := by
  have read : Goes session (remains (session.follow environment depth file lines)) :=
    onward.follow onward.visit file session lines
  rwa [run] at read

theorem run_ok (onward : Onward environment Goes) {call : Call} {done : Session}
    (run : call.run environment = .ok done) : Goes call.session done := by
  have goes : Goes call.session (remains (call.run environment)) := onward.visit _ _
  rwa [run] at goes

/-- A call for a required file goes on from the call that makes it, which goes on from what becomes
of it. -/
theorem requires (onward : Onward environment Goes) {outer inner : Call} {line : SourceLine}
    {after : Session} (requires : Call.Requires environment outer line inner)
    (run : outer.run environment = .ok after) :
    ∃ done, inner.run environment = .ok done ∧ Goes outer.session inner.session ∧
      Goes done after := by
  obtain ⟨⟨reads, lines, before⟩, asks, found⟩ := requires
  obtain ⟨depth, read, rendered, deep, all, _, rfl⟩ := reads.run_ok run
  obtain rfl := Nat.succ.inj deep
  rw [lines] at all
  obtain ⟨moment, first, later⟩ := foldlM_append_ok.mp all
  obtain rfl := Except.ok.inj (before.symm.trans first)
  obtain ⟨done, obeyed, others⟩ := foldlM_cons_ok.mp later
  refine ⟨done, ?_, onward.trans (onward.enter _ _) (onward.follow_ok before),
    onward.trans (onward.follow_ok others) (onward.emit _ _ _)⟩
  simpa [Call.run, Session.obey, asks, found] using obeyed

/-- A nested call goes on from the outermost one, which goes on from what becomes of it. -/
theorem nested (onward : Onward environment Goes) {top call : Call} {level : Nat} {after : Session}
    (nested : Call.Nested environment top level call) (run : top.run environment = .ok after) :
    ∃ done, call.run environment = .ok done ∧ Goes top.session call.session ∧
      Goes done after := by
  induction nested with
  | top => exact ⟨after, run, onward.refl _, onward.refl _⟩
  | step _ requires ih =>
      obtain ⟨outer, finished, before, later⟩ := ih
      obtain ⟨done, inner, called, gone⟩ := onward.requires requires finished
      exact ⟨done, inner, onward.trans before called, onward.trans gone later⟩

end Onward

end Session

/-! ## What was gathered stays in front -/

namespace Resolution

/-- The later resolution opens with the earlier one: its files with their lines and its locations
come first, all of them, unchanged and in the same order. -/
structure OpensWith (later earlier : Resolution) : Prop where
  /-- The files come first. -/
  sources : earlier.sources <+: later.sources
  /-- The locations come first. -/
  provided : earlier.provided <+: later.provided

theorem OpensWith.refl (resolution : Resolution) : resolution.OpensWith resolution :=
  ⟨List.prefix_rfl, List.prefix_rfl⟩

theorem OpensWith.trans {first second third : Resolution} (late : third.OpensWith second)
    (early : second.OpensWith first) : third.OpensWith first :=
  ⟨early.sources.trans late.sources, early.provided.trans late.provided⟩

theorem opensWith_addSource (resolution : Resolution) (source : Rendered) :
    (resolution.addSource source).OpensWith resolution :=
  ⟨List.prefix_append _ _, List.prefix_rfl⟩

theorem opensWith_addAsset (resolution : Resolution) (asset : Asset) :
    (resolution.addAsset asset).OpensWith resolution := by
  unfold addAsset
  split
  · exact .refl _
  · exact ⟨List.prefix_rfl, List.prefix_append _ _⟩

end Resolution

namespace Session

/-- Every step leaves what was gathered in front. -/
theorem onward_resolution (environment : Environment) :
    Onward environment fun before after => after.resolution.OpensWith before.resolution where
  refl _ := .refl _
  trans early late := late.trans early
  note _ _ := .refl _
  provide run := by
    rw [resolution_of_provide run]
    exact Resolution.opensWith_addAsset _ _
  enter _ _ := .refl _
  emit _ _ _ := Resolution.opensWith_addSource _ _

/-! ## Further entries -/

/-- The calls that are made while entries are added to a session: those for the entries, each made
after the entries before it were added, and those nested in them. -/
inductive MadeFrom (environment : Environment) (depth : Nat) (session : Session)
    (entries : List String) : Call → Prop
  | nested {before after : List String} {entry : String} {moment : Session} {file : Located}
      {level : Nat} {call : Call} :
      entries = before ++ entry :: after →
      session.requireAllWithin environment depth before = .ok moment →
      moment.find? environment entry = some file →
      Call.Nested environment ⟨depth, moment, file⟩ level call →
      MadeFrom environment depth session entries call

variable {environment : Environment} {depth : Nat}

theorem Onward.requireAll_ok {Goes : Session → Session → Prop} (onward : Onward environment Goes)
    {session after : Session} {entries : List String}
    (run : session.requireAllWithin environment depth entries = .ok after) : Goes session after := by
  have goes : Goes session (remains (session.requireAllWithin environment depth entries)) :=
    onward.requireAll session entries
  rwa [run] at goes

/-- A call made while entries are added goes on from the session that they are added to, and what
comes of them goes on from it. -/
theorem Onward.madeFrom {Goes : Session → Session → Prop} (onward : Onward environment Goes)
    {session final : Session} {entries : List String} {call : Call}
    (made : MadeFrom environment depth session entries call)
    (run : session.requireAllWithin environment depth entries = .ok final) :
    ∃ done, call.run environment = .ok done ∧ Goes session call.session ∧ Goes done final := by
  obtain ⟨parts, earlier, place, nested⟩ := made
  rw [parts] at run
  obtain ⟨moment, first, later⟩ := foldlM_append_ok.mp run
  obtain rfl := Except.ok.inj (earlier.symm.trans first)
  obtain ⟨next, entered, others⟩ := foldlM_cons_ok.mp later
  obtain ⟨file, found, called⟩ := requireWithin_ok entered
  obtain rfl := Option.some.inj (place.symm.trans found)
  obtain ⟨done, finished, before, after⟩ := onward.nested nested called
  exact ⟨done, finished, onward.trans (onward.requireAll_ok earlier) before,
    onward.trans after (onward.requireAll_ok others)⟩

end Session

theorem Project.resolve_ok {project : Project} {resolution : Resolution} {events : List Event} :
    project.resolve = .ok (resolution, events) ↔
      project.sourceFiles ≠ [] ∧ ∃ session,
        Session.start.requireAll project.environment project.sourceFiles = .ok session ∧
        resolution = session.resolution ∧ events = session.trace := by
  unfold resolve
  by_cases empty : project.sourceFiles = []
  · simp [empty]
  · simp only [empty, if_false, ne_eq, not_false_eq_true, true_and]
    cases Session.start.requireAll project.environment project.sourceFiles with
    | error halt => simp
    | ok session => simp [eq_comm]

namespace Session

/-- If entries and then further ones can be added, so can the former alone, and their files with
their lines and their locations come first in what all of them give.  On the way from there to the
end every call, however nested, keeps what it meets in front of what it leaves behind, and so does
any call that fails.  The same holds of projects. -/
theorem further_entries_append (environment : Environment) {first further : List String}
    (proper : first ≠ []) :
    (∀ depth final, start.requireAllWithin environment depth (first ++ further) = .ok final →
      ∃ middle, start.requireAllWithin environment depth first = .ok middle ∧
        final.resolution.OpensWith middle.resolution ∧
        ∀ call, MadeFrom environment depth middle further call →
          ∃ done, call.run environment = .ok done ∧
            call.session.resolution.OpensWith middle.resolution ∧
            done.resolution.OpensWith call.session.resolution ∧
            final.resolution.OpensWith done.resolution) ∧
    (∀ call : Call,
      (remains (call.run environment)).resolution.OpensWith call.session.resolution) ∧
    ∀ project : Project, project.environment = environment →
      project.sourceFiles = first ++ further →
      ∀ resolution events, project.resolve = .ok (resolution, events) →
        ∃ earlier reported,
          { project with sourceFiles := first }.resolve = .ok (earlier, reported) ∧
          resolution.OpensWith earlier := by
  have onward := onward_resolution environment
  refine ⟨?_, fun call => onward.visit _ _, ?_⟩
  · intro depth final run
    obtain ⟨middle, earlier, later⟩ := foldlM_append_ok.mp run
    refine ⟨middle, earlier, onward.requireAll_ok later, fun call made => ?_⟩
    obtain ⟨done, finished, before, after⟩ := onward.madeFrom made later
    exact ⟨done, finished, before, onward.run_ok finished, after⟩
  · rintro project rfl entries resolution events resolved
    obtain ⟨_, final, run, rfl, rfl⟩ := Project.resolve_ok.mp resolved
    rw [entries] at run
    obtain ⟨middle, earlier, later⟩ := foldlM_append_ok.mp run
    exact ⟨middle.resolution, middle.trace,
      Project.resolve_ok.mpr ⟨proper, middle, earlier, rfl, rfl⟩, onward.requireAll_ok later⟩

/-- Two entries that share a file, of which the second uses a name that the first one gives. -/
def sharedFile : MemoryFiles :=
  ((MemoryFiles.empty.insert ⟨"/p/a.js"⟩ "//= require <b>\n//= provide \"b.js\" as \"k\"").insert
    ⟨"/p/b.js"⟩ "b();").insert ⟨"/p/c.js"⟩ "//= require <k>\n//= provide \"a.js\""

theorem sharedFile_appends :
    ∃ environment middle final,
      environment = Environment.ofRoot sharedFile.view ⟨"/p"⟩ ∧
      start.requireAll environment ["a"] = .ok middle ∧
      start.requireAll environment ["a", "c"] = .ok final ∧
      middle.resolution.paths = [⟨"/p/b.js"⟩, ⟨"/p/a.js"⟩] ∧
      final.resolution.paths = [⟨"/p/b.js"⟩, ⟨"/p/a.js"⟩, ⟨"/p/c.js"⟩] ∧
      final.resolution.provided.map (·.path) = [⟨"/p/b.js"⟩, ⟨"/p/a.js"⟩] ∧
      final.resolution.OpensWith middle.resolution ∧
      ∃ earlier reported, Project.resolve ⟨environment, ["a"], none, none⟩ = .ok (earlier, reported) ∧
        final.resolution.OpensWith earlier := by
  obtain ⟨environment, made⟩ :
      ∃ environment, environment = Environment.ofRoot sharedFile.view ⟨"/p"⟩ := ⟨_, rfl⟩
  have one : (start.requireAll environment ["a"]).toOption.map (·.resolution.paths) =
      some [⟨"/p/b.js"⟩, ⟨"/p/a.js"⟩] := by
    rw [made]
    decide +kernel
  have both : (start.requireAll environment ["a", "c"]).toOption.map
      (fun session => (session.resolution.paths, session.resolution.provided.map (·.path))) =
      some ([⟨"/p/b.js"⟩, ⟨"/p/a.js"⟩, ⟨"/p/c.js"⟩], [⟨"/p/b.js"⟩, ⟨"/p/a.js"⟩]) := by
    rw [made]
    decide +kernel
  obtain ⟨final, finished, gathered⟩ := Option.map_eq_some_iff.mp both
  have run : start.requireAll environment ["a", "c"] = .ok final := ok_of_toOption finished
  obtain ⟨sessions, _, projects⟩ :=
    @further_entries_append environment ["a"] ["c"] (List.cons_ne_nil _ _)
  obtain ⟨middle, earlier, opens, _⟩ := sessions _ final run
  have resolved : Project.resolve ⟨environment, ["a", "c"], none, none⟩ =
      .ok (final.resolution, final.trace) :=
    Project.resolve_ok.mpr ⟨List.cons_ne_nil _ _, final, run, rfl, rfl⟩
  have paths : middle.resolution.paths = [⟨"/p/b.js"⟩, ⟨"/p/a.js"⟩] := by
    have here : start.requireAll environment ["a"] = .ok middle := earlier
    simpa [here, Except.toOption] using one
  obtain ⟨files, locations⟩ := Prod.mk.inj gathered
  exact ⟨environment, middle, final, made, earlier, run, paths, files, locations, opens,
    projects ⟨environment, ["a", "c"], none, none⟩ rfl rfl _ _ resolved⟩

end Session

end Splice
