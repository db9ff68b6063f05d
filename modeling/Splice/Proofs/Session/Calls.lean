import Mathlib.Data.List.Induction
import Mathlib.Data.List.Nodup
import Mathlib.Logic.Relation
import Splice.Proofs.Source.Rendering
import Splice.Session

/-!
# Calls of a session

While a file is read, the files that it requires are called for, and they call for others.  This
file says what one call does, what a successful call leaves alone, which calls are nested in a call,
and how a property of sessions is carried through a whole run.
-/

namespace Splice

/-! ## Sources -/

theorem Source.load_ok {files : Files} {file : Located} {source : Source} :
    Source.load files file = .ok source ↔
      ∃ texts, files.readLines file.path = .ok texts ∧ Source.ofTexts file texts = source := by
  unfold Source.load
  cases files.readLines file.path with
  | error cause => simp
  | ok texts => simp

theorem Source.load_error {files : Files} {file : Located} {failure : Failure}
    (failed : Source.load files file = .error failure) :
    ∃ cause, files.readLines file.path = .error cause ∧ failure = .readSource file.path cause := by
  unfold Source.load at failed
  split at failed
  · simp at failed
  · rename_i cause unread
    exact ⟨cause, unread, (Except.error.inj failed).symm⟩

theorem Source.render_error {constants : Constants} {stripComments : Bool} {source : Source}
    {failure : Failure} (failed : source.render constants stripComments = .error failure) :
    ∃ line ∈ Source.kept stripComments source.lines, ∃ expression,
      Template.render constants line.text = .error expression ∧
      failure = .undefinedConstant expression source.file.path line.number := by
  rw [Source.render_eq] at failed
  obtain ⟨_, line, _, parts, _, unrendered⟩ := mapM_error_iff.mp failed
  obtain ⟨expression, missing, cause⟩ := SourceLine.render_error_iff.mp unrendered
  exact ⟨line, by simp [parts], expression, missing, cause⟩

namespace Session

/-! ## One call -/

/-- A path that has not been added and is not being read. -/
def Fresh (session : Session) (path : Path) : Prop :=
  path ∉ session.emitted ∧ path ∉ session.inProgress

/-- Follows lines of a file in order, with requires nested at most `depth` deep. -/
def follow (environment : Environment) (depth : Nat) (file : Located) (session : Session)
    (lines : List SourceLine) : Except Halt Session :=
  lines.foldlM (obey environment (visit environment depth) file) session

/-- A file that has been added is not read again. -/
theorem visit_of_emitted {environment : Environment} {depth : Nat} {session : Session}
    {file : Located} (added : file.path ∈ session.emitted) :
    visit environment (depth + 1) session file =
      .ok (session.note (.alreadyIncluded file.path)) := by
  rw [visit, if_pos added]

/-- A file that is being read is left to the cycle policy. -/
theorem visit_of_inProgress {environment : Environment} {depth : Nat} {session : Session}
    {file : Located} (new : file.path ∉ session.emitted) (reading : file.path ∈ session.inProgress) :
    visit environment (depth + 1) session file = session.onCycle environment file.path := by
  rw [visit, if_neg new, if_pos reading]

/-- A fresh file is read, its lines are followed, and then it is rendered and added. -/
theorem visit_of_fresh {environment : Environment} {depth : Nat} {session : Session}
    {file : Located} (fresh : session.Fresh file.path) :
    visit environment (depth + 1) session file =
      match Source.load environment.files file with
      | .error failure => .error ⟨failure, session.enter file.path⟩
      | .ok source =>
        match (session.enter file.path).follow environment depth file source.lines with
        | .error halt => .error halt
        | .ok read =>
          match source.render environment.constants environment.options.stripComments with
          | .error failure => .error ⟨failure, read⟩
          | .ok lines => .ok (read.emit file lines) := by
  rw [visit, if_neg fresh.1, if_neg fresh.2]
  rfl

/-- Renders a file that has been read to its end and adds it. -/
def finish (environment : Environment) (file : Located) (source : Source) (session : Session) :
    Except Halt Session :=
  match source.render environment.constants environment.options.stripComments with
  | .error failure => .error ⟨failure, session⟩
  | .ok lines => .ok (session.emit file lines)

/-- A fresh file that can be read is followed and then finished. -/
theorem visit_of_load {environment : Environment} {depth : Nat} {session : Session}
    {file : Located} {source : Source} (fresh : session.Fresh file.path)
    (loaded : Source.load environment.files file = .ok source) :
    visit environment (depth + 1) session file =
      (session.enter file.path).follow environment depth file source.lines >>=
        finish environment file source := by
  rw [visit_of_fresh fresh, loaded]
  simp only
  cases (session.enter file.path).follow environment depth file source.lines with
  | error halt => rfl
  | ok read => rfl

theorem visit_of_load_error {environment : Environment} {depth : Nat} {session : Session}
    {file : Located} {failure : Failure} (fresh : session.Fresh file.path)
    (unread : Source.load environment.files file = .error failure) :
    visit environment (depth + 1) session file = .error ⟨failure, session.enter file.path⟩ := by
  rw [visit_of_fresh fresh, unread]

/-- All that a successful call can have done. -/
theorem visit_ok {environment : Environment} {depth : Nat} {session after : Session}
    {file : Located} (run : visit environment (depth + 1) session file = .ok after) :
    (file.path ∈ session.emitted ∧ after = session.note (.alreadyIncluded file.path)) ∨
    (file.path ∈ session.inProgress ∧ environment.options.cycles = .tolerate ∧
      after = session.note (.skippedCycle file.path)) ∨
    (session.Fresh file.path ∧ ∃ source read lines,
      Source.load environment.files file = .ok source ∧
      (session.enter file.path).follow environment depth file source.lines = .ok read ∧
      source.render environment.constants environment.options.stripComments = .ok lines ∧
      after = read.emit file lines) := by
  by_cases added : file.path ∈ session.emitted
  · rw [visit_of_emitted added] at run
    exact .inl ⟨added, (Except.ok.inj run).symm⟩
  by_cases reading : file.path ∈ session.inProgress
  · rw [visit_of_inProgress added reading, onCycle] at run
    cases policy : environment.options.cycles with
    | tolerate =>
        rw [policy] at run
        exact .inr (.inl ⟨reading, rfl, (Except.ok.inj run).symm⟩)
    | fail => simp [policy] at run
  · rw [visit_of_fresh ⟨added, reading⟩] at run
    split at run
    · simp at run
    · rename_i source loaded
      split at run
      · simp at run
      · rename_i read followed
        split at run
        · simp at run
        · rename_i lines rendered
          exact .inr (.inr ⟨⟨added, reading⟩, source, read, lines, loaded, followed, rendered,
            (Except.ok.inj run).symm⟩)

/-- All that can make a call fail. -/
theorem visit_error {environment : Environment} {depth : Nat} {session : Session} {halt : Halt}
    {file : Located} (run : visit environment (depth + 1) session file = .error halt) :
    (file.path ∉ session.emitted ∧ file.path ∈ session.inProgress ∧
      environment.options.cycles = .fail ∧
      halt = ⟨.circularRequire (session.chainTo file.path), session⟩) ∨
    (session.Fresh file.path ∧ ∃ failure, Source.load environment.files file = .error failure ∧
      halt = ⟨failure, session.enter file.path⟩) ∨
    (session.Fresh file.path ∧ ∃ source, Source.load environment.files file = .ok source ∧
      ((session.enter file.path).follow environment depth file source.lines = .error halt ∨
        ∃ read failure,
          (session.enter file.path).follow environment depth file source.lines = .ok read ∧
          source.render environment.constants environment.options.stripComments = .error failure ∧
          halt = ⟨failure, read⟩)) := by
  by_cases added : file.path ∈ session.emitted
  · simp [visit_of_emitted added] at run
  by_cases reading : file.path ∈ session.inProgress
  · rw [visit_of_inProgress added reading, onCycle] at run
    cases policy : environment.options.cycles with
    | tolerate => simp [policy] at run
    | fail =>
        rw [policy] at run
        exact .inl ⟨added, reading, rfl, (Except.error.inj run).symm⟩
  · have fresh : session.Fresh file.path := ⟨added, reading⟩
    rw [visit_of_fresh fresh] at run
    split at run
    · rename_i failure unread
      exact .inr (.inl ⟨fresh, failure, unread, (Except.error.inj run).symm⟩)
    · rename_i source loaded
      split at run
      · rename_i cause stopped
        exact .inr (.inr ⟨fresh, source, loaded, .inl (stopped.trans run)⟩)
      · rename_i read followed
        split at run
        · rename_i failure unrendered
          exact .inr (.inr ⟨fresh, source, loaded, .inr ⟨read, failure, followed, unrendered,
            (Except.error.inj run).symm⟩⟩)
        · simp at run

/-- All that can make a line fail. -/
theorem obey_error {environment : Environment} {call : Session → Located → Except Halt Session}
    {file : Located} {session : Session} {line : SourceLine} {halt : Halt}
    (run : session.obey environment call file line = .error halt) :
    (∃ location label, line.directive = some (.provide location label) ∧
      environment.files.has (file.directory.anchor ⟨location⟩) = false ∧
      halt = ⟨.fileNotFound ("\"" ++ location ++ "\"") (some (file.path, line.number)), session⟩) ∨
    (∃ target, line.directive = some (.require target) ∧
      session.locate? environment file target = none ∧
      halt = ⟨.fileNotFound target.written (some (file.path, line.number)), session⟩) ∨
    (∃ target found, line.directive = some (.require target) ∧
      session.locate? environment file target = some found ∧ call session found = .error halt) := by
  unfold obey at run
  split at run
  · simp at run
  · rename_i location label declared
    unfold provide at run
    by_cases present : environment.files.has (file.directory.anchor ⟨location⟩) = true
    · simp [present] at run
    · simp only [present] at run
      exact .inl ⟨location, label, declared, by simpa using present, (Except.error.inj run).symm⟩
  · rename_i target asked
    split at run
    · rename_i found located
      exact .inr (.inr ⟨target, found, asked, located, run⟩)
    · rename_i missing
      exact .inr (.inl ⟨target, asked, missing, (Except.error.inj run).symm⟩)

/-- All that following a line successfully can have done. -/
theorem obey_ok {environment : Environment} {call : Session → Located → Except Halt Session}
    {file : Located} {session after : Session} {line : SourceLine}
    (run : session.obey environment call file line = .ok after) :
    (line.directive = none ∧ after = session) ∨
    (∃ location label, line.directive = some (.provide location label) ∧
      session.provide environment file line.number location label = .ok after) ∨
    (∃ target found, line.directive = some (.require target) ∧
      session.locate? environment file target = some found ∧ call session found = .ok after) := by
  unfold obey at run
  split at run
  · rename_i plain
    exact .inl ⟨plain, (Except.ok.inj run).symm⟩
  · rename_i location label declared
    exact .inr (.inl ⟨location, label, declared, run⟩)
  · rename_i target asked
    split at run
    · rename_i found located
      exact .inr (.inr ⟨target, found, asked, located, run⟩)
    · simp at run

/-- All that declaring a location successfully can have done. -/
theorem provide_ok {environment : Environment} {file : Located} {number : Nat} {location : String}
    {label : Option String} {session after : Session}
    (run : session.provide environment file number location label = .ok after) :
    environment.files.has (file.directory.anchor ⟨location⟩) = true ∧
      after.emitted = session.emitted ∧ after.inProgress = session.inProgress ∧
      after.resolution.sources = session.resolution.sources ∧
      after.aliases = label.elim session.aliases fun name =>
        Table.insert name (file.directory.anchor ⟨location⟩) session.aliases := by
  unfold provide at run
  by_cases present : environment.files.has (file.directory.anchor ⟨location⟩) = true
  · simp only [present, if_true] at run
    obtain rfl := Except.ok.inj run
    refine ⟨present, ?_⟩
    cases label with
    | none => simp
    | some name => simp [addAlias, note]
  · simp [present] at run

/-- A declared location joins what was gathered. -/
theorem resolution_of_provide {environment : Environment} {file : Located} {number : Nat}
    {location : String} {label : Option String} {session after : Session}
    (run : session.provide environment file number location label = .ok after) :
    after.resolution = session.resolution.addAsset
      ⟨file.directory.anchor ⟨location⟩, label, file.path, number⟩ := by
  have present := (provide_ok run).1
  simp only [provide, present, if_true] at run
  obtain rfl := Except.ok.inj run
  cases label with
  | none => rfl
  | some name => rfl

theorem mem_inProgress_enter (session : Session) (path : Path) :
    path ∈ (session.enter path).inProgress := by
  simp [enter]

/-! ## What a call leaves alone -/

/-- The session went on: files were added at the end, and the same files are being read. -/
structure Extends (before after : Session) : Prop where
  /-- The files being read are the same. -/
  inProgress : after.inProgress = before.inProgress
  /-- What was added before comes first. -/
  emitted : before.emitted <+: after.emitted
  /-- What was gathered before comes first. -/
  sources : before.resolution.sources <+: after.resolution.sources

theorem Extends.refl (session : Session) : session.Extends session :=
  ⟨rfl, List.prefix_rfl, List.prefix_rfl⟩

theorem Extends.trans {first second third : Session} (left : first.Extends second)
    (right : second.Extends third) : first.Extends third :=
  ⟨right.inProgress.trans left.inProgress, left.emitted.trans right.emitted,
    left.sources.trans right.sources⟩

theorem extends_note (session : Session) (event : Event) : session.Extends (session.note event) :=
  ⟨rfl, List.prefix_rfl, List.prefix_rfl⟩

theorem extends_provide {environment : Environment} {file : Located} {number : Nat}
    {location : String} {label : Option String} {session after : Session}
    (run : session.provide environment file number location label = .ok after) :
    session.Extends after := by
  obtain ⟨_, emitted, inProgress, sources, _⟩ := provide_ok run
  exact ⟨inProgress, by simp [emitted], by simp [sources]⟩

/-- Reading a file from its first line to its end closes what entering it opened. -/
theorem extends_emit {session read : Session} {file : Located} (lines : List String)
    (reading : (session.enter file.path).Extends read) : session.Extends (read.emit file lines) := by
  obtain ⟨inProgress, emitted, sources⟩ := reading
  refine ⟨?_, emitted.trans (List.prefix_append _ _), sources.trans (List.prefix_append _ _)⟩
  simp [emit, inProgress, enter]

theorem extends_obey {environment : Environment} {depth : Nat} {file : Located}
    (nested : ∀ {session after : Session} {found : Located},
      visit environment depth session found = .ok after → session.Extends after)
    {session after : Session} {line : SourceLine}
    (run : session.obey environment (visit environment depth) file line = .ok after) :
    session.Extends after := by
  rcases obey_ok run with ⟨_, rfl⟩ | ⟨_, _, _, declared⟩ | ⟨_, _, _, _, called⟩
  · exact .refl _
  · exact extends_provide declared
  · exact nested called

theorem extends_follow {environment : Environment} {depth : Nat} {file : Located}
    (nested : ∀ {session after : Session} {found : Located},
      visit environment depth session found = .ok after → session.Extends after)
    {session after : Session} {lines : List SourceLine}
    (run : session.follow environment depth file lines = .ok after) : session.Extends after := by
  induction lines generalizing session with
  | nil =>
      obtain rfl := Except.ok.inj run
      exact .refl _
  | cons line rest ih =>
      obtain ⟨moment, first, others⟩ := foldlM_cons_ok.mp run
      exact (extends_obey nested first).trans (ih others)

/-- A successful call adds files at the end and is done with the files it began to read. -/
theorem extends_visit {environment : Environment} {depth : Nat} {session after : Session}
    {file : Located} (run : visit environment depth session file = .ok after) :
    session.Extends after := by
  induction depth generalizing session after file with
  | zero => simp [visit] at run
  | succ depth ih =>
      rcases visit_ok run with ⟨_, rfl⟩ | ⟨_, _, rfl⟩ | ⟨_, _, _, lines, _, followed, _, rfl⟩
      · exact extends_note _ _
      · exact extends_note _ _
      · exact extends_emit lines (extends_follow ih followed)

/-! ## Kept properties -/

/-- A property of sessions and one of files that every step of a run keeps.  A step may use that its
line belongs to the file, and a declaration that the file is being read. -/
structure Kept (environment : Environment) (Holds : Session → Prop) (Fits : Located → Prop) :
    Prop where
  /-- Reports do not matter. -/
  note : ∀ {session : Session} (event : Event), Holds session → Holds (session.note event)
  /-- A declared location does no harm. -/
  provide : ∀ {session after : Session} {file : Located} {source : Source} {line : SourceLine}
    {location : String} {label : Option String}, Holds session → Fits file →
    file.path ∈ session.inProgress → Source.load environment.files file = .ok source →
    line ∈ source.lines → line.directive = some (.provide location label) →
    session.provide environment file line.number location label = .ok after → Holds after
  /-- A file that is called for fits. -/
  locate : ∀ {session : Session} {file found : Located} {source : Source} {line : SourceLine}
    {target : Target}, Holds session → Fits file →
    Source.load environment.files file = .ok source → line ∈ source.lines →
    line.directive = some (.require target) →
    session.locate? environment file target = some found → Fits found
  /-- A fresh file may be entered. -/
  enter : ∀ {session : Session} {file : Located}, Holds session → Fits file →
    session.Fresh file.path → Holds (session.enter file.path)
  /-- The innermost file may be added. -/
  emit : ∀ {session : Session} {file : Located} {outer : List Path} {lines : List String},
    Holds session → Fits file → session.inProgress = outer ++ [file.path] →
    Holds (session.emit file lines)

variable {environment : Environment} {Holds : Session → Prop} {Fits : Located → Prop}

theorem Kept.follow (kept : Kept environment Holds Fits) {depth : Nat}
    (nested : ∀ {session after : Session} {found : Located}, Holds session → Fits found →
      visit environment depth session found = .ok after → Holds after)
    {session after : Session} {file : Located} {source : Source} {lines : List SourceLine}
    (holds : Holds session) (fits : Fits file) (reading : file.path ∈ session.inProgress)
    (loaded : Source.load environment.files file = .ok source)
    (own : ∀ line ∈ lines, line ∈ source.lines)
    (run : session.follow environment depth file lines = .ok after) : Holds after := by
  induction lines generalizing session with
  | nil =>
      obtain rfl := Except.ok.inj run
      exact holds
  | cons line rest ih =>
      obtain ⟨moment, first, others⟩ := foldlM_cons_ok.mp run
      have mine : line ∈ source.lines := own line (by simp)
      have still : file.path ∈ moment.inProgress :=
        (extends_obey extends_visit first).inProgress ▸ reading
      refine ih ?_ still (fun other member => own other (by simp [member])) others
      rcases obey_ok first with ⟨_, rfl⟩ | ⟨_, _, declares, declared⟩ | ⟨_, _, asks, found, called⟩
      · exact holds
      · exact kept.provide holds fits reading loaded mine declares declared
      · exact nested holds (kept.locate holds fits loaded mine asks found) called

/-- A kept property holds after a successful call. -/
theorem Kept.visit (kept : Kept environment Holds Fits) {depth : Nat} {session after : Session}
    {file : Located} (holds : Holds session) (fits : Fits file)
    (run : visit environment depth session file = .ok after) : Holds after := by
  induction depth generalizing session after file with
  | zero => simp [Session.visit] at run
  | succ depth ih =>
      rcases visit_ok run with ⟨_, rfl⟩ | ⟨_, _, rfl⟩ | ⟨fresh, _, _, _, loaded, followed, _, rfl⟩
      · exact kept.note _ holds
      · exact kept.note _ holds
      · have entered := kept.enter holds fits fresh
        have read := kept.follow ih entered fits (mem_inProgress_enter _ _) loaded (by simp) followed
        have innermost := (extends_follow extends_visit followed).inProgress
        exact kept.emit read fits innermost

end Session

/-! ## Entries -/

namespace Session

variable {environment : Environment}

theorem requireWithin_ok {depth : Nat} {session after : Session} {entry : String}
    (run : session.requireWithin environment depth entry = .ok after) :
    ∃ file, session.find? environment entry = some file ∧
      session.visit environment depth file = .ok after := by
  unfold requireWithin at run
  split at run
  · rename_i file found
    exact ⟨file, found, run⟩
  · simp at run

theorem extends_requireAll {depth : Nat} {session after : Session} {entries : List String}
    (run : session.requireAllWithin environment depth entries = .ok after) :
    session.Extends after := by
  induction entries generalizing session with
  | nil =>
      obtain rfl := Except.ok.inj run
      exact .refl _
  | cons entry entries ih =>
      obtain ⟨middle, first, others⟩ := foldlM_cons_ok.mp run
      obtain ⟨_, _, called⟩ := requireWithin_ok first
      exact (extends_visit called).trans (ih others)

/-- A kept property holds after successful entries, if the files found for entries fit. -/
theorem Kept.requireAll {Holds : Session → Prop} {Fits : Located → Prop}
    (kept : Kept environment Holds Fits)
    (found : ∀ {session : Session} {entry : String} {file : Located}, Holds session →
      session.find? environment entry = some file → Fits file)
    {depth : Nat} {session after : Session} {entries : List String} (holds : Holds session)
    (run : session.requireAllWithin environment depth entries = .ok after) : Holds after := by
  induction entries generalizing session with
  | nil =>
      obtain rfl := Except.ok.inj run
      exact holds
  | cons entry entries ih =>
      obtain ⟨middle, first, others⟩ := foldlM_cons_ok.mp run
      obtain ⟨file, place, called⟩ := requireWithin_ok first
      exact ih (kept.visit holds (found holds place) called) others

end Session

/-! ## Nested calls -/

/-- A request to add a file: how deep requires may be nested in it, the session at that moment and
the file. -/
structure Call where
  /-- How deep requires may be nested. -/
  depth : Nat
  /-- The session that the request meets. -/
  session : Session
  /-- The file asked for. -/
  file : Located

namespace Call

/-- The call reads a source: its file is fresh and can be read. -/
def Reads (environment : Environment) (call : Call) (source : Source) : Prop :=
  call.session.Fresh call.file.path ∧ Source.load environment.files call.file = .ok source

/-- The call has come to a line: the lines before it have been followed, up to a moment. -/
inductive ComesTo (environment : Environment) : Call → SourceLine → Session → Prop
  | follow {depth : Nat} {session moment : Session} {file : Located} {source : Source}
      {before after : List SourceLine} {line : SourceLine} :
      Reads environment ⟨depth + 1, session, file⟩ source →
      source.lines = before ++ line :: after →
      (session.enter file.path).follow environment depth file before = .ok moment →
      ComesTo environment ⟨depth + 1, session, file⟩ line moment

/-- The call follows the require on a line: it is located at the moment of coming to the line, and
that file is called for. -/
inductive Requires (environment : Environment) : Call → SourceLine → Call → Prop
  | call {depth : Nat} {session moment : Session} {file found : Located} {line : SourceLine}
      {target : Target} :
      ComesTo environment ⟨depth + 1, session, file⟩ line moment →
      line.directive = some (.require target) →
      moment.locate? environment file target = some found →
      Requires environment ⟨depth + 1, session, file⟩ line ⟨depth, moment, found⟩

/-- The calls that are made while a call runs, with the number of requires that lead to them. -/
inductive Nested (environment : Environment) (top : Call) : Nat → Call → Prop
  | top : Nested environment top 0 top
  | step {level : Nat} {outer inner : Call} {line : SourceLine} :
      Nested environment top level outer → Requires environment outer line inner →
      Nested environment top (level + 1) inner

/-- What becomes of a call. -/
def run (environment : Environment) (call : Call) : Except Halt Session :=
  call.session.visit environment call.depth call.file

/-- While a call reads its file, the file is the innermost one being read. -/
theorem ComesTo.inProgress {environment : Environment} {call : Call} {line : SourceLine}
    {moment : Session} (comes : ComesTo environment call line moment) :
    moment.inProgress = call.session.inProgress ++ [call.file.path] := by
  obtain ⟨_, _, followed⟩ := comes
  exact (Session.extends_follow Session.extends_visit followed).inProgress

theorem ComesTo.kept {environment : Environment} {Holds : Session → Prop} {Fits : Located → Prop}
    (kept : Session.Kept environment Holds Fits) {call : Call} {line : SourceLine}
    {moment : Session} (comes : ComesTo environment call line moment) (holds : Holds call.session)
    (fits : Fits call.file) : Holds moment := by
  obtain ⟨⟨fresh, loaded⟩, lines, followed⟩ := comes
  exact kept.follow kept.visit (kept.enter holds fits fresh) fits
    (Session.mem_inProgress_enter _ _) loaded (fun other member => by simp [lines, member]) followed

theorem Requires.kept {environment : Environment} {Holds : Session → Prop} {Fits : Located → Prop}
    (kept : Session.Kept environment Holds Fits) {outer inner : Call} {line : SourceLine}
    (requires : Requires environment outer line inner) (holds : Holds outer.session)
    (fits : Fits outer.file) : Holds inner.session ∧ Fits inner.file := by
  obtain ⟨comes, asks, found⟩ := requires
  have moment := comes.kept kept holds fits
  obtain ⟨⟨_, loaded⟩, lines, _⟩ := comes
  exact ⟨moment, kept.locate moment fits loaded (by simp [lines]) asks found⟩

/-- A property that a run keeps holds of every nested call. -/
theorem Nested.kept {environment : Environment} {Holds : Session → Prop} {Fits : Located → Prop}
    (kept : Session.Kept environment Holds Fits) {top call : Call} {level : Nat}
    (nested : Nested environment top level call) (holds : Holds top.session)
    (fits : Fits top.file) : Holds call.session ∧ Fits call.file := by
  induction nested with
  | top => exact ⟨holds, fits⟩
  | step _ requires ih => exact requires.kept kept ih.1 ih.2

/-- A call that an inner call makes is made while the outer one runs. -/
theorem Nested.head {environment : Environment} {outer inner call : Call} {line : SourceLine}
    {level : Nat} (requires : Requires environment outer line inner)
    (nested : Nested environment inner level call) :
    Nested environment outer (level + 1) call := by
  induction nested with
  | top => exact .step .top requires
  | step _ later ih => exact .step ih later

/-! ## Calls that succeed -/

variable {environment : Environment}

/-- A successful call adds its file, unless a tolerated cycle led back to it. -/
theorem mem_emitted_of_run {call : Call} {after : Session} (run : call.run environment = .ok after) :
    call.file.path ∈ after.emitted ∨
      call.file.path ∈ call.session.inProgress ∧ environment.options.cycles = .tolerate := by
  obtain ⟨depth, session, file⟩ := call
  cases depth with
  | zero => simp [Call.run, Session.visit] at run
  | succ depth =>
      rcases Session.visit_ok run with ⟨added, rfl⟩ | ⟨reading, policy, rfl⟩ | ⟨_, _, _, _, _, _, _, rfl⟩
      · exact .inl added
      · exact .inr ⟨reading, policy⟩
      · exact .inl (by simp [Session.emit])

/-- A call that reads a source and succeeds has followed all lines before its file is added. -/
theorem Reads.run_ok {call : Call} {source : Source} {after : Session}
    (reads : Reads environment call source) (run : call.run environment = .ok after) :
    ∃ depth read lines, call.depth = depth + 1 ∧
      (call.session.enter call.file.path).follow environment depth call.file source.lines = .ok read ∧
      source.render environment.constants environment.options.stripComments = .ok lines ∧
      after = read.emit call.file lines := by
  obtain ⟨depth, session, file⟩ := call
  obtain ⟨fresh, loaded⟩ := reads
  cases depth with
  | zero => simp [Call.run, Session.visit] at run
  | succ depth =>
      rcases Session.visit_ok run with
        ⟨added, _⟩ | ⟨reading, _⟩ | ⟨_, other, read, lines, again, rest⟩
      · exact absurd added fresh.1
      · exact absurd reading fresh.2
      · obtain rfl : source = other := Except.ok.inj (loaded.symm.trans again)
        exact ⟨depth, read, lines, rfl, rest⟩

/-- A call that is made by a successful call succeeds, and what it adds is added before the file of
the outer one. -/
theorem Requires.run_ok {outer inner : Call} {line : SourceLine} {after : Session}
    (requires : Requires environment outer line inner)
    (run : outer.run environment = .ok after) :
    ∃ done rest, inner.run environment = .ok done ∧
      after.emitted = done.emitted ++ rest ++ [outer.file.path] := by
  obtain ⟨⟨reads, lines, followed⟩, asks, found⟩ := requires
  obtain ⟨depth, read, rendered, deep, all, _, rfl⟩ := reads.run_ok run
  obtain rfl := Nat.succ.inj deep
  rw [lines] at all
  obtain ⟨moment, first, later⟩ := foldlM_append_ok.mp all
  obtain rfl := Except.ok.inj (followed.symm.trans first)
  obtain ⟨done, obeyed, others⟩ := foldlM_cons_ok.mp later
  obtain ⟨rest, grown⟩ := (Session.extends_follow Session.extends_visit others).emitted
  refine ⟨done, rest, ?_, by simp [Session.emit, grown]⟩
  simpa [Call.run, Session.obey, asks, found] using obeyed

/-- Every call nested in a successful one succeeds, and what it adds stays added. -/
theorem Nested.run_ok {top call : Call} {level : Nat} {after : Session}
    (nested : Nested environment top level call) (run : top.run environment = .ok after) :
    ∃ done, call.run environment = .ok done ∧ done.emitted <+: after.emitted := by
  induction nested with
  | top => exact ⟨after, run, List.prefix_rfl⟩
  | step _ requires ih =>
      obtain ⟨outer, finished, earlier⟩ := ih
      obtain ⟨done, rest, inner, emitted⟩ := requires.run_ok finished
      refine ⟨done, inner, List.IsPrefix.trans ?_ earlier⟩
      rw [emitted, List.append_assoc]
      exact List.prefix_append _ _

/-- A successful call that reads a source comes to each of its lines and obeys it. -/
theorem Reads.comesTo {call : Call} {source : Source} {after : Session} {line : SourceLine}
    (reads : Reads environment call source) (run : call.run environment = .ok after)
    (own : line ∈ source.lines) :
    ∃ depth moment next, call.depth = depth + 1 ∧ ComesTo environment call line moment ∧
      moment.obey environment (Session.visit environment depth) call.file line = .ok next := by
  obtain ⟨depth, read, _, deep, all, _, _⟩ := reads.run_ok run
  obtain ⟨_, session, file⟩ := call
  obtain rfl := deep
  obtain ⟨before, rest, lines⟩ := List.append_of_mem own
  rw [lines] at all
  obtain ⟨moment, followed, later⟩ := foldlM_append_ok.mp all
  obtain ⟨next, obeyed, _⟩ := foldlM_cons_ok.mp later
  exact ⟨depth, moment, next, rfl, .follow reads lines followed, obeyed⟩

/-- A successful call that reads a source makes a call for each of its require lines. -/
theorem Reads.requires {call : Call} {source : Source} {after : Session} {line : SourceLine}
    {target : Target} (reads : Reads environment call source)
    (run : call.run environment = .ok after) (own : line ∈ source.lines)
    (asks : line.directive = some (.require target)) :
    ∃ inner, Requires environment call line inner := by
  obtain ⟨depth, moment, _, deep, comes, obeyed⟩ := reads.comesTo run own
  obtain ⟨_, session, file⟩ := call
  obtain rfl := deep
  rcases Session.obey_ok obeyed with ⟨plain, _⟩ | ⟨_, _, declares, _⟩ | ⟨_, found, asked, place, _⟩
  · simp [plain] at asks
  · simp [declares] at asks
  · exact ⟨⟨depth, moment, found⟩, .call comes asked place⟩

theorem Reads.provides {call : Call} {source : Source} {after : Session} {line : SourceLine}
    {location : String} {label : Option String} (reads : Reads environment call source)
    (run : call.run environment = .ok after) (own : line ∈ source.lines)
    (declares : line.directive = some (.provide location label)) :
    environment.files.has (call.file.directory.anchor ⟨location⟩) = true := by
  obtain ⟨_, _, _, _, _, obeyed⟩ := reads.comesTo run own
  rw [Session.obey, declares] at obeyed
  exact (Session.provide_ok obeyed).1

/-- While the call runs, the file is read by the call or by one nested in it. -/
def ReadsInside (environment : Environment) (call : Call) (file : Located) : Prop :=
  ∃ level inner source, Nested environment call level inner ∧ Reads environment inner source ∧
    inner.file = file

theorem ReadsInside.head {outer inner : Call} {line : SourceLine} {file : Located}
    (requires : Requires environment outer line inner)
    (inside : ReadsInside environment inner file) : ReadsInside environment outer file := by
  obtain ⟨level, call, source, nested, reads⟩ := inside
  exact ⟨level + 1, call, source, nested.head requires, reads⟩

theorem readsInside_of_follow {depth : Nat} {session : Session} {file : Located} {source : Source}
    {added : Rendered} (reads : Reads environment ⟨depth + 1, session, file⟩ source)
    (nested : ∀ {session after : Session} {found : Located},
      session.visit environment depth found = .ok after → added ∈ after.resolution.sources →
      added ∈ session.resolution.sources ∨ ReadsInside environment ⟨depth, session, found⟩ added.file)
    {before rest : List SourceLine} (lines : source.lines = before ++ rest) {moment : Session}
    (followed : (session.enter file.path).follow environment depth file before = .ok moment)
    (member : added ∈ moment.resolution.sources) :
    added ∈ session.resolution.sources ∨
      ReadsInside environment ⟨depth + 1, session, file⟩ added.file := by
  -- The lines are taken from the end, so that each call is made after the lines before it.
  induction before using List.reverseRecOn generalizing rest moment with
  | nil =>
      obtain rfl := Except.ok.inj followed
      exact .inl member
  | append_singleton before line ih =>
      have split : source.lines = before ++ line :: rest := by simpa using lines
      obtain ⟨middle, first, last⟩ := foldlM_append_ok.mp followed
      obtain ⟨_, obeyed, same⟩ := foldlM_cons_ok.mp last
      obtain rfl := Except.ok.inj same
      rcases Session.obey_ok obeyed with
        ⟨_, rfl⟩ | ⟨_, _, _, declared⟩ | ⟨_, found, asks, place, called⟩
      · exact ih split first member
      · rw [(Session.provide_ok declared).2.2.2.1] at member
        exact ih split first member
      · rcases nested called member with earlier | inside
        · exact ih split first earlier
        · exact .inr (inside.head (.call (.follow reads split first) asks place))

/-- Whatever a successful call gathers is read while it runs. -/
theorem readsInside_of_mem_sources {depth : Nat} {session after : Session} {file : Located}
    {added : Rendered} (run : session.visit environment depth file = .ok after)
    (member : added ∈ after.resolution.sources) :
    added ∈ session.resolution.sources ∨
      ReadsInside environment ⟨depth, session, file⟩ added.file := by
  induction depth generalizing session after file with
  | zero => simp [Session.visit] at run
  | succ depth ih =>
      rcases Session.visit_ok run with
        ⟨_, rfl⟩ | ⟨_, _, rfl⟩ | ⟨fresh, source, read, lines, loaded, all, _, rfl⟩
      · exact .inl member
      · exact .inl member
      · have reads : Reads environment ⟨depth + 1, session, file⟩ source := ⟨fresh, loaded⟩
        rcases List.mem_append.mp member with earlier | last
        · exact readsInside_of_follow reads ih (List.append_nil _).symm all earlier
        · exact .inr ⟨0, _, source, .top, reads, by rw [List.mem_singleton.mp last]⟩

end Call

end Splice
