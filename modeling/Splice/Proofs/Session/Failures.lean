import Splice.Proofs.Session.Order
import Splice.Proofs.Template.Filling

/-!
# Where runs fail

A failure is passed on unchanged through all calls that were made when it happened, so a run that
fails stops at one call that fails by itself.  What the failure says is therefore true of the file
and the line of that call, at the moment when the run stopped.
-/

namespace Splice

/-- A text is the line with a number of the file at a path, counted from one. -/
def Files.HasLine (files : Files) (path : Path) (number : Nat) (text : String) : Prop :=
  ∃ texts, files.readLines path = .ok texts ∧ 0 < number ∧ texts[number - 1]? = some text

/-- A line of a file that was read is a line of the file at its path, classified. -/
theorem Source.hasLine_of_load {files : Files} {file : Located} {source : Source}
    {line : SourceLine} (loaded : Source.load files file = .ok source) (own : line ∈ source.lines) :
    files.HasLine file.path line.number line.text ∧
      line = ⟨Line.classify line.text, line.number⟩ := by
  obtain ⟨texts, read, rfl⟩ := Source.load_ok.mp loaded
  refine ⟨⟨texts, read, text_of_mem_ofTexts own⟩, ?_⟩
  obtain ⟨toLine, number⟩ := line
  exact congrArg (SourceLine.mk · number) (classified_ofTexts own)

/-! ## Calls that fail by themselves -/

namespace Call

/-- What the directive of a line refers to is missing at a moment, told by the reference: the target
of a require as it is written, or the location of a provide in quotes. -/
inductive Missing (environment : Environment) (file : Located) (moment : Session) (line : Line) :
    String → Prop
  | require {target : Target} : line.directive = some (.require target) →
      moment.locate? environment file target = none →
      Missing environment file moment line target.written
  | provide {location : String} {label : Option String} :
      line.directive = some (.provide location label) →
      environment.files.has (file.directory.anchor ⟨location⟩) = false →
      Missing environment file moment line ("\"" ++ location ++ "\"")

/-- What makes a call fail if no call that it makes fails, and how the run stops then. -/
inductive Stops (environment : Environment) : Call → Halt → Prop
  | depth {session : Session} {file : Located} :
      Stops environment ⟨0, session, file⟩ ⟨.depthLimit, session⟩
  | cycle {depth : Nat} {session : Session} {file : Located} :
      file.path ∉ session.emitted → file.path ∈ session.inProgress →
      environment.options.cycles = .fail →
      Stops environment ⟨depth + 1, session, file⟩
        ⟨.circularRequire (session.chainTo file.path), session⟩
  | unread {depth : Nat} {session : Session} {file : Located} {cause : FileError} :
      session.Fresh file.path → environment.files.readLines file.path = .error cause →
      Stops environment ⟨depth + 1, session, file⟩
        ⟨.readSource file.path cause, session.enter file.path⟩
  | missing {call : Call} {line : SourceLine} {moment : Session} {reference : String} :
      ComesTo environment call line moment →
      Missing environment call.file moment line.toLine reference →
      Stops environment call
        ⟨.fileNotFound reference (some (call.file.path, line.number)), moment⟩
  | unfilled {depth : Nat} {session read : Session} {file : Located} {source : Source}
      {line : SourceLine} {expression : String} :
      Reads environment ⟨depth + 1, session, file⟩ source →
      (session.enter file.path).follow environment depth file source.lines = .ok read →
      line ∈ Source.kept environment.options.stripComments source.lines →
      Template.render environment.constants line.text = .error expression →
      Stops environment ⟨depth + 1, session, file⟩
        ⟨.undefinedConstant expression file.path line.number, read⟩

variable {environment : Environment}

/-- A call that fails does so by itself, or a call nested in it fails by itself. -/
theorem stops_of_run {call : Call} {halt : Halt} (run : call.run environment = .error halt) :
    ∃ level inner, Nested environment call level inner ∧ Stops environment inner halt := by
  obtain ⟨depth, session, file⟩ := call
  induction depth generalizing session file with
  | zero =>
      obtain rfl := Except.error.inj run
      exact ⟨0, _, .top, .depth⟩
  | succ depth ih =>
      rcases Session.visit_error run with ⟨new, reading, policy, rfl⟩ |
        ⟨fresh, failure, unread, rfl⟩ |
        ⟨fresh, source, loaded, stopped | ⟨read, failure, followed, unrendered, rfl⟩⟩
      · exact ⟨0, _, .top, .cycle new reading policy⟩
      · obtain ⟨cause, unreadable, rfl⟩ := Source.load_error unread
        exact ⟨0, _, .top, .unread fresh unreadable⟩
      · obtain ⟨before, line, after, moment, lines, followed, obeyed⟩ := foldlM_error stopped
        have comes : ComesTo environment ⟨depth + 1, session, file⟩ line moment :=
          .follow ⟨fresh, loaded⟩ lines followed
        rcases Session.obey_error obeyed with ⟨location, label, declares, absent, rfl⟩ |
          ⟨target, asks, nowhere, rfl⟩ | ⟨target, found, asks, place, called⟩
        · exact ⟨0, _, .top, .missing comes (.provide declares absent)⟩
        · exact ⟨0, _, .top, .missing comes (.require asks nowhere)⟩
        · -- The failure is that of the call for the located file.
          obtain ⟨level, inner, nested, stops⟩ := ih moment found called
          exact ⟨level + 1, inner, nested.head (.call comes asks place), stops⟩
      · obtain ⟨line, left, expression, unknown, rfl⟩ := Source.render_error unrendered
        obtain ⟨texts, _, rfl⟩ := Source.load_ok.mp loaded
        exact ⟨0, _, .top, .unfilled ⟨fresh, loaded⟩ followed left unknown⟩

/-- A line that a call has come to is a line of the file at its path. -/
theorem ComesTo.hasLine {call : Call} {line : SourceLine} {moment : Session}
    (comes : ComesTo environment call line moment) :
    environment.files.HasLine call.file.path line.number line.text ∧
      line = ⟨Line.classify line.text, line.number⟩ := by
  obtain ⟨⟨_, loaded⟩, lines, _⟩ := comes
  exact Source.hasLine_of_load loaded (by simp [lines])

end Call

namespace Session

variable {environment : Environment} {depth : Nat} {entries : List String} {halt : Halt}

/-- An entry of a run leads nowhere, after the entries before it were added. -/
inductive Unfound (environment : Environment) (depth : Nat) (entries : List String) : Halt → Prop
  | entry {before after : List String} {entry : String} {session : Session} :
      entries = before ++ entry :: after →
      start.requireAllWithin environment depth before = .ok session →
      session.find? environment entry = none →
      Unfound environment depth entries ⟨.fileNotFound entry none, session⟩

/-- A run that fails stops at an entry that is not found or at a call that fails by itself. -/
theorem stops_of_requireAll (run : start.requireAllWithin environment depth entries = .error halt) :
    Unfound environment depth entries halt ∨
      ∃ call, Made environment depth entries call ∧ call.Stops environment halt := by
  obtain ⟨before, entry, after, session, parts, earlier, stopped⟩ := foldlM_error run
  rw [requireWithin] at stopped
  split at stopped
  · rename_i file found
    have failed : Call.run environment ⟨depth, session, file⟩ = .error halt := stopped
    obtain ⟨level, call, nested, stops⟩ := Call.stops_of_run failed
    exact .inr ⟨call, ⟨_, level, .entry parts earlier found, nested⟩, stops⟩
  · rename_i missing
    obtain rfl := Except.error.inj stopped
    exact .inl (.entry parts earlier missing)

/-- A run that fails for another reason than an entry stops at a call that fails by itself. -/
theorem exists_stops_of_requireAll
    (run : start.requireAllWithin environment depth entries = .error halt)
    (other : ∀ entry, halt.failure ≠ .fileNotFound entry none) :
    ∃ call, Made environment depth entries call ∧ call.Stops environment halt := by
  rcases stops_of_requireAll run with unfound | stops
  · obtain ⟨_, _, _⟩ := unfound
    exact absurd rfl (other _)
  · exact stops

theorem exists_halt_of_resolve {entry : String} {failure : Failure}
    (stopped : environment.resolve entry = .error failure) :
    ∃ halt, start.requireAllWithin environment (depthBound environment) [entry] = .error halt ∧
      halt.failure = failure := by
  rw [Environment.resolve] at stopped
  split at stopped
  · cases stopped
  · rename_i halt run
    refine ⟨halt, ?_, Except.error.inj stopped⟩
    rw [requireAllWithin, List.foldlM_cons]
    exact congrArg (· >>= _) run

/-- A file was located during a run: it was found for an entry, or for a require on a line. -/
inductive CameUp (environment : Environment) (depth : Nat) (entries : List String) :
    Located → Prop
  | entry {call : Call} : Entered environment depth entries call →
      CameUp environment depth entries call.file
  | require {path : Path} {line : SourceLine} {found : Located} :
      Followed environment depth entries path line found →
      CameUp environment depth entries found

theorem Made.cameUp {call : Call} (made : Made environment depth entries call) :
    CameUp environment depth entries call.file := by
  obtain ⟨top, level, entered, nested⟩ := made
  cases nested with
  | top => exact .entry entered
  | step nested requires =>
      exact .require ⟨_, call, ⟨top, _, entered, nested⟩, rfl, requires, rfl⟩

/-! ## What failures say -/

/-- What the failure of a run says is so.  A reference that is missing on a line is what the line
refers to with its directive, written as there, and at that moment it led nowhere.  A reference that
is missing on no line is an entry, which was not found after the entries before it were added.  The
constant that is undefined is the expression of a placeholder on the line, which carries no
directive, and has no value.  A file that is reported as unreadable was located, and reading it
fails for the reason given. -/
theorem failure_names_cause (run : start.requireAllWithin environment depth entries = .error halt) :
    (∀ reference path number, halt.failure = .fileNotFound reference (some (path, number)) →
      ∃ call text, Made environment depth entries call ∧ call.file.path = path ∧
        environment.files.HasLine path number text ∧
        call.ComesTo environment ⟨Line.classify text, number⟩ halt.session ∧
        Call.Missing environment call.file halt.session (Line.classify text) reference) ∧
    (∀ reference, halt.failure = .fileNotFound reference none →
      ∃ before after, entries = before ++ reference :: after ∧
        start.requireAllWithin environment depth before = .ok halt.session ∧
        halt.session.find? environment reference = none) ∧
    (∀ constant path number, halt.failure = .undefinedConstant constant path number →
      ∃ call source text, Made environment depth entries call ∧ call.Reads environment source ∧
        call.file.path = path ∧ environment.files.HasLine path number text ∧
        (Line.classify text).directive = none ∧
        ∃ split expression, Template.Splits text.toList split ∧ .placeholder expression ∈ split ∧
          String.ofList expression = constant ∧
          Template.evaluate? environment.constants expression = none) ∧
    ∀ path cause, halt.failure = .readSource path cause →
      (∃ file, CameUp environment depth entries file ∧ file.path = path) ∧
      environment.files.readLines path = .error cause := by
  obtain ⟨failure, moment⟩ := halt
  refine ⟨?_, ?_, ?_, ?_⟩
  · rintro reference path number rfl
    obtain ⟨call, made, stops⟩ := exists_stops_of_requireAll run (by simp)
    cases stops with
    | @missing _ line _ _ comes missing =>
        obtain ⟨place, classified⟩ := comes.hasLine
        rw [classified] at comes missing
        exact ⟨call, line.text, made, rfl, place, comes, missing⟩
  · rintro reference rfl
    rcases stops_of_requireAll run with ⟨parts, earlier, nowhere⟩ | ⟨call, made, stops⟩
    · exact ⟨_, _, parts, earlier, nowhere⟩
    · cases stops
  · rintro constant path number rfl
    obtain ⟨call, made, stops⟩ := exists_stops_of_requireAll run (by simp)
    cases stops with
    | @unfilled _ _ _ _ source line _ reads _ left unknown =>
        have own := (Source.kept_sublist _ _).subset left
        obtain ⟨place, classified⟩ := Source.hasLine_of_load reads.2 own
        have plain := Source.directive_of_mem_kept left
        rw [classified] at plain
        exact ⟨_, source, line.text, made, reads, rfl, place, plain,
          Template.exists_placeholder_of_render_error unknown⟩
  · rintro path cause rfl
    obtain ⟨call, made, stops⟩ := exists_stops_of_requireAll run (by simp)
    cases stops with
    | unread _ unreadable => exact ⟨⟨_, made.cameUp, rfl⟩, unreadable⟩

/-- A file that misses a target under a name that it gives, and one that lacks a constant. -/
def strayReferences : MemoryFiles :=
  (((MemoryFiles.empty.insert ⟨"/p/a.js"⟩ "a();\n//= require <b>").insert ⟨"/p/b.js"⟩
    "//= provide \"l\" as \"k\"\n//= require <k/d>\n//= require <k/c>").insert
    ⟨"/p/l/d.js"⟩ "").insert ⟨"/p/u.js"⟩ "// u\nu('<%= V.w %>');"

theorem strayReferences_named :
    ∃ environment, environment.files = strayReferences.view ∧
      environment.resolve "a" = .error (.fileNotFound "<k/c>" (some (⟨"/p/b.js"⟩, 3))) ∧
      (∃ call text moment, Made environment (depthBound environment) ["a"] call ∧
        call.file.path = ⟨"/p/b.js"⟩ ∧ environment.files.HasLine ⟨"/p/b.js"⟩ 3 text ∧
        Call.Missing environment call.file moment (Line.classify text) "<k/c>") ∧
      environment.resolve "u" = .error (.undefinedConstant "V.w" ⟨"/p/u.js"⟩ 2) ∧
      ∃ text split, environment.files.HasLine ⟨"/p/u.js"⟩ 2 text ∧
        Template.Splits text.toList split ∧ .placeholder "V.w".toList ∈ split ∧
        Template.evaluate? environment.constants "V.w".toList = none := by
  let environment := Environment.ofRoot strayReferences.view ⟨"/p"⟩
  have astray : environment.resolve "a" =
      .error (.fileNotFound "<k/c>" (some (⟨"/p/b.js"⟩, 3))) := by
    decide +kernel
  have lacking : environment.resolve "u" = .error (.undefinedConstant "V.w" ⟨"/p/u.js"⟩ 2) := by
    decide +kernel
  obtain ⟨halt, run, failure⟩ := exists_halt_of_resolve astray
  obtain ⟨call, text, made, same, place, _, missing⟩ := (failure_names_cause run).1 _ _ _ failure
  obtain ⟨_, stopped, undefined⟩ := exists_halt_of_resolve lacking
  obtain ⟨_, _, line, _, _, _, own, _, split, expression, splits, member, spelled, unknown⟩ :=
    (failure_names_cause stopped).2.2.1 _ _ _ undefined
  obtain rfl : expression = "V.w".toList := by rw [← spelled, String.toList_ofList]
  exact ⟨environment, rfl, astray, ⟨call, text, halt.session, made, same, place, missing⟩, lacking,
    line, split, own, splits, member, unknown⟩

end Session

end Splice
