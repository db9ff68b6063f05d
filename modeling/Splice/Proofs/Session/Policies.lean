import Splice.Proofs.Session.Depth
import Splice.Proofs.Session.Growth

/-!
# The two cycle policies

Sessions whose environments differ in the cycle policy alone run in step until a file is required
while it is being read.  There the one that refuses cycles stops, while the other reports the file
as skipped and goes on.  Where nothing is skipped, both come to the same end, be it good or bad.
-/

namespace Splice

/-- The environment under another cycle policy. -/
def Environment.withCycles (environment : Environment) (policy : CyclePolicy) : Environment :=
  { environment with options := { environment.options with cycles := policy } }

namespace Session

/-! ## Reports -/

/-- The outcome adds to the reports of a session. -/
def Reports (session : Session) (outcome : Except Halt Session) : Prop :=
  session.trace <+: (remains outcome).trace

/-- A declared location is at most reported under its name, a missing one is a file not found. -/
theorem provide_reports (environment : Environment) (file : Located) (number : Nat)
    (location : String) (label : Option String) (session : Session) :
    (∃ after, session.provide environment file number location label = .ok after ∧
      (after.trace = session.trace ∨
        ∃ name path, after.trace = session.trace ++ [.registeredAlias name path])) ∨
    ∃ reference origin, session.provide environment file number location label =
      .error ⟨.fileNotFound reference origin, session⟩ := by
  unfold provide
  by_cases present : environment.files.has (file.directory.anchor ⟨location⟩) = true
  · simp only [present, if_true]
    cases label with
    | none => exact .inl ⟨_, rfl, .inl rfl⟩
    | some name => exact .inl ⟨_, rfl, .inr ⟨name, _, rfl⟩⟩
  · simp only [present]
    exact .inr ⟨_, _, rfl⟩

/-- Every step leaves earlier reports in front. -/
theorem onward_trace (environment : Environment) :
    Onward environment fun before after => before.trace <+: after.trace where
  refl _ := List.prefix_rfl
  trans early late := early.trans late
  note _ _ := List.prefix_append _ _
  provide {session after file number location label} run := by
    rcases provide_reports environment file number location label session with
      ⟨other, done, same | ⟨name, path, longer⟩⟩ | ⟨reference, origin, failed⟩
    · obtain rfl := Except.ok.inj (run.symm.trans done)
      simp [same]
    · obtain rfl := Except.ok.inj (run.symm.trans done)
      simp [longer]
    · simp [run] at failed
  enter _ _ := List.prefix_append _ _
  emit _ _ _ := List.prefix_rfl

section Reports

variable {environment : Environment} {depth : Nat}

theorem reports_follow (file : Located) (session : Session) (lines : List SourceLine) :
    Reports session (session.follow environment depth file lines) :=
  (onward_trace environment).follow (onward_trace environment).visit file session lines

theorem reports_finish (file : Located) (source : Source) (session : Session) :
    Reports session (finish environment file source session) := by
  unfold finish
  split <;> exact List.prefix_rfl

theorem reports_requireAll (session : Session) (entries : List String) :
    Reports session (session.requireAllWithin environment depth entries) :=
  (onward_trace environment).requireAll session entries

end Reports

/-! ## Runs in step -/

/-- A cycle was refused. -/
def Circular (outcome : Except Halt Session) : Prop :=
  ∃ chain moment, outcome = .error ⟨.circularRequire chain, moment⟩

/-- The session has gone on without a file that was being read. -/
def Skipped (session : Session) : Prop := ∃ path, Event.skippedCycle path ∈ session.trace

/-- The outcomes of one run under the two policies: they are the same as long as no cycle is met,
and where one is met the run is refused under the one policy and has skipped a file under the
other. -/
inductive InStep (refused tolerated : Except Halt Session) : Prop
  | same : refused = tolerated → ¬ Circular tolerated → ¬ (remains tolerated).Skipped →
      InStep refused tolerated
  | apart : Circular refused → (remains tolerated).Skipped → InStep refused tolerated

theorem Reports.skipped {session : Session} {outcome : Except Halt Session}
    (reports : Reports session outcome) (skipped : session.Skipped) :
    (remains outcome).Skipped := by
  obtain ⟨path, reported⟩ := skipped
  exact ⟨path, reports.subset reported⟩

theorem skipped_note {session : Session} {event : Event} :
    (session.note event).Skipped ↔ session.Skipped ∨ ∃ path, event = .skippedCycle path := by
  simp [Skipped, note, exists_or, eq_comm]

theorem skipped_enter {session : Session} {path : Path} :
    (session.enter path).Skipped ↔ session.Skipped := by
  have noted : (session.enter path).Skipped ↔ (session.note (.including path)).Skipped := Iff.rfl
  simp [noted, skipped_note]

/-- Declaring a location meets no cycle. -/
theorem inStep_provide {environment : Environment} {file : Located} {number : Nat}
    {location : String} {label : Option String} {session : Session} (unskipped : ¬ session.Skipped) :
    InStep (session.provide environment file number location label)
      (session.provide environment file number location label) := by
  rcases provide_reports environment file number location label session with
    ⟨after, run, same | ⟨name, path, longer⟩⟩ | ⟨reference, origin, run⟩
  · rw [run]
    exact .same rfl (by simp [Circular]) (by simpa [remains, Skipped, same] using unskipped)
  · rw [run]
    exact .same rfl (by simp [Circular]) (by simpa [remains, Skipped, longer] using unskipped)
  · rw [run]
    exact .same rfl (by simp [Circular]) unskipped

/-- Runs that are in step stay so if what follows is in step wherever nothing has been skipped. -/
theorem InStep.bind {refused tolerated : Except Halt Session}
    {refuse tolerate : Session → Except Halt Session} (first : InStep refused tolerated)
    (reports : ∀ next, Reports next (tolerate next))
    (later : ∀ next, ¬ next.Skipped → InStep (refuse next) (tolerate next)) :
    InStep (refused >>= refuse) (tolerated >>= tolerate) := by
  cases first with
  | same equal regular unskipped =>
      subst equal
      cases refused with
      | error halt => exact .same rfl regular unskipped
      | ok next => exact later next unskipped
  | apart circular skipped =>
      obtain ⟨chain, moment, rfl⟩ := circular
      refine .apart ⟨chain, moment, rfl⟩ ?_
      cases tolerated with
      | error halt => exact skipped
      | ok next => exact (reports next).skipped skipped

section InStep

variable {environment : Environment} {depth : Nat}

theorem inStep_obey
    (nested : ∀ session found, ¬ session.Skipped →
      InStep (visit (environment.withCycles .fail) depth session found)
        (visit (environment.withCycles .tolerate) depth session found))
    (file : Located) {session : Session} (line : SourceLine) (unskipped : ¬ session.Skipped) :
    InStep
      (session.obey (environment.withCycles .fail)
        (visit (environment.withCycles .fail) depth) file line)
      (session.obey (environment.withCycles .tolerate)
        (visit (environment.withCycles .tolerate) depth) file line) := by
  -- The policy has no part in locating a file or in declaring a location.
  have located (target : Target) : session.locate? (environment.withCycles .fail) file target =
      session.locate? (environment.withCycles .tolerate) file target := rfl
  unfold obey
  split
  · exact .same rfl (by simp [Circular]) unskipped
  · exact inStep_provide unskipped
  · rw [located]
    split
    · exact nested _ _ unskipped
    · exact .same rfl (by simp [Circular]) unskipped

theorem inStep_follow
    (nested : ∀ session found, ¬ session.Skipped →
      InStep (visit (environment.withCycles .fail) depth session found)
        (visit (environment.withCycles .tolerate) depth session found))
    (file : Located) {session : Session} (lines : List SourceLine) (unskipped : ¬ session.Skipped) :
    InStep (session.follow (environment.withCycles .fail) depth file lines)
      (session.follow (environment.withCycles .tolerate) depth file lines) := by
  induction lines generalizing session with
  | nil => exact .same rfl (by simp [Circular, follow, pure, Except.pure]) unskipped
  | cons line rest ih =>
      rw [follow, follow, List.foldlM_cons, List.foldlM_cons]
      refine (inStep_obey nested file line unskipped).bind ?_ fun next => ih
      exact fun next => reports_follow file next rest

theorem inStep_finish {file : Located} {source : Source} {session : Session}
    (unskipped : ¬ session.Skipped) :
    InStep (finish (environment.withCycles .fail) file source session)
      (finish (environment.withCycles .tolerate) file source session) := by
  refine .same rfl ?_ ?_
  · rintro ⟨chain, moment, stopped⟩
    unfold finish at stopped
    split at stopped
    · rename_i failure unrendered
      obtain ⟨_, _, _, _, rfl⟩ := Source.render_error unrendered
      simp at stopped
    · simp at stopped
  · unfold finish
    split <;> exact unskipped

/-- The same call is in step under the two policies. -/
theorem inStep_visit (session : Session) (file : Located) (unskipped : ¬ session.Skipped) :
    InStep (visit (environment.withCycles .fail) depth session file)
      (visit (environment.withCycles .tolerate) depth session file) := by
  induction depth generalizing session file with
  | zero => exact .same rfl (by simp [Circular, visit]) unskipped
  | succ depth ih =>
      by_cases added : file.path ∈ session.emitted
      · rw [visit_of_emitted added, visit_of_emitted added]
        refine .same rfl (by simp [Circular]) ?_
        simpa [remains, skipped_note] using unskipped
      by_cases reading : file.path ∈ session.inProgress
      · -- The only place where the policies part.
        rw [visit_of_inProgress added reading, visit_of_inProgress added reading]
        exact .apart ⟨_, _, rfl⟩ (skipped_note.mpr (.inr ⟨_, rfl⟩))
      have entered : ¬ (session.enter file.path).Skipped := skipped_enter.not.mpr unskipped
      have fresh : session.Fresh file.path := ⟨added, reading⟩
      cases loaded : Source.load environment.files file with
      | error failure =>
          have unread (policy : CyclePolicy) :
              Source.load (environment.withCycles policy).files file = .error failure := loaded
          rw [visit_of_load_error fresh (unread .fail), visit_of_load_error fresh (unread .tolerate)]
          obtain ⟨cause, _, rfl⟩ := Source.load_error loaded
          exact .same rfl (by simp [Circular]) entered
      | ok source =>
          have read (policy : CyclePolicy) :
              Source.load (environment.withCycles policy).files file = .ok source := loaded
          rw [visit_of_load fresh (read .fail), visit_of_load fresh (read .tolerate)]
          exact (inStep_follow ih file source.lines entered).bind (reports_finish file source)
            fun read => inStep_finish

theorem inStep_requireAll (session : Session) (entries : List String)
    (unskipped : ¬ session.Skipped) :
    InStep (session.requireAllWithin (environment.withCycles .fail) depth entries)
      (session.requireAllWithin (environment.withCycles .tolerate) depth entries) := by
  induction entries generalizing session with
  | nil => exact .same rfl (by simp [Circular, requireAllWithin, pure, Except.pure]) unskipped
  | cons entry entries ih =>
      rw [requireAllWithin, requireAllWithin, List.foldlM_cons, List.foldlM_cons]
      refine InStep.bind ?_ (fun next => reports_requireAll next entries) ih
      have place : session.find? (environment.withCycles .fail) entry =
        session.find? (environment.withCycles .tolerate) entry := rfl
      unfold requireWithin
      rw [place]
      split
      · exact inStep_visit _ _ unskipped
      · exact .same rfl (by simp [Circular]) unskipped

end InStep

/-- One list of entries under the two policies.  If it can be added under refused cycles, the same
session results under tolerated ones.  However it ends under tolerated cycles, under refused ones it
ends in the same way or with a circular require, and the latter exactly if a file was skipped. -/
theorem requireAll_refused_or_same (environment : Environment) (depth : Nat)
    (entries : List String) :
    let refused := start.requireAllWithin (environment.withCycles .fail) depth entries
    let tolerated := start.requireAllWithin (environment.withCycles .tolerate) depth entries
    (∀ session, refused = .ok session → tolerated = .ok session) ∧
    (∀ session, tolerated = .ok session → refused = .ok session ∨ Circular refused) ∧
    (∀ halt, tolerated = .error halt → refused = .error halt ∨ Circular refused) ∧
    (Circular refused ↔ (remains tolerated).Skipped) := by
  intro refused tolerated
  have unskipped : ¬ start.Skipped := by simp [Skipped, start]
  have inStep : InStep refused tolerated := inStep_requireAll start entries unskipped
  cases inStep with
  | same equal regular unskipped =>
      rw [equal]
      exact ⟨fun _ => id, fun _ => .inl, fun _ => .inl, by simp [regular, unskipped]⟩
  | apart circular skipped =>
      refine ⟨?_, fun _ _ => .inr circular, fun _ _ => .inr circular, by simp [circular, skipped]⟩
      obtain ⟨chain, moment, stopped⟩ := circular
      simp [stopped]

/-- The file that stands alone is the same under both policies, the ring of two is refused. -/
theorem ringOfTwo_refused :
    ∃ (environment : Environment) (session : Session), environment.files = ringOfTwo.view ∧
      start.requireAll (environment.withCycles .fail) ["c"] = .ok session ∧
      start.requireAll (environment.withCycles .tolerate) ["c"] = .ok session ∧
      Circular (start.requireAll (environment.withCycles .fail) ["c", "a"]) := by
  let environment := Environment.ofRoot ringOfTwo.view ⟨"/p"⟩
  have alone : (start.requireAll (environment.withCycles .fail) ["c"]).toOption.isSome = true := by
    decide +kernel
  have ring : (start.requireAll (environment.withCycles .fail) ["c", "a"]).toOption.isNone = true := by
    decide +kernel
  have tolerated : (start.requireAll (environment.withCycles .tolerate) ["c", "a"]).toOption.isSome =
      true := by
    decide +kernel
  obtain ⟨session, finished⟩ := Option.isSome_iff_exists.mp alone
  obtain ⟨other, skipped⟩ := Option.isSome_iff_exists.mp tolerated
  have run := ok_of_toOption finished
  have single := requireAll_refused_or_same environment (depthBound environment) ["c"]
  have double := requireAll_refused_or_same environment (depthBound environment) ["c", "a"]
  refine ⟨environment, session, rfl, run, single.1 session run, ?_⟩
  rcases double.2.1 other (ok_of_toOption skipped) with succeeded | circular
  · have succeeded : start.requireAll (environment.withCycles .fail) ["c", "a"] = .ok other := succeeded
    simp [succeeded, Except.toOption] at ring
  · exact circular

end Session

end Splice
