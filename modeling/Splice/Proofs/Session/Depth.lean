import Mathlib.Data.List.Perm.Subperm
import Splice.Proofs.Files.Memory
import Splice.Proofs.Session.Coherence

/-!
# Depth of requires

Every nested call that reads a file enters a stored path that was not being read, so calls that read
cannot be nested deeper than there are stored files.  A bound of one more is never reached, and a
greater one gives the same answer.
-/

namespace Splice

/-! ## Stored files -/

/-- A located path is spelled in the plain way. -/
theorem Located.ofComponents_components (located : Located) :
    Path.ofComponents located.path.components = located.path := by
  have components : located.path.components = Path.normalComponents located.path.components := by
    rw [← Path.components_normalize, located.normal]
  rw [components]
  exact located.normal

/-- Every located file that can be read is among the stored ones. -/
def Files.Enumerated (files : Files) : Prop :=
  ∀ {file : Located} {source : Source}, Source.load files file = .ok source →
    file.path ∈ files.stored

theorem MemoryFiles.enumerated (store : MemoryFiles) : store.view.Enumerated := by
  intro file source loaded
  obtain ⟨texts, read, _⟩ := Source.load_ok.mp loaded
  obtain ⟨content, member, _⟩ := mem_files_of_readLines read
  exact List.mem_map.mpr ⟨_, member, file.ofComponents_components⟩

namespace Session

/-! ## More depth -/

/-- An outcome that does not blame the depth. -/
def Settled (outcome : Except Halt Session) : Prop :=
  ∀ halt, outcome = .error halt → halt.failure ≠ .depthLimit

section Succ

variable {environment : Environment} {depth : Nat}
  (nested : ∀ {session : Session} {found : Located},
    Settled (session.visit environment depth found) →
    session.visit environment (depth + 1) found = session.visit environment depth found)

include nested

theorem obey_succ {session : Session} {file : Located} {line : SourceLine}
    (settled : Settled (session.obey environment (visit environment depth) file line)) :
    session.obey environment (visit environment (depth + 1)) file line =
      session.obey environment (visit environment depth) file line := by
  unfold obey at settled ⊢
  split
  · rfl
  · rfl
  · rename_i target asks
    cases place : session.locate? environment file target with
    | none => rfl
    | some found =>
        simp only [asks, place] at settled ⊢
        exact nested settled

theorem follow_succ {session : Session} {file : Located} {lines : List SourceLine}
    (settled : Settled (session.follow environment depth file lines)) :
    session.follow environment (depth + 1) file lines =
      session.follow environment depth file lines := by
  induction lines generalizing session with
  | nil => rfl
  | cons line rest ih =>
      unfold follow at settled ih ⊢
      rw [List.foldlM_cons] at settled
      have here : Settled (session.obey environment (visit environment depth) file line) := by
        intro halt stopped
        apply settled halt
        rw [stopped]
        rfl
      rw [List.foldlM_cons, List.foldlM_cons, obey_succ nested here]
      cases first : session.obey environment (visit environment depth) file line with
      | error halt => rfl
      | ok next =>
          rw [first] at settled
          exact ih settled

end Succ

/-- A settled outcome stays the same with more depth. -/
theorem visit_succ {environment : Environment} {depth : Nat} {session : Session} {file : Located}
    (settled : Settled (session.visit environment depth file)) :
    session.visit environment (depth + 1) file = session.visit environment depth file := by
  induction depth generalizing session file with
  | zero => exact absurd rfl (settled _ rfl)
  | succ depth ih =>
      by_cases added : file.path ∈ session.emitted
      · rw [visit_of_emitted added, visit_of_emitted added]
      by_cases reading : file.path ∈ session.inProgress
      · rw [visit_of_inProgress added reading, visit_of_inProgress added reading]
      have fresh : session.Fresh file.path := ⟨added, reading⟩
      rw [visit_of_fresh fresh] at settled ⊢
      rw [visit_of_fresh fresh]
      cases loaded : Source.load environment.files file with
      | error failure => rfl
      | ok source =>
          have inside : Settled
              ((session.enter file.path).follow environment depth file source.lines) := by
            intro halt stopped
            apply settled halt
            simp only [loaded, stopped]
          simp only [follow_succ ih inside]

theorem visit_le {environment : Environment} {depth more : Nat} {session : Session}
    {file : Located} (settled : Settled (session.visit environment depth file))
    (greater : depth ≤ more) :
    session.visit environment more file = session.visit environment depth file := by
  induction greater with
  | refl => rfl
  | step _ ih => rw [visit_succ (ih ▸ settled), ih]

/-! ## Enough depth -/

/-- The number of stored files that are not being read. -/
def room (environment : Environment) (session : Session) : Nat :=
  (environment.files.stored.filter (· ∉ session.inProgress)).length

/-- Entering a stored file takes room. -/
theorem room_enter {environment : Environment} {session : Session} {path : Path}
    (stored : path ∈ environment.files.stored) (fresh : session.Fresh path) :
    (session.enter path).room environment < session.room environment := by
  have fewer : environment.files.stored.filter (· ∉ (session.enter path).inProgress) =
      (environment.files.stored.filter (· ∉ session.inProgress)).filter (· ≠ path) := by
    rw [List.filter_filter]
    apply List.filter_congr
    intro other _
    simp [enter, and_comm]
  rw [room, room, fewer]
  refine List.length_filter_lt_length_iff_exists.mpr ⟨path, ?_, by simp⟩
  simpa using ⟨stored, fresh.2⟩

theorem Extends.room_eq {before after : Session} (grown : before.Extends after)
    (environment : Environment) : after.room environment = before.room environment := by
  rw [room, room, grown.inProgress]

variable {environment : Environment}

/-- With more depth than room, the depth is not what makes a call fail. -/
theorem settled_visit (enumerated : environment.files.Enumerated) {depth : Nat}
    {session : Session} {file : Located} (enough : session.room environment < depth) :
    Settled (session.visit environment depth file) := by
  -- A nested call is made with one less depth, but also after its outer file has taken room.
  induction depth generalizing session file with
  | zero => simp at enough
  | succ depth ih =>
      intro halt run
      rcases visit_error run with ⟨_, _, _, rfl⟩ | ⟨_, failure, unread, rfl⟩ |
        ⟨fresh, source, loaded, stopped | ⟨_, failure, _, unrendered, rfl⟩⟩
      · simp
      · obtain ⟨cause, _, rfl⟩ := Source.load_error unread
        simp
      · obtain ⟨before, line, after, moment, lines, followed, obeyed⟩ := foldlM_error stopped
        have taken := room_enter (enumerated loaded) fresh
        have same := (extends_follow extends_visit followed).room_eq environment
        rcases obey_error obeyed with ⟨_, _, _, _, rfl⟩ | ⟨_, _, _, rfl⟩ | ⟨_, _, _, _, called⟩
        · simp
        · simp
        · exact ih (by omega) halt called
      · obtain ⟨_, _, _, _, rfl⟩ := Source.render_error unrendered
        simp

theorem settled_ok (session : Session) : Settled (.ok session) := by
  intro halt stopped
  simp at stopped

/-- Entries that can be added can be added with more depth. -/
theorem requireAllWithin_le {depth more : Nat} {session after : Session} {entries : List String}
    (run : session.requireAllWithin environment depth entries = .ok after) (greater : depth ≤ more) :
    session.requireAllWithin environment more entries = .ok after := by
  induction entries generalizing session with
  | nil => exact run
  | cons entry entries ih =>
      obtain ⟨middle, first, others⟩ := foldlM_cons_ok.mp run
      obtain ⟨file, place, called⟩ := requireWithin_ok first
      have deeper := (visit_le (called ▸ settled_ok middle) greater).trans called
      refine foldlM_cons_ok.mpr ⟨middle, ?_, ih others⟩
      rw [requireWithin, place]
      exact deeper

/-- Where all files are enumerated, entries that can be added with some depth can be added with the
depth that the number of files gives. -/
theorem requireAll_of_within (enumerated : environment.files.Enumerated) {depth : Nat}
    {session after : Session} {entries : List String}
    (run : session.requireAllWithin environment depth entries = .ok after) :
    session.requireAll environment entries = .ok after := by
  induction entries generalizing session with
  | nil => exact run
  | cons entry entries ih =>
      obtain ⟨middle, first, others⟩ := foldlM_cons_ok.mp run
      obtain ⟨file, place, called⟩ := requireWithin_ok first
      have enough : session.room environment < depthBound environment :=
        Nat.lt_succ_of_le (List.length_filter_le _ _)
      have settled : Settled (session.visit environment (depthBound environment) file) :=
        settled_visit enumerated enough
      have deepest : session.visit environment (max depth (depthBound environment)) file =
          .ok middle :=
        (visit_le (called ▸ settled_ok middle) (Nat.le_max_left _ _)).trans called
      rw [visit_le settled (Nat.le_max_right _ _)] at deepest
      refine foldlM_cons_ok.mpr ⟨middle, ?_, ih others⟩
      rw [requireWithin, place]
      exact deepest

end Session

/-! ## Nesting -/

namespace Call

variable {environment : Environment}

/-- As many files are being read as requires lead to a call. -/
theorem Nested.length_inProgress {top call : Call} {level : Nat}
    (nested : Nested environment top level call) :
    call.session.inProgress.length = top.session.inProgress.length + level := by
  induction nested with
  | top => rfl
  | step _ requires ih =>
      obtain ⟨comes, _, _⟩ := requires
      simp only [comes.inProgress, List.length_append, List.length_singleton, ih]
      omega

/-- All files that are being read are stored ones. -/
theorem Nested.inProgress_subset (enumerated : environment.files.Enumerated) {top call : Call}
    {level : Nat} (nested : Nested environment top level call)
    (outside : top.session.inProgress ⊆ environment.files.stored) :
    call.session.inProgress ⊆ environment.files.stored := by
  induction nested with
  | top => exact outside
  | step _ requires ih =>
      obtain ⟨comes, _, _⟩ := requires
      rw [comes.inProgress]
      obtain ⟨⟨_, loaded⟩, _, _⟩ := comes
      exact List.append_subset.mpr ⟨ih, by simpa using enumerated loaded⟩

end Call

namespace Session

variable {environment : Environment}

/-- Calls that read are not nested deeper than there are stored files. -/
theorem level_lt_stored (enumerated : environment.files.Enumerated) {top call : Call} {level : Nat}
    {source : Source} (coherent : Coherent top.session) (idle : top.session.inProgress = [])
    (nested : Call.Nested environment top level call) (reads : call.Reads environment source) :
    level < environment.files.stored.length := by
  -- The files being read, the one about to be included, are distinct and all of them stored.
  have entered : Coherent (call.session.enter call.file.path) :=
    (nested.kept (kept_coherent environment) coherent trivial).1.enter reads.1
  have inside : (call.session.enter call.file.path).inProgress ⊆ environment.files.stored :=
    List.append_subset.mpr ⟨nested.inProgress_subset enumerated (by simp [idle]),
      by simpa using enumerated reads.2⟩
  have fits := (List.subperm_of_subset entered.entered_once inside).length_le
  have count := nested.length_inProgress
  simp only [enter, List.length_append, List.length_singleton, count, idle, List.length_nil] at fits
  omega

/-- A call for a file that has been added or is being read reads nothing: it goes the same way
whatever the files hold. -/
theorem visit_of_known {session : Session} {file : Located}
    (known : file.path ∈ session.emitted ∨ file.path ∈ session.inProgress) (depth : Nat)
    (files : Files) :
    session.visit { environment with files } depth file = session.visit environment depth file := by
  cases depth with
  | zero => rfl
  | succ depth =>
      by_cases added : file.path ∈ session.emitted
      · rw [visit_of_emitted added, visit_of_emitted added]
      · have reading := known.resolve_left added
        rw [visit_of_inProgress added reading, visit_of_inProgress added reading]
        rfl

/-- Over files in memory a call ends whatever the cycle policy: a depth of one more than there are
files is never exhausted, and a greater one gives the same outcome.  A call for a path that has been
added or is being read goes the same way whatever the files hold.  Whatever the depth, each nested
call that reads a source enters a stored path that was neither being read nor added, so such calls
are not nested deeper than there are files. -/
theorem visit_ends_within_stored {store : MemoryFiles} (inMemory : environment.files = store.view)
    {earlier : Nat} {entries : List String} {session : Session}
    (reached : start.requireAllWithin environment earlier entries = .ok session) (file : Located) :
    Settled (session.visit environment (store.files.length + 1) file) ∧
    (∀ depth, store.files.length + 1 ≤ depth →
      session.visit environment depth file =
        session.visit environment (store.files.length + 1) file) ∧
    (∀ (depth : Nat) (other : Session) (found : Located),
      found.path ∈ other.emitted ∨ found.path ∈ other.inProgress →
      ∀ files, other.visit { environment with files } depth found =
        other.visit environment depth found) ∧
    ∀ (depth level : Nat) (call : Call) (source : Source),
      Call.Nested environment ⟨depth, session, file⟩ level call →
      call.Reads environment source →
        level + 1 ≤ store.files.length ∧
        call.file.path ∈ environment.files.stored ∧
        call.file.path ∉ call.session.inProgress ∧
        call.file.path ∉ call.session.emitted ∧
        ∀ line moment, call.ComesTo environment line moment →
          moment.inProgress = call.session.inProgress ++ [call.file.path] := by
  have enumerated : environment.files.Enumerated := inMemory ▸ store.enumerated
  have count : environment.files.stored.length = store.files.length := by
    rw [inMemory]
    exact List.length_map _
  have coherent := coherent_of_run reached
  have idle : session.inProgress = [] := (extends_requireAll reached).inProgress
  have enough : session.room environment < store.files.length + 1 := by
    rw [← count]
    exact Nat.lt_succ_of_le (List.length_filter_le _ _)
  have settled : Settled (session.visit environment (store.files.length + 1) file) :=
    settled_visit enumerated enough
  refine ⟨settled, fun depth greater => visit_le settled greater,
    fun depth _ _ known files => visit_of_known known depth files, ?_⟩
  intro depth level call source nested reads
  have bound := level_lt_stored enumerated coherent idle nested reads
  exact ⟨count ▸ bound, enumerated reads.2, reads.1.2, reads.1.1, fun _ _ comes => comes.inProgress⟩

/-- Two files in a ring and one that stands alone. -/
def ringOfTwo : MemoryFiles :=
  ((MemoryFiles.empty.insert ⟨"/p/a.js"⟩ "//= require <b>").insert ⟨"/p/b.js"⟩
    "//= require <a>").insert ⟨"/p/c.js"⟩ ""

theorem ringOfTwo_ends :
    ∃ environment session,
      environment.files = ringOfTwo.view ∧
      start.requireAll environment ["c"] = .ok session ∧
      Settled (session.visit environment 4 (.ofPath ⟨"/p/a.js"⟩)) ∧
      session.visit environment 1000 (.ofPath ⟨"/p/a.js"⟩) =
        session.visit environment 4 (.ofPath ⟨"/p/a.js"⟩) := by
  let environment := Environment.ofRoot ringOfTwo.view ⟨"/p"⟩
  have evaluated : (start.requireAll environment ["c"]).toOption.isSome = true := by
    decide +kernel
  obtain ⟨session, finished⟩ := Option.isSome_iff_exists.mp evaluated
  have run : start.requireAll environment ["c"] = .ok session := ok_of_toOption finished
  have ends := visit_ends_within_stored rfl run (.ofPath ⟨"/p/a.js"⟩)
  exact ⟨environment, session, rfl, run, ends.1, ends.2.1 1000 (by decide)⟩

end Session

end Splice
