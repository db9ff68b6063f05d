import Splice.Proofs.Session.Reachability

/-!
# Runs that go alike

Two environments may render files differently and may hold different files.  As long as the requires
that one run follows lead to the same files in the other environment, and the files that it reads
have the same lines there, the other run makes the same calls and ends with the same books, up to
the lines that it renders.
-/

namespace Splice

namespace Session

/-! ## Matching sessions -/

/-- Sessions that differ at most in the lines of their files, which are in a given relation. -/
structure Matches (Lines : List String → List String → Prop) (left right : Session) : Prop where
  aliases : right.aliases = left.aliases
  emitted : right.emitted = left.emitted
  inProgress : right.inProgress = left.inProgress
  trace : right.trace = left.trace
  provided : right.resolution.provided = left.resolution.provided
  sources : List.Forall₂ (fun one other => other.file = one.file ∧ Lines one.lines other.lines)
    left.resolution.sources right.resolution.sources

variable {Lines : List String → List String → Prop} {left right : Session}

theorem matches_start : Matches Lines start start :=
  ⟨rfl, rfl, rfl, rfl, rfl, .nil⟩

theorem Matches.note (matched : Matches Lines left right) (event : Event) :
    Matches Lines (left.note event) (right.note event) :=
  { matched with trace := by simp [Session.note, matched.trace] }

theorem Matches.enter (matched : Matches Lines left right) (path : Path) :
    Matches Lines (left.enter path) (right.enter path) :=
  { matched with
    inProgress := by simp [Session.enter, matched.inProgress]
    trace := by simp [Session.enter, Session.note, matched.trace] }

theorem Matches.emit (matched : Matches Lines left right) (file : Located)
    {lines others : List String} (rendered : Lines lines others) :
    Matches Lines (left.emit file lines) (right.emit file others) :=
  { matched with
    emitted := by simp [Session.emit, matched.emitted]
    inProgress := by simp [Session.emit, matched.inProgress]
    sources := List.rel_append matched.sources (.cons ⟨rfl, rendered⟩ .nil) }

theorem Matches.addAlias (matched : Matches Lines left right) (name : String) (location : Path) :
    Matches Lines (left.addAlias name location) (right.addAlias name location) :=
  { matched with
    aliases := by simp [Session.addAlias, Session.note, matched.aliases]
    trace := by simp [Session.addAlias, Session.note, matched.trace] }

theorem Matches.addAsset (matched : Matches Lines left right) (asset : Asset) :
    Matches Lines { left with resolution := left.resolution.addAsset asset }
      { right with resolution := right.resolution.addAsset asset } :=
  { matched with
    provided := by
      simp only [Resolution.addAsset, matched.provided]
      split <;> simp [matched.provided]
    sources := by simpa using matched.sources }

theorem Matches.fresh_iff (matched : Matches Lines left right) (path : Path) :
    right.Fresh path ↔ left.Fresh path := by
  rw [Fresh, Fresh, matched.emitted, matched.inProgress]

theorem Matches.files_eq (matched : Matches Lines left right) :
    right.resolution.sources.map (·.file) = left.resolution.sources.map (·.file) := by
  have same := matched.sources.imp fun _ _ related => related.1
  generalize left.resolution.sources = sources at same
  generalize right.resolution.sources = others at same
  induction same with
  | nil => rfl
  | cons first _ ih => rw [List.map_cons, List.map_cons, first, ih]

/-- Where lines are the same, all that has been gathered is. -/
theorem Matches.resolution_eq (matched : Matches Eq left right) :
    right.resolution = left.resolution := by
  have same : left.resolution.sources = right.resolution.sources := by
    rw [← List.forall₂_eq_eq_eq]
    refine matched.sources.imp fun one other related => ?_
    cases one
    cases other
    simp_all
  cases given : left.resolution
  cases found : right.resolution
  have provided := matched.provided
  simp_all

/-! ## Outcomes -/

/-- Where the one run succeeds, the other one succeeds with a session that matches, unless it fails
for an excused cause. -/
def Follows (Lines : List String → List String → Prop) (Excused : Failure → Prop)
    (leader follower : Except Halt Session) : Prop :=
  ∀ done, leader = .ok done →
    (∃ other, follower = .ok other ∧ Matches Lines done other) ∨
      ∃ halt, follower = .error halt ∧ Excused halt.failure

variable {Excused : Failure → Prop}

theorem Matches.follows (matched : Matches Lines left right) :
    Follows Lines Excused (.ok left) (.ok right) := by
  intro done same
  obtain rfl := Except.ok.inj same
  exact .inl ⟨right, rfl, matched⟩

theorem follows_of_error (halt : Halt) (follower : Except Halt Session) :
    Follows Lines Excused (.error halt) follower := by
  intro done same
  simp at same

theorem Follows.bind {leader follower : Except Halt Session}
    {lead follow : Session → Except Halt Session} (first : Follows Lines Excused leader follower)
    (later : ∀ done other, leader = .ok done → Matches Lines done other →
      Follows Lines Excused (lead done) (follow other)) :
    Follows Lines Excused (leader >>= lead) (follower >>= follow) := by
  cases leader with
  | error halt => exact follows_of_error halt _
  | ok done =>
      rcases first done rfl with ⟨other, rfl, matched⟩ | ⟨halt, rfl, excused⟩
      · exact later done other rfl matched
      · exact fun _ _ => .inr ⟨halt, rfl, excused⟩

/-! ## Calls -/

/-- What makes calls go alike in another environment: every require that one of them follows leads
to the same file there, every file that one of them reads has the same lines there, and what is
rendered here is rendered there in a related way or fails for an excused cause. -/
structure Alike (Lines : List String → List String → Prop) (Excused : Failure → Prop)
    (Among : Call → Prop) (leading following : Environment) : Prop where
  cycles : following.options.cycles = leading.options.cycles
  has : ∀ {path : Path}, leading.files.has path = true → following.files.has path = true
  rendered : ∀ {source : Source} {lines : List String},
    source.render leading.constants leading.options.stripComments = .ok lines →
      (∃ others, source.render following.constants following.options.stripComments = .ok others ∧
        Lines lines others) ∨
      ∃ failure, source.render following.constants following.options.stripComments =
        .error failure ∧ Excused failure
  nested : ∀ {outer inner : Call} {line : SourceLine}, Among outer →
    outer.Requires leading line inner → Among inner
  located : ∀ {call : Call} {line : SourceLine} {moment : Session} {target : Target}, Among call →
    call.ComesTo leading line moment → line.directive = some (.require target) →
    moment.locate? following call.file target = moment.locate? leading call.file target
  loaded : ∀ {call : Call} {source : Source}, Among call → call.Reads leading source →
    Source.load following.files call.file = .ok source

section Calls

variable {Among : Call → Prop} {leading following : Environment}
  (alike : Alike Lines Excused Among leading following)

include alike

theorem follows_provide (matched : Matches Lines left right) (file : Located) (number : Nat)
    (location : String) (label : Option String) :
    Follows Lines Excused (left.provide leading file number location label)
      (right.provide following file number location label) := by
  unfold provide
  extract_lets path
  by_cases present : leading.files.has path = true
  · rw [if_pos present, if_pos (alike.has present)]
    cases label with
    | none => exact (matched.addAsset _).follows
    | some name => exact ((matched.addAlias name path).addAsset _).follows
  · rw [if_neg present]
    exact follows_of_error _ _

theorem follows_finish (matched : Matches Lines left right) (file : Located) (source : Source) :
    Follows Lines Excused (finish leading file source left) (finish following file source right) := by
  unfold finish
  split
  · exact follows_of_error _ _
  · rename_i lines here
    rcases alike.rendered here with ⟨others, there, related⟩ | ⟨failure, there, excused⟩
    · rw [there]
      exact (matched.emit file related).follows
    · rw [there]
      exact fun _ _ => .inr ⟨_, rfl, excused⟩

variable {depth : Nat}
  (nested : ∀ {session other : Session} {found : Located}, Among ⟨depth, session, found⟩ →
    Matches Lines session other →
    Follows Lines Excused (session.visit leading depth found) (other.visit following depth found))

include nested

theorem follows_obey {session moment other : Session} {file : Located} {line : SourceLine}
    (among : Among ⟨depth + 1, session, file⟩)
    (comes : Call.ComesTo leading ⟨depth + 1, session, file⟩ line moment)
    (matched : Matches Lines moment other) :
    Follows Lines Excused (moment.obey leading (visit leading depth) file line)
      (other.obey following (visit following depth) file line) := by
  unfold obey
  cases directive : line.directive with
  | none => exact matched.follows
  | some directed =>
      cases directed with
      | provide location label => exact follows_provide alike matched file _ location label
      | require target =>
          have place := alike.located among comes directive
          rw [← locate?_of_aliases matched.aliases] at place
          simp only [place]
          cases found : moment.locate? leading file target with
          | none => exact follows_of_error _ _
          | some located => exact nested (alike.nested among (.call comes directive found)) matched

theorem follows_follow {session moment other : Session} {file : Located} {source : Source}
    {before rest : List SourceLine} (among : Among ⟨depth + 1, session, file⟩)
    (reads : Call.Reads leading ⟨depth + 1, session, file⟩ source)
    (lines : source.lines = before ++ rest)
    (followed : (session.enter file.path).follow leading depth file before = .ok moment)
    (matched : Matches Lines moment other) :
    Follows Lines Excused (moment.follow leading depth file rest)
      (other.follow following depth file rest) := by
  induction rest generalizing before moment other with
  | nil => exact matched.follows
  | cons line rest ih =>
      rw [follow, follow, List.foldlM_cons, List.foldlM_cons]
      have obeyed := follows_obey alike nested among (.follow reads lines followed) matched
      refine obeyed.bind fun done next run matched => ?_
      have split : source.lines = (before ++ [line]) ++ rest := by simp [lines]
      refine ih split ?_ matched
      exact foldlM_append_ok.mpr ⟨moment, followed, foldlM_cons_ok.mpr ⟨done, run, rfl⟩⟩

omit nested in
/-- The same call follows the leading one. -/
theorem follows_visit {session other : Session} {file : Located}
    (among : Among ⟨depth, session, file⟩) (matched : Matches Lines session other) :
    Follows Lines Excused (session.visit leading depth file) (other.visit following depth file) := by
  induction depth generalizing session other file with
  | zero => exact follows_of_error _ _
  | succ depth ih =>
      by_cases added : file.path ∈ session.emitted
      · rw [visit_of_emitted added, visit_of_emitted (matched.emitted ▸ added)]
        exact (matched.note _).follows
      by_cases reading : file.path ∈ session.inProgress
      · rw [visit_of_inProgress added reading,
          visit_of_inProgress (matched.emitted ▸ added) (matched.inProgress ▸ reading), onCycle,
          onCycle, alike.cycles]
        cases leading.options.cycles with
        | tolerate => exact (matched.note _).follows
        | fail => exact follows_of_error _ _
      have fresh : session.Fresh file.path := ⟨added, reading⟩
      cases loaded : Source.load leading.files file with
      | error failure =>
          rw [visit_of_load_error fresh loaded]
          exact follows_of_error _ _
      | ok source =>
          have reads : Call.Reads leading ⟨depth + 1, session, file⟩ source := ⟨fresh, loaded⟩
          rw [visit_of_load fresh loaded,
            visit_of_load ((matched.fresh_iff _).mpr fresh) (alike.loaded among reads)]
          have followed := follows_follow alike ih among reads (List.nil_append _).symm rfl
            (matched.enter file.path)
          exact followed.bind fun done next _ matched => follows_finish alike matched file source

end Calls

/-! ## Entries -/

/-- A run follows another one if all its calls go alike and its entries lead to the same files. -/
theorem follows_requireAll {leading following : Environment} {depth : Nat} {entries : List String}
    (alike : Alike Lines Excused (Made leading depth entries) leading following)
    (entered : ∀ {before after : List String} {entry : String} {session : Session},
      entries = before ++ entry :: after →
      start.requireAllWithin leading depth before = .ok session →
      session.find? following entry = session.find? leading entry) :
    Follows Lines Excused (start.requireAllWithin leading depth entries)
      (start.requireAllWithin following depth entries) := by
  have onwards {before rest : List String} {session other : Session}
      (parts : entries = before ++ rest)
      (run : start.requireAllWithin leading depth before = .ok session)
      (matched : Matches Lines session other) :
      Follows Lines Excused (session.requireAllWithin leading depth rest)
        (other.requireAllWithin following depth rest) := by
    induction rest generalizing before session other with
    | nil => exact matched.follows
    | cons entry rest ih =>
        rw [requireAllWithin, requireAllWithin, List.foldlM_cons, List.foldlM_cons]
        have place : other.find? following entry = session.find? leading entry := by
          rw [← entered parts run, find?, find?, matched.aliases]
        have first : Follows Lines Excused (session.requireWithin leading depth entry)
            (other.requireWithin following depth entry) := by
          unfold requireWithin
          rw [place]
          cases found : session.find? leading entry with
          | none => exact follows_of_error _ _
          | some file =>
              exact follows_visit alike ⟨_, 0, .entry parts run found, .top⟩ matched
        refine first.bind fun done next finished matched => ?_
        have split : entries = (before ++ [entry]) ++ rest := by simp [parts]
        refine ih split ?_ matched
        exact foldlM_append_ok.mpr ⟨session, run, foldlM_cons_ok.mpr ⟨done, finished, rfl⟩⟩
  exact onwards (List.nil_append _).symm rfl matches_start

end Session

end Splice
