import Splice.Proofs.Session.Coherence

/-!
# Order of files

A successful run adds every file after the files that its requires were located to.  Only where a
tolerated cycle was met may a required file come later, and then a chain of requires leads from it
back to the file that requires it.
-/

namespace Splice

/-- The first file stands strictly before the second one. -/
def Resolution.Before (resolution : Resolution) (first second : Path) : Prop :=
  resolution.paths.idxOf first < resolution.paths.idxOf second

theorem Resolution.Before.mem {resolution : Resolution} {first second : Path}
    (before : resolution.Before first second) : first ∈ resolution.paths :=
  List.idxOf_lt_length_iff.mp (Nat.lt_of_lt_of_le before List.idxOf_le_length)

/-- What is in the front part of a list stands before what is not. -/
theorem idxOf_lt_idxOf {front back : List Path} {first second : Path} (inside : first ∈ front)
    (outside : second ∉ front) : (front ++ back).idxOf first < (front ++ back).idxOf second := by
  rw [List.idxOf_append_of_mem inside, List.idxOf_append_of_notMem outside]
  have := List.idxOf_lt_length_of_mem inside
  omega

namespace Session

/-! ## Calls of a run -/

/-- The calls for the entries of a run, each made after the entries before it were added. -/
inductive Entered (environment : Environment) (depth : Nat) (entries : List String) : Call → Prop
  | entry {before after : List String} {entry : String} {session : Session} {file : Located} :
      entries = before ++ entry :: after →
      start.requireAllWithin environment depth before = .ok session →
      session.find? environment entry = some file →
      Entered environment depth entries ⟨depth, session, file⟩

/-- All calls of a run: those for its entries and those nested in them. -/
def Made (environment : Environment) (depth : Nat) (entries : List String) (call : Call) : Prop :=
  ∃ top level, Entered environment depth entries top ∧ Call.Nested environment top level call

/-- During the run the require on a line of the file at a path was located to `found`, with the
names known at that moment. -/
def Followed (environment : Environment) (depth : Nat) (entries : List String) (path : Path)
    (line : SourceLine) (found : Located) : Prop :=
  ∃ outer inner, Made environment depth entries outer ∧ outer.file.path = path ∧
    Call.Requires environment outer line inner ∧ inner.file = found

/-- During the run some require of one file was located to the other one. -/
def Leads (environment : Environment) (depth : Nat) (entries : List String)
    (path next : Path) : Prop :=
  ∃ line found, Followed environment depth entries path line found ∧ found.path = next

variable {environment : Environment} {depth : Nat} {entries : List String}

theorem Made.requires {outer inner : Call} {line : SourceLine}
    (made : Made environment depth entries outer)
    (requires : Call.Requires environment outer line inner) :
    Made environment depth entries inner := by
  obtain ⟨top, level, entered, nested⟩ := made
  exact ⟨top, level + 1, entered, nested.step requires⟩

theorem Leads.of_requires {outer inner : Call} {line : SourceLine}
    (made : Made environment depth entries outer)
    (requires : Call.Requires environment outer line inner) :
    Leads environment depth entries outer.file.path inner.file.path :=
  ⟨line, inner.file, ⟨outer, inner, made, rfl, requires, rfl⟩, rfl⟩

variable {final : Session}

/-- Every call of a successful run succeeds, and what it adds stays added. -/
theorem Made.run_ok {call : Call} (made : Made environment depth entries call)
    (run : start.requireAllWithin environment depth entries = .ok final) :
    ∃ done, call.run environment = .ok done ∧ done.emitted <+: final.emitted := by
  obtain ⟨top, level, ⟨parts, earlier, place⟩, nested⟩ := made
  rw [parts] at run
  obtain ⟨session, first, later⟩ := foldlM_append_ok.mp run
  obtain rfl := Except.ok.inj (earlier.symm.trans first)
  obtain ⟨next, entered, others⟩ := foldlM_cons_ok.mp later
  obtain ⟨file, found, called⟩ := requireWithin_ok entered
  obtain rfl := Option.some.inj (place.symm.trans found)
  obtain ⟨done, finished, inside⟩ := nested.run_ok called
  exact ⟨done, finished, inside.trans (extends_requireAll others).emitted⟩

/-- A file that a successful run reads is added. -/
theorem Made.mem_emitted {call : Call} {source : Source}
    (made : Made environment depth entries call) (reads : call.Reads environment source)
    (run : start.requireAllWithin environment depth entries = .ok final) :
    call.file.path ∈ final.emitted := by
  obtain ⟨done, finished, kept⟩ := made.run_ok run
  rcases Call.mem_emitted_of_run finished with added | ⟨reading, _⟩
  · exact kept.subset added
  · exact absurd reading reads.1.2

/-- Every file gathered by the first entries of a run was read by some call of the run. -/
theorem made_of_mem_sources {added : Rendered} {before rest : List String} {session : Session}
    (parts : entries = before ++ rest)
    (run : start.requireAllWithin environment depth before = .ok session)
    (member : added ∈ session.resolution.sources) :
    ∃ call source, Made environment depth entries call ∧ call.Reads environment source ∧
      call.file = added.file := by
  induction before using List.reverseRecOn generalizing rest session with
  | nil =>
      obtain rfl := Except.ok.inj run
      simp [start, Resolution.empty] at member
  | append_singleton before entry ih =>
      have split : entries = before ++ entry :: rest := by simpa using parts
      obtain ⟨middle, earlier, last⟩ := foldlM_append_ok.mp run
      obtain ⟨_, entered, same⟩ := foldlM_cons_ok.mp last
      obtain rfl := Except.ok.inj same
      obtain ⟨file, found, called⟩ := requireWithin_ok entered
      rcases Call.readsInside_of_mem_sources called member with known | ⟨level, call, source, inside⟩
      · exact ih split earlier known
      · exact ⟨call, source, ⟨_, level, .entry split earlier found, inside.1⟩, inside.2⟩

/-- Every gathered path was read by some call of the run, which succeeded. -/
theorem made_of_mem_paths {path : Path}
    (run : start.requireAllWithin environment depth entries = .ok final)
    (member : path ∈ final.resolution.paths) :
    ∃ call source after, Made environment depth entries call ∧ call.Reads environment source ∧
      call.run environment = .ok after ∧ call.file.path = path := by
  obtain ⟨added, gathered, rfl⟩ := List.mem_map.mp member
  obtain ⟨call, source, made, reads, same⟩ :=
    made_of_mem_sources (List.append_nil _).symm run gathered
  obtain ⟨after, finished, _⟩ := made.run_ok run
  exact ⟨call, source, after, made, reads, finished, by rw [same]⟩

/-! ## Before or on a cycle -/

/-- A chain of requires leads from every file being read to the file that is called for. -/
theorem Made.chain {call : Call} (made : Made environment depth entries call)
    (run : start.requireAllWithin environment depth entries = .ok final) {path : Path}
    (reading : path ∈ call.session.inProgress) :
    path ∈ final.emitted ∧
      Relation.TransGen (Leads environment depth entries) path call.file.path := by
  obtain ⟨top, level, entered, nested⟩ := made
  -- At the top nothing is being read; each require adds its file as the innermost one.
  induction nested generalizing path with
  | top =>
      obtain ⟨_, earlier, _⟩ := entered
      rw [(extends_requireAll earlier).inProgress] at reading
      simp [start] at reading
  | @step level outer inner line nested requires ih =>
      have made : Made environment depth entries outer := ⟨top, level, entered, nested⟩
      have leads := Leads.of_requires made requires
      obtain ⟨comes, _, _⟩ := requires
      rw [comes.inProgress] at reading
      rcases List.mem_append.mp reading with outside | innermost
      · obtain ⟨added, chain⟩ := ih outside
        exact ⟨added, chain.tail leads⟩
      · obtain rfl := List.mem_singleton.mp innermost
        obtain ⟨reads, _, _⟩ := comes
        exact ⟨made.mem_emitted reads run, .single leads⟩

/-- What a call requires is added before its file, or a tolerated cycle was met. -/
theorem Made.before_or_cycle {outer inner : Call} {line : SourceLine}
    (made : Made environment depth entries outer)
    (requires : Call.Requires environment outer line inner)
    (run : start.requireAllWithin environment depth entries = .ok final) :
    final.resolution.Before inner.file.path outer.file.path ∨
      environment.options.cycles = .tolerate ∧
        inner.file.path ∈ outer.session.inProgress ++ [outer.file.path] := by
  obtain ⟨after, finished, ⟨tail, whole⟩⟩ := made.run_ok run
  obtain ⟨done, rest, called, emitted⟩ := requires.run_ok finished
  rcases Call.mem_emitted_of_run called with added | ⟨reading, policy⟩
  · have coherent := coherent_of_run run
    have once := coherent.added_once
    -- What the inner call has added stays in front of the outer file, which is added only here.
    have all : final.emitted = (done.emitted ++ rest) ++ outer.file.path :: tail := by
      rw [← whole, emitted]
      simp
    rw [all] at once
    have later : outer.file.path ∉ done.emitted ++ rest := fun earlier =>
      (List.nodup_append.mp once).2.2 _ earlier _ (by simp) rfl
    left
    rw [Resolution.Before, ← coherent.gathered, all]
    exact idxOf_lt_idxOf (by simp [added]) later
  · obtain ⟨comes, _, _⟩ := requires
    rw [comes.inProgress] at reading
    exact .inr ⟨policy, reading⟩

/-- What a call requires is gathered by the end of the run. -/
theorem Made.required_mem {outer inner : Call} {line : SourceLine}
    (made : Made environment depth entries outer)
    (requires : Call.Requires environment outer line inner)
    (run : start.requireAllWithin environment depth entries = .ok final) :
    inner.file.path ∈ final.resolution.paths := by
  rcases made.before_or_cycle requires run with before | ⟨_, reading⟩
  · exact before.mem
  · rw [← (coherent_of_run run).gathered]
    rcases List.mem_append.mp reading with outside | itself
    · exact (made.chain run outside).1
    · obtain ⟨⟨reads, _, _⟩, _, _⟩ := requires
      exact List.mem_singleton.mp itself ▸ made.mem_emitted reads run

/-- Every require line of a gathered file was followed, and the file it was located to is gathered
as well: strictly before the file when cycles are refused; when they are tolerated, strictly before
it or on a cycle, as the same file or at the start of a chain of requires that leads to it. -/
theorem required_before_or_on_cycle
    (run : start.requireAllWithin environment depth entries = .ok final) {added : Rendered}
    (member : added ∈ final.resolution.sources) {source : Source}
    (loaded : Source.load environment.files added.file = .ok source) {line : SourceLine}
    (own : line ∈ source.lines) {target : Target}
    (asks : line.directive = some (.require target)) :
    (∃ found, Followed environment depth entries added.file.path line found) ∧
    ∀ found, Followed environment depth entries added.file.path line found →
      found.path ∈ final.resolution.paths ∧
      (environment.options.cycles = .fail →
        final.resolution.Before found.path added.file.path) ∧
      (environment.options.cycles = .tolerate →
        ¬ final.resolution.Before found.path added.file.path →
          found.path = added.file.path ∨
          Relation.TransGen (Leads environment depth entries) found.path added.file.path) := by
  constructor
  · obtain ⟨call, text, made, reads, same⟩ := made_of_mem_sources (List.append_nil _).symm run member
    obtain rfl : source = text := by
      have again := reads.2
      rw [same] at again
      exact Except.ok.inj (loaded.symm.trans again)
    obtain ⟨done, finished, _⟩ := made.run_ok run
    obtain ⟨inner, requires⟩ := reads.requires finished own asks
    exact ⟨inner.file, call, inner, made, by rw [same], requires, rfl⟩
  · rintro found ⟨outer, inner, made, same, requires, rfl⟩
    rw [← same]
    refine ⟨made.required_mem requires run, ?_⟩
    rcases made.before_or_cycle requires run with before | ⟨policy, reading⟩
    · exact ⟨fun _ => before, fun _ missing => absurd before missing⟩
    · refine ⟨fun refused => by simp [policy] at refused, fun _ _ => ?_⟩
      rcases List.mem_append.mp reading with outside | itself
      · exact .inr (made.chain run outside).2
      · exact .inl (List.mem_singleton.mp itself)

/-- Two files that require each other. -/
def mutualRequires : MemoryFiles :=
  (MemoryFiles.empty.insert ⟨"/p/a.js"⟩ "//= require <b>").insert ⟨"/p/b.js"⟩ "//= require <a>"

theorem mutualRequires_on_cycle :
    ∃ environment final line found,
      environment.options.cycles = .tolerate ∧
      start.requireAll environment ["a"] = .ok final ∧
      final.resolution.paths = [⟨"/p/b.js"⟩, ⟨"/p/a.js"⟩] ∧
      Followed environment (depthBound environment) ["a"] ⟨"/p/b.js"⟩ line found ∧
      ¬ final.resolution.Before found.path ⟨"/p/b.js"⟩ ∧
      (found.path = ⟨"/p/b.js"⟩ ∨
        Relation.TransGen (Leads environment (depthBound environment) ["a"])
          found.path ⟨"/p/b.js"⟩) := by
  let environment := Environment.ofRoot mutualRequires.view ⟨"/p"⟩
  have evaluated : (start.requireAll environment ["a"]).toOption.map
      (fun session => session.resolution.paths) = some [⟨"/p/b.js"⟩, ⟨"/p/a.js"⟩] := by
    decide +kernel
  obtain ⟨final, finished, paths⟩ := Option.map_eq_some_iff.mp evaluated
  have run : start.requireAll environment ["a"] = .ok final := ok_of_toOption finished
  obtain ⟨added, member, place⟩ : ∃ added ∈ final.resolution.sources,
      added.file.path = ⟨"/p/b.js"⟩ := by
    have present : (⟨"/p/b.js"⟩ : Path) ∈ final.resolution.paths := by simp [paths]
    simpa [Resolution.paths] using present
  have loaded : Source.load environment.files added.file =
      .ok (.ofTexts added.file ["//= require <a>"]) := by
    have text : environment.files.readLines ⟨"/p/b.js"⟩ = .ok ["//= require <a>"] := by
      decide +kernel
    rw [Source.load, place, text]
  have asks : (Line.classify "//= require <a>").directive =
      some (.require ⟨"a", .angleBracket⟩) := by
    decide +kernel
  have own : (⟨Line.classify "//= require <a>", 1⟩ : SourceLine) ∈
      (Source.ofTexts added.file ["//= require <a>"]).lines := by
    simp [Source.ofTexts]
  obtain ⟨⟨found, followed⟩, all⟩ := required_before_or_on_cycle run member loaded own asks
  rw [place] at followed all
  have first : ¬ final.resolution.Before found.path ⟨"/p/b.js"⟩ := by
    rw [Resolution.Before, paths, List.idxOf_cons_self]
    exact Nat.not_lt_zero _
  exact ⟨environment, final, _, found, rfl, run, paths, followed, first,
    (all found followed).2.2 rfl first⟩

end Session

end Splice
