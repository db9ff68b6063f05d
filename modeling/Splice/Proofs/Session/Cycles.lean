import Mathlib.Data.List.Chain
import Splice.Proofs.Session.Failures
import Splice.Proofs.Session.Policies

/-!
# Refused cycles

The files being read at a call are the chain of requires that leads to it, without repetition.  A
call for one of them therefore closes a cycle, and when a run is stopped for that, the chain it
reports is this cycle and nothing else.
-/

namespace Splice

namespace Session

variable {environment : Environment} {depth : Nat} {entries : List String}

/-! ## The files being read -/

/-- The books agree at every call of a run, also of one that fails later. -/
theorem Made.coherent {call : Call} (made : Made environment depth entries call) :
    Coherent call.session := by
  obtain ⟨top, level, ⟨_, earlier, _⟩, nested⟩ := made
  exact (nested.kept (kept_coherent environment) (coherent_of_run earlier) trivial).1

/-- Each file being read requires the next one, and the innermost one requires the file that is
called for. -/
theorem Made.isChain {call : Call} (made : Made environment depth entries call) :
    (call.session.inProgress ++ [call.file.path]).IsChain (Leads environment depth entries) := by
  obtain ⟨top, level, entered, nested⟩ := made
  induction nested with
  | top =>
      obtain ⟨_, earlier, _⟩ := entered
      rw [(extends_requireAll earlier).inProgress]
      exact .singleton _
  | @step level outer inner line nested requires ih =>
      have leads : Leads environment depth entries outer.file.path inner.file.path :=
        .of_requires ⟨top, level, entered, nested⟩ requires
      obtain ⟨comes, _, _⟩ := requires
      rw [comes.inProgress]
      refine List.isChain_append.mpr ⟨ih, .singleton _, ?_⟩
      simpa using leads

/-! ## The chain that is reported -/

/-- The chain to a file being read runs from the place of the file to the innermost file, and back
to the file.  The file has a place, so that they are not counted from the outermost file. -/
theorem chainTo_eq {session : Session} {path : Path} (reading : path ∈ session.inProgress) :
    ∃ position rest, session.inProgress.idxOf? path = some position ∧
      session.inProgress.drop position = path :: rest ∧
      session.chainTo path = path :: rest ++ [path] := by
  obtain ⟨before, rest, parts, first⟩ := List.eq_append_cons_of_mem reading
  have others : ∀ other ∈ before, other ≠ path := fun other member same => first (same ▸ member)
  have found : session.inProgress.idxOf? path = some before.length := by
    have absent : before.findIdx? (· == path) = none := by simpa using others
    rw [parts, List.idxOf?, List.findIdx?_append, absent]
    simp [List.findIdx?_cons]
  have drops : session.inProgress.drop before.length = path :: rest := by
    rw [parts, List.drop_left]
  refine ⟨before.length, rest, found, drops, ?_⟩
  rw [chainTo, found, Option.getD_some, drops]

/-- A run that reports a circular require was told to refuse cycles, and the message spells the
files of the chain in order.  The chain leads from a file back to itself: during the run a require
of each of its files was located to the next one.  No file stands in it twice but the one at both
ends, and none had been added.  That file is always among the files being read, and the chain starts
at its place there. -/
theorem circularRequire_is_cycle {halt : Halt} {chain : List Path}
    (run : start.requireAllWithin environment depth entries = .error halt)
    (circular : halt.failure = .circularRequire chain) :
    environment.options.cycles = .fail ∧
    halt.failure.message =
      "circular require detected: " ++ " -> ".intercalate (chain.map Path.text) ∧
    ∃ first rest, chain = first :: rest ++ [first] ∧ (first :: rest).Nodup ∧
      (∀ path ∈ first :: rest, path ∉ halt.session.emitted) ∧
      chain.IsChain (Leads environment depth entries) ∧
      ∃ position, halt.session.inProgress.idxOf? first = some position ∧
        chain = halt.session.inProgress.drop position ++ [first] := by
  obtain ⟨failure, moment⟩ := halt
  obtain rfl := circular
  obtain ⟨call, made, stops⟩ := exists_stops_of_requireAll run (by simp)
  cases stops with
  | @cycle depth session file new reading policy =>
      obtain ⟨position, rest, found, drops, chained⟩ := chainTo_eq reading
      have coherent := made.coherent
      have within : file.path :: rest <:+ moment.inProgress := drops ▸ List.drop_suffix _ _
      refine ⟨policy, rfl, file.path, rest, chained, ?_, ?_, ?_, position, found, ?_⟩
      · exact coherent.entered_once.sublist within.sublist
      · intro path member
        exact coherent.apart path (within.subset member)
      · obtain ⟨front, parts⟩ := within
        rw [chained]
        exact made.isChain.suffix ⟨front, by rw [← List.append_assoc, parts]⟩
      · rw [chained, drops]

/-- A file outside of a ring of two that it requires. -/
def besideRing : MemoryFiles :=
  ((MemoryFiles.empty.insert ⟨"/p/c.js"⟩ "//= require <a>").insert ⟨"/p/a.js"⟩
    "//= require \"b\"").insert ⟨"/p/b.js"⟩ "//= require <./a>"

theorem besideRing_is_cycle :
    ∃ environment halt, environment.files = besideRing.view ∧
      start.requireAllWithin environment (depthBound environment) ["c"] = .error halt ∧
      halt.failure = .circularRequire [⟨"/p/a.js"⟩, ⟨"/p/b.js"⟩, ⟨"/p/a.js"⟩] ∧
      halt.failure.message = "circular require detected: /p/a.js -> /p/b.js -> /p/a.js" ∧
      Leads environment (depthBound environment) ["c"] ⟨"/p/a.js"⟩ ⟨"/p/b.js"⟩ ∧
      Leads environment (depthBound environment) ["c"] ⟨"/p/b.js"⟩ ⟨"/p/a.js"⟩ := by
  let environment := (Environment.ofRoot besideRing.view ⟨"/p"⟩).withCycles .fail
  have refused : environment.resolve "c" =
      .error (.circularRequire [⟨"/p/a.js"⟩, ⟨"/p/b.js"⟩, ⟨"/p/a.js"⟩]) := by
    decide +kernel
  obtain ⟨halt, run, circular⟩ := exists_halt_of_resolve refused
  obtain ⟨_, message, _, _, _, _, _, chain, _⟩ := circularRequire_is_cycle run circular
  have leads : Leads environment (depthBound environment) ["c"] ⟨"/p/a.js"⟩ ⟨"/p/b.js"⟩ ∧
      Leads environment (depthBound environment) ["c"] ⟨"/p/b.js"⟩ ⟨"/p/a.js"⟩ := by
    simpa using chain
  exact ⟨environment, halt, rfl, run, circular, message.trans (by decide +kernel), leads⟩

end Session

end Splice
