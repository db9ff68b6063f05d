import Splice.Proofs.Files.Memory
import Splice.Proofs.Session.Growth
import Splice.Proofs.Session.Order
import Splice.Proofs.Template.Filling
import Splice.Proofs.Text.Lines

/-!
# Lines of the output

A line is filled to one line again, as long as no text put in for a placeholder holds a line feed.
The output of a run is made of such lines, so that reading it gives them back one by one, wherever a
file begins or ends.
-/

namespace Splice

/-! ## Single lines -/

theorem exists_map_eq {α β : Type} {make : α → β} {proper : α → Prop} {list : List β}
    (each : ∀ item ∈ list, ∃ origin, make origin = item ∧ proper origin) :
    ∃ origins : List α, list = origins.map make ∧ ∀ origin ∈ origins, proper origin := by
  induction list with
  | nil => exact ⟨[], rfl, by simp⟩
  | cons first others ih =>
      obtain ⟨⟨origin, rfl, here⟩, later⟩ := List.forall_mem_cons.mp each
      obtain ⟨origins, rfl, rest⟩ := ih later
      exact ⟨origin :: origins, rfl, List.forall_mem_cons.mpr ⟨here, rest⟩⟩

/-- A text that is a line of its own: it holds no line feed and does not end with a blank. -/
structure Text.OneLine (text : String) : Prop where
  /-- No line feed divides the text. -/
  unbroken : '\n' ∉ text.toList
  /-- Its last character is not blank. -/
  trimmed : ∀ c ∈ text.toList.getLast?, isBlank c = false

/-- Single lines with their line feeds, put together, are read as these lines. -/
theorem Text.linesOf_join_oneLine {bodies : List String} (single : ∀ body ∈ bodies, OneLine body) :
    linesOf (String.join (bodies.map (· ++ "\n"))) = bodies := by
  have joined := linesOf_join (bodies.map String.toList) ?_ ?_
  · rw [List.map_map, List.map_map] at joined
    have ended : (fun text => String.ofList (text ++ ['\n'])) ∘ String.toList = (· ++ "\n") := by
      funext body
      rw [Function.comp_apply, String.ofList_append, String.ofList_toList]
    have plain : String.ofList ∘ String.toList = id := funext fun _ => String.ofList_toList
    rwa [ended, plain, List.map_id] at joined
  · simp only [List.forall_mem_map]
    exact fun body member => (single body member).unbroken
  · simp only [List.forall_mem_map]
    intro body member last
    exact absurd ((single body member).trimmed _ last) (by decide +kernel)

namespace Template

/-- The text that is put in for a piece: the value of a placeholder. -/
def Piece.inserted? (constants : Constants) : Piece → Option String
  | literal _ => none
  | placeholder expression => evaluate? constants expression

/-- The texts that are put in for the placeholders of a line. -/
def inserted (constants : Constants) (line : String) : List String :=
  (pieces line.toList).filterMap (·.inserted? constants)

/-- A plain piece of a text is made of characters of the text. -/
theorem Splits.subset {text plain : List Char} {split : List Piece} (splits : Splits text split)
    (member : .literal plain ∈ split) : plain ⊆ text := by
  induction splits with
  | plain _ =>
      obtain rfl : plain = _ := by simpa using member
      exact List.Subset.refl _
  | @placeholder text before opened inside rest pieces first second _ ih =>
      rcases List.mem_cons.mp member with front | later
      · obtain rfl : plain = before := by simpa using front
        rw [first.parts, List.append_assoc]
        exact List.subset_append_left _ _
      · have within : plain ⊆ rest := ih (by simpa using later)
        rw [first.parts, second.parts]
        intro c own
        simp [within own]

/-- A line is filled to a single line, as long as no text put in holds a line feed. -/
theorem oneLine_of_render {constants : Constants} {line out : String}
    (filled : render constants line = .ok out) (unbroken : '\n' ∉ line.toList)
    (flat : ∀ text ∈ inserted constants line, '\n' ∉ text.toList) :
    ∃ body, body ++ "\n" = out ∧ Text.OneLine body := by
  rw [render_eq] at filled
  obtain ⟨texts, run, done⟩ := bind_ok.mp filled
  have whole : '\n' ∉ texts.flatten := by
    intro inside
    obtain ⟨text, member, feed⟩ := List.mem_flatten.mp inside
    obtain ⟨piece, own, fills⟩ := exists_of_mem_mapM run member
    cases Piece.fill_ok_iff.mp fills with
    | literal => exact unbroken ((splits_iff.mpr rfl).subset own feed)
    | value evaluated => exact flat _ (List.mem_filterMap.mpr ⟨_, own, evaluated⟩) feed
  obtain ⟨⟨blanks, _, parts⟩, ends⟩ :=
    Text.trimEnd_eq_iff.mp (rfl : Text.trimEnd texts.flatten = _)
  refine ⟨String.ofList (Text.trimEnd texts.flatten), ?_, ?_, ?_⟩
  · rw [← Except.ok.inj done, String.ofList_append]
  · rw [String.toList_ofList]
    intro inside
    rw [parts] at whole
    exact whole (List.mem_append_left _ inside)
  · rwa [String.toList_ofList]

end Template

/-- The texts that are put in for placeholders when a file is rendered. -/
def Source.inserted (constants : Constants) (stripComments : Bool) (source : Source) : List String :=
  (kept stripComments source.lines).flatMap fun line => Template.inserted constants line.text

theorem Source.render_ok_iff {constants : Constants} {stripComments : Bool} {source : Source}
    {out : List String} :
    source.render constants stripComments = .ok out ↔
      List.Forall₂ (fun line text => Template.render constants line.text = .ok text)
        (kept stripComments source.lines) out := by
  simp only [render_eq, mapM_ok_iff, SourceLine.render_ok_iff]

/-- A file is rendered to single lines, as long as no text put in holds a line feed. -/
theorem Source.oneLine_of_render {constants : Constants} {stripComments : Bool} {file : Located}
    {texts out : List String} {text : String}
    (rendered : (ofTexts file texts).render constants stripComments = .ok out)
    (unbroken : ∀ line ∈ texts, '\n' ∉ line.toList)
    (flat : ∀ value ∈ (ofTexts file texts).inserted constants stripComments, '\n' ∉ value.toList)
    (member : text ∈ out) : ∃ body, body ++ "\n" = text ∧ Text.OneLine body := by
  rw [render_eq] at rendered
  obtain ⟨line, left, filled⟩ := exists_of_mem_mapM rendered member
  have own := text_of_mem_ofTexts ((kept_sublist ..).subset left)
  refine Template.oneLine_of_render (SourceLine.render_ok_iff.mp filled) ?_ ?_
  · exact unbroken _ (List.mem_of_getElem? own.2)
  · exact fun value put => flat value (List.mem_flatMap.mpr ⟨line, left, put⟩)

namespace Session

variable {environment : Environment} {depth : Nat} {entries : List String} {final : Session}

/-! ## Gathered files -/

theorem Made.madeFrom {call : Call} (made : Made environment depth entries call) :
    MadeFrom environment depth start entries call := by
  obtain ⟨_, _, ⟨parts, earlier, place⟩, nested⟩ := made
  exact .nested parts earlier place nested

/-- The lines that are gathered with a file are those that it is rendered to. -/
theorem rendered_of_mem_sources
    (run : start.requireAllWithin environment depth entries = .ok final) {added : Rendered}
    (member : added ∈ final.resolution.sources) :
    ∃ source, Source.load environment.files added.file = .ok source ∧
      source.render environment.constants environment.options.stripComments = .ok added.lines := by
  obtain ⟨call, source, made, reads, same⟩ :=
    made_of_mem_sources (List.append_nil _).symm run member
  obtain ⟨done, finished, _, opens⟩ := (onward_resolution environment).madeFrom made.madeFrom run
  obtain ⟨_, read, lines, _, _, rendered, rfl⟩ := reads.run_ok finished
  have gathered : (⟨call.file, lines⟩ : Rendered) ∈ final.resolution.sources :=
    opens.sources.subset (List.mem_append_right _ (List.mem_singleton_self _))
  -- A path is gathered once, so what the call adds is the file in question.
  have coherent := coherent_of_run run
  have once : final.resolution.paths.Nodup := coherent.gathered ▸ coherent.added_once
  have found : (⟨call.file, lines⟩ : Rendered) = added :=
    List.inj_on_of_nodup_map once gathered member (congrArg Located.path same)
  rw [← found]
  exact ⟨source, reads.2, rendered⟩

/-! ## The output -/

/-- The lines of a run on stored files are single lines, as long as no text put in for a placeholder
holds a line feed. -/
theorem oneLine_of_mem_sources {store : MemoryFiles} (stored : environment.files = store.view)
    (run : start.requireAllWithin environment depth entries = .ok final) {added : Rendered}
    (member : added ∈ final.resolution.sources)
    (flat : ∀ source, Source.load environment.files added.file = .ok source →
      ∀ value ∈ source.inserted environment.constants environment.options.stripComments,
        '\n' ∉ value.toList) {text : String} (own : text ∈ added.lines) :
    ∃ body, body ++ "\n" = text ∧ Text.OneLine body := by
  obtain ⟨source, loaded, rendered⟩ := rendered_of_mem_sources run member
  obtain ⟨texts, read, rfl⟩ := Source.load_ok.mp loaded
  rw [stored] at read
  obtain ⟨content, _, rfl⟩ := MemoryFiles.readLines_ok.mp read
  exact Source.oneLine_of_render rendered (fun _ => Text.not_mem_of_mem_linesOf) (flat _ loaded) own

/-- Reading the output of a run on stored files gives back the lines of all its files, in order and
each without its line feed, as long as no text put in for a placeholder holds a line feed.  So no
line is joined to another one, be it of the next file, and none is left out.  Each is a single line
without trailing blanks, and every line that is left of a file, also an empty one, is filled to one
of them. -/
theorem linesOf_concatenate_eq_lines {store : MemoryFiles}
    (stored : environment.files = store.view)
    (run : start.requireAllWithin environment depth entries = .ok final)
    (flat : ∀ added ∈ final.resolution.sources, ∀ source,
      Source.load environment.files added.file = .ok source →
      ∀ value ∈ source.inserted environment.constants environment.options.stripComments,
        '\n' ∉ value.toList) :
    (∃ bodies : List String, final.resolution.sources.flatMap (·.lines) = bodies.map (· ++ "\n") ∧
      Text.linesOf final.resolution.concatenate = bodies ∧
      ∀ body ∈ bodies, Text.OneLine body) ∧
    ∀ added ∈ final.resolution.sources, ∃ source,
      Source.load environment.files added.file = .ok source ∧
      List.Forall₂
        (fun line text => Template.render environment.constants line.text = .ok text)
        (Source.kept environment.options.stripComments source.lines) added.lines := by
  constructor
  · have each : ∀ text ∈ final.resolution.sources.flatMap (·.lines),
        ∃ body, body ++ "\n" = text ∧ Text.OneLine body := by
      intro text inside
      obtain ⟨added, member, own⟩ := List.mem_flatMap.mp inside
      exact oneLine_of_mem_sources stored run member (flat added member) own
    obtain ⟨bodies, whole, single⟩ := exists_map_eq each
    refine ⟨bodies, whole, ?_, single⟩
    rw [Resolution.concatenate, whole]
    exact Text.linesOf_join_oneLine single
  · intro added member
    obtain ⟨source, loaded, rendered⟩ := rendered_of_mem_sources run member
    exact ⟨source, loaded, Source.render_ok_iff.mp rendered⟩

/-- Files that end in the middle of a line, with empty lines, lines of blanks, carriage returns in
and behind a line, and nothing at all. -/
def raggedFiles : MemoryFiles :=
  ((MemoryFiles.empty.insert ⟨"/p/a.js"⟩
    "//= require <b>\n//= require <c>\n\r\na();\t\r\n\n  \nend").insert
      ⟨"/p/b.js"⟩ "one\rtwo<%= V %>  ").insert ⟨"/p/c.js"⟩ ""

theorem raggedFiles_kept_apart :
    ∃ (environment : Environment) (final : Session) (bodies : List String),
      environment =
        (Environment.ofRoot raggedFiles.view ⟨"/p"⟩).withConstants (.ofList [("V", .text "1")]) ∧
      start.requireAll environment ["a"] = .ok final ∧
      final.resolution.paths = [⟨"/p/b.js"⟩, ⟨"/p/c.js"⟩, ⟨"/p/a.js"⟩] ∧
      final.resolution.sources.flatMap (·.lines) = bodies.map (· ++ "\n") ∧
      Text.linesOf final.resolution.concatenate = bodies ∧
      (∀ body ∈ bodies, Text.OneLine body) ∧
      bodies = ["one\rtwo1", "", "a();", "", "", "end"] := by
  obtain ⟨environment, made⟩ : ∃ environment, environment =
      (Environment.ofRoot raggedFiles.view ⟨"/p"⟩).withConstants (.ofList [("V", .text "1")]) :=
    ⟨_, rfl⟩
  have evaluated : (start.requireAll environment ["a"]).toOption.map (fun session =>
      (session.resolution.paths, Text.linesOf session.resolution.concatenate,
        session.resolution.sources.all fun added =>
          (Source.load environment.files added.file).toOption.all fun source =>
            (source.inserted environment.constants environment.options.stripComments).all
              fun value => '\n' ∉ value.toList)) =
      some ([⟨"/p/b.js"⟩, ⟨"/p/c.js"⟩, ⟨"/p/a.js"⟩],
        ["one\rtwo1", "", "a();", "", "", "end"], true) := by
    rw [made]
    decide +kernel
  obtain ⟨final, finished, observed⟩ := Option.map_eq_some_iff.mp evaluated
  have run : start.requireAll environment ["a"] = .ok final := ok_of_toOption finished
  obtain ⟨paths, read⟩ := Prod.mk.inj observed
  obtain ⟨lines, checked⟩ := Prod.mk.inj read
  have stored : environment.files = raggedFiles.view := by rw [made]; rfl
  have flat : ∀ added ∈ final.resolution.sources, ∀ source,
      Source.load environment.files added.file = .ok source →
      ∀ value ∈ source.inserted environment.constants environment.options.stripComments,
        '\n' ∉ value.toList := by
    intro added member source loaded value put
    have here := List.all_eq_true.mp checked added member
    rw [loaded] at here
    simpa using List.all_eq_true.mp here value put
  obtain ⟨⟨bodies, whole, given, single⟩, _⟩ := linesOf_concatenate_eq_lines stored run flat
  exact ⟨environment, final, bodies, made, run, paths, whole, given, single, given.symm.trans lines⟩

end Session

end Splice
