import Splice.Proofs.Directive.Grammar
import Splice.Proofs.Source.Rendering
import Splice.Proofs.Template.Filling
import Splice.Proofs.Text.Lines

/-!
# Directives in the output

A line with a directive is dropped, and the others lose their trailing blanks.  There are more
blanks than separators, so a line may come to carry a directive only then.  The lines to which this
happens are those that hide a directive, and from a file without placeholders no other directive
reaches the output.
-/

namespace Splice

namespace Directive

/-! ## Trailing blanks -/

theorem Spaces.blank {text : List Char} (spaces : Spaces text) :
    ∀ c ∈ text, Text.isBlank c = true := by
  intro c member
  have separators : separators.all Text.isBlank = true := by decide +kernel
  exact List.all_eq_true.mp separators c (spaces c member)

theorem Spaces.append {front back : List Char} (first : Spaces front) (second : Spaces back) :
    Spaces (front ++ back) :=
  List.forall_mem_append.mpr ⟨first, second⟩

/-- A text that ends in a character that is no blank. -/
def Solid (text : List Char) : Prop := ∃ front c, text = front ++ [c] ∧ Text.isBlank c = false

theorem Solid.append {text : List Char} (solid : Solid text) (front : List Char) :
    Solid (front ++ text) := by
  obtain ⟨middle, c, rfl, dark⟩ := solid
  exact ⟨front ++ middle, c, (List.append_assoc ..).symm, dark⟩

theorem Solid.trimEnd {text blanks : List Char} (solid : Solid text)
    (blank : ∀ c ∈ blanks, Text.isBlank c = true) : Text.trimEnd (text ++ blanks) = text := by
  refine Text.trimEnd_eq_iff.mpr ⟨⟨blanks, blank, rfl⟩, ?_⟩
  obtain ⟨front, c, rfl, dark⟩ := solid
  simpa using dark

theorem Enclosed.solid {delimiter : Delimiter} {text : List Char} {path : String}
    (enclosed : Enclosed delimiter text path) : Solid text := by
  obtain ⟨_, rfl⟩ := enclosed
  refine ⟨delimiter.opening :: path.toList, delimiter.closing, rfl, ?_⟩
  cases delimiter <;> decide +kernel

theorem Quoted.solid {text : List Char} {content : String} (quoted : Quoted text content) :
    Solid text := by
  rcases quoted with double | single
  · exact double.solid
  · exact single.solid

/-- A payload ends in a delimiter and separators, in place of which any others may stand. -/
theorem Payload.parts {payload : List Char} {directive : Directive}
    (isPayload : Payload payload directive) :
    ∃ core back, payload = core ++ back ∧ Solid core ∧ Spaces back ∧
      ∀ other, Spaces other → Payload (core ++ other) directive := by
  cases isPayload with
  | require isFront isFirst isSecond isTarget isBack =>
      exact ⟨_, _, rfl, isTarget.solid.append _, isBack, fun other spaces =>
        .require isFront isFirst isSecond isTarget spaces⟩
  | provide isFront isFirst isSecond isTarget naming =>
      cases naming with
      | none isBack =>
          exact ⟨_, _, rfl, isTarget.solid.append _, isBack, fun other spaces =>
            .provide isFront isFirst isSecond isTarget (.none spaces)⟩
      | some isGap isNext isName isBack =>
          refine ⟨_, _, (List.append_assoc ..).symm, (isName.solid.append _).append _, isBack,
            fun other spaces => ?_⟩
          rw [List.append_assoc]
          exact .provide isFront isFirst isSecond isTarget (.some isGap isNext isName spaces)

theorem Written.parts {text : List Char} {directive : Directive}
    (written : Written text directive) :
    ∃ core back, text = core ++ back ∧ Solid core ∧ Spaces back ∧
      ∀ other, Spaces other → Written (core ++ other) directive := by
  obtain ⟨isBlanks, isPayload⟩ := written
  obtain ⟨core, back, rfl, solid, isBack, others⟩ := isPayload.parts
  refine ⟨_, back, (List.append_assoc ..).symm, solid.append _, isBack, fun other spaces => ?_⟩
  rw [List.append_assoc]
  exact .line isBlanks (others other spaces)

/-- A line that carries a directive carries it without its trailing blanks too. -/
theorem Written.trimEnd {text : List Char} {directive : Directive}
    (written : Written text directive) : Written (Text.trimEnd text) directive := by
  obtain ⟨core, back, rfl, solid, isBack, others⟩ := written.parts
  rw [solid.trimEnd isBack.blank]
  simpa using others [] (by simp [Spaces])

theorem Written.append {text ending : List Char} {directive : Directive}
    (written : Written text directive) (spaces : Spaces ending) :
    Written (text ++ ending) directive := by
  obtain ⟨core, back, rfl, _, isBack, others⟩ := written.parts
  rw [List.append_assoc]
  exact others _ (isBack.append spaces)

/-! ## Hidden directives -/

/-- A text hides a directive: it is a line that carries the directive, followed by blanks of which
not all are separators. -/
def Hidden (text : List Char) (directive : Directive) : Prop :=
  ∃ line blanks, text = line ++ blanks ∧ Written line directive ∧
    (∀ c ∈ blanks, Text.isBlank c = true) ∧ ∃ c ∈ blanks, c ∉ separators

/-- A line that carries no directive carries one without its trailing blanks if it hides it. -/
theorem written_trimEnd_iff {text : List Char} {directive : Directive}
    (silent : ∀ directive, ¬ Written text directive) :
    Written (Text.trimEnd text) directive ↔ Hidden text directive := by
  constructor
  · intro written
    obtain ⟨⟨blanks, blank, parts⟩, _⟩ := Text.trimEnd_eq_iff.mp (rfl : Text.trimEnd text = _)
    refine ⟨_, blanks, parts, written, blank, ?_⟩
    by_contra separated
    have spaces : Spaces blanks := by simpa [Spaces] using separated
    exact silent directive (parts ▸ written.append spaces)
  · rintro ⟨line, blanks, rfl, written, blank, _⟩
    rw [Text.trimEnd_append blank]
    exact written.trimEnd

/-- The directive that a line has after its trailing blanks made place for separators is the one
that it hides. -/
theorem directive_trimEnd_iff {text : String} {ending : List Char} {directive : Directive}
    (silent : (Line.classify text).directive = none) (spaces : Spaces ending) :
    (Line.classify (String.ofList (Text.trimEnd text.toList ++ ending))).directive =
      some directive ↔ Hidden text.toList directive := by
  have unwritten : ∀ directive, ¬ Written text.toList directive := by
    intro other written
    rw [(directive_eq_some_iff longestMatch_lex).mpr written] at silent
    cases silent
  rw [directive_eq_some_iff longestMatch_lex, String.toList_ofList,
    ← written_trimEnd_iff unwritten]
  constructor
  · intro written
    have trimmed := written.trimEnd
    rwa [Text.trimEnd_append spaces.blank, Text.trimEnd_trimEnd] at trimmed
  · exact fun written => written.append spaces

end Directive

/-! ## Files without placeholders -/

/-- A line without an opening mark loses its trailing blanks and nothing else. -/
theorem Template.render_of_unmarked {line : String} (unmarked : ¬ opening <:+: line.toList)
    (constants : Constants) :
    render constants line = .ok (String.ofList (Text.trimEnd line.toList ++ ['\n'])) := by
  have plain : Splits line.toList [.literal line.toList] := by
    refine .plain fun before inside rest whole => unmarked ⟨before, inside ++ closing ++ rest, ?_⟩
    simp [whole]
  rw [render_eq, ← splits_iff.mp plain]
  simp [Piece.fill, bind, Except.bind, pure, Except.pure]

namespace Source

variable {file : Located} {texts : List String}

theorem directives_ofTexts_eq_nil_iff :
    (ofTexts file texts).directives = [] ↔
      ∀ text ∈ texts, (Line.classify text).directive = none := by
  rw [directives, List.filterMap_eq_nil_iff]
  simp only [Option.map_eq_none_iff]
  constructor
  · intro silent text member
    obtain ⟨index, place⟩ := List.mem_iff_getElem?.mp member
    refine silent ⟨Line.classify text, index + 1⟩ (List.mem_map.mpr ⟨(text, index), ?_, rfl⟩)
    exact List.mem_zipIdx_iff_getElem?.mpr place
  · intro silent line own
    have known : line.directive = _ := congrArg Line.directive (classified_ofTexts own)
    rw [known]
    exact silent line.text (List.mem_of_getElem? (text_of_mem_ofTexts own).2)

/-- The text of a line without its trailing blanks, and an ending in their place. -/
def trimmed (ending : List Char) (line : SourceLine) : String :=
  String.ofList (Text.trimEnd line.text.toList ++ ending)

theorem render_of_unmarked (unmarked : ∀ text ∈ texts, ¬ Template.opening <:+: text.toList)
    (constants : Constants) (stripComments : Bool) :
    (ofTexts file texts).render constants stripComments =
      .ok ((kept stripComments (ofTexts file texts).lines).map (trimmed ['\n'])) := by
  rw [render_eq]
  refine mapM_ok_iff.mpr (List.forall₂_map_right_iff.mpr (List.forall₂_same.mpr ?_))
  intro line left
  have own := (kept_sublist ..).subset left
  refine SourceLine.render_ok_iff.mpr (Template.render_of_unmarked (unmarked _ ?_) constants)
  exact List.mem_of_getElem? (text_of_mem_ofTexts own).2

/-- Lines without line feeds are read again from the text that they are rendered to. -/
theorem linesOf_join_trimmed {lines : List SourceLine}
    (unbroken : ∀ line ∈ lines, '\n' ∉ line.text.toList) :
    Text.linesOf (String.join (lines.map (trimmed ['\n']))) = lines.map (trimmed []) := by
  have split (line : SourceLine) :=
    Text.trimEnd_eq_iff.mp (rfl : Text.trimEnd line.text.toList = _)
  have joined := Text.linesOf_join (lines.map fun line => Text.trimEnd line.text.toList) ?_ ?_
  · rw [List.map_map, List.map_map] at joined
    refine joined.trans (List.map_congr_left fun line _ => ?_)
    rw [trimmed, List.append_nil, Function.comp_apply]
  · simp only [List.forall_mem_map]
    intro line member inside
    obtain ⟨⟨blanks, _, parts⟩, _⟩ := split line
    refine unbroken line member ?_
    rw [parts]
    exact List.mem_append_left _ inside
  · simp only [List.forall_mem_map]
    intro line _ last
    exact absurd ((split line).2 _ last) (by decide +kernel)

/-- From a file without placeholders a line that is left carries a directive in the output exactly
if it hides that directive in the file.  Read as a file again, the output therefore carries no
directive exactly if no line that is left hides one, as long as no line holds a line feed. -/
theorem directives_survive_iff_hidden (file : Located) {texts : List String}
    (unmarked : ∀ text ∈ texts, ¬ Template.opening <:+: text.toList) (constants : Constants)
    (stripComments : Bool) :
    ∃ left out, Leaves stripComments (ofTexts file texts).content left ∧
      (ofTexts file texts).render constants stripComments = .ok out ∧
      List.Forall₂ (fun line text => ∀ directive,
        (Line.classify text).directive = some directive ↔
          Directive.Hidden line.text.toList directive) left out ∧
      ((∀ text ∈ texts, '\n' ∉ text.toList) → ∀ again,
        ((ofTexts again (Text.linesOf (String.join out))).directives = [] ↔
          ∀ line ∈ left, ∀ directive, ¬ Directive.Hidden line.text.toList directive)) := by
  have silent (line : SourceLine) (left : line ∈ kept stripComments (ofTexts file texts).lines) :
      (Line.classify line.text).directive = none := by
    have known := classified_ofTexts ((kept_sublist ..).subset left)
    exact (congrArg Line.directive known).symm.trans (directive_of_mem_kept left)
  refine ⟨kept stripComments (ofTexts file texts).lines, _, (leaves_iff ..).mpr rfl,
    render_of_unmarked unmarked constants stripComments, ?_, ?_⟩
  · refine List.forall₂_map_right_iff.mpr (List.forall₂_same.mpr fun line left directive => ?_)
    refine Directive.directive_trimEnd_iff (silent line left) ?_
    simp [Directive.Spaces, Directive.separators]
  · intro unbroken again
    rw [linesOf_join_trimmed, directives_ofTexts_eq_nil_iff, List.forall_mem_map]
    · refine forall₂_congr fun line left => ?_
      have none : Directive.Spaces [] := by simp [Directive.Spaces]
      simp only [trimmed, Option.eq_none_iff_forall_ne_some, ne_eq,
        Directive.directive_trimEnd_iff (silent line left) none]
    · intro line left
      have own := (kept_sublist ..).subset left
      exact unbroken _ (List.mem_of_getElem? (text_of_mem_ofTexts own).2)

/-- A provide behind which a wide blank stands, in a block that is kept. -/
def notedProvide : List String := ["/** note", "//= provide \"l\"\u2003", "*/", "run();  "]

theorem notedProvide_survives :
    ∃ left out, Leaves true (ofTexts (.ofPath ⟨"/p/a.js"⟩) notedProvide).content left ∧
      (ofTexts (.ofPath ⟨"/p/a.js"⟩) notedProvide).render [] true = .ok out ∧
      (∃ line ∈ left, Directive.Hidden line.text.toList (.provide "l" none)) ∧
      (ofTexts (.ofPath ⟨"/p/b.js"⟩) (Text.linesOf (String.join out))).directives ≠ [] := by
  have unmarked : ∀ text ∈ notedProvide, ¬ Template.opening <:+: text.toList := by
    simp only [← Text.contains_iff]
    decide +kernel
  have unbroken : ∀ text ∈ notedProvide, '\n' ∉ text.toList := by decide +kernel
  obtain ⟨left, out, leaves, rendered, _, again⟩ :=
    directives_survive_iff_hidden (.ofPath ⟨"/p/a.js"⟩) unmarked [] true
  have written : Directive.Written "//= provide \"l\"".toList (.provide "l" none) :=
    (Directive.directive_eq_some_iff Directive.longestMatch_lex).mp (by decide +kernel)
  have hides : ∃ line ∈ left, Directive.Hidden line.text.toList (.provide "l" none) := by
    refine ⟨⟨Line.classify "//= provide \"l\"\u2003", 2⟩, ?_, _, ['\u2003'], ?_, written, ?_, ?_⟩
    · rw [(leaves_iff ..).mp leaves]
      decide +kernel
    · decide +kernel
    · exact List.all_eq_true.mp (by decide +kernel)
    · exact ⟨'\u2003', by simp, by simp [Directive.separators]⟩
  refine ⟨left, out, leaves, rendered, hides, fun silent => ?_⟩
  obtain ⟨line, member, hidden⟩ := hides
  exact (again unbroken _).mp silent line member _ hidden

/-- A require behind which a wide blank stands is no directive, and is one in the output. -/
theorem wideBlank_survives :
    (ofTexts (.ofPath ⟨"/p/a.js"⟩) ["//= require <b>\u00a0"]).directives = [] ∧
    (ofTexts (.ofPath ⟨"/p/a.js"⟩) ["//= require <b>\u00a0"]).render [] false =
      .ok ["//= require <b>\n"] ∧
    (Line.classify "//= require <b>\n").directive = some (.require ⟨"b", .angleBracket⟩) := by
  decide +kernel

end Source

end Splice
