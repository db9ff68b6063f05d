import Splice.Proofs.Outcome
import Splice.Proofs.Source.Stripping

/-!
# What is rendered of a file

The lines that are left of a file are described by their texts alone, one stretch after the other.
There is one such description of every file, a file can be rendered exactly if each of the lines
that it leaves can be filled, and no other line has a part in that.
-/

namespace Splice

namespace Source

/-! ## Blocks by their texts -/

/-- The lines of a block: the first one begins `/**`, and the last one is the first that contains
`*/`, be it the same one. -/
structure Block (body : List SourceLine) (last : SourceLine) : Prop where
  /-- The first line opens the block. -/
  begins : ∃ first ∈ (body ++ [last]).head?, first.Begins ['/', '*', '*']
  /-- No earlier line closes it. -/
  inside : ∀ line ∈ body, ¬ line.Has ['*', '/']
  /-- The last line closes it. -/
  closes : last.Has ['*', '/']

/-- The lines of a block that is never closed. -/
structure OpenBlock (lines : List SourceLine) : Prop where
  /-- The first line opens the block. -/
  begins : ∃ first ∈ lines.head?, first.Begins ['/', '*', '*']
  /-- No line closes it. -/
  inside : ∀ line ∈ lines, ¬ line.Has ['*', '/']

/-- What is left of lines without their comments.  Outside blocks exactly the lines that begin `//`
are dropped.  A block is dropped as a whole if its last line contains `**/`, and kept as a whole
otherwise or if it is never closed. -/
inductive Stripped : List SourceLine → List SourceLine → Prop
  | nil : Stripped [] []
  | comment {line : SourceLine} {rest kept : List SourceLine} :
      ¬ line.Begins ['/', '*', '*'] → line.Begins ['/', '/'] → Stripped rest kept →
      Stripped (line :: rest) kept
  | code {line : SourceLine} {rest kept : List SourceLine} :
      ¬ line.Begins ['/', '*', '*'] → ¬ line.Begins ['/', '/'] → Stripped rest kept →
      Stripped (line :: rest) (line :: kept)
  | documentation {body rest kept : List SourceLine} {last : SourceLine} :
      Block body last → last.Has ['*', '*', '/'] → Stripped rest kept →
      Stripped (body ++ last :: rest) kept
  | plain {body rest kept : List SourceLine} {last : SourceLine} :
      Block body last → ¬ last.Has ['*', '*', '/'] → Stripped rest kept →
      Stripped (body ++ last :: rest) (body ++ last :: kept)
  | unclosed {lines : List SourceLine} : OpenBlock lines → Stripped lines lines

/-- The lines that are left: all of them, or those left without comments. -/
def Leaves (stripComments : Bool) (lines kept : List SourceLine) : Prop :=
  if stripComments then Stripped lines kept else kept = lines

section Classified

variable {body lines : List SourceLine} {last : SourceLine}

theorem docBlock_iff (classified : ∀ line ∈ body ++ [last], line.Classified) :
    DocBlock body last ↔ Block body last := by
  have begins := begins_iff classified
  have inside := inside_iff fun line member => classified line (List.mem_append_left _ member)
  have closes := (classified last (by simp)).endsBlock_iff
  constructor
  · intro block
    exact ⟨begins.mp block.begins, inside.mp block.inside, closes.mp block.closes⟩
  · intro block
    exact ⟨begins.mpr block.begins, inside.mpr block.inside, closes.mpr block.closes⟩

theorem unclosed_iff (classified : ∀ line ∈ lines, line.Classified) :
    Unclosed lines ↔ OpenBlock lines := by
  constructor
  · intro block
    exact ⟨(begins_iff classified).mp block.begins, (inside_iff classified).mp block.inside⟩
  · intro block
    exact ⟨(begins_iff classified).mpr block.begins, (inside_iff classified).mpr block.inside⟩

theorem eq_strip_of_stripped {kept : List SourceLine} (stripped : Stripped lines kept)
    (classified : ∀ line ∈ lines, line.Classified) : kept = strip none lines := by
  induction stripped with
  | nil => simp [strip]
  | @comment line rest kept outside comments _ ih =>
      obtain ⟨known, others⟩ := List.forall_mem_cons.mp classified
      rw [← known.beginsDoc_iff, Bool.not_eq_true] at outside
      rw [strip_line outside, if_pos (known.isComment_iff.mpr comments), List.nil_append, ih others]
  | @code line rest kept outside silent _ ih =>
      obtain ⟨known, others⟩ := List.forall_mem_cons.mp classified
      rw [← known.beginsDoc_iff, Bool.not_eq_true] at outside
      rw [← known.isComment_iff] at silent
      rw [strip_line outside, if_neg silent, List.singleton_append, ih others]
  | @documentation body rest kept last block closes _ ih =>
      rw [List.append_cons] at classified
      obtain ⟨inside, others⟩ := List.forall_mem_append.mp classified
      rw [strip_docBlock ((docBlock_iff inside).mpr block),
        if_pos ((inside last (by simp)).endsDoc_iff.mpr closes), List.nil_append, ih others]
  | @plain body rest kept last block closes _ ih =>
      rw [List.append_cons] at classified
      obtain ⟨inside, others⟩ := List.forall_mem_append.mp classified
      rw [← (inside last (by simp)).endsDoc_iff] at closes
      rw [strip_docBlock ((docBlock_iff inside).mpr block), if_neg closes, ← ih others,
        List.append_cons]
  | unclosed block => rw [strip_unclosed ((unclosed_iff classified).mpr block)]

theorem stripped_strip (classified : ∀ line ∈ lines, line.Classified) :
    Stripped lines (strip none lines) := by
  induction lines using stretch_induction with
  | nil => simpa [strip] using Stripped.nil
  | @line line rest outside ih =>
      obtain ⟨known, others⟩ := List.forall_mem_cons.mp classified
      have plain : ¬ line.Begins ['/', '*', '*'] := by
        rw [← known.beginsDoc_iff, Bool.not_eq_true]
        exact outside
      rw [strip_line outside]
      split
      · rename_i comment
        exact .comment plain (known.isComment_iff.mp comment) (ih others)
      · rename_i silent
        exact .code plain (known.isComment_iff.not.mp silent) (ih others)
  | @block body last rest block ih =>
      rw [List.append_cons] at classified
      obtain ⟨inside, others⟩ := List.forall_mem_append.mp classified
      have known : last.Classified := inside last (by simp)
      have enclosed : Block body last := (docBlock_iff inside).mp block
      rw [strip_docBlock block]
      split
      · rename_i closes
        exact .documentation enclosed (known.endsDoc_iff.mp closes) (ih others)
      · rename_i closes
        rw [← List.append_cons]
        exact .plain enclosed (known.endsDoc_iff.not.mp closes) (ih others)
  | unclosed block =>
      rw [strip_unclosed block]
      exact .unclosed ((unclosed_iff classified).mp block)

end Classified

/-! ## Rendering -/

/-- The lines that reach the output are the ones that are left, and no others are. -/
theorem leaves_iff (file : Located) (texts : List String) (stripComments : Bool)
    {left : List SourceLine} :
    Leaves stripComments (ofTexts file texts).content left ↔
      left = kept stripComments (ofTexts file texts).lines := by
  cases stripComments with
  | false => rfl
  | true =>
      have classified := classified_within (List.infix_refl (ofTexts file texts).content)
      rw [kept_true]
      constructor
      · exact fun stripped => eq_strip_of_stripped stripped classified
      · rintro rfl
        exact stripped_strip classified

/-- No line with a directive reaches the output. -/
theorem kept_sublist_filter (stripComments : Bool) (lines : List SourceLine) :
    (kept stripComments lines).Sublist (lines.filter (·.directive.isNone)) := by
  cases stripComments with
  | false => exact List.Sublist.refl _
  | true => exact strip_sublist _

theorem kept_sublist (stripComments : Bool) (lines : List SourceLine) :
    (kept stripComments lines).Sublist lines :=
  (kept_sublist_filter stripComments lines).trans List.filter_sublist

theorem directive_of_mem_kept {stripComments : Bool} {lines : List SourceLine} {line : SourceLine}
    (left : line ∈ kept stripComments lines) : line.directive = none := by
  have plain := (List.mem_filter.mp ((kept_sublist_filter stripComments lines).subset left)).2
  exact Option.isNone_iff_eq_none.mp plain

end Source

namespace SourceLine

variable {constants : Constants} {file : Path} {line : SourceLine}

theorem render_ok_iff {text : String} :
    line.render constants file = .ok text ↔ Template.render constants line.text = .ok text := by
  rw [render]
  cases Template.render constants line.text with
  | error expression => simp
  | ok filled => simp

theorem render_error_iff {failure : Failure} :
    line.render constants file = .error failure ↔
      ∃ expression, Template.render constants line.text = .error expression ∧
        failure = .undefinedConstant expression file line.number := by
  rw [render]
  cases Template.render constants line.text with
  | error expression => simp [eq_comm]
  | ok filled => simp

end SourceLine

namespace Source

/-- The lines that are left of a file have one description by their texts, whatever the constants
are; they stand in the order of the file and bear their numbers in it.  The file can be rendered
exactly if each of them can be filled, and then to what they are filled to, one by one.  Otherwise
the error is the constant that the first of them that cannot be filled lacks, with the file and the
number of the line.  No other line is ever filled: constants that fill the lines that are left alike
render the file alike. -/
theorem render_of_lines_left (file : Located) (texts : List String) (stripComments : Bool) :
    ∃ left, Leaves stripComments (ofTexts file texts).content left ∧
      (∀ other, Leaves stripComments (ofTexts file texts).content other → other = left) ∧
      left.Sublist (ofTexts file texts).lines ∧
      (∀ line ∈ left, 0 < line.number ∧ texts[line.number - 1]? = some line.text) ∧
      ∀ constants,
        ((∃ out, (ofTexts file texts).render constants stripComments = .ok out) ↔
          ∀ line ∈ left, ∃ text, Template.render constants line.text = .ok text) ∧
        (∀ out, (ofTexts file texts).render constants stripComments = .ok out ↔
          List.Forall₂ (fun line text => Template.render constants line.text = .ok text) left out) ∧
        (∀ failure, (ofTexts file texts).render constants stripComments = .error failure ↔
          ∃ before line after expression, left = before ++ line :: after ∧
            (∀ earlier ∈ before, ∃ text, Template.render constants earlier.text = .ok text) ∧
            Template.render constants line.text = .error expression ∧
            failure = .undefinedConstant expression file.path line.number) ∧
        ∀ others, (∀ line ∈ left,
            Template.render others line.text = Template.render constants line.text) →
          (ofTexts file texts).render others stripComments =
            (ofTexts file texts).render constants stripComments := by
  have within := kept_sublist stripComments (ofTexts file texts).lines
  refine ⟨kept stripComments (ofTexts file texts).lines, (leaves_iff ..).mpr rfl,
    fun _ => (leaves_iff ..).mp, within, fun line member => ?_, fun constants => ?_⟩
  · exact text_of_mem_ofTexts (within.subset member)
  refine ⟨?_, fun out => ?_, fun failure => ?_, fun others same => ?_⟩
  · simp only [render_eq, exists_mapM_ok_iff, SourceLine.render_ok_iff]
  · simp only [render_eq, mapM_ok_iff, SourceLine.render_ok_iff]
  · simp only [render_eq, mapM_error_iff, SourceLine.render_ok_iff, SourceLine.render_error_iff]
    constructor
    · rintro ⟨before, line, after, parts, filled, expression, missing, rfl⟩
      exact ⟨before, line, after, expression, parts, filled, missing, rfl⟩
    · rintro ⟨before, line, after, expression, parts, filled, missing, rfl⟩
      exact ⟨before, line, after, parts, filled, expression, missing, rfl⟩
  · rw [render_eq, render_eq]
    refine mapM_congr fun line member => ?_
    rw [SourceLine.render, SourceLine.render, same line member]

/-- A documentation block with a directive and a placeholder in it, a line comment, a block closed
as a plain one, code, and a block that is never closed. -/
def mixedBlocks : List String :=
  ["/** a", "//= require <b>", "<%= X %> **/", "// c", "/** d */", "run('<%= V %>');", "/** e", "// f"]

theorem mixedBlocks_rendered :
    ∃ left, Leaves true (ofTexts (.ofPath ⟨"/p/a.js"⟩) mixedBlocks).content left ∧
      left.map (·.number) = [5, 6, 7, 8] ∧
      (ofTexts (.ofPath ⟨"/p/a.js"⟩) mixedBlocks).render [("V", .text "1")] true =
        .ok ["/** d */\n", "run('1');\n", "/** e\n", "// f\n"] ∧
      (ofTexts (.ofPath ⟨"/p/a.js"⟩) mixedBlocks).render [] true =
        .error (.undefinedConstant "V" ⟨"/p/a.js"⟩ 6) := by
  obtain ⟨left, leaves, _, _, _, rendered⟩ :=
    render_of_lines_left (.ofPath ⟨"/p/a.js"⟩) mixedBlocks true
  have lines : left = [⟨Line.classify "/** d */", 5⟩, ⟨Line.classify "run('<%= V %>');", 6⟩,
      ⟨Line.classify "/** e", 7⟩, ⟨Line.classify "// f", 8⟩] := by
    rw [(leaves_iff ..).mp leaves]
    decide +kernel
  have place : (Located.ofPath ⟨"/p/a.js"⟩).path = ⟨"/p/a.js"⟩ := by decide +kernel
  refine ⟨left, leaves, by rw [lines]; rfl, ((rendered _).2.1 _).mpr ?_,
    ((rendered _).2.2.1 _).mpr ?_⟩
  · rw [lines]
    refine .cons ?_ (.cons ?_ (.cons ?_ (.cons ?_ .nil)))
    all_goals decide +kernel
  · rw [lines, place]
    refine ⟨[⟨Line.classify "/** d */", 5⟩], ⟨Line.classify "run('<%= V %>');", 6⟩, _, "V", rfl,
      ?_, ?_, rfl⟩
    · simp only [List.mem_singleton, forall_eq]
      exact ⟨"/** d */\n", by decide +kernel⟩
    · decide +kernel

end Source

end Splice
