import Mathlib.Data.List.Nodup
import Splice.Proofs.Source.Blocks
import Splice.Proofs.Text.Marks

/-!
# What stripping leaves out

Apart from directives and line comments, only lines of documentation blocks that are closed by `**/`
are left out, each of them as a whole.  A plain block comment is kept as long as none of its lines
is taken for something else.
-/

namespace Splice

/-! ## Lines by their texts -/

namespace SourceLine

/-- The line begins with a mark, blanks apart. -/
def Begins (line : SourceLine) (mark : List Char) : Prop :=
  mark <+: Text.trimStart line.text.toList

/-- The line contains a mark. -/
def Has (line : SourceLine) (mark : List Char) : Prop := mark <:+: line.text.toList

/-- Only blanks follow the last `*/` of the line. -/
def EndsInComment (line : SourceLine) : Prop :=
  ∀ before rest, line.text.toList = before ++ ['*', '/'] ++ rest → ¬ ['*', '/'] <:+: rest →
    ∀ c ∈ rest, Text.isBlank c = true

instance (line : SourceLine) (mark : List Char) : Decidable (line.Begins mark) :=
  decidable_of_iff _ Text.beginsWith_iff

instance (line : SourceLine) (mark : List Char) : Decidable (line.Has mark) :=
  decidable_of_iff _ Text.contains_iff

/-- What is recorded about the line is what its text says. -/
def Classified (line : SourceLine) : Prop := line.toLine = Line.classify line.text

variable {line : SourceLine}

theorem Classified.beginsDoc_iff (classified : line.Classified) :
    line.beginsDoc = true ↔ line.Begins ['/', '*', '*'] := by
  have flag : line.beginsDoc = _ := congrArg Line.beginsDoc classified
  rw [flag]
  exact Text.beginsWith_iff

theorem Classified.endsBlock_iff (classified : line.Classified) :
    line.endsBlock = true ↔ line.Has ['*', '/'] := by
  have flag : line.endsBlock = _ := congrArg Line.endsBlock classified
  rw [flag]
  exact Text.contains_iff

theorem Classified.endsDoc_iff (classified : line.Classified) :
    line.endsDoc = true ↔ line.Has ['*', '*', '/'] := by
  have flag : line.endsDoc = _ := congrArg Line.endsDoc classified
  rw [flag]
  exact Text.contains_iff

theorem Classified.isComment_iff (classified : line.Classified) :
    line.isComment = true ↔ line.Begins ['/', '/'] := by
  have flag : line.comment = _ := congrArg Line.comment classified
  rw [Line.isComment, flag, Line.classify, Option.isSome_map]
  exact Text.beginsWith_iff

/-- A line comment opens no block. -/
theorem Begins.not_doc (comment : line.Begins ['/', '/']) : ¬ line.Begins ['/', '*', '*'] := by
  rintro ⟨rest, doc⟩
  obtain ⟨tail, same⟩ := comment
  rw [← same] at doc
  simp at doc

end SourceLine

namespace Source

/-- The lines of a file that carry no directive. -/
def content (source : Source) : List SourceLine := source.lines.filter (·.directive.isNone)

theorem kept_true (source : Source) : kept true source.lines = strip none source.content := rfl

variable {file : Located} {texts : List String}

theorem classified_ofTexts {line : SourceLine} (own : line ∈ (ofTexts file texts).lines) :
    line.Classified := by
  obtain ⟨⟨text, index⟩, _, rfl⟩ := List.mem_map.mp own
  rfl

/-- The lines of a file are counted from one. -/
theorem text_of_mem_ofTexts {line : SourceLine} (own : line ∈ (ofTexts file texts).lines) :
    0 < line.number ∧ texts[line.number - 1]? = some line.text := by
  obtain ⟨⟨text, index⟩, place, rfl⟩ := List.mem_map.mp own
  exact ⟨Nat.succ_pos index, List.mem_zipIdx_iff_getElem?.mp place⟩

/-- The numbers of the lines tell them apart. -/
theorem nodup_ofTexts (file : Located) (texts : List String) :
    (ofTexts file texts).lines.Nodup := by
  apply List.Nodup.of_map SourceLine.number
  have numbers : (ofTexts file texts).lines.map SourceLine.number =
      (texts.zipIdx.map Prod.snd).map (· + 1) := by
    rw [ofTexts, List.map_map, List.map_map]
    rfl
  rw [numbers, List.zipIdx_map_snd]
  exact List.Nodup.map (fun _ _ same => Nat.succ.inj same) List.nodup_range'

theorem classified_within {lines : List SourceLine}
    (within : lines <:+: (ofTexts file texts).content) : ∀ line ∈ lines, line.Classified :=
  fun _ member => classified_ofTexts (List.mem_of_mem_filter (within.subset member))

section Texts

variable {lines : List SourceLine} (classified : ∀ line ∈ lines, line.Classified)

include classified

theorem begins_iff :
    (∃ first ∈ lines.head?, first.beginsDoc = true) ↔
      ∃ first ∈ lines.head?, first.Begins ['/', '*', '*'] :=
  exists_congr fun first => and_congr_right fun head =>
    (classified first (List.mem_of_mem_head? head)).beginsDoc_iff

theorem inside_iff :
    (∀ line ∈ lines, line.endsBlock = false) ↔ ∀ line ∈ lines, ¬ line.Has ['*', '/'] :=
  forall₂_congr fun line member => by
    rw [← (classified line member).endsBlock_iff, Bool.not_eq_true]

end Texts

theorem nodup_content (file : Located) (texts : List String) :
    (ofTexts file texts).content.Nodup :=
  (nodup_ofTexts file texts).filter _

/-- A line of the middle is not among what is left of the two sides. -/
theorem not_mem_strip_sides {before middle after : List SourceLine} {line : SourceLine}
    (once : (before ++ (middle ++ after)).Nodup) (member : line ∈ middle) :
    line ∉ strip none before ∧ line ∉ strip none after := by
  constructor
  · intro early
    exact List.disjoint_of_nodup_append once ((strip_sublist before).subset early)
      (List.mem_append_left _ member)
  · intro late
    exact List.disjoint_of_nodup_append once.of_append_right member
      ((strip_sublist after).subset late)

/-! ## Documentation blocks -/

/-- A line that is left out and is no line comment lies in a block that is closed by `**/`, and that
block is left out. -/
theorem docBlock_of_not_mem_strip {lines : List SourceLine} {line : SourceLine}
    (own : line ∈ lines) (leftOut : line ∉ strip none lines) (code : line.isComment = false) :
    ∃ front body last back, lines = front ++ (body ++ last :: back) ∧ DocBlock body last ∧
      last.endsDoc = true ∧ line ∈ body ++ [last] ∧
      strip none lines = strip none front ++ strip none back := by
  induction lines using stretch_induction with
  | nil => simp at own
  | @line first rest outside ih =>
      rw [strip_line outside] at leftOut
      have later : line ∈ rest := by
        rcases List.mem_cons.mp own with rfl | later
        · simp [code] at leftOut
        · exact later
      obtain ⟨front, body, last, back, rfl, block, closes, inside, stripped⟩ :=
        ih later fun member => leftOut (List.mem_append_right _ member)
      refine ⟨first :: front, body, last, back, rfl, block, closes, inside, ?_⟩
      rw [strip_line outside, strip_line outside, stripped, List.append_assoc]
  | @block body last rest block ih =>
      rw [strip_docBlock block] at leftOut
      rw [List.append_cons, List.mem_append] at own
      rcases own with inside | later
      · cases closes : last.endsDoc with
        | false =>
            rw [closes] at leftOut
            exact absurd (List.mem_append_left _ inside) leftOut
        | true =>
            refine ⟨[], body, last, rest, rfl, block, closes, inside, ?_⟩
            simp [strip_docBlock block, closes, strip]
      · obtain ⟨front, inner, other, back, rfl, found, closes, inside, stripped⟩ :=
          ih later fun member => leftOut (List.mem_append_right _ member)
        refine ⟨body ++ last :: front, inner, other, back, by simp, found, closes, inside, ?_⟩
        rw [strip_docBlock block, strip_docBlock block, stripped, List.append_assoc]
  | unclosed unclosed =>
      rw [strip_unclosed unclosed] at leftOut
      exact absurd own leftOut

/-- Neighbouring lines, directives apart, from one that begins `/**` through the first one that
contains `*/`, which moreover contains `**/`. -/
structure Documentation (source : Source) (body : List SourceLine) (last : SourceLine) : Prop where
  /-- The lines are neighbours. -/
  within : body ++ [last] <:+: source.content
  /-- The first line opens the block. -/
  begins : ∃ first ∈ (body ++ [last]).head?, first.Begins ['/', '*', '*']
  /-- No earlier line closes it. -/
  inside : ∀ line ∈ body, ¬ line.Has ['*', '/']
  /-- The last line closes it. -/
  closes : last.Has ['*', '*', '/']

theorem documentation_of_left_out {line : SourceLine}
    (own : line ∈ (ofTexts file texts).lines)
    (leftOut : line ∉ kept true (ofTexts file texts).lines) (plain : line.directive = none)
    (code : ¬ line.Begins ['/', '/']) :
    ∃ body last, (ofTexts file texts).Documentation body last ∧ line ∈ body ++ [last] ∧
      ∀ other ∈ body ++ [last], other ∉ kept true (ofTexts file texts).lines := by
  rw [kept_true] at leftOut ⊢
  have inContent : line ∈ (ofTexts file texts).content := by simp [content, own, plain]
  have notComment : line.isComment = false := by
    rwa [← (classified_ofTexts own).isComment_iff, Bool.not_eq_true] at code
  obtain ⟨front, body, last, back, parts, block, closes, inside, stripped⟩ :=
    docBlock_of_not_mem_strip inContent leftOut notComment
  rw [List.append_cons body] at parts
  have within : body ++ [last] <:+: (ofTexts file texts).content :=
    ⟨front, back, by rw [parts, List.append_assoc]⟩
  have classified := classified_within within
  refine ⟨body, last, ⟨within, ?_, ?_, ?_⟩, inside, ?_⟩
  · exact (begins_iff classified).mp block.begins
  · exact (inside_iff fun other member => classified other (List.mem_append_left _ member)).mp
      block.inside
  · exact (classified last (by simp)).endsDoc_iff.mp closes
  · intro other member keptOther
    have once := nodup_content file texts
    rw [parts] at once
    rw [stripped] at keptOther
    obtain ⟨early, late⟩ := not_mem_strip_sides once member
    exact (List.mem_append.mp keptOther).elim early late

/-- The kept lines are rendered in order.  A line that is left out, carries no directive and is no
line comment lies in a documentation block that is closed by `**/`, and all lines of that block are
left out. -/
theorem left_out_of_documentation (file : Located) (texts : List String) :
    (∀ constants, (ofTexts file texts).render constants true =
      (kept true (ofTexts file texts).lines).mapM (·.render constants file.path)) ∧
    ∀ line ∈ (ofTexts file texts).lines, line ∉ kept true (ofTexts file texts).lines →
      line.directive = none → ¬ line.Begins ['/', '/'] →
        ∃ body last, (ofTexts file texts).Documentation body last ∧ line ∈ body ++ [last] ∧
          ∀ other ∈ body ++ [last], other ∉ kept true (ofTexts file texts).lines :=
  ⟨fun constants => render_eq constants true _,
    fun _ own leftOut plain code => documentation_of_left_out own leftOut plain code⟩

/-- A documentation block with code behind it on its last line. -/
def documented : Source :=
  ofTexts (.ofPath ⟨"/p/a.js"⟩) ["/** a", " * b", " **/ run();", "go();"]

theorem documented_left_out :
    ∃ line body last, line.text = " **/ run();" ∧ documented.Documentation body last ∧
      line ∈ body ++ [last] ∧ ∀ other ∈ body ++ [last], other ∉ kept true documented.lines := by
  let line : SourceLine := ⟨Line.classify " **/ run();", 3⟩
  have own : line ∈ documented.lines := by decide +kernel
  have leftOut : line ∉ kept true documented.lines := by decide +kernel
  have plain : line.directive = none := by decide +kernel
  have code : ¬ line.Begins ['/', '/'] := by decide +kernel
  obtain ⟨body, last, found⟩ := (left_out_of_documentation _ _).2 line own leftOut plain code
  exact ⟨line, body, last, rfl, found⟩

/-- A documentation comment with code behind it on its only line. -/
def trailingCode : Source := ofTexts (.ofPath ⟨"/p/a.js"⟩) ["/** doc **/ run();"]

/-- The line that closes a block is left out even if code stands behind the comment. -/
theorem trailingCode_left_out :
    (trailingCode.render [] true).toOption = some [] ∧
    ¬ ∀ line ∈ trailingCode.lines, line ∉ kept true trailingCode.lines → line.directive = none →
      ¬ line.Begins ['/', '/'] →
        ∃ body last, trailingCode.Documentation body last ∧ line ∈ body ++ [last] ∧
          (line = last → line.EndsInComment) := by
  refine ⟨by decide +kernel, fun claim => ?_⟩
  let line : SourceLine := ⟨Line.classify "/** doc **/ run();", 1⟩
  obtain ⟨body, last, block, member, ends⟩ :=
    claim line (by decide +kernel) (by decide +kernel) (by decide +kernel) (by decide +kernel)
  have closes : line.Has ['*', '/'] := by decide +kernel
  have isLast : line = last := by
    rcases List.mem_append.mp member with early | final
    · exact absurd closes (block.inside line early)
    · simpa using final
  have blank := ends isLast "/** doc *".toList " run();".toList (by decide +kernel)
    (by decide +kernel) 'r' (by decide +kernel)
  exact absurd blank (by decide +kernel)

/-! ## Plain block comments -/

/-- Lines outside blocks are left out exactly if they are line comments. -/
theorem strip_lines {lines : List SourceLine} (outside : ∀ line ∈ lines, line.beginsDoc = false)
    (rest : List SourceLine) :
    strip none (lines ++ rest) = lines.filter (!·.isComment) ++ strip none rest := by
  induction lines with
  | nil => rfl
  | cons line lines ih =>
      obtain ⟨first, others⟩ := List.forall_mem_cons.mp outside
      rw [List.cons_append, strip_line first, ih others]
      cases comment : line.isComment <;> simp [comment]

/-- Lines of which only the last one closes a block: before the first that opens a documentation
block line comments are left out, and from there on all lines share the lot of that block. -/
theorem strip_through {body : List SourceLine} {last : SourceLine}
    (inside : ∀ line ∈ body, line.endsBlock = false) (closes : last.endsBlock = true)
    {front tail : List SourceLine} (parts : body ++ [last] = front ++ tail)
    (outside : ∀ line ∈ front, line.beginsDoc = false)
    (opens : ∀ first ∈ tail.head?, first.beginsDoc = true) (rest : List SourceLine) :
    strip none (body ++ [last] ++ rest) =
      front.filter (!·.isComment) ++ (if last.endsDoc then [] else tail) ++ strip none rest := by
  rw [parts, List.append_assoc, strip_lines outside, List.append_assoc]
  congr 1
  cases tail using List.reverseRecOn with
  | nil => simp
  | append_singleton inner final =>
      have same : body = front ++ inner ∧ [last] = [final] :=
        List.append_inj' (by simpa using parts) rfl
      obtain ⟨rfl, equal⟩ := same
      obtain rfl : last = final := by simpa using equal
      have block : DocBlock inner last := by
        refine ⟨?_, fun line member => inside line (List.mem_append_right _ member), closes⟩
        cases head : (inner ++ [last]).head? with
        | none => simp at head
        | some first => exact ⟨first, rfl, opens first head⟩
      rw [List.append_assoc, List.singleton_append, strip_docBlock block]

/-- All lines through the first closing one are kept exactly if no line comment stands before the
first line that opens a documentation block, and such a block is not closed by `**/`. -/
theorem forall_mem_strip_iff {before front tail after : List SourceLine} {last : SourceLine}
    (once : (before ++ (front ++ tail ++ after)).Nodup)
    (stripped : strip none (before ++ (front ++ tail ++ after)) =
      strip none before ++
        (front.filter (!·.isComment) ++ (if last.endsDoc then [] else tail) ++ strip none after)) :
    (∀ line ∈ front ++ tail, line ∈ strip none (before ++ (front ++ tail ++ after))) ↔
      (∀ line ∈ front, line.isComment = false) ∧ (tail ≠ [] → last.endsDoc = false) := by
  have apart : front.Disjoint tail :=
    List.disjoint_of_nodup_append once.of_append_right.of_append_left
  rw [stripped]
  constructor
  · intro whole
    have here (line : SourceLine) (member : line ∈ front ++ tail) :
        line ∈ front.filter (!·.isComment) ∨ line ∈ if last.endsDoc then [] else tail := by
      obtain ⟨early, late⟩ := not_mem_strip_sides once member
      simpa [early, late] using whole line member
    constructor
    · intro line member
      rcases here line (List.mem_append_left _ member) with left | right
      · simpa using (List.mem_filter.mp left).2
      · split at right
        · simp at right
        · exact absurd right (apart member)
    · intro opened
      obtain ⟨line, member⟩ := List.exists_mem_of_ne_nil tail opened
      rcases here line (List.mem_append_right _ member) with left | right
      · exact absurd member (apart (List.mem_of_mem_filter left))
      · cases closes : last.endsDoc with
        | false => rfl
        | true => simp [closes] at right
  · rintro ⟨quiet, lasting⟩ line member
    refine List.mem_append_right _ (List.mem_append_left _ ?_)
    rcases List.mem_append.mp member with early | late
    · exact List.mem_append_left _ (List.mem_filter.mpr ⟨early, by simp [quiet line early]⟩)
    · rw [lasting (List.ne_nil_of_mem late)]
      exact List.mem_append_right _ late

/-- Lines are cut before the first one that opens a documentation block. -/
theorem split_at_opening (lines : List SourceLine) :
    ∃ front tail, lines = front ++ tail ∧ (∀ line ∈ front, line.beginsDoc = false) ∧
      ∀ first ∈ tail.head?, first.beginsDoc = true := by
  obtain ⟨⟨front, quiet, parts⟩, opens⟩ :=
    Text.dropWhile_eq_iff.mp (rfl : lines.dropWhile (!·.beginsDoc) = _)
  exact ⟨front, _, parts, by simpa using quiet, by simpa using opens⟩

section Cut

variable {front tail : List SourceLine} (classified : ∀ line ∈ front ++ tail, line.Classified)
  (quiet : ∀ line ∈ front, line.beginsDoc = false)
  (opens : ∀ first ∈ tail.head?, first.beginsDoc = true)

include classified quiet opens

theorem opening_mem_iff :
    tail ≠ [] ↔ ∃ line ∈ front ++ tail, line.Begins ['/', '*', '*'] := by
  constructor
  · intro proper
    obtain ⟨first, head⟩ := Option.isSome_iff_exists.mp (List.isSome_head?.mpr proper)
    have member : first ∈ front ++ tail := List.mem_append_right _ (List.mem_of_mem_head? head)
    exact ⟨first, member, (classified first member).beginsDoc_iff.mp (opens first head)⟩
  · rintro ⟨line, member, begins⟩ rfl
    rw [← (classified line member).beginsDoc_iff] at begins
    simp [quiet line (by simpa using member)] at begins

theorem comments_after_opening_iff :
    (∀ line ∈ front, line.isComment = false) ↔
      ∀ before line after, front ++ tail = before ++ line :: after → line.Begins ['/', '/'] →
        ∃ other ∈ before, other.Begins ['/', '*', '*'] := by
  constructor
  · intro silent before line after parts comment
    have member : line ∈ front ++ tail := by simp [parts]
    have late : line ∉ front := by
      intro early
      rw [← (classified line member).isComment_iff] at comment
      simp [silent line early] at comment
    obtain ⟨gap, rfl, rest⟩ : ∃ gap, before = front ++ gap ∧ tail = gap ++ line :: after := by
      rcases List.append_eq_append_iff.mp parts with found | ⟨gap, rfl, rest⟩
      · exact found
      · cases gap with
        | nil => exact ⟨[], by simp, by simpa using rest.symm⟩
        | cons other gap =>
            obtain rfl : line = other := (List.cons.inj rest).1
            simp at late
    cases gap with
    | nil =>
        have begins := opens line (by simp [rest])
        rw [(classified line member).beginsDoc_iff] at begins
        exact absurd begins comment.not_doc
    | cons first gap =>
        have begins := opens first (by simp [rest])
        rw [(classified first (by simp [rest])).beginsDoc_iff] at begins
        exact ⟨first, by simp, begins⟩
  · intro ordered line member
    by_contra comment
    have known : line.Classified := classified line (List.mem_append_left _ member)
    rw [Bool.not_eq_false, known.isComment_iff] at comment
    obtain ⟨before, after, rfl⟩ := List.append_of_mem member
    obtain ⟨other, early, begins⟩ := ordered before line (after ++ tail) (by simp) comment
    rw [← (classified other (by simp [early])).beginsDoc_iff] at begins
    simp [quiet other (by simp [early])] at begins

end Cut

/-- The lines of a plain block comment: the first one begins `/*` but not `/**`, and the last one is
the first that contains `*/`, but not the first one of all. -/
structure PlainBlock (opener : SourceLine) (inner : List SourceLine) (closer : SourceLine) :
    Prop where
  /-- The first line opens a comment. -/
  begins : opener.Begins ['/', '*']
  /-- It opens no documentation comment. -/
  plain : ¬ opener.Begins ['/', '*', '*']
  /-- No line before the last one closes it. -/
  inside : ∀ line ∈ opener :: inner, ¬ line.Has ['*', '/']
  /-- The last line closes it. -/
  closes : closer.Has ['*', '/']

theorem closed_of_texts {lines : List SourceLine} (classified : ∀ line ∈ lines, line.Classified)
    (closing : ∀ front line rest, lines = front ++ line :: rest → line.Begins ['/', '*', '*'] →
      ∃ other ∈ line :: rest, other.Has ['*', '/']) : Closed lines := by
  intro front line rest parts begins
  have known (other : SourceLine) (member : other ∈ line :: rest) : other.Classified :=
    classified other (parts ▸ List.mem_append_right front member)
  obtain ⟨other, member, ends⟩ :=
    closing front line rest parts ((known line (by simp)).beginsDoc_iff.mp begins)
  exact ⟨other, member, (known other member).endsBlock_iff.mpr ends⟩

/-- A plain block comment, directives apart, at whose beginning no documentation block is open.  All
its lines are kept exactly if each of them that begins `//` comes after one that begins `/**`, and
the last line does not contain `**/` if one of them begins `/**`. -/
theorem plainBlock_kept_iff (file : Located) (texts : List String)
    {before inner after : List SourceLine} {opener closer : SourceLine}
    (parts : (ofTexts file texts).content = before ++ (opener :: inner ++ [closer] ++ after))
    (outside : ∀ front line rest, before = front ++ line :: rest → line.Begins ['/', '*', '*'] →
      ∃ other ∈ line :: rest, other.Has ['*', '/'])
    (block : PlainBlock opener inner closer) :
    (∀ line ∈ opener :: inner ++ [closer], line ∈ kept true (ofTexts file texts).lines) ↔
      (∀ front line back, opener :: inner ++ [closer] = front ++ line :: back →
        line.Begins ['/', '/'] → ∃ other ∈ front, other.Begins ['/', '*', '*']) ∧
      ((∃ line ∈ opener :: inner ++ [closer], line.Begins ['/', '*', '*']) →
        ¬ closer.Has ['*', '*', '/']) := by
  have classified : ∀ line ∈ opener :: inner ++ [closer], line.Classified :=
    classified_within ⟨before, after, by rw [parts, List.append_assoc]⟩
  have closed : Closed before :=
    closed_of_texts (classified_within ⟨[], _, parts.symm⟩) outside
  have body : ∀ line ∈ opener :: inner, line.endsBlock = false := by
    intro line member
    have ends := (classified line (List.mem_append_left _ member)).endsBlock_iff
    simpa using ends.not.mpr (block.inside line member)
  have known : closer.Classified := classified closer (by simp)
  obtain ⟨front, tail, split, quiet, opens⟩ := split_at_opening (opener :: inner ++ [closer])
  have stripped := strip_through body (known.endsBlock_iff.mpr block.closes) split quiet opens after
  have once := nodup_content file texts
  rw [kept_true, parts]
  rw [parts] at once
  rw [split] at once stripped classified ⊢
  rw [forall_mem_strip_iff once (by rw [strip_append closed, stripped])]
  refine and_congr (comments_after_opening_iff classified quiet opens) ?_
  rw [← opening_mem_iff classified quiet opens, ← known.endsDoc_iff, Bool.not_eq_true]

/-- A plain block comment with code behind it on its last line. -/
def explained : Source := ofTexts (.ofPath ⟨"/p/a.js"⟩) ["/* a", "b", "*/ run();", "go();"]

theorem explained_kept :
    ∃ opener inner closer, PlainBlock opener inner closer ∧
      opener :: inner ++ [closer] <:+: explained.content ∧
      ∀ line ∈ opener :: inner ++ [closer], line ∈ kept true explained.lines := by
  let opener : SourceLine := ⟨Line.classify "/* a", 1⟩
  let inner : List SourceLine := [⟨Line.classify "b", 2⟩]
  let closer : SourceLine := ⟨Line.classify "*/ run();", 3⟩
  have parts : explained.content =
      [] ++ (opener :: inner ++ [closer] ++ [⟨Line.classify "go();", 4⟩]) := by
    decide +kernel
  have block : PlainBlock opener inner closer :=
    ⟨by decide +kernel, by decide +kernel, by decide +kernel, by decide +kernel⟩
  have uncommented : ∀ line ∈ opener :: inner ++ [closer], ¬ line.Begins ['/', '/'] := by
    decide +kernel
  have undocumented : ¬ ∃ line ∈ opener :: inner ++ [closer], line.Begins ['/', '*', '*'] := by
    decide +kernel
  refine ⟨opener, inner, closer, block, ⟨[], _, parts.symm⟩, ?_⟩
  refine (plainBlock_kept_iff _ _ parts (by simp) block).mpr ⟨?_, fun found => ?_⟩
  · intro front line back split comment
    exact absurd comment (uncommented line (by simp [split]))
  · exact absurd found undocumented

/-- A plain block comment whose last line looks like a line comment. -/
def commentedCloser : Source := ofTexts (.ofPath ⟨"/p/a.js"⟩) ["/* a", "// b */", "run();"]

/-- The line that closes a plain block comment is left out if it begins `//`, while the line that
opens it is kept. -/
theorem commentedCloser_left_out :
    ∃ opener closer after, commentedCloser.lines = opener :: closer :: after ∧
      PlainBlock opener [] closer ∧ closer.directive = none ∧
      opener ∈ kept true commentedCloser.lines ∧ closer ∉ kept true commentedCloser.lines ∧
      (commentedCloser.render [] true).toOption = some ["/* a\n", "run();\n"] := by
  refine ⟨⟨Line.classify "/* a", 1⟩, ⟨Line.classify "// b */", 2⟩, [⟨Line.classify "run();", 3⟩], ?_⟩
  refine ⟨rfl, ⟨?_, ?_, ?_, ?_⟩, ?_, ?_, ?_, ?_⟩
  all_goals decide +kernel

end Source

end Splice
