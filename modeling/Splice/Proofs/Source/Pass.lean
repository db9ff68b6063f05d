import Splice.Proofs.Outcome
import Splice.Source

/-!
# One pass over the lines

Rendering goes through the lines of a file once and holds back the lines of a block until it knows
what becomes of them.  The lines that reach the output can be picked first, without a look at what
they are filled to, and be rendered afterwards.
-/

namespace Splice

namespace Source

/-- The lines left after stripping comments, where `block` holds the lines of the documentation
block that is open.  A block that is closed by a documentation closer is dropped; one that is closed
otherwise or not at all is kept.  Outside blocks line comments are dropped. -/
def strip : (block : Option (List SourceLine)) → List SourceLine → List SourceLine
  | block, [] => block.getD []
  | block, line :: rest =>
    if block.isNone && !line.beginsDoc then
      if line.isComment then strip none rest else line :: strip none rest
    else
      let block := block.getD [] ++ [line]
      if !line.endsBlock then strip (some block) rest
      else if line.endsDoc then strip none rest
      else block ++ strip none rest

/-- The lines that reach the output.  Directive lines never do. -/
def kept (stripComments : Bool) (lines : List SourceLine) : List SourceLine :=
  let candidates := lines.filter (·.directive.isNone)
  if stripComments then strip none candidates else candidates

namespace Pass

variable {constants : Constants} {file : Path}

theorem push_append (rendered : Array String) (front back : List SourceLine) :
    push constants file rendered (front ++ back) =
      push constants file rendered front >>= fun rendered => push constants file rendered back :=
  List.foldlM_append

theorem toList_push (rendered : Array String) (lines : List SourceLine) :
    Array.toList <$> push constants file rendered lines =
      (rendered.toList ++ ·) <$> lines.mapM (·.render constants file) := by
  induction lines generalizing rendered with
  | nil => simp [push]
  | cons line lines ih =>
      rw [push, List.foldlM_cons, List.mapM_cons]
      cases line.render constants file with
      | error failure => rfl
      | ok text =>
          refine (ih (rendered.push text)).trans ?_
          cases lines.mapM (·.render constants file) with
          | error failure => rfl
          | ok texts => simp [bind, Except.bind, pure, Except.pure, Functor.map, Except.map]

/-- A directive line changes nothing. -/
theorem step_of_some {line : SourceLine} {directive : Directive}
    (carries : line.directive = some directive) (stripComments : Bool) (pass : Pass) :
    step constants stripComments file pass line = .ok pass := by
  rw [step, carries]
  rfl

/-- Where comments are not stripped, every other line is rendered before those to come. -/
theorem step_false {line : SourceLine} (silent : line.directive = none) (pass : Pass)
    (rest : List SourceLine) :
    (step constants false file pass line >>= fun pass =>
        push constants file pass.rendered (rest ++ pass.block.getD [])) =
      push constants file pass.rendered (line :: rest ++ pass.block.getD []) := by
  refine Eq.trans ?_ (push_append pass.rendered [line] (rest ++ pass.block.getD [])).symm
  rw [step, silent]
  cases push constants file pass.rendered [line] <;> rfl

/-- Lines that are rendered outside blocks come before those that are left of the others. -/
theorem push_then_strip (rendered : Array String) (front rest : List SourceLine) :
    ((push constants file rendered front >>= fun rendered => .ok ⟨rendered, none⟩) >>=
        fun pass : Pass => push constants file pass.rendered (strip pass.block rest)) =
      push constants file rendered (front ++ strip none rest) := by
  rw [push_append]
  cases push constants file rendered front <;> rfl

/-- Where comments are stripped, a line leaves what is rendered in the end as it was: the lines of
the open block and those to come, as far as they reach the output. -/
theorem step_true {line : SourceLine} (silent : line.directive = none) (pass : Pass)
    (rest : List SourceLine) :
    (step constants true file pass line >>= fun pass =>
        push constants file pass.rendered (strip pass.block rest)) =
      push constants file pass.rendered (strip pass.block (line :: rest)) := by
  obtain ⟨rendered, block⟩ := pass
  rw [step, silent, strip]
  by_cases outside : (block.isNone && !line.beginsDoc) = true
  · obtain ⟨rfl, plain⟩ : block = none ∧ line.beginsDoc = false := by simpa using outside
    rw [plain]
    by_cases comment : line.isComment = true
    · rw [comment]
      rfl
    · rw [Bool.not_eq_true] at comment
      rw [comment]
      exact push_then_strip rendered [line] rest
  · have opened : (if block.isNone && line.beginsDoc then some [] else block) =
        some (block.getD []) := by
      cases block with
      | none => simpa using outside
      | some lines => rfl
    rw [opened, if_neg outside]
    cases line.endsBlock with
    | false => rfl
    | true =>
        cases line.endsDoc with
        | true => rfl
        | false => exact push_then_strip rendered (block.getD [] ++ [line]) rest

/-- If no line changes what is rendered in the end, `left` telling what is left of an open block and
the lines to come, then the pass renders what is left of all lines. -/
theorem foldlM_step {stripComments : Bool}
    (left : Option (List SourceLine) → List SourceLine → List SourceLine)
    (done : ∀ block, left block [] = block.getD [])
    (same : ∀ {line : SourceLine}, line.directive = none → ∀ pass rest,
      (step constants stripComments file pass line >>= fun pass =>
          push constants file pass.rendered (left pass.block rest)) =
        push constants file pass.rendered (left pass.block (line :: rest)))
    (pass : Pass) (lines : List SourceLine) :
    (lines.foldlM (step constants stripComments file) pass >>= fun pass =>
        push constants file pass.rendered (pass.block.getD [])) =
      push constants file pass.rendered (left pass.block (lines.filter (·.directive.isNone))) := by
  induction lines generalizing pass with
  | nil => rw [List.filter_nil, done, List.foldlM_nil, pure_bind]
  | cons line lines ih =>
      rw [List.foldlM_cons, bind_assoc]
      cases carries : line.directive with
      | some directive =>
          rw [step_of_some carries, List.filter_cons_of_neg (by simp [carries])]
          exact ih pass
      | none =>
          rw [List.filter_cons_of_pos (by simp [carries]), ← same carries]
          exact bind_congr ih

end Pass

/-- One pass renders the lines that reach the output, and no others. -/
theorem render_eq (constants : Constants) (stripComments : Bool) (source : Source) :
    source.render constants stripComments =
      (kept stripComments source.lines).mapM (·.render constants source.file.path) := by
  have passed : (source.lines.foldlM (Pass.step constants stripComments source.file.path)
      ⟨#[], none⟩ >>= fun pass =>
        Pass.push constants source.file.path pass.rendered (pass.block.getD [])) =
      Pass.push constants source.file.path #[] (kept stripComments source.lines) := by
    cases stripComments with
    | false =>
        -- No block is ever open, so that nothing comes behind the lines.
        refine (Pass.foldlM_step (fun block rest => rest ++ block.getD [])
          (fun _ => List.nil_append _) Pass.step_false ⟨#[], none⟩ source.lines).trans ?_
        exact congrArg (Pass.push constants source.file.path #[]) (List.append_nil _)
    | true => exact Pass.foldlM_step strip (fun _ => rfl) Pass.step_true ⟨#[], none⟩ source.lines
  calc
    source.render constants stripComments = Array.toList <$>
        (source.lines.foldlM (Pass.step constants stripComments source.file.path) ⟨#[], none⟩ >>=
          fun pass => Pass.push constants source.file.path pass.rendered (pass.block.getD [])) := by
      rw [render, map_eq_pure_bind, bind_assoc]
      rfl
    _ = (kept stripComments source.lines).mapM (·.render constants source.file.path) := by
      rw [passed, Pass.toList_push]
      simp

end Source

end Splice
