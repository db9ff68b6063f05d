import Mathlib.Tactic.MkIffOfInductiveProp
import Splice.Proofs.Number.Digits
import Splice.Proofs.Template.Filling

/-!
# Addresses of values

Every value inside a constant has an address, made of the name of the constant, the names of fields
and the positions of items on the way to it.  A placeholder with that address is replaced by the
text of the value, whatever projections the names on the way may spell, since a step looks for a
field or an item first.
-/

namespace Splice

namespace Json

/-- One step into a value. -/
inductive Step where
  /-- To the field of an object. -/
  | field (name : String)
  /-- To the item of an array. -/
  | item (position : Nat)
deriving DecidableEq, Repr

/-- The spelling of a step.  Positions are in decimal. -/
def Step.text : Step → String
  | field name => name
  | item position => position.repr

/-- The value that is reached inside a value by some steps. -/
inductive Leads : Json → List Step → Json → Prop
  | done (value : Json) : Leads value [] value
  | field {fields : List (String × Json)} {name : String} {inner node : Json} {steps : List Step} :
      Table.get? name fields = some inner → Leads inner steps node →
      Leads (.object fields) (.field name :: steps) node
  | item {items : List Json} {position : Nat} {inner node : Json} {steps : List Step} :
      items[position]? = some inner → Leads inner steps node →
      Leads (.array items) (.item position :: steps) node

/-- The text of a value in the output: a text as it is, anything else as compact JSON. -/
def shown : Json → String
  | text value => value
  | other => other.compact

theorem display?_eq_shown {value : Json} (visible : value ≠ .null) :
    value.display? = some value.shown := by
  cases value with
  | null => exact absurd rfl visible
  | _ => rfl

end Json

namespace Template

open Json (Step Leads)
open Text (Leftmost)

/-! ## Following steps -/

theorem position?_repr (position : Nat) : position? position.repr.toList = some position := by
  have digits : position.repr.toList = Decimal.digitsOf position := Nat.toList_repr
  obtain ⟨first, others, parts, digit⟩ := Decimal.exists_digitsOf_eq_cons position
  have all : (Decimal.digitsOf position).all Decimal.isDigit = true :=
    List.all_eq_true.mpr fun _ member => Decimal.isDigit_of_mem_digitsOf member
  rw [digits, position?, if_pos ⟨by simp [parts], all⟩, Decimal.natOfDigits_digitsOf]
  -- A sign is no digit.
  intro rest signed
  obtain ⟨rfl, _⟩ := List.cons.inj (parts.symm.trans signed)
  exact absurd digit (by decide)

theorem step?_field {fields : List (String × Json)} {name : String} {inner : Json}
    (known : Table.get? name fields = some inner) :
    step? (.object fields) (Step.field name).text.toList = some inner := by
  rw [step?, Step.text, String.ofList_toList, known]

theorem step?_item {items : List Json} {position : Nat} {inner : Json}
    (known : items[position]? = some inner) :
    step? (.array items) (Step.item position).text.toList = some inner := by
  rw [step?, Step.text, position?_repr]
  exact known

/-- The spelled steps lead to the same value. -/
theorem follow?_of_leads {value node : Json} {steps : List Step} (leads : Leads value steps node) :
    follow? value (steps.map fun step => step.text.toList) = some node := by
  induction leads with
  | done value => rfl
  | field known _ ih => rw [List.map_cons, follow?, step?_field known, Option.bind_some, ih]
  | item known _ ih => rw [List.map_cons, follow?, step?_item known, Option.bind_some, ih]

/-! ## Reading an address -/

/-- A name that can stand in an address: without blanks at its ends, and without the characters that
end a step or a placeholder. -/
@[mk_iff]
structure Writable (name : String) : Prop where
  /-- No blank stands at either end. -/
  trimmed : Text.trim name.toList = name.toList
  /-- No point divides it into steps. -/
  undivided : '.' ∉ name.toList
  /-- It does not close the placeholder. -/
  unclosed : ¬ closing <:+: name.toList

instance (name : String) : Decidable (Writable name) := decidable_of_iff _ (writable_iff name).symm

theorem writable_repr (position : Nat) : Writable position.repr := by
  have digits : position.repr.toList = Decimal.digitsOf position := Nat.toList_repr
  have digit {c : Char} (member : c ∈ position.repr.toList) : Decimal.isDigit c = true :=
    Decimal.isDigit_of_mem_digitsOf (digits ▸ member)
  refine ⟨Text.trim_eq_iff.mpr ⟨⟨[], [], by simp, by simp, by simp⟩, ?_, ?_⟩, ?_, ?_⟩
  · intro c first
    exact Decimal.isBlank_of_isDigit (digit (List.mem_of_mem_head? first))
  · intro c last
    exact Decimal.isBlank_of_isDigit (digit (List.mem_of_getLast? last))
  · intro point
    exact absurd (digit point) (by decide)
  · intro closed
    have mark : '%' ∈ closing := by decide +kernel
    exact absurd (digit (closed.subset mark)) (by decide)

/-- Writable names that are joined by points have no blanks at their ends and no closing mark. -/
theorem writable_joined {names : List String} (writable : ∀ name ∈ names, Writable name) :
    Text.trim (".".intercalate names).toList = (".".intercalate names).toList ∧
      ¬ closing <:+: (".".intercalate names).toList := by
  have point : '.' ∉ closing := by decide +kernel
  rw [String.toList_intercalate]
  induction names with
  | nil => exact ⟨rfl, by decide +kernel⟩
  | cons name names ih =>
      obtain ⟨own, later⟩ := List.forall_mem_cons.mp writable
      cases names with
      | nil => simpa using ⟨own.trimmed, own.unclosed⟩
      | cons second names =>
          obtain ⟨trimmed, unclosed⟩ := ih later
          simp only [List.map_cons, List.intercalate_cons_cons, List.append_assoc,
            String.reduceToList, List.singleton_append] at trimmed unclosed ⊢
          refine ⟨Text.trim_append_cons own.trimmed trimmed (by decide), fun closed => ?_⟩
          rcases Text.infix_of_append_cons closed point with here | there
          · exact own.unclosed here
          · exact unclosed there

/-- The only closing mark of a placeholder is the one behind it. -/
theorem leftmost_closing {inside : List Char} (unclosed : ¬ closing <:+: inside) :
    Leftmost closing (inside ++ closing) inside [] := by
  have mark : closing = ['%', '>'] := by decide +kernel
  refine ⟨by simp, fun front back whole => ?_⟩
  rcases List.append_eq_append_iff.mp whole with ⟨gap, longer, parts⟩ | ⟨gap, earlier, _⟩
  · -- An earlier mark would share only its end with the one behind, but its characters differ.
    cases gap with
    | nil => exact absurd ⟨front, [], by simpa using longer⟩ unclosed
    | cons first gap =>
        cases gap with
        | nil =>
            rw [mark] at longer parts
            obtain ⟨rfl, _⟩ := List.cons.inj parts
            have last := congrArg List.getLast? longer
            simp at last
        | cons second gap =>
            have sizes := congrArg List.length longer
            simp only [mark, List.length_append, List.length_cons, List.length_nil] at sizes
            omega
  · exact absurd ⟨front, gap, earlier.symm⟩ unclosed

/-! ## Addresses -/

/-- The placeholder for the value that steps from a constant lead to. -/
def address (name : String) (steps : List Step) : String :=
  "<%= " ++ ".".intercalate (name :: steps.map Step.text) ++ " %>"

theorem splits_address {name : String} {steps : List Step}
    (writable : ∀ text ∈ name :: steps.map Step.text, Writable text) :
    Splits (address name steps).toList [.literal [],
      .placeholder (".".intercalate (name :: steps.map Step.text)).toList, .literal []] := by
  obtain ⟨trimmed, unclosed⟩ := writable_joined writable
  generalize body : (".".intercalate (name :: steps.map Step.text)).toList = expression
    at trimmed unclosed
  have spelled : (address name steps).toList =
      [] ++ opening ++ (([' '] ++ expression ++ [' ']) ++ closing) := by
    simp [address, body, opening, closing]
  have bare : Text.trim ([' '] ++ expression ++ [' ']) = expression := by
    obtain ⟨_, ends⟩ := Text.trim_eq_iff.mp trimmed
    have blank : ∀ c ∈ [' '], Text.isBlank c = true := List.forall_mem_singleton.mpr (by decide)
    exact Text.trim_eq_iff.mpr ⟨⟨[' '], [' '], blank, blank, rfl⟩, ends⟩
  have inside : ¬ closing <:+: [' '] ++ expression ++ [' '] := by
    have blank : ' ' ∉ closing := by decide +kernel
    have proper : ¬ closing <:+: [] := by simp [closing_ne_nil]
    intro closed
    rcases Text.infix_of_append_cons closed blank with before | after
    · rcases @Text.infix_of_append_cons closing [] expression ' ' before blank with none | within
      · exact proper none
      · exact unclosed within
    · exact proper after
  rw [spelled]
  have placed : Splits ([] ++ opening ++ (([' '] ++ expression ++ [' ']) ++ closing))
      [.literal [], .placeholder (Text.trim ([' '] ++ expression ++ [' '])), .literal []] := by
    refine .placeholder ⟨rfl, fun _ _ _ => Nat.zero_le _⟩ (leftmost_closing inside) (.plain ?_)
    intro before between rest whole
    simp [opening] at whole
  rwa [bare] at placed

/-- The expression of an address is cut at its points into the name and the steps. -/
theorem splitOn_joined {texts : List String} (some_text : texts ≠ [])
    (writable : ∀ text ∈ texts, Writable text) :
    (((".".intercalate texts).toList.splitOn '.').map Text.trim) = texts.map String.toList := by
  have apart : (".".intercalate texts).toList.splitOn '.' = texts.map String.toList := by
    rw [String.toList_intercalate]
    refine List.splitOn_intercalate '.' (fun piece member => ?_) (by simpa using some_text)
    obtain ⟨text, present, rfl⟩ := List.mem_map.mp member
    exact (writable text present).undivided
  rw [apart, List.map_map]
  exact List.map_congr_left fun text member => (writable text member).trimmed

/-- Every value inside a constant is shown at its address.  Whatever constants there are and
whichever fields and items lead from the value of a name to one that is not `null`, filling in the
address gives the text of that value, less trailing blanks, and one line feed, if the name and the
names of the fields are writable. -/
theorem render_address {constants : Constants} {name : String} {value node : Json}
    {steps : List Step} (known : Table.get? name constants = some value)
    (leads : Leads value steps node) (visible : node ≠ .null) (writable : Writable name)
    (fields : ∀ key, .field key ∈ steps → Writable key) :
    render constants (address name steps) =
      .ok (String.ofList (Text.trimEnd node.shown.toList ++ ['\n'])) := by
  have spelled : ∀ text ∈ name :: steps.map Step.text, Writable text := by
    refine List.forall_mem_cons.mpr ⟨writable, fun text member => ?_⟩
    obtain ⟨step, onTheWay, rfl⟩ := List.mem_map.mp member
    cases step with
    | field key => exact fields key onTheWay
    | item position => exact writable_repr position
  have evaluated : evaluate? constants
      (".".intercalate (name :: steps.map Step.text)).toList = some node.shown := by
    have reached := follow?_of_leads leads
    rw [evaluate?, splitOn_joined (by simp) spelled, List.map_cons, List.map_map]
    simp [known, Function.comp_def, reached, Json.display?_eq_shown visible]
  rw [render_eq, ← splits_iff.mp (splits_address spelled)]
  refine bind_ok.mpr ⟨[[], node.shown.toList, []], mapM_ok_iff.mpr ?_, by simp⟩
  exact .cons rfl (.cons (Piece.fill_ok_iff.mpr (.value evaluated)) (.cons rfl .nil))

/-- A constant whose parts have the names of projections and of pieces of a mark. -/
def oddNames : Constants :=
  [("50%", .object [("length", .array [.null, .object [("<%=", .object [("to_s", .text "x \t")])]])])]

theorem oddNames_addressed :
    Writable "50%" ∧ Writable "length" ∧ Writable "<%=" ∧ Writable "to_s" ∧
    render oddNames "<%= 50%.length.1.<%=.to_s %>" = .ok "x\n" := by
  have writable : Writable "50%" ∧ Writable "length" ∧ Writable "<%=" ∧ Writable "to_s" := by
    decide +kernel
  obtain ⟨name, array, mark, projection⟩ := writable
  refine ⟨name, array, mark, projection, ?_⟩
  have rendered := @render_address oddNames "50%" _ (.text "x \t")
    [.field "length", .item 1, .field "<%=", .field "to_s"] rfl
    (.field rfl (.item rfl (.field rfl (.field rfl (.done _))))) (by simp) name
    (by simp [array, mark, projection])
  have spelled : address "50%" [.field "length", .item 1, .field "<%=", .field "to_s"] =
      "<%= 50%.length.1.<%=.to_s %>" := by
    decide +kernel
  have text : String.ofList (Text.trimEnd (Json.text "x \t").shown.toList ++ ['\n']) = "x\n" := by
    decide +kernel
  rwa [spelled, text] at rendered

end Template

end Splice
