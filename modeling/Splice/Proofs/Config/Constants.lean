import Mathlib.Data.List.Forall2
import Splice.Config
import Splice.Proofs.Outcome
import Splice.Proofs.Table

/-!
# Configured constants

The constants of a configuration are converted value by value, to any depth.  Every value has an
image in which nothing of it is lost, except that there is none of a number that is not finite.  The
first such number in the order of the configuration is the one that the error names, together with
the constant in which it stands.
-/

namespace Splice

/-! ## Values under names -/

theorem forall₂_congr_of_mem {α β : Type} {One Other : α → β → Prop} {items : List α}
    {images : List β} (same : ∀ item ∈ items, ∀ image, One item image ↔ Other item image) :
    List.Forall₂ One items images ↔ List.Forall₂ Other items images := by
  induction items generalizing images with
  | nil => simp
  | cons item items ih =>
      obtain ⟨own, others⟩ := List.forall_mem_cons.mp same
      simp only [List.forall₂_cons_left_iff, own, ih others]

/-- Values that are converted under their names keep the names. -/
theorem mapM_named_ok_iff {α β ε : Type} (convert : String → α → Except ε β)
    {Becomes : α → β → Prop} {entries : Table α} {fields : Table β}
    (each : ∀ entry ∈ entries, ∀ value,
      convert entry.1 entry.2 = .ok value ↔ Becomes entry.2 value) :
    (entries.mapM fun entry => do
        let value ← convert entry.1 entry.2
        return (entry.1, value)) = .ok fields ↔
      fields.map Prod.fst = entries.map Prod.fst ∧
        List.Forall₂ Becomes (entries.map Prod.snd) (fields.map Prod.snd) := by
  induction entries generalizing fields with
  | nil =>
      constructor
      · intro run
        obtain rfl := Except.ok.inj run
        exact ⟨rfl, .nil⟩
      · rintro ⟨names, _⟩
        rw [List.map_eq_nil_iff.mp names]
        rfl
  | cons entry entries ih =>
      obtain ⟨own, others⟩ := List.forall_mem_cons.mp each
      simp only [mapM_cons_ok, bind_ok, own, ih others, List.map_cons, List.forall₂_cons_left_iff]
      constructor
      · rintro ⟨_, rest, ⟨value, becomes, same⟩, ⟨names, values⟩, rfl⟩
        obtain rfl := Except.ok.inj same
        exact ⟨by simp [names], value, _, becomes, values, rfl⟩
      · rintro ⟨names, value, rest, becomes, values, parts⟩
        obtain ⟨⟨name, _⟩, fields, rfl, rfl, rfl⟩ := List.map_eq_cons_iff.mp parts
        obtain ⟨rfl, later⟩ := List.cons.inj names
        exact ⟨_, fields, ⟨_, becomes, rfl⟩, ⟨later, values⟩, rfl⟩

/-- Tables with the same names and related values give related answers. -/
theorem Table.rel_get? {α β : Type} {Becomes : α → β → Prop} {entries : Table α} {fields : Table β}
    (names : fields.map Prod.fst = entries.map Prod.fst)
    (values : List.Forall₂ Becomes (entries.map Prod.snd) (fields.map Prod.snd)) (name : String) :
    Option.Rel Becomes (entries.get? name) (fields.get? name) := by
  induction entries generalizing fields with
  | nil =>
      obtain rfl : fields = [] := by simpa using names
      exact .none
  | cons entry entries ih =>
      obtain ⟨⟨key, field⟩, fields, rfl, same, later⟩ := List.map_eq_cons_iff.mp names
      obtain ⟨becomes, others⟩ := List.forall₂_cons.mp values
      obtain rfl : key = entry.1 := same
      rw [get?, get?]
      split
      · exact .some becomes
      · exact ih later others

namespace Binary64

/-- The number is infinite or no number at all. -/
def IsSpecial (number : Binary64) : Prop :=
  (∃ negative, number = .infinity negative) ∨ number = .nan

theorem isSpecial_iff {number : Binary64} : number.IsSpecial ↔ number.isFinite = false := by
  cases number with
  | finite negative mantissa exponent => simp [IsSpecial, isFinite]
  | infinity negative => simp [IsSpecial, isFinite]
  | nan => simp [IsSpecial, isFinite]

end Binary64

namespace Toml

/-! ## Nested values -/

/-- Induction over a value, with one hypothesis for each of the values that it holds. -/
@[elab_as_elim]
theorem nested_induction {Holds : Toml → Prop} (string : ∀ value, Holds (.string value))
    (integer : ∀ value, Holds (.integer value)) (float : ∀ value, Holds (.float value))
    (boolean : ∀ value, Holds (.boolean value)) (dateTime : ∀ value, Holds (.dateTime value))
    (array : ∀ items, (∀ item ∈ items, Holds item) → Holds (.array items))
    (table : ∀ entries, (∀ entry ∈ entries, Holds entry.2) → Holds (.table entries))
    (value : Toml) : Holds value :=
  @Toml.rec Holds (fun items => ∀ item ∈ items, Holds item)
    (fun entries => ∀ entry ∈ entries, Holds entry.2) (fun entry => Holds entry.2)
    string integer float boolean dateTime array table
    (by simp) (fun _ _ first others => List.forall_mem_cons.mpr ⟨first, others⟩)
    (by simp) (fun _ _ first others => List.forall_mem_cons.mpr ⟨first, others⟩)
    (fun _ _ held => held) value

mutual

/-- The floating-point numbers anywhere in a value, in order. -/
def floats : Toml → List Binary64
  | float value => [value]
  | array items => itemFloats items
  | table entries => entryFloats entries
  | _ => []

/-- The numbers in the items of an array. -/
def itemFloats : List Toml → List Binary64
  | [] => []
  | item :: items => item.floats ++ itemFloats items

/-- The numbers in the values of a table. -/
def entryFloats : List (String × Toml) → List Binary64
  | [] => []
  | (_, value) :: entries => value.floats ++ entryFloats entries

end

theorem itemFloats_eq (items : List Toml) : itemFloats items = items.flatMap floats := by
  induction items with
  | nil => rfl
  | cons item items ih => rw [itemFloats, ih, List.flatMap_cons]

theorem entryFloats_eq (entries : Table Toml) :
    entryFloats entries = entries.flatMap fun entry => entry.2.floats := by
  induction entries with
  | nil => rfl
  | cons entry entries ih =>
      obtain ⟨name, value⟩ := entry
      rw [entryFloats, ih, List.flatMap_cons]

/-- The image of a value.  Texts, integers, finite numbers and truth values are themselves, a date
or time is its text, an array has the images of its items in order, and a table has the images of
its values under the same names. -/
inductive Image : Toml → Json → Prop
  | string (value : String) : Image (.string value) (.text value)
  | integer (value : Int) : Image (.integer value) (.whole value)
  | float {value : Binary64} : ¬ value.IsSpecial → Image (.float value) (.double value)
  | boolean (value : Bool) : Image (.boolean value) (.bool value)
  | dateTime (value : DateTime) : Image (.dateTime value) (.text value.text)
  | array {items : List Toml} {images : List Json} :
      List.Forall₂ Image items images → Image (.array items) (.array images)
  | table {entries : Table Toml} {fields : Table Json} :
      fields.map Prod.fst = entries.map Prod.fst →
      List.Forall₂ Image (entries.map Prod.snd) (fields.map Prod.snd) →
      Image (.table entries) (.object fields)

/-! ## Conversion -/

theorem toJsonItems_eq (items : List Toml) : toJsonItems items = items.mapM toJson := by
  induction items with
  | nil => rfl
  | cons item items ih => rw [toJsonItems, ih, List.mapM_cons]

theorem toJsonFields_eq (entries : Table Toml) :
    toJsonFields entries = entries.mapM fun entry => do
      let value ← toJson entry.2
      return (entry.1, value) := by
  induction entries with
  | nil => rfl
  | cons entry entries ih =>
      obtain ⟨name, value⟩ := entry
      rw [toJsonFields, ih, List.mapM_cons]
      cases value.toJson with
      | error number => rfl
      | ok json => rfl

/-- The value that results is the image, and there is one result only if there is an image. -/
theorem toJson_ok_iff {value : Toml} {json : Json} : value.toJson = .ok json ↔ Image value json := by
  induction value using nested_induction generalizing json with
  | string value | integer value | boolean value | dateTime value =>
      rw [toJson]
      constructor
      · intro converted
        obtain rfl := Except.ok.inj converted
        constructor
      · rintro ⟨⟩
        rfl
  | float value =>
      rw [toJson]
      constructor
      · intro converted
        split at converted
        · rename_i finite
          obtain rfl := Except.ok.inj converted
          exact .float (by simp [Binary64.isSpecial_iff, finite])
        · cases converted
      · intro image
        cases image with
        | float proper => rw [if_pos (by simpa [Binary64.isSpecial_iff] using proper)]
  | array items ih =>
      rw [toJson, bind_ok]
      simp only [toJsonItems_eq, mapM_ok_iff, forall₂_congr_of_mem fun item member _ => ih item member]
      constructor
      · rintro ⟨images, converted, same⟩
        obtain rfl := Except.ok.inj same
        exact .array converted
      · intro image
        cases image with
        | array converted => exact ⟨_, converted, rfl⟩
  | table entries ih =>
      rw [toJson, bind_ok]
      simp only [toJsonFields_eq,
        mapM_named_ok_iff (fun _ value => toJson value) fun entry member _ => ih entry member]
      constructor
      · rintro ⟨fields, ⟨names, converted⟩, same⟩
        obtain rfl := Except.ok.inj same
        exact .table names converted
      · intro image
        cases image with
        | table names converted => exact ⟨_, ⟨names, converted⟩, rfl⟩

/-- The first number in a value that is not finite. -/
def firstSpecial? (value : Toml) : Option Binary64 := value.floats.find? fun number => !number.isFinite

theorem firstSpecial?_eq_none_iff {value : Toml} :
    value.firstSpecial? = none ↔ ∀ number ∈ value.floats, ¬ number.IsSpecial := by
  simp [firstSpecial?, Binary64.isSpecial_iff]

theorem firstSpecial?_eq_some_iff {value : Toml} {number : Binary64} :
    value.firstSpecial? = some number ↔ number.IsSpecial ∧ ∃ front back,
      value.floats = front ++ number :: back ∧ ∀ earlier ∈ front, ¬ earlier.IsSpecial := by
  simp [firstSpecial?, Binary64.isSpecial_iff, List.find?_eq_some_iff_append]

/-- The number that stops a conversion is the first one that is not finite. -/
theorem toJson_error_iff {value : Toml} {number : Binary64} :
    value.toJson = .error number ↔ value.firstSpecial? = some number := by
  induction value using nested_induction generalizing number with
  | string value | integer value | boolean value | dateTime value =>
      simp [toJson, firstSpecial?, floats]
  | float value =>
      rw [toJson, firstSpecial?, floats]
      cases finite : value.isFinite with
      | true => simp [finite]
      | false => simp [finite]
  | array items ih =>
      rw [toJson, bind_pure_error_iff, toJsonItems_eq,
        mapM_error_iff_findSome? fun item member _ => ih item member]
      rw [firstSpecial?, floats, itemFloats_eq, List.find?_flatMap]
      rfl
  | table entries ih =>
      have each : ∀ entry ∈ entries, ∀ cause,
          (entry.2.toJson >>= fun json => pure (entry.1, json)) = .error cause ↔
            entry.2.firstSpecial? = some cause := by
        intro entry member cause
        rw [bind_pure_error_iff, ih entry member]
      rw [toJson, bind_pure_error_iff, toJsonFields_eq, mapM_error_iff_findSome? each]
      rw [firstSpecial?, floats, entryFloats_eq, List.find?_flatMap]
      rfl

end Toml

namespace Config

theorem constantValue_ok_iff {name : String} {value : Toml} {json : Json} :
    constantValue name value = .ok json ↔ value.Image json := by
  rw [← Toml.toJson_ok_iff, constantValue]
  cases value.toJson with
  | error number => simp
  | ok other => simp

theorem constantValue_error_iff {name : String} {value : Toml} {failure : Failure} :
    constantValue name value = .error failure ↔ (value.firstSpecial?.map fun number =>
      Failure.config (.notFinite name (Toml.notFiniteText number))) = some failure := by
  rw [Option.map_eq_some_iff, constantValue]
  simp only [← Toml.toJson_error_iff]
  cases value.toJson with
  | error number => simp
  | ok other => simp

theorem constantsMapping_eq (config : Config) :
    config.constantsMapping = config.constants.mapM fun entry => do
      let json ← constantValue entry.1 entry.2
      return (entry.1, json) := by
  rw [constantsMapping]

theorem constantsMapping_ok_iff {config : Config} {mapping : Constants} :
    config.constantsMapping = .ok mapping ↔
      mapping.map Prod.fst = config.constants.map Prod.fst ∧
        List.Forall₂ Toml.Image (config.constants.map Prod.snd) (mapping.map Prod.snd) := by
  rw [constantsMapping_eq, mapM_named_ok_iff constantValue fun _ _ _ => constantValue_ok_iff]

theorem constantsMapping_error_iff {config : Config} {failure : Failure} :
    config.constantsMapping = .error failure ↔
      (config.constants.findSome? fun entry => entry.2.firstSpecial?.map fun number =>
        Failure.config (.notFinite entry.1 (Toml.notFiniteText number))) = some failure := by
  rw [constantsMapping_eq]
  refine mapM_error_iff_findSome? (fun entry _ cause => ?_) failure
  rw [bind_pure_error_iff, constantValue_error_iff]

/-- The constants of a configuration can be converted exactly if no number anywhere in them is
infinite or no number.  What results has their names, in order, and the images of their values, so
that every name has the image of what it had, or nothing.  Otherwise the configuration is refused
because of the first constant with such a number, which is named together with the first of its
numbers that is one. -/
theorem constants_faithful_or_refused (config : Config) :
    ((∃ mapping, config.constantsMapping = .ok mapping) ↔
      ∀ entry ∈ config.constants, ∀ number ∈ entry.2.floats, ¬ number.IsSpecial) ∧
    (∀ mapping, config.constantsMapping = .ok mapping ↔
      mapping.map Prod.fst = config.constants.map Prod.fst ∧
        List.Forall₂ Toml.Image (config.constants.map Prod.snd) (mapping.map Prod.snd)) ∧
    (∀ mapping, config.constantsMapping = .ok mapping →
      ∀ name, Option.Rel Toml.Image (config.constants.get? name) (mapping.get? name)) ∧
    ∀ failure, config.constantsMapping = .error failure ↔
      ∃ before name value after front number back,
        config.constants = before ++ (name, value) :: after ∧
        (∀ entry ∈ before, ∀ earlier ∈ entry.2.floats, ¬ earlier.IsSpecial) ∧
        value.floats = front ++ number :: back ∧ (∀ earlier ∈ front, ¬ earlier.IsSpecial) ∧
        number.IsSpecial ∧ failure = .config (.notFinite name (Toml.notFiniteText number)) := by
  refine ⟨?_, fun mapping => constantsMapping_ok_iff, fun mapping converted => ?_, fun failure => ?_⟩
  · simp only [← Toml.firstSpecial?_eq_none_iff, Option.eq_none_iff_forall_ne_some, ne_eq,
      ← Toml.toJson_error_iff]
    rw [constantsMapping_eq, exists_mapM_ok_iff]
    refine forall₂_congr fun entry _ => ?_
    rw [constantValue]
    cases entry.2.toJson with
    | error number => simp [bind, Except.bind]
    | ok json => simp [bind, Except.bind, pure, Except.pure]
  · obtain ⟨names, values⟩ := constantsMapping_ok_iff.mp converted
    exact Table.rel_get? names values
  · rw [constantsMapping_error_iff, List.findSome?_eq_some_iff]
    simp only [Option.map_eq_none_iff, Option.map_eq_some_iff, Toml.firstSpecial?_eq_none_iff,
      Toml.firstSpecial?_eq_some_iff]
    constructor
    · rintro ⟨before, ⟨name, value⟩, after, parts, ⟨number, ⟨special, front, back, own, earlier⟩, rfl⟩,
        others⟩
      exact ⟨before, name, value, after, front, number, back, parts, others, own, earlier, special,
        rfl⟩
    · rintro ⟨before, name, value, after, front, number, back, parts, others, own, earlier, special,
        rfl⟩
      exact ⟨before, (name, value), after, parts, ⟨number, ⟨special, front, back, own, earlier⟩, rfl⟩,
        others⟩

/-- Constants of which the first is proper, and the second holds an infinite number deep inside and
something that is no number after it, as does the third. -/
def deepInfinity : Table Toml :=
  [("debug", .boolean true),
   ("limits", .table
     [("high", .array [.float (.finite false 1 0), .table [("x", .float (.infinity true))]]),
      ("low", .float .nan)]),
   ("zoom", .float .nan)]

theorem deepInfinity_refused :
    ∃ failure, constantsMapping { constants := deepInfinity } = .error failure ∧
      failure.message =
        "failed to parse config file: constant `limits` is not a finite number: -inf" := by
  obtain ⟨_, _, _, refused⟩ := constants_faithful_or_refused { constants := deepInfinity }
  refine ⟨_, (refused _).mpr ⟨[_], "limits", _, [_], [.finite false 1 0], .infinity true, [.nan], rfl,
    ?_, rfl, ?_, .inl ⟨true, rfl⟩, rfl⟩, ?_⟩
  · simp [Toml.floats]
  · simp [Binary64.IsSpecial]
  · decide +kernel

end Config

end Splice
