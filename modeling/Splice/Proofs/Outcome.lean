import Mathlib.Data.List.Forall2

/-!
# Steps that may fail

A chain of steps succeeds if all of them do, and fails at the first one that does.  A search passes
over what gives nothing.
-/

namespace Splice

theorem ok_of_toOption {ε α : Type} {outcome : Except ε α} {value : α}
    (succeeded : outcome.toOption = some value) : outcome = .ok value := by
  cases outcome with
  | error cause => simp [Except.toOption] at succeeded
  | ok other => simpa [Except.toOption] using succeeded

theorem bind_ok {ε α β : Type} {outcome : Except ε α} {next : α → Except ε β} {value : β} :
    (outcome >>= next) = .ok value ↔ ∃ middle, outcome = .ok middle ∧ next middle = .ok value := by
  cases outcome with
  | error cause => simp [bind, Except.bind]
  | ok middle => simp [bind, Except.bind]

theorem bind_pure_error_iff {α β ε : Type} {outcome : Except ε α} {finish : α → β} {cause : ε} :
    (outcome >>= fun value => pure (finish value)) = .error cause ↔ outcome = .error cause := by
  cases outcome with
  | error other => simp [bind, Except.bind]
  | ok value => simp [bind, Except.bind, pure, Except.pure]

/-! ## Folds -/

theorem foldlM_append_ok {α σ ε : Type} {step : σ → α → Except ε σ} {start stop : σ}
    {front back : List α} :
    (front ++ back).foldlM step start = .ok stop ↔
      ∃ middle, front.foldlM step start = .ok middle ∧ back.foldlM step middle = .ok stop := by
  rw [List.foldlM_append, bind_ok]

theorem foldlM_cons_ok {α σ ε : Type} {step : σ → α → Except ε σ} {start stop : σ} {first : α}
    {others : List α} :
    (first :: others).foldlM step start = .ok stop ↔
      ∃ middle, step start first = .ok middle ∧ others.foldlM step middle = .ok stop := by
  rw [List.foldlM_cons, bind_ok]

/-- A fold that fails does so at some step, after the steps before it succeeded. -/
theorem foldlM_error {α σ ε : Type} {step : σ → α → Except ε σ} {start : σ} {list : List α}
    {cause : ε} (failed : list.foldlM step start = .error cause) :
    ∃ front item back middle, list = front ++ item :: back ∧
      front.foldlM step start = .ok middle ∧ step middle item = .error cause := by
  induction list generalizing start with
  | nil => simp [pure, Except.pure] at failed
  | cons first others ih =>
      cases head : step start first with
      | error other =>
          rw [List.foldlM_cons, head] at failed
          obtain rfl : other = cause := by simpa [bind, Except.bind] using failed
          exact ⟨[], first, others, start, rfl, rfl, head⟩
      | ok next =>
          rw [List.foldlM_cons, head] at failed
          obtain ⟨front, item, back, middle, parts, before, at_item⟩ := ih failed
          exact ⟨first :: front, item, back, middle, by rw [parts, List.cons_append],
            foldlM_cons_ok.mpr ⟨next, head, before⟩, at_item⟩

/-! ## Lists of values -/

theorem mapM_cons_ok {α β ε : Type} {step : α → Except ε β} {first : α} {others : List α}
    {values : List β} :
    (first :: others).mapM step = .ok values ↔
      ∃ value rest, step first = .ok value ∧ others.mapM step = .ok rest ∧ value :: rest = values := by
  rw [List.mapM_cons]
  cases step first with
  | error cause => simp [bind, Except.bind]
  | ok value =>
      cases others.mapM step with
      | error cause => simp [bind, Except.bind]
      | ok rest => simp [bind, Except.bind, pure, Except.pure]

theorem mapM_congr {α β ε : Type} {one other : α → Except ε β} {list : List α}
    (same : ∀ item ∈ list, one item = other item) : list.mapM one = list.mapM other := by
  induction list with
  | nil => rfl
  | cons first others ih =>
      obtain ⟨here, later⟩ := List.forall_mem_cons.mp same
      rw [List.mapM_cons, List.mapM_cons, here, ih later]

/-- A list of values results exactly if every step yields its value. -/
theorem mapM_ok_iff {α β ε : Type} {step : α → Except ε β} {list : List α} {values : List β} :
    list.mapM step = .ok values ↔
      List.Forall₂ (fun item value => step item = .ok value) list values := by
  induction list generalizing values with
  | nil => simp [pure, Except.pure, eq_comm]
  | cons first others ih =>
      rw [mapM_cons_ok, List.forall₂_cons_left_iff]
      simp only [ih, eq_comm]

theorem exists_of_mem_mapM {α β ε : Type} {step : α → Except ε β} {list : List α} {values : List β}
    {value : β} (run : list.mapM step = .ok values) (member : value ∈ values) :
    ∃ item ∈ list, step item = .ok value := by
  induction list generalizing values with
  | nil =>
      obtain rfl := Except.ok.inj run
      simp at member
  | cons first others ih =>
      obtain ⟨here, rest, done, later, rfl⟩ := mapM_cons_ok.mp run
      rcases List.mem_cons.mp member with rfl | inside
      · exact ⟨first, List.mem_cons_self, done⟩
      · obtain ⟨item, own, yields⟩ := ih later inside
        exact ⟨item, List.mem_cons_of_mem _ own, yields⟩

/-- All steps of a list succeed exactly if each of them does. -/
theorem exists_mapM_ok_iff {α β ε : Type} {step : α → Except ε β} {list : List α} :
    (∃ values, list.mapM step = .ok values) ↔ ∀ item ∈ list, ∃ value, step item = .ok value := by
  induction list with
  | nil => simp [pure, Except.pure]
  | cons first others ih =>
      rw [List.forall_mem_cons, ← ih]
      constructor
      · rintro ⟨values, run⟩
        obtain ⟨value, rest, here, later, _⟩ := mapM_cons_ok.mp run
        exact ⟨⟨value, here⟩, rest, later⟩
      · rintro ⟨⟨value, here⟩, rest, later⟩
        exact ⟨value :: rest, mapM_cons_ok.mpr ⟨value, rest, here, later, rfl⟩⟩

/-- A list of steps fails exactly at the first of them that fails. -/
theorem mapM_error_iff {α β ε : Type} {step : α → Except ε β} {list : List α} {cause : ε} :
    list.mapM step = .error cause ↔
      ∃ front item back, list = front ++ item :: back ∧
        (∀ other ∈ front, ∃ value, step other = .ok value) ∧ step item = .error cause := by
  constructor
  · intro failed
    induction list with
    | nil => simp [pure, Except.pure] at failed
    | cons first others ih =>
        rw [List.mapM_cons] at failed
        cases head : step first with
        | error other =>
            obtain rfl : other = cause := by simpa [head, bind, Except.bind] using failed
            exact ⟨[], first, others, rfl, by simp, head⟩
        | ok value =>
            cases tail : others.mapM step with
            | error other =>
                obtain rfl : other = cause := by simpa [head, tail, bind, Except.bind] using failed
                obtain ⟨front, item, back, parts, before, at_item⟩ := ih tail
                refine ⟨first :: front, item, back, by rw [parts, List.cons_append], ?_, at_item⟩
                exact List.forall_mem_cons.mpr ⟨⟨value, head⟩, before⟩
            | ok values => simp [head, tail, bind, Except.bind, pure, Except.pure] at failed
  · rintro ⟨front, item, back, rfl, before, at_item⟩
    obtain ⟨values, first⟩ := exists_mapM_ok_iff.mpr before
    simp [List.mapM_append, first, at_item, bind, Except.bind]

/-- The steps fail as the first of them that has a fault. -/
theorem mapM_error_iff_findSome? {α β ε : Type} {step : α → Except ε β} {fault : α → Option ε}
    {list : List α} (each : ∀ item ∈ list, ∀ cause, step item = .error cause ↔ fault item = some cause)
    (cause : ε) : list.mapM step = .error cause ↔ list.findSome? fault = some cause := by
  have sound : ∀ item ∈ list, (∃ value, step item = .ok value) ↔ fault item = none := by
    intro item member
    rw [Option.eq_none_iff_forall_ne_some]
    simp only [ne_eq, ← each item member]
    cases step item with
    | error other => simp
    | ok value => simp
  rw [mapM_error_iff, List.findSome?_eq_some_iff]
  constructor
  · rintro ⟨front, item, back, rfl, before, failed⟩
    refine ⟨front, item, back, rfl, (each item (by simp) cause).mp failed, fun other member => ?_⟩
    exact (sound other (by simp [member])).mp (before other member)
  · rintro ⟨front, item, back, rfl, failed, before⟩
    refine ⟨front, item, back, rfl, fun other member => ?_, (each item (by simp) cause).mpr failed⟩
    exact (sound other (by simp [member])).mpr (before other member)

theorem mapM_sublist {α β ε : Type} {step : α → Except ε β} {part list : List α} {values : List β}
    (within : part.Sublist list) (run : list.mapM step = .ok values) :
    ∃ chosen, part.mapM step = .ok chosen ∧ chosen.Sublist values := by
  induction within generalizing values with
  | slnil => exact ⟨values, run, .refl _⟩
  | cons item _ ih =>
      obtain ⟨value, rest, _, later, rfl⟩ := mapM_cons_ok.mp run
      obtain ⟨chosen, rendered, shorter⟩ := ih later
      exact ⟨chosen, rendered, shorter.cons value⟩
  | cons_cons item _ ih =>
      obtain ⟨value, rest, here, later, rfl⟩ := mapM_cons_ok.mp run
      obtain ⟨chosen, rendered, shorter⟩ := ih later
      exact ⟨value :: chosen, mapM_cons_ok.mpr ⟨value, chosen, here, rendered, rfl⟩,
        shorter.cons_cons value⟩

/-! ## Searches -/

/-- Items that give nothing may be left out of a search. -/
theorem findSome?_filter {α β : Type} {keep : α → Bool} {give : α → Option β} {list : List α}
    (idle : ∀ item ∈ list, keep item = false → give item = none) :
    (list.filter keep).findSome? give = list.findSome? give := by
  induction list with
  | nil => rfl
  | cons first others ih =>
      obtain ⟨here, later⟩ := List.forall_mem_cons.mp idle
      cases kept : keep first with
      | true => rw [List.filter_cons_of_pos kept, List.findSome?_cons, List.findSome?_cons, ih later]
      | false =>
          rw [List.filter_cons_of_neg (by simp [kept]), ih later, List.findSome?_cons, here kept]

end Splice
