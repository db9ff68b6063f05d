import Splice.Environment
import Splice.Files.Memory
import Splice.Proofs.Outcome
import Splice.Proofs.Table

/-!
# Precedence of constants

The value of a constant is the configured one, or else that of the first root on the load path whose
resource holds a mapping with its name.  Roots are laid over each other from the last to the first,
so a root without such a mapping leaves no trace, and one that is registered again only moves to the
top.
-/

namespace Splice

namespace Constants

/-! ## Contributions of roots -/

/-- A root contributes a mapping: it can be listed and lists the resource, and the resource can be
read and holds the fields of the mapping.  If a name were given twice there, its last value would
count. -/
structure Contributes (files : Files) (name : String) (parse : String → Option Json) (root : Root)
    (mapping : Mapping Json) : Prop where
  /-- The root lists the resource. -/
  listed : ∃ names, files.entries root = .ok names ∧ name ∈ names
  /-- The resource holds the fields of the mapping. -/
  parsed : ∃ lines fields, files.readLines (root.path.join ⟨name⟩) = .ok lines ∧
    parse ("\n".intercalate lines) = some (.object fields) ∧
    ∀ key, mapping.get? key = Table.get? key fields.reverse

/-- The constants that a root lays over those of the roots below it. -/
def mappingOf (files : Files) (name : String) (parse : String → Option Json) (root : Root) :
    Mapping Json :=
  match ofRoot files name root parse with
  | .constants mapping => mapping
  | _ => .empty

variable {files : Files} {name : String} {parse : String → Option Json}

theorem readResource_cases (files : Files) (path : Path) (parse : String → Option Json) :
    (∃ lines fields, files.readLines path = .ok lines ∧
      parse ("\n".intercalate lines) = some (.object fields) ∧
      readResource files path parse = .ok (.ofList fields)) ∨
    readResource files path parse = .ok .empty ∨
      ∃ cause, readResource files path parse = .error cause := by
  unfold readResource
  cases files.readLines path with
  | error cause => exact .inr (.inr ⟨_, rfl⟩)
  | ok lines =>
      simp only
      cases parsed : parse ("\n".intercalate lines) with
      | none => exact .inr (.inr ⟨_, rfl⟩)
      | some value =>
          cases value with
          | object fields => exact .inl ⟨lines, fields, rfl, parsed, rfl⟩
          | null => exact .inr (.inl rfl)
          | bool | whole | double | text | array => exact .inr (.inr ⟨_, rfl⟩)

theorem mappingOf_of_contributes {root : Root} {mapping : Mapping Json}
    (contributes : Contributes files name parse root mapping) :
    mappingOf files name parse root = mapping := by
  obtain ⟨⟨names, entries, member⟩, lines, fields, read, parsed, values⟩ := contributes
  simp only [mappingOf, ofRoot, entries, member, if_true, readResource, read, parsed]
  exact Mapping.ext_get? fun key => (Table.get?_ofList fields key).trans (values key).symm

/-- What a root lays over others is nothing or the mapping that it contributes. -/
theorem mappingOf_cases (root : Root) :
    mappingOf files name parse root = .empty ∨
      Contributes files name parse root (mappingOf files name parse root) := by
  unfold mappingOf ofRoot
  cases entries : files.entries root with
  | error cause => exact .inl rfl
  | ok names =>
      by_cases member : name ∈ names
      · rcases readResource_cases files (root.path.join ⟨name⟩) parse with
          ⟨lines, fields, read, parsed, found⟩ | empty | ⟨cause, refused⟩
        · simp only [member, if_true, found]
          exact .inr ⟨⟨names, entries, member⟩, lines, fields, read, parsed,
            Table.get?_ofList fields⟩
        · simp [member, empty]
        · simp [member, refused]
      · simp [member]

theorem mappingOf_eq_empty {root : Root}
    (nothing : ∀ mapping, ¬ Contributes files name parse root mapping) :
    mappingOf files name parse root = .empty :=
  (mappingOf_cases root).resolve_right (nothing _)

/-- A root gives a name its value in the mapping that it contributes. -/
theorem get?_mappingOf_eq_some_iff {root : Root} {key : String} {value : Json} :
    (mappingOf files name parse root).get? key = some value ↔
      ∃ mapping, Contributes files name parse root mapping ∧ mapping.get? key = some value := by
  constructor
  · intro found
    rcases mappingOf_cases root with empty | contributes
    · rw [empty] at found
      cases found
    · exact ⟨_, contributes, found⟩
  · rintro ⟨mapping, contributes, found⟩
    rwa [mappingOf_of_contributes contributes]

theorem get?_mappingOf_eq_none_iff {root : Root} {key : String} :
    (mappingOf files name parse root).get? key = none ↔
      ∀ mapping, Contributes files name parse root mapping → mapping.get? key = none := by
  constructor
  · intro missing mapping contributes
    rwa [mappingOf_of_contributes contributes] at missing
  · intro missing
    rcases mappingOf_cases root with empty | contributes
    · rw [empty]
      rfl
    · exact missing _ contributes

/-! ## Roots over roots -/

/-- The first root is laid over the others. -/
theorem ofRoots_cons (root : Root) (roots : List Root) :
    ofRoots files name ⟨root :: roots⟩ parse =
      (ofRoots files name ⟨roots⟩ parse).overlay (mappingOf files name parse root) := by
  rw [ofRoots, List.foldr_cons, mappingOf]
  cases ofRoot files name root parse <;> rfl

/-- A root that contributes nothing may as well be missing. -/
theorem ofRoots_of_nothing {root : Root}
    (nothing : ∀ mapping, ¬ Contributes files name parse root mapping) (before after : List Root) :
    ofRoots files name ⟨before ++ root :: after⟩ parse =
      ofRoots files name ⟨before ++ after⟩ parse := by
  induction before with
  | nil =>
      rw [List.nil_append, List.nil_append, ofRoots_cons, mappingOf_eq_empty nothing]
      rfl
  | cons first before ih =>
      rw [List.cons_append, List.cons_append, ofRoots_cons, ofRoots_cons, ih]

/-- A name has the value of the first root that gives it one. -/
theorem get?_ofRoots (roots : List Root) (key : String) :
    (ofRoots files name ⟨roots⟩ parse).get? key =
      roots.findSome? fun root => (mappingOf files name parse root).get? key := by
  induction roots with
  | nil => rfl
  | cons root roots ih =>
      rw [ofRoots_cons, Mapping.get?_overlay, ih, List.findSome?_cons]
      cases (mappingOf files name parse root).get? key <;> rfl

/-- A root that is registered is laid over what was found before, also if it was on the load path
already. -/
theorem ofRoots_register (loadPath : LoadPath) (root : Root) :
    ofRoots files name (loadPath.register root) parse =
      (ofRoots files name loadPath parse).overlay (mappingOf files name parse root) := by
  obtain ⟨roots⟩ := loadPath
  rw [LoadPath.register]
  refine Mapping.ext_get? fun key => ?_
  rw [get?_ofRoots, Mapping.get?_overlay, get?_ofRoots, List.findSome?_cons]
  cases here : (mappingOf files name parse root).get? key with
  | some value => rfl
  | none =>
      -- Where the root stood before, it does not have the name either.
      refine findSome?_filter fun other _ dropped => ?_
      obtain rfl : other = root := by simpa using dropped
      exact here

end Constants

namespace ConstantPool

/-- What is found settles what is in force. -/
theorem reload_congr {pool : ConstantPool} {files : Files} {loadPath other : LoadPath}
    {parse : String → Option Json}
    (same : Constants.ofRoots files pool.resource loadPath parse =
      Constants.ofRoots files pool.resource other parse) :
    pool.reload files loadPath parse = pool.reload files other parse := by
  rw [reload, reload, same]

/-- After a reload a constant has the configured value, or else its value in the mapping of the
first root that contributes one with its name, whole as it stands there, or else none.  A root that
cannot be listed or does not list the resource, or whose resource cannot be read or parsed or is no
mapping, might as well not be on the load path.  A further root lays its mapping over what was found
before, wherever it stood, and changes nothing if it contributes none. -/
theorem configured_or_first_root (parse : String → Option Json) (files : Files)
    (loadPath : LoadPath) (pool : ConstantPool) :
    (∀ key value, (pool.reload files loadPath parse).merged.get? key = some value ↔
      pool.configured.get? key = some value ∨
      pool.configured.get? key = none ∧ ∃ higher root lower mapping,
        loadPath.bases = higher ++ root :: lower ∧
        Constants.Contributes files pool.resource parse root mapping ∧
        mapping.get? key = some value ∧
        ∀ other ∈ higher, ∀ mapping, Constants.Contributes files pool.resource parse other mapping →
          mapping.get? key = none) ∧
    (∀ higher root lower, loadPath.bases = higher ++ root :: lower →
      (∀ mapping, ¬ Constants.Contributes files pool.resource parse root mapping) →
      pool.reload files loadPath parse = pool.reload files ⟨higher ++ lower⟩ parse) ∧
    ∀ further,
      (∀ mapping, Constants.Contributes files pool.resource parse further mapping →
        (pool.reload files (loadPath.register further) parse).found =
          (pool.reload files loadPath parse).found.overlay mapping) ∧
      ((∀ mapping, ¬ Constants.Contributes files pool.resource parse further mapping) →
        pool.reload files (loadPath.register further) parse =
          pool.reload files loadPath parse) := by
  obtain ⟨roots⟩ := loadPath
  refine ⟨fun key value => ?_, fun higher root lower parts nothing => ?_, fun further => ⟨?_, ?_⟩⟩
  · have merged : (pool.reload files ⟨roots⟩ parse).merged.get? key =
        (pool.configured.get? key).or (roots.findSome? fun root =>
          (Constants.mappingOf files pool.resource parse root).get? key) := by
      rw [reload, Mapping.get?_overlay, Constants.get?_ofRoots]
    simp only [merged, Option.or_eq_some_iff, List.findSome?_eq_some_iff,
      Constants.get?_mappingOf_eq_some_iff, Constants.get?_mappingOf_eq_none_iff]
    refine or_congr_right (and_congr_right fun _ => ?_)
    constructor
    · rintro ⟨higher, root, lower, parts, ⟨mapping, contributes, found⟩, above⟩
      exact ⟨higher, root, lower, mapping, parts, contributes, found, above⟩
    · rintro ⟨higher, root, lower, mapping, parts, contributes, found, above⟩
      exact ⟨higher, root, lower, parts, ⟨mapping, contributes, found⟩, above⟩
  · obtain rfl : roots = higher ++ root :: lower := parts
    exact reload_congr (Constants.ofRoots_of_nothing nothing higher lower)
  · intro mapping contributes
    rw [← Constants.mappingOf_of_contributes contributes]
    exact Constants.ofRoots_register ⟨roots⟩ further
  · intro nothing
    refine reload_congr ((Constants.ofRoots_register ⟨roots⟩ further).trans ?_)
    rw [Constants.mappingOf_eq_empty nothing]
    rfl

/-- Three roots, of which one holds a list, and the others share two names. -/
def sharedNames : MemoryFiles :=
  ((MemoryFiles.empty.insert ⟨"/p/constants.yml"⟩ "A: {x: 1}\nB: 2\nC: 3").insert
    ⟨"/p/lib/constants.yml"⟩ "A: {y: 4}\nB: 5").insert ⟨"/p/bad/constants.yml"⟩ "- A"

theorem sharedNames_precedence :
    ∃ pool reloaded value mapping,
      pool = ofConfigured "constants.yml" (.ofList [("B", .text "b")]) ∧
      reloaded = pool.reload sharedNames.view
        ⟨[.ofPath ⟨"/p/bad"⟩, .ofPath ⟨"/p/lib"⟩, .ofPath ⟨"/p"⟩]⟩ ∧
      reloaded.merged.get? "A" = some value ∧ value.display? = some "\x7b\"y\":4\x7d" ∧
      reloaded.merged.get? "B" = some (.text "b") ∧
      reloaded = pool.reload sharedNames.view ⟨[.ofPath ⟨"/p/lib"⟩, .ofPath ⟨"/p"⟩]⟩ ∧
      mapping.table.map Prod.fst = ["A", "B", "C"] ∧
      (pool.reload sharedNames.view
        ⟨[.ofPath ⟨"/p"⟩, .ofPath ⟨"/p/bad"⟩, .ofPath ⟨"/p/lib"⟩]⟩).found =
        reloaded.found.overlay mapping := by
  let mappingOf := Constants.mappingOf sharedNames.view "constants.yml" Yaml.read?
  have lib : ((mappingOf (.ofPath ⟨"/p/lib"⟩)).get? "A").bind Json.display? =
      some "\x7b\"y\":4\x7d" := by
    decide +kernel
  have top : (mappingOf (.ofPath ⟨"/p"⟩)).table.map Prod.fst = ["A", "B", "C"] := by
    decide +kernel
  have bad (mapping : Mapping Json) : ¬ Constants.Contributes sharedNames.view "constants.yml"
      Yaml.read? (.ofPath ⟨"/p/bad"⟩) mapping := by
    rintro ⟨_, lines, fields, read, parsed, _⟩
    have text : sharedNames.view.readLines
        ((Root.ofPath ⟨"/p/bad"⟩).path.join ⟨"constants.yml"⟩) = .ok ["- A"] := by
      decide +kernel
    have list : (Yaml.read? ("\n".intercalate ["- A"])).any (fun value => value matches .object _) =
        false := by
      decide +kernel
    obtain rfl := Except.ok.inj (text.symm.trans read)
    rw [parsed] at list
    cases list
  obtain ⟨value, found, shown⟩ := Option.bind_eq_some_iff.mp lib
  have contributes (root : Root) (proper : mappingOf root ≠ .empty) :
      Constants.Contributes sharedNames.view "constants.yml" Yaml.read? root (mappingOf root) :=
    (Constants.mappingOf_cases root).resolve_left proper
  have moved : LoadPath.register ⟨[.ofPath ⟨"/p/bad"⟩, .ofPath ⟨"/p/lib"⟩, .ofPath ⟨"/p"⟩]⟩
      (.ofPath ⟨"/p"⟩) = ⟨[.ofPath ⟨"/p"⟩, .ofPath ⟨"/p/bad"⟩, .ofPath ⟨"/p/lib"⟩]⟩ := by
    decide +kernel
  obtain ⟨values, idle, registered⟩ := configured_or_first_root Yaml.read? sharedNames.view
    ⟨[.ofPath ⟨"/p/bad"⟩, .ofPath ⟨"/p/lib"⟩, .ofPath ⟨"/p"⟩]⟩
    (ofConfigured "constants.yml" (.ofList [("B", .text "b")]))
  refine ⟨_, _, value, mappingOf (.ofPath ⟨"/p"⟩), rfl, rfl, ?_, shown, ?_, ?_, top, ?_⟩
  · refine (values "A" value).mpr (.inr ⟨rfl, [.ofPath ⟨"/p/bad"⟩], .ofPath ⟨"/p/lib"⟩,
      [.ofPath ⟨"/p"⟩], _, rfl, contributes _ ?_, found, ?_⟩)
    · intro empty
      rw [empty] at found
      cases found
    · intro other member mapping wrong
      rw [List.mem_singleton.mp member] at wrong
      exact absurd wrong (bad mapping)
  · exact (values "B" (.text "b")).mpr (.inl rfl)
  · exact idle [] (.ofPath ⟨"/p/bad"⟩) [.ofPath ⟨"/p/lib"⟩, .ofPath ⟨"/p"⟩] rfl bad
  · rw [← moved]
    refine (registered (.ofPath ⟨"/p"⟩)).1 _ (contributes _ fun empty => ?_)
    rw [empty] at top
    cases top

end ConstantPool

end Splice
