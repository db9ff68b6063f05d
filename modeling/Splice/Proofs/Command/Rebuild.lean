import Splice.Proofs.Project.Footprint

/-!
# Building again

A build that succeeds leaves an output that the next build finds up to date, and that a check
passes, as long as writing the output has not changed what stands at a path that the build looked
at.  Where the output is itself one of the files that it is built from, this can fail.
-/

namespace Splice

namespace Printed

variable (printed : Printed) (style : Style) (events : List Event) (text : String)

@[simp]
theorem out_complain : (printed.complain text).out = printed.out := rfl

@[simp]
theorem out_log : (printed.log style events).out = printed.out := rfl

end Printed

theorem FileTree.holds_iff {tree : FileTree} {path : Path} {text : String} :
    tree.holds path text = true ↔ tree.readText path = .ok text := by
  unfold holds
  split <;> simp_all

namespace Invocation

variable {invocation : Invocation} {surroundings : Surroundings} {entries : List String}
  {output : Option Path} {tree : FileTree} {project : Project} {path : Path}
  {resolution : Resolution} {events : List Event}

/-- What has been printed when a project has been loaded. -/
def introduction (invocation : Invocation) (surroundings : Surroundings) (project : Project) :
    Printed :=
  let printed := Printed.log {} (invocation.style surroundings) project.environment.log
  if invocation.verbose then printed.complain (describe project) else printed

theorem out_introduction : (invocation.introduction surroundings project).out = "" := by
  unfold introduction
  split <;> rfl

theorem withProject_eq
    (loaded : invocation.loadProject surroundings entries output tree = .ok project)
    (next : Project → Printed → Performed) :
    invocation.withProject surroundings entries output tree next =
      next project (invocation.introduction surroundings project) := by
  unfold withProject introduction
  extract_lets style printed reported
  rw [loaded]

/-- Which project is loaded does not depend on the command. -/
theorem loadProject_command (command : Option Command)
    (loaded : invocation.loadProject surroundings entries output tree = .ok project) :
    { invocation with command }.loadProject surroundings entries output tree = .ok project := by
  obtain ⟨config, log, base, configured, made, whole⟩ := loadProject_ok.mp loaded
  exact loadProject_ok.mpr ⟨config, log, base, configured, made, whole⟩

/-! ## The first build -/

theorem build_ok {watch : Bool} (command : invocation.command = some (.build entries output watch))
    (loaded : invocation.loadProject surroundings entries output tree = .ok project)
    (target : project.output = some path)
    (succeeded : (invocation.run surroundings tree).status = 0) :
    ∃ resolution events written, project.resolve = .ok (resolution, events) ∧
      resolution.writeTo tree path = .ok written ∧
      (invocation.run surroundings tree).tree = written.getD tree := by
  rw [run, command] at succeeded ⊢
  simp only [runBuild, withProject_eq loaded, withResolution, target] at succeeded ⊢
  cases resolved : project.resolve with
  | error stop => simp [resolved] at succeeded
  | ok outcome =>
      obtain ⟨resolution, events⟩ := outcome
      cases wrote : resolution.writeTo tree path with
      | error failure => simp [resolved, wrote] at succeeded
      | ok written =>
          refine ⟨resolution, events, written, rfl, wrote, ?_⟩
          cases written with
          | none => simp [wrote]
          | some after => simp [wrote]

/-! ## The next commands -/

section Held

variable (loaded : invocation.loadProject surroundings entries output tree = .ok project)
  (target : project.output = some path) (resolved : project.resolve = .ok (resolution, events))
  (held : tree.holds path resolution.concatenate = true)

include loaded target resolved held

theorem build_upToDate {watch : Bool}
    (command : invocation.command = some (.build entries output watch)) :
    (invocation.run surroundings tree).status = 0 ∧
      (invocation.run surroundings tree).tree = tree ∧
      (invocation.run surroundings tree).printed.out = "" ∧
      ∃ said, (invocation.run surroundings tree).printed.err =
        said ++ (path.shownIn project.environment.root ++ " is already up to date.\n") := by
  have kept : resolution.writeTo tree path = .ok none := if_pos held
  rw [run, command]
  simp only [runBuild, withProject_eq loaded, withResolution, target, resolved, kept]
  refine ⟨trivial, trivial, ?_, _, rfl⟩
  split <;> simp [out_introduction]

theorem check_passes {diff : Bool}
    (command : invocation.command = some (.check entries output diff)) :
    (invocation.run surroundings tree).status = 0 ∧
      (invocation.run surroundings tree).tree = tree ∧
      (invocation.run surroundings tree).printed.out =
        "Check passed: " ++ path.shownIn project.environment.root ++ " is up to date.\n" := by
  rw [run, command]
  simp only [runCheck, withProject_eq loaded, withResolution, target, resolved,
    FileTree.holds_iff.mp held, if_true]
  simp [Printed.print, out_introduction]

end Held

/-! ## Building twice -/

/-- One round of a build with an output has succeeded, be it of one that goes on to watch for
changes, and at every path that it looked at the same stands afterwards as before.  Then the next
round finds the output up to date and changes nothing, and a check with the same arguments
passes. -/
theorem build_again {before : FileTree} {watch : Bool}
    (command : invocation.command = some (.build entries output watch)) (named : before.Named)
    (loaded : invocation.loadProject surroundings entries output before = .ok project)
    (target : project.output = some path)
    (succeeded : (invocation.run surroundings before).status = 0)
    (unchanged : ∀ consulted, project.Consults before surroundings.workingDirectory
      (invocation.root surroundings) consulted →
      before.SameAt (invocation.run surroundings before).tree
        (surroundings.workingDirectory.join consulted)) :
    let after := (invocation.run surroundings before).tree
    let again := invocation.run surroundings after
    let shown := path.shownIn project.environment.root
    (again.status = 0 ∧ again.tree = after ∧ again.printed.out = "" ∧
      ∃ said, again.printed.err = said ++ (shown ++ " is already up to date.\n")) ∧
    ∀ diff,
      let checked := { invocation with command := some (.check entries output diff) }.run
        surroundings after
      checked.status = 0 ∧ checked.tree = after ∧
        checked.printed.out = "Check passed: " ++ shown ++ " is up to date.\n" := by
  intro after again shown
  obtain ⟨resolution, events, written, resolved, wrote, left⟩ :=
    build_ok command loaded target succeeded
  obtain ⟨grown, held⟩ := Resolution.writeTo_ok wrote
  rw [← left] at grown held
  obtain ⟨next, reloads, reloaded⟩ := loadProject_again loaded named grown unchanged
  have resolves := Project.resolve_again (files_of_loadProject loaded) reloaded unchanged grown
    resolved
  have aimed : next.output = some path := reloaded.output.trans target
  have shown_eq : shown = path.shownIn next.environment.root := by rw [reloaded.root]
  rw [shown_eq]
  refine ⟨build_upToDate reloads aimed resolves held command, fun diff => ?_⟩
  exact check_passes (loadProject_command _ reloads) aimed resolves held rfl

/-- A file and another one that it requires. -/
def siblings : FileTree :=
  (FileTree.empty.plant ["w", "a.js"] (.file (.text "//= require <b>\na();\n"))).plant
    ["w", "b.js"] (.file (.text "b();\n"))

/-- Their directory. -/
def here : Surroundings := ⟨⟨"/w"⟩, false, none⟩

/-- Building the first one. -/
def buildTo (output : Path) : Invocation :=
  ⟨none, false, true, [], false, none, some (.build ["a"] (some output) false)⟩

/-- Checking the first one. -/
def checkOf (output : Path) : Invocation :=
  { buildTo output with command := some (.check ["a"] (some output) false) }

/-- The files after a build whose output goes to a directory of its own. -/
def separate : FileTree := siblings.plant ["w", "dist", "out.js"] (.file (.text "b();\na();\n"))

/-- Writing to a directory of its own leaves alone all that the build looked at. -/
theorem siblings_unchanged {project : Project}
    (viewed : project.environment.files = siblings.view here.workingDirectory)
    (sources : project.sourceFiles = ["a"])
    (loadPath : project.environment.loadPath = ⟨[.ofPath ⟨"/w"⟩]⟩)
    (options : project.environment.options = {}) {path : Path}
    (consulted : project.Consults siblings here.workingDirectory ⟨"/w"⟩ path) :
    siblings.SameAt separate (here.workingDirectory.join path) := by
  have listed : Project.References siblings ["a", "b"] := by
    unfold Project.References
    decide +kernel
  have configuration : ∀ path ∈ Config.looked siblings ⟨"/w"⟩ ⟨"/w"⟩,
      siblings.SameAt separate (Path.join ⟨"/w"⟩ path) := by
    decide +kernel
  have places : ∀ reference ∈ ["a", "b"], ∀ path ∈ (siblings.view ⟨"/w"⟩).tried
      (Session.start.probes (.ofRoot (siblings.view ⟨"/w"⟩) ⟨"/w"⟩) reference),
      siblings.SameAt separate (Path.join ⟨"/w"⟩ path) := by
    decide +kernel
  rcases consulted.of_references viewed listed (by simp [sources]) with
    looked | ⟨base, member, rfl⟩ | ⟨reference, inside, tried⟩ | ⟨item, stands⟩
  · exact configuration path looked
  · rw [loadPath] at member
    obtain rfl := List.mem_singleton.mp member
    rw [options]
    decide +kernel
  · have roots : project.environment.loadPath =
        (Environment.ofRoot (siblings.view ⟨"/w"⟩) ⟨"/w"⟩).loadPath := by
      rw [loadPath]
      decide +kernel
    have extension : project.environment.options.extension =
        (Environment.ofRoot (siblings.view ⟨"/w"⟩) ⟨"/w"⟩).options.extension := by
      rw [options]
      rfl
    rw [viewed, Session.probes_eq _ roots extension] at tried
    exact places reference inside path tried
  · have again : separate.find (here.workingDirectory.join path) = .ok item :=
      FileTree.find_of_items (by decide +kernel) stands
    rw [FileTree.SameAt, again, stands]

theorem siblings_build_again :
    ((buildTo ⟨"dist/out.js"⟩).run here siblings).tree = separate ∧
    ((buildTo ⟨"dist/out.js"⟩).run here separate).status = 0 ∧
    ((buildTo ⟨"dist/out.js"⟩).run here separate).tree = separate ∧
    ((checkOf ⟨"dist/out.js"⟩).run here separate).status = 0 := by
  have built : ((buildTo ⟨"dist/out.js"⟩).run here siblings).status = 0 ∧
      ((buildTo ⟨"dist/out.js"⟩).run here siblings).tree = separate := by
    decide +kernel
  have evaluated : ((buildTo ⟨"dist/out.js"⟩).loadProject here ["a"] (some ⟨"dist/out.js"⟩)
      siblings).toOption.map (fun project => (project.output, project.sourceFiles,
        project.environment.loadPath, project.environment.options)) =
      some (some ⟨"/w/dist/out.js"⟩, ["a"], ⟨[.ofPath ⟨"/w"⟩]⟩, {}) := by
    decide +kernel
  have named : siblings.Named := by
    unfold FileTree.Named FileTree.Spelled Path.Component.IsInner
    decide +kernel
  obtain ⟨project, found, facts⟩ := Option.map_eq_some_iff.mp evaluated
  obtain ⟨target, sources, loadPath, options⟩ : project.output = _ ∧ project.sourceFiles = _ ∧
      project.environment.loadPath = _ ∧ project.environment.options = _ := by
    simpa only [Prod.mk.injEq] using facts
  have loaded := ok_of_toOption found
  have viewed := files_of_loadProject loaded
  obtain ⟨⟨status, same, _⟩, checked⟩ := build_again rfl named loaded target built.1 fun path => by
    rw [built.2]
    exact siblings_unchanged viewed sources loadPath options
  rw [built.2] at status same checked
  exact ⟨built.2, status, same, (checked false).1⟩

/-- The output takes the place of the required file, so the next build finds another file there: it
writes again, and a check fails. -/
theorem siblings_not_again :
    ((buildTo ⟨"b.js"⟩).run here siblings).status = 0 ∧
    ((buildTo ⟨"b.js"⟩).run here ((buildTo ⟨"b.js"⟩).run here siblings).tree).printed.err =
      "Stitched 2 file(s) into b.js\n" ∧
    ((buildTo ⟨"b.js"⟩).run here ((buildTo ⟨"b.js"⟩).run here siblings).tree).tree ≠
      ((buildTo ⟨"b.js"⟩).run here siblings).tree ∧
    ((checkOf ⟨"b.js"⟩).run here ((buildTo ⟨"b.js"⟩).run here siblings).tree).status = 1 := by
  decide +kernel

end Invocation

end Splice
