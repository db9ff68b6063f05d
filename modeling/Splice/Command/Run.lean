import Splice.Command.Report

/-!
# Running a command

A command maps the files that are there to the files that are there afterwards, an exit status and
what it prints.
-/

namespace Splice

/-- Where a command runs. -/
structure Surroundings where
  /-- The working directory, an absolute path. -/
  workingDirectory : Path
  /-- Whether the surroundings allow colours. -/
  allowsColours : Bool
  /-- The log filter that the surroundings ask for. -/
  logFilter : Option String

/-- What comes of a command. -/
structure Outcome where
  /-- The exit status. -/
  status : Nat
  /-- What was printed. -/
  printed : Printed
  /-- The files afterwards. -/
  tree : FileTree

/-- What a command has printed, and its exit status and the files afterwards unless it ran into
trouble. -/
abbrev Performed := Printed × Except Trouble (Nat × FileTree)

namespace Invocation

/-- How an invocation prints.  A filter that cannot be read is as good as none. -/
def style (invocation : Invocation) (surroundings : Surroundings) : Style where
  colours := surroundings.allowsColours && !invocation.noColor
  filter := (surroundings.logFilter.bind LogFilter.parse?).getD
    (LogFilter.ofLevel (if invocation.verbose then .debug else .warn))

/-- The root of the project. -/
def root (invocation : Invocation) (surroundings : Surroundings) : Path :=
  invocation.path.getD surroundings.workingDirectory

/-! ## Loading -/

/-- The project of an invocation with the command line in force. -/
def loadProject (invocation : Invocation) (surroundings : Surroundings) (entries : List String)
    (output : Option Path) (tree : FileTree) : Except Stop Project :=
  let root := invocation.root surroundings
  match Config.load tree surroundings.workingDirectory root with
  | .error failure => .error ⟨failure, []⟩
  | .ok (config, log) => do
    let config := invocation.override entries config
    let project ← Project.ofConfig tree surroundings.workingDirectory root config log
    match output with
    | some output =>
      return { project with output := some (surroundings.workingDirectory.absolute output) }
    | none => return project

/-- What is said about a project that has been loaded. -/
def describe (project : Project) : String :=
  let config := match project.configPath with
    | some path => "Loaded config: " ++ path.text ++ "\n"
    | none => ""
  config ++ "Load path:\n"
    ++ String.join (project.environment.loadPath.roots.map fun root => "  " ++ root.text ++ "\n")

/-- Loads the project and goes on with it. -/
def withProject (invocation : Invocation) (surroundings : Surroundings) (entries : List String)
    (output : Option Path) (tree : FileTree)
    (next : Project → Printed → Performed) :
    Performed :=
  let style := invocation.style surroundings
  let printed : Printed := {}
  match invocation.loadProject surroundings entries output tree with
  | .error stop => (printed.log style stop.log, .error (.failure stop.failure))
  | .ok project =>
    let printed := printed.log style project.environment.log
    next project (if invocation.verbose then printed.complain (describe project) else printed)

/-- Resolves a project and goes on with the outcome. -/
def withResolution (invocation : Invocation) (surroundings : Surroundings) (project : Project)
    (printed : Printed) (next : Resolution → Printed → Performed) :
    Performed :=
  let style := invocation.style surroundings
  match project.resolve with
  | .error stop => (printed.log style stop.log, .error (.failure stop.failure))
  | .ok (resolution, events) => next resolution (printed.log style events)

/-- The directories whose files a command may look at, as far as the files at hand tell: the root
and the locations of the load path. -/
def searched (invocation : Invocation) (surroundings : Surroundings) (tree : FileTree) :
    List Path :=
  let root := surroundings.workingDirectory.anchor (invocation.root surroundings)
  match invocation.loadProject surroundings [] none tree with
  | .ok project => root :: project.environment.loadPath.roots
  | .error _ => [root]

/-- The file that a command may write, as far as the files at hand tell. -/
def target? (invocation : Invocation) (surroundings : Surroundings) (tree : FileTree) :
    Option Path :=
  let output := match invocation.command with
    | some (.build _ output _) | some (.check _ output _) => output
    | _ => none
  match invocation.loadProject surroundings [] output tree with
  | .ok project => project.output
  | .error _ => none

/-! ## Commands -/

/-- The text of lines, each with its line feed. -/
def textOfLines (lines : List String) : String := String.join (lines.map (· ++ "\n"))

/-- The configuration that a project starts with. -/
def sampleConfig : String :=
  textOfLines [
    "# stitch configuration",
    "",
    "# Locations searched for required files, lowest priority first.",
    "load_path = [\"vendor\", \"src\"]",
    "",
    "# Entry files, concatenated in order.",
    "source_files = [\"application\"]",
    "",
    "# Where `stitch build` writes the result.",
    "output = \"dist/application.js\"",
    "",
    "# Drop `//` and `/** **/` comments from the output.",
    "strip_comments = true",
    "",
    "# Constants for `<%= NAME %>` placeholders. These override any constants.yml on the load path.",
    "[constants]",
    "# VERSION = \"1.0.0\""]

/-- What to do with a new configuration. -/
def nextSteps : String :=
  textOfLines [
    "",
    "Next steps:",
    "  1. Add directives to your entry file:",
    "     //= require <library>",
    "     //= require \"relative/to/this/file\"",
    "  2. Run `stitch build` to write the concatenation"]

/-- Writes a sample configuration unless there is one. -/
def runInit (invocation : Invocation) (surroundings : Surroundings) (tree : FileTree) :
    Performed :=
  let root := invocation.root surroundings
  let printed : Printed := {}
  match Config.path? tree surroundings.workingDirectory root with
  | some path => (printed.print ("Config file already exists: " ++ path.text ++ "\n"), .ok (0, tree))
  | none =>
    let path := root.join ⟨"stitch.toml"⟩
    match tree.write (surroundings.workingDirectory.join path) sampleConfig with
    | .error cause => (printed, .error (.file cause))
    | .ok tree => (printed.print ("Created " ++ path.text ++ "\n" ++ nextSteps), .ok (0, tree))

/-- Writes the result to its place. -/
def runBuild (invocation : Invocation) (surroundings : Surroundings) (entries : List String)
    (output : Option Path) (tree : FileTree) : Performed :=
  invocation.withProject surroundings entries output tree fun project printed =>
  invocation.withResolution surroundings project printed fun resolution printed =>
    let style := invocation.style surroundings
    let root := project.environment.root
    let count := toString resolution.sources.length
    let printed :=
      if invocation.verbose then
        printed.complain ("Resolved " ++ count ++ " file(s):\n" ++ resolution.fileLines root)
      else printed
    match project.output with
    | none => (printed.print resolution.concatenate, .ok (0, tree))
    | some path =>
      let shown := path.shownIn root
      match resolution.writeTo tree path with
      | .error failure => (printed, .error (.failure failure))
      | .ok none => (printed.complain (shown ++ " is already up to date.\n"), .ok (0, tree))
      | .ok (some tree) =>
        let printed := printed.log style [.wroteBundle path resolution.sources.length]
        (printed.complain (style.green "Stitched" ++ " " ++ count ++ " file(s) into " ++ shown ++ "\n"),
          .ok (0, tree))

/-- Lists the files of the result. -/
def runList (invocation : Invocation) (surroundings : Surroundings) (entries : List String)
    (format : ListFormat) (tree : FileTree) : Performed :=
  invocation.withProject surroundings entries none tree fun project printed =>
  invocation.withResolution surroundings project printed fun resolution printed =>
    let root := project.environment.root
    let text := match format with
      | .text => resolution.listText (invocation.style surroundings) root
      | .json => resolution.listJson root
    (printed.print text, .ok (0, tree))

/-- Compares the result with the file that holds it. -/
def runCheck (invocation : Invocation) (surroundings : Surroundings) (entries : List String)
    (output : Option Path) (diff : Bool) (tree : FileTree) :
    Performed :=
  invocation.withProject surroundings entries output tree fun project printed =>
    match project.output with
    | none => (printed, .error .noOutput)
    | some path =>
      invocation.withResolution surroundings project printed fun resolution printed =>
        let expected := resolution.concatenate
        let shown := path.shownIn project.environment.root
        match tree.readText path with
        | .error .missing =>
          (printed.complain ("Check failed: " ++ shown
            ++ " does not exist.\n\nRun `stitch build` to create it.\n"), .ok (1, tree))
        | .error cause => (printed, .error (.file cause))
        | .ok current =>
          if current = expected then
            (printed.print ("Check passed: " ++ shown ++ " is up to date.\n"), .ok (0, tree))
          else
            let changes :=
              if diff then "\n" ++ (invocation.style surroundings).diff current expected else ""
            (printed.complain ("Check failed: " ++ shown ++ " is out of date.\n" ++ changes
              ++ "\nRun `stitch build` to update it.\n"), .ok (1, tree))

/-- Whether an invocation asks to build again whenever files change. -/
def isWatching (invocation : Invocation) : Bool :=
  match invocation.command with
  | some (.build _ _ watch) => watch
  | _ => false

/-- Runs what an invocation asks for.  Of a build that watches for changes this is one round: what
comes after its result is written, the wait for a change and the next round, is not part of it. -/
def run (invocation : Invocation) (surroundings : Surroundings) (tree : FileTree) : Outcome :=
  let result : Performed := match invocation.command with
    | none =>
      (Printed.complain {} "No subcommand specified. Run `stitch --help` for usage.\n",
        .ok (1, tree))
    | some .init => invocation.runInit surroundings tree
    | some (.build entries output _) => invocation.runBuild surroundings entries output tree
    | some (.list entries format) => invocation.runList surroundings entries format tree
    | some (.check entries output diff) => invocation.runCheck surroundings entries output diff tree
  match result with
  | (printed, .ok (status, tree)) => ⟨status, printed, tree⟩
  | (printed, .error trouble) =>
    ⟨2, printed.complain ((invocation.style surroundings).trouble trouble), tree⟩

end Invocation

/-- A short help text. -/
def helpText : String :=
  Invocation.textOfLines [
    "Concatenate source files in dependency order.",
    "",
    "Usage: stitch [OPTIONS] [COMMAND]",
    "",
    "Commands:",
    "  init   Create a sample stitch.toml",
    "  build  Write the concatenation",
    "  list   Show the resolved file order",
    "  check  Verify the output is up to date"]

/-- Runs a command line. -/
def runCommand (surroundings : Surroundings) (arguments : List String) (tree : FileTree) : Outcome :=
  match Invocation.parse arguments with
  | .ok invocation => invocation.run surroundings tree
  | .error .help => ⟨0, Printed.print {} helpText, tree⟩
  | .error .version => ⟨0, Printed.print {} "stitch_cli 0.1.0\n", tree⟩
  | .error (.refused cause) =>
    ⟨2, Printed.complain {} ("error: " ++ cause.message
      ++ "\n\nFor more information, try '--help'.\n"), tree⟩

end Splice
