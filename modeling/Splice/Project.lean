import Splice.Config
import Splice.Session

/-!
# Projects

A project is an environment with its entries and the place of its result.  Its result is the text of
one session over all entries.
-/

namespace Splice

/-- A project that is ready to be built. -/
structure Project where
  /-- The setting that the entries are resolved in. -/
  environment : Environment
  /-- The entries, in order. -/
  sourceFiles : List String
  /-- Where the result goes. -/
  output : Option Path
  /-- The configuration file, if there is one. -/
  configPath : Option Path

/-- Why something stopped, and what was reported until then. -/
structure Stop where
  /-- The cause. -/
  failure : Failure
  /-- The reports, oldest first. -/
  log : List Event

namespace Project

/-- The project at a root with given settings.  `log` is what has been reported before. -/
def ofConfig (tree : FileTree) (workingDirectory root : Path) (config : Config)
    (log : List Event) : Except Stop Project :=
  match Environment.create (tree.view workingDirectory) workingDirectory root with
  | .error failure => .error ⟨failure, log⟩
  | .ok environment =>
    let environment := ({ environment with log := log ++ environment.log }.withOptions
      config.options).withLoadPath config.loadPath
    match config.constantsMapping with
    | .error failure => .error ⟨failure, environment.log⟩
    | .ok constants => .ok {
        environment := environment.withConstants constants
        sourceFiles := config.sourceFiles
        output := config.output.map environment.root.path.join
        configPath := Config.path? tree workingDirectory root }

/-- The project at a root with the settings of its configuration file. -/
def load (tree : FileTree) (workingDirectory root : Path) : Except Stop Project :=
  match Config.load tree workingDirectory root with
  | .error failure => .error ⟨failure, []⟩
  | .ok (config, log) => ofConfig tree workingDirectory root config log

/-- The outcome of one session over all entries, and what it reported. -/
def resolve (project : Project) : Except Stop (Resolution × List Event) :=
  if project.sourceFiles = [] then .error ⟨.noSourceFiles, []⟩
  else
    match Session.start.requireAll project.environment project.sourceFiles with
    | .ok session => .ok (session.resolution, session.trace)
    | .error halt => .error ⟨halt.failure, halt.session.trace⟩

end Project

/-- Writes the output of a resolution to the file at an absolute path, with the directories on the
way.  There is no new tree if the file holds that text already. -/
def Resolution.writeTo (resolution : Resolution) (tree : FileTree) (path : Path) :
    Except Failure (Option FileTree) :=
  let text := resolution.concatenate
  if tree.holds path text then .ok none
  else
    match tree.makeDirectories (path.components.dropLast.reverse) with
    | .error cause => .error (.unusable cause)
    | .ok tree =>
      match tree.write path text with
      | .error cause => .error (.unusable cause)
      | .ok tree => .ok (some tree)

end Splice
