import Splice.Constants
import Splice.Failure

/-!
# Environments

What all sessions of a project share: the root, the load path, the constants, the options and the
files.  Every change looks at the constants of all roots again.
-/

namespace Splice

/-- What to do about a file that requires one of the files that led to it. -/
inductive CyclePolicy where
  /-- Go on without it. -/
  | tolerate
  /-- Stop. -/
  | fail
deriving DecidableEq, Repr

/-- How files are found and rendered. -/
structure Options where
  /-- Leave line comments and documentation blocks out of the output. -/
  stripComments : Bool := true
  /-- What is appended to a reference that does not end with it. -/
  extension : Option String := some "js"
  /-- What to do about circular requires. -/
  cycles : CyclePolicy := .tolerate
  /-- The name of the constants resource under each root. -/
  constantsFile : String := "constants.yml"
deriving DecidableEq, Repr

/-- The setting of a project. -/
structure Environment where
  /-- The root of the project. -/
  root : Root
  /-- The roots that are searched. -/
  loadPath : LoadPath
  /-- The constants. -/
  pool : ConstantPool
  /-- The options. -/
  options : Options
  /-- Where files come from. -/
  files : Files
  /-- What has been reported so far, oldest first. -/
  log : List Event

namespace Environment

/-- Looks at the constants of all roots again. -/
def reload (environment : Environment) : Environment :=
  { environment with
    pool := environment.pool.reload environment.files environment.loadPath
    log := environment.log
      ++ Constants.events environment.files environment.pool.resource environment.loadPath }

/-- Puts a root in front of the load path. -/
def addRoot (environment : Environment) (root : Root) : Environment :=
  { environment with
    loadPath := environment.loadPath.register root
    log := environment.log ++ [.registeredRoot root] }

/-- The environment of a project whose root is at an absolute path. -/
def ofRoot (files : Files) (root : Path) : Environment :=
  let root : Root := .under root ⟨"."⟩
  let options : Options := {}
  let environment : Environment :=
    { root
      loadPath := .empty
      pool := .ofConfigured options.constantsFile .empty
      options
      files
      log := [] }
  (environment.addRoot root).reload

/-- The environment of a project seen from the working directory. -/
def create (files : Files) (workingDirectory root : Path) : Except Failure Environment :=
  if root.text = "" then .error (.unusable .emptyPath)
  else .ok (ofRoot files (workingDirectory.absolute root))

/-- The root that a location stands for in the project. -/
def rootOf (environment : Environment) (location : Path) : Root :=
  .under environment.root location

/-- Registers locations in turn, so that the last one has the highest priority. -/
def withLoadPath (environment : Environment) (locations : List Path) : Environment :=
  (locations.foldl (fun environment location => environment.addRoot (environment.rootOf location))
    environment).reload

/-- Replaces the constants of the configuration. -/
def withConstants (environment : Environment) (constants : Mapping Json) : Environment :=
  { environment with pool := .ofConfigured environment.options.constantsFile constants }.reload

/-- Replaces the options. -/
def withOptions (environment : Environment) (options : Options) : Environment :=
  { environment with
    options
    pool := .ofConfigured options.constantsFile environment.pool.configured }.reload

/-- Gives one location the highest priority. -/
def register (environment : Environment) (location : Path) : Environment :=
  (environment.addRoot (environment.rootOf location)).reload

/-- The constants in force. -/
def constants (environment : Environment) : Constants := environment.pool.merged

/-- The place of a location: an absolute one is used as it is, any other is searched. -/
def find? (environment : Environment) (location : Path) : Option Located :=
  if location.isAbsolute then
    if environment.files.has location then some (Located.ofPath location) else none
  else environment.loadPath.find? environment.files location

/-- Every place of a location on the load path, highest priority first. -/
def findAll (environment : Environment) (location : Path) : List Located :=
  environment.loadPath.findAll environment.files location

end Environment

end Splice
