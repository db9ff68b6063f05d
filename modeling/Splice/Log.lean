import Splice.Files.Basic
import Splice.Json.Text

/-!
# Log

What happens along the way that a user may want to see, and how it is worded.
-/

namespace Splice

/-- Why a constants resource is ignored. -/
inductive ResourceError where
  /-- The resource cannot be read. -/
  | unreadable (cause : FileError)
  /-- The resource is no YAML document. -/
  | malformed
  /-- The resource holds something other than a mapping. -/
  | notMapping (value : Json)

/-- The wording of a resource error. -/
def ResourceError.message : ResourceError → String
  | unreadable cause => cause.message
  | malformed => "not a YAML document"
  | notMapping value => "expected a mapping, found " ++ "`" ++ value.compact ++ "`"

/-- How much a message matters. -/
inductive Level where
  | error
  | warn
  | info
  | debug
  | trace
deriving DecidableEq, Repr

/-- The greater, the more is shown. -/
def Level.rank : Level → Nat
  | error => 1
  | warn => 2
  | info => 3
  | debug => 4
  | trace => 5

/-- Something that happened during a build. -/
inductive Event where
  /-- A root joined the load path. -/
  | registeredRoot (root : Path)
  /-- A root of the load path cannot be listed. -/
  | skippedRoot (root : Path)
  /-- The constants of a resource are left out. -/
  | ignoredConstants (path : Path) (cause : ResourceError)
  /-- A name was given to a location. -/
  | registeredAlias (name : String) (location : Path)
  /-- A file is being read for the first time. -/
  | including (file : Path)
  /-- A file was asked for again. -/
  | alreadyIncluded (file : Path)
  /-- A file was asked for while it is being read. -/
  | skippedCycle (file : Path)
  /-- The configuration was read. -/
  | loadedConfig (path : Path)
  /-- The result was written. -/
  | wroteBundle (path : Path) (files : Nat)

namespace Event

/-- The level of an event. -/
def level : Event → Level
  | ignoredConstants .. => .warn
  | alreadyIncluded .. => .trace
  | _ => .debug

/-- The wording of an event. -/
def message : Event → String
  | registeredRoot _ => "registered load location"
  | skippedRoot _ => "skipping unreadable load location"
  | ignoredConstants path cause =>
    "failed to load constants from `" ++ path.text ++ "`: " ++ cause.message
      ++ "; ignoring its constants"
  | registeredAlias .. => "registered alias"
  | including _ => "including"
  | alreadyIncluded _ => "already included"
  | skippedCycle _ => "skipping circular require"
  | loadedConfig _ => "loaded config"
  | wroteBundle .. => "wrote concatenation"

/-- The part of the program that an event comes from, as filters name it. -/
def scope : Event → String
  | registeredRoot _ => "stitch_core::load_path"
  | skippedRoot _ | ignoredConstants .. => "stitch_core::constants"
  | registeredAlias .. => "stitch_core::alias"
  | including _ | alreadyIncluded _ | skippedCycle _ => "stitch_core::resolver"
  | loadedConfig _ => "stitch_core::config"
  | wroteBundle .. => "stitch_core::concatenation"

/-- The details of an event, by name. -/
def details : Event → List (String × String)
  | registeredRoot root | skippedRoot root => [("root", root.text)]
  | ignoredConstants .. => []
  | registeredAlias name location => [("alias", name), ("location", location.text)]
  | including file | alreadyIncluded file | skippedCycle file => [("file", file.text)]
  | loadedConfig path => [("path", path.text)]
  | wroteBundle path files => [("path", path.text), ("files", toString files)]

/-- The warning of an event that is one. -/
def warning? (event : Event) : Option String :=
  if event.level = .warn then some event.message else none

end Event

end Splice
