import Splice.Command.Arguments
import Splice.Diff.Lines
import Splice.Log.Format
import Splice.Project

/-!
# Reports

What a command prints, apart from the texts of the result itself.
-/

namespace Splice

/-- How a command prints. -/
structure Style where
  /-- Whether colours are on. -/
  colours : Bool
  /-- Which events are shown. -/
  filter : LogFilter

/-- What a command has printed. -/
structure Printed where
  /-- On standard output. -/
  out : String := ""
  /-- On standard error. -/
  err : String := ""
deriving DecidableEq, Repr

namespace Printed

/-- Prints a text on standard output. -/
def print (printed : Printed) (text : String) : Printed := { printed with out := printed.out ++ text }

/-- Prints a text on standard error. -/
def complain (printed : Printed) (text : String) : Printed :=
  { printed with err := printed.err ++ text }

/-- Prints the events that are shown. -/
def log (printed : Printed) (style : Style) (events : List Event) : Printed :=
  printed.complain (Event.lines style.filter style.colours events)

end Printed

/-- Why a command stops. -/
inductive Trouble where
  /-- The build fails. -/
  | failure (cause : Failure)
  /-- Nothing says which file to check. -/
  | noOutput
  /-- A file cannot be used. -/
  | file (cause : FileError)
deriving DecidableEq, Repr

namespace Style

/-- A heading. -/
def bold (style : Style) (text : String) : String := paint style.colours "1" "0" text

/-- Something bad. -/
def red (style : Style) (text : String) : String := paint style.colours "31" "39" text

/-- Something good. -/
def green (style : Style) (text : String) : String := paint style.colours "32" "39" text

/-- What is printed about a failure: its code, its wording and advice. -/
def failure (style : Style) (cause : Failure) : String :=
  let mark := if style.colours then "×" else "x"
  let advice := match cause.help? with
    | some help => paint style.colours "36" "0" "  help: " ++ help ++ "\n"
    | none => ""
  paint style.colours "31" "0" cause.code ++ "\n\n  " ++ paint style.colours "31" "0" mark ++ " "
    ++ cause.message ++ "\n" ++ advice ++ "\n"

/-- What is printed about trouble. -/
def trouble (style : Style) : Trouble → String
  | .failure cause => style.failure cause
  | .noOutput =>
    style.red "error:" ++ " no output file to check; set `output` in stitch.toml or pass --output\n"
  | .file cause => style.red "error:" ++ " " ++ cause.message ++ "\n"

/-- A line of a diff. -/
def change (style : Style) (change : Diff.Change) : String :=
  match change.action with
  | .delete => "  " ++ style.red ("-" ++ change.terminated)
  | .insert => "  " ++ style.green ("+" ++ change.terminated)
  | .keep => "   " ++ change.terminated

/-- The diff of two texts. -/
def diff (style : Style) (old new : String) : String :=
  String.join ((Diff.between old new).map style.change)

end Style

/-- A path as it is shown in a project: relative to the root if it lies under it. -/
def Path.shownIn (path root : Path) : String := ((path.relativeTo? root).getD path).text

namespace Resolution

/-- The files, one on a line. -/
def fileLines (resolution : Resolution) (root : Path) : String :=
  String.join (resolution.paths.map fun path => "  " ++ path.shownIn root ++ "\n")

/-- The line of a declared location. -/
def assetLine (root : Path) (asset : Asset) : String :=
  let label := match asset.label with
    | some name => " as " ++ name
    | none => ""
  "  " ++ asset.path.shownIn root ++ label ++ " (" ++ asset.declaredIn.shownIn root ++ ":"
    ++ toString asset.line ++ ")\n"

/-- The files and the declared locations, for people. -/
def listText (resolution : Resolution) (style : Style) (root : Path) : String :=
  let provided :=
    if resolution.provided = [] then ""
    else "\n" ++ style.bold "Provided:" ++ "\n"
      ++ String.join (resolution.provided.map (assetLine root))
  style.bold "Files:" ++ "\n" ++ resolution.fileLines root ++ provided ++ "\n"
    ++ toString resolution.sources.length ++ " file(s), "
    ++ toString resolution.provided.length ++ " provided asset(s)\n"

/-- A declared location as a value. -/
def assetValue (root : Path) (asset : Asset) : Json :=
  .ofFields [
    ("path", .text (asset.path.shownIn root)),
    ("alias", match asset.label with
      | some name => .text name
      | none => .null),
    ("declared_in", .text (asset.declaredIn.shownIn root)),
    ("line", .whole asset.line)]

/-- The files and the declared locations, for programs. -/
def listJson (resolution : Resolution) (root : Path) : String :=
  (Json.ofFields [
    ("files", .array (resolution.paths.map fun path => .text (path.shownIn root))),
    ("provided", .array (resolution.provided.map (assetValue root)))]).compact ++ "\n"

end Resolution

end Splice
