import Splice.Environment
import Splice.Files.Tree
import Splice.Toml.Document

/-!
# Configurations

The settings of a project as its configuration file states them, and the options and constants that
follow from them.
-/

namespace Splice

/-- The settings of a project. -/
structure Config where
  /-- The locations that are searched, lowest priority first. -/
  loadPath : List Path := []
  /-- The entries, in order. -/
  sourceFiles : List String := []
  /-- Where the result goes; standard output if absent. -/
  output : Option Path := none
  /-- Leave comments out of the output. -/
  stripComments : Bool := true
  /-- What is appended to references, as written. -/
  extension : String := "js"
  /-- The name of the constants resource under each location. -/
  constantsFile : String := "constants.yml"
  /-- What to do about circular requires. -/
  cycles : CyclePolicy := .tolerate
  /-- The constants of the configuration. -/
  constants : Table Toml := []

/-- The policy of a name. -/
def CyclePolicy.ofName? : String → Option CyclePolicy
  | "tolerate" => some .tolerate
  | "fail" => some .fail
  | _ => none

/-- The name of a policy. -/
def CyclePolicy.name : CyclePolicy → String
  | tolerate => "tolerate"
  | fail => "fail"

namespace Toml

/-- The text that a value is. -/
def asString? : Toml → Option String
  | string value => some value
  | _ => none

/-- The truth value that a value is. -/
def asBoolean? : Toml → Option Bool
  | boolean value => some value
  | _ => none

/-- The texts of a list of them. -/
def asStrings? : Toml → Option (List String)
  | array items => items.mapM asString?
  | _ => none

/-- The policy that a value names: its name, or a table with nothing but that name and an empty
value. -/
def asCyclePolicy? : Toml → Option CyclePolicy
  | string value => CyclePolicy.ofName? value
  | table [(name, table [])] | table [(name, array [])] => CyclePolicy.ofName? name
  | _ => none

/-- The key under which a date or time alone stands in a table. -/
def dateTimeKey : String := "$__toml_private_datetime"

/-- The entries of a table.  A date or time counts as a table with its text. -/
def asEntries? : Toml → Option (Table Toml)
  | table entries => some entries
  | dateTime value => some [(dateTimeKey, string value.text)]
  | _ => none

/-- The spelling of a number that is not finite. -/
def notFiniteText : Binary64 → String
  | .infinity false => "inf"
  | .infinity true => "-inf"
  | _ => "NaN"

mutual

/-- The JSON value of a value.  Dates and times become text; there is none for a number that is not
finite, which is the error. -/
def toJson : Toml → Except Binary64 Json
  | string value => .ok (.text value)
  | integer value => .ok (.whole value)
  | float value => if value.isFinite then .ok (.double value) else .error value
  | boolean value => .ok (.bool value)
  | dateTime value => .ok (.text value.text)
  | array items => do
    let items ← toJsonItems items
    return .array items
  | table entries => do
    let fields ← toJsonFields entries
    return .object fields

/-- The JSON values of the items of an array. -/
def toJsonItems : List Toml → Except Binary64 (List Json)
  | [] => .ok []
  | item :: items => do
    let first ← toJson item
    let others ← toJsonItems items
    return first :: others

/-- The JSON values of the entries of a table. -/
def toJsonFields : List (String × Toml) → Except Binary64 (List (String × Json))
  | [] => .ok []
  | (name, value) :: entries => do
    let first ← toJson value
    let others ← toJsonFields entries
    return (name, first) :: others

end

end Toml

namespace Config

/-- The configuration with one field set.  There is none if the field is unknown or has a value of
another kind. -/
def setField? (config : Config) (name : String) (value : Toml) : Option Config :=
  match name with
  | "load_path" => value.asStrings?.map fun texts => { config with loadPath := texts.map Path.mk }
  | "source_files" => value.asStrings?.map fun texts => { config with sourceFiles := texts }
  | "output" => value.asString?.map fun text => { config with output := some ⟨text⟩ }
  | "strip_comments" => value.asBoolean?.map fun flag => { config with stripComments := flag }
  | "extension" => value.asString?.map fun text => { config with extension := text }
  | "constants_file" => value.asString?.map fun text => { config with constantsFile := text }
  | "cycles" => value.asCyclePolicy?.map fun policy => { config with cycles := policy }
  | "constants" => value.asEntries?.map fun entries => { config with constants := entries }
  | _ => none

/-- The configuration that a document describes. -/
def ofTable? (table : Table Toml) : Option Config :=
  table.foldlM (fun config (name, value) => config.setField? name value) {}

/-- Reads a configuration. -/
def parse (text : String) : Except Failure Config :=
  match (Toml.read? text).bind ofTable? with
  | some config => .ok config
  | none => .error (.config .malformed)

/-- The extension without surrounding blanks and leading points; none if nothing is left. -/
def normalExtension? (text : String) : Option String :=
  match (Text.trim text.toList).dropWhile (· = '.') with
  | [] => none
  | chars => some (String.ofList chars)

/-- The options that a configuration asks for. -/
def options (config : Config) : Options where
  stripComments := config.stripComments
  extension := normalExtension? config.extension
  cycles := config.cycles
  constantsFile := config.constantsFile

/-- The value of a constant. -/
def constantValue (name : String) (value : Toml) : Except Failure Json :=
  match value.toJson with
  | .ok json => .ok json
  | .error number => .error (.config (.notFinite name (Toml.notFiniteText number)))

/-- The constants of a configuration. -/
def constantsMapping (config : Config) : Except Failure Constants :=
  config.constants.mapM fun (name, value) => do
    let json ← constantValue name value
    return (name, json)

/-! ## Finding the file -/

/-- The places of the configuration file in a project, in order of preference. -/
def candidates : List Path := [⟨"stitch.toml"⟩, ⟨".stitch.toml"⟩, ⟨".config/stitch.toml"⟩]

/-- The configuration file of the project at a root. -/
def path? (tree : FileTree) (workingDirectory root : Path) : Option Path :=
  (candidates.map root.join).find? fun path => tree.isFile (workingDirectory.join path)

/-- Reads the configuration of the project at a root, and says where from.  Without a file the
settings are the default ones. -/
def load (tree : FileTree) (workingDirectory root : Path) : Except Failure (Config × List Event) :=
  match path? tree workingDirectory root with
  | none => .ok ({}, [])
  | some path =>
    match tree.readText (workingDirectory.join path) with
    | .error cause => .error (.unusable cause)
    | .ok text => do
      let config ← parse text
      return (config, [.loadedConfig path])

end Config

end Splice
