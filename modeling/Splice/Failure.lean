import Splice.Files.Basic

/-!
# Failures

Why a build stops: one constructor for each cause, its wording, its code and the advice that goes
with it.
-/

namespace Splice

/-- Why a configuration is refused. -/
inductive ConfigError where
  /-- The text is no configuration. -/
  | malformed
  /-- A constant holds a number that is not finite, spelled as given. -/
  | notFinite (constant : String) (number : String)
deriving DecidableEq, Repr

/-- Why a build stops. -/
inductive Failure where
  /-- A file or directory cannot be used. -/
  | unusable (cause : FileError)
  /-- A placeholder has no value. -/
  | undefinedConstant (expression : String) (file : Path) (line : Nat)
  /-- A reference leads nowhere; without an origin it is an entry. -/
  | fileNotFound (reference : String) (origin : Option (Path × Nat))
  /-- A located file cannot be read. -/
  | readSource (path : Path) (cause : FileError)
  /-- Files require each other in a circle. -/
  | circularRequire (chain : List Path)
  /-- There is nothing to build. -/
  | noSourceFiles
  /-- The configuration is refused. -/
  | config (cause : ConfigError)
  /-- Requires are nested deeper than there are files. -/
  | depthLimit
deriving DecidableEq, Repr

namespace Failure

/-- Where a reference stands, as part of a message. -/
def describeOrigin : Option (Path × Nat) → String
  | some (file, line) => " in line " ++ toString line ++ " of " ++ file.text
  | none => ""

/-- The wording of a failure. -/
def message : Failure → String
  | unusable cause => cause.message
  | undefinedConstant expression file line =>
    "couldn't find constant `" ++ expression ++ "` in line " ++ toString line ++ " of " ++ file.text
  | fileNotFound reference origin =>
    "can't find file for `" ++ reference ++ "`" ++ describeOrigin origin
  | readSource path cause =>
    "failed to read source file `" ++ path.text ++ "`: " ++ cause.message
  | circularRequire chain =>
    "circular require detected: " ++ " -> ".intercalate (chain.map Path.text)
  | noSourceFiles => "no source files to build"
  | config .malformed => "failed to parse config file: not a configuration"
  | config (.notFinite constant number) =>
    "failed to parse config file: constant `" ++ constant ++ "` is not a finite number: " ++ number
  | depthLimit => "requires are nested too deeply"

/-- The code that identifies the kind of a failure. -/
def code : Failure → String
  | unusable _ => "stitch::io_error"
  | undefinedConstant .. => "stitch::undefined_constant"
  | fileNotFound .. => "stitch::file_not_found"
  | readSource .. => "stitch::read_source"
  | circularRequire _ => "stitch::circular_require"
  | noSourceFiles => "stitch::no_source_files"
  | config _ => "stitch::config_parse"
  | depthLimit => "stitch::depth_limit"

/-- Advice on a failure. -/
def help? : Failure → Option String
  | unusable _ | depthLimit => none
  | undefinedConstant expression .. =>
    some ("define `" ++ expression ++ "` in a `constants.yml` on the load path or under [constants] in stitch.toml")
  | fileNotFound .. =>
    some "check the spelling of the reference or add its directory to the load path"
  | readSource .. => some "check that the path names a readable file and not a directory"
  | circularRequire _ =>
    some "remove one of the requires or set `cycles = \"tolerate\"` in stitch.toml"
  | noSourceFiles =>
    some "pass entry files on the command line or set `source_files` in stitch.toml"
  | config _ =>
    some "check that stitch.toml is valid TOML with `load_path`, `source_files` and [constants]"

end Failure

end Splice
