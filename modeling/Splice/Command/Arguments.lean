import Splice.Config

/-!
# Arguments

The command line: a command, its entries, and options that stand before or after the command.  What
is given after the command wins over what is given before it.
-/

namespace Splice

/-- What can be done. -/
inductive Verb where
  | init
  | build
  | list
  | check
deriving DecidableEq, Repr

namespace Verb

/-- The verb of a name. -/
def ofName? : String → Option Verb
  | "init" => some init
  | "build" => some build
  | "list" => some list
  | "check" => some check
  | _ => none

/-- Whether entries can follow. -/
def takesEntries : Verb → Bool
  | init => false
  | _ => true

end Verb

/-- An option of the command line. -/
inductive Flag where
  | path
  | verbose
  | noColor
  | loadPath
  | noStripComments
  | cycles
  | output
  | watch
  | format
  | diff
  | help
  | version
deriving DecidableEq, Repr

namespace Flag

/-- The long spelling of an option. -/
def long : Flag → String
  | path => "path"
  | verbose => "verbose"
  | noColor => "no-color"
  | loadPath => "load-path"
  | noStripComments => "no-strip-comments"
  | cycles => "cycles"
  | output => "output"
  | watch => "watch"
  | format => "format"
  | diff => "diff"
  | help => "help"
  | version => "version"

/-- The short spelling of an option. -/
def short? : Flag → Option Char
  | path => some 'p'
  | verbose => some 'v'
  | loadPath => some 'I'
  | output => some 'o'
  | help => some 'h'
  | version => some 'V'
  | _ => none

/-- What the value of an option is called, if it takes one. -/
def valueName? : Flag → Option String
  | path => some "PATH"
  | loadPath => some "DIR"
  | cycles => some "CYCLES"
  | output => some "OUTPUT"
  | format => some "FORMAT"
  | _ => none

/-- How messages show an option. -/
def shown (flag : Flag) : String :=
  match flag.valueName? with
  | some name => "--" ++ flag.long ++ " <" ++ name ++ ">"
  | none => "--" ++ flag.long

/-- Whether an option can be given more than once. -/
def isRepeatable (flag : Flag) : Bool := flag = loadPath

/-- The options that go with every command. -/
def shared : List Flag := [path, verbose, noColor, loadPath, noStripComments, cycles, help]

/-- The options that can stand after a verb, or before all. -/
def allowed : Option Verb → List Flag
  | none => version :: shared
  | some .init => shared
  | some .build => output :: watch :: shared
  | some .list => format :: shared
  | some .check => output :: diff :: shared

end Flag

/-- Why a command line is refused. -/
inductive UsageError where
  | unexpectedArgument (text : String)
  | unrecognizedVerb (text : String)
  | invalidValue (text : String) (flag : Flag)
  | missingValue (flag : Flag)
  | repeated (flag : Flag)
  | unexpectedValue (text : String) (flag : Flag)
deriving DecidableEq, Repr

/-- The wording of a refusal. -/
def UsageError.message : UsageError → String
  | unexpectedArgument text => "unexpected argument '" ++ text ++ "' found"
  | unrecognizedVerb text => "unrecognized subcommand '" ++ text ++ "'"
  | invalidValue text flag => "invalid value '" ++ text ++ "' for '" ++ flag.shown ++ "'"
  | missingValue flag => "a value is required for '" ++ flag.shown ++ "' but none was supplied"
  | repeated flag => "the argument '" ++ flag.shown ++ "' cannot be used multiple times"
  | unexpectedValue text flag =>
    "unexpected value '" ++ text ++ "' for '" ++ flag.shown ++ "' found; no more were expected"

/-- Why a command line names nothing to do. -/
inductive Exit where
  | help
  | version
  | refused (cause : UsageError)
deriving DecidableEq, Repr

/-- How a list is printed. -/
inductive ListFormat where
  | text
  | json
deriving DecidableEq, Repr

/-- The format of a name. -/
def ListFormat.ofName? : String → Option ListFormat
  | "text" => some text
  | "json" => some json
  | _ => none

/-! ## Reading -/

/-- The arguments of one verb, or those before all verbs. -/
structure Arguments where
  /-- The options with their values, which are empty for those that take none. -/
  given : List (Flag × String) := []
  /-- The entries. -/
  entries : List String := []
  /-- The last option that takes a value, until its value is looked at. -/
  pending : Option (Flag × Option String) := none
  /-- Whether the next argument may be the value of the pending option. -/
  isWaiting : Bool := false
  /-- Whether only entries follow. -/
  isTrailing : Bool := false
deriving DecidableEq, Repr

namespace Arguments

/-- The first value of an option. -/
def value? (arguments : Arguments) (flag : Flag) : Option String := arguments.given.lookup flag

/-- All values of an option. -/
def values (arguments : Arguments) (flag : Flag) : List String :=
  (arguments.given.filter (·.1 = flag)).map (·.2)

/-- Whether an option is given. -/
def has (arguments : Arguments) (flag : Flag) : Bool := (arguments.value? flag).isSome

/-- Whether a value suits an option. -/
def isSuitable (flag : Flag) (value : String) : Bool :=
  match flag with
  | .cycles => (CyclePolicy.ofName? value).isSome
  | .format => (ListFormat.ofName? value).isSome
  | _ => true

/-- Takes an option with its value. -/
def accept (arguments : Arguments) (flag : Flag) (value : Option String) :
    Except Exit Arguments :=
  let taken (value : String) : Arguments :=
    { arguments with given := arguments.given ++ [(flag, value)], isWaiting := false }
  let isRepeated := arguments.has flag && !flag.isRepeatable
  if flag.valueName?.isSome then
    match value with
    | none => .error (.refused (.missingValue flag))
    | some value =>
      if isRepeated then .error (.refused (.repeated flag))
      else if value = "" then .error (.refused (.missingValue flag))
      else if isSuitable flag value then .ok (taken value)
      else .error (.refused (.invalidValue value flag))
  else if isRepeated then .error (.refused (.repeated flag))
  else .ok (taken "")

/-- Looks at the value of the pending option. -/
def settle (arguments : Arguments) : Except Exit Arguments :=
  match arguments.pending with
  | none => .ok arguments
  | some (flag, value) => { arguments with pending := none }.accept flag value

/-- Takes an option that has no value. -/
def raise (arguments : Arguments) (flag : Flag) : Except Exit Arguments := do
  let arguments ← arguments.settle
  match flag with
  | .help => .error .help
  | .version => .error .version
  | flag => arguments.accept flag none

/-- Takes an option whose value may be attached to it. -/
def begin (arguments : Arguments) (flag : Flag) (attached : Option (List Char)) :
    Except Exit Arguments := do
  let arguments ← arguments.settle
  match attached with
  | some value => arguments.accept flag (some (String.ofList value))
  | none => .ok { arguments with pending := some (flag, none), isWaiting := true }

/-- Reads an option in its long spelling, after the two hyphens. -/
def readLong (allowed : List Flag) (arguments : Arguments) (text : List Char) :
    Except Exit Arguments :=
  let name := text.takeWhile (· ≠ '=')
  let attached := (text.drop name.length).tail?
  match allowed.find? (·.long.toList = name) with
  | none => .error (.refused (.unexpectedArgument ("--" ++ String.ofList name)))
  | some flag =>
    if flag.valueName?.isSome then arguments.begin flag attached
    else
      match attached with
      | some value => .error (.refused (.unexpectedValue (String.ofList value) flag))
      | none => arguments.raise flag

/-- Reads options in their short spellings, after the hyphen. -/
def readShort (allowed : List Flag) (arguments : Arguments) : List Char → Except Exit Arguments
  | [] => .ok arguments
  | c :: rest =>
    match allowed.find? (·.short? = some c) with
    | none => .error (.refused (.unexpectedArgument (String.ofList ['-', c])))
    | some flag =>
      if flag.valueName?.isSome then
        arguments.begin flag
          (match rest with
          | [] => none
          | '=' :: value => some value
          | value => some value)
      else do
        let arguments ← arguments.raise flag
        readShort allowed arguments rest

/-- Takes an argument that is neither an option nor a verb. -/
def readEntry (verb : Option Verb) (arguments : Arguments) (text : String) :
    Except Exit Arguments :=
  match verb with
  | none =>
    if arguments.isTrailing && ((Verb.ofName? text).isSome || text = "help") then
      .error (.refused (.unexpectedArgument text))
    else .error (.refused (.unrecognizedVerb text))
  | some verb =>
    if verb.takesEntries then do
      let arguments ← arguments.settle
      .ok { arguments with entries := arguments.entries ++ [text] }
    else .error (.refused (.unexpectedArgument text))

/-- What a request for help on names comes to. -/
def readHelp : List String → Exit
  | [] => .help
  | name :: others =>
    if (Verb.ofName? name).isSome || name = "help" then
      match others with
      | [] => .help
      | other :: _ => .refused (.unrecognizedVerb other)
    else .refused (.unrecognizedVerb name)

/-- Reads arguments.  A verb ends those before it, whose last value is looked at after all
others. -/
def read (verb : Option Verb) (arguments : Arguments) :
    List String → Except Exit (Arguments × Option (Verb × Arguments))
  | [] => do
    let arguments ← arguments.settle
    .ok (arguments, none)
  | text :: rest =>
    if arguments.isTrailing then do
      let arguments ← arguments.readEntry verb text
      read verb arguments rest
    else
      match if verb.isNone && !arguments.isWaiting then Verb.ofName? text else none with
      | some found => do
        let (inner, _) ← read (some found) {} rest
        let arguments ← arguments.settle
        .ok (arguments, some (found, inner))
      | none =>
        if verb.isNone && !arguments.isWaiting && text = "help" then .error (readHelp rest)
        else
          match text.toList with
          | ['-', '-'] => read verb { arguments with isTrailing := true } rest
          | '-' :: '-' :: name => do
            let arguments ← arguments.readLong (Flag.allowed verb) name
            read verb arguments rest
          | '-' :: c :: others => do
            let arguments ← arguments.readShort (Flag.allowed verb) (c :: others)
            read verb arguments rest
          | _ =>
            if arguments.isWaiting then
              let pending := arguments.pending.map fun (flag, _) => (flag, some text)
              read verb { arguments with pending, isWaiting := false } rest
            else do
              let arguments ← arguments.readEntry verb text
              read verb arguments rest

end Arguments

/-! ## Commands -/

/-- What to do. -/
inductive Command where
  /-- Write a sample configuration. -/
  | init
  /-- Write the result. -/
  | build (entries : List String) (output : Option Path) (watch : Bool)
  /-- List the files of the result. -/
  | list (entries : List String) (format : ListFormat)
  /-- Compare the result with the file that holds it. -/
  | check (entries : List String) (output : Option Path) (diff : Bool)
deriving DecidableEq, Repr

/-- A command line that has been understood. -/
structure Invocation where
  /-- The root of the project; the working directory if absent. -/
  path : Option Path
  /-- Say more. -/
  verbose : Bool
  /-- Leave colours out. -/
  noColor : Bool
  /-- Locations to search before those of the configuration, lowest priority first. -/
  loadPath : List Path
  /-- Keep comments. -/
  noStripComments : Bool
  /-- What to do about circular requires. -/
  cycles : Option CyclePolicy
  /-- What to do. -/
  command : Option Command
deriving DecidableEq, Repr

namespace Invocation

/-- The command of a verb with its arguments. -/
def commandOf (verb : Verb) (arguments : Arguments) : Command :=
  let output := (arguments.value? .output).map Path.mk
  match verb with
  | .init => .init
  | .build => .build arguments.entries output (arguments.has .watch)
  | .list =>
    .list arguments.entries (((arguments.value? .format).bind ListFormat.ofName?).getD .text)
  | .check => .check arguments.entries output (arguments.has .diff)

/-- The invocation of arguments before the verb and of the verb with its own. -/
def ofArguments (outer : Arguments) (inner : Option (Verb × Arguments)) : Invocation :=
  let own := (inner.map (·.2)).getD {}
  let values (flag : Flag) := if own.has flag then own.values flag else outer.values flag
  let has (flag : Flag) := own.has flag || outer.has flag
  { path := (values .path).head?.map Path.mk
    verbose := has .verbose
    noColor := has .noColor
    loadPath := (values .loadPath).map Path.mk
    noStripComments := has .noStripComments
    cycles := (values .cycles).head?.bind CyclePolicy.ofName?
    command := inner.map fun (verb, arguments) => commandOf verb arguments }

/-- Reads a command line. -/
def parse (arguments : List String) : Except Exit Invocation := do
  let (outer, inner) ← Arguments.read none {} arguments
  return ofArguments outer inner

/-- The settings of a project with those of the command line in force.  Entries replace the
configured ones. -/
def override (invocation : Invocation) (entries : List String) (config : Config) : Config :=
  { config with
    loadPath := config.loadPath ++ invocation.loadPath
    stripComments := config.stripComments && !invocation.noStripComments
    cycles := invocation.cycles.getD config.cycles
    sourceFiles := if entries = [] then config.sourceFiles else entries }

end Invocation

end Splice
