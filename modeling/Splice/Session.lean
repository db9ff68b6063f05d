import Splice.Environment
import Splice.Resolution
import Splice.Search.Aliases
import Splice.Source

/-!
# Sessions

A session follows the requires of its entries depth first.  A file is added after the files it
requires, and once only; names given to locations hold for all files that are read later.
-/

namespace Splice

/-- The state of a session. -/
structure Session where
  /-- The names given to locations. -/
  aliases : Aliases
  /-- The paths of the files that have been added. -/
  emitted : List Path
  /-- The paths of the files that are being read, the outermost first. -/
  inProgress : List Path
  /-- What has been gathered. -/
  resolution : Resolution
  /-- What has been reported, oldest first. -/
  trace : List Event

/-- Why and where a session stopped. -/
structure Halt where
  /-- The cause. -/
  failure : Failure
  /-- The state at that moment. -/
  session : Session

namespace Session

/-- A session before its first entry. -/
def start : Session := ⟨[], [], [], .empty, []⟩

/-- Reports an event. -/
def note (session : Session) (event : Event) : Session :=
  { session with trace := session.trace ++ [event] }

/-! ## Finding files -/

/-- The spellings tried for a reference, in order.  The extension is appended unless the reference
ends with it; a reference with another extension is also tried as written. -/
def candidates (options : Options) (reference : String) : List String :=
  match options.extension with
  | none => [reference]
  | some extension =>
    let ending := "." ++ extension
    if ending.toList.isSuffixOf reference.toList then [reference]
    else if (Path.extension? ⟨reference⟩).isSome then [reference ++ ending, reference]
    else [reference ++ ending]

/-- The place of a reference: an absolute one as it is, any other by alias and then on the load
path.  An alias may also be written without the extension. -/
def find? (environment : Environment) (session : Session) (reference : String) : Option Located :=
  let spellings := candidates environment.options reference
  if Path.isAbsolute ⟨reference⟩ then
    spellings.findSome? fun spelling => environment.find? ⟨spelling⟩
  else
    match (spellings ++ [reference]).findSome? fun spelling =>
      Aliases.find? session.aliases environment.files ⟨spelling⟩ with
    | some located => some located
    | none => spellings.findSome? fun spelling =>
      environment.loadPath.find? environment.files ⟨spelling⟩

/-- The place of a reference beside a file. -/
def findBeside? (environment : Environment) (file : Located) (reference : String) :
    Option Located :=
  (candidates environment.options reference).findSome? fun spelling =>
    let located := Located.under file.directory ⟨spelling⟩
    if environment.files.has located.path then some located else none

/-- The place of a required target.  A quoted one is looked up beside the requiring file first. -/
def locate? (environment : Environment) (session : Session) (file : Located) (target : Target) :
    Option Located :=
  match if target.delimiter.isQuoted then findBeside? environment file target.path else none with
  | some located => some located
  | none => session.find? environment target.path

/-! ## Following directives -/

/-- The files in progress from the first occurrence of a path on, and the path again.  For a path
that is not in progress they would be counted from the outermost one. -/
def chainTo (session : Session) (path : Path) : List Path :=
  let position := (session.inProgress.idxOf? path).getD 0
  session.inProgress.drop position ++ [path]

/-- What becomes of a file that is required while it is being read. -/
def onCycle (environment : Environment) (session : Session) (path : Path) : Except Halt Session :=
  match environment.options.cycles with
  | .tolerate => .ok (session.note (.skippedCycle path))
  | .fail => .error ⟨.circularRequire (session.chainTo path), session⟩

/-- Gives a name to a location. -/
def addAlias (session : Session) (name : String) (location : Path) : Session :=
  { session with aliases := Table.insert name location session.aliases }.note
    (.registeredAlias name location)

/-- Declares a location beside the declaring file, which has to exist. -/
def provide (environment : Environment) (file : Located) (number : Nat) (location : String)
    (label : Option String) (session : Session) : Except Halt Session :=
  let path := file.directory.anchor ⟨location⟩
  if environment.files.has path then
    let session := match label with
      | some name => session.addAlias name path
      | none => session
    let asset : Asset := ⟨path, label, file.path, number⟩
    .ok { session with resolution := session.resolution.addAsset asset }
  else .error ⟨.fileNotFound ("\"" ++ location ++ "\"") (some (file.path, number)), session⟩

/-- Follows the directive of a line, with `visit` for the file that it requires. -/
def obey (environment : Environment) (visit : Session → Located → Except Halt Session)
    (file : Located) (session : Session) (line : SourceLine) : Except Halt Session :=
  match line.directive with
  | none => .ok session
  | some (.provide location label) =>
    session.provide environment file line.number location label
  | some (.require target) =>
    match session.locate? environment file target with
    | some located => visit session located
    | none => .error ⟨.fileNotFound target.written (some (file.path, line.number)), session⟩

/-- Marks a file as being read. -/
def enter (session : Session) (path : Path) : Session :=
  { session.note (.including path) with inProgress := session.inProgress ++ [path] }

/-- Adds a file that has been read to its end. -/
def emit (session : Session) (file : Located) (lines : List String) : Session :=
  { session with
    inProgress := session.inProgress.dropLast
    emitted := session.emitted ++ [file.path]
    resolution := session.resolution.addSource ⟨file, lines⟩ }

/-- Adds a file after all that it requires.  The first argument bounds how deep requires are
nested. -/
def visit (environment : Environment) : Nat → Session → Located → Except Halt Session
  | 0, session, _ => .error ⟨.depthLimit, session⟩
  | depth + 1, session, file =>
    if file.path ∈ session.emitted then .ok (session.note (.alreadyIncluded file.path))
    else if file.path ∈ session.inProgress then session.onCycle environment file.path
    else
      let session := session.enter file.path
      match Source.load environment.files file with
      | .error failure => .error ⟨failure, session⟩
      | .ok source =>
        match source.lines.foldlM (obey environment (visit environment depth) file) session with
        | .error halt => .error halt
        | .ok session =>
          match source.render environment.constants environment.options.stripComments with
          | .error failure => .error ⟨failure, session⟩
          | .ok lines => .ok (session.emit file lines)

/-- Adds an entry and all that it requires, with requires nested at most `depth` deep. -/
def requireWithin (environment : Environment) (depth : Nat) (session : Session) (entry : String) :
    Except Halt Session :=
  match session.find? environment entry with
  | some located => visit environment depth session located
  | none => .error ⟨.fileNotFound entry none, session⟩

/-- Adds entries in order, with requires nested at most `depth` deep. -/
def requireAllWithin (environment : Environment) (depth : Nat) (entries : List String)
    (session : Session) : Except Halt Session :=
  entries.foldlM (requireWithin environment depth) session

/-- How deep requires can be nested: once for each file, and once more to see that a file is being
read. -/
def depthBound (environment : Environment) : Nat := environment.files.stored.length + 1

/-- Adds an entry and all that it requires. -/
def require (environment : Environment) (session : Session) (entry : String) :
    Except Halt Session :=
  session.requireWithin environment (depthBound environment) entry

/-- Adds entries in order. -/
def requireAll (environment : Environment) (entries : List String) (session : Session) :
    Except Halt Session :=
  session.requireAllWithin environment (depthBound environment) entries

end Session

/-- The outcome of a session with one entry. -/
def Environment.resolve (environment : Environment) (entry : String) : Except Failure Resolution :=
  match Session.start.require environment entry with
  | .ok session => .ok session.resolution
  | .error halt => .error halt.failure

end Splice
