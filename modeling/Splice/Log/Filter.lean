import Splice.Log
import Splice.Text.Blank
import Splice.Text.Cut

/-!
# Log filters

A filter is a list of rules separated by commas.  A rule is a level, a scope or a scope with a
level; of the rules that concern an event the one with the longest scope decides.
-/

namespace Splice

/-- The events of a scope that are shown. -/
structure LogRule where
  /-- How the scopes begin that the rule concerns; all scopes if absent. -/
  scope : Option String
  /-- The most detailed level that is shown; nothing if absent. -/
  level : Option Level
  /-- Whether the rule concerns events within spans, of which there are none. -/
  withinSpan : Bool := false
deriving DecidableEq, Repr

/-- Which events are shown. -/
abbrev LogFilter := List LogRule

namespace LogFilter

/-- The level of a name in small letters or of a number; zero stands for nothing. -/
def levelOfName? : String → Option (Option Level)
  | "off" | "0" => some none
  | "error" | "1" => some (some .error)
  | "warn" | "2" => some (some .warn)
  | "info" | "3" => some (some .info)
  | "debug" | "4" => some (some .debug)
  | "trace" | "5" => some (some .trace)
  | _ => none

/-- The level that a text names, in letters of any case. -/
def level? (text : List Char) : Option (Option Level) :=
  levelOfName? (String.ofList (text.map Char.toLower))

/-- The level after the sign of equality; without a text it is the most detailed one. -/
def assignedLevel? (text : List Char) : Option (Option Level) :=
  if text = [] then some (some .trace) else level? text

/-- Whether a character can stand in a scope. -/
def isScopeChar (c : Char) : Bool :=
  c.isAlphanum || c = '-' || c = ':' || c = '_' || 0x7F < c.toNat && !Text.isBlank c

/-- A rule about spans, after its opening bracket. -/
def spanRule? (scope : Option String) (text : List Char) : Option LogRule :=
  match Text.cut? [']'] text with
  | some (_, []) => some ⟨scope, some .trace, true⟩
  | some (_, '=' :: level) => (assignedLevel? level).map fun level => ⟨scope, level, true⟩
  | _ => none

/-- Reads a rule. -/
def rule? (text : List Char) : Option LogRule :=
  let start := text.takeWhile isScopeChar
  let scope := if start = [] then none else some (String.ofList start)
  match scope, text.drop start.length with
  | some _, [] =>
    match level? start with
    | some level => some ⟨none, level, false⟩
    | none => some ⟨scope, some .trace, false⟩
  | some _, '=' :: level => (assignedLevel? level).map fun level => ⟨scope, level, false⟩
  | _, '[' :: rest => spanRule? scope rest
  | _, _ => none

/-- The filter that shows a level and all that matter more. -/
def ofLevel (level : Level) : LogFilter := [⟨none, some level, false⟩]

/-- Reads a filter.  One without rules shows errors. -/
def parse? (text : String) : Option LogFilter := do
  let parts := (text.toList.splitOn ',').filter (· ≠ [])
  if parts = [] then return ofLevel .error
  else parts.mapM rule?

/-- Whether a rule concerns a scope. -/
def concerns (scope : String) (rule : LogRule) : Bool :=
  !rule.withinSpan && rule.scope.all fun start => Text.beginsWith start.toList scope.toList

/-- How narrow a rule is. -/
def narrowness (rule : LogRule) : Nat := (rule.scope.map fun scope => scope.utf8ByteSize + 1).getD 0

/-- The narrowest rule, and of those that are equally narrow the last one. -/
def narrowest? (rules : List LogRule) : Option LogRule :=
  rules.foldl (fun best rule =>
    match best with
    | none => some rule
    | some other => if narrowness other ≤ narrowness rule then some rule else some other) none

/-- Whether an event is shown. -/
def shows (filter : LogFilter) (event : Event) : Bool :=
  match narrowest? (filter.filter (concerns event.scope)) with
  | some rule => rule.level.any fun level => event.level.rank ≤ level.rank
  | none => false

end LogFilter

end Splice
