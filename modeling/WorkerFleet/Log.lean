import WorkerFleet.Environment
import WorkerFleet.Event
import WorkerFleet.Text.Blank
import WorkerFleet.Text.Decimal
import WorkerFleet.Text.Split

/-!
# The log

Events become lines on the standard error stream if the filter lets them pass. The filter is read
from a variable of directives: a level for everything, or a target with a level of its own. Without
any directive only warnings and errors pass.
-/

namespace WorkerFleet.Log

open Text

/-- Whose events the launcher's are. -/
def target : String := "gc_launcher::launch"

def filterVariable : String := "RUST_LOG"

/-- Up to which level the events of all targets that begin in a certain way pass. -/
structure Directive where
  /-- The beginning of the target, none for all. -/
  scope : Option String
  /-- The least grave level that passes, none for silence. -/
  ceiling : Option Level
  deriving DecidableEq, Repr

abbrev Filter := List Directive

/-- The levels by name, in the order of their numbers. -/
def ceilings : List (String × Option Level) :=
  [("off", none), ("error", some .error), ("warn", some .warn), ("info", some .info),
   ("debug", some .debug), ("trace", some .trace)]

/-- A level is written as a number or in letters of either case. -/
def ceiling? (text : String) : Option (Option Level) :=
  match Decimal.natural (ceilings.length - 1) text.toList with
  | .ok n => ceilings[n]?.map (·.2)
  | .error _ => ceilings.lookup (String.ofList (text.toList.map Char.toLower))

def Directive.isTarget (text : String) : Bool :=
  !text.isEmpty && text.toList.all fun c => c.isAlphanum || c == '_' || c == ':' || c == '-'

/-- A level alone is for all targets, a target alone lets everything pass. -/
def Directive.parse? (text : String) : Option Directive :=
  match splitFirst '=' text.toList with
  | ('+' :: _, none) => none
  | (_, none) =>
    match ceiling? text with
    | some ceiling => some ⟨none, ceiling⟩
    | none => if isTarget text then some ⟨some text, some .trace⟩ else none
  | (scope, some []) =>
    if isTarget (String.ofList scope) then some ⟨some (String.ofList scope), some .trace⟩ else none
  | (scope, some level) =>
    if isTarget (String.ofList scope) then
      (ceiling? (String.ofList level)).map (⟨some (String.ofList scope), ·⟩)
    else none

def Filter.default : Filter := [⟨none, some .warn⟩]

/-- The directives of a comma-separated list, or the default if there are none. -/
def Filter.parse (text : String) : Filter :=
  let parts := (splitOn ',' text.toList).filter (!·.isEmpty)
  let directives := parts.filterMap fun part => Directive.parse? (String.ofList part)
  if directives.isEmpty then .default else directives

def Filter.ofEnvironment (env : Environment) : Filter :=
  .parse ((env.text? filterVariable).getD "")

def Directive.covers (d : Directive) (name : String) : Bool :=
  match d.scope with
  | none => true
  | some scope => scope.toList.isPrefixOf name.toList

def Directive.width (d : Directive) : Nat := (d.scope.map (·.length)).getD 0

/-- Of the directives that cover the target, the one with the longest scope decides, the last one
among equals. -/
def Filter.directive? (filter : Filter) (name : String) : Option Directive :=
  (filter.filter (·.covers name)).foldl (fun best d =>
    match best with
    | none => some d
    | some other => if d.width < other.width then best else some d) none

def Filter.enables (filter : Filter) (name : String) (level : Level) : Bool :=
  match (filter.directive? name).bind (·.ceiling) with
  | none => false
  | some ceiling => level.rank ≤ ceiling.rank

/-- The line of an event; the name of its level takes five columns. -/
def line (time : String) (showPid : Pid → String) (event : Event) : String :=
  let level := String.ofList (List.replicate (5 - event.level.name.length) ' ') ++ event.level.name
  let head :=
    time ++ " " ++ level ++ " " ++ target ++ ": " ++ event.message ++ " index=" ++
      toString event.index ++ " pid=Some(" ++ showPid event.pid ++ ")"
  match event with
  | .started _ _ => head ++ "\n"
  | .exited _ _ status => head ++ " status=" ++ status.text ++ "\n"

/-- The lines of those events that pass. -/
def lines (filter : Filter) (time : String) (showPid : Pid → String) (events : List Event) :
    List String :=
  (events.filter fun e => filter.enables target e.level).map (line time showPid)

end WorkerFleet.Log
