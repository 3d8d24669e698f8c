import WorkerFleet.Environment
import WorkerFleet.Text.Decimal

/-!
# Collaborators

How every worker of a launch is started: its program, its arguments and its directory. The command
for one of them adds the worker's index to the environment.
-/

namespace WorkerFleet

/-- A request to the system to start a process. -/
structure Command where
  program : OsString
  arguments : List OsString
  currentDir : Option OsString
  /-- The variables set on top of the launcher's own. -/
  bindings : List (String × OsString)
  killOnDrop : Bool
  /-- Some text held a NUL byte, so the system cannot be asked. -/
  refused : Bool
  deriving DecidableEq, Repr

structure CollaboratorOptions where
  program : OsString
  arguments : List OsString
  currentDir : Option OsString
  deriving DecidableEq, Repr

namespace CollaboratorOptions

def defaultProgram : OsString := .ofText "./standalone-gc"

/-- The variable that names the program. -/
def programVariable : String := "GC_LAUNCHER_COLLABORATOR"

/-- The variable that tells a worker its index. -/
def indexVariable : String := "GC_LAUNCHER_WORKER_INDEX"

/-- An empty value of the variable counts as not set. -/
def default (env : Environment) : CollaboratorOptions where
  program :=
    match env.get? programVariable with
    | some value => if value.isEmpty then defaultProgram else value
    | none => defaultProgram
  arguments := []
  currentDir := none

def withProgram (options : CollaboratorOptions) (program : OsString) : CollaboratorOptions :=
  { options with program }

def withArguments (options : CollaboratorOptions) (arguments : List OsString) :
    CollaboratorOptions :=
  { options with arguments }

def withCurrentDir (options : CollaboratorOptions) (dir : OsString) : CollaboratorOptions :=
  { options with currentDir := some dir }

/-- What a command holds in place of a text that the system would cut short. -/
def passable (text : OsString) : OsString :=
  if text.hasNul then .ofText "<string-with-nul>" else text

/-- The index as a worker reads it. -/
def indexText (index : Nat) : OsString := .ofText (String.ofList (Text.Decimal.ofNat index))

/-- The command for the worker started at `index`. It shares the launcher's streams and
environment and outlives the launcher's handle. -/
def command (options : CollaboratorOptions) (index : Nat) : Command where
  program := passable options.program
  arguments := options.arguments.map passable
  currentDir := options.currentDir.map passable
  bindings := [(indexVariable, indexText index)]
  killOnDrop := false
  refused := options.program.hasNul || options.arguments.any (·.hasNul) ||
    options.currentDir.any (·.hasNul)

end CollaboratorOptions

end WorkerFleet
