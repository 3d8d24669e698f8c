import WorkerFleet.ExitStatus

/-!
# Events of a launch

What a launch announces while it runs: each start and each end of a worker.
-/

namespace WorkerFleet

abbrev Pid := Nat

/-- The levels of the log, from the gravest down. -/
inductive Level
  | error
  | warn
  | info
  | debug
  | trace
  deriving DecidableEq, Repr, Inhabited

namespace Level

def rank : Level → Nat
  | .error => 1
  | .warn => 2
  | .info => 3
  | .debug => 4
  | .trace => 5

def name : Level → String
  | .error => "ERROR"
  | .warn => "WARN"
  | .info => "INFO"
  | .debug => "DEBUG"
  | .trace => "TRACE"

end Level

inductive Event
  | started (index : Nat) (pid : Pid)
  | exited (index : Nat) (pid : Pid) (status : ExitStatus)
  deriving DecidableEq, Repr

namespace Event

def index : Event → Nat
  | .started index _ => index
  | .exited index _ _ => index

def pid : Event → Pid
  | .started _ pid => pid
  | .exited _ pid _ => pid

def level : Event → Level
  | .started _ _ => .debug
  | .exited _ _ status => if status.isSuccess then .debug else .info

def message : Event → String
  | .started _ _ => "collaborator started"
  | .exited _ _ status =>
    if status.isSuccess then "collaborator exited" else "collaborator exited unsuccessfully"

/-- The event in a few words, without what differs from run to run. -/
def summary (e : Event) : String :=
  let head := e.level.name ++ " " ++ e.message ++ " index=" ++ toString e.index
  match e with
  | .started _ _ => head
  | .exited _ _ status => head ++ " status=" ++ status.text

end Event

end WorkerFleet
