import WorkerFleet.OsError
import WorkerFleet.OsString

/-!
# Launch errors

Why a launch failed, and how that is reported.
-/

namespace WorkerFleet

/-- The reason the system, or something before it, gives for a failure. -/
inductive Cause
  | os (e : OsError)
  | nulByte
  | other (text : String)
  deriving DecidableEq, Repr, Inhabited

def Cause.message : Cause → String
  | .os e => e.message
  | .nulByte => "nul byte found in provided data"
  | .other text => text

/-- The text of a cause below a message: every line is indented. -/
def indented (text : String) : String :=
  String.ofList (text.toList.flatMap fun c => if c = '\n' then '\n' :: "    ".toList else [c])

/-- A message with its cause. -/
def withCause (message cause : String) : String :=
  message ++ "\n\nCaused by:\n    " ++ indented cause

inductive LaunchError
  | spawn (index : Nat) (program : OsString) (cause : Cause)
  | wait (index : Nat) (cause : Cause)
  /-- The task that waits for a worker was lost. -/
  | waitTask (cause : Cause)
  deriving DecidableEq, Repr

namespace LaunchError

/-- The worker the error is about, when known. -/
def index? : LaunchError → Option Nat
  | .spawn index _ _ => some index
  | .wait index _ => some index
  | .waitTask _ => none

def cause : LaunchError → Cause
  | .spawn _ _ cause => cause
  | .wait _ cause => cause
  | .waitTask cause => cause

def message : LaunchError → String
  | .spawn index program _ =>
    "failed to start collaborator " ++ toString index ++ " (" ++ program.display ++ ")"
  | .wait index _ => "failed to wait for collaborator " ++ toString index
  | .waitTask _ => "waiter task for a collaborator did not finish"

def report (e : LaunchError) : String := withCause e.message e.cause.message

end LaunchError

end WorkerFleet
