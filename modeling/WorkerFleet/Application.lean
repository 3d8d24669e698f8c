import WorkerFleet.CommandLine.Parser
import WorkerFleet.Log

/-!
# The launcher as a program

From the arguments and the environment to what is printed and the exit code. Events are announced
on the way; whether they are logged is decided elsewhere and changes nothing here.
-/

namespace WorkerFleet

/-- What a program leaves on its streams, and its exit code. -/
structure Console where
  code : Nat
  out : String
  err : String
  deriving DecidableEq, Repr, Inhabited

namespace Application

/-- A request for a text goes to the standard output, a fault to the standard error. -/
def stopped (bin : String) (env : Environment) (stop : CommandLine.Stop) : Console :=
  let message := stop.message .stream bin env
  if stop.isError then ⟨stop.exitCode, "", message⟩ else ⟨stop.exitCode, message, ""⟩

def failed (e : LaunchError) : Console := ⟨1, "", "Error: " ++ e.report ++ "\n"⟩

def finished (report : LaunchReport) (policy : ExitPolicy) : Console :=
  ⟨report.exitStatus policy, "", ""⟩

/-- The whole run of the launcher. -/
def run (argv : List OsString) (env : Environment) : Dialogue Launching Console :=
  match CommandLine.parse argv env with
  | .error stop => .done (stopped (CommandLine.programName argv) env stop)
  | .ok args => do
    match ← (args.launcher env).run args.workers.toStart with
    | .error e => return failed e
    | .ok report => return finished report args.exitPolicy

end Application

end WorkerFleet
