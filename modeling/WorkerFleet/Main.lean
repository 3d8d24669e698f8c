import WorkerFleet.Host.Machine
import WorkerFleet.Trial

/-!
# The launcher on its own

Reads the arguments and those variables that the launcher and its stand-in worker look at, and runs
the launcher on a machine where the stand-in is the default worker. The workers share the
launcher's streams.
-/

namespace WorkerFleet.Main

open Host

def watched : List String :=
  [CollaboratorOptions.programVariable, Log.filterVariable, StandIn.recordVariable,
   StandIn.sleepVariable, StandIn.codesVariable]

def readEnvironment : IO Environment := do
  let found ← watched.filterMapM fun name => do
    return (← IO.getEnv name).map fun value => (name, OsString.ofText value)
  return .setAll .empty found

def directory : OsString := .ofText "/srv/fleet"

def stamp : Trial.Stamp := ⟨"-", toString⟩

def exitCode : ExitStatus → UInt32
  | .code n => UInt32.ofNat n
  | .signal s => UInt32.ofNat (128 + s.number)

def run (args : List String) : IO UInt32 := do
  let env ← readEnvironment
  let worker : Machine.Entry := ⟨CollaboratorOptions.defaultProgram, .program .standIn⟩
  let station := Machine.station directory [worker] [] env
  let argv := (CommandLine.defaultName :: args).map OsString.ofText
  let trial := (Trial.ofLauncher stamp argv station).2
  (← IO.getStdout).write ⟨trial.out.toArray⟩
  (← IO.getStderr).write ⟨trial.err.toArray⟩
  return exitCode trial.status

end WorkerFleet.Main

def main (args : List String) : IO UInt32 := WorkerFleet.Main.run args
