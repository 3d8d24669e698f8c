import WorkerFleet.Collaborator
import WorkerFleet.Dialogue
import WorkerFleet.LaunchError
import WorkerFleet.LaunchReport

/-!
# The launcher

Starting a number of workers and waiting for all of them, as a dialogue with the system. The
system's answers are open: which starts fail, how each worker ends, and, where workers are waited
for together, whose turn it is next.
-/

namespace WorkerFleet

/-- What happens next while `waiting` workers are waited for together and `ready` results lie
there: one of the workers ends (or the wait for it fails), or a result is picked up. -/
inductive Turn (waiting ready : Nat) : Type
  | finish (i : Fin waiting) (result : Except OsError ExitStatus)
  | collect (i : Fin ready)

namespace Launching

inductive Request : Type
  | start (command : Command)
  /-- Waits until that process has ended. -/
  | await (pid : Pid)
  /-- Waits until there is something to do about these processes and results, of which there is
  at least one. -/
  | turn (pids : List Pid) (ready : Nat) (busy : 0 < pids.length + ready)
  | announce (event : Event)

abbrev Reply : Request → Type
  | .start _ => Except Cause Pid
  | .await _ => Except OsError ExitStatus
  | .turn pids ready _ => Turn pids.length ready
  | .announce _ => Unit

end Launching

abbrev Launching : Interface := ⟨Launching.Request, Launching.Reply⟩

structure Launcher where
  options : CollaboratorOptions
  waitOrder : WaitOrder
  deriving DecidableEq, Repr

namespace Launcher

def new (options : CollaboratorOptions) : Launcher := ⟨options, .default⟩

def withWaitOrder (launcher : Launcher) (waitOrder : WaitOrder) : Launcher :=
  { launcher with waitOrder }

/-- Starts `remaining` workers from `index` on and stops at the first failure. -/
def startFrom (options : CollaboratorOptions) :
    (remaining index : Nat) → Dialogue Launching (Except LaunchError (List Child))
  | 0, _ => .done (.ok [])
  | remaining + 1, index =>
    .ask (.start (options.command index)) fun
      | .error cause => .done (.error (.spawn index options.program cause))
      | .ok pid =>
        .ask (.announce (.started index pid)) fun _ => do
          let rest ← startFrom options remaining (index + 1)
          return rest.map (⟨index, pid⟩ :: ·)

/-- Starts `count` workers with the indices from 0 on. Those started before a failure go on and
are not waited for. -/
def spawnAll (launcher : Launcher) (count : Nat) :
    Dialogue Launching (Except LaunchError (List Child)) :=
  startFrom launcher.options count 0

/-- The end of a worker is announced as soon as it is known. -/
def finished (child : Child) :
    Except OsError ExitStatus → Dialogue Launching (Except LaunchError Outcome)
  | .error e => .done (.error (.wait child.index (.os e)))
  | .ok status =>
    .ask (.announce (.exited child.index child.pid status)) fun _ =>
      .done (.ok ⟨child.index, child.pid, status⟩)

/-- Waits for one worker after the other, up to the first wait that fails. -/
def waitInOrder : List Child → Dialogue Launching (Except LaunchError (List Outcome))
  | [] => .done (.ok [])
  | child :: rest =>
    .ask (.await child.pid) fun result => do
      match ← finished child result with
      | .error e => return .error e
      | .ok outcome => return (← waitInOrder rest).map (outcome :: ·)

/-- Waits for all workers at once. Each takes two turns, its end and the pick-up of its result;
`turns` of them are left. The first failed wait that is picked up ends it all. -/
def waitTogether : (turns : Nat) → List Child → List (Except LaunchError Outcome) →
    Dialogue Launching (Except LaunchError (List Outcome))
  | 0, _, _ => .done (.ok [])
  | turns + 1, waiting, ready =>
    if busy : 0 < (waiting.map (·.pid)).length + ready.length then
      .ask (.turn (waiting.map (·.pid)) ready.length busy) fun
        | .finish i result => do
          let i : Fin waiting.length := i.cast (List.length_map _)
          let outcome ← finished waiting[i] result
          waitTogether turns (waiting.eraseIdx i) (ready ++ [outcome])
        | .collect i =>
          match ready[i] with
          | .error e => .done (.error e)
          | .ok outcome => do
            return (← waitTogether turns waiting (ready.eraseIdx i)).map (outcome :: ·)
    else .done (.ok [])

/-- Waits for every worker once. -/
def waitAll (children : List Child) (order : WaitOrder) :
    Dialogue Launching (Except LaunchError LaunchReport) := do
  let outcomes ←
    match order with
    | .spawn => waitInOrder children
    | .completion => waitTogether (2 * children.length) children []
  return outcomes.map (⟨·⟩)

/-- Starts `count` workers and waits for all of them. -/
def run (launcher : Launcher) (count : Nat) :
    Dialogue Launching (Except LaunchError LaunchReport) := do
  match ← launcher.spawnAll count with
  | .error e => return .error e
  | .ok children => waitAll children launcher.waitOrder

end Launcher

end WorkerFleet
