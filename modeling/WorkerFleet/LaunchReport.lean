import WorkerFleet.Event
import WorkerFleet.WaitOrder

/-!
# Launch reports

The outcomes of all workers of a launch, in the order in which they were reaped.
-/

namespace WorkerFleet

/-- A worker that was started and not waited for yet. -/
structure Child where
  index : Nat
  pid : Pid
  deriving DecidableEq, Repr

structure Outcome where
  index : Nat
  pid : Pid
  status : ExitStatus
  deriving DecidableEq, Repr

structure LaunchReport where
  outcomes : List Outcome
  deriving DecidableEq, Repr, Inhabited

namespace LaunchReport

def spawned (r : LaunchReport) : Nat := r.outcomes.length

def failures (r : LaunchReport) : List Outcome :=
  r.outcomes.filter fun outcome => !outcome.status.isSuccess

/-- The launcher's own exit status after this launch. -/
def exitStatus (r : LaunchReport) : ExitPolicy → Nat
  | .ignore => 0
  | .propagate => if r.failures.isEmpty then 0 else 1

end LaunchReport

end WorkerFleet
