import WorkerFleet.Host.World.Answer

/-!
# Running processes

Each process waits until its time has come; the one whose time is next then makes one request, which
takes effect at once. Pauses thus overlap, and between two requests of one process others may make
theirs. A request that cannot be answered yet is made again when something has happened that may
change that.
-/

namespace WorkerFleet.Host.World

/-- How long a new process takes to begin, in microseconds. -/
def birthTime : Nat := 300

/-- How long a request keeps its process, in microseconds. -/
def duration : System.Request → Nat
  | .pause microseconds => microseconds + 50
  | .load _ _ _ _ => 300
  | .fork => 100
  | .work => 5
  | .duplicate _ _ | .putAside _ | .close _ | .closeFrom _ | .goBack _ _ => 1
  | .now | .setMask _ => 1
  | _ => 10

/-- Splits a process in two that go on alike. -/
def split (w : World) (p : Process) (next : Option Pid → Dialogue System Nat) : World :=
  let child : Process := { p with
    pid := w.nextPid, parent := p.pid, wake := w.clock + birthTime, body := next none
    arrived := [], held := [], reaped := [] }
  let w := w.update p.pid fun q =>
    { q with wake := w.clock + duration .fork, body := next (some child.pid) }
  { w with running := w.running ++ [child], nextPid := w.nextPid + 1 }

/-- When a process tries again that got no answer, unless something happens before. -/
def retryTime (w : World) : System.Request → Nat
  | .awaitUntil _ time => time
  | _ => w.clock

/-- One request of a process, or its end. -/
def advance (w : World) (p : Process) : World :=
  let w := { w with clock := max w.clock p.wake }
  match p.body with
  | .done code => w.finish p.pid (.code (code % 256))
  | .ask (.exit code) _ => w.finish p.pid (.code (code % 256))
  | .ask .fork next => w.split p next
  | .ask r next =>
    match w.answer p r with
    | .ok (after, reply) =>
      after.update p.pid fun q =>
        { q with wake := w.clock + duration r, body := next reply, blocker := none }
    | .error blocker =>
      w.update p.pid fun q => { q with blocker := some blocker, wake := w.retryTime r }

/-- The process whose time is next; of several the one that was started first. -/
def next? (w : World) : Option Process :=
  w.running.foldl (fun best q =>
    if !q.isReady then best
    else
      match best with
      | none => some q
      | some p => if q.wake < p.wake then some q else some p) none

/-- Lets the processes go on, `steps` requests at most, until something is the case. -/
def runUntil (isDone : World → Bool) : (steps : Nat) → World → World
  | 0, w => w
  | steps + 1, w =>
    if isDone w then w
    else
      match w.next? with
      | none => w
      | some p => runUntil isDone steps (w.advance p)

/-- No process of this machine makes more requests than that. -/
def patience : Nat := 1000000

/-- Whether no process has anything to do before a point in time. -/
def isQuiet (time : Nat) (w : World) : Bool :=
  match w.next? with
  | none => true
  | some p => time < p.wake

/-- Lets time go by. -/
def pass (w : World) (microseconds : Nat) : World :=
  let time := w.clock + microseconds
  { runUntil (isQuiet time) patience w with clock := time }

/-- Adds a process of the first one that runs a program. -/
def launch (w : World) (dir : Location) (body : Dialogue System Nat) : World × Pid :=
  let p : Process :=
    { pid := w.nextPid, parent := firstPid, wake := w.clock + birthTime, dir, body }
  ({ w with running := w.running ++ [p], nextPid := w.nextPid + 1 }, p.pid)

/-- What waiting for a process gives, if there is nothing to wait for any more. -/
def settled? (w : World) (pid : Pid) : Option (Except OsError ExitStatus) :=
  match w.ended.find? (·.pid == pid) with
  | some remnant => some (.ok remnant.status)
  | none => if w.isRunning pid then none else some (.error .noChild)

/-- A process that has been waited for is gone. -/
def reap (w : World) (pid : Pid) : World :=
  { w with ended := w.ended.filter (·.pid ≠ pid) }

/-- Waits for a process. -/
def await (w : World) (pid : Pid) : World × Except OsError ExitStatus :=
  let after := runUntil (fun w => (w.settled? pid).isSome) patience w
  (after.reap pid, (after.settled? pid).getD (.error .timedOut))

end WorkerFleet.Host.World
