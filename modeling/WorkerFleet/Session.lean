import WorkerFleet.Host.Station

/-!
# Sessions

A series of launches at one station. The workers that a launch leaves behind are kept under a name
until they are waited for.
-/

namespace WorkerFleet

open Host

structure Session where
  station : Station
  launcher : Launcher
  /-- Workers that were started and not waited for yet. -/
  kept : List (String × List Child) := []

namespace Session

/-- Lets a launcher work at the session's station. -/
def perform {α : Type} (s : Session) (work : Dialogue Launching α) : Session × α :=
  let (station, value) := s.station.converse work
  ({ s with station }, value)

/-- What the launcher announced since an earlier state of the session. -/
def eventsSince (s earlier : Session) : List Event :=
  s.station.events.drop earlier.station.events.length

def forget (s : Session) (name : String) : Session :=
  { s with kept := s.kept.filter (·.1 ≠ name) }

def keep (s : Session) (name : String) (children : List Child) : Session :=
  { s with kept := (name, children) :: (s.forget name).kept }

/-- Takes the workers kept under each name in turn; a name gives them only once. -/
def takeAll (s : Session) : List String → Session × List Child
  | [] => (s, [])
  | name :: names =>
    let found := (s.kept.lookup name).getD []
    let (after, more) := (s.forget name).takeAll names
    (after, found ++ more)

/-- Starts workers and waits for them. -/
def run (s : Session) (count : Nat) : Session × Except LaunchError LaunchReport :=
  s.perform (s.launcher.run count)

/-- Lets go of workers, which go on without anybody who waits for them. -/
def release (s : Session) (children : List Child) : Session :=
  { s with station := s.station.forsake (children.map (·.pid)) }

/-- Starts workers and keeps them in place of those that were kept under the name. A failure keeps
nothing. -/
def spawnAll (s : Session) (count : Nat) (name : String) :
    Session × Except LaunchError (List Child) :=
  match s.perform (s.launcher.spawnAll count) with
  | (after, .ok children) =>
    ((after.release ((s.kept.lookup name).getD [])).keep name children, .ok children)
  | (after, .error e) => (after, .error e)

/-- Waits for kept workers. -/
def waitAll (s : Session) (names : List String) (reversed : Bool) (order : WaitOrder) :
    Session × Except LaunchError LaunchReport :=
  let (s, children) := s.takeAll names
  match s.perform (Launcher.waitAll (if reversed then children.reverse else children) order) with
  | (after, .ok report) => (after, .ok report)
  | (after, .error e) => (after.release children, .error e)

/-- Waits for a kept worker behind the launcher's back; the answer tells whether there was one. -/
def steal (s : Session) (name : String) (position : Nat) : Session × Bool :=
  match ((s.kept.lookup name).getD [])[position]? with
  | none => (s, false)
  | some child =>
    let (world, result) := s.station.world.await child.pid
    ({ s with station := { s.station with world } },
      match result with
      | .ok _ => true
      | .error _ => false)

/-- Lets go of kept workers, which go on; the answer tells how many there were. -/
def drop (s : Session) (name : String) : Session × Option Nat :=
  let kept := s.kept.lookup name
  ((s.forget name).release (kept.getD []), kept.map (·.length))

/-- Events by worker; those of one worker stay in order. -/
def eventsByWorker (events : List Event) : List Event :=
  events.mergeSort fun a b => a.index ≤ b.index

/-- Outcomes by worker. -/
def outcomesByWorker (outcomes : List Outcome) : List Outcome :=
  outcomes.mergeSort fun a b => a.index ≤ b.index

/-- How long a file is waited for, in microseconds. -/
def filePatience : Nat := 2000000

/-- Waits until a file is there; the answer tells whether it came in time. -/
def waitFile (s : Session) (path : OsString) : Session × Bool :=
  let time := s.station.world.clock + filePatience
  let isThere (w : World) : Bool := (w.files.find s.station.dir path true).isOk
  let world := s.station.world.runUntil (fun w => isThere w || w.isQuiet time) World.patience
  ({ s with station := { s.station with world } }, isThere world)

/-- The output is looked at so much later than the last step, in microseconds. -/
def outputDelay : Nat := 250

/-- Lets the workers that are left go on for a while. -/
def finish (s : Session) : Session :=
  { s with station := { s.station with world := s.station.world.pass outputDelay } }

end Session

end WorkerFleet
