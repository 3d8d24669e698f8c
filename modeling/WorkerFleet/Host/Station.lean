import WorkerFleet.Host.World.Schedule
import WorkerFleet.Launcher
import WorkerFleet.Shell.Interpreter

/-!
# A launcher among processes

A station is a launcher's place on a machine: its directory, its environment, and the events it has
announced. Every request of a launcher can be granted there, so every launch comes to an end.

A launcher does not notice the ends of its workers while it does something else. It takes note of
all that have happened when it waits, and from time to time while it looks at its workers one after
the other. Those whose end was noticed earlier thus come before those that ended meanwhile.
-/

namespace WorkerFleet.Host

/-- How far a launcher has come with the workers that it waits for together. -/
structure Watch where
  /-- How many of all ends were noticed. -/
  seen : Nat := 0
  /-- The workers that were taken into the round once. -/
  enrolled : List Pid := []
  /-- The workers to look at, in that order. -/
  queue : List Pid := []
  /-- How many were looked at since results were picked up. -/
  looks : Nat := 0
  /-- Results are being picked up until none lies there any more. -/
  picking : Bool := false
  deriving DecidableEq, Repr

structure Station where
  world : World
  dir : Location
  environment : Environment
  /-- What has been announced, in order. -/
  events : List Event := []
  /-- The lines that an event leaves on the error stream. -/
  log : Event → List String := fun _ => []
  watch : Watch := {}
  /-- Workers that nobody will wait for. -/
  forsaken : List Pid := []

namespace Station

/-- What a command runs, and where. Its directory is entered before its program is looked for. -/
def resolve (s : Station) (command : Command) :
    Except OsError (Location × Environment × Image) := do
  let dir ←
    match command.currentDir with
    | some path => s.world.files.findDirectory s.dir path
    | none => .ok s.dir
  let env := s.environment.setAll command.bindings
  let image ← Executable.resolve s.world.files dir env.texts (env.get? "PATH") command.program
    (command.program :: command.arguments)
  return (dir, env, image)

/-- How long it takes to start a process, in microseconds. -/
def startTime : Nat := 500

def start (s : Station) (command : Command) : Station × Except Cause Pid :=
  if command.refused then (s, .error .nulByte)
  else
    let s := { s with world := s.world.pass startTime }
    match s.resolve command with
    | .error e => (s, .error (.os e))
    | .ok (dir, env, image) =>
      let (world, pid) := s.world.launch dir (Shell.process image env)
      ({ s with world }, .ok pid)

/-- Whether the launcher knows that a worker has ended. -/
def hasNoticed (s : Station) (pid : Pid) : Bool :=
  (s.world.exits.take s.watch.seen).contains pid

/-- Takes note of all ends so far. Of the workers that were looked at in vain, those that have ended
are to be looked at again, in the order of their ends. -/
def observe (s : Station) (waiting : List Pid) : Station :=
  let fresh := (s.world.exits.drop s.watch.seen).filter fun pid =>
    waiting.contains pid && !s.watch.queue.contains pid
  { s with
    world := s.forsaken.foldl World.reap s.world
    watch := { s.watch with seen := s.world.exits.length, queue := s.watch.queue ++ fresh } }

/-- Lets the machine run until a worker ends whose end has not been noticed. -/
def runToNextEnd (s : Station) : Station :=
  { s with world := s.world.runUntil (fun w => s.watch.seen < w.exits.length) World.patience }

/-- Leaves workers to themselves. -/
def forsake (s : Station) (pids : List Pid) : Station :=
  { s with world := pids.foldl World.reap s.world, forsaken := s.forsaken ++ pids }

/-- What the wait for a worker gave that has ended. -/
def settle (s : Station) (pid : Pid) : Station × Except OsError ExitStatus :=
  ({ s with world := s.world.reap pid }, (s.world.settled? pid).getD (.error .timedOut))

/-- Waits until the end of a worker is noticed, through `steps` ends of others at most. -/
def awaitWithin : (steps : Nat) → Station → Pid → Station × Except OsError ExitStatus
  | 0, s, _ => (s, .error .timedOut)
  | steps + 1, s, pid =>
    if s.hasNoticed pid then s.settle pid
    else awaitWithin steps (s.runToNextEnd.observe []) pid

/-- After so many looks the launcher takes note of ends and picks up results. -/
def roundSize : Nat := 61

/-- Takes the workers of a new wait into the round. -/
def enroll (s : Station) (pids : List Pid) : Station :=
  let new := pids.filter fun pid => !s.watch.enrolled.contains pid
  if new.isEmpty then s
  else
    { s with watch :=
      { seen := s.watch.seen, enrolled := s.watch.enrolled ++ new, queue := new } }

/-- Takes note of ends and goes over to picking up results. -/
def nextRound (s : Station) (pids : List Pid) : Station :=
  let s := s.observe pids
  { s with watch := { s.watch with looks := 0, picking := true } }

/-- Workers whose end is known are finished in the order in which they are looked at. When none is
left to look at, and after each round, all results that lie there are picked up. -/
def turnWithin : (steps : Nat) → Station → (pids : List Pid) → (ready : Nat) →
    0 < pids.length + ready → Station × Turn pids.length ready
  | 0, s, pids, ready, busy =>
    if hReady : 0 < ready then (s, .collect ⟨0, hReady⟩)
    else (s, .finish ⟨0, by omega⟩ (.error .timedOut))
  | steps + 1, s, pids, ready, busy =>
    if hReady : 0 < ready ∧ s.watch.picking then (s, .collect ⟨0, hReady.1⟩)
    else
      let watch := { s.watch with picking := false }
      match watch.queue with
      | [] =>
        if hReady : 0 < ready then (s.nextRound pids, .collect ⟨0, hReady⟩)
        else turnWithin steps (s.runToNextEnd.nextRound pids) pids ready busy
      | pid :: queue =>
        if watch.looks = roundSize then turnWithin steps (s.nextRound pids) pids ready busy
        else
          let s := { s with watch := { watch with queue, looks := watch.looks + 1 } }
          match (List.finRange pids.length).find? fun i => pids[i] == pid && s.hasNoticed pid with
          | some i =>
            let (s, result) := s.settle pid
            (s, .finish i result)
          | none => turnWithin steps s pids ready busy

def announce (s : Station) (event : Event) : Station :=
  let lines := OsString.ofText (String.join (s.log event))
  { s with
    events := s.events ++ [event]
    world := { s.world with err := s.world.err ++ lines.bytes } }

/-- Grants a request of the launcher. -/
def answer (s : Station) : (r : Launching.Request) → Station × Launching.Reply r
  | .start command => s.start command
  | .await pid => s.awaitWithin (s.world.running.length + s.world.exits.length + 1) pid
  | .turn pids ready busy => (s.enroll pids).turnWithin World.patience pids ready busy
  | .announce event => (s.announce event, ())

/-- Lets a launcher do its work at a station. -/
def converse {α : Type} : Dialogue Launching α → Station → Station × α
  | .done value, s => (s, value)
  | .ask r next, s =>
    let (after, reply) := s.answer r
    converse (next reply) after

end Station

end WorkerFleet.Host
