import WorkerFleet.Application
import WorkerFleet.Host.Station

/-!
# Trials

Runs of the launcher or of the stand-in worker as programs, one after the other at one station,
and what each leaves behind: its exit status, its output and the slots that were claimed.
-/

namespace WorkerFleet

open Host

structure Trial where
  status : ExitStatus
  out : List UInt8
  err : List UInt8
  deriving Repr

namespace Trial

/-- The streams of a world as they stand, and the world with empty ones. -/
def collect (s : Station) (status : ExitStatus) : Station × Trial :=
  ({ s with world := { s.world with out := [], err := [] } }, ⟨status, s.world.out, s.world.err⟩)

/-- How the log shows what differs from run to run. -/
structure Stamp where
  time : String
  pid : Pid → String

/-- The output is looked at so much later than the launcher's end, in microseconds. -/
def outputDelay : Nat := 3000

/-- Runs the launcher. Workers that are left go on for a while. -/
def ofLauncher (stamp : Stamp) (argv : List OsString) (s : Station) : Station × Trial :=
  let filter := Log.Filter.ofEnvironment s.environment
  let s := { s with log := fun event => Log.lines filter stamp.time stamp.pid [event] }
  let (s, console) := s.converse (Application.run argv s.environment)
  let world := { s.world with
    out := s.world.out ++ (OsString.ofText console.out).bytes
    err := s.world.err ++ (OsString.ofText console.err).bytes }
  collect { s with world := world.pass outputDelay } (.code console.code)

/-- Runs the stand-in worker, which does not look at its arguments. -/
def ofStandIn (argv : List OsString) (s : Station) : Station × Trial :=
  let (world, pid) := s.world.launch s.dir (Shell.process ⟨.standIn, argv⟩ s.environment)
  let (world, result) := world.await pid
  collect { s with world } (result.toOption.getD (.code 1))

/-- What is found in the place of a slot. -/
inductive Slot
  /-- A number on a line of its own, as workers leave it. -/
  | claimed
  | other (content : List UInt8)
  deriving DecidableEq, Repr

def isDigit (b : UInt8) : Bool := 48 ≤ b && b ≤ 57

def slotOf (files : FileSystem) : Node → Slot
  | .file number =>
    let content := (files.file number).content
    let digits := content.takeWhile isDigit
    if !digits.isEmpty && content.drop digits.length = [10] then .claimed else .other content
  | _ => .other []

/-- The entries of a directory whose names are numbers, if it can be read. -/
def slots (s : Station) (dir : OsString) : Option (List (OsString × Slot)) :=
  match s.world.files.list s.dir dir with
  | .error _ => none
  | .ok entries =>
    some ((entries.filter fun e => !e.1.isEmpty && e.1.bytes.all isDigit).map fun e =>
      (e.1, slotOf s.world.files e.2))

end Trial

end WorkerFleet
