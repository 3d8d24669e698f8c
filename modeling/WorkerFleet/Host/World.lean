import WorkerFleet.Host.Process

/-!
# Worlds

The processes of a machine share its files, its clock and their standard streams. Ending a process
and sending it a signal may let others go on that wait for that.
-/

namespace WorkerFleet.Host

structure World where
  clock : Nat := 0
  files : FileSystem
  /-- The standard input, which all processes share. -/
  input : List UInt8 := []
  out : List UInt8 := []
  err : List UInt8 := []
  running : List Process := []
  /-- The processes that have ended and were not waited for, in the order of their ends. -/
  ended : List Remnant := []
  /-- The children of the first process that have ended, in the order of their ends. -/
  exits : List Pid := []
  openings : List (OpeningNumber × Opening) := sharedOpenings
  nextOpening : OpeningNumber := sharedOpenings.length
  channels : List (Channel × List UInt8) := []
  nextChannel : Channel := 0
  nextPid : Pid := 4000

namespace World

/-- The parent of a process whose own parent has ended. -/
def nobody : Pid := 0

def process? (w : World) (pid : Pid) : Option Process := w.running.find? (·.pid == pid)

def isRunning (w : World) (pid : Pid) : Bool := w.running.any (·.pid == pid)

/-- A process exists until it has been waited for. -/
def hasProcess (w : World) (pid : Pid) : Bool :=
  pid == firstPid || w.isRunning pid || w.ended.any (·.pid == pid)

/-- Changes one process. -/
def update (w : World) (pid : Pid) (change : Process → Process) : World :=
  { w with running := w.running.map fun q => if q.pid = pid then change q else q }

/-- Lets the processes that wait for something try again. -/
def rouse (w : World) (affected : Process → Bool) : World :=
  { w with running := w.running.map fun q =>
      if q.blocker.isSome && affected q then { q with blocker := none, wake := w.clock } else q }

def waitsFor (c : Channel) (p : Process) : Bool := p.blocker == some (.channel c)

/-- Whether something that was opened is still open somewhere. -/
def isOpen (w : World) (number : OpeningNumber) : Bool :=
  number < sharedOpenings.length || w.running.any fun q => q.descriptors.any (·.2 == number)

/-- Closes for good what no process has open any more. Those that wait at the other end of a channel
try again. -/
def release (w : World) (numbers : List OpeningNumber) : World :=
  let gone := (numbers.filter fun n => !w.isOpen n).eraseDups
  if gone.isEmpty then w
  else
    let closed := w.openings.filter fun o => gone.contains o.1
    let openings := w.openings.filter fun o => !gone.contains o.1
    let channels := closed.filterMap fun o =>
      match o.2.target with
      | .channel c => some c
      | _ => none
    let isUsed (c : Channel) : Bool := openings.any fun o => o.2.target == .channel c
    { w with
      openings
      channels := w.channels.filter fun c => !channels.contains c.1 || isUsed c.1 }.rouse fun q =>
        channels.any fun c => waitsFor c q

/-- Takes a process away and leaves behind what its parent may wait for. Its children have no
parent from now on. -/
def bury (w : World) (p : Process) (status : ExitStatus) : World :=
  let orphaned (q : Process) : Process :=
    if q.parent = p.pid then { q with parent := nobody } else q
  let remnants := w.ended.filter (·.parent ≠ p.pid)
  { w with
    running := (w.running.filter (·.pid ≠ p.pid)).map orphaned
    ended := if p.parent = nobody then remnants else remnants ++ [⟨p.pid, p.parent, status⟩]
    exits := if p.parent = firstPid then w.exits ++ [p.pid] else w.exits }

/-- Tells a process of a caught signal. -/
def tell (w : World) (pid : Pid) (s : Signal) : World :=
  (w.update pid fun q => { q with arrived := q.arrived ++ [s.number] }).rouse fun q =>
    q.pid == pid && q.waitsForChild

/-- The signal that a process gets at the end of a child. -/
def childSignal : Signal := ⟨17⟩

/-- Ends a process. Its parent, or those that read what it may have written, may be waiting for
that. -/
def finish (w : World) (pid : Pid) (status : ExitStatus) : World :=
  match w.process? pid with
  | none => w
  | some p =>
    let w := ((w.bury p status).rouse fun q => q.pid == p.parent && q.waitsForChild).release
      (p.descriptors.map (·.2))
    if (w.process? p.parent).any (·.caught.contains childSignal.number) then
      w.tell p.parent childSignal
    else w

/-- Tells a process of a signal that may end it, stop it or mean nothing to it. -/
def notify (w : World) (pid : Pid) (s : Signal) : World :=
  match w.process? pid with
  | none => w
  | some p =>
    if p.ignored.contains s.number then w
    else if p.caught.contains s.number then w.tell pid s
    else if s.isHarmless then w
    else if s.isStop then w.update pid fun q => { q with stopped := true }
    else if p.stopped then w.update pid fun q => { q with held := q.held ++ [s.number] }
    else w.finish pid (.signal s)

/-- Sends a signal to a process. -/
def deliver (w : World) (pid : Pid) (s : Signal) : World :=
  if s.isKill then w.finish pid (.signal s)
  else if s.isHold then w.update pid fun q => { q with stopped := true }
  else if s.isContinue then
    let held := ((w.process? pid).map (·.held)).getD []
    let w := w.update pid fun q => { q with stopped := false, held := [] }
    held.foldl (fun w n => w.notify pid ⟨n⟩) (w.notify pid s)
  else w.notify pid s

def kill (w : World) (pid signal : Nat) : Except OsError World :=
  if Signal.last < signal then .error .invalidArgument
  else if !w.hasProcess pid then .error .noSuchProcess
  else .ok (if signal = 0 then w else w.deliver pid ⟨signal⟩)

/-- The children of a process that have ended, whom it now knows of. -/
def collect (w : World) (p : Process) : World × List (Pid × ExitStatus) :=
  let found := (w.ended.filter (·.parent == p.pid)).map fun r => (r.pid, r.status)
  let reaped := p.reaped ++ found
  let w := { w with ended := w.ended.filter (·.parent ≠ p.pid) }
  (w.update p.pid fun q => { q with reaped }, reaped)

/-- What waiting for a child gives, if it gives anything yet. Who may be interrupted may ask for the
same child again. -/
def awaited (w : World) (p : Process) (child : Pid) (interruptible : Bool) :
    Option (World × Waited) :=
  let (w, reaped) := w.collect p
  match interruptible, p.arrived.getLast? with
  | true, some n => some (w, .interrupted ⟨n⟩)
  | _, _ =>
    match reaped.lookup child with
    | some status =>
      let known := if interruptible then reaped else reaped.filter (·.1 ≠ child)
      some (w.update p.pid fun q => { q with reaped := known }, .ended status)
    | none =>
      if w.running.any fun q => q.pid == child && q.parent == p.pid then none
      else some (w, .noChild)

end World

end WorkerFleet.Host
