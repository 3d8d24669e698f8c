import WorkerFleet.Host.World

/-!
# Open files of a world

What opening, reading and writing do. Reading goes on where the last one stopped, for all
descriptors that share an opening; what is written into a channel waits there until it is read.
-/

namespace WorkerFleet.Host.World

def content (w : World) (c : Channel) : List UInt8 := (w.channels.lookup c).getD []

def setContent (w : World) (c : Channel) (bytes : List UInt8) : World :=
  { w with channels := (c, bytes) :: w.channels.filter (·.1 ≠ c) }

/-- Whether anybody may still read from a channel. -/
def isRead (w : World) (c : Channel) : Bool :=
  w.openings.any fun o => o.2.access.readable && o.2.target == .channel c

/-- Whether a channel may get more than it holds. -/
def isWritten (w : World) (c : Channel) : Bool :=
  w.openings.any fun o => o.2.access.writable && o.2.target == .channel c

/-- What a process has open under a number. -/
def opening? (w : World) (p : Process) (d : Descriptor) : Option (OpeningNumber × Opening) := do
  let number ← p.opening? d
  return (number, ← w.openings.lookup number)

def setOffset (w : World) (number : OpeningNumber) (offset : Nat) : World :=
  { w with openings := w.openings.map fun o =>
      if o.1 = number then (number, { o.2 with offset }) else o }

/-- Opens something for a process, under the least number that is free. -/
def addOpening (w : World) (pid : Pid) (o : Opening) : World × Descriptor :=
  let d := ((w.process? pid).map (·.freeDescriptor 0)).getD 0
  let number := w.nextOpening
  let w := { w with openings := (number, o) :: w.openings, nextOpening := number + 1 }
  (w.update pid (·.setDescriptor d number), d)

/-- Adds a channel that holds something. -/
def addChannel (w : World) (bytes : List UInt8) : World × Channel :=
  let c := w.nextChannel
  ({ w with channels := (c, bytes) :: w.channels, nextChannel := c + 1 }, c)

/-- Lets a second number lead where the first one leads. -/
def duplicate (w : World) (p : Process) (source target : Descriptor) :
    World × Except OsError Unit :=
  match p.opening? source with
  | none => (w, .error .badDescriptor)
  | some number =>
    if source = target then (w, .ok ())
    else
      ((w.update p.pid (·.setDescriptor target number)).release (p.opening? target).toList, .ok ())

def putAside (w : World) (p : Process) (d : Descriptor) : World × Except OsError Descriptor :=
  match p.opening? d with
  | none => (w, .error .badDescriptor)
  | some number =>
    let aside := p.freeDescriptor asideFrom
    (w.update p.pid (·.setDescriptor aside number), .ok aside)

/-- Closes some of the descriptors of a process. -/
def closeAll (w : World) (p : Process) (closing : Descriptor → Bool) : World :=
  let (closed, kept) := p.descriptors.partition fun d => closing d.1
  (w.update p.pid fun q => { q with descriptors := kept }).release (closed.map (·.2))

/-- What can be read from something that has a place, and whether it has one. -/
def stored? (w : World) (target : Target) : Option (List UInt8) :=
  match target with
  | .shared .input => some w.input
  | .shared .output => some w.out
  | .shared .error => some w.err
  | .file number => some (w.files.file number).content
  | _ => none

/-- Changes what can be read from something that has a place. -/
def store (w : World) (target : Target) (bytes : List UInt8) : World :=
  match target with
  | .shared .input => { w with input := bytes }
  | .shared .output => { w with out := bytes }
  | .shared .error => { w with err := bytes }
  | .file number =>
    { w with files := w.files.update number fun f =>
        { f with content := bytes, modified := w.clock } }
  | _ => w

/-- Bytes put over others from some place on; a gap before them is filled with zeros. -/
def overlay (bytes : List UInt8) (offset : Nat) (new : List UInt8) : List UInt8 :=
  let before := bytes.take offset
  before ++ List.replicate (offset - before.length) 0 ++ new ++ bytes.drop (offset + new.length)

/-- The signal that a process gets for writing where nobody reads any more. -/
def pipeSignal : Signal := ⟨13⟩

def write (w : World) (p : Process) (d : Descriptor) (bytes : List UInt8) :
    World × Except OsError Unit :=
  match w.opening? p d with
  | none => (w, .error .badDescriptor)
  | some (number, o) =>
    if !o.access.writable then (w, .error .badDescriptor)
    else
      match o.target with
      | .channel c =>
        if w.isRead c then ((w.setContent c (w.content c ++ bytes)).rouse (waitsFor c), .ok ())
        else (w.notify p.pid pipeSignal, .error .brokenPipe)
      | .device .full => (w, .error .noSpace)
      | target =>
        match w.stored? target with
        | none => (w, .ok ())
        | some there =>
          if o.access.appending then
            ((w.store target (there ++ bytes)).setOffset number (there.length + bytes.length),
              .ok ())
          else
            ((w.store target (overlay there o.offset bytes)).setOffset number
              (o.offset + bytes.length), .ok ())

/-- Reads as much as `take` takes of what there is; it is told whether there may come more. -/
def readWith (w : World) (p : Process) (d : Descriptor)
    (take : (isOpen : Bool) → List UInt8 → Option (List UInt8)) :
    Except Blocker (World × Except OsError (List UInt8)) :=
  match w.opening? p d with
  | none => .ok (w, .error .badDescriptor)
  | some (number, o) =>
    if !o.access.readable then .ok (w, .error .badDescriptor)
    else
      match o.target with
      | .channel c =>
        match take (w.isWritten c) (w.content c) with
        | none => .error (.channel c)
        | some bytes => .ok (w.setContent c ((w.content c).drop bytes.length), .ok bytes)
      | .directory _ => .ok (w, .error .isDirectory)
      | .device .zero => .ok (w, .ok ((take false (List.replicate 4096 0)).getD []))
      | target =>
        match w.stored? target with
        | none => .ok (w, .ok [])
        | some there =>
          let bytes := (take false (there.drop o.offset)).getD []
          .ok (w.setOffset number (o.offset + bytes.length), .ok bytes)

/-- Some bytes up to a limit; none at the end only. -/
def takeSome (limit : Nat) (isOpen : Bool) (bytes : List UInt8) : Option (List UInt8) :=
  if isOpen && bytes.isEmpty then none else some (bytes.take limit)

/-- The line at the front, with its end if it has one. -/
def takeLine (isOpen : Bool) (bytes : List UInt8) : Option (List UInt8) :=
  let line := bytes.takeWhile (· != 10)
  let line := line ++ (bytes.drop line.length).take 1
  if isOpen && line.getLast? != some 10 then none else some line

def goBack (w : World) (p : Process) (d : Descriptor) (count : Nat) : World × Except OsError Unit :=
  match w.opening? p d with
  | none => (w, .error .badDescriptor)
  | some (number, o) =>
    match o.target with
    | .channel _ => (w, .error .illegalSeek)
    | _ => (w.setOffset number (o.offset - count), .ok ())

/-- Where a process is. -/
def pathOf (dir : Location) : OsString :=
  ⟨Path.slash :: [Path.slash].intercalate (dir.map (·.bytes))⟩

/-- What can be told about a node in some place. -/
def statusOf (w : World) (place : Location) (node : Node) : Status :=
  let told (kind : Kind) (size mode : Nat) (permissions : Permissions) : Status :=
    ⟨kind, .place place, size, mode, permissions, 0, 1⟩
  match node with
  | .directory mode refusal =>
    let permissions := Permissions.ofMode mode
    told .directory 4096 mode { permissions with write := permissions.write && refusal.isNone }
  | .file number =>
    let file := w.files.file number
    ⟨.file, .file number, file.content.length, file.mode, .ofMode file.mode, file.modified,
      w.files.entries.countP fun e => e.2 == .file number⟩
  | .program _ => told .file 4096 0o755 ⟨true, false, true⟩
  | .symlink target => told .symlink target.bytes.length 0o777 ⟨true, true, true⟩
  | .fifo channel mode =>
    { told .fifo 0 mode (.ofMode mode) with identity := .channel channel }
  | .device _ => told .device 0 0o666 ⟨true, true, false⟩

/-- What can be told about something that is open. -/
def statusOfOpening (w : World) (p : Process) (d : Descriptor) : Except OsError Status :=
  match w.opening? p d with
  | none => .error .badDescriptor
  | some (number, o) =>
    match o.target with
    | .channel c =>
      .ok ⟨.fifo, .channel c, 0, 0o600, ⟨true, true, false⟩, 0, 1⟩
    | .directory place => .ok (w.statusOf place (.directory FileSystem.directoryMode none))
    | .file n => .ok (w.statusOf [] (.file n))
    | .device device => .ok (w.statusOf [] (.device device))
    | .program => .ok (w.statusOf [] (.program .shell))
    | .shared _ =>
      let size := ((w.stored? o.target).getD []).length
      .ok ⟨.file, .shared number, size, 0o644, ⟨true, true, false⟩, 0, 1⟩

/-- What opening a node gives, up to what has to be emptied. -/
def targetOf (w : World) (p : Process) (place : Location) (node : Node) (access : Access) :
    Except OsError Target :=
  match node with
  | .directory mode _ =>
    if access.writable || access.creating then .error .isDirectory
    else if !(Permissions.ofMode mode).read then .error .accessDenied
    else .ok (.directory place)
  | .file number =>
    let permissions := Permissions.ofMode (w.files.file number).mode
    if access.exclusive then .error .alreadyExists
    else if (access.readable && !permissions.read) || (access.writable && !permissions.write) then
      .error .accessDenied
    else .ok (.file number)
  | .program _ => if access.writable then .error .accessDenied else .ok .program
  | .symlink _ => .error .tooManyLinks
  | .fifo channel mode =>
    let permissions := Permissions.ofMode mode
    if (access.readable && !permissions.read) || (access.writable && !permissions.write) then
      .error .accessDenied
    else .ok (.channel channel)
  | .device .terminal => .error .noDevice
  | .device (.descriptor d) =>
    match w.opening? p d with
    | none => .error .notFound
    | some (_, o) => .ok o.target
  | .device device => .ok (.device device)

/-- Whether somebody is there, or about to come, for the other end of a channel. -/
def hasPartner (w : World) (c : Channel) (reading : Bool) : Bool :=
  (if reading then w.isWritten c else w.isRead c) ||
    w.running.any fun q => q.blocker == some (.partner c !reading)

/-- Opens what a path names, and makes it if that is asked for. Who opens one end of a named channel
waits for somebody at the other one. -/
def openPath (w : World) (p : Process) (path : OsString) (access : Access) :
    Except Blocker (World × Except OsError Descriptor) :=
  let found : Except OsError (World × Target) := do
    let place ← w.files.locate p.dir path true
    match w.files.node? place with
    | none =>
      if !access.creating then .error .notFound
      else if FileSystem.wantsDirectory path then .error .isDirectory
      else
        let (files, number) ← w.files.addFile place ⟨[], p.masked 0o666, w.clock⟩
        .ok ({ w with files }, .file number)
    | some node =>
      let target ← w.targetOf p place node access
      match target with
      | .directory _ => .ok (w, target)
      | target =>
        if FileSystem.wantsDirectory path then .error .notDirectory
        else .ok (if access.emptying then w.store target [] else w, target)
  match found with
  | .error e => .ok (w, .error e)
  | .ok (after, target) =>
    let (opened, d) := after.addOpening p.pid { target, access }
    match target with
    | .channel c =>
      if access.readable && access.writable then .ok (opened, .ok d)
      else if w.hasPartner c access.readable then
        .ok (opened.rouse fun q => q.blocker == some (.partner c !access.readable), .ok d)
      else .error (.partner c access.readable)
    | _ => .ok (opened, .ok d)

end WorkerFleet.Host.World
