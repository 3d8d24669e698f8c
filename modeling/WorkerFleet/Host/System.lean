import WorkerFleet.Dialogue
import WorkerFleet.Event
import WorkerFleet.Host.Executable

/-!
# What a process may ask of the system
-/

namespace WorkerFleet.Host

/-- The first process, which starts all others and never ends. -/
def firstPid : Pid := 1

/-- The number under which a process has something open. -/
abbrev Descriptor := Nat

def standardInput : Descriptor := 0

def standardOutput : Descriptor := 1

def standardError : Descriptor := 2

/-- From here on descriptors are put aside that a process wants to keep for itself. -/
def asideFrom : Descriptor := 10

/-- How something is opened. -/
structure Access where
  readable : Bool
  writable : Bool
  /-- Whatever is written goes to the end. -/
  appending : Bool := false
  /-- What is not there is made. -/
  creating : Bool := false
  /-- A file that is there is emptied. -/
  emptying : Bool := false
  /-- A file that is there is refused. -/
  exclusive : Bool := false
  deriving DecidableEq, Repr

namespace Access

def toRead : Access := ⟨true, false, false, false, false, false⟩

def toWrite : Access := ⟨false, true, false, true, true, false⟩

def toAppend : Access := ⟨false, true, true, true, false, false⟩

def toReadAndWrite : Access := ⟨true, true, false, true, false, false⟩

def toWriteNew : Access := ⟨false, true, false, true, false, true⟩

end Access

inductive Kind
  | file
  | directory
  | symlink
  | fifo
  | device
  deriving DecidableEq, Repr

/-- What makes two paths lead to the same thing. -/
inductive Identity
  | file (number : FileNumber)
  | place (place : Location)
  | channel (channel : Channel)
  | shared (descriptor : Descriptor)
  deriving DecidableEq, Repr

/-- What can be told about an entry without opening it. -/
structure Status where
  kind : Kind
  identity : Identity
  size : Nat
  mode : Nat
  permissions : Permissions
  modified : Nat
  /-- How many names it has. -/
  names : Nat
  deriving DecidableEq, Repr

namespace Status

def isKind (s : Status) (kind : Kind) : Bool := s.kind == kind

/-- File times tick that slowly, in microseconds. -/
def tick : Nat := 4000

def isNewer (a b : Status) : Bool := decide (b.modified / tick < a.modified / tick)

def isDirectory (s : Status) : Bool := s.kind == .directory

def isFile (s : Status) : Bool := s.kind == .file

end Status

/-- What becomes of a signal that reaches a process. -/
inductive Disposition
  | default
  | ignored
  /-- The process is told of it. -/
  | caught
  deriving DecidableEq, Repr

/-- What waiting for a child comes to. -/
inductive Waited
  | ended (status : ExitStatus)
  /-- A signal came first. -/
  | interrupted (signal : Signal)
  /-- The time came first. -/
  | expired
  | noChild
  deriving DecidableEq, Repr

namespace System

inductive Request : Type
  | ownPid
  | parentPid
  /-- Two processes go on from here: in the new one the answer is `none`. -/
  | fork
  | exit (code : Nat)
  | await (child : Pid) (interruptible : Bool)
  /-- Waits for a child up to a time. -/
  | awaitUntil (child : Pid) (time : Nat)
  | handle (signal : Nat) (disposition : Disposition)
  /-- The caught signals that have arrived since the last time. -/
  | takeSignals
  /-- No signal is caught any more. -/
  | resetSignals
  | pause (microseconds : Nat)
  /-- Only time goes by, as much as a few steps of a program take. -/
  | work
  /-- The time in microseconds. -/
  | now
  /-- Signal 0 only asks whether the process exists. -/
  | kill (pid : Nat) (signal : Nat)
  | openPath (path : OsString) (access : Access)
  /-- A channel that holds a text and gets no more. -/
  | openText (bytes : List UInt8)
  /-- Both ends of a new channel, the one to read first. -/
  | openPipe
  /-- Lets a second number lead where the first one leads. -/
  | duplicate (source target : Descriptor)
  /-- Another number for the same thing, one of those kept for oneself. -/
  | putAside (descriptor : Descriptor)
  | close (descriptor : Descriptor)
  /-- Closes this descriptor and all that come after it. -/
  | closeFrom (descriptor : Descriptor)
  | write (descriptor : Descriptor) (bytes : List UInt8)
  /-- Some bytes, as many as there are up to a limit; none at the end. -/
  | read (descriptor : Descriptor) (limit : Nat)
  /-- The next line, with its end if it has one. -/
  | readLine (descriptor : Descriptor)
  /-- Goes back by so many bytes. -/
  | goBack (descriptor : Descriptor) (count : Nat)
  | statusOf (descriptor : Descriptor)
  | currentDir
  | changeDir (path : OsString)
  /-- Of a symbolic link at the end either itself or what it leads to. -/
  | status (path : OsString) (follow : Bool)
  | list (path : OsString)
  | readLink (path : OsString)
  /-- The path from the root, free of symbolic links. -/
  | resolve (path : OsString)
  | createNew (path : OsString)
  | append (path : OsString) (bytes : List UInt8)
  | rename (source target : OsString)
  | makeDirectory (path : OsString) (mode : Nat)
  | removeFile (path : OsString)
  | removeDirectory (path : OsString)
  | setMode (path : OsString) (mode : Nat)
  | link (source target : OsString)
  | symlink (target path : OsString)
  | makeFifo (path : OsString) (mode : Nat)
  /-- Marks a file as changed at a time. -/
  | setModified (path : OsString) (time : Nat)
  | resize (path : OsString) (size : Nat)
  /-- Which permissions new files lack from now on; the answer is what they lacked so far. -/
  | setMask (mask : Nat)
  /-- What executing a program would run. -/
  | load (program : OsString) (search : Option OsString) (argv : List OsString)
      (environment : List OsString)

abbrev Reply : Request → Type
  | .ownPid => Pid
  | .parentPid => Pid
  | .fork => Option Pid
  | .exit _ => Empty
  | .await _ _ => Waited
  | .awaitUntil _ _ => Waited
  | .handle _ _ => Unit
  | .takeSignals => List Nat
  | .resetSignals => Unit
  | .pause _ => Unit
  | .work => Unit
  | .now => Nat
  | .kill _ _ => Except OsError Unit
  | .openPath _ _ => Except OsError Descriptor
  | .openText _ => Descriptor
  | .openPipe => Descriptor × Descriptor
  | .duplicate _ _ => Except OsError Unit
  | .putAside _ => Except OsError Descriptor
  | .close _ => Unit
  | .closeFrom _ => Unit
  | .write _ _ => Except OsError Unit
  | .read _ _ => Except OsError (List UInt8)
  | .readLine _ => Except OsError (List UInt8)
  | .goBack _ _ => Except OsError Unit
  | .statusOf _ => Except OsError Status
  | .currentDir => OsString
  | .changeDir _ => Except OsError Unit
  | .status _ _ => Except OsError Status
  | .list _ => Except OsError (List OsString)
  | .readLink _ => Except OsError OsString
  | .resolve _ => Except OsError OsString
  | .createNew _ => Except OsError Unit
  | .append _ _ => Except OsError Unit
  | .rename _ _ => Except OsError Unit
  | .makeDirectory _ _ => Except OsError Unit
  | .removeFile _ => Except OsError Unit
  | .removeDirectory _ => Except OsError Unit
  | .setMode _ _ => Except OsError Unit
  | .link _ _ => Except OsError Unit
  | .symlink _ _ => Except OsError Unit
  | .makeFifo _ _ => Except OsError Unit
  | .setModified _ _ => Except OsError Unit
  | .resize _ _ => Except OsError Unit
  | .setMask _ => Nat
  | .load _ _ _ _ => Except OsError Image

end System

/-- The interface between a process and the system. -/
abbrev System : Interface := ⟨System.Request, System.Reply⟩

namespace System

def ownPid : Dialogue System Pid := .ask .ownPid .done

def parentPid : Dialogue System Pid := .ask .parentPid .done

def fork : Dialogue System (Option Pid) := .ask .fork .done

/-- Nothing comes after the end. -/
def exit {α : Type} (code : Nat) : Dialogue System α := .ask (.exit code) Empty.elim

def await (child : Pid) (interruptible : Bool) : Dialogue System Waited :=
  .ask (.await child interruptible) .done

def awaitUntil (child : Pid) (time : Nat) : Dialogue System Waited :=
  .ask (.awaitUntil child time) .done

def handle (signal : Nat) (disposition : Disposition) : Dialogue System Unit :=
  .ask (.handle signal disposition) .done

def takeSignals : Dialogue System (List Nat) := .ask .takeSignals .done

def resetSignals : Dialogue System Unit := .ask .resetSignals .done

def pause (microseconds : Nat) : Dialogue System Unit := .ask (.pause microseconds) .done

def work : Dialogue System Unit := .ask .work .done

def now : Dialogue System Nat := .ask .now .done

def kill (pid signal : Nat) : Dialogue System (Except OsError Unit) := .ask (.kill pid signal) .done

def openPath (path : OsString) (access : Access) : Dialogue System (Except OsError Descriptor) :=
  .ask (.openPath path access) .done

def openText (bytes : List UInt8) : Dialogue System Descriptor := .ask (.openText bytes) .done

def openPipe : Dialogue System (Descriptor × Descriptor) := .ask .openPipe .done

def duplicate (source target : Descriptor) : Dialogue System (Except OsError Unit) :=
  .ask (.duplicate source target) .done

def putAside (descriptor : Descriptor) : Dialogue System (Except OsError Descriptor) :=
  .ask (.putAside descriptor) .done

def close (descriptor : Descriptor) : Dialogue System Unit := .ask (.close descriptor) .done

def closeFrom (descriptor : Descriptor) : Dialogue System Unit := .ask (.closeFrom descriptor) .done

def write (descriptor : Descriptor) (bytes : List UInt8) : Dialogue System (Except OsError Unit) :=
  .ask (.write descriptor bytes) .done

def read (descriptor : Descriptor) (limit : Nat) : Dialogue System (Except OsError (List UInt8)) :=
  .ask (.read descriptor limit) .done

def readLine (descriptor : Descriptor) : Dialogue System (Except OsError (List UInt8)) :=
  .ask (.readLine descriptor) .done

def goBack (descriptor : Descriptor) (count : Nat) : Dialogue System (Except OsError Unit) :=
  .ask (.goBack descriptor count) .done

def statusOf (descriptor : Descriptor) : Dialogue System (Except OsError Status) :=
  .ask (.statusOf descriptor) .done

def currentDir : Dialogue System OsString := .ask .currentDir .done

def changeDir (path : OsString) : Dialogue System (Except OsError Unit) :=
  .ask (.changeDir path) .done

def status (path : OsString) (follow : Bool) : Dialogue System (Except OsError Status) :=
  .ask (.status path follow) .done

def list (path : OsString) : Dialogue System (Except OsError (List OsString)) :=
  .ask (.list path) .done

def readLink (path : OsString) : Dialogue System (Except OsError OsString) :=
  .ask (.readLink path) .done

def resolve (path : OsString) : Dialogue System (Except OsError OsString) :=
  .ask (.resolve path) .done

def createNew (path : OsString) : Dialogue System (Except OsError Unit) :=
  .ask (.createNew path) .done

def append (path : OsString) (bytes : List UInt8) : Dialogue System (Except OsError Unit) :=
  .ask (.append path bytes) .done

def rename (source target : OsString) : Dialogue System (Except OsError Unit) :=
  .ask (.rename source target) .done

def makeDirectory (path : OsString) (mode : Nat) : Dialogue System (Except OsError Unit) :=
  .ask (.makeDirectory path mode) .done

def removeFile (path : OsString) : Dialogue System (Except OsError Unit) :=
  .ask (.removeFile path) .done

def removeDirectory (path : OsString) : Dialogue System (Except OsError Unit) :=
  .ask (.removeDirectory path) .done

def setMode (path : OsString) (mode : Nat) : Dialogue System (Except OsError Unit) :=
  .ask (.setMode path mode) .done

def link (source target : OsString) : Dialogue System (Except OsError Unit) :=
  .ask (.link source target) .done

def symlink (target path : OsString) : Dialogue System (Except OsError Unit) :=
  .ask (.symlink target path) .done

def makeFifo (path : OsString) (mode : Nat) : Dialogue System (Except OsError Unit) :=
  .ask (.makeFifo path mode) .done

def setModified (path : OsString) (time : Nat) : Dialogue System (Except OsError Unit) :=
  .ask (.setModified path time) .done

def resize (path : OsString) (size : Nat) : Dialogue System (Except OsError Unit) :=
  .ask (.resize path size) .done

def setMask (mask : Nat) : Dialogue System Nat := .ask (.setMask mask) .done

def load (program : OsString) (search : Option OsString) (argv environment : List OsString) :
    Dialogue System (Except OsError Image) := .ask (.load program search argv environment) .done

/-- So much is read at once. -/
def blockSize : Nat := 131072

/-- Nothing that is read has more blocks than that. -/
def blockLimit : Nat := 100000

/-- All that an open descriptor still gives. -/
def readAllWithin (descriptor : Descriptor) :
    (blocks : Nat) → Dialogue System (Except OsError (List UInt8))
  | 0 => .done (.ok [])
  | blocks + 1 => do
    match ← read descriptor blockSize with
    | .error e => return .error e
    | .ok [] => return .ok []
    | .ok bytes => return (← readAllWithin descriptor blocks).map (bytes ++ ·)

def readAll (descriptor : Descriptor) : Dialogue System (Except OsError (List UInt8)) :=
  readAllWithin descriptor blockLimit

/-- The content of the file that a path names. -/
def readFile (path : OsString) : Dialogue System (Except OsError (List UInt8)) := do
  match ← openPath path .toRead with
  | .error e => return .error e
  | .ok descriptor =>
    let content ← readAll descriptor
    close descriptor
    return content

end System

end WorkerFleet.Host
