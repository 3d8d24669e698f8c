import WorkerFleet.Host.System

/-!
# Processes and what they have open
-/

namespace WorkerFleet.Host

/-- The streams that all processes share from the beginning. -/
inductive Stream
  | input
  | output
  | error
  deriving DecidableEq, Repr

/-- What an open descriptor leads to. -/
inductive Target
  | shared (stream : Stream)
  | file (number : FileNumber)
  | channel (channel : Channel)
  | directory (place : Location)
  | device (device : Device)
  | program
  deriving DecidableEq, Repr

/-- Something that was opened once. Descriptors that were made from one another share it, with its
place in the file. -/
structure Opening where
  target : Target
  access : Access
  offset : Nat := 0
  deriving Repr

abbrev OpeningNumber := Nat

/-- What all processes begin with. -/
def sharedOpenings : List (OpeningNumber × Opening) := [
  (0, { target := .shared .input, access := .toRead }),
  (1, { target := .shared .output, access := .toAppend }),
  (2, { target := .shared .error, access := .toAppend })]

/-- The descriptors of a process that was not started by another one. -/
def standardDescriptors : List (Descriptor × OpeningNumber) :=
  [(standardInput, 0), (standardOutput, 1), (standardError, 2)]

/-- What a process waits for when its request cannot be answered. -/
inductive Blocker
  /-- The end of a child. -/
  | child
  /-- The end of a child or the time to go on. -/
  | childOrTime
  | channel (channel : Channel)
  /-- Somebody who opens the other end. -/
  | partner (channel : Channel) (reading : Bool)
  deriving DecidableEq, Repr

structure Process where
  pid : Pid
  /-- Who may wait for it; `nobody` if that process has ended. -/
  parent : Pid
  /-- When it goes on, in microseconds. -/
  wake : Nat
  dir : Location
  body : Dialogue System Nat
  blocker : Option Blocker := none
  /-- A stopped process does nothing until a signal makes it go on. -/
  stopped : Bool := false
  ignored : List Nat := []
  caught : List Nat := []
  /-- Caught signals that it has not asked for yet. -/
  arrived : List Nat := []
  /-- Signals that will end it as soon as it is not stopped any more. -/
  held : List Nat := []
  descriptors : List (Descriptor × OpeningNumber) := standardDescriptors
  /-- The permissions that its new files lack. -/
  mask : Nat := 0o022
  /-- The children that are known to have ended. -/
  reaped : List (Pid × ExitStatus) := []

namespace Process

/-- Whether it can go on when its time has come. -/
def isReady (p : Process) : Bool :=
  !p.stopped &&
    match p.blocker with
    | none => true
    | some .childOrTime => true
    | some _ => false

def waitsForChild (p : Process) : Bool :=
  p.blocker == some .child || p.blocker == some .childOrTime

def opening? (p : Process) (descriptor : Descriptor) : Option OpeningNumber :=
  p.descriptors.lookup descriptor

/-- The least number from some number on that leads nowhere yet. -/
def freeDescriptor (p : Process) (least : Descriptor) : Descriptor :=
  ((List.range (p.descriptors.length + 1)).map (· + least)).find? (fun d => (p.opening? d).isNone)
    |>.getD least

def setDescriptor (p : Process) (descriptor : Descriptor) (number : OpeningNumber) : Process :=
  { p with descriptors := (descriptor, number) :: p.descriptors.filter (·.1 ≠ descriptor) }

/-- The mode of a new file. -/
def masked (p : Process) (mode : Nat) : Nat := mode - (mode &&& p.mask)

/-- What becomes of a signal from now on. -/
def setDisposition (p : Process) (signal : Nat) (disposition : Disposition) : Process :=
  let ignored := p.ignored.filter (· ≠ signal)
  let caught := p.caught.filter (· ≠ signal)
  match disposition with
  | .default => { p with ignored, caught }
  | .ignored => { p with ignored := signal :: ignored, caught }
  | .caught => { p with ignored, caught := signal :: caught }

end Process

/-- A process that has ended and has not been waited for. -/
structure Remnant where
  pid : Pid
  parent : Pid
  status : ExitStatus
  deriving Repr

end WorkerFleet.Host
