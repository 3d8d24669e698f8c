import WorkerFleet.Environment
import WorkerFleet.Host.System
import WorkerFleet.Octets

/-!
# Utilities at work

The small programs of the machine are written as steps that print, complain and ask the system.
What is printed is held back until there is a complaint or the program ends, so that both come out
in the order in which they were made.
-/

namespace WorkerFleet.Utility

open Host

/-- How a program comes to its end. -/
inductive Ending
  | status (code : Nat)
  /-- Another program takes its place. -/
  | replaced (image : Image) (env : Environment)

/-- A running program. -/
structure Work where
  /-- The name by which it was called. -/
  name : Octets
  env : Environment
  /-- What it has printed and not written yet, the last piece in front. -/
  pending : List Octets := []
  status : Nat := 0

abbrev Program := ExceptT Ending (StateT Work (Dialogue System))

def shown (text : Octets) : String := String.ofList text

def path (text : Octets) : OsString := .ofOctets text

/-- The error stream takes everything at once; nobody minds if it is closed. -/
def writeError (text : Octets) : Program Unit := do
  let _ ← (System.write standardError (OsString.ofOctets text).bytes : Dialogue System _)

/-- Writes what has been printed so far. -/
def flush : Program Unit := do
  let work ← get
  if !work.pending.isEmpty then
    set { work with pending := [] }
    let bytes := (OsString.ofOctets work.pending.reverse.flatten).bytes
    if !bytes.isEmpty then
      match ← (System.write standardOutput bytes : Dialogue System _) with
      | .ok () => pure ()
      | .error e =>
        writeError (work.name ++ (": write error: " ++ e.text ++ "\n").toList)
        throw (.status 1)

def print (text : Octets) : Program Unit :=
  modify fun w => { w with pending := text :: w.pending }

def printLine (text : Octets) : Program Unit := print (text ++ ['\n'])

/-- Goes to the error stream after all that was printed before. -/
def complainRaw (text : String) : Program Unit := do
  flush
  writeError text.toList

def complain (message : String) : Program Unit := do
  complainRaw (shown (← get).name ++ ": " ++ message ++ "\n")

/-- The worst status counts in the end. -/
def worsen (status : Nat) : Program Unit :=
  modify fun w => { w with status := max w.status status }

/-- A complaint that does not end the program. -/
def fail (status : Nat) (message : String) : Program Unit := do
  complain message
  worsen status

def quit {α : Type} (status : Nat) : Program α := do
  flush
  throw (.status status)

/-- A complaint that ends the program. -/
def die {α : Type} (status : Nat) (message : String) : Program α := do
  complain message
  quit status

/-- Where a program that was called wrongly points to. -/
def pointToHelp {α : Type} (status : Nat) : Program α := do
  complainRaw ("Try '" ++ shown (← get).name ++ " --help' for more information.\n")
  quit status

def misuse {α : Type} (status : Nat) (message : String) : Program α := do
  complain message
  pointToHelp status

/-- The program as a process does it, from its name and environment on. -/
def Program.run (program : Program Unit) (name : Octets) (env : Environment) :
    Dialogue System Ending := do
  let (ending, work) ← (ExceptT.run (do program; flush)).run { name, env }
  match ending with
  | .ok () => return .status work.status
  | .error ending => return ending

/-- All that is left of the standard input. -/
def input : Program (Except OsError Octets) := do
  return (← (System.readAll standardInput : Dialogue System _)).map fun bytes => OsString.octets ⟨bytes⟩

/-- The content of a file, or of the input for a dash. -/
def contentOf (file : Octets) : Program (Except OsError Octets) := do
  if file = ['-'] then input
  else
    return (← (System.readFile (path file) : Dialogue System _)).map fun bytes =>
      OsString.octets ⟨bytes⟩

/-- The files to read; without any it is the input. -/
def orInput (files : List Octets) : List Octets := if files.isEmpty then [['-']] else files

def status? (file : Octets) (follow : Bool) : Program (Except OsError Status) :=
  (System.status (path file) follow : Dialogue System _)

def isDirectory (file : Octets) : Program Bool := do
  match ← status? file true with
  | .ok status => return status.isDirectory
  | .error _ => return false

end WorkerFleet.Utility
