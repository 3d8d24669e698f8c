import WorkerFleet.Collaborator
import WorkerFleet.Host.System
import WorkerFleet.LaunchError
import WorkerFleet.Text.Blank
import WorkerFleet.Text.Quoted
import WorkerFleet.Text.Split

/-!
# The stand-in worker

A worker that does nothing but leave a trace. It claims the lowest free slot of a directory by
creating a file of that name, which no two workers can do for one slot, and writes its process
number into it. Then it sleeps and exits as two lists say for its index, which the launcher tells
it; without a launcher the slot takes the index's place. The last entry of a list holds for all
later indices.
-/

namespace WorkerFleet

open Text Host

namespace StandIn

def recordVariable : String := "STUB_GC_RECORD_DIR"

def sleepVariable : String := "STUB_GC_SLEEP_MS"

def codesVariable : String := "STUB_GC_EXIT_CODES"

/-- The variable in which a launcher tells the index, as the stand-in knows it. -/
def indexVariable : String := "GC_LAUNCHER_WORKER_INDEX"

/-- The numbers that an index or a slot may be are below this. -/
def wordSize : Nat := 18446744073709551616

/-- The slots that can be tried are below this: to try one, the number after it must exist too. -/
def slotLimit : Nat := wordSize - 1

inductive Failure
  | slotFile (e : OsError)
  | slotContent (e : OsError)
  /-- The slots have no end for the search, but their numbers have one. -/
  | slotOverflow
  | badIndex (text : String) (fault : Decimal.Fault)
  | badEntry (variableName : String) (entry : String) (fault : Decimal.Fault)
  deriving DecidableEq, Repr

def quoted (text : String) : String := String.ofList (Quoted.quote text.toList)

def Failure.report : Failure → String
  | .slotFile e => withCause "could not create slot file" e.message
  | .slotContent e => e.message
  | .slotOverflow => "attempt to add with overflow"
  | .badIndex text fault =>
    withCause ("invalid " ++ indexVariable ++ " " ++ quoted text) fault.message
  | .badEntry name entry fault =>
    withCause ("invalid entry " ++ quoted entry ++ " in " ++ name) fault.message

/-- What is written to the error stream. An overflow is no error that could be reported, so the
stand-in breaks off. -/
def Failure.complaint (e : Failure) : String :=
  match e with
  | .slotOverflow => "\nthread 'main' panicked:\n" ++ e.report ++ "\n"
  | _ => "Error: " ++ e.report ++ "\n"

def Failure.exitCode : Failure → Nat
  | .slotOverflow => 101
  | _ => 1

/-- The file of a slot. -/
def slotPath (dir : OsString) (slot : Nat) : OsString :=
  Path.join dir (.ofText (String.ofList (Decimal.ofNat slot)))

/-- Tries `remaining` slots, from `slot` on, until one can be created. -/
def claimFrom (dir : OsString) :
    (remaining slot : Nat) → Dialogue System (Except Failure Nat)
  | 0, _ => .done (.error .slotOverflow)
  | remaining + 1, slot =>
    .ask (.createNew (slotPath dir slot)) fun
      | .error e =>
        if e = .alreadyExists then claimFrom dir remaining (slot + 1)
        else .done (.error (.slotFile e))
      | .ok () => .done (.ok slot)

/-- Claims the lowest free slot and writes the process number into its file. -/
def claimSlot (dir : OsString) : Dialogue System (Except Failure Nat) := do
  match ← claimFrom dir slotLimit 0 with
  | .error e => return .error e
  | .ok slot =>
    let pid ← System.ownPid
    let line := String.ofList (Decimal.ofNat pid) ++ "\n"
    match ← System.append (slotPath dir slot) (OsString.ofText line).bytes with
    | .error e => return .error (.slotContent e)
    | .ok () => return .ok slot

/-- The entries of a comma-separated list, without the white space around them; empty ones do not
count. -/
def entries (list : String) : List (List Char) :=
  ((splitOn ',' list.toList).map trim).filter (!·.isEmpty)

/-- The entry for an index: its own, or the last one of a list that is too short. -/
def select? {α : Type} (entries : List α) (index : Nat) : Option α :=
  match entries[index]? with
  | some entry => some entry
  | none => entries.getLast?

/-- The number that a variable's list gives for an index, if it gives any. -/
def nthEntry (env : Environment) (name : String) (limit index : Nat) :
    Except Failure (Option Nat) :=
  match env.text? name with
  | none => .ok none
  | some list =>
    match select? (entries list) index with
    | none => .ok none
    | some entry =>
      match Decimal.natural limit entry with
      | .error fault => .error (.badEntry name (String.ofList entry) fault)
      | .ok n => .ok (some n)

/-- The worker's index; it defaults to the slot. -/
def readIndex (env : Environment) (slot : Nat) : Except Failure Nat :=
  match env.text? indexVariable with
  | none => .ok slot
  | some text =>
    match Decimal.natural (wordSize - 1) text.toList with
    | .error fault => .error (.badIndex text fault)
    | .ok index => .ok index

/-- The slot, if there is a directory to record in, else 0. -/
def slot (env : Environment) : Dialogue System (Except Failure Nat) :=
  match env.get? recordVariable with
  | some dir => claimSlot dir
  | none => .done (.ok 0)

/-- The exit code, or what went wrong. -/
def run (env : Environment) : Dialogue System (Except Failure Nat) := do
  match ← slot env with
  | .error e => return .error e
  | .ok slot =>
    match readIndex env slot with
    | .error e => return .error e
    | .ok index =>
      match nthEntry env sleepVariable (wordSize - 1) index with
      | .error e => return .error e
      | .ok sleep =>
        if let some milliseconds := sleep then System.pause (milliseconds * 1000)
        match nthEntry env codesVariable 255 index with
        | .error e => return .error e
        | .ok code => return .ok (code.getD 0)

end StandIn

end WorkerFleet
