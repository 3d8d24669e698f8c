import WorkerFleet.Utility.Quoting
import WorkerFleet.Utility.Program

/-!
# Input of utilities

Most programs read all of a file before they do anything. Some read on only as far as they need; what
they have read too much is given back where that can be done.
-/

namespace WorkerFleet.Utility

open Host

/-- Something that is read bit by bit. -/
structure Source where
  descriptor : Descriptor
  /-- Has been read and not been used. -/
  buffer : Octets := []
  deriving Repr

namespace Source

/-- A file, or the input for a dash. -/
def ofName (file : Octets) : Program (Except OsError Source) := do
  if file = ['-'] then return .ok { descriptor := standardInput }
  else
    return (← (System.openPath (path file) .toRead : Dialogue System _)).map fun d =>
      { descriptor := d }

/-- So much is read at a time. -/
def blockSize : Nat := 32768

/-- Reads more; the answer tells whether there was any. -/
def more (s : Source) : Program (Except OsError (Bool × Source)) := do
  match ← (System.read s.descriptor blockSize : Dialogue System _) with
  | .error e => return .error e
  | .ok bytes => return .ok (!bytes.isEmpty, { s with buffer := s.buffer ++ OsString.octets ⟨bytes⟩ })

/-- The next line with its end, if there is one; `fuel` bounds the number of blocks. -/
def nextLineWithin : (fuel : Nat) → Source → Program (Except OsError (Option Octets × Source))
  | 0, s => return .ok (none, s)
  | fuel + 1, s => do
    let line := s.buffer.takeWhile (· != '\n')
    match s.buffer.drop line.length with
    | _ :: rest => return .ok (some (line ++ ['\n']), { s with buffer := rest })
    | [] =>
      match ← s.more with
      | .error e => return .error e
      | .ok (true, s) => nextLineWithin fuel s
      | .ok (false, s) =>
        if line.isEmpty then return .ok (none, s) else return .ok (some line, { s with buffer := [] })

def nextLine (s : Source) : Program (Except OsError (Option Octets × Source)) :=
  nextLineWithin System.blockLimit s

/-- Gives back what was not used. -/
def giveBack (s : Source) : Program Unit := do
  if !s.buffer.isEmpty then
    let _ ← (System.goBack s.descriptor s.buffer.length : Dialogue System _)

/-- Ends the reading. -/
def close (s : Source) : Program Unit := do
  if s.descriptor ≠ standardInput then (System.close s.descriptor : Dialogue System _)

end Source

/-- No directory lies deeper than that. -/
def depthLimit : Nat := 1000

end WorkerFleet.Utility
