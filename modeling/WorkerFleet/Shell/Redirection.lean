import WorkerFleet.Shell.State

/-!
# Redirections

A redirected descriptor leads elsewhere while a command runs. What it led to before is put aside
and put back afterwards.
-/

namespace WorkerFleet.Shell

open Host Eval

/-- A redirection whose words have been expanded, except for texts that stand in the script. -/
inductive Prepared
  | file (descriptor : Descriptor) (direction : Direction) (name : Octets)
  | here (descriptor : Descriptor) (text : List Part)
  | copy (descriptor source : Descriptor)
  | close (descriptor : Descriptor)

/-- The descriptors that were redirected, with what they led to, if to anything. -/
abbrev Aside := List (Descriptor × Option Descriptor)

/-- What a shell says about a file that it cannot open. -/
def openFault (creating : Bool) (e : OsError) : String :=
  if e = .notFound || e = .notDirectory then
    if creating then "Directory nonexistent" else "No such file"
  else e.text

namespace Redirection

/-- Puts aside what a descriptor leads to, unless that has been done. -/
def putAside (aside : Aside) (d : Descriptor) : Eval Aside := do
  if aside.any (·.1 == d) then return aside
  match ← (System.putAside d : Dialogue System _) with
  | .ok place =>
    (System.close d : Dialogue System _)
    return (d, some place) :: aside
  | .error _ => return (d, none) :: aside

/-- Lets a descriptor lead to what has just been opened. -/
def settle (aside : Aside) (d opened : Descriptor) : Eval Aside := do
  if opened = d then return if aside.any (·.1 == d) then aside else (d, none) :: aside
  let aside ← putAside aside d
  let _ ← (System.duplicate opened d : Dialogue System _)
  (System.close opened : Dialogue System _)
  return aside

/-- Puts everything back. -/
def putBack (aside : Aside) : Eval Unit := do
  for (d, place) in aside do
    match place with
    | some place =>
      let _ ← (System.duplicate place d : Dialogue System _)
      (System.close place : Dialogue System _)
    | none => (System.close d : Dialogue System _)

/-- Leaves everything as it is from now on. -/
def keep (aside : Aside) : Eval Unit := do
  for (_, place) in aside do
    if let some place := place then (System.close place : Dialogue System _)

/-- A complaint about a redirection, which only keeps its command from running. -/
def refuse (aside : Aside) (message : String) : Eval (Aside × Bool) := do
  complain message
  setStatus 2
  return (aside, false)

/-- Opens a file. With one option output does not empty a file that is there. -/
def openFile (direction : Direction) (name : Octets) : Eval (Except OsError Descriptor) := do
  let path := OsString.ofOctets name
  match direction with
  | .input => (System.openPath path .toRead : Dialogue System _)
  | .both => (System.openPath path .toReadAndWrite : Dialogue System _)
  | .append => (System.openPath path .toAppend : Dialogue System _)
  | .clobber => (System.openPath path .toWrite : Dialogue System _)
  | .output =>
    if (← get).has .noclobber then
      match ← (System.status path true : Dialogue System _) with
      | .ok status =>
        if status.isFile then return .error .alreadyExists
        else (System.openPath path .toWrite : Dialogue System _)
      | .error _ => (System.openPath path .toWriteNew : Dialogue System _)
    else (System.openPath path .toWrite : Dialogue System _)

/-- One redirection; the answer tells whether it went well. -/
def apply (expand : List Part → Eval Octets) (aside : Aside) : Prepared → Eval (Aside × Bool)
  | .file d direction name => do
    match ← openFile direction name with
    | .ok opened => return (← settle aside d opened, true)
    | .error e =>
      let creating := direction != .input
      refuse aside ((if creating then "cannot create " else "cannot open ") ++
        String.ofList name ++ ": " ++ openFault creating e)
  | .here d text => do
    try
      let bytes := (OsString.ofOctets (← expand text)).bytes
      let opened ← (System.openText bytes : Dialogue System _)
      return (← settle aside d opened, true)
    catch
      | .fault => return (aside, false)
      | flow => throw flow
  | .copy d source => do
    if source = d then return (aside, true)
    let aside ← putAside aside d
    match ← (System.duplicate source d : Dialogue System _) with
    | .ok () => return (aside, true)
    | .error e => refuse aside (toString source ++ ": " ++ e.text)
  | .close d => do
    let aside ← putAside aside d
    (System.close d : Dialogue System _)
    return (aside, true)

/-- Several redirections, up to the first that fails. -/
def applyAll (expand : List Part → Eval Octets) : Aside → List Prepared → Eval (Aside × Bool)
  | aside, [] => return (aside, true)
  | aside, next :: rest => do
    match ← apply expand aside next with
    | (aside, true) => applyAll expand aside rest
    | (aside, false) => return (aside, false)

end Redirection

end WorkerFleet.Shell
