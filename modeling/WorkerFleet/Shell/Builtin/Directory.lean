import WorkerFleet.Host.Executable
import WorkerFleet.Host.Mode
import WorkerFleet.Shell.Builtin.Options

/-!
# Commands on directories and permissions

A script keeps the names that led it to its directory. Two dots take the last of them back, whatever
symbolic links were on the way.
-/

namespace WorkerFleet.Shell.Builtin

open Host Eval

/-- A path followed from a directory by its names alone. -/
def follow (from_ path : Octets) : Octets :=
  let isAbsolute := path.head? == some '/'
  let names := (Text.splitOn '/' (if isAbsolute then path else from_ ++ '/' :: path)).filter
    fun n => !n.isEmpty && n ≠ ['.']
  let kept := names.foldl (fun (kept : List Octets) n =>
    if n = "..".toList then kept.drop 1 else n :: kept) []
  let root := if isAbsolute && "//".toList.isPrefixOf path && !"///".toList.isPrefixOf path
    then "//".toList else ['/']
  root ++ ['/'].intercalate kept.reverse

def physicalDir : Eval Octets := do
  return (← (System.currentDir : Dialogue System _)).octets

/-- Goes to a directory and notes it down with the one before. -/
def enter (physical : Bool) (target : Octets) : Eval Bool := do
  let s ← get
  let logical := follow s.directory target
  let path := if physical then target else logical
  match ← (System.changeDir (.ofOctets path) : Dialogue System _) with
  | .error _ => return false
  | .ok () =>
    let dir ← if physical then physicalDir else pure logical
    assign "OLDPWD".toList s.directory
    assign "PWD".toList dir
    modify fun s =>
      { ((s.publish "OLDPWD".toList).publish "PWD".toList) with directory := dir }
    return true

/-- The options that say whether symbolic links count: the last one does. -/
def isPhysical (args : List Octets) : Eval (Bool × List Octets) := do
  let (found, operands) ← options "LP" args
  return ((found.getLast?.map (·.1)) == some 'P', operands)

/-- Whether a path begins in a certain place, so that it is not looked for. -/
def isAnchored (path : Octets) : Bool :=
  let first := path.takeWhile (· != '/')
  path.head? == some '/' || first = ['.'] || first = "..".toList

/-- The first of several directories that has a directory of some name, and whether it is to be
told. -/
def searchDirs (target : Octets) : List OsString → Eval (Option (Octets × Bool))
  | [] => return none
  | place :: rest => do
    let path := Path.join place (.ofOctets target)
    match ← (System.status path true : Dialogue System _) with
    | .ok status =>
      if status.isDirectory then return some (path.octets, !place.isEmpty)
      else searchDirs target rest
    | .error _ => searchDirs target rest

/-- `cd`; a dash stands for the directory before. -/
def changeDir (args : List Octets) : Eval Unit := do
  let (physical, operands) ← isPhysical args
  let s ← get
  let (target, isTold) :=
    match operands with
    | [] => (s.value "HOME", false)
    | ['-'] :: _ => (s.value "OLDPWD", true)
    | target :: _ => (target, false)
  let found ←
    if isAnchored target then pure none
    else
      let target := if target.isEmpty then ['.'] else target
      match s.value? "CDPATH".toList with
      | none => pure none
      | some path => searchDirs target (Executable.searchPath (some (.ofOctets path)))
  let (goal, isTold) :=
    match found with
    | some (path, told) => (path, isTold || told)
    | none => (if target.isEmpty then ['.'] else target, isTold)
  if ← enter physical goal then
    if isTold then printLine (← get).directory
  else fail ("can't cd to " ++ String.ofList target)

/-- `pwd` -/
def tellDir (args : List Octets) : Eval Unit := do
  let (physical, _) ← isPhysical args
  printLine (← if physical then physicalDir else pure (← get).directory)

/-- `umask` tells or changes which permissions new files lack. -/
def umask (args : List Octets) : Eval Unit := do
  let (found, operands) ← options "S" args
  let mask ← (System.setMask 0 : Dialogue System _)
  let _ ← (System.setMask mask : Dialogue System _)
  match operands with
  | [] =>
    let mode := Mode.full - mask
    if found.isEmpty then
      let digits := Nat.toDigits 8 mask
      printLine (List.replicate (4 - digits.length) '0' ++ digits)
    else
      printLine ("u=".toList ++ Mode.letters (mode / 64) ++ ",g=".toList ++
        Mode.letters (mode / 8) ++ ",o=".toList ++ Mode.letters mode)
  | text :: _ =>
    if text.head?.any Char.isDigit then
      if !text.all fun c => '0' ≤ c && c ≤ '7' then badNumber text
      let mode := text.foldl (fun n c => n * 8 + (c.toNat - '0'.toNat)) 0
      let _ ← (System.setMask (mode % 512) : Dialogue System _)
    else
      let before := Mode.full - mask
      match Mode.read? ⟨before, 0, false⟩ text with
      | some mode =>
        let _ ← (System.setMask (Mode.full - mode % 512) : Dialogue System _)
      | none => fail ("Illegal mode: " ++ String.ofList text)

end WorkerFleet.Shell.Builtin
