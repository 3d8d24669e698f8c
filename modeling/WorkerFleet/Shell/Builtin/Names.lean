import WorkerFleet.Host.Executable
import WorkerFleet.Shell.Builtin.Variables

/-!
# Commands on names

What a name stands for as a command: a reserved word, an alias, a function, a command of the shell
or a program.
-/

namespace WorkerFleet.Shell.Builtin

open Host Eval

/-- The commands of the shell that follow the rules for ordinary programs. -/
def regular : List String :=
  ["[", "alias", "bg", "cd", "chdir", "command", "echo", "false", "fg", "getopts", "hash", "jobs",
   "kill", "printf", "pwd", "read", "test", "true", "type", "ulimit", "umask", "unalias", "wait"]

def isSpecial (name : Octets) : Bool := Reader.specialBuiltins.contains (String.ofList name)

def isBuiltin (name : Octets) : Bool := isSpecial name || regular.contains (String.ofList name)

/-- Those that take assignments as arguments. -/
def isDeclaration (name : Octets) : Bool :=
  ["export", "readonly", "local"].contains (String.ofList name)

inductive Meaning
  | keyword
  | abbreviation (text : Octets)
  | function
  | builtin
  | program (path : Octets)
  deriving DecidableEq, Repr

def isFile (path : OsString) : Eval Bool := do
  match ← (System.status path true : Dialogue System _) with
  | .ok status => return status.isFile
  | .error _ => return false

/-- The first directory of a path that has a file of some name. -/
def findProgram (name : Octets) : List OsString → Eval (Option Octets)
  | [] => return none
  | place :: rest => do
    let path := Path.join place (.ofOctets name)
    if ← isFile path then return some path.octets else findProgram name rest

/-- The directories in which a script looks for programs. -/
def searchPath (s : State) : List OsString :=
  Executable.searchPath ((s.value? "PATH".toList).map OsString.ofOctets)

def meaning? (name : Octets) : Eval (Option Meaning) := do
  let s ← get
  if Reader.reserved.contains (String.ofList name) then return some .keyword
  match s.aliases.lookup name with
  | some text => return some (.abbreviation text)
  | none =>
    if (s.functions.lookup name).isSome then return some .function
    else if isBuiltin name then return some .builtin
    else if name.contains '/' then
      match ← (System.status (.ofOctets name) true : Dialogue System _) with
      | .ok _ => return some (.program name)
      | .error _ => return none
    else return (← findProgram name (searchPath s)).map .program

/-- A program whose place is known from now on. -/
def track (name : Octets) : Eval Unit :=
  modify fun s =>
    if s.tracked.contains name || name.contains '/' then s
    else { s with tracked := name :: s.tracked }

/-- What `command -v` prints: the name, or the path of a program. -/
def locate (name : Octets) : Eval Unit := do
  match ← meaning? name with
  | none => setStatus 127
  | some (.program path) =>
    track name
    printLine path
  | some (.abbreviation text) => printLine ("alias ".toList ++ name ++ '=' :: quoted text)
  | some _ => printLine name

/-- Tells what a name stands for. -/
def describe (name : Octets) : Eval Unit := do
  let isTracked := (← get).tracked.contains name
  match ← meaning? name with
  | none =>
    printLine (name ++ ": not found".toList)
    setStatus 127
  | some meaning =>
    let text := match meaning with
      | .keyword => " is a shell keyword"
      | .abbreviation text => " is an alias for " ++ String.ofList text
      | .function => " is a shell function"
      | .builtin => if isSpecial name then " is a special shell builtin" else " is a shell builtin"
      | .program path =>
        (if isTracked then " is a tracked alias for " else " is ") ++ String.ofList path
    printLine (name ++ text.toList)
    if let .program _ := meaning then track name

/-- `type` -/
def describeAll (args : List Octets) : Eval Unit := do
  for name in args do describe name

/-- `hash` -/
def remember (args : List Octets) : Eval Unit := do
  let (found, names) ← options "rv" args
  if !found.isEmpty then modify fun s => { s with tracked := [] }
  else if names.isEmpty then
    for name in (← get).tracked do
      if let some path := ← findProgram name (searchPath (← get)) then printLine path
  else
    for name in names do
      match ← meaning? name with
      | some _ => track name
      | none =>
        complain (String.ofList name ++ ": not found")
        setStatus 1

/-- `alias` -/
def abbreviate (args : List Octets) : Eval Unit := do
  let definition (a : Octets × Octets) : Octets := a.1 ++ '=' :: quoted a.2
  if args.isEmpty then
    let all := (← get).aliases.mergeSort fun a b => State.row a.1 ≤ State.row b.1
    print (Octets.asLines (all.map definition))
  for arg in args do
    match Text.splitFirst '=' (arg.drop 1) with
    | (front, some text) =>
      let name := arg.take 1 ++ front
      modify fun s =>
        if (s.aliases.lookup name).isSome then
          { s with aliases := s.aliases.map fun a => if a.1 = name then (name, text) else a }
        else { s with aliases := s.aliases ++ [(name, text)] }
    | (_, none) =>
      match (← get).aliases.lookup arg with
      | some text => printLine (definition (arg, text))
      | none =>
        printError ("alias: ".toList ++ arg ++ " not found\n".toList)
        setStatus 1

/-- `unalias` -/
def unalias (args : List Octets) : Eval Unit := do
  let (found, names) ← options "a" args
  if !found.isEmpty then modify fun s => { s with aliases := [] }
  else
    for name in names do
      if ((← get).aliases.lookup name).isSome then
        modify fun s => { s with aliases := s.aliases.filter (·.1 ≠ name) }
      else
        printError ("unalias: ".toList ++ name ++ " not found\n".toList)
        setStatus 1

end WorkerFleet.Shell.Builtin
