import WorkerFleet.Environment
import WorkerFleet.Host.System
import WorkerFleet.Shell.Script
import WorkerFleet.Shell.Setting
import WorkerFleet.Text.Decimal
import WorkerFleet.Text.Word

/-!
# The state of a shell

Variables, parameters and options of a running script, and the ways in which a script leaves its
straight course.
-/

namespace WorkerFleet.Shell

open Host Octets

structure Variable where
  /-- A variable without a value may be marked all the same. -/
  value : Option Octets
  exported : Bool := false
  readOnly : Bool := false
  deriving DecidableEq, Repr

structure State where
  name : Octets
  pid : Pid
  parameters : List Octets := []
  /-- In the order in which they were made. -/
  bindings : List (Octets × Variable) := []
  functions : List (Octets × Command) := []
  aliases : List (Octets × Octets) := []
  settings : Settings := []
  status : Nat := 0
  /-- Within an action for a signal or for the end, the status that counts after it. -/
  saved : Option Nat := none
  /-- The status of the last substitution in a command, which is that of a command without words. -/
  substituted : Nat := 0
  line : Nat := 1
  /-- The processes that were started in the background, the last one in front. -/
  jobs : List Pid := []
  /-- What to do at a signal, 0 being the end of the script. Nothing at all means to ignore it. -/
  traps : List (Nat × Octets) := []
  /-- How many conditions are being tried, in which a failure does not end a strict script. -/
  conditions : Nat := 0
  /-- How many loops are being run, of which `break` can leave some. -/
  loops : Nat := 0
  /-- Within a function, the variables that it hides with its own, as they were before. -/
  hidden : Option (List (Octets × Option Variable)) := none
  /-- How many functions are being run. -/
  calls : Nat := 0
  /-- The builtin that is being run. -/
  builtin : Option Octets := none
  /-- The argument at which `getopts` goes on, counted from one, and how far it has come in the one
  before it. -/
  optionIndex : Nat := 1
  optionOffset : Option Nat := none
  /-- The directory as the script has come to it. -/
  directory : Octets := []
  /-- The programs whose places are known. -/
  tracked : List Octets := []
  /-- What a builtin has printed, the latest piece in front. -/
  pending : List Octets := []

inductive Flow
  | leave (status : Nat)
  /-- Something went wrong that ends all but a few commands. -/
  | fault
  | back
  | breakOut (levels : Nat)
  | again (levels : Nat)
  deriving DecidableEq, Repr

/-- Running a piece of a script. -/
abbrev Eval := ExceptT Flow (StateT State (Dialogue System))

namespace State

def has (s : State) (setting : Setting) : Bool := s.settings.contains setting

def entry? (s : State) (name : Octets) : Option Variable := s.bindings.lookup name

def value? (s : State) (name : Octets) : Option Octets := (s.entry? name).bind (·.value)

def value (s : State) (name : String) : Octets := (s.value? name.toList).getD []

def putVariable (s : State) (name : Octets) (v : Variable) : State :=
  if (s.entry? name).isSome then
    { s with bindings := s.bindings.map fun w => if w.1 = name then (name, v) else w }
  else { s with bindings := s.bindings ++ [(name, v)] }

def removeVariable (s : State) (name : Octets) : State :=
  { s with bindings := s.bindings.filter (·.1 ≠ name) }

/-- Puts a variable back as it was. -/
def putBack (s : State) (saved : Octets × Option Variable) : State :=
  match saved with
  | (name, some v) => s.putVariable name v
  | (name, none) => s.removeVariable name

def isReadOnly (s : State) (name : Octets) : Bool := (s.entry? name).any (·.readOnly)

/-- Gives a variable a value. With one option all variables are exported from then on. -/
def assign (s : State) (name value : Octets) : State :=
  let old := (s.entry? name).getD ⟨none, false, false⟩
  let exported := old.exported || s.has .allexport
  let s :=
    if name = "OPTIND".toList then
      { s with optionIndex := max 1 (number value), optionOffset := none }
    else if name = "PATH".toList then { s with tracked := [] }
    else s
  s.putVariable name { old with value := some value, exported }

def publish (s : State) (name : Octets) : State :=
  s.putVariable name { (s.entry? name).getD ⟨none, false, false⟩ with exported := true }

def protect (s : State) (name : Octets) : State :=
  s.putVariable name { (s.entry? name).getD ⟨none, false, false⟩ with readOnly := true }

/-- Makes a variable the function's own. -/
def hide (s : State) (name : Octets) : State :=
  match s.hidden with
  | none => s
  | some saved =>
    if saved.any (·.1 = name) then s
    else { s with hidden := some ((name, s.entry? name) :: saved) }

/-- Puts the hidden variables back. -/
def uncover (s : State) : State := (s.hidden.getD []).foldl putBack s

/-- Variables are kept in so many rows. -/
def rows : Nat := 39

/-- The row of a variable. -/
def row (name : Octets) : Nat :=
  (name.foldl (fun sum c => sum + c.toNat) ((name.headD '\x00').toNat * 16)) % rows

/-- The variables that a program started from here gets, row by row. -/
def environment (s : State) : Environment :=
  let exported := s.bindings.filterMap fun v =>
    if v.2.exported then v.2.value.map fun value => (v.1, value) else none
  ⟨(exported.mergeSort fun a b => row a.1 ≤ row b.1).map fun v =>
    (String.ofList v.1, OsString.ofOctets v.2)⟩

def separators (s : State) : Octets := (s.value? "IFS".toList).getD " \t\n".toList

/-- The value of a parameter, if it is set. -/
def parameter? (s : State) (name : Octets) : Option Octets :=
  match name with
  | ['#'] => some (Text.Decimal.ofNat s.parameters.length)
  | ['?'] => some (Text.Decimal.ofNat s.status)
  | ['$'] => some (Text.Decimal.ofNat s.pid)
  | ['-'] => some s.settings.letters
  | ['!'] => s.jobs.head?.map Text.Decimal.ofNat
  | ['@'] | ['*'] =>
    if s.parameters.isEmpty then none
    else some ((s.separators.take 1).intercalate s.parameters)
  | ['0'] => some s.name
  | c :: rest =>
    if c.isDigit then
      if number (c :: rest) = 0 then some s.name else s.parameters[number (c :: rest) - 1]?
    else s.value? name
  | [] => none

/-- Whether a signal may still lead to some action. -/
def hasActions (s : State) : Bool := s.traps.any fun t => !t.2.isEmpty

end State

/-- The variables that every shell has. -/
def ownVariables (parent : Pid) : List (Octets × Variable) :=
  [("IFS", " \t\n".toList), ("OPTIND", ['1']), ("PATH", defaultPath.toList), ("PS1", "$ ".toList),
   ("PS2", "> ".toList), ("PS4", "+ ".toList), ("PPID", Text.Decimal.ofNat parent)].map fun v =>
    (v.1.toList, ⟨some v.2, false, false⟩)
where
  /-- Where programs are looked for when nothing is said about it. -/
  defaultPath : String := "/usr/local/sbin:/usr/local/bin:/usr/sbin:/usr/bin:/sbin:/bin"

/-- The variables of a shell that starts in an environment. Names that no script can use are left
out, and the separators of words are never taken over. -/
def variablesOf (parent : Pid) (env : Environment) : List (Octets × Variable) :=
  let start : State := { name := [], pid := 0, bindings := ownVariables parent }
  let taken := env.bindings.filter fun v => isName v.1.toList && v.1 ≠ "IFS" && v.1 ≠ "PPID"
  (taken.foldl (fun s v =>
    (s.assign v.1.toList v.2.octets).publish v.1.toList) start).bindings

namespace Eval

def write (descriptor : Descriptor) (text : Octets) : Eval (Except OsError Unit) :=
  if text.isEmpty then pure (.ok ())
  else (System.write descriptor (OsString.ofOctets text).bytes : Dialogue System _)

def printError (text : Octets) : Eval Unit := do
  let _ ← write standardError text

def setStatus (status : Nat) : Eval Unit := modify fun s => { s with status }

/-- A complaint of the shell, with the place in the script and the builtin that is being run. -/
def complain (message : String) : Eval Unit := do
  let s ← get
  let builtin :=
    match s.builtin with
    | some name => String.ofList name ++ ": "
    | none => ""
  printError (s.name ++ (": " ++ toString s.line ++ ": " ++ builtin ++ message ++ "\n").toList)

/-- A complaint that ends what is being run. -/
def fail {α : Type} (message : String) : Eval α := do
  complain message
  setStatus 2
  throw .fault

/-- What a builtin prints comes out when it is done. -/
def print (text : Octets) : Eval Unit := modify fun s => { s with pending := text :: s.pending }

def printLine (text : Octets) : Eval Unit := print (text ++ ['\n'])

/-- Writes what a builtin has printed. That this cannot be done is a failure of the builtin. -/
def flush : Eval Unit := do
  let text := (← get).pending.reverse.flatten
  modify fun s => { s with pending := [] }
  match ← write standardOutput text with
  | .ok () => pure ()
  | .error _ =>
    complain (String.ofList ((← get).builtin.getD []) ++ ": I/O error")
    modify fun s => { s with status := s.status ||| 1 }

/-- Does something and then something else, however the first ends. -/
def ensuring {α : Type} (after : Eval Unit) (body : Eval α) : Eval α := do
  let result ←
    try
      Except.ok <$> body
    catch flow => pure (Except.error flow)
  after
  match result with
  | .ok value => return value
  | .error flow => throw flow

/-- Does something and puts parts of the state back, however it ends. -/
def restoring {α : Type} (restore : State → State) (body : Eval α) : Eval α := do
  try
    let value ← body
    modify restore
    return value
  catch flow =>
    modify restore
    throw flow

/-- A number that is given to a builtin. -/
def badNumber {α : Type} (text : Octets) : Eval α := fail ("Illegal number: " ++ String.ofList text)

/-- The numbers that builtins take end here. -/
def highestNumber : Int := 2147483647

/-- A number that a builtin takes. -/
def natural (text : Octets) : Eval Nat := do
  match Text.Word.integer? (Text.Word.readDigits 10) text with
  | some n => if 0 ≤ n && n ≤ highestNumber then return n.toNat else badNumber text
  | none => badNumber text

/-- Whether a variable of this name may be changed. -/
def checkName (name : Octets) : Eval Unit := do
  if !isName name then fail (String.ofList name ++ ": bad variable name")
  if (← get).isReadOnly name then fail (String.ofList name ++ ": is read only")

/-- Gives a variable a value, unless it must not be changed. -/
def assign (name value : Octets) : Eval Unit := do
  checkName name
  if name = "OPTIND".toList then let _ ← natural value
  modify fun s => s.assign name value

def unset (name : Octets) : Eval Unit := do
  checkName name
  modify fun s => s.removeVariable name

end Eval

end WorkerFleet.Shell
