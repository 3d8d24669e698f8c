import WorkerFleet.CommandLine.Stop
import WorkerFleet.Launcher

/-!
# Reading the command line

The arguments are read from left to right. What an argument gives is held back (`Pending`) until
the next thing is to be stored, so that of two faults the one that is stored first is reported.
After the first `--` everything is passed on to the workers.
-/

namespace WorkerFleet.CommandLine

open Text

/-- A whole configuration of the launcher. -/
structure Args where
  workers : WorkerCount
  collaborator : OsString
  waitOrder : WaitOrder
  failOnChildError : Bool
  collaboratorArgs : List OsString
  deriving DecidableEq, Repr

namespace Args

/-- The launcher that the configuration describes. -/
def launcher (args : Args) (env : Environment) : Launcher :=
  let options := (CollaboratorOptions.default env).withProgram args.collaborator
  (Launcher.new (options.withArguments args.collaboratorArgs)).withWaitOrder args.waitOrder

def exitPolicy (args : Args) : ExitPolicy := if args.failOnChildError then .propagate else .ignore

end Args

/-- An argument that was read and not stored yet. -/
inductive Pending
  | workers (word : OsString)
  | option (option : ValueOption) (value : Option OsString)
  | switch (switch : Switch)
  | passedOn (words : List OsString)
  deriving DecidableEq, Repr

structure Reader where
  /-- What has been stored, in that order. -/
  stored : List Argument := []
  workers : Option WorkerCount := none
  collaborator : Option OsString := none
  waitOrder : Option WaitOrder := none
  failOnChildError : Bool := false
  collaboratorArgs : List OsString := []
  pending : Option Pending := none
  /-- The pending option takes the next word as its value. -/
  awaitsValue : Bool := false
  /-- The word for the worker count was taken. -/
  workersTaken : Bool := false
  /-- The first `--` was read. -/
  trailing : Bool := false
  deriving DecidableEq, Repr

namespace Reader

/-- Notes that an argument was given, and goes on. Most may be given only once: the second time is
a fault and takes the first one back. -/
def note (r : Reader) (argument : Argument) (next : Reader → Reader × Option Stop) :
    Reader × Option Stop :=
  if argument != .passedOn && r.stored.contains argument then
    ({ r with stored := r.stored.erase argument }, some (.repeated argument))
  else next { r with stored := r.stored ++ [argument] }

/-- The worker count that a word gives. -/
def readWorkers (word : OsString) : Except Stop WorkerCount :=
  match word.text? with
  | none => .error .workersNotText
  | some text =>
    match WorkerCount.parse text with
    | .error fault => .error (.badWorkers text fault)
    | .ok count => .ok count

def readWaitOrder (value : OsString) : Except Stop WaitOrder :=
  if value.isEmpty then .error (.missingValue .waitOrder)
  else
    match value.text?.bind WaitOrder.ofName? with
    | none => .error (.badWaitOrder value)
    | some order => .ok order

def readCollaborator (value : OsString) : Except Stop OsString :=
  if value.isEmpty then .error (.missingValue .collaborator) else .ok value

/-- Stores an argument: the reader after it, and what is wrong with it. An argument whose value is
refused has been noted all the same. -/
def store (r : Reader) : Pending → Reader × Option Stop
  | .workers word => r.note .workers fun r =>
    match readWorkers word with
    | .error stop => (r, some stop)
    | .ok count => ({ r with workers := some count }, none)
  | .option option none => (r, some (.missingValue option))
  | .option .collaborator (some value) => r.note (.value .collaborator) fun r =>
    match readCollaborator value with
    | .error stop => (r, some stop)
    | .ok program => ({ r with collaborator := some program }, none)
  | .option .waitOrder (some value) => r.note (.value .waitOrder) fun r =>
    match readWaitOrder value with
    | .error stop => (r, some stop)
    | .ok order => ({ r with waitOrder := some order }, none)
  | .switch switch => r.note (.switch switch) fun r => ({ r with failOnChildError := true }, none)
  | .passedOn words => r.note .passedOn fun r => ({ r with collaboratorArgs := words }, none)

/-- Stores what is pending, whatever comes of it. -/
def settle (r : Reader) : Reader × Option Stop :=
  match r.pending with
  | none => (r, none)
  | some p => { r with pending := none, awaitsValue := false }.store p

/-- Stores what is pending. -/
def flush (r : Reader) : Except Stop Reader :=
  match r.settle with
  | (_, some stop) => .error stop
  | (r, none) => .ok r

def storeNow (r : Reader) (p : Pending) : Except Stop Reader := do
  let r ← r.flush
  match r.store p with
  | (_, some stop) => .error stop
  | (r, none) => .ok r

/-- Whether the rest of a word that begins with `-` reads as a number: digits, at most one point
after the first of them, and at most one exponent with something behind it. -/
def looksNumeric (point exponent : Bool) (isFirst : Bool) : List Char → Bool
  | [] => true
  | c :: rest =>
    if '0' ≤ c ∧ c ≤ '9' then looksNumeric point exponent false rest
    else if c = '.' ∧ !point ∧ !exponent ∧ !isFirst then looksNumeric true exponent false rest
    else if (c = 'e' ∨ c = 'E') ∧ !exponent ∧ !isFirst ∧ !rest.isEmpty then
      looksNumeric point true false rest
    else false

/-- A word that is no option. -/
def readWord (r : Reader) (word : OsString) : Except Stop Reader :=
  match r.awaitsValue, r.pending with
  | true, some (.option option _) =>
    .ok { r with pending := some (.option option (some word)), awaitsValue := false }
  | _, _ =>
    if r.workersTaken then .error (.unexpectedWord word)
    else do
      let r ← r.flush
      return { r with pending := some (.workers word), workersTaken := true }

/-- A word that begins with `--`, cut at the first `=`. -/
def readLong (r : Reader) (name : OsString) (value : Option OsString) : Except Stop Reader :=
  match name.text?.bind Argument.ofName?, value with
  | some (.value option), some value => r.storeNow (.option option (some value))
  | some (.value option), none => do
    let r ← r.flush
    return { r with pending := some (.option option none), awaitsValue := true }
  | some (.switch switch), some value =>
    .error (.unexpectedValue switch value r.stored.isEmpty)
  | some (.switch .failOnChildError), none => r.storeNow (.switch .failOnChildError)
  | some (.switch .help), none => do
    let _ ← r.flush
    .error (.help true)
  | some (.switch .version), none => do
    let _ ← r.flush
    .error .version
  | _, _ => .error (.unknownOption name r.settle.1.stored)

/-- What stands for the first character of a word after its `-`. -/
def letter (rest : OsString) : String :=
  match Utf8.scan rest.bytes with
  | some c :: _ => String.singleton c
  | _ => rest.display

/-- A word that begins with a single `-`. -/
def readShort (r : Reader) (word rest : OsString) : Except Stop Reader :=
  if !r.workersTaken && looksNumeric false false true (Utf8.decodeLossy rest.bytes) then
    r.readWord word
  else if letter rest = "h" then do
    let _ ← r.flush
    .error (.help false)
  else if letter rest = "V" then do
    let _ ← r.flush
    .error .version
  else .error (.unknownLetter (letter rest))

/-- A word after the first `--`. -/
def readPassedOn (r : Reader) (word : OsString) : Except Stop Reader :=
  match r.pending with
  | some (.passedOn words) => .ok { r with pending := some (.passedOn (words ++ [word])) }
  | _ => do
    let r ← r.flush
    return { r with pending := some (.passedOn [word]) }

def dash : UInt8 := 45

def equalsSign : UInt8 := 61

/-- One argument. -/
def step (r : Reader) (word : OsString) : Except Stop Reader :=
  if r.trailing then r.readPassedOn word
  else
    match word.bytes with
    | [45, 45] => .ok { r with trailing := true, awaitsValue := false }
    | 45 :: 45 :: rest =>
      let parts := splitFirst equalsSign rest
      r.readLong ⟨parts.1⟩ (parts.2.map (⟨·⟩))
    | [45] => r.readWord word
    | 45 :: rest => r.readShort word ⟨rest⟩
    | _ => r.readWord word

/-- After the last argument, the environment may name the collaborator. -/
def fromEnvironment (r : Reader) (env : Environment) : Except Stop Reader :=
  match r.stored.contains (.value .collaborator),
      env.get? CollaboratorOptions.programVariable with
  | false, some value => r.storeNow (.option .collaborator (some value))
  | _, _ => .ok r

def finish (r : Reader) (env : Environment) : Except Stop Args := do
  let r ← r.flush
  let r ← r.fromEnvironment env
  match r.workers with
  | none => .error (.missingWorkers r.stored)
  | some workers =>
    return {
      workers
      collaborator := r.collaborator.getD CollaboratorOptions.defaultProgram
      waitOrder := r.waitOrder.getD .default
      failOnChildError := r.failOnChildError
      collaboratorArgs := r.collaboratorArgs }

end Reader

/-- The configuration that the arguments after the program's own name give. -/
def parse (argv : List OsString) (env : Environment) : Except Stop Args := do
  let r ← argv.tail.foldlM Reader.step {}
  r.finish env

end WorkerFleet.CommandLine
