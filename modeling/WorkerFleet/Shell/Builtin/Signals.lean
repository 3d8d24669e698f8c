import WorkerFleet.Shell.Builtin.Variables

/-!
# Commands on signals and processes
-/

namespace WorkerFleet.Shell.Builtin

open Host Eval

/-- The signal with a number that is written in decimal digits. -/
def signalNumber? (text : Octets) : Option Nat :=
  if !text.isEmpty && text.all Char.isDigit && Octets.number text ≤ Signal.last then
    some (Octets.number text)
  else none

/-- The number or name of a signal. -/
def signal? (text : Octets) : Option Nat :=
  if text.head?.any Char.isDigit then signalNumber? text
  else
    match String.ofList (text.map Char.toUpper) with
    | "EXIT" => some 0
    | "STKFLT" => none
    | "RTMIN" => some 34
    | "RTMAX" => some 64
    | name => (Signal.ofName? name).map (·.number)

/-- The name of a signal by which it can be asked for, or else its number. -/
def signalName (signal : Nat) : String :=
  match (Signal.names.filter (·.2 ≠ "STKFLT")).lookup signal with
  | some name => name
  | none =>
    if signal = 0 then "EXIT"
    else if signal = 34 then "RTMIN"
    else if 34 < signal && signal < 50 then "RTMIN+" ++ toString (signal - 34)
    else if signal = 64 then "RTMAX"
    else if 49 < signal && signal < 64 then "RTMAX-" ++ toString (64 - signal)
    else toString signal

/-- The actions as the commands that would give them. -/
def traps (s : State) : Octets :=
  (s.traps.mergeSort fun a b => a.1 ≤ b.1).flatMap fun t =>
    "trap -- ".toList ++ quoted t.2 ++ (" " ++ signalName t.1 ++ "\n").toList

/-- What the system does with a signal that has an action, or none. -/
def disposition (action : Octets) : Disposition :=
  if action = ['-'] then .default else if action.isEmpty then .ignored else .caught

/-- Gives signals an action, or takes it from them, up to the first that is no signal. -/
def setTraps (action : Octets) : List Octets → Eval Unit
  | [] => pure ()
  | text :: rest => do
    match signal? text with
    | none =>
      printError ("trap: ".toList ++ text ++ ": bad trap\n".toList)
      setStatus 1
    | some signal =>
      if signal ≠ 0 then (System.handle signal (disposition action) : Dialogue System _)
      modify fun s =>
        let others := s.traps.filter (·.1 ≠ signal)
        { s with traps := if action = ['-'] then others else (signal, action) :: others }
      setTraps action rest

def trap (args : List Octets) : Eval Unit := do
  match ← operands args with
  | [] => print (traps (← get))
  | [signal] => setTraps ['-'] [signal]
  | action :: signals =>
    if (signalNumber? action).isSome then setTraps ['-'] (action :: signals)
    else setTraps action signals

def killUsage : String :=
  "Usage: kill [-s sigspec | -signum | -sigspec] [pid | job]... or\nkill -l [exitstatus]"

/-- The process of a job that is named by its number, or the last one. -/
def job (text : Octets) : Eval Pid := do
  let jobs := (← get).jobs
  let found :=
    match text.drop 1 with
    | [] | ['%'] | ['+'] => jobs.head?
    | ['-'] => jobs[1]?
    | name =>
      if name.all Char.isDigit && Octets.number name ≠ 0 then
        jobs.reverse[Octets.number name - 1]?
      else none
  match found with
  | some pid => return pid
  | none => fail ("No such job: " ++ String.ofList text)

/-- Sends a signal to several processes. -/
def signalAll (signal : Nat) (targets : List Octets) : Eval Unit := do
  for target in targets do
    let sent ←
      match target with
      | '%' :: _ => (System.kill (← job target) signal : Dialogue System _)
      | '-' :: group => do
        let _ ← natural group
        pure (.error .noSuchProcess)
      | target => (System.kill (← natural target) signal : Dialogue System _)
    match sent with
    | .ok () => pure ()
    | .error e =>
      complain (e.text ++ "\n")
      setStatus 1

/-- Tells the names of signals: of all of them, or of one that has this number or has led to this
status. -/
def listSignals (args : List Octets) : Eval Unit := do
  match args with
  | [] =>
    print (Octets.asLines (['0'] :: (List.range Signal.last).map fun n =>
      (signalName (n + 1)).toList))
  | text :: _ =>
    let number ← natural text
    let signal := if 128 < number then number - 128 else number
    if 0 < signal && signal ≤ Signal.last then printLine (signalName signal).toList
    else fail ("invalid signal number or exit status: " ++ String.ofList text)

/-- `kill` -/
def kill (args : List Octets) : Eval Unit := do
  let direct : Option Nat :=
    match args with
    | ('-' :: text) :: _ => (signal? text).filter fun n => n ≠ 0 || text = ['0']
    | _ => none
  match direct with
  | some signal =>
    if (args.drop 1).isEmpty then fail killUsage else signalAll signal (args.drop 1)
  | none =>
    let (found, targets) ← readFrom [('l', false), ('s', true)] false args
    let signals ← (found.filter (·.1 == 's')).mapM fun g => do
      match signal? g.2 with
      | some signal => pure signal
      | none => fail ("invalid signal number or name: " ++ String.ofList g.2)
    if found.any (·.1 == 'l') then
      if signals.isEmpty then listSignals targets else fail killUsage
    else if targets.isEmpty then fail killUsage
    else signalAll (signals.getLast?.getD 15) targets

/-- The status of a shell after a child has ended; an end by a signal is told, unless it is one that
says enough by itself. -/
def note (status : ExitStatus) : Eval Unit := do
  match status with
  | .code n => setStatus n
  | .signal s =>
    if s.number ≠ 2 && s.number ≠ 13 then printError (s.description ++ "\n").toList
    setStatus (128 + s.number)

/-- Waits for the named processes, up to a signal that has an action. -/
def waitFor : List Octets → Eval Unit
  | [] => pure ()
  | text :: rest => do
    let pid ← if text.head? == some '%' then job text else natural text
    match ← (System.await pid true : Dialogue System _) with
    | .interrupted s => setStatus (128 + s.number)
    | .ended status =>
      note status
      waitFor rest
    | _ =>
      setStatus 127
      waitFor rest

/-- Waits for all processes in the background, up to a signal that has an action. -/
def waitForAll : List Pid → Eval Unit
  | [] => setStatus 0
  | pid :: rest => do
    match ← (System.await pid true : Dialogue System _) with
    | .interrupted s => setStatus (128 + s.number)
    | _ => waitForAll rest

def wait (args : List Octets) : Eval Unit := do
  let args ← operands args
  if args.isEmpty then waitForAll (← get).jobs.reverse else waitFor args

end WorkerFleet.Shell.Builtin
