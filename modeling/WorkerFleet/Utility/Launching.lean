import WorkerFleet.Text.Split
import WorkerFleet.Utility.Printing

/-!
# Utilities that start others, wait or send signals
-/

namespace WorkerFleet.Utility

open Host Text

/-- The shell that runs files which are no programs. -/
def shellPath : OsString := .ofText "/bin/sh"

/-- The file that is found under a name for a shell to run. -/
def scriptUnder (name : Octets) : List OsString → Program Octets
  | [] => return name
  | place :: rest => do
    let file := Path.join place (path name)
    match ← (System.load file none [file] [] : Dialogue System _) with
    | .error .execFormat => return file.octets
    | _ => scriptUnder name rest

/-- Goes on as another program, unless that cannot be started. -/
def become (env : Environment) (words : List Octets) : Program OsError := do
  flush
  let name := words.headD []
  let search := env.get? "PATH"
  match ← (System.load (path name) search (words.map path) env.texts : Dialogue System _) with
  | .ok image => throw (.replaced image env)
  | .error .execFormat =>
    let file ←
      if name.contains '/' then pure name
      else scriptUnder name (Executable.searchPath search)
    throw (.replaced ⟨.shell, shellPath :: path file :: (words.drop 1).map path⟩ env)
  | .error e => return e

/-- The status of a program that could not start another one. -/
def startFault (e : OsError) : Nat := if e = .notFound then 127 else 126

/-! ## Waiting -/

/-- The longest pause, some hundred million years. -/
def longestPause : Nat := 4000000000000000000000

/-- A length of time in microseconds: a number, and perhaps a unit behind it. -/
def duration? (text : Octets) : Option Nat := do
  let (x, rest) ← Real.read 64 (Word.skip text)
  let unit ← [([], 1), (['s'], 1), (['m'], 60), (['h'], 3600), (['d'], 86400)].lookup rest
  match x with
  | .finite false size => some (min longestPause (size.num * unit * 1000000 / size.den))
  | .finite true size => if size.num = 0 then some 0 else none
  | .infinite false => some longestPause
  | _ => none

def sleep (args : List Octets) : Program Unit := do
  let (_, times) ← readFlags [] args
  if times.isEmpty then missing "operand"
  for time in times do
    if (duration? time).isNone then fail 1 ("invalid time interval " ++ quote time)
  if times.any fun time => (duration? time).isNone then pointToHelp 1
  (System.pause ((times.filterMap duration?).foldl (· + ·) 0) : Dialogue System _)

/-! ## `env` and the like -/

/-- What `env` changes. -/
structure Setup where
  env : Environment
  dir : Option Octets := none

def setup (s : Setup) (g : Given) : Program Setup := do
  match g.key with
  | "i" => return { s with env := .empty }
  | "u" =>
    if g.value.isEmpty || g.value.contains '=' then
      die 125 ("cannot unset " ++ quote g.value ++ ": " ++ OsError.invalidArgument.text)
    return { s with env := s.env.erase (nameText g.value) }
  | "C" => return { s with dir := some g.value }
  | _ => return s

/-- The variables that stand in front of a command. -/
def bindings (words : List Octets) : List (String × OsString) :=
  (words.takeWhile (·.contains '=')).map fun word =>
    let (name, value) := splitFirst '=' word
    (nameText name, path (value.getD []))

def env (args : List Octets) : Program Unit := do
  let (s, operands) ← readOptions
    [flag 'i' "ignore-environment", setting 'u' "unset", flag '0' "null", setting 'C' "chdir",
     flag 'v' "debug", setting 'S' "split-string"] false 125 { env := (← get).env : Setup } setup args
  let isBare := operands.head? == some ['-']
  let words := if isBare then operands.drop 1 else operands
  let env := (if isBare then .empty else s.env).setAll (bindings words)
  let command := words.dropWhile (·.contains '=')
  if let some dir := s.dir then
    if command.isEmpty then misuse 125 "must specify command with --chdir (-C)"
    if let .error e ← (System.changeDir (path dir) : Dialogue System _) then
      die 125 ("cannot change directory to " ++ quoteName dir ++ ": " ++ e.text)
  match command with
  | [] => printAll env
  | name :: _ =>
    let e ← become env command
    complain (quoteName name ++ ": " ++ e.text)
    if e = .notFound && name.contains ' ' then
      complain "use -[v]S to pass options in shebang lines"
    quit (startFault e)

def nice (args : List Octets) : Program Unit := do
  -- A number may stand for the option that takes it.
  let args :=
    match args with
    | ('-' :: c :: digits) :: rest =>
      if (c :: digits).all Char.isDigit then "-n".toList :: (c :: digits) :: rest else args
    | args => args
  let (change, words) ← readOptions [setting 'n' "adjustment"] false 125 (none : Option Octets)
    (fun _ g => pure (some g.value)) args
  if let some text := change then
    if (Word.integer? (Word.readDigits 10) text).isNone then
      misuse 125 ("invalid adjustment " ++ quote text)
  match words with
  | [] =>
    if change.isSome then misuse 125 "a command must be given with an adjustment"
    else printLine ['0']
  | name :: _ =>
    let e ← become (← get).env words
    die (startFault e) (quoteName name ++ ": " ++ e.text)

def nohup (args : List Octets) : Program Unit := do
  let (_, words) ← readOptions [] false 125 () (fun _ _ => pure ()) args
  match words with
  | [] => misuse 125 "missing operand"
  | name :: _ =>
    (System.handle 1 .ignored : Dialogue System _)
    let e ← become (← get).env words
    die (startFault e) ("failed to run command " ++ quoteName name ++ ": " ++ e.text)

/-! ## Children -/

/-- Runs something in a process of its own, and gives its number. -/
def inChild (body : Program Unit) : Program Pid := do
  flush
  match ← (System.fork : Dialogue System _) with
  | some pid => return pid
  | none =>
    body
    quit (← get).status

/-- How `timeout` works. -/
structure Limit where
  signal : Nat := 15
  killAfter : Option Nat := none
  keepsStatus : Bool := false

/-- The signal that a number or a name stands for. -/
def signalOf? (text : Octets) : Option Nat :=
  if !text.isEmpty && text.all Char.isDigit then
    if Octets.number text ≤ Signal.last then some (Octets.number text) else none
  else
    let name := text.map Char.toUpper
    let name := if "SIG".toList.isPrefixOf name then name.drop 3 else name
    if name = "EXIT".toList then some 0
    else (Signal.ofName? (String.ofList name)).map (·.number)

def readInterval (text : Octets) : Program Nat := do
  match duration? text with
  | some time => return time
  | none => misuse 125 ("invalid time interval " ++ quote text)

def limit (l : Limit) (g : Given) : Program Limit := do
  match g.key with
  | "s" =>
    match signalOf? g.value with
    | some signal => return { l with signal }
    | none => misuse 125 (quote g.value ++ ": invalid signal")
  | "k" => return { l with killAfter := some (← readInterval g.value) }
  | "preserve-status" => return { l with keepsStatus := true }
  | _ => return l

/-- Ends as a child has ended. -/
def endLike (status : ExitStatus) : Program Unit := do
  match status with
  | .code n => quit n
  | .signal s =>
    flush
    let _ ← (System.kill (← (System.ownPid : Dialogue System _)) s.number : Dialogue System _)
    quit (128 + s.number)

/-- The status that counts if a child had to be ended. -/
def statusAfter (l : Limit) (status : ExitStatus) : Nat :=
  match status with
  | .code n => if l.keepsStatus then n else 124
  | .signal s =>
    if s.isKill || l.keepsStatus then 128 + s.number else 124

def timeout (args : List Octets) : Program Unit := do
  let (l, operands) ← readOptions
    [setting 's' "signal", setting 'k' "kill-after", flag 'f' "foreground", flag 'v' "verbose",
     named "preserve-status" .nothing] false 125 ({} : Limit) limit args
  match operands with
  | time :: name :: rest =>
    let time ← readInterval time
    let start ← (System.now : Dialogue System _)
    let child ← inChild do
      let e ← become (← get).env (name :: rest)
      die (startFault e) ("failed to run command " ++ quoteName name ++ ": " ++ e.text)
    let awaited ←
      if time = 0 then (System.await child false : Dialogue System _)
      else (System.awaitUntil child (start + time) : Dialogue System _)
    match awaited with
    | .ended status => endLike status
    | .expired =>
      let stop (signal : Nat) : Program Unit := do
        let _ ← (System.kill child signal : Dialogue System _)
        let _ ← (System.kill child 18 : Dialogue System _)
      stop l.signal
      let last ←
        match l.killAfter with
        | none => (System.await child false : Dialogue System _)
        | some more =>
          match ← (System.awaitUntil child (start + time + more) : Dialogue System _) with
          | .expired =>
            stop 9
            (System.await child false : Dialogue System _)
          | waited => pure waited
      match last with
      | .ended status => quit (statusAfter l status)
      | _ => quit 125
    | _ => quit 125
  | _ => misuse 125 "missing operand"

/-! ## `xargs` -/

/-- How `xargs` puts commands together. -/
structure Gathering where
  most : Option Nat := none
  mostLines : Option Nat := none
  replaces : Option Octets := none
  delimiter : Option Char := none
  skipsEmpty : Bool := false
  isShown : Bool := false

/-- Words of a text, between blanks that are not quoted; each with whether it ends its line. -/
def quotedWords : (word : Option Octets) → (quote : Option Char) → Octets →
    Option (List (Octets × Bool))
  | word, quote, [] =>
    if quote.isSome then none else some (word.toList.map fun w => (w.reverse, true))
  | word, some q, c :: rest =>
    if c = q then quotedWords word none rest
    else if c = '\n' then none
    else quotedWords (some (c :: word.getD [])) (some q) rest
  | word, none, '\\' :: c :: rest => quotedWords (some (c :: word.getD [])) none rest
  | word, none, c :: rest =>
    if c = '\'' || c = '"' then quotedWords (some (word.getD [])) (some c) rest
    else if c = ' ' || c = '\t' || c = '\n' then
      match word with
      | none => quotedWords none none rest
      | some w => (quotedWords none none rest).map ((w.reverse, c == '\n') :: ·)
    else quotedWords (some (c :: word.getD [])) none rest

/-- Words in groups of a size. -/
def groupsOf {α : Type} (size : Nat) : (fuel : Nat) → List α → List (List α)
  | 0, _ => []
  | fuel + 1, words =>
    if words.isEmpty then [] else words.take size :: groupsOf size fuel (words.drop size)

/-- A text with each place of a mark filled. -/
def fillIn (mark value : Octets) : (fuel : Nat) → Octets → Octets
  | 0, text => text
  | _ + 1, [] => []
  | fuel + 1, c :: rest =>
    if !mark.isEmpty && mark.isPrefixOf (c :: rest) then
      value ++ fillIn mark value fuel ((c :: rest).drop mark.length)
    else c :: fillIn mark value fuel rest

/-- Runs one command after the other; one that cannot be started or ends with 255 is the last. -/
def runEach (isShown : Bool) : List (List Octets) → Program Unit
  | [] => pure ()
  | words :: rest => do
    if isShown then complainRaw (shown (Octets.joined words) ++ "\n")
    let name := words.headD []
    let child ← inChild do
      let e ← become (← get).env words
      die (startFault e) (shown name ++ ": " ++ e.text)
    match ← (System.await child false : Dialogue System _) with
    | .ended (.code 0) => runEach isShown rest
    | .ended (.code 255) =>
      die 124 (shown name ++ ": exited with status 255; aborting")
    | .ended (.code n) =>
      if n = 126 || n = 127 then quit n
      else
        worsen 123
        runEach isShown rest
    | .ended (.signal s) =>
      die 125 (shown name ++ ": terminated by signal " ++ toString s.number)
    | _ => quit 1

def gathering (x : Gathering) (g : Given) : Program Gathering := do
  let number : Program Nat := do
    if !g.value.isEmpty && g.value.all Char.isDigit && Octets.number g.value ≠ 0 then
      return Octets.number g.value
    else if !g.value.isEmpty && g.value.all Char.isDigit then
      complain ("value " ++ shown g.value ++ " for -" ++ g.key ++ " option should be >= 1")
      pointToHelp 1
    else
      complain ("invalid number \"" ++ shown g.value ++ "\" for -" ++ g.key ++ " option")
      pointToHelp 1
  match g.key with
  | "n" => return { x with most := some (← number) }
  | "L" => return { x with mostLines := some (← number) }
  | "I" => return { x with replaces := some g.value }
  | "i" => return { x with replaces := some (if g.value.isEmpty then "\x7b\x7d".toList else g.value) }
  | "0" => return { x with delimiter := some '\x00' }
  | "d" => return { x with delimiter := (longDialect.format.resolve g.value).1.head? }
  | "r" => return { x with skipsEmpty := true }
  | "t" => return { x with isShown := true }
  | _ => return x

def xargs (args : List Octets) : Program Unit := do
  let (x, operands) ← readOptions
    [setting 'n' "max-args", setting 'L' "", setting 'I' "", ⟨some 'i', "replace", .attached⟩,
     flag '0' "null", setting 'd' "delimiter", flag 'r' "no-run-if-empty", flag 't' "verbose",
     setting 'P' "max-procs", setting 's' "max-chars", flag 'x' "exit"] false 1 ({} : Gathering)
    gathering args
  let command := if operands.isEmpty then ["echo".toList] else operands
  let text ←
    match ← input with
    | .ok text => pure text
    | .error _ => pure []
  let commands : Option (List (List Octets)) :=
    match x.replaces, x.delimiter with
    | some mark, _ =>
      let lines := (text.lines.map fun line => line.dropWhile fun c => c == ' ' || c == '\t').filter
        (!·.isEmpty)
      some (lines.map fun line => command.map fun word => fillIn mark line (word.length + 1) word)
    | none, some d =>
      let parts := splitOn d text
      let parts := if parts.getLast? == some [] then parts.dropLast else parts
      some ((groupsOf (x.most.getD parts.length) parts.length parts).map (command ++ ·))
    | none, none =>
      (quotedWords none none text).map fun (words : List (Octets × Bool)) =>
        let groups : List (List Octets) :=
          match x.mostLines with
          | some most => groupLines most words
          | none => groupsOf (x.most.getD words.length) words.length (words.map (·.1))
        groups.map (command ++ ·)
  match commands with
  | none => die 1 "unmatched quote; by default quotes are special to xargs unless you use the -0 option"
  | some [] =>
    if !x.skipsEmpty && x.replaces.isNone then runEach x.isShown [command]
  | some commands => runEach x.isShown commands
where
  groupLines (most : Nat) (words : List (Octets × Bool)) : List (List Octets) :=
    let lines := words.foldr (fun (w : Octets × Bool) (lines : List (List Octets)) =>
      match lines with
      | line :: more => if w.2 then [w.1] :: line :: more else (w.1 :: line) :: more
      | [] => [[w.1]]) []
    (groupsOf most lines.length lines).map List.flatten

/-! ## Signals and programs -/

def kill (args : List Octets) : Program Unit := do
  let (signal, targets) ←
    match args with
    | ['-', 's'] :: name :: rest => pure (signalOf? name, rest)
    | ['-', '-'] :: rest => pure (some 15, rest)
    | ('-' :: c :: name) :: rest => pure (signalOf? (c :: name), rest)
    | rest => pure (some 15, rest)
  match signal, targets with
  | none, _ => die 1 "unknown signal"
  | some _, [] => die 1 "no process ID specified"
  | some signal, targets =>
    for target in targets do
      if target.isEmpty || !target.all Char.isDigit then
        fail 1 ("failed to parse argument: " ++ quoteName target)
      else
        match ← (System.kill (Octets.number target) signal : Dialogue System _) with
        | .ok () => pure ()
        | .error e => fail 1 ("(" ++ shown target ++ "): " ++ e.text)

def which (args : List Octets) : Program Unit := do
  let (keys, names) ← readFlags [flag 'a' "", flag 's' ""] args
  if names.isEmpty then worsen 1
  let places := Executable.searchPath ((← get).env.get? "PATH")
  for name in names do
    let files := if name.contains '/' then [name] else places.map fun place =>
      (Path.join place (path name)).octets
    let found ← files.filterM fun file => do
      return ((← status? file true).toOption.any fun s => s.isFile && s.permissions.execute)
    if found.isEmpty then worsen 1
    if !keys.contains "s" then
      print (Octets.asLines (if keys.contains "a" then found else found.take 1))

end WorkerFleet.Utility
