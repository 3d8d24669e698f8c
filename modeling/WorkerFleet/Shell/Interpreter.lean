import WorkerFleet.Shell.Arithmetic
import WorkerFleet.Shell.Builtin.Directory
import WorkerFleet.Shell.Builtin.Names
import WorkerFleet.Shell.Builtin.Output
import WorkerFleet.Shell.Builtin.Signals
import WorkerFleet.Shell.Condition
import WorkerFleet.Shell.Expansion
import WorkerFleet.Shell.Reader
import WorkerFleet.Shell.Redirection
import WorkerFleet.StandIn
import WorkerFleet.Utility

/-!
# Running scripts

The terms of a script are run one after the other as a dialogue with the system. Programs and
subshells get processes of their own, for which the shell waits unless they run in the background;
the last program of a process takes its place. The fuel bounds the depth of nested commands, and the
rounds of a loop are counted; a script that outruns either is left with status 2.
-/

namespace WorkerFleet.Shell

open Host Eval

def outOfFuel : Nat := 2

/-- What a new process of a shell begins with: signals lead to no action of the script any more. -/
def enterChild : Eval Unit := do
  (System.resetSignals : Dialogue System _)
  modify fun s => { s with traps := s.traps.filter (·.2.isEmpty), saved := none }

/-- What a process begins with that nobody waits for: the keys that interrupt the script do not
reach it, and it gets no input unless that comes from another one. -/
def enterBackground (hasInput : Bool) : Eval Unit := do
  (System.handle 2 .ignored : Dialogue System _)
  (System.handle 3 .ignored : Dialogue System _)
  if !hasInput then
    (System.close standardInput : Dialogue System _)
    let _ ← (System.openPath (.ofText "/dev/null") .toRead : Dialogue System _)
  modify fun s => { s with conditions := 0 }

/-- Lets a descriptor lead where another one leads, which is given up. -/
def moveDescriptor (source target : Descriptor) : Eval Unit := do
  if source ≠ target then
    let _ ← (System.duplicate source target : Dialogue System _)
    (System.close source : Dialogue System _)

/-- The status in which a piece of a script leaves the shell, however it ends. -/
def settle (body : Eval Unit) : Eval Unit := do
  try body
  catch
    | .leave status => setStatus status
    | _ => pure ()

/-- Waits for a process of the script. -/
def awaitChild (pid : Pid) : Eval Unit := do
  match ← (System.await pid false : Dialogue System _) with
  | .ended status => Builtin.note status
  | _ => setStatus 127

/-- Runs a part of a script whose failure does not end the script. -/
def asCondition (body : Eval Unit) : Eval Unit := do
  modify fun s => { s with conditions := s.conditions + 1 }
  restoring (fun s => { s with conditions := s.conditions - 1 }) body

/-- A failure ends a strict script. -/
def checkStrict : Eval Unit := do
  let s ← get
  if s.has .errexit && s.conditions == 0 && s.status != 0 then throw (.leave s.status)

/-- Where a shell finds its script. -/
inductive Origin
  | text (text : Octets)
  | input
  | file (path : Octets)
  deriving DecidableEq, Repr

/-- The first of several paths under which there is something for the shell itself to run. -/
def firstScript (argv environment : List OsString) :
    List OsString → Dialogue System (Option OsString)
  | [] => return none
  | path :: rest => do
    match ← System.load path none argv environment with
    | .error .execFormat => return some path
    | _ => firstScript argv environment rest

/-- The path of a file that was found under a name and is no program. -/
def scriptPath (name : Octets) (search : OsString) (argv environment : List OsString) :
    Dialogue System Octets := do
  if name.contains '/' then return name
  else
    let places := (Executable.searchPath (some search)).map fun place =>
      Path.join place (.ofOctets name)
    return ((← firstScript argv environment places).map (·.octets)).getD name

/-- So much of a file tells whether it is a script. -/
def scriptHead : Nat := 128

/-- Whether the first line of a file, as far as it is looked at, holds nothing but text. -/
def looksLikeScript (content : Octets) : Bool :=
  ((content.take scriptHead).takeWhile (· != '\n')).all fun c =>
    let n := c.toNat
    n = 27 || (9 ≤ n && n ≤ 15) || (32 ≤ n && n ≠ 127)

/-- One round of a loop; the answer tells whether the loop goes on. -/
def round (body : Eval Unit) : Eval Bool := do
  modify fun s => { s with loops := s.loops + 1 }
  try
    restoring (fun s => { s with loops := s.loops - 1 }) body
    return true
  catch
    | .breakOut levels => if levels ≤ 1 then return false else throw (.breakOut (levels - 1))
    | .again levels => if levels ≤ 1 then return true else throw (.again (levels - 1))
    | flow => throw flow

/-- No loop has more rounds than that. -/
def rounds : Nat := 200000

/-- Repeats a body as long as its test says so. -/
def whileLoop (test body : Eval Bool) : (rounds : Nat) → (status : Nat) → Eval Unit
  | 0, _ => throw (.leave outOfFuel)
  | rounds + 1, status => do
    (System.work : Dialogue System _)
    if ← test then
      if ← body then whileLoop test body rounds (← get).status else setStatus 0
    else setStatus status

/-- Runs a body for each of several values of a variable. -/
def forLoop (name : Octets) (body : Eval Bool) : List Octets → Eval Unit
  | [] => pure ()
  | value :: rest => do
    assign name value
    if ← body then forLoop name body rest else setStatus 0

/-- Leaves a number of loops, but no more than there are. -/
def leaveLoops (leave : Nat → Flow) (args : List Octets) : Eval Unit := do
  let levels ←
    match args with
    | [] => pure 1
    | text :: _ => do
      let n ← natural text
      if n = 0 then badNumber text
      pure n
  setStatus 0
  let levels := min levels (← get).loops
  if 0 < levels then throw (leave levels)

/-- The text that `.` runs, with the path where it was found. A name without a slash is looked for
along the search path. -/
def sourceText (file : Octets) : Eval (Octets × Octets) := do
  let path ←
    if file.contains '/' then pure file
    else
      match ← Builtin.findProgram file (Builtin.searchPath (← get)) with
      | some path => pure path
      | none => fail (String.ofList file ++ ": not found")
  match ← (System.readFile (.ofOctets path) : Dialogue System _) with
  | .ok bytes => return (path, OsString.octets ⟨bytes⟩)
  | .error e => fail ("cannot open " ++ String.ofList path ++ ": " ++ openFault false e)

/-- So many calls of functions may be open at a time. -/
def callLimit : Nat := 1000

/-- Where standard programs are, whatever a script says. -/
def standardPath : Octets := "/usr/sbin:/usr/bin:/sbin:/bin".toList

/-- What the words of a simple command come to. -/
structure Plan where
  /-- The words in front that only say how the others are to be run. -/
  passed : List Octets := []
  /-- The name of the command and its first arguments. -/
  fields : List Octets
  /-- The words that have not been expanded yet. -/
  rest : List (List Part)
  /-- The name is not that of a function. -/
  bypassesFunctions : Bool := false
  /-- Programs are looked for in the standard places. -/
  isStandard : Bool := false
  /-- Whether the command itself is one of those that end a script when they fail. -/
  isSpecial : Option Bool := none

mutual

/-- The pieces of an expanded word. -/
def pieces : Nat → List Part → Eval (List Piece)
  | 0, _ => throw (.leave outOfFuel)
  | fuel + 1, word => do return (← word.mapM (piece fuel)).flatten

def piece : Nat → Part → Eval (List Piece)
  | 0, _ => throw (.leave outOfFuel)
  | _ + 1, .text quoted text =>
    return if quoted then .mark :: glyphs true text else glyphs false text
  | fuel + 1, .parameter quoted name use => parameter fuel quoted name use
  | fuel + 1, .substitution quoted body => do
    let (source, sink) ← (System.openPipe : Dialogue System _)
    let pid ← spawn fuel do
      modify fun s => { s with conditions := 0 }
      (System.close source : Dialogue System _)
      moveDescriptor sink standardOutput
      exec fuel true body
    (System.close sink : Dialogue System _)
    let bytes ← (System.readAll source : Dialogue System _)
    (System.close source : Dialogue System _)
    let text := (OsString.octets ⟨bytes.toOption.getD []⟩).filter (· != '\x00')
    let before := (← get).status
    awaitChild pid
    modify fun s => { s with substituted := s.status, status := before }
    return valuePieces quoted (Octets.trimLineEnds text)
  | fuel + 1, .arithmetic quoted expression => do
    let text ← plain fuel expression
    let s ← get
    match Arithmetic.run (fun name => (s.parameter? name).getD []) text with
    | .ok (value, assigned) =>
      for (name, n) in assigned do assign name (Text.Decimal.ofInt n)
      return valuePieces quoted (Text.Decimal.ofInt value)
    | .error fault => fail (fault.message text)

def parameter : Nat → Bool → Octets → Use → Eval (List Piece)
  | 0, _, _, _ => throw (.leave outOfFuel)
  | fuel + 1, quoted, name, use => do
    let s ← get
    let value := s.parameter? name
    let present (emptyToo : Bool) : Option Octets :=
      value.filter fun text => !(emptyToo && text.isEmpty)
    let known : Eval Octets := do
      match value with
      | some text => return text
      | none =>
        if s.has .nounset && name ≠ ['@'] && name ≠ ['*'] then
          fail (String.ofList name ++ ": parameter not set")
        return []
    match use with
    | .value =>
      if name = ['@'] || (name = ['*'] && !quoted) then return allParameters quoted s.parameters
      else return valuePieces quoted (← known)
    | .length => return valuePieces quoted (Text.Decimal.ofNat (← known).length)
    | .orElse emptyToo word =>
      match present emptyToo with
      | some text =>
        if name = ['@'] || (name = ['*'] && !quoted) then
          return allParameters quoted s.parameters
        return valuePieces quoted text
      | none => return loosen quoted (← wordPieces fuel (!quoted) word)
    | .orAssign emptyToo word =>
      match present emptyToo with
      | some text => return valuePieces quoted text
      | none =>
        let text := (joinPieces (← wordPieces fuel (!quoted) word)).octets
        assign name text
        return valuePieces quoted text
    | .orFail emptyToo word =>
      match present emptyToo with
      | some text => return valuePieces quoted text
      | none =>
        let message ←
          if word.isEmpty then
            pure ("parameter not set" ++ if emptyToo then " or null" else "").toList
          else plain fuel word
        fail (String.ofList name ++ ": " ++ String.ofList message)
    | .ifSet emptyToo word =>
      match present emptyToo with
      | some _ => return loosen quoted (← wordPieces fuel (!quoted) word)
      | none => return if quoted then [.mark] else []
    | .strip fromEnd longest word =>
      let pattern := joinPieces (← pieces fuel word)
      return valuePieces quoted (strip fromEnd longest pattern (← known))
    | .malformed => fail "Bad substitution"

/-- The pieces of a word in which tildes may stand for directories. -/
def wordPieces : Nat → Bool → List Part → Eval (List Piece)
  | 0, _, _ => throw (.leave outOfFuel)
  | fuel + 1, hasTildes, word => do
    if hasTildes then pieces fuel (expandTildes (← get) false (word.length + 1) word)
    else pieces fuel word

/-- A word that stays one text. -/
def plain : Nat → List Part → Eval Octets
  | 0, _ => throw (.leave outOfFuel)
  | fuel + 1, word => do return (joinPieces (← pieces fuel word)).octets

/-- The value of an assignment. -/
def assigned : Nat → List Part → Eval Octets
  | 0, _ => throw (.leave outOfFuel)
  | fuel + 1, word => do plain fuel (expandTildes (← get) true (word.length + 1) word)

/-- The fields of a word, with patterns expanded. -/
def wordFields : Nat → List Part → Eval (List Octets)
  | 0, _ => throw (.leave outOfFuel)
  | fuel + 1, word => do
    let found ← wordPieces fuel true word
    let cut := splitPieces (← get).separators none found
    return (← cut.mapM expandPattern).flatten

/-- The fields of several words. -/
def fields : Nat → List (List Part) → Eval (List Octets)
  | 0, _ => throw (.leave outOfFuel)
  | fuel + 1, words => do return (← words.mapM (wordFields fuel)).flatten

/-- An argument that gives a variable a value is not cut. -/
def declaredFields : Nat → List Part → Eval (List Octets)
  | 0, _ => throw (.leave outOfFuel)
  | fuel + 1, word => do
    match Reader.assignment? (plainFront word) with
    | some (name, _) =>
      let value ← assigned fuel (word.drop (name.length + 1))
      return [name ++ '=' :: value]
    | none => wordFields fuel word

/-- Expands the words of a redirection. -/
def prepare : Nat → Redirect → Eval Prepared
  | 0, _ => throw (.leave outOfFuel)
  | fuel + 1, redirect => do
    match redirect with
    | .file d direction target =>
      let name := (joinPieces (← wordPieces fuel true target)).octets
      return .file d direction name
    | .here d text => return .here d text
    | .duplicate d target =>
      match (joinPieces (← wordPieces fuel true target)).octets with
      | ['-'] => return .close d
      | [c] =>
        if c.isDigit then return .copy d (c.toNat - '0'.toNat)
        else fail "Syntax error: Bad fd number"
      | _ => fail "Syntax error: Bad fd number"

/-- Runs something with its streams redirected. -/
def redirecting : Nat → List Redirect → Eval Unit → Eval Unit
  | 0, _, _ => throw (.leave outOfFuel)
  | fuel + 1, redirects, body => do
    let prepared ← redirects.mapM (prepare fuel)
    let (aside, isDone) ← Redirection.applyAll (plain fuel) [] prepared
    ensuring (Redirection.putBack aside) do
      if isDone then body

/-- Runs something in a process of its own, and gives its number. -/
def spawn : Nat → Eval Unit → Eval Pid
  | 0, _ => throw (.leave outOfFuel)
  | fuel + 1, body => do
    match ← (System.fork : Dialogue System _) with
    | some pid => return pid
    | none =>
      enterChild
      conclude fuel body
      (System.exit outOfFuel : Dialogue System _)

/-- Does all that is left for this process to do, with the last action of the script. -/
def conclude : Nat → Eval Unit → Eval Unit
  | 0, _ => (System.exit outOfFuel : Dialogue System _)
  | fuel + 1, body => do
    settle body
    let s ← get
    match s.traps.lookup 0 with
    | some action =>
      set { s with traps := s.traps.filter (·.1 ≠ 0), saved := some s.status }
      let leaving ←
        try
          runText fuel false action
          pure s.status
        catch
          | .leave status => pure status
          | .fault => pure (← get).status
          | _ => pure s.status
      (System.exit leaving : Dialogue System _)
    | none => (System.exit s.status : Dialogue System _)

/-- Does what the script wants done about the signals that have come. -/
def answerSignals : Nat → Eval Unit
  | 0 => throw (.leave outOfFuel)
  | fuel + 1 => do
    if (← get).hasActions then
      for signal in ← (System.takeSignals : Dialogue System _) do
        let s ← get
        match s.traps.lookup signal with
        | some action =>
          set { s with saved := some (s.saved.getD s.status) }
          restoring (fun after => { after with saved := s.saved }) (runText fuel false action)
          setStatus s.status
        | none => pure ()

/-- A command. The last one of a process need not leave the process as it was. -/
def exec : Nat → (last : Bool) → Command → Eval Unit
  | 0, _, _ => throw (.leave outOfFuel)
  | fuel + 1, last, command => do
    if (← get).has .noexec then return
    match command with
    | .nothing => pure ()
    | .simple line assignments words redirects =>
      simple fuel last line assignments words redirects
    | .pipeline negated commands =>
      let body : Eval Unit :=
        match commands with
        | [command] => exec fuel false command
        | commands => do
          for pid in ← pipe fuel (fun _ => pure ()) none commands do awaitChild pid
          answerSignals fuel
      if negated then
        asCondition body
        setStatus (if (← get).status = 0 then 1 else 0)
      else
        body
        checkStrict
    | .both first second =>
      asCondition (exec fuel false first)
      if (← get).status = 0 then exec fuel last second
    | .either first second =>
      asCondition (exec fuel false first)
      if (← get).status ≠ 0 then exec fuel last second
    | .sequence first second =>
      exec fuel false first
      exec fuel last second
    | .redirected line body redirects =>
      modify fun s => { s with line }
      redirecting fuel redirects (exec fuel false body)
    | .subshell body =>
      if last && !(← get).hasActions then exec fuel true body
      else
        awaitChild (← spawn fuel (exec fuel true body))
        answerSignals fuel
      checkStrict
    | .background body =>
      let pids ←
        match body with
        | .pipeline false (first :: second :: rest) =>
          pipe fuel enterBackground none (first :: second :: rest)
        | body =>
          List.singleton <$> spawn fuel do
            enterBackground false
            exec fuel true body
      modify fun s => { s with jobs := pids.reverse ++ s.jobs, status := 0 }
    | .branch test body otherwise =>
      asCondition (exec fuel false test)
      if (← get).status = 0 then exec fuel last body
      else
        match otherwise with
        | .nothing => setStatus 0
        | otherwise => exec fuel last otherwise
    | .loop untilTrue test body =>
      let goesOn := round do
        asCondition (exec fuel false test)
        if decide ((← get).status = 0) == untilTrue then throw (.breakOut 1)
      whileLoop goesOn (round (exec fuel false body)) rounds 0
    | .forEach line name words body =>
      modify fun s => { s with line }
      let values ←
        match words with
        | some words => fields fuel words
        | none => pure (← get).parameters
      setStatus 0
      forLoop name (round (exec fuel false body)) values
    | .choose line word cases =>
      modify fun s => { s with line }
      let text := (joinPieces (← wordPieces fuel true word)).octets
      setStatus 0
      chooseCase fuel last text cases
    | .define name body =>
      modify fun s =>
        { s with functions := (name, body) :: s.functions.filter (·.1 ≠ name), status := 0 }

/-- Starts the commands of a pipeline, each reading what the one before it writes. Each begins with
some preparation, which is told whether there is one before it. -/
def pipe : Nat → (Bool → Eval Unit) → Option Descriptor → List Command → Eval (List Pid)
  | 0, _, _, _ => throw (.leave outOfFuel)
  | _ + 1, _, _, [] => return []
  | fuel + 1, begin_, source, command :: rest => do
    let channel ← if rest.isEmpty then pure none else some <$> (System.openPipe : Dialogue System _)
    let pid ← spawn fuel do
      if let some (next, _) := channel then (System.close next : Dialogue System _)
      begin_ source.isSome
      if let some source := source then moveDescriptor source standardInput
      if let some (_, sink) := channel then moveDescriptor sink standardOutput
      exec fuel true command
    if let some source := source then (System.close source : Dialogue System _)
    if let some (_, sink) := channel then (System.close sink : Dialogue System _)
    return pid :: (← pipe fuel begin_ (channel.map (·.1)) rest)

def chooseCase : Nat → Bool → Octets → List (List (List Part) × Command) → Eval Unit
  | 0, _, _, _ => throw (.leave outOfFuel)
  | _ + 1, _, _, [] => pure ()
  | fuel + 1, last, text, (patterns, body) :: rest => do
    if ← matchesAny fuel text patterns then exec fuel last body
    else chooseCase fuel last text rest

/-- Whether a text is like one of several patterns, which are expanded one after the other. -/
def matchesAny : Nat → Octets → List (List Part) → Eval Bool
  | 0, _, _ => throw (.leave outOfFuel)
  | _ + 1, _, [] => return false
  | fuel + 1, text, word :: rest => do
    if (joinPieces (← wordPieces fuel true word)).isMatch text then return true
    else matchesAny fuel text rest

/-- Expands words up to the first that gives fields. -/
def firstFields : Nat → List (List Part) → Eval (List Octets × List (List Part))
  | 0, _ => throw (.leave outOfFuel)
  | _ + 1, [] => return ([], [])
  | fuel + 1, word :: rest => do
    match ← wordFields fuel word with
    | [] => firstFields fuel rest
    | found => return (found, rest)

/-- Finds out what a command is by its first words. -/
def resolve : Nat → Plan → Eval Plan
  | 0, _ => throw (.leave outOfFuel)
  | fuel + 1, plan => do
    let s ← get
    let name := plan.fields.headD []
    if !plan.bypassesFunctions && (s.functions.lookup name).isSome then return plan
    else if !Builtin.isBuiltin name then return plan
    else
      let plan := { plan with isSpecial := plan.isSpecial.or (some (Builtin.isSpecial name)) }
      if name = "command".toList then
        match ← afterCommand fuel plan with
        | some plan => resolve fuel { plan with bypassesFunctions := true }
        | none => return plan
      else return plan

/-- The plan with `command` and its options passed over, unless it is to tell something itself. -/
def afterCommand : Nat → Plan → Eval (Option Plan)
  | 0, _ => throw (.leave outOfFuel)
  | fuel + 1, plan => do
    let pass (plan : Plan) : Eval Plan := do
      let passed := plan.passed ++ plan.fields.take 1
      match plan.fields.drop 1 with
      | [] =>
        let (fields, rest) ← firstFields fuel plan.rest
        return { plan with passed, fields, rest }
      | fields => return { plan with passed, fields }
    let next ← pass plan
    match next.fields.headD [] with
    | ['-', '-'] =>
      let after ← pass next
      return if after.fields.isEmpty then none else some after
    | '-' :: c :: more =>
      if (c :: more).all (· == 'p') then afterCommand fuel { next with isStandard := true }
      else return none
    | _ => return if next.fields.isEmpty then none else some next

/-- A simple command: assignments alone, or a command with assignments for its own use. -/
def simple : Nat → Bool → Nat → List (Octets × List Part) → List (List Part) → List Redirect →
    Eval Unit
  | 0, _, _, _, _, _ => throw (.leave outOfFuel)
  | fuel + 1, last, line, assignments, words, redirects => do
    modify fun s => { s with line, substituted := 0 }
    let (first, rest) ← firstFields fuel words
    let start : Plan := { fields := first, rest }
    let plan ← if first.isEmpty then pure start else resolve fuel start
    let whole ←
      if first.isEmpty then pure plan
      else
        let isDeclaration := plan.isSpecial.isSome && Builtin.isDeclaration (plan.fields.headD [])
        let more ← plan.rest.mapM (if isDeclaration then declaredFields fuel else wordFields fuel)
        pure { plan with fields := plan.fields ++ more.flatten, rest := [] }
    let prepared ← redirects.mapM (prepare fuel)
    let (aside, isDone) ← Redirection.applyAll (plain fuel) [] prepared
    let isExec := plan.isSpecial.isSome && plan.fields.head? == some "exec".toList
    ensuring (if isExec && isDone then Redirection.keep aside else Redirection.putBack aside) do
      if isDone then
        let traceTo := ((aside.lookup standardError).bind id).getD standardError
        invoke fuel last assignments whole traceTo
      else if plan.isSpecial == some true then throw .fault
    answerSignals fuel
    checkStrict

/-- Shows a command before it is run, if that is asked for. -/
def trace : Nat → Descriptor → List (Octets × Octets) → List Octets → Eval Unit
  | 0, _, _, _ => throw (.leave outOfFuel)
  | fuel + 1, descriptor, bindings, words => do
    let s ← get
    if s.has .xtrace then
      let mark ← plain fuel (Reader.quotedText (s.value "PS4"))
      let shown := bindings.map (fun b => b.1 ++ '=' :: b.2) ++ words
      let _ ← write descriptor (mark ++ Octets.joined shown ++ ['\n'])

/-- Makes the assignments of a command and runs it. -/
def invoke : Nat → Bool → List (Octets × List Part) → Plan → Descriptor → Eval Unit
  | 0, _, _, _, _ => throw (.leave outOfFuel)
  | fuel + 1, last, assignments, plan, traceTo => do
    let words := plan.passed ++ plan.fields
    let name := plan.fields.headD []
    let args := plan.fields.drop 1
    let isExec := plan.isSpecial == some true && name = "exec".toList && !args.isEmpty
    if plan.fields.isEmpty || plan.isSpecial == some true then
      let bindings ← assignments.mapM fun (name, word) => do
        let value ← assigned fuel word
        assign name value
        if isExec then modify fun s => s.publish name
        return (name, value)
      trace fuel traceTo bindings words
      if plan.fields.isEmpty then modify fun s => { s with status := s.substituted }
      else call fuel last plan name args
    else
      let before ← get
      let own := assignments.map fun a => (a.1, before.entry? a.1)
      restoring (fun s => own.foldl State.putBack s) do
        let bindings ← assignments.mapM fun (name, word) => do
          let value ← assigned fuel word
          assign name value
          modify fun s => s.publish name
          return (name, value)
        trace fuel traceTo bindings words
        call fuel last plan name args

/-- A function, a builtin or a program. -/
def call : Nat → Bool → Plan → Octets → List Octets → Eval Unit
  | 0, _, _, _, _ => throw (.leave outOfFuel)
  | fuel + 1, last, plan, name, args => do
    let s ← get
    match if plan.bypassesFunctions then none else s.functions.lookup name with
    | some body => callFunction fuel body args
    | none =>
      if plan.isSpecial.isSome && Builtin.isBuiltin name then
        try asBuiltin name (builtin fuel name args)
        catch
          | .fault => if plan.isSpecial == some true then throw .fault
          | flow => throw flow
      else
        let search := if plan.isStandard then standardPath else s.value "PATH"
        external fuel (last && !s.hasActions) search name args

/-- Runs a function with its own parameters. -/
def callFunction : Nat → Command → List Octets → Eval Unit
  | 0, _, _ => throw (.leave outOfFuel)
  | fuel + 1, body, args => do
    let s ← get
    if s.calls = callLimit then
      fail ("Maximum function recursion depth (" ++ toString callLimit ++ ") reached")
    modify fun s => { s with
      parameters := args, hidden := some [], calls := s.calls + 1, loops := 0
      optionIndex := 1, optionOffset := none }
    restoring (fun after => { (after.uncover) with
        parameters := s.parameters, hidden := s.hidden, calls := s.calls, loops := s.loops
        optionIndex := s.optionIndex, optionOffset := s.optionOffset }) do
      try exec fuel false body
      catch
        | .back => pure ()
        | flow => throw flow

/-- Runs a command of the shell, whose name stands in its complaints, and writes what it prints. -/
def asBuiltin (name : Octets) (body : Eval Unit) : Eval Unit := do
  let outer := (← get).builtin
  modify fun s => { s with builtin := some name }
  ensuring (do
    flush
    modify fun s => { s with builtin := outer }) body

/-- The commands of the shell. -/
def builtin : Nat → Octets → List Octets → Eval Unit
  | 0, _, _ => throw (.leave outOfFuel)
  | fuel + 1, name, args => do
    let plainly (body : Eval Unit) : Eval Unit := do
      setStatus 0
      body
    match String.ofList name with
    | "false" => setStatus 1
    | "exit" =>
      let s ← get
      match args with
      | [] => throw (.leave (s.saved.getD s.status))
      | text :: _ => throw (.leave (← natural text))
    | "return" =>
      if let text :: _ := args then setStatus (← natural text)
      throw .back
    | "break" => leaveLoops .breakOut args
    | "continue" => leaveLoops .again args
    | "shift" => plainly (Builtin.shift args)
    | "set" => plainly (Builtin.set args)
    | "unset" => plainly (Builtin.forget args)
    | "export" => plainly (Builtin.publish args)
    | "readonly" => plainly (Builtin.protect args)
    | "local" => plainly (Builtin.hide args)
    | "getopts" => plainly (Builtin.getopts args)
    | "read" => plainly (Builtin.read args)
    | "cd" | "chdir" => plainly (Builtin.changeDir args)
    | "pwd" => plainly (Builtin.tellDir args)
    | "umask" => plainly (Builtin.umask args)
    | "echo" => plainly (Builtin.echo args)
    | "printf" => plainly (Builtin.printf args)
    | "type" => plainly (Builtin.describeAll args)
    | "hash" => plainly (Builtin.remember args)
    | "alias" => plainly (Builtin.abbreviate args)
    | "unalias" => plainly (Builtin.unalias args)
    | "trap" => plainly (Builtin.trap args)
    | "kill" => plainly (Builtin.kill args)
    | "wait" => plainly (Builtin.wait args)
    | "fg" | "bg" => fail "No current job"
    | "ulimit" => plainly (printLine "unlimited".toList)
    | "times" => plainly (print "0m0.000000s 0m0.000000s\n0m0.000000s 0m0.000000s\n".toList)
    | "test" => setStatus (if ← Condition.run args then 0 else 1)
    | "[" =>
      if args.getLast? != some [']'] then fail "missing ]"
      setStatus (if ← Condition.run args.dropLast then 0 else 1)
    | "command" =>
      plainly do
        let (found, names) ← Builtin.options "pvV" args
        match names, (found.filter (·.1 != 'p')).getLast? with
        | name :: _, some ('V', _) => Builtin.describe name
        | name :: _, some _ => Builtin.locate name
        | _, _ => pure ()
    | "eval" => if args.isEmpty then setStatus 0 else runText fuel false (Octets.joined args)
    | "." =>
      match ← Builtin.operands args with
      | [] => setStatus 0
      | file :: _ =>
        let (path, text) ← sourceText file
        modify fun s => { s with builtin := some path }
        let conditions := (← get).conditions
        modify fun s => { s with conditions := 0 }
        restoring (fun s => { s with conditions }) do
          try runText fuel false text
          catch
            | .back => pure ()
            | flow => throw flow
    | "exec" =>
      match ← Builtin.operands args with
      | [] => setStatus 0
      | program :: rest =>
        external fuel true ((← get).value "PATH") program rest
        throw (.leave (← get).status)
    | _ => setStatus 0

/-- A text as a script of its own. -/
def runText : Nat → Bool → Octets → Eval Unit
  | 0, _, _ => throw (.leave outOfFuel)
  | fuel + 1, last, text => do
    if (Reader.skipAll text).isEmpty then setStatus 0
    else runLines fuel last false (Reader.lineCount text) text

/-- The rest of a script, line by line. The lines of a file may be shown as they are read. -/
def runLines : Nat → Bool → Bool → Nat → Octets → Eval Unit
  | 0, _, _, _, _ => throw (.leave outOfFuel)
  | fuel + 1, last, isFile, lines, text => do
    let s ← get
    let tell (rest : Octets) : Eval Unit := do
      if isFile && s.has .verbose then printError (text.take (text.length - rest.length))
    match Reader.next ⟨lines, s.aliases⟩ text with
    | .ok none => tell []
    | .ok (some (command, rest)) =>
      tell rest
      if (Reader.skipAll rest).isEmpty then
        exec fuel last command
        if isFile && s.has .verbose then printError rest
      else
        exec fuel false command
        runLines fuel last isFile lines rest
    | .error fault =>
      tell fault.rest
      modify fun s => { s with line := lines + 1 - Reader.lineCount fault.rest }
      fail ("Syntax error: " ++ fault.message)

/-- A program that is not the shell's own, in a new process or in place of the shell. -/
def external : Nat → Bool → Octets → Octets → List Octets → Eval Unit
  | 0, _, _, _, _ => throw (.leave outOfFuel)
  | fuel + 1, inPlace, search, name, args => do
    let s ← get
    let argv := (name :: args).map OsString.ofOctets
    let search := OsString.ofOctets search
    let texts := s.environment.texts
    let run (body : Eval Unit) : Eval Unit := do
      Builtin.track name
      if inPlace then
        enterChild
        body
        (System.exit (← get).status : Dialogue System _)
      else awaitChild (← spawn fuel body)
    match ← (System.load (.ofOctets name) (some search) argv texts : Dialogue System _) with
    | .ok image => run (runImage fuel image s.environment)
    | .error e =>
      if e = .notFound ∨ e = .notDirectory then
        complain (String.ofList name ++ ": not found")
        setStatus 127
      else if e = .execFormat then
        let file ← (scriptPath name search argv texts : Dialogue System _)
        let content ← (System.readFile (.ofOctets file) : Dialogue System _)
        if content.toOption.all fun bytes => looksLikeScript (OsString.octets ⟨bytes⟩) then
          run (startShell fuel s.environment "/bin/sh".toList (file :: args))
        else
          complain (String.ofList name ++ ": " ++ e.text)
          setStatus 126
      else
        complain (String.ofList name ++ ": " ++ e.text)
        setStatus 126

/-- Runs a program of the machine in this process. Other programs may take its place, and it keeps
none of the descriptors that a shell has put aside. -/
def runImage : Nat → Image → Environment → Eval Unit
  | 0, _, _ => throw (.leave outOfFuel)
  | fuel + 1, image, env => do
    (System.closeFrom asideFrom : Dialogue System _)
    let name := ((image.argv.head?).map (·.octets)).getD []
    let args := (image.argv.drop 1).map (·.octets)
    match image.tool with
    | .shell => startShell fuel env name args
    | .standIn => do
      match ← (StandIn.run env : Dialogue System _) with
      | .ok code => setStatus code
      | .error e =>
        printError (OsString.octets (.ofText e.complaint))
        setStatus e.exitCode
    | .utility utility => do
      match ← ((Utility.program utility args).run name env : Dialogue System _) with
      | .status status => setStatus status
      | .replaced image env => runImage fuel image env

/-- A shell as it is started: with a script in its arguments, in a file or on its input. -/
def startShell : Nat → Environment → Octets → List Octets → Eval Unit
  | 0, _, _, _ => throw (.leave outOfFuel)
  | fuel + 1, env, name, args => do
    let reading := SettingReading.ofArguments true [] args
    let settings := reading.settings
    if let some fault := reading.fault then
      printError (name ++ (": 0: " ++ fault ++ "\n").toList)
      setStatus 2
    else
      let _ ← write standardOutput reading.listings
      let withInput := settings.set .stdin true
      match reading.isScript, reading.rest with
      | true, [] =>
        printError (name ++ ": 0: -c requires an argument\n".toList)
        setStatus 2
      | true, script :: rest =>
        let origins := if settings.contains .stdin then [.text script, .input] else [.text script]
        startScript fuel env settings (rest.headD name) (rest.drop 1) origins
      | false, [] => startScript fuel env withInput name [] [.input]
      | false, file :: rest =>
        if settings.contains .stdin then startScript fuel env settings name (file :: rest) [.input]
        else
          match ← (System.readFile (.ofOctets file) : Dialogue System _) with
          | .ok _ => startScript fuel env settings file rest [.file file]
          | .error e =>
            printError (name ++ ": 0: cannot open ".toList ++ file ++
              (": " ++ openFault false e ++ "\n").toList)
            setStatus 2

/-- Runs scripts in this process, to its end. -/
def startScript : Nat → Environment → Settings → Octets → List Octets → List Origin → Eval Unit
  | 0, _, _, _, _, _ => throw (.leave outOfFuel)
  | fuel + 1, env, settings, name, args, origins => do
    let pid ← (System.ownPid : Dialogue System _)
    let parent ← (System.parentPid : Dialogue System _)
    let here ← Builtin.physicalDir
    let named := ((env.get? "PWD").map (·.octets)).getD []
    let isNamed ←
      if named.head? != some '/' then pure false
      else
        let a ← (System.status (.ofOctets named) true : Dialogue System _)
        let b ← (System.status (.ofText ".") true : Dialogue System _)
        match a, b with
        | .ok a, .ok b => pure (a.identity == b.identity)
        | _, _ => pure false
    let directory := if isNamed then named else here
    set { (({ name, pid, parameters := args, settings, directory
              bindings := variablesOf parent env : State }).assign "PWD".toList
            directory).publish "PWD".toList with line := 1 }
    conclude fuel do
      for origin in origins do runOrigin fuel origin

/-- Runs the script that is found in some place. -/
def runOrigin : Nat → Origin → Eval Unit
  | 0, _ => throw (.leave outOfFuel)
  | fuel + 1, origin => do
    let run (text : Octets) : Eval Unit := do
      try runLines fuel false true (Reader.lineCount text) text
      catch
        | .back => pure ()
        | flow => throw flow
    match origin with
    | .text text => runText fuel false text
    | .input =>
      let bytes ← (System.readAll standardInput : Dialogue System _)
      run (OsString.octets ⟨bytes.toOption.getD []⟩)
    | .file file =>
      let bytes ← (System.readFile (.ofOctets file) : Dialogue System _)
      run (OsString.octets ⟨bytes.toOption.getD []⟩)

end

/-- The depth that a script may have. -/
def allowance : Nat := 20000

/-- A program of the machine as a process: what it does, and the code with which it ends. -/
def process (image : Image) (env : Environment) : Dialogue System Nat := do
  let pid ← System.ownPid
  let start : State := { name := [], pid }
  let (ending, state) ← (runImage allowance image env).run.run start
  match ending with
  | .ok () => return state.status
  | .error (.leave status) => return status
  | .error _ => return state.status

end WorkerFleet.Shell
