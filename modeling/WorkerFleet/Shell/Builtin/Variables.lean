import WorkerFleet.Shell.Builtin.Options
import WorkerFleet.Shell.Fields
import WorkerFleet.Shell.Reader.Lexeme

/-!
# Commands on variables and parameters
-/

namespace WorkerFleet.Shell.Builtin

open Host Eval

/-- A text as a word that reads back as itself. -/
def quoted (text : Octets) : Octets :=
  match Text.splitFirst '\'' text with
  | (text, none) => '\'' :: text ++ ['\'']
  | (front, some rest) =>
    let ticks := rest.takeWhile (· == '\'')
    '\'' :: front ++ "'\"'".toList ++ ticks ++ ['"'] ++ more (rest.length + 1) (rest.drop ticks.length)
where
  more : Nat → Octets → Octets
    | 0, _ | _, [] => []
    | fuel + 1, text =>
      let front := text.takeWhile (· != '\'')
      let rest := text.drop front.length
      let ticks := rest.takeWhile (· == '\'')
      '\'' :: front ++ ['\''] ++
        (if ticks.isEmpty then [] else '"' :: ticks ++ ['"']) ++ more fuel (rest.drop ticks.length)

/-- The name that an argument gives a value, and the value if there is one. -/
def binding (arg : Octets) : Octets × Option Octets := Text.splitFirst '=' arg

/-- The commands that would declare variables like some of those there are. -/
def declarations (command : String) (isMeant : Variable → Bool) (s : State) : Octets :=
  let found := (s.bindings.filter fun v => isMeant v.2).mergeSort fun a b =>
    Octets.before a.1 b.1
  found.flatMap fun v =>
    command.toList ++ v.1 ++ (match v.2.value with
      | some value => '=' :: quoted value
      | none => []) ++ ['\n']

/-- Marks variables, and gives values to those for which there is one. -/
def declare (command : String) (isMarked : Variable → Bool) (mark : Octets → State → State)
    (args : List Octets) : Eval Unit := do
  let (found, args) ← options "p" args
  if args.isEmpty || !found.isEmpty then
    print (declarations (command ++ " ") isMarked (← get))
  else
    for arg in args do
      let (name, value) := binding arg
      match value with
      | some value => assign name value
      | none =>
        if !Octets.isName name then fail (String.ofList name ++ ": bad variable name")
      modify (mark name)

/-- `export` -/
def publish (args : List Octets) : Eval Unit :=
  declare "export" (·.exported) (fun name s => s.publish name) args

/-- `readonly` -/
def protect (args : List Octets) : Eval Unit :=
  declare "readonly" (·.readOnly) (fun name s => s.protect name) args

/-- `local` keeps the value that a variable has unless it is told another one. -/
def hide (args : List Octets) : Eval Unit := do
  if (← get).hidden.isNone then fail "not in a function"
  for arg in args do
    let (name, value) := binding arg
    if name ≠ ['-'] then
      if !Octets.isName name then fail (String.ofList name ++ ": bad variable name")
      modify fun s => s.hide name
      match value with
      | some value => assign name value
      | none => pure ()

/-- `unset` forgets variables, or functions if asked to. -/
def forget (args : List Octets) : Eval Unit := do
  let (found, args) ← options "vf" args
  for name in args do
    if (found.getLast?.map (·.1)) == some 'f' then
      modify fun s => { s with functions := s.functions.filter (·.1 ≠ name) }
    else unset name

/-- `set` changes options and parameters, or tells all variables. -/
def set (args : List Octets) : Eval Unit := do
  if args.isEmpty then print (declarations "" (·.value.isSome) (← get))
  else
    let reading := SettingReading.ofArguments false (← get).settings args
    modify fun s => { s with settings := reading.settings }
    print reading.listings
    match reading.fault with
    | some fault => fail fault
    | none =>
      if reading.dashes = 1 then
        modify fun s => { s with settings := (s.settings.set .xtrace false).set .verbose false }
      if !reading.rest.isEmpty || reading.dashes = 2 then
        modify fun s => { s with
          parameters := reading.rest, optionIndex := 1, optionOffset := none }

def shift (args : List Octets) : Eval Unit := do
  let n ←
    match args with
    | [] => pure 1
    | text :: _ => natural text
  if (← get).parameters.length < n then fail "can't shift that many"
  modify fun s => { s with
    parameters := s.parameters.drop n, optionIndex := 1, optionOffset := none }

/-- What one step of `getopts` finds. -/
structure Step where
  /-- What the variable gets. -/
  found : Char
  /-- What `OPTARG` gets. -/
  value : Option Octets
  index : Nat
  offset : Option Nat
  message : Option String := none
  isEnd : Bool := false

/-- One step of `getopts`: the next option from some argument on. -/
def nextOption (known : Octets) (args : List Octets) (index : Nat) (offset : Option Nat) : Step :=
  let silent := known.head? == some ':'
  let current := (args[index - 2]?).getD []
  let left :=
    match offset with
    | some n => if index ≤ 1 then [] else current.drop n
    | none => []
  let atEnd (index : Nat) : Step := ⟨'?', none, index, none, none, true⟩
  let option (letters : Octets) (index : Nat) : Step :=
    match letters with
    | [] => atEnd index
    | c :: more =>
      let offset := ((args[index - 2]?).getD []).length - more.length
      let takes : Option Bool :=
        if c = ':' then none
        else if !known.contains c then none
        else some ((known.dropWhile (· != c)).drop 1 |>.head? |>.any (· == ':'))
      match takes with
      | none =>
        if silent then ⟨'?', some [c], index, some offset, none, false⟩
        else ⟨'?', none, index, some offset, some ("Illegal option -" ++ c.toString), false⟩
      | some false => ⟨c, some [], index, some offset, none, false⟩
      | some true =>
        if !more.isEmpty then ⟨c, some more, index, none, none, false⟩
        else
          match args[index - 1]? with
          | some value => ⟨c, some value, index + 1, none, none, false⟩
          | none =>
            if silent then ⟨':', some [c], index, none, none, false⟩
            else ⟨'?', none, index, none, some ("No arg for -" ++ c.toString ++ " option"), false⟩
  if !left.isEmpty then option left index
  else
    match args[index - 1]? with
    | some ['-', '-'] => atEnd (index + 1)
    | some ('-' :: c :: more) => option (c :: more) (index + 1)
    | _ => atEnd index

def getopts (args : List Octets) : Eval Unit := do
  match ← operands args with
  | known :: name :: own =>
    let s ← get
    let args := if own.isEmpty then s.parameters else own
    let index := if own.isEmpty && args.length + 1 < s.optionIndex then 1 else s.optionIndex
    let step := nextOption known args index s.optionOffset
    if let some message := step.message then printError (message ++ "\n").toList
    if !step.isEnd then
      match step.value with
      | some value => assign "OPTARG".toList value
      | none => unset "OPTARG".toList
    assign "OPTIND".toList (Text.Decimal.ofNat step.index)
    assign name [step.found]
    modify fun s => { s with optionIndex := step.index, optionOffset := step.offset }
    setStatus (if step.isEnd then 1 else 0)
  | _ => fail "Usage: getopts optstring var [arg...]"

/-- The next line of the input as pieces, and whether it had an end. A backslash protects the next
character and takes a line end away. -/
def readPieces (raw : Bool) : (lines : Nat) → Eval (List Piece × Bool)
  | 0 => return ([], false)
  | lines + 1 => do
    let line ← (System.readLine standardInput : Dialogue System _)
    let text := ((line.toOption.map fun bytes => OsString.octets ⟨bytes⟩).getD []).filter
      (· != '\x00')
    let ended := text.getLast? == some '\n'
    let text := if ended then text.dropLast else text
    let (pieces, isOpen) := if raw then (text.map .splittable, false) else protect text
    if isOpen && ended then
      let (more, ended) ← readPieces raw lines
      return (pieces ++ more, ended)
    else return (pieces, ended)
where
  /-- The pieces of a line, and whether a backslash stands at its end. -/
  protect : Octets → List Piece × Bool
    | [] => ([], false)
    | ['\\'] => ([], true)
    | '\\' :: c :: rest =>
      let (more, isOpen) := protect rest
      (.glyph ⟨c, true⟩ :: more, isOpen)
    | c :: rest =>
      let (more, isOpen) := protect rest
      (.splittable c :: more, isOpen)

/-- So many lines may be joined to one. -/
def lineLimit : Nat := 100000

/-- `read` cuts the next line into words for the named variables. -/
def read (args : List Octets) : Eval Unit := do
  let (found, names) ← readFrom [('p', true), ('r', false)] false args
  if names.isEmpty then fail "arg count"
  let (pieces, ended) ← readPieces (found.any (·.1 == 'r')) lineLimit
  let fields := splitPieces (← get).separators (some names.length) pieces
  for (name, i) in names.zipIdx do
    assign name (Field.octets ((fields[i]?).getD []))
  setStatus (if ended then 0 else 1)

end WorkerFleet.Shell.Builtin
