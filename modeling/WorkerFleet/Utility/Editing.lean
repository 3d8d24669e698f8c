import WorkerFleet.Utility.Editing.Reader
import WorkerFleet.Utility.Reading

/-!
# The line editor

`sed` runs its script once for each line. What it has printed stays in front of everything that comes
later; a line without an end gets one only if something follows.
-/

namespace WorkerFleet.Utility

open Host Text

namespace Editing

/-- A text that is put out at the end of a round. -/
inductive Later
  | text (text : Octets)
  | file (name : Octets)

/-- A file that commands write to. -/
structure Target where
  name : Octets
  descriptor : Descriptor
  /-- The last line in it has no end. -/
  isOpen : Bool := false

/-- The work on some files. -/
structure Editor where
  script : Script
  silent : Bool
  /-- The mark at the ends of lines. -/
  mark : Char := '\n'
  isSeparate : Bool := false
  files : List Octets
  source : Option (Octets × Source) := none
  /-- The next line, with its end, as soon as it has been looked at. -/
  ahead : Option Octets := none
  current : Octets := ['-']
  pattern : Octets := []
  held : Octets := []
  number : Nat := 0
  /-- Whether the line had an end. -/
  isEnded : Bool := true
  later : List Later := []
  hasReplaced : Bool := false
  /-- Where the ranges of commands end that have begun, if at a known line. -/
  active : List (Nat × Option Nat) := []
  last : Option Pattern := none
  targets : List Target := []
  /-- Lines of files that are read one by one. -/
  pulled : List (Octets × List Octets) := []
  /-- The last line that was printed has no end. -/
  isOpen : Bool := false
  /-- Prints here instead, the last piece in front. -/
  captured : Option (List Octets) := none

abbrev Edit := StateT Editor Program

/-- What a round of the script comes to. -/
inductive Outcome
  | finished
  /-- Nothing is printed by itself. -/
  | dropped
  /-- The next round goes on with what is left of the text. -/
  | again
  | stopped (status : Nat) (prints : Bool)

/-- Prints a text; an earlier line that lacks its end gets it first. -/
def emit (text : Octets) : Edit Unit := do
  let e ← get
  let whole := (if e.isOpen && !text.isEmpty then [e.mark] else []) ++ text
  set { e with isOpen := e.isOpen && text.isEmpty }
  match e.captured with
  | some pieces => modify fun e => { e with captured := some (whole :: pieces) }
  | none => Utility.print whole

/-- Prints a line, with an end if the line that was read had one. -/
def emitLine (text : Octets) : Edit Unit := do
  let e ← get
  emit (if e.isEnded then text ++ [e.mark] else text)
  if !e.isEnded then modify fun e => { e with isOpen := true }

/-- A message that does not wait for what has been printed. -/
def alert (message : String) : Edit Unit := do
  writeError ((shown (← getThe Work).name ++ ": " ++ message ++ "\n").toList)

def abort {α : Type} (status : Nat) (message : String) : Edit α := do
  alert message
  quit status

/-- Reads a line from a source; its end is a mark. -/
def pull (mark : Char) (source : Source) : Program (Except OsError (Option Octets × Source)) := do
  if mark = '\n' then source.nextLine
  else
    match ← (System.readAll source.descriptor : Dialogue System _) with
    | .error e => return .error e
    | .ok bytes =>
      let text := source.buffer ++ OsString.octets ⟨bytes⟩
      let line := text.takeWhile (· != mark)
      let whole := text.take (line.length + 1)
      return .ok (if whole.isEmpty then none else some whole,
        { source with buffer := text.drop whole.length })

/-- Looks at the next line, going on to the next files if there are no more in this one. -/
def lookAhead : (fuel : Nat) → Edit Unit
  | 0 => pure ()
  | fuel + 1 => do
    let e ← get
    if e.ahead.isSome then pure ()
    else
      match e.source, e.files with
      | none, [] => pure ()
      | none, file :: rest =>
        set { e with files := rest }
        match ← Source.ofName file with
        | .ok source => modify fun e => { e with source := some (file, source) }
        | .error fault =>
          alert ("can't read " ++ shown file ++ ": " ++ fault.text)
          worsen 2
        lookAhead fuel
      | some (file, source), _ =>
        match ← pull e.mark source with
        | .error fault =>
          abort 4 ("read error on " ++ shown (if file = ['-'] then "stdin".toList else file) ++
            ": " ++ fault.text)
        | .ok (some line, source) =>
          set { e with source := some (file, source), ahead := some line }
        | .ok (none, source) =>
          source.close
          set { e with source := none }
          lookAhead fuel

def peek : Edit (Option Octets) := do
  lookAhead (2 * (← get).files.length + 2)
  return (← get).ahead

def isLast : Edit Bool := return (← peek).isNone

/-- Puts out what was asked for at the end of the round. -/
def putLater : Edit Unit := do
  let pieces := (← get).later
  modify fun e => { e with later := [] }
  for piece in pieces do
    match piece with
    | .text text => emit text
    | .file name =>
      let found ← if name = "/dev/stdin".toList then input else contentOf name
      if let .ok text := found then emit text

/-- Takes the next line, if there is one. -/
def takeLine : Edit (Option Octets) := do
  match ← peek with
  | none => return none
  | some line =>
    putLater
    let isEnded := line.getLast? == some (← get).mark
    modify fun e => { e with
      ahead := none, isEnded, number := e.number + 1
      current := ((e.source.map (·.1)).getD e.current), hasReplaced := false }
    return some (if isEnded then line.dropLast else line)

/-- An expression; none stands for the one that was used last. -/
def known (pattern : Option Pattern) : Edit Pattern := do
  match pattern with
  | some p =>
    modify fun e => { e with last := some p }
    return p
  | none =>
    match (← get).last with
    | some p => return p
    | none => abort 1 "no previous regular expression"

def viewOf (p : Pattern) (text : Octets) : Regex.View :=
  { text := text.toArray, ignoresCase := p.ignoresCase, hasLines := p.hasLines }

def Address.holds (a : Address) : Edit Bool := do
  let e ← get
  match a with
  | .line n => return e.number == n
  | .every first step => return first ≤ e.number && (e.number - first) % step == 0
  | .last => isLast
  | .matching pattern =>
    let p ← known pattern
    return (p.regex.find? (viewOf p e.pattern) 0).isSome

/-- Whether a command with a range is meant for this line. -/
def inRange (place : Nat) (first : Address) (last : Bound) : Edit Bool := do
  let e ← get
  let close : Edit Unit :=
    modify fun e => { e with active := e.active.filter (·.1 ≠ place) }
  match e.active.lookup place with
  | some (some ending) =>
    if ending ≤ e.number then close
    return e.number ≤ ending
  | some none =>
    match last with
    | .at address => if ← address.holds then close
    | _ => pure ()
    return true
  | none =>
    if !(← first.holds) then return false
    let start (ending : Option Nat) : Edit Unit := do
      if ending.all (e.number < ·) then
        modify fun e => { e with active := (place, ending) :: e.active }
    match last with
    | .at (.line n) => start (some n)
    | .at _ => start none
    | .after count => start (some (e.number + count))
    | .multiple n => start (some (if n = 0 then 0 else (e.number + n - 1) / n * n))
    return true

def Scope.holds (s : Scope) (place : Nat) : Edit Bool := do
  let meant ←
    match s.first, s.last with
    | none, _ => pure true
    | some first, none => first.holds
    | some first, some last => inRange place first last
  return meant != s.isNegated

/-- Whether the range of a command has come to its end. -/
def isPast (place : Nat) : Edit Bool := return ((← get).active.lookup place).isNone

/-- Pieces of a replacement put together. -/
def expand (group : Nat → Octets) : (lasting next : Casing) → List Piece → Octets
  | _, _, [] => []
  | lasting, _, .casing c :: rest =>
    match c with
    | .nextUpper | .nextLower => expand group lasting c rest
    | c => expand group c .none rest
  | lasting, next, .text text :: rest => shownAs lasting next text rest
  | lasting, next, .group n :: rest => shownAs lasting next (group n) rest
where
  /-- A text with its letters changed, and what follows. -/
  shownAs (lasting next : Casing) (text : Octets) (rest : List Piece) : Octets :=
    let change (c : Casing) (text : Octets) : Octets :=
      match c with
      | .upper | .nextUpper => text.map Char.toUpper
      | .lower | .nextLower => text.map Char.toLower
      | .none => text
    match next, text with
    | .none, text => change lasting text ++ expand group lasting .none rest
    | next, [] => expand group lasting next rest
    | next, c :: more => change next [c] ++ change lasting more ++ expand group lasting .none rest

/-- A text with its matches replaced, and whether there was any; from a place on, of which `count`
matches have been seen. -/
def replaceFrom (s : Substitution) (p : Pattern) (v : Regex.View) : (fuel : Nat) →
    (place count : Nat) → (before : Option Nat) → Octets × Bool
  | 0, place, _, _ => (v.part place v.text.size, false)
  | fuel + 1, place, count, before =>
    match if v.text.size < place then none else p.regex.find? v place with
    | none => (v.part place v.text.size, false)
    | some (start, found) =>
      let skipped := v.part place start
      let isVacuous := found.place = start
      -- An empty match right behind another one does not count.
      let counts := !(isVacuous && before = some start)
      let count := if counts then count + 1 else count
      let isMeant := counts && s.number ≤ count
      let shown := if isMeant then expand (Regex.groupText v start found) .none .none s.replacement
        else v.part start found.place
      let step := if isVacuous then v.part start (start + 1) else []
      let next := if isVacuous then start + 1 else found.place
      if isMeant && !s.isGlobal then
        (skipped ++ shown ++ v.part found.place v.text.size, true)
      else
        let more := replaceFrom s p v fuel next count (some found.place)
        (skipped ++ shown ++ step ++ more.1, isMeant || more.2)

/-- Writes a line to a file. -/
def writeTo (name : Octets) (text : Octets) : Edit Unit := do
  let e ← get
  if name = "/dev/stdout".toList then emitLine text
  else if let some t := e.targets.find? (·.name == name) then
    let bytes := (if t.isOpen then [e.mark] else []) ++ text ++ (if e.isEnded then [e.mark] else [])
    let _ ← (System.write t.descriptor (OsString.ofOctets bytes).bytes : Dialogue System _)
    modify fun e => { e with
      targets := e.targets.map fun t => if t.name = name then { t with isOpen := !e.isEnded } else t }

/-- A text with escapes for what cannot be shown, in lines of a width. -/
def unambiguous (width : Nat) (text : Octets) : Octets :=
  let pieces := text.map fun c =>
    if c = '\\' then "\\\\".toList
    else if 0x20 ≤ c.toNat && c.toNat < 0x7F then [c]
    else
      match [('\x07', 'a'), ('\x08', 'b'), ('\x0c', 'f'), ('\n', 'n'), ('\r', 'r'), ('\t', 't'),
        ('\x0b', 'v')].lookup c with
      | some letter => ['\\', letter]
      | none =>
        let n := c.toNat
        '\\' :: [n / 64 % 8, n / 8 % 8, n % 8].map fun d => Char.ofNat ('0'.toNat + d)
  let (shown, _) := pieces.foldl (fun (out : Octets × Nat) piece =>
    if 1 < width && width ≤ out.2 + piece.length then
      (out.1 ++ "\\\n".toList ++ piece, piece.length)
    else (out.1 ++ piece, out.2 + piece.length)) ([], 0)
  shown ++ "$\n".toList

/-- One line of a file that is read line by line. -/
def pullLine (file : Octets) : Edit Unit := do
  let e ← get
  let lines ←
    match e.pulled.lookup file with
    | some lines => pure lines
    | none =>
      match ← contentOf file with
      | .ok text => pure text.lines
      | .error _ => pure []
  modify fun e => { e with
    pulled := (file, lines.drop 1) :: e.pulled.filter (·.1 ≠ file)
    later := e.later ++ (lines.take 1).map fun line => Later.text (line ++ ['\n']) }

/-- Where a jump leads. -/
def placeOf (label : Octets) : Edit Nat := do
  let e ← get
  return (e.script.labels.lookup label).getD e.script.commands.size

def printPattern : Edit Unit := do emitLine (← get).pattern

def setPattern (text : Octets) : Edit Unit := modify fun e => { e with pattern := text }

def firstLine (text : Octets) : Octets := text.takeWhile (· != '\n')

/-- Replaces in the text as a command says. -/
def substitute (s : Substitution) : Edit Unit := do
  let p ← known s.pattern
  let v := viewOf p (← get).pattern
  let (text, replaced) := replaceFrom s p v (v.text.size + 2) 0 0 none
  if replaced then
    modify fun e => { e with pattern := text, hasReplaced := true }
    if s.prints then printPattern
    if let some file := s.target then writeTo file text

/-- The commands of a script from a place on. -/
def runFrom : (fuel : Nat) → (place : Nat) → Edit Outcome
  | 0, _ => return .stopped 4 false
  | fuel + 1, place => do
    let e ← get
    match e.script.commands[place]? with
    | none => return .finished
    | some command =>
      let go : Edit Outcome := runFrom fuel (place + 1)
      if !(← command.scope.holds place) then
        match command.action with
        | .opening =>
          match e.script.groups.lookup place with
          | some closing => runFrom fuel (closing + 1)
          | none => return .finished
        | _ => go
      else
        let e ← get
        let act (action : Edit Unit) : Edit Outcome := do
          action
          go
        match command.action with
        | .opening | .closing | .label => go
        | .append text => act (set { e with later := e.later ++ [Later.text text] })
        | .insert text => act (emit text)
        | .change text =>
          if command.scope.last.isNone || (← isPast place) then emit text
          return .dropped
        | .jump label => runFrom fuel (← placeOf label)
        | .jumpIf label =>
          if e.hasReplaced then
            set { e with hasReplaced := false }
            runFrom fuel (← placeOf label)
          else go
        | .jumpUnless label =>
          if e.hasReplaced then act (set { e with hasReplaced := false })
          else runFrom fuel (← placeOf label)
        | .delete => return .dropped
        | .deleteFirst =>
          if e.pattern.contains '\n' then
            setPattern (e.pattern.drop ((firstLine e.pattern).length + 1))
            return .again
          else return .dropped
        | .fileName => act (emit (e.current ++ ['\n']))
        | .fetch => act (setPattern e.held)
        | .fetchAppend => act (setPattern (e.pattern ++ '\n' :: e.held))
        | .hold => act (set { e with held := e.pattern })
        | .holdAppend => act (set { e with held := e.held ++ '\n' :: e.pattern })
        | .exchange => act (set { e with held := e.pattern, pattern := e.held })
        | .list width => act (emit (unambiguous (width.getD 70) e.pattern))
        | .next =>
          if ← isLast then return .finished
          else
            if !e.silent then printPattern
            match ← takeLine with
            | some line => act (setPattern line)
            | none => return .finished
        | .nextAppend =>
          match ← takeLine with
          | some line => act (setPattern (e.pattern ++ '\n' :: line))
          | none => return .finished
        | .number => act (emit (digits e.number ++ ['\n']))
        | .print => act printPattern
        | .printFirst =>
          if e.pattern.contains '\n' then act (emit (firstLine e.pattern ++ ['\n']))
          else act printPattern
        | .quit status => return .stopped status true
        | .quitSilently status => return .stopped status false
        | .readFile file => act (set { e with later := e.later ++ [Later.file file] })
        | .readLine file => act (pullLine file)
        | .substitute s => act (substitute s)
        | .translate pairs =>
          act (setPattern (e.pattern.map fun c => (pairs.lookup c).getD c))
        | .writeFile file => act (writeTo file e.pattern)
        | .writeFirst file => act (writeTo file (firstLine e.pattern))
        | .zap => act (setPattern [])

/-- No round makes more steps than that. -/
def steps : Nat := 1000000

/-- Gives back what was read too much, and prints the rest of a file that is edited in place. -/
def leave (status : Nat) : Edit Unit := do
  let e ← get
  if e.captured.isSome then
    let rest ←
      match e.source with
      | some (_, source) => pull '\x00' source
      | none => pure (.ok (none, { descriptor := standardInput }))
    let rest := (rest.toOption.bind (·.1)).getD []
    emit (e.ahead.getD [] ++ rest)
  else if let some (_, source) := e.source then
    let whole : Source := { source with buffer := e.ahead.getD [] ++ source.buffer }
    whole.giveBack
  worsen status

/-- The rounds of the script; the answer tells whether the work goes on. -/
def rounds : (fuel : Nat) → (isNew : Bool) → Edit Bool
  | 0, _ => return false
  | fuel + 1, isNew => do
    let line ← if isNew then takeLine else pure (some (← get).pattern)
    match line with
    | none => return true
    | some line =>
      setPattern line
      match ← runFrom steps 0 with
      | .finished =>
        if !(← get).silent then printPattern
        putLater
        rounds fuel true
      | .dropped =>
        putLater
        rounds fuel true
      | .again =>
        putLater
        rounds fuel false
      | .stopped status prints =>
        if prints then
          if !(← get).silent then printPattern
          putLater
        leave status
        return false

/-- How many lines there may be. -/
def roundLimit : Nat := 1000000

/-- Edits a file in place. -/
def inPlace (ending : Octets) (file : Octets) : Edit Bool := do
  match ← status? file true with
  | .error e =>
    alert ("can't read " ++ shown file ++ ": " ++ e.text)
    worsen 2
    return true
  | .ok s =>
    if !s.isFile then
      alert ("couldn't edit " ++ shown file ++ ": not a regular file")
      worsen 4
      return true
    else
      modify fun e => { e with
        files := [file], number := 0, captured := some [], isOpen := false }
      let goesOn ← rounds roundLimit true
      let text := ((← get).captured.getD []).reverse.flatten
      if !ending.isEmpty then
        let backup :=
          if ending.contains '*' then
            ending.flatMap fun c => if c = '*' then file else [c]
          else file ++ ending
        let _ ← (System.rename (path file) (path backup) : Dialogue System _)
      else
        let _ ← (System.removeFile (path file) : Dialogue System _)
      match ← (System.openPath (path file) .toWrite : Dialogue System _) with
      | .ok d =>
        let _ ← (System.write d (OsString.ofOctets text).bytes : Dialogue System _)
        (System.close d : Dialogue System _)
        let _ ← (System.setMode (path file) s.mode : Dialogue System _)
      | .error e => abort 4 ("couldn't open file " ++ shown file ++ ": " ++ e.text)
      return goesOn

/-- The files that a script writes to. -/
def Script.targets (s : Script) : List Octets :=
  s.commands.toList.filterMap fun command =>
    match command.action with
    | .writeFile file | .writeFirst file => some file
    | .substitute s => s.target
    | _ => none

/-- What `sed` is asked for. -/
structure Request where
  silent : Bool := false
  isExtended : Bool := false
  isSeparate : Bool := false
  mark : Char := '\n'
  inPlace : Option Octets := none
  /-- The parts of the script; those from the command line are numbered. -/
  parts : List (Octets × Bool) := []

def request (r : Request) (g : Given) : Program Request := do
  match g.key with
  | "n" | "silent" => return { r with silent := true }
  | "E" | "r" => return { r with isExtended := true }
  | "s" => return { r with isSeparate := true }
  | "z" => return { r with mark := '\x00' }
  | "i" => return { r with inPlace := some g.value }
  | "e" => return { r with parts := r.parts ++ [(g.value, true)] }
  | "f" =>
    match ← contentOf g.value with
    | .ok text =>
      let text := if text.getLast? == some '\n' then text.dropLast else text
      return { r with parts := r.parts ++ [(text, false)] }
    | .error e =>
      writeError ((shown (← get).name ++ ": couldn't open file " ++ shown g.value ++ ": " ++
        e.text ++ "\n").toList)
      quit 4
  | _ => return r

def choices : List Choice :=
  [flag 'n' "quiet", named "silent" .nothing, setting 'e' "expression", setting 'f' "file",
   flag 'E' "regexp-extended", flag 'r' "", ⟨some 'i', "in-place", .attached⟩, flag 's' "separate",
   flag 'u' "unbuffered", flag 'z' "null-data", setting 'l' "line-length", named "posix" .nothing,
   named "sandbox" .nothing, named "debug" .nothing]

/-- In which part of the script so many characters have been read, and how many of that part. -/
def locate : (number : Nat) → List (Octets × Bool) → Nat → Nat × Nat
  | number, [], used => (number, used)
  | number, [_], used => (number, used)
  | number, (part, _) :: rest, used =>
    if used ≤ part.length then (number, used) else locate (number + 1) rest (used - part.length - 1)

/-- Opens the files that a script writes to. -/
def openTargets : List Octets → Program (List Target)
  | [] => return []
  | name :: rest => do
    match ← (System.openPath (path name) .toWrite : Dialogue System _) with
    | .ok descriptor => return { name, descriptor } :: (← openTargets rest)
    | .error e =>
      writeError ((shown (← get).name ++ ": couldn't open file " ++ shown name ++ ": " ++
        e.text ++ "\n").toList)
      quit 4

def edit (r : Request) (script : Script) (files : List Octets) : Program Unit := do
  let targets ← openTargets (script.targets.eraseDups.filter (· ≠ "/dev/stdout".toList))
  let active := script.commands.toList.zipIdx.filterMap fun c =>
    match c.1.scope.first with
    | some (.line 0) => some (c.2, none)
    | _ => none
  let editor : Editor := {
    script, silent := r.silent || script.isSilent, mark := r.mark
    isSeparate := r.isSeparate || r.inPlace.isSome, files := orInput files, targets, active }
  let work : Edit Unit := do
    match r.inPlace with
    | some ending =>
      if files.isEmpty then abort 4 "no input files"
      let _ ← files.foldlM (fun goesOn file => do
        if goesOn then inPlace ending file else pure false) true
    | none =>
      if r.isSeparate then
        let _ ← (orInput files).foldlM (fun goesOn file => do
          if goesOn then
            modify fun e => { e with files := [file], number := 0 }
            rounds roundLimit true
          else pure false) true
      else
        let _ ← rounds roundLimit true
  let _ ← work.run editor

end Editing

open Editing in
def sed (args : List Octets) : Program Unit := do
  let usage := "Usage: sed [OPTION]... \x7bscript-only-if-no-other-script\x7d [input-file]...\n\n"
  let (r, operands) ← readOptions choices true 1 ({} : Request) request args
  let parts? : Option (List (Octets × Bool) × List Octets) :=
    match r.parts, operands with
    | [], script :: files => some ([(script, true)], files)
    | [], [] => none
    | parts, files => some (parts, files)
  match parts? with
  | none =>
    writeError usage.toList
    quit 1
  | some (parts, files) =>
    let text := ['\n'].intercalate (parts.map (·.1))
    match Script.read r.isExtended text with
    | .error fault =>
      let place :=
        match fault.rest with
        | some rest =>
          let (number, used) := locate 1 parts (text.length - rest.length)
          "#" ++ toString number ++ ", char " ++ toString used
        | none => "#1, char 0"
      writeError ((shown (← get).name ++ ": -e expression " ++ place ++ ": " ++ fault.message ++
        "\n").toList)
      quit 1
    | .ok script =>
      let jumps := script.commands.toList.filterMap (·.action.target?)
      match jumps.find? fun label => (script.labels.lookup label).isNone with
      | some label =>
        writeError ((shown (← get).name ++ ": can't find label for jump to \x60" ++ shown label ++
          "'\n").toList)
        quit 4
      | none => edit r script files

end WorkerFleet.Utility
