import WorkerFleet.Shell.Pattern
import WorkerFleet.Utility.Files
import WorkerFleet.Utility.Launching

/-!
# Finding files

`find` goes through directories and asks its condition of each file; some conditions also do
something.
-/

namespace WorkerFleet.Utility

open Host Text

/-- A text as a pattern in which a backslash takes away the meaning of the next character. -/
def patternField : Octets → Shell.Field
  | '\\' :: c :: rest => ⟨c, true⟩ :: patternField rest
  | c :: rest => ⟨c, false⟩ :: patternField rest
  | [] => []

def matchesPattern (pattern text : Octets) : Bool := (patternField pattern).isMatch text

/-- A condition of `find`, or something that it does. -/
inductive Finding
  | named (pattern : Octets) (ignoresCase : Bool)
  | inPath (pattern : Octets)
  | ofKind (kind : Kind)
  | empty
  | print (isZero : Bool)
  | delete
  | prune
  | always (b : Bool)
  | run (words : List Octets)
  | not (a : Finding)
  | and (a b : Finding)
  | or (a b : Finding)

namespace Finding

def acts : Finding → Bool
  | .print _ | .delete | .run _ => true
  | .not a => a.acts
  | .and a b | .or a b => a.acts || b.acts
  | _ => false

/-- The depths between which something is looked at. -/
structure Depths where
  least : Nat := 0
  most : Nat := 1000
  isUpward : Bool := false

def failed {α : Type} (message : String) : Program α := die 1 message

mutual

/-- Alternatives, and the arguments that follow. -/
def readOr : (fuel : Nat) → List Octets → Program (Finding × List Octets)
  | 0, args => return (.always true, args)
  | fuel + 1, args => do
    let (a, rest) ← readAnd fuel args
    match rest with
    | op :: rest =>
      if op = "-o".toList || op = "-or".toList then
        let (b, rest) ← readOr fuel rest
        return (.or a b, rest)
      else return (a, op :: rest)
    | [] => return (a, [])

def readAnd : Nat → List Octets → Program (Finding × List Octets)
  | 0, args => return (.always true, args)
  | fuel + 1, args => do
    let (a, rest) ← readTerm fuel args
    match rest with
    | [] => return (a, [])
    | op :: more =>
      if op = "-o".toList || op = "-or".toList || op = [')'] then return (a, rest)
      else
        let (b, rest) ← readAnd fuel (if op = "-a".toList || op = "-and".toList then more else rest)
        return (.and a b, rest)

def readTerm : Nat → List Octets → Program (Finding × List Octets)
  | 0, args => return (.always true, args)
  | fuel + 1, args => do
    match args with
    | [] => failed "invalid expression"
    | word :: rest =>
      let valued (use : Octets → Program Finding) : Program (Finding × List Octets) := do
        match rest with
        | value :: rest => return (← use value, rest)
        | [] => failed ("missing argument to \x60" ++ shown word ++ "'")
      match shown word with
      | "!" | "-not" =>
        let (a, rest) ← readTerm fuel rest
        return (.not a, rest)
      | "(" =>
        let (a, rest) ← readOr fuel rest
        match rest with
        | [')'] :: rest => return (a, rest)
        | _ => failed "invalid expression; I was expecting to find a ')' somewhere but did not see one."
      | "-name" => valued fun p => return .named p false
      | "-iname" => valued fun p => return .named p true
      | "-path" => valued fun p => return .inPath p
      | "-type" => valued fun t => do
        match [("f", Kind.file), ("d", .directory), ("l", .symlink), ("p", .fifo),
          ("c", .device)].lookup (shown t) with
        | some kind => return .ofKind kind
        | none => failed ("Unknown argument to -type: " ++ shown t)
      | "-empty" => return (.empty, rest)
      | "-print" => return (.print false, rest)
      | "-print0" => return (.print true, rest)
      | "-delete" => return (.delete, rest)
      | "-prune" => return (.prune, rest)
      | "-true" => return (.always true, rest)
      | "-false" => return (.always false, rest)
      | "-exec" =>
        let words := rest.takeWhile fun w => w ≠ [';'] && w ≠ ['+']
        if words.length = rest.length then failed "missing argument to \x60-exec'"
        return (.run words, rest.drop (words.length + 1))
      | name =>
        if name.toList.head? == some '-' then failed ("unknown predicate \x60" ++ name ++ "'")
        else
          failed ("paths must precede expression: \x60" ++ name ++ "'")

end

/-- Whether the condition holds of a file; what it does is done. -/
def holds (file : Octets) (s : Status) : Finding → Program Bool
  | .named p ignoresCase =>
    let lower (t : Octets) : Octets := if ignoresCase then t.map Char.toLower else t
    return matchesPattern (lower p) (lower (lastName file))
  | .inPath p => return matchesPattern p file
  | .ofKind kind => return s.kind == kind
  | .empty => do
    if s.isDirectory then
      return ((← (System.list (path file) : Dialogue System _)).toOption.any (·.isEmpty))
    else return s.isFile && s.size == 0
  | .print isZero => do
    Utility.print (file ++ [if isZero then '\x00' else '\n'])
    return true
  | .delete => do
    if file ≠ ['.'] then
      let gone ←
        if s.isDirectory then (System.removeDirectory (path file) : Dialogue System _)
        else (System.removeFile (path file) : Dialogue System _)
      if let .error e := gone then
        fail 1 ("cannot delete " ++ quoteName file ++ ": " ++ e.text)
    return true
  | .prune => return true
  | .always b => return b
  | .run words => do
    let filled := words.map fun w => fillIn "\x7b\x7d".toList file (w.length + 1) w
    let child ← inChild do
      let e ← become (← get).env filled
      die (startFault e) (quoteName (filled.headD []) ++ ": " ++ e.text)
    match ← (System.await child false : Dialogue System _) with
    | .ended (.code 0) => return true
    | _ => return false
  | .not a => do return !(← holds file s a)
  | .and a b => do if ← holds file s a then holds file s b else return false
  | .or a b => do if ← holds file s a then return true else holds file s b

/-- Whether the search does not enter a directory. -/
def isPruned (file : Octets) (s : Status) : Finding → Program Bool
  | .prune => return true
  | .and a b => do
    if ← isPruned file s a then return true
    else if a.acts then return false
    else if ← holds file s a then isPruned file s b
    else return false
  | .or a b => do if ← isPruned file s a then return true else isPruned file s b
  | _ => return false

/-- Goes through a file and all that is in it. -/
def walk (d : Depths) (finding : Finding) : (depth : Nat) → (level : Nat) → Octets → Program Unit
  | 0, _, _ => pure ()
  | depth + 1, level, file => do
    match ← status? file false with
    | .error e => fail 1 (quoteName file ++ ": " ++ e.text)
    | .ok s =>
      let here : Program Unit := do
        if d.least ≤ level then
          let _ ← finding.holds file s
      let isPruned ← finding.isPruned file s
      if !d.isUpward then here
      if s.isDirectory && level < d.most && !isPruned then
        match ← (System.list (path file) : Dialogue System _) with
        | .ok names =>
          for name in Octets.sorted (names.map (·.octets)) do
            walk d finding depth (level + 1) (joinPath file name)
        | .error e => fail 1 (quoteName file ++ ": " ++ e.text)
      if d.isUpward then here

/-- Takes the options about depths out of the arguments. -/
def readDepths : List Octets → Depths → Program (Depths × List Octets)
  | [], d => return (d, [])
  | word :: rest, d => do
    let number (use : Nat → Depths) : Program (Depths × List Octets) := do
      match rest with
      | value :: more =>
        if !value.isEmpty && value.all Char.isDigit then
          let (d, more) ← readDepths more (use (Octets.number value))
          return (d, more)
        else
          failed ("Expected a positive decimal integer argument to " ++ shown word ++
            ", but got " ++ quote value)
      | [] => failed ("missing argument to \x60" ++ shown word ++ "'")
    match shown word with
    | "-maxdepth" => number fun n => { d with most := n }
    | "-mindepth" => number fun n => { d with least := n }
    | "-depth" => readDepths rest { d with isUpward := true }
    | _ =>
      let d := if word = "-delete".toList then { d with isUpward := true } else d
      let (d, more) ← readDepths rest d
      return (d, word :: more)

end Finding

def find (args : List Octets) : Program Unit := do
  let isPlace (arg : Octets) : Bool := !(arg.head?.any "-(!".toList.contains)
  let places := args.takeWhile isPlace
  let (d, words) ← Finding.readDepths (args.drop places.length) {}
  let (finding, rest) ←
    if words.isEmpty then pure (Finding.always true, []) else Finding.readOr (4 * words.length + 8) words
  if let extra :: _ := rest then Finding.failed ("paths must precede expression: \x60" ++ shown extra ++ "'")
  let finding := if finding.acts then finding else .and finding (.print false)
  for place in if places.isEmpty then [['.']] else places do
    finding.walk d depthLimit 0 place

end WorkerFleet.Utility
