import WorkerFleet.Text.Format
import WorkerFleet.Utility.Editing.Command

/-!
# Reading editing commands

A fault is told with the number of characters that were read before it showed.
-/

namespace WorkerFleet.Utility.Editing

open Text

structure Fault where
  message : String
  /-- What had not been read yet; nothing if the fault is one of the whole script. -/
  rest : Option Octets

/-- A script as far as it has been read. -/
structure Draft where
  rest : Octets
  isExtended : Bool
  script : Script := {}
  /-- The groups of commands that have not come to an end. -/
  opened : List Nat := []

abbrev Reading := StateT Draft (Except Fault)

namespace Reading

def fault {α : Type} (message : String) : Reading α := do throw ⟨message, some (← get).rest⟩

/-- The next character, which may be the end. -/
def take : Reading (Option Char) := do
  let d ← get
  set { d with rest := d.rest.drop 1 }
  return d.rest.head?

/-- The next character that is no blank. -/
def takeFilled : Reading (Option Char) := do
  modify fun d => { d with rest := d.rest.dropWhile fun c => c == ' ' || c == '\t' }
  take

/-- Gives a character back. -/
def untake (c : Option Char) : Reading Unit :=
  modify fun d => { d with rest := c.toList ++ d.rest }

/-- The digits behind one that was read. -/
def number (first : Char) : Reading Nat := do
  let d ← get
  let digits := d.rest.takeWhile Char.isDigit
  set { d with rest := d.rest.drop digits.length }
  return Octets.number (first :: digits)

def closingBrace : Char := '\x7d'

/-- Nothing but the end of a command may follow. -/
def finish : Reading Unit := do
  match ← takeFilled with
  | none | some '\n' | some ';' => pure ()
  | some c =>
    if c = closingBrace || c = '#' then untake (some c)
    else fault "extra characters after command"

/-- The members of a set behind its opening bracket, with the closing one. -/
def setText (text : Octets) : Octets :=
  let front := if text.head? == some '^' then ['^'] else []
  let front := if (text.drop front.length).head? == some ']' then front ++ [']'] else front
  front ++ inner (text.length + 1) (text.drop front.length)
where
  inner : (fuel : Nat) → Octets → Octets
    | 0, _ => []
    | _ + 1, [] => []
    | _ + 1, ']' :: _ => [']']
    | fuel + 1, '[' :: k :: rest =>
      if ".:=".toList.contains k then
        let name := rest.takeWhile (· != k)
        '[' :: k :: name ++ k :: inner fuel (rest.drop (name.length + 1))
      else '[' :: inner fuel (k :: rest)
    | fuel + 1, c :: rest => c :: inner fuel rest

/-- The text up to a delimiter. An escaped delimiter stands for itself, and so does one in a set of
an expression. -/
def delimitedText (delimiter : Char) (isRegex : Bool) (complaint : String) :
    (fuel : Nat) → Octets → Reading Octets
  | 0, _ => fault complaint
  | fuel + 1, text => do
    match ← take with
    | none => fault complaint
    | some '\n' =>
      if isRegex then
        untake (some '\n')
        fault complaint
      else delimitedText delimiter isRegex complaint fuel (text ++ ['\n'])
    | some '\\' =>
      match ← take with
      | none => fault complaint
      | some c =>
        let piece : Octets :=
          if c = delimiter then (if !isRegex && c = '&' then ['\\', c] else [c])
          else if c = 'n' && isRegex then ['\n']
          else ['\\', c]
        delimitedText delimiter isRegex complaint fuel (text ++ piece)
    | some c =>
      if c = delimiter then return text
      else if c = '[' && isRegex then
        let found := setText (← get).rest
        modify fun d => { d with rest := d.rest.drop found.length }
        delimitedText delimiter isRegex complaint fuel (text ++ '[' :: found)
      else delimitedText delimiter isRegex complaint fuel (text ++ [c])

def delimited (delimiter : Char) (isRegex : Bool) (complaint : String) : Reading Octets := do
  delimitedText delimiter isRegex complaint ((← get).rest.length + 1) []

/-- The character that an escape stands for, and what follows it. -/
def escape? (text : Octets) : Option (Char × Octets) :=
  let coded (base size : Nat) (rest : Octets) : Option (Char × Octets) :=
    let found := (rest.take size).takeWhile fun c => Word.digitValue c < base
    if found.isEmpty then none
    else
      some (Format.byte (found.foldl (fun n c => n * base + Word.digitValue c) 0),
        rest.drop found.length)
  match text with
  | 'd' :: rest => coded 10 3 rest
  | 'o' :: rest => coded 8 3 rest
  | 'x' :: rest => coded 16 2 rest
  | c :: rest =>
    ([('a', '\x07'), ('f', '\x0c'), ('n', '\n'), ('r', '\r'), ('t', '\t'), ('v', '\x0b')].lookup
      c).map (·, rest)
  | [] => none

/-- Escapes in a text that is shown; the backslash of others is dropped. -/
def resolved : (fuel : Nat) → Octets → Octets
  | 0, text => text
  | _ + 1, [] => []
  | fuel + 1, '\\' :: rest =>
    match escape? rest with
    | some (c, rest) => c :: resolved fuel rest
    | none => rest.take 1 ++ resolved fuel (rest.drop 1)
  | fuel + 1, c :: rest => c :: resolved fuel rest

/-- Escapes in an expression; those of its own stay as they are. -/
def regexText : (fuel : Nat) → Octets → Octets
  | 0, text => text
  | _ + 1, [] => []
  | fuel + 1, '\\' :: rest =>
    match escape? rest with
    | some (c, rest) =>
      (if "*.^$[]\\/+?(){}|".toList.contains c then ['\\', c] else [c]) ++ regexText fuel rest
    | none => '\\' :: rest.take 1 ++ regexText fuel (rest.drop 1)
  | fuel + 1, c :: rest => c :: regexText fuel rest

/-- An expression; an empty one is the one that was used last. -/
def pattern (text : Octets) (ignoresCase hasLines : Bool) : Reading (Option Pattern) := do
  if text.isEmpty then
    if ignoresCase || hasLines then fault "cannot specify modifiers on empty regexp"
    return none
  else
    match Regex.read (← get).isExtended (regexText (text.length + 1) text) with
    | .ok (regex, groups) => return some { regex, groups, ignoresCase, hasLines }
    | .error e => fault e.message

/-- The letters behind an expression in an address. -/
def modifiers : (fuel : Nat) → Bool × Bool → Reading (Bool × Bool)
  | 0, found => return found
  | fuel + 1, (ignoresCase, hasLines) => do
    match ← takeFilled with
    | some 'I' => modifiers fuel (true, hasLines)
    | some 'M' => modifiers fuel (ignoresCase, true)
    | c =>
      untake c
      return (ignoresCase, hasLines)

/-- The address that a character begins, if it begins one. -/
def address? (c : Option Char) : Reading (Option Bound) := do
  let matching (delimiter : Char) : Reading (Option Bound) := do
    let text ← delimited delimiter true "unterminated address regex"
    let (ignoresCase, hasLines) ← modifiers ((← get).rest.length + 1) (false, false)
    return some (.at (.matching (← pattern text ignoresCase hasLines)))
  let count : Reading Nat := do
    match ← takeFilled with
    | some d =>
      if d.isDigit then number d
      else
        untake (some d)
        return 0
    | none => return 0
  match c with
  | some '/' => matching '/'
  | some '\\' =>
    match ← take with
    | some delimiter => matching delimiter
    | none => fault "unterminated address regex"
  | some '$' => return some (.at .last)
  | some '+' => return some (.after (← count))
  | some '~' => return some (.multiple (← count))
  | some c =>
    if !c.isDigit then return none
    else
      let n ← number c
      match ← takeFilled with
      | some '~' =>
        match ← takeFilled with
        | some d =>
          if d.isDigit then
            let step ← number d
            return some (.at (if step = 0 then .line n else .every n step))
          else
            untake (some d)
            return some (.at (.line n))
        | none => return some (.at (.line n))
      | next =>
        untake next
        return some (.at (.line n))
  | none => return none

/-- The lines that a command is meant for, and its first character. -/
def scope (c : Option Char) : Reading (Scope × Option Char) := do
  let (s, c) ←
    match ← address? c with
    | none => pure (({} : Scope), c)
    | some (.at first) =>
      match ← takeFilled with
      | some ',' =>
        match ← address? (← takeFilled) with
        | none => fault "unexpected \x60,'"
        | some last => pure ({ first := some first, last := some last }, ← takeFilled)
      | c => pure ({ first := some first }, c)
    | some _ => fault "invalid usage of +N or ~N as first address"
  let isMatching : Bool :=
    match s.last with
    | some (.at (.matching _)) => true
    | _ => false
  if let some (.line 0) := s.first then
    if !isMatching then fault "invalid usage of line address 0"
  if c = some '!' then
    match ← takeFilled with
    | some '!' => fault "multiple \x60!'s"
    | c => return ({ s with isNegated := true }, c)
  else return (s, c)

/-- The rest of the line. -/
def restOfLine : Reading Octets := do
  let d ← get
  let line := d.rest.takeWhile (· != '\n')
  set { d with rest := d.rest.drop (line.length + 1) }
  return line

def file : Reading Octets := do
  modify fun d => { d with rest := d.rest.dropWhile fun c => c == ' ' || c == '\t' }
  let name ← restOfLine
  if name.isEmpty then fault "missing filename in r/R/w/W commands"
  return name

/-- The name of a place in the script. -/
def label : Reading Octets := do
  modify fun d => { d with rest := d.rest.dropWhile fun c => c == ' ' || c == '\t' }
  let d ← get
  let name := d.rest.takeWhile fun c => c != ';' && !c.isWhitespace && c != closingBrace
  let rest := d.rest.drop name.length
  set { d with rest := if rest.head? == some closingBrace then rest else rest.drop 1 }
  return name

/-- The text of a command up to the first line end that is not escaped. -/
def textLines : (fuel : Nat) → Octets → Reading Octets
  | 0, text => return text
  | fuel + 1, text => do
    match ← take with
    | none => return text ++ ['\n']
    | some '\n' => return text ++ ['\n']
    | some '\\' =>
      match ← take with
      | none => return text ++ ['\n']
      | some c => textLines fuel (text ++ ['\\', c])
    | some c => textLines fuel (text ++ [c])

/-- The text that a command puts out. -/
def text : Reading Octets := do
  let lines : Reading Octets := do
    let found ← textLines ((← get).rest.length + 1) []
    return resolved (found.length + 1) found
  match ← takeFilled with
  | none => fault "expected \\ after \x60a', \x60c' or \x60i'"
  | some '\\' =>
    let d ← get
    let blanks := d.rest.takeWhile fun c => c == ' ' || c == '\t'
    let rest := d.rest.drop blanks.length
    if rest.isEmpty then return []
    else if rest.head? == some '\n' then
      set { d with rest := rest.drop 1 }
      lines
    else lines
  | c =>
    untake c
    lines

/-- A replacement and the highest group in it. -/
def replacement : (fuel : Nat) → Octets → List Piece
  | 0, _ => []
  | _ + 1, [] => []
  | fuel + 1, '\\' :: c :: rest =>
    let more := replacement fuel rest
    match [('U', Casing.upper), ('L', .lower), ('u', .nextUpper), ('l', .nextLower),
      ('E', .none)].lookup c with
    | some casing => .casing casing :: more
    | none =>
      if c.isDigit then .group (c.toNat - '0'.toNat) :: more
      else
        match escape? (c :: rest) with
        | some (c, rest) => .text [c] :: replacement fuel rest
        | none => .text [c] :: more
  | fuel + 1, '&' :: rest => .group 0 :: replacement fuel rest
  | fuel + 1, c :: rest => .text [c] :: replacement fuel rest

/-- What stands behind a replacement. -/
structure Flags where
  number : Option Nat := none
  isGlobal : Bool := false
  prints : Bool := false
  ignoresCase : Bool := false
  hasLines : Bool := false
  target : Option Octets := none

def flags : (fuel : Nat) → Flags → Reading Flags
  | 0, f => return f
  | fuel + 1, f => do
    match ← take with
    | none | some '\n' | some ';' => return f
    | some ' ' | some '\t' => flags fuel f
    | some 'g' =>
      if f.isGlobal then fault "multiple \x60g' options to \x60s' command"
      else flags fuel { f with isGlobal := true }
    | some 'p' =>
      if f.prints then fault "multiple \x60p' options to \x60s' command"
      else flags fuel { f with prints := true }
    | some 'i' | some 'I' => flags fuel { f with ignoresCase := true }
    | some 'm' | some 'M' => flags fuel { f with hasLines := true }
    | some 'w' => return { f with target := some (← file) }
    | some c =>
      if c.isDigit then
        if f.number.isSome then fault "multiple number options to \x60s' command"
        else
          let n ← number c
          if n = 0 then fault "number option to \x60s' command may not be zero"
          else flags fuel { f with number := some n }
      else if c = closingBrace || c = '#' then
        untake (some c)
        return f
      else fault "unknown option to \x60s'"

def substitution : Reading Substitution := do
  let complaint := "unterminated \x60s' command"
  let delimiter ← take
  match delimiter with
  | none => fault complaint
  | some delimiter =>
    let regex ← delimited delimiter true complaint
    let replaced ← delimited delimiter false complaint
    let pieces := replacement (replaced.length + 1) replaced
    let f ← flags ((← get).rest.length + 1) {}
    let pattern ← pattern regex f.ignoresCase f.hasLines
    let highest := pieces.foldl (fun n (piece : Piece) =>
      match piece with
      | .group m => max n m
      | _ => n) 0
    if let some p := pattern then
      if p.groups < highest then
        fault ("invalid reference \\" ++ toString highest ++ " on \x60s' command's RHS")
    return {
      pattern, replacement := pieces, number := f.number.getD 1, isGlobal := f.isGlobal
      prints := f.prints, target := f.target }

/-- The characters of a text in which a backslash escapes only itself and line ends. -/
def listed : Octets → Octets
  | '\\' :: '\\' :: rest => '\\' :: listed rest
  | '\\' :: 'n' :: rest => '\n' :: listed rest
  | '\\' :: 't' :: rest => '\t' :: listed rest
  | c :: rest => c :: listed rest
  | [] => []

def translation : Reading (List (Char × Char)) := do
  let complaint := "unterminated \x60y' command"
  match ← take with
  | none => fault complaint
  | some delimiter =>
    let source := listed (← delimited delimiter false complaint)
    let target := listed (← delimited delimiter false complaint)
    if source.length ≠ target.length then
      fault "strings for \x60y' command are different lengths"
    finish
    return source.zip target

/-- The status that a command may end with. -/
def status? : Reading (Option Nat) := do
  match ← takeFilled with
  | some c =>
    if c.isDigit then
      let n ← number c
      finish
      return some n
    else
      untake (some c)
      finish
      return none
  | none => return none

/-- Commands of one letter. -/
def letters : List (Char × Action) := [
  ('=', .number), ('d', .delete), ('D', .deleteFirst), ('F', .fileName), ('g', .fetch),
  ('G', .fetchAppend), ('h', .hold), ('H', .holdAppend), ('n', .next), ('N', .nextAppend),
  ('p', .print), ('P', .printFirst), ('x', .exchange), ('z', .zap)]

def add (scope : Scope) (action : Action) : Reading Unit :=
  modify fun d => { d with
    script := { d.script with commands := d.script.commands.push ⟨scope, action⟩ } }

/-- One command that begins with a character. -/
def command (c : Option Char) : Reading Unit := do
  let (s, c) ← scope c
  let here := (← get).script.commands.size
  let single (action : Action) : Reading Unit := do
    if s.last.isSome then fault "command only uses one address"
    add s action
  match c with
  | none => fault "missing command"
  | some '#' =>
    if s.first.isSome then fault "comments don't accept any addresses"
    let _ ← restOfLine
  | some '\x7b' =>
    modify fun d => { d with opened := here :: d.opened }
    add s .opening
  | some '\x7d' =>
    match (← get).opened with
    | [] => fault "unexpected \x60\x7d'"
    | first :: more =>
      if s.first.isSome then fault "\x7d doesn't want any addresses"
      modify fun d => { d with
        opened := more, script := { d.script with groups := (first, here) :: d.script.groups } }
      add s .closing
      finish
  | some ':' =>
    if s.first.isSome then fault ": doesn't want any addresses"
    let name ← label
    if name.isEmpty then fault "\":\" lacks a label"
    modify fun d => { d with script := { d.script with labels := (name, here) :: d.script.labels } }
    add s .label
  | some 'a' => add s (.append (← text))
  | some 'i' => add s (.insert (← text))
  | some 'c' => add s (.change (← text))
  | some 'b' => add s (.jump (← label))
  | some 't' => add s (.jumpIf (← label))
  | some 'T' => add s (.jumpUnless (← label))
  | some 'q' =>
    if s.last.isSome then fault "command only uses one address"
    single (.quit ((← status?).getD 0))
  | some 'Q' =>
    if s.last.isSome then fault "command only uses one address"
    single (.quitSilently ((← status?).getD 0))
  | some 'l' => add s (.list (← status?))
  | some 'r' => add s (.readFile (← file))
  | some 'R' => add s (.readLine (← file))
  | some 'w' => add s (.writeFile (← file))
  | some 'W' => add s (.writeFirst (← file))
  | some 's' => add s (.substitute (← substitution))
  | some 'y' => add s (.translate (← translation))
  | some c =>
    match letters.lookup c with
    | some action =>
      finish
      add s action
    | none => fault ("unknown command: \x60" ++ c.toString ++ "'")

def commands : (fuel : Nat) → Reading Unit
  | 0 => pure ()
  | fuel + 1 => do
    modify fun d => { d with rest := d.rest.dropWhile fun c => c == ';' || c.isWhitespace }
    match ← take with
    | none => pure ()
    | c =>
      command c
      commands fuel

end Reading

/-- The labels that a script jumps to. -/
def Action.target? : Action → Option Octets
  | .jump name | .jumpIf name | .jumpUnless name => if name.isEmpty then none else some name
  | _ => none

/-- Reads a script. -/
def Script.read (isExtended : Bool) (text : Octets) : Except Fault Script := do
  let start : Draft := { rest := text, isExtended }
  let ((), d) ← (Reading.commands (text.length + 1)).run start
  if !d.opened.isEmpty then throw ⟨"unmatched \x60\x7b'", none⟩
  let isSilent : Bool := text.take 2 = ['#', 'n'] && (text.drop 2).head?.all (· == '\n')
  return { d.script with isSilent }

end WorkerFleet.Utility.Editing
