import WorkerFleet.Text.Regex
import WorkerFleet.Text.Word
import WorkerFleet.Utility.Reading

/-!
# Searching lines

`grep` selects the lines that match one of several patterns, and tells which they are, how many, or
in which files.
-/

namespace WorkerFleet.Utility

open Host Text

namespace Searching

/-- How patterns are read. -/
inductive PatternKind
  | basic
  | extended
  | fixed
  deriving DecidableEq, Repr

/-- What `grep` is asked for. -/
structure Search where
  patterns : Option (List Octets) := none
  kind : PatternKind := .basic
  ignoresCase : Bool := false
  isInverted : Bool := false
  isWhole : Bool := false
  isWord : Bool := false
  counts : Bool := false
  /-- Only the names of files with selected lines, or of those without. -/
  lists : Option Bool := none
  isQuiet : Bool := false
  hidesFaults : Bool := false
  numbers : Bool := false
  offsets : Bool := false
  onlyMatches : Bool := false
  showsNames : Option Bool := none
  most : Option Nat := none
  before : Nat := 0
  after : Nat := 0
  /-- Digits among the options, which tell both at once. -/
  around : Option Nat := none
  isDeep : Bool := false
  skipsDirectories : Bool := false
  isText : Bool := false
  mark : Char := '\n'
  inputName : Octets := "(standard input)".toList

def choices : List Choice :=
  [setting 'e' "regexp", setting 'f' "file", flag 'E' "extended-regexp", flag 'F' "fixed-strings",
   flag 'G' "basic-regexp", flag 'P' "perl-regexp", flag 'i' "ignore-case", flag 'y' "",
   named "no-ignore-case" .nothing, flag 'v' "invert-match", flag 'x' "line-regexp",
   flag 'w' "word-regexp", flag 'c' "count", flag 'l' "files-with-matches",
   flag 'L' "files-without-match", flag 'q' "quiet", named "silent" .nothing,
   flag 's' "no-messages", flag 'n' "line-number", flag 'b' "byte-offset",
   flag 'o' "only-matching", flag 'h' "no-filename", flag 'H' "with-filename",
   setting 'm' "max-count", setting 'A' "after-context", setting 'B' "before-context",
   setting 'C' "context", flag 'r' "recursive", flag 'R' "dereference-recursive",
   setting 'd' "directories", flag 'a' "text", flag 'z' "null-data", flag 'U' "binary", flag 'I' "",
   named "label" .value, named "color" .attached, named "colour" .attached,
   named "line-buffered" .nothing, flag 'u' ""] ++
  "0123456789".toList.map fun d => flag d ""

def size (text : Octets) : Program Nat := do
  if !text.isEmpty && text.all Char.isDigit then return Octets.number text
  else die 2 (shown text ++ ": invalid context length argument")

def take (s : Search) (g : Given) : Program Search := do
  let add (found : List Octets) : Search :=
    { s with patterns := some (s.patterns.getD [] ++ found) }
  match g.key with
  | "e" => return add g.value.parts
  | "f" =>
    match ← contentOf g.value with
    | .ok text => return add text.lines
    | .error e => die 2 (shown g.value ++ ": " ++ e.text)
  | "E" | "P" => return { s with kind := .extended }
  | "F" => return { s with kind := .fixed }
  | "G" => return { s with kind := .basic }
  | "i" | "y" => return { s with ignoresCase := true }
  | "no-ignore-case" => return { s with ignoresCase := false }
  | "v" => return { s with isInverted := true }
  | "x" => return { s with isWhole := true }
  | "w" => return { s with isWord := true }
  | "c" => return { s with counts := true }
  | "l" => return { s with lists := some true }
  | "L" => return { s with lists := some false }
  | "q" | "silent" => return { s with isQuiet := true }
  | "s" => return { s with hidesFaults := true }
  | "n" => return { s with numbers := true }
  | "b" => return { s with offsets := true }
  | "o" => return { s with onlyMatches := true }
  | "h" => return { s with showsNames := some false }
  | "H" => return { s with showsNames := some true }
  | "m" =>
    match Word.integer? (Word.readDigits 10) g.value with
    | some n => return { s with most := if n < 0 then none else some n.toNat }
    | none => die 2 "invalid max count"
  | "A" => return { s with after := ← size g.value }
  | "B" => return { s with before := ← size g.value }
  | "C" =>
    let n ← size g.value
    return { s with before := n, after := n }
  | "r" | "R" => return { s with isDeep := true }
  | "d" =>
    match shown g.value with
    | "skip" => return { s with skipsDirectories := true }
    | "recurse" => return { s with isDeep := true }
    | _ => return s
  | "a" => return { s with isText := true }
  | "z" => return { s with mark := '\x00' }
  | "label" => return { s with inputName := g.value }
  | key =>
    match key.toList with
    | [d] =>
      if d.isDigit then
        let n := s.around.getD 0 * 10 + (d.toNat - '0'.toNat)
        return { s with around := some n }
      else return s
    | _ => return s

/-- Whether something is to be repeated where nothing stands before it. -/
def repeatsNothing : (fuel : Nat) → (isStart : Bool) → Octets → Option Char
  | 0, _, _ => none
  | _ + 1, _, [] => none
  | fuel + 1, isStart, c :: rest =>
    if c = '\\' then repeatsNothing fuel false (rest.drop 1)
    else if c = '[' then
      repeatsNothing fuel false (((rest.drop 1).dropWhile (· != ']')).drop 1)
    else if c = '(' || c = '|' then repeatsNothing fuel true rest
    else if isStart && "*+?".toList.contains c then some c
    else repeatsNothing fuel (isStart && c == '^') rest

/-- The expression of a pattern. -/
def expression (s : Search) (pattern : Octets) : Program Regex := do
  if s.kind = .fixed then return Regex.ofText pattern
  else
    if pattern.take 2 = "[:".toList && pattern.length ≠ 2 &&
        pattern.drop (pattern.length - 2) = ":]".toList then
      die 2 "character class syntax is [[:space:]], not [:space:]"
    if s.kind = .extended then
      if let some c := repeatsNothing (pattern.length + 1) true pattern then
        complain ("warning: " ++ c.toString ++ " at start of expression")
    match Regex.read (s.kind = .extended) pattern with
    | .ok (regex, _) => return regex
    | .error e => die 2 e.message

/-- The longest match from a place on that is allowed. -/
def matchAt? (s : Search) (v : Regex.View) (r : Regex) (start : Nat) : Option Nat :=
  let isWordEdge (place : Nat) : Bool := !(v.isWordBefore place && v.isWordAt place)
  let isAllowed (ending : Nat) : Bool :=
    (!s.isWhole || (start = 0 && ending = v.text.size)) &&
      (!s.isWord || s.isWhole || (!v.isWordBefore start && !v.isWordAt ending &&
        isWordEdge start && isWordEdge ending))
  ((r.advance v { place := start }).filter fun p => isAllowed p.place).foldl (fun best p =>
    match best with
    | none => some p.place
    | some n => some (max n p.place)) none

/-- The first match from a place on. -/
def find? (s : Search) (regexes : List Regex) (v : Regex.View) (place : Nat) : Option (Nat × Nat) :=
  ((List.range (v.text.size + 1 - place)).map (place + ·)).findSome? fun start =>
    (regexes.filterMap fun r => matchAt? s v r start).foldl (fun best ending =>
      match best with
      | none => some (start, ending)
      | some (_, n) => some (start, max n ending)) none

/-- All matches in a line that are not empty. -/
def findAll (s : Search) (regexes : List Regex) (v : Regex.View) : (fuel : Nat) → (place : Nat) →
    List (Nat × Nat)
  | 0, _ => []
  | fuel + 1, place =>
    match find? s regexes v place with
    | none => []
    | some (start, ending) =>
      if ending = start then findAll s regexes v fuel (start + 1)
      else (start, ending) :: findAll s regexes v fuel ending

/-- A line with its number, where it begins, and whether it is selected. -/
structure Line where
  number : Nat
  offset : Nat
  text : Octets
  isSelected : Bool

/-- The lines of a text, up to the last one that may be selected. -/
def look (s : Search) (regexes : List Regex) : (number offset left : Nat) → List Octets → List Line
  | _, _, _, [] => []
  | number, offset, left, text :: rest =>
    let v : Regex.View := { text := text.toArray, ignoresCase := s.ignoresCase }
    let isSelected := 0 < left && ((find? s regexes v 0).isSome != s.isInverted)
    ⟨number, offset, text, isSelected⟩ ::
      look s regexes (number + 1) (offset + text.length + 1) (if isSelected then left - 1 else left)
        rest

/-- What stands in front of a line. -/
def label (s : Search) (name : Option Octets) (line : Line) (separator : Char) : Octets :=
  ((name.map (· ++ [separator])).getD []) ++
    (if s.numbers then digits line.number ++ [separator] else []) ++
    (if s.offsets then digits line.offset ++ [separator] else [])

/-- The text of a line or of its matches. -/
def shownLine (s : Search) (regexes : List Regex) (name : Option Octets) (line : Line) : Octets :=
  let separator := if line.isSelected then ':' else '-'
  if !s.onlyMatches then label s name line separator ++ line.text ++ [s.mark]
  else if s.isInverted || !line.isSelected then []
  else
    let v : Regex.View := { text := line.text.toArray, ignoresCase := s.ignoresCase }
    (findAll s regexes v (line.text.length + 2) 0).flatMap fun m =>
      label s name { line with offset := line.offset + m.1 } separator ++ v.part m.1 m.2 ++ [s.mark]

/-- The selected lines with those around them; a mark stands between groups. -/
def shownAll (s : Search) (regexes : List Regex) (name : Option Octets) (lines : List Line) :
    Octets :=
  let selected := (lines.filter (·.isSelected)).map (·.number)
  let isNear (line : Line) : Bool :=
    selected.any fun n => n ≤ line.number + s.before && line.number ≤ n + s.after
  let hasContext := 0 < s.before || 0 < s.after
  let near := if hasContext then lines.filter isNear else lines.filter (·.isSelected)
  (near.foldl (fun (out : Octets × Option Nat) line =>
    let gap := hasContext && !s.onlyMatches && out.2.any (· + 1 < line.number)
    (out.1 ++ (if gap then "--\n".toList else []) ++ shownLine s regexes name line,
      some line.number)) ([], none)).1

/-- All files below a directory, in order. -/
def filesUnder : (depth : Nat) → Octets → Program (List Octets)
  | 0, _ => return []
  | depth + 1, dir => do
    match ← (System.list (path dir) : Dialogue System _) with
    | .error _ => return []
    | .ok names =>
      let found ← (Octets.sorted (names.map (·.octets))).mapM fun name => do
        let file := if dir = ['.'] then name else
          if dir.getLast? == some '/' then dir ++ name else dir ++ '/' :: name
        match ← status? file false with
        | .ok s =>
          if s.isDirectory then filesUnder depth file else pure (if s.isFile then [file] else [])
        | .error _ => pure []
      return found.flatten

/-- The lines of a file with what stands between two marks. -/
def linesOf (mark : Char) (text : Octets) : List Octets :=
  let parts := splitOn mark text
  if parts.getLast? == some [] then parts.dropLast else parts

/-- Searches one file; the answer tells whether anything was selected. -/
def searchFile (s : Search) (regexes : List Regex) (named : Bool) (file : Octets) :
    Program Bool := do
  let shownName := if file = ['-'] then s.inputName else file
  match ← contentOf file with
  | .error e =>
    if s.skipsDirectories && e = .isDirectory then return false
    worsen 2
    if !s.hidesFaults then complain (shown shownName ++ ": " ++ e.text)
    return false
  | .ok text =>
    let texts := linesOf s.mark text
    let most := s.most.getD (texts.length + 1)
    let lines := look s regexes 1 0 most texts
    let count := (lines.filter (·.isSelected)).length
    let name := if named then some shownName else none
    if s.isQuiet then pure ()
    else if let some wanted := s.lists then
      if wanted = decide (0 < count) then printLine shownName
    else if s.counts then
      print ((name.map (· ++ [':'])).getD [] ++ digits count ++ ['\n'])
    else if text.contains '\x00' && !s.isText && s.mark = '\n' then
      if 0 < count then
        printLine ("grep: ".toList ++ shownName ++ ": binary file matches".toList)
    else print (shownAll s regexes name lines)
    if file = ['-'] && s.most = some count then
      let last := (lines.filter (·.isSelected)).getLast?
      let used := (last.map fun line => line.offset + line.text.length + 1).getD 0
      let _ ← (System.goBack standardInput (text.length - used) : Dialogue System _)
    return 0 < count

/-- What is told to who called the program wrongly. -/
def misused {α : Type} : Program α := do
  complainRaw "Usage: grep [OPTION]... PATTERNS [FILE]...\n"
  pointToHelp 2

end Searching

open Searching in
def grep (args : List Octets) : Program Unit := do
  let reading := readArguments choices true 0 args
  let s ← reading.given.foldlM take ({} : Search)
  if let some fault := reading.fault then
    complain fault.message
    misused
  let (patterns, files) ←
    match s.patterns, reading.operands with
    | some patterns, files => pure (patterns, files)
    | none, pattern :: files => pure (pattern.parts, files)
    | none, [] => misused
  let s :=
    match s.around with
    | some n => { s with before := if s.before = 0 then n else s.before
                         after := if s.after = 0 then n else s.after }
    | none => s
  let regexes ← patterns.mapM (expression s)
  let wanted := if files.isEmpty then (if s.isDeep then [['.']] else [['-']]) else files
  let found ← wanted.mapM fun file => do
    if s.isDeep && (← isDirectory file) then
      let below ← filesUnder depthLimit file
      pure (below.map fun name =>
        if !files.isEmpty && file = ['.'] then "./".toList ++ name else name)
    else pure [file]
  let named := s.showsNames.getD (1 < files.length || s.isDeep)
  let all := found.flatten
  let mut isFound := false
  for file in all do
    if !(s.isQuiet && isFound) then
      if ← searchFile s regexes named file then isFound := true
  if s.isQuiet && isFound then modify fun w => { w with status := 0 }
  else if !isFound then worsen 1

end WorkerFleet.Utility
