import WorkerFleet.Text.Decimal
import WorkerFleet.Utility.Amount
import WorkerFleet.Utility.Input
import WorkerFleet.Utility.Options

/-!
# Utilities that show files
-/

namespace WorkerFleet.Utility

open Host

def digits (n : Nat) : Octets := Text.Decimal.ofNat n

/-- Filled up with blanks on the left. -/
def padLeft (width : Nat) (text : Octets) : Octets :=
  List.replicate (width - text.length) ' ' ++ text

/-! ## `cat` -/

/-- What `cat` does to lines. -/
structure Dressing where
  numbersAll : Bool := false
  numbersFilled : Bool := false
  squeezes : Bool := false
  showsEnds : Bool := false
  showsTabs : Bool := false
  showsControls : Bool := false

namespace Dressing

def isPlain (d : Dressing) : Bool :=
  !(d.numbersAll || d.numbersFilled || d.squeezes || d.showsEnds || d.showsTabs ||
    d.showsControls)

/-- A character as it is shown. -/
def char (d : Dressing) (c : Char) : Octets :=
  let n := c.toNat
  let low (n : Nat) : Octets :=
    if n < 32 then ['^', Char.ofNat (n + 64)] else if n = 127 then "^?".toList else [Char.ofNat n]
  if c = '\t' then (if d.showsTabs then "^I".toList else [c])
  else if d.showsControls then (if n < 128 then low n else "M-".toList ++ low (n - 128))
  else [c]

/-- Lines one after the other, from a line number on; the answer has the number of the next line and
whether the last line was empty. -/
def lines (d : Dressing) : (number : Nat) → (afterEmpty : Bool) → List Octets →
    Octets × Nat × Bool
  | number, afterEmpty, [] => ([], number, afterEmpty)
  | number, afterEmpty, line :: rest =>
    let isEmpty := line = ['\n']
    if d.squeezes && isEmpty && afterEmpty then lines d number true rest
    else
      let isNumbered := if d.numbersFilled then !isEmpty else d.numbersAll
      let body := if line.getLast? == some '\n' then line.dropLast else line
      let ending := line.drop body.length
      let shown := (if isNumbered then padLeft 6 (digits number) ++ ['\t'] else []) ++
        body.flatMap d.char ++ (if d.showsEnds && !ending.isEmpty then ['$'] else []) ++ ending
      let more := lines d (if isNumbered then number + 1 else number) isEmpty rest
      (shown ++ more.1, more.2)

end Dressing

def catChoices : List Choice :=
  [flag 'A' "show-all", flag 'b' "number-nonblank", flag 'e' "", flag 'E' "show-ends",
   flag 'n' "number", flag 's' "squeeze-blank", flag 't' "", flag 'T' "show-tabs", flag 'u' "",
   flag 'v' "show-nonprinting"]

def dress (d : Dressing) (g : Given) : Program Dressing :=
  return match g.key with
    | "A" => { d with showsControls := true, showsEnds := true, showsTabs := true }
    | "b" => { d with numbersFilled := true }
    | "e" => { d with showsControls := true, showsEnds := true }
    | "E" => { d with showsEnds := true }
    | "n" => { d with numbersAll := true }
    | "s" => { d with squeezes := true }
    | "t" => { d with showsControls := true, showsTabs := true }
    | "T" => { d with showsTabs := true }
    | "v" => { d with showsControls := true }
    | _ => d

/-- Hands on what is read as it comes. -/
def passOn (source : Source) : (blocks : Nat) → Program (Except OsError Unit)
  | 0 => return .ok ()
  | blocks + 1 => do
    match ← (System.read source.descriptor System.blockSize : Dialogue System _) with
    | .error e => return .error e
    | .ok [] => return .ok ()
    | .ok bytes =>
      print (OsString.octets ⟨bytes⟩)
      flush
      passOn source blocks

def complainOf (file : Octets) (e : OsError) : Program Unit :=
  fail 1 (plainName file ++ ": " ++ e.text)

def cat (args : List Octets) : Program Unit := do
  let (d, files) ← readOptions catChoices true 1 ({} : Dressing) dress args
  let files := orInput files
  if d.isPlain then
    for file in files do
      match ← Source.ofName file with
      | .error e => complainOf file e
      | .ok source =>
        match ← passOn source System.blockLimit with
        | .ok () => pure ()
        | .error e => complainOf file e
        source.close
  else
    let mut number := 1
    let mut afterEmpty := false
    for file in files do
      match ← contentOf file with
      | .error e => complainOf file e
      | .ok text =>
        let (shown, next, isEmpty) := d.lines number afterEmpty text.fullLines
        print shown
        number := next
        afterEmpty := isEmpty

/-! ## `head` and `tail` -/

/-- Which part of a file is shown. -/
structure Portion where
  /-- Lines or else bytes. -/
  isLines : Bool := true
  size : Nat := 10
  /-- Counted from the other end. -/
  isRest : Bool := false
  quiet : Bool := false
  verbose : Bool := false
  usesZeros : Bool := false

/-- The size of a part; a sign in front tells that the rest is meant. -/
def readPortion (sign : Char) (p : Portion) (isLines : Bool) (text : Octets) : Program Portion := do
  let isRest := text.head? == some sign
  let text := if text.head?.any fun c => c == '-' || c == '+' then text.drop 1 else text
  match amount text with
  | .ok size => return { p with isLines, size, isRest }
  | .error fault =>
    let unit := if isLines then "lines" else "bytes"
    die 1 ("invalid number of " ++ unit ++ ": " ++ quote text ++
      if fault = .tooLarge then ": Value too large for defined data type" else "")

def portionChoices : List Choice :=
  [setting 'c' "bytes", setting 'n' "lines", flag 'q' "quiet", named "silent" .nothing,
   flag 'v' "verbose", flag 'z' "zero-terminated", ⟨some 'f', "follow", .attached⟩, setting 's' "",
   flag 'F' ""]

def portion (sign : Char) (p : Portion) (g : Given) : Program Portion :=
  match g.key with
  | "c" => readPortion sign p false g.value
  | "n" => readPortion sign p true g.value
  | "q" | "silent" => return { p with quiet := true, verbose := false }
  | "v" => return { p with verbose := true, quiet := false }
  | "z" => return { p with usesZeros := true }
  | _ => return p

/-- An old-fashioned first argument: a number of lines or bytes behind a dash. -/
def oldPortion (args : List Octets) : Program (List Octets) := do
  match args with
  | ('-' :: d :: more) :: rest =>
    if !d.isDigit then return args
    let number := d :: more.takeWhile Char.isDigit
    let letters := more.dropWhile Char.isDigit
    match letters.find? fun c => !"lcqvbkmz".toList.contains c with
    | some c => misuse 1 ("invalid trailing option -- " ++ c.toString)
    | none =>
      let isBytes := letters.any "cbkm".toList.contains
      let unit := letters.filter "bkm".toList.contains
      return (if isBytes then "-c".toList else "-n".toList) :: (number ++ unit) ::
        ((letters.filter "qvz".toList.contains).map fun c => ['-', c]) ++ rest
  | args => return args

/-- The name of a file above its part, if several are shown. -/
def showTitle (p : Portion) (several : Bool) (isFirst : Bool) (file : Octets) : Program Unit := do
  if p.verbose || (several && !p.quiet) then
    let name := if file = ['-'] then "standard input".toList else file
    print ((if isFirst then [] else ['\n']) ++ "==> ".toList ++ name ++ " <==\n".toList)

/-- Shows bytes from the front and leaves the others. -/
def showBytes : (blocks : Nat) → Source → (size : Nat) → Program (Except OsError Source)
  | 0, source, _ => return .ok source
  | blocks + 1, source, size => do
    if size = 0 then return .ok source
    if source.buffer.isEmpty then
      match ← (System.read source.descriptor (min size Source.blockSize) : Dialogue System _) with
      | .error e => return .error e
      | .ok [] => return .ok source
      | .ok bytes =>
        print (OsString.octets ⟨bytes⟩)
        showBytes blocks source (size - bytes.length)
    else
      print (source.buffer.take size)
      showBytes blocks { source with buffer := source.buffer.drop size } (size - source.buffer.length)

/-- Shows lines from the front and leaves the others. -/
def showLines : (size : Nat) → Source → Program (Except OsError Source)
  | 0, source => return .ok source
  | size + 1, source => do
    match ← source.nextLine with
    | .error e => return .error e
    | .ok (none, source) => return .ok source
    | .ok (some line, source) =>
      print line
      showLines size source

def headOf (p : Portion) (source : Source) : Program (Except OsError Unit) := do
  if p.isRest then
    match ← (System.readAll source.descriptor : Dialogue System _) with
    | .error e => return .error e
    | .ok bytes =>
      let text := OsString.octets ⟨bytes⟩
      if p.isLines then
        let lines := text.fullLines
        print (lines.take (lines.length - p.size)).flatten
      else print (text.take (text.length - p.size))
      return .ok ()
  else
    match ← (if p.isLines then showLines p.size source
      else showBytes System.blockLimit source p.size) with
    | .error e => return .error e
    | .ok source =>
      source.giveBack
      return .ok ()

/-- Shows a part of each file. -/
def showParts (p : Portion) (files : List Octets)
    (show_ : Source → Program (Except OsError Unit)) : Program Unit := do
  let mut isFirst := true
  for file in orInput files do
    match ← Source.ofName file with
    | .error e => fail 1 ("cannot open " ++ quoteName file ++ " for reading: " ++ e.text)
    | .ok source =>
      showTitle p (1 < files.length) isFirst file
      isFirst := false
      match ← show_ source with
      | .ok () => pure ()
      | .error e => fail 1 ("error reading " ++ quoteName file ++ ": " ++ e.text)
      source.close

def head (args : List Octets) : Program Unit := do
  let (p, files) ← readOptions portionChoices true 1 ({} : Portion) (portion '-') (← oldPortion args)
  showParts p files (headOf p)

def tailOf (p : Portion) (source : Source) : Program (Except OsError Unit) := do
  match ← (System.readAll source.descriptor : Dialogue System _) with
  | .error e => return .error e
  | .ok bytes =>
    let text := OsString.octets ⟨bytes⟩
    let lines := text.fullLines
    print <| match p.isLines, p.isRest with
      | true, false => (lines.drop (lines.length - p.size)).flatten
      | true, true => (lines.drop (p.size - 1)).flatten
      | false, false => text.drop (text.length - p.size)
      | false, true => text.drop (p.size - 1)
    return .ok ()

def tail (args : List Octets) : Program Unit := do
  let args :=
    match args with
    | ('+' :: d :: more) :: rest =>
      if d.isDigit then "-n".toList :: ('+' :: d :: more) :: rest else args
    | args => args
  let (p, files) ← readOptions portionChoices true 1 ({} : Portion) (portion '+') (← oldPortion args)
  showParts p files (tailOf p)

/-! ## Others -/

def tac (args : List Octets) : Program Unit := do
  let (_, files) ← readOptions [flag 'b' "before", flag 'r' "regex", setting 's' "separator"] true 1
    () (fun _ _ => pure ()) args
  for file in orInput files do
    match ← contentOf file with
    | .ok text => print text.fullLines.reverse.flatten
    | .error e =>
      if e = .isDirectory then fail 1 (plainName file ++ ": read error: Invalid argument")
      else fail 1 ("failed to open " ++ quoteName file ++ " for reading: " ++ e.text)

def rev (args : List Octets) : Program Unit := do
  let (_, files) ← readOptions [] true 1 () (fun _ _ => pure ()) args
  for file in orInput files do
    match ← contentOf file with
    | .ok text =>
      print (text.fullLines.flatMap fun line =>
        if line.getLast? == some '\n' then line.dropLast.reverse ++ ['\n'] else line.reverse)
    | .error e => fail 1 ("cannot open " ++ shown file ++ ": " ++ e.text)

/-- Numbers the lines, unless only filled ones count. -/
def numbered (all : Bool) : Nat → List Octets → Octets
  | _, [] => []
  | n, line :: rest =>
    let body := if line.getLast? == some '\n' then line.dropLast else line
    if body.isEmpty && !all then "       \n".toList ++ numbered all n rest
    else padLeft 6 (digits n) ++ '\t' :: body ++ '\n' :: numbered all (n + 1) rest

def nl (args : List Octets) : Program Unit := do
  let (all, files) ← readOptions
    [setting 'b' "body-numbering", setting 'w' "number-width", setting 's' "number-separator",
     setting 'v' "starting-line-number"] true 1 false
    (fun all g => pure (if g.key = "b" then g.value = ['a'] else all)) args
  let mut lines : List Octets := []
  for file in orInput files do
    match ← contentOf file with
    | .ok text => lines := lines ++ text.fullLines
    | .error e => complainOf file e
  print (numbered all 1 lines)

def tee (args : List Octets) : Program Unit := do
  let (letters, files) ← readFlags
    [flag 'a' "append", flag 'i' "ignore-interrupts", flag 'p' "output-error"] args
  let access : Access := if letters.contains "a" then .toAppend else .toWrite
  let mut opened : List Descriptor := []
  for file in files do
    match ← (System.openPath (path file) access : Dialogue System _) with
    | .ok d => opened := opened ++ [d]
    | .error e => complainOf file e
  copyTo opened System.blockLimit
where
  copyTo (opened : List Descriptor) : (blocks : Nat) → Program Unit
    | 0 => pure ()
    | blocks + 1 => do
      match ← (System.read standardInput System.blockSize : Dialogue System _) with
      | .error e => fail 1 ("read error: " ++ e.text)
      | .ok [] => pure ()
      | .ok bytes =>
        print (OsString.octets ⟨bytes⟩)
        flush
        for d in opened do
          let _ ← (System.write d bytes : Dialogue System _)
        copyTo opened blocks

/-- The number of bytes that two texts have in common at the front. -/
def agreement : Octets → Octets → Nat
  | a :: as, b :: bs => if a = b then agreement as bs + 1 else 0
  | _, _ => 0

def cmp (args : List Octets) : Program Unit := do
  let (letters, files) ← readOptions
    [flag 's' "quiet", named "silent" .nothing, flag 'l' "verbose", flag 'b' "print-bytes"] true 2 []
    (fun keys g => pure (keys ++ [g.key])) args
  let silent := letters.contains "s" || letters.contains "silent"
  match files with
  | [] => do
    complain ("missing operand after '" ++ shown (← get).name ++ "'")
    complain ("Try '" ++ shown (← get).name ++ " --help' for more information.")
    quit 2
  | first :: rest =>
    let second := rest.headD ['-']
    let read (file : Octets) : Program Octets := do
      match ← contentOf file with
      | .ok text => return text
      | .error e => die 2 (shown file ++ ": " ++ e.text)
    let a ← read first
    let b ← read second
    if a ≠ b then
      worsen 1
      let n := agreement a b
      let short? := if n = a.length then some first else if n = b.length then some second else none
      if !silent then
        match short? with
        | some file =>
          if n = 0 then complain ("EOF on " ++ shown file ++ " which is empty")
          else
            let lines := (a.take n).count '\n'
            let whole := (a.take n).getLast? == some '\n'
            complain ("EOF on " ++ shown file ++ " after byte " ++ toString n ++
              (if whole then ", line " ++ toString lines
               else ", in line " ++ toString (lines + 1)))
        | none =>
          printLine (first ++ ' ' :: second ++ (" differ: char " ++ toString (n + 1) ++
            ", line " ++ toString ((a.take n).count '\n' + 1)).toList)

/-! ## `wc` -/

/-- What is counted, in the order in which it is told. -/
def counters : List (String × (Octets → Nat)) := [
  ("l", fun text => text.count '\n'),
  ("w", fun text => (text.foldl (fun (count : Nat × Bool) c =>
    let isGap := c == ' ' || ('\t' ≤ c && c ≤ '\r')
    (if !isGap && count.2 then count.1 + 1 else count.1, isGap)) (0, true)).1),
  ("m", List.length), ("c", List.length),
  ("L", fun text => ((Octets.parts text).map List.length).foldl max 0)]

def wc (args : List Octets) : Program Unit := do
  let (keys, files) ← readFlags
    [flag 'c' "bytes", flag 'm' "chars", flag 'l' "lines", flag 'w' "words",
     flag 'L' "max-line-length"] args
  let keys := if keys.isEmpty then ["l", "w", "c"] else keys
  let chosen := counters.filter fun c => keys.contains c.1
  let sources := if files.isEmpty then [none] else files.map some
  -- The columns are as wide as the number of all bytes.
  let mut sizes := 0
  let mut least := 1
  for file in files do
    let found ←
      if file = ['-'] then (System.statusOf standardInput : Dialogue System _)
      else status? file true
    match found with
    | .ok s => if s.isFile then sizes := sizes + s.size else least := 7
    | .error _ => pure ()
  if files.isEmpty then
    match ← (System.statusOf standardInput : Dialogue System _) with
    | .ok s => if s.isFile then sizes := sizes + s.size else least := 7
    | .error _ => least := 7
  let width :=
    if sources.length = 1 && chosen.length = 1 then 1 else max least (digits sizes).length
  let row (counts : List Nat) (name : Option Octets) : Octets :=
    [' '].intercalate (counts.map (fun n => padLeft width (digits n)) ++ name.toList) ++ ['\n']
  let mut total := chosen.map fun _ => 0
  for file in sources do
    let text ← contentOf (file.getD ['-'])
    let counts := chosen.map fun c => c.2 (text.toOption.getD [])
    match text with
    | .ok _ => print (row counts file)
    | .error e =>
      complainOf (file.getD ['-']) e
      if e = .isDirectory then print (row counts file)
    total := List.zipWith (· + ·) total counts
  if 1 < sources.length then print (row total (some "total".toList))

end WorkerFleet.Utility
