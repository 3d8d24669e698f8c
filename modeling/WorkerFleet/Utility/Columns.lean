import WorkerFleet.Text.CharClass
import WorkerFleet.Utility.Sorting

/-!
# Utilities that take lines and characters apart
-/

namespace WorkerFleet.Utility

open Host Text

/-! ## `uniq` -/

structure Uniqueness where
  counts : Bool := false
  onlyRepeated : Bool := false
  onlyUnique : Bool := false
  all : Bool := false
  ignoresCase : Bool := false
  skipsFields : Nat := 0
  skipsChars : Nat := 0
  width : Option Nat := none

namespace Uniqueness

/-- What is compared of a line. -/
def key (u : Uniqueness) (line : Octets) : Octets :=
  let rest := (skipFields none u.skipsFields line).drop u.skipsChars
  let rest :=
    match u.width with
    | some n => rest.take n
    | none => rest
  if u.ignoresCase then rest.map Char.toLower else rest

end Uniqueness

/-- Lines together with those after them that are like them. -/
def groupAlike (key : Octets → Octets) (lines : List Octets) : List (List Octets) :=
  lines.foldr (fun line groups =>
    match groups with
    | (first :: more) :: rest =>
      if key line = key first then (line :: first :: more) :: rest else [line] :: groups
    | groups => [line] :: groups) []

def uniq (args : List Octets) : Program Unit := do
  let number (what : String) (text : Octets) : Program Nat := do
    match amount text with
    | .ok n => return n
    | .error _ => die 1 (shown text ++ ": invalid number of " ++ what)
  let (u, files) ← readOptions
    [flag 'c' "count", flag 'd' "repeated", flag 'D' "", flag 'i' "ignore-case", flag 'u' "unique",
     setting 'f' "skip-fields", setting 's' "skip-chars", setting 'w' "check-chars",
     flag 'z' "zero-terminated"] true 1 ({} : Uniqueness) (fun u g => do
      match g.key with
      | "c" => return { u with counts := true }
      | "d" => return { u with onlyRepeated := true }
      | "D" => return { u with onlyRepeated := true, all := true }
      | "i" => return { u with ignoresCase := true }
      | "u" => return { u with onlyUnique := true }
      | "f" => return { u with skipsFields := ← number "fields to skip" g.value }
      | "s" => return { u with skipsChars := ← number "bytes to skip" g.value }
      | "w" => return { u with width := some (← number "bytes to compare" g.value) }
      | _ => return u) args
  match files with
  | _ :: _ :: extra :: _ => misuse 1 ("extra operand " ++ quoteName extra)
  | files =>
    let file := files.headD ['-']
    match ← contentOf file with
    | .error e =>
      if e = .isDirectory then die 1 ("error reading " ++ quoteName file)
      else die 1 (plainName file ++ ": " ++ e.text)
    | .ok text =>
      let groups := (groupAlike u.key text.lines).filter fun g =>
        (!u.onlyRepeated || 1 < g.length) && (!u.onlyUnique || g.length = 1)
      let out := groups.flatMap fun g =>
        if u.all then Octets.asLines g
        else
          (if u.counts then padLeft 7 (digits g.length) ++ [' '] else []) ++ g.headD [] ++ ['\n']
      match files[1]? with
      | none => print out
      | some target =>
        match ← (System.openPath (path target) .toWrite : Dialogue System _) with
        | .ok d =>
          let _ ← (System.write d (OsString.ofOctets out).bytes : Dialogue System _)
        | .error e => die 1 (plainName target ++ ": " ++ e.text)

/-! ## `cut` -/

/-- Positions from one to another; without a last one they go on. -/
abbrev Range := Nat × Option Nat

structure Cutting where
  /-- By bytes or else by fields. -/
  byFields : Option Bool := none
  ranges : List Range := []
  delimiter : Char := '\t'
  hasDelimiter : Bool := false
  outDelimiter : Option Octets := none
  skipsPlain : Bool := false
  isComplement : Bool := false

def readRange (isField : Bool) (text : Octets) : Program Range := do
  let name := if isField then "field" else "byte/character position"
  let zero : Program Range :=
    misuse 1 (if isField then "fields are numbered from 1"
      else "byte/character positions are numbered from 1")
  let invalid : Program Range :=
    misuse 1 ("invalid " ++ (if isField then "field value " else "byte or character position ") ++
      quote text)
  let (first, last) := splitFirst '-' text
  if !(first.all Char.isDigit) || !((last.getD []).all Char.isDigit) then
    if (last.getD []).contains '-' then misuse 1 ("invalid " ++ name ++ " range")
    else invalid
  else
    match last with
    | none =>
      if first.isEmpty then zero
      else if Octets.number first = 0 then zero
      else return (Octets.number first, some (Octets.number first))
    | some last =>
      if first.isEmpty && last.isEmpty then misuse 1 "invalid range with no endpoint: -"
      else
        let low := if first.isEmpty then 1 else Octets.number first
        if low = 0 then zero
        else if last.isEmpty then return (low, none)
        else if Octets.number last < low then misuse 1 "invalid decreasing range"
        else return (low, some (Octets.number last))

def Cutting.takes (c : Cutting) (n : Nat) : Bool :=
  (c.ranges.any fun r => r.1 ≤ n && (match r.2 with
    | some last => n ≤ last
    | none => true)) != c.isComplement

def cutting (c : Cutting) (g : Given) : Program Cutting := do
  let choose (byFields : Bool) : Program Cutting := do
    if c.byFields.isSome then misuse 1 "only one list may be specified"
    let parts := (splitOn ',' (g.value.map fun ch => if ch = ' ' then ',' else ch))
    let ranges ← parts.mapM (readRange byFields)
    return { c with byFields := some byFields, ranges }
  match g.key with
  | "b" | "c" => choose false
  | "f" => choose true
  | "d" =>
    match g.value with
    | [] => return { c with delimiter := '\x00', hasDelimiter := true }
    | [d] => return { c with delimiter := d, hasDelimiter := true }
    | _ => misuse 1 "the delimiter must be a single character"
  | "s" => return { c with skipsPlain := true }
  | "output-delimiter" => return { c with outDelimiter := some g.value }
  | "complement" => return { c with isComplement := true }
  | _ => return c

/-- The runs of neighbours that are taken. -/
def takenRuns (c : Cutting) (line : Octets) : List Octets :=
  let marked := line.zipIdx.map fun p => (p.1, c.takes (p.2 + 1))
  let runs := marked.foldl (fun (acc : List Octets × Bool) p =>
    if !p.2 then (acc.1, false)
    else
      match acc with
      | (run :: runs, true) => ((p.1 :: run) :: runs, true)
      | (runs, _) => ([p.1] :: runs, true)) ([], false)
  runs.1.reverse.map List.reverse

def cutLine (c : Cutting) (line : Octets) : Option Octets :=
  if c.byFields = some true then
    let parts := splitOn c.delimiter line
    if parts.length ≤ 1 then (if c.skipsPlain then none else some line)
    else
      let taken := (parts.zipIdx.filter fun p => c.takes (p.2 + 1)).map (·.1)
      some ((c.outDelimiter.getD [c.delimiter]).intercalate taken)
  else
    match c.outDelimiter with
    | none => some ((line.zipIdx.filter fun p => c.takes (p.2 + 1)).map (·.1))
    | some delimiter => some (delimiter.intercalate (takenRuns c line))

def cut (args : List Octets) : Program Unit := do
  let (c, files) ← readOptions
    [setting 'b' "bytes", setting 'c' "characters", setting 'd' "delimiter", setting 'f' "fields",
     flag 'n' "", flag 's' "only-delimited", flag 'z' "zero-terminated",
     named "output-delimiter" .value, named "complement" .nothing] true 1 ({} : Cutting) cutting args
  match c.byFields with
  | none => misuse 1 "you must specify a list of bytes, characters, or fields"
  | some byFields =>
    if !byFields && c.hasDelimiter then
      misuse 1 "an input delimiter may be specified only when operating on fields"
    if !byFields && c.skipsPlain then
      misuse 1 "suppressing non-delimited lines makes sense\n\tonly when operating on fields"
    for file in orInput files do
      match ← contentOf file with
      | .ok text => print (Octets.asLines (text.lines.filterMap (cutLine c)))
      | .error e => complainOf file e

/-! ## `paste`, `comm` and `fold` -/

/-- Puts texts one behind the other, with the delimiters between them in turn. -/
def pasteWith (delimiters : Octets) : (index : Nat) → List Octets → Octets
  | _, [] => []
  | _, [last] => last
  | i, text :: rest =>
    text ++ (match delimiters[i % (max 1 delimiters.length)]? with
      | some '\x00' | none => []
      | some c => [c]) ++ pasteWith delimiters (i + 1) rest

def paste (args : List Octets) : Program Unit := do
  let ((delimiters, serial), files) ← readOptions
    [setting 'd' "delimiters", flag 's' "serial", flag 'z' "zero-terminated"] true 1 (['\t'], false)
    (fun (delimiters, serial) g => pure (match g.key with
      | "d" => (unescape g.value, serial)
      | "s" => (delimiters, true)
      | _ => (delimiters, serial))) args
  let mut texts : List (List Octets) := []
  let mut isRead := false
  for file in orInput files do
    if file = ['-'] && isRead then texts := texts ++ [[]]
    else
      match ← contentOf file with
      | .ok text =>
        texts := texts ++ [text.lines]
        if file = ['-'] then isRead := true
      | .error e => die 1 (plainName file ++ ": " ++ e.text)
  if serial then
    print (Octets.asLines (texts.map fun lines => pasteWith delimiters 0 lines))
  else
    let shared := (orInput files).countP (· = ['-'])
    -- Several dashes take the lines of the input in turn.
    let dealt := if shared ≤ 1 then texts else
      let lines := (((orInput files).zip texts).find? (·.1 = ['-'])).elim [] (·.2)
      ((orInput files).zip texts).zipIdx.map fun t =>
        if t.1.1 = ['-'] then
          let turn := ((orInput files).take t.2).countP (· = ['-'])
          (lines.zipIdx.filter fun l => l.2 % shared = turn).map (·.1)
        else t.1.2
    let count := (dealt.map List.length).foldl max 0
    print (Octets.asLines ((List.range count).map fun i =>
      pasteWith delimiters 0 (dealt.map fun lines => (lines[i]?).getD [])))
where
  unescape : Octets → Octets
    | '\\' :: c :: rest =>
      (match c with
        | 'n' => '\n'
        | 't' => '\t'
        | '0' => '\x00'
        | c => c) :: unescape rest
    | c :: rest => c :: unescape rest
    | [] => []

/-- Lines of two sorted files: those of the first, of the second and of both. -/
def mergeColumns : (fuel : Nat) → List Octets → List Octets → List (Nat × Octets)
  | 0, _, _ => []
  | _ + 1, [], bs => bs.map (1, ·)
  | _ + 1, as, [] => as.map (0, ·)
  | fuel + 1, a :: as, b :: bs =>
    if a = b then (2, a) :: mergeColumns fuel as bs
    else if a < b then (0, a) :: mergeColumns fuel as (b :: bs)
    else (1, b) :: mergeColumns fuel (a :: as) bs

def comm (args : List Octets) : Program Unit := do
  let (hidden, files) ← readFlags [flag '1' "", flag '2' "", flag '3' ""] args
  match files with
  | [] => misuse 1 "missing operand"
  | [only] => misuse 1 ("missing operand after " ++ quote only)
  | first :: second :: rest =>
    if let extra :: _ := rest then misuse 1 ("extra operand " ++ quote extra)
    let read (file : Octets) : Program (List Octets) := do
      match ← contentOf file with
      | .ok text => return text.lines
      | .error e => die 1 (plainName file ++ ": " ++ e.text)
    let a ← read first
    let b ← read second
    let isHidden (column : Nat) : Bool := hidden.contains (toString (column + 1))
    for (column, line) in mergeColumns (a.length + b.length + 1) a b do
      if !isHidden column then
        let before := (List.range column).countP fun c => !isHidden c
        printLine (List.replicate before '\t' ++ line)

/-- A line cut into pieces of a width, at blanks if they are to stay whole. -/
def foldLine (width : Nat) (atBlanks : Bool) : (fuel : Nat) → Octets → List Octets
  | 0, line => [line]
  | fuel + 1, line =>
    if line.length ≤ width then [line]
    else
      let piece := line.take width
      let kept := (piece.reverse.dropWhile fun c => !isBlank c).reverse
      let piece := if atBlanks && !kept.isEmpty then kept else piece
      piece :: foldLine width atBlanks fuel (line.drop piece.length)

def fold (args : List Octets) : Program Unit := do
  let ((width, atBlanks), files) ← readOptions
    [flag 'b' "bytes", flag 's' "spaces", setting 'w' "width"] true 1 (80, false)
    (fun (width, atBlanks) g => do
      match g.key with
      | "s" => return (width, true)
      | "w" =>
        match amount g.value with
        | .ok n => if n = 0 then invalid g.value else return (n, atBlanks)
        | .error _ => invalid g.value
      | _ => return (width, atBlanks)) args
  for file in orInput files do
    match ← contentOf file with
    | .ok text =>
      print (text.fullLines.flatMap fun line =>
        let body := if line.getLast? == some '\n' then line.dropLast else line
        ['\n'].intercalate (foldLine width atBlanks (body.length + 1) body) ++
          line.drop body.length)
    | .error e => complainOf file e
where
  invalid {α : Type} (text : Octets) : Program α :=
    die 1 ("invalid number of columns: " ++ quote text)

/-! ## `tr` -/

/-- A part of a set of characters. -/
inductive Span
  | chars (found : Octets)
  | ofClass (k : CharClass)
  /-- A character so often, or as often as there is room. -/
  | repeated (c : Char) (count : Option Nat)

def allOctets : Octets := (List.range 256).map Char.ofNat

def Span.members : Span → Octets
  | .chars found => found
  | .ofClass k => allOctets.filter k.contains
  | .repeated c count => List.replicate (count.getD 0) c

/-- The character at the front, which may be escaped, and whether it was. -/
def trChar : Octets → Option (Char × Bool × Octets)
  | [] => none
  | '\\' :: c :: rest =>
    if '0' ≤ c && c ≤ '7' then
      let digits := ((c :: rest).take 3).takeWhile fun d => '0' ≤ d && d ≤ '7'
      let n := digits.foldl (fun n d => n * 8 + (d.toNat - '0'.toNat)) 0
      let (n, size) := if 255 < n then (n / 8, digits.length - 1) else (n, digits.length)
      some (Char.ofNat n, true, (c :: rest).drop size)
    else
      let found := [('a', '\x07'), ('b', '\x08'), ('f', '\x0c'), ('n', '\n'), ('r', '\r'),
        ('t', '\t'), ('v', '\x0b')].lookup c
      some (found.getD c, true, rest)
  | c :: rest => some (c, false, rest)

/-- The text of a set, part by part. -/
def spans : (fuel : Nat) → Octets → Program (List Span)
  | 0, _ => return []
  | fuel + 1, text => do
    match text with
    | '[' :: ':' :: rest =>
      let name := rest.takeWhile (· != ':')
      if ":]".toList.isPrefixOf (rest.drop name.length) then
        match CharClass.ofName? (String.ofList name) with
        | some k => return .ofClass k :: (← spans fuel (rest.drop (name.length + 2)))
        | none => die 1 ("invalid character class " ++ quote name)
      else single fuel text
    | '[' :: '=' :: c :: '=' :: ']' :: rest => return .chars [c] :: (← spans fuel rest)
    | '[' :: rest =>
      match trChar rest with
      | some (c, _, '*' :: rest) =>
        let count := rest.takeWhile Char.isDigit
        match rest.drop count.length with
        | ']' :: rest =>
          let n := if count.head? == some '0' then
              count.foldl (fun n d => n * 8 + (d.toNat - '0'.toNat)) 0
            else Octets.number count
          return .repeated c (if n = 0 then none else some n) :: (← spans fuel rest)
        | _ => single fuel text
      | _ => single fuel text
    | text => single fuel text
where
  single (fuel : Nat) (text : Octets) : Program (List Span) := do
    match trChar text with
    | none => return []
    | some (a, _, '-' :: rest) =>
      match trChar rest with
      | none => return .chars [a] :: (← spans fuel ('-' :: rest))
      | some (b, _, after) =>
        if b < a then
          die 1 ("range-endpoints of '" ++ shown (text.take (text.length - after.length)) ++
            "' are in reverse collating sequence order")
        let range := (List.range (b.toNat + 1 - a.toNat)).map fun i => Char.ofNat (a.toNat + i)
        return .chars range :: (← spans fuel after)
    | some (a, _, rest) => return .chars [a] :: (← spans fuel rest)

/-- Characters one after the other, only the first of equal neighbours from a set. -/
def squeeze (members : Octets) : Octets → Octets
  | a :: b :: rest =>
    if a = b && members.contains a then squeeze members (a :: rest)
    else a :: squeeze members (b :: rest)
  | text => text

/-- The members of the second set next to those of the first. -/
def pairUp (second : List Span) (size : Nat) (truncates : Bool) : Octets :=
  let letters (spans : List Span) : List Span := spans.map fun
    | .ofClass .upper => .chars ((List.range 26).map fun i => Char.ofNat (i + 65))
    | .ofClass .lower => .chars ((List.range 26).map fun i => Char.ofNat (i + 97))
    | s => s
  let second := letters second
  let fixed := (second.flatMap fun s => s.members).length
  let members := second.flatMap fun
    | .repeated c none => List.replicate (size - fixed) c
    | s => s.members
  if truncates then members
  else members ++ List.replicate (size - members.length) (members.getLastD '\x00')

def tr (args : List Octets) : Program Unit := do
  let (keys, operands) ← readOptions
    [flag 'c' "complement", flag 'C' "", flag 'd' "delete", flag 's' "squeeze-repeats",
     flag 't' "truncate-set1"] false 1 [] (fun keys g => pure (keys ++ [g.key])) args
  let deletes := keys.contains "d"
  let squeezes := keys.contains "s"
  let isComplement := keys.contains "c" || keys.contains "C"
  let least := if deletes == squeezes then 2 else 1
  let most := if deletes && !squeezes then 1 else 2
  if operands.length < least then
    if operands.isEmpty then misuse 1 "missing operand"
    else
      complain ("missing operand after " ++ quote (operands.headD []))
      complainRaw (if squeezes then
        "Two strings must be given when both deleting and squeezing repeats.\n"
        else "Two strings must be given when translating.\n")
      pointToHelp 1
  if most < operands.length then
    complain ("extra operand " ++ quote ((operands[most]?).getD []))
    if operands.length = 2 then
      complainRaw "Only one string may be given when deleting without squeezing repeats.\n"
    pointToHelp 1
  let first ← spans (((operands[0]?).getD []).length + 1) ((operands[0]?).getD [])
  let second ← spans (((operands[1]?).getD []).length + 1) ((operands[1]?).getD [])
  let members := first.flatMap Span.members
  let chosen := if isComplement then allOctets.filter fun c => !members.contains c
    else if !deletes && operands.length = 2 then
      first.flatMap fun
        | .ofClass .upper => (List.range 26).map fun i => Char.ofNat (i + 65)
        | .ofClass .lower => (List.range 26).map fun i => Char.ofNat (i + 97)
        | s => s.members
    else members
  let translates := !deletes && operands.length = 2
  if translates then
    if ((operands[1]?).getD []).isEmpty && !keys.contains "t" then
      die 1 "when not truncating set1, string2 must be non-empty"
    if second.any fun
        | .ofClass k => k != .upper && k != .lower
        | _ => false then
      die 1 ("when translating, the only character classes that may appear in\n" ++
        "string2 are 'upper' and 'lower'")
  let partners := pairUp second chosen.length (keys.contains "t")
  let pairs := (chosen.zip partners).reverse
  let table : Array Char := (allOctets.map fun c => (pairs.lookup c).getD c).toArray
  let removed : Array Bool := (allOctets.map chosen.contains).toArray
  match ← input with
  | .error e => die 1 ("read error: " ++ e.text)
  | .ok text =>
    let out :=
      if deletes then text.filter fun c => !(removed[c.toNat]?).getD false
      else if translates then text.map fun c => (table[c.toNat]?).getD c
      else text
    let squeezed := if operands.length = 2 then second.flatMap (fun
        | .repeated c _ => [c]
        | s => s.members) else chosen
    print (if squeezes then squeeze squeezed out else out)

end WorkerFleet.Utility
