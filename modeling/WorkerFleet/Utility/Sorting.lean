import WorkerFleet.Text.Real
import WorkerFleet.Utility.Reading

/-!
# Sorting lines

Lines are compared by keys, which are parts of them, and in the end as a whole.
-/

namespace WorkerFleet.Utility

open Host Text

/-- How two keys are compared. -/
structure KeyOrder where
  ignoresBlanks : Bool := false
  isDictionary : Bool := false
  foldsCase : Bool := false
  ignoresUnprintable : Bool := false
  kind : Char := ' '
  isReversed : Bool := false
  deriving DecidableEq, Repr

namespace KeyOrder

/-- One letter of an ordering, if there is such a letter. -/
def add? (o : KeyOrder) (letter : Char) : Option KeyOrder :=
  match letter with
  | 'b' => some { o with ignoresBlanks := true }
  | 'd' => some { o with isDictionary := true }
  | 'f' => some { o with foldsCase := true }
  | 'i' => some { o with ignoresUnprintable := true }
  | 'r' => some { o with isReversed := true }
  | letter => if "nghMVR".toList.contains letter then some { o with kind := letter } else none

end KeyOrder

/-- A part of a line, from a character of a field to one of another, both counted from zero; without
an end it goes to the end of the line. -/
structure Key where
  first : Nat
  firstChar : Nat := 0
  last : Option (Nat × Nat) := none
  order : KeyOrder := {}
  skipsAtEnd : Bool := false
  deriving Repr

/-- How lines are sorted. -/
structure Sorting where
  order : KeyOrder := {}
  keys : List Key := []
  separator : Option Char := none
  isUnique : Bool := false
  isStable : Bool := false
  /-- Whether the order is only checked, and then whether that is told. -/
  check : Option Bool := none
  output : Option Octets := none
  usesZeros : Bool := false

def isBlank (c : Char) : Bool := c == ' ' || c == '\t'

/-- What is left of a line behind some fields. -/
def skipFields (separator : Option Char) : Nat → Octets → Octets
  | 0, text => text
  | n + 1, text =>
    match separator with
    | some c => skipFields separator n ((text.dropWhile (· != c)).drop 1)
    | none =>
      skipFields separator n ((text.dropWhile isBlank).dropWhile fun c => !isBlank c)

/-- The key of a line. -/
def Key.of (k : Key) (separator : Option Char) (line : Octets) : Octets :=
  let start := skipFields separator k.first line
  let start := if k.order.ignoresBlanks then start.dropWhile isBlank else start
  let start := start.drop k.firstChar
  match k.last with
  | none => start
  | some (field, chars) =>
    let rest :=
      if chars = 0 then
        match separator with
        | some c => (skipFields separator field line).dropWhile (· != c)
        | none => skipFields separator (field + 1) line
      else
        let rest := skipFields separator field line
        let rest := if k.skipsAtEnd then rest.dropWhile isBlank else rest
        rest.drop chars
    start.take (start.length - rest.length)

/-- The number at the front of a text: its sign, its digits and its places. -/
def leadingNumber (text : Octets) : Int × Nat :=
  let text := text.dropWhile isBlank
  let (negative, text) :=
    match text with
    | '-' :: rest => (true, rest)
    | rest => (false, rest)
  let whole := text.takeWhile Char.isDigit
  let places :=
    match text.drop whole.length with
    | '.' :: rest => rest.takeWhile Char.isDigit
    | _ => []
  let n := Octets.number (whole ++ places)
  (if negative then -(n : Int) else n, places.length)

def compareNumbers (a b : Octets) : Ordering :=
  let (m, p) := leadingNumber a
  let (n, q) := leadingNumber b
  compare (m * (Real.powerOfTen q : Nat)) (n * (Real.powerOfTen p : Nat))

/-- The rank of the unit behind a number. -/
def unitRank (text : Octets) : Int :=
  let text := text.dropWhile isBlank
  let rest := text.dropWhile fun c => c.isDigit || c == '.' || c == '-'
  let rank : Nat := (("KMGTPEZY".toList.idxOf? ((rest.headD ' ').toUpper)).map (· + 1)).getD 0
  match compare (leadingNumber text).1 0 with
  | .lt => -(rank : Int)
  | .eq => 0
  | .gt => rank

def months : List String :=
  ["JAN", "FEB", "MAR", "APR", "MAY", "JUN", "JUL", "AUG", "SEP", "OCT", "NOV", "DEC"]

def monthRank (text : Octets) : Nat :=
  let name := ((text.dropWhile isBlank).take 3).map Char.toUpper
  ((months.idxOf? (String.ofList name)).map (· + 1)).getD 0

/-- Numbers of any notation; what is none comes first. -/
def compareReals (a b : Octets) : Ordering :=
  let read (text : Octets) : Option (Bool × Ratio) :=
    match Real.read 64 (text.dropWhile isBlank) with
    | some (.finite negative size, _) => some (negative && size.num ≠ 0, size)
    | _ => none
  match read a, read b with
  | none, none => .eq
  | none, _ => .lt
  | _, none => .gt
  | some (false, p), some (false, q) => if Ratio.lt p q then .lt else if Ratio.lt q p then .gt else .eq
  | some (true, p), some (true, q) => if Ratio.lt q p then .lt else if Ratio.lt p q then .gt else .eq
  | some (true, _), some (false, _) => .lt
  | some (false, _), some (true, _) => .gt

/-- Texts in which numbers count as wholes. -/
def compareVersions : (fuel : Nat) → Octets → Octets → Ordering
  | 0, _, _ => .eq
  | fuel + 1, a, b =>
    let wordA := a.takeWhile fun c => !c.isDigit
    let wordB := b.takeWhile fun c => !c.isDigit
    let restA := a.drop wordA.length
    let restB := b.drop wordB.length
    let numberA := restA.takeWhile Char.isDigit
    let numberB := restB.takeWhile Char.isDigit
    (compare wordA wordB).then <|
      (compare (Octets.number numberA) (Octets.number numberB)).then <|
        if restA.isEmpty && restB.isEmpty then .eq
        else compareVersions fuel (restA.drop numberA.length) (restB.drop numberB.length)

def KeyOrder.compare (o : KeyOrder) (a b : Octets) : Ordering :=
  let plain (text : Octets) : Octets :=
    let text := if o.isDictionary then text.filter fun c => c.isAlphanum || isBlank c else text
    let text := if o.ignoresUnprintable then text.filter isPrintable else text
    if o.foldsCase then text.map Char.toUpper else text
  let found :=
    match o.kind with
    | 'n' => compareNumbers a b
    | 'g' => compareReals a b
    | 'h' => (Ord.compare (unitRank a) (unitRank b)).then (compareNumbers a b)
    | 'M' => Ord.compare (monthRank a) (monthRank b)
    | 'V' => compareVersions (a.length + b.length + 1) a b
    | _ => Ord.compare (plain a) (plain b)
  if o.isReversed then found.swap else found

namespace Sorting

/-- The comparison of two lines by their keys. -/
def byKeys (s : Sorting) (a b : Octets) : Ordering :=
  if s.keys.isEmpty then
    let trim (text : Octets) : Octets :=
      if s.order.ignoresBlanks then text.dropWhile isBlank else text
    s.order.compare (trim a) (trim b)
  else
    s.keys.foldl (fun found k =>
      found.then (k.order.compare (k.of s.separator a) (k.of s.separator b))) .eq

/-- The comparison of two lines, in which at last all of them counts. -/
def compare (s : Sorting) (a b : Octets) : Ordering :=
  let found := s.byKeys a b
  if s.isStable || s.isUnique then found
  else
    let whole := Ord.compare a b
    found.then (if s.order.isReversed then whole.swap else whole)

end Sorting

/-- One end of a key: field, character and letters. -/
def readPlace (text : Octets) : Program (Nat × Option Nat × Octets × Octets) := do
  let field := text.takeWhile Char.isDigit
  let rest := text.drop field.length
  match rest with
  | '.' :: rest =>
    let chars := rest.takeWhile Char.isDigit
    let rest := rest.drop chars.length
    let letters := rest.takeWhile Char.isAlpha
    return (Octets.number field, some (Octets.number chars), letters, rest.drop letters.length)
  | rest =>
    let letters := rest.takeWhile Char.isAlpha
    return (Octets.number field, none, letters, rest.drop letters.length)

def orderOf (spec letters : Octets) (o : KeyOrder) : Program KeyOrder :=
  letters.foldlM (fun o c =>
    match o.add? c with
    | some o => pure o
    | none => die 2 ("stray character in field spec: invalid field specification " ++ quote spec)) o

def readKey (spec : Octets) : Program Key := do
  if !(spec.head?.any Char.isDigit) then
    die 2 ("invalid number at field start: invalid count at start of " ++ quote spec)
  let (first, chars, letters, rest) ← readPlace spec
  if first = 0 then die 2 ("field number is zero: invalid field specification " ++ quote spec)
  if chars = some 0 then
    die 2 ("character offset is zero: invalid field specification " ++ quote spec)
  let order ← orderOf spec letters {}
  let key : Key := { first := first - 1, firstChar := (chars.getD 1) - 1, order }
  match rest with
  | [] => return key
  | ',' :: rest =>
    if !(rest.head?.any Char.isDigit) then
      die 2 ("invalid number after ',': invalid count at start of " ++ quote rest)
    let (last, lastChar, letters, rest) ← readPlace rest
    if last = 0 then die 2 ("field number is zero: invalid field specification " ++ quote spec)
    if !rest.isEmpty then
      die 2 ("stray character in field spec: invalid field specification " ++ quote spec)
    let order ← orderOf spec letters order
    return { key with
      last := some (last - 1, lastChar.getD 0)
      order := { order with ignoresBlanks := key.order.ignoresBlanks }
      skipsAtEnd := letters.contains 'b' }
  | _ => die 2 ("stray character in field spec: invalid field specification " ++ quote spec)

def sortChoices : List Choice :=
  [flag 'b' "ignore-leading-blanks", flag 'd' "dictionary-order", flag 'f' "ignore-case",
   flag 'g' "general-numeric-sort", flag 'h' "human-numeric-sort", flag 'i' "ignore-nonprinting",
   flag 'M' "month-sort", flag 'n' "numeric-sort", flag 'R' "random-sort", flag 'r' "reverse",
   flag 'V' "version-sort", ⟨some 'c', "check", .nothing⟩, flag 'C' "", setting 'k' "key",
   flag 'm' "merge", setting 'o' "output", flag 's' "stable", setting 't' "field-separator",
   flag 'u' "unique", flag 'z' "zero-terminated", setting 'S' "buffer-size",
   setting 'T' "temporary-directory"]

def sorting (s : Sorting) (g : Given) : Program Sorting := do
  match g.key with
  | "c" => return { s with check := some true }
  | "C" => return { s with check := some false }
  | "k" => return { s with keys := s.keys ++ [← readKey g.value] }
  | "o" => return { s with output := some g.value }
  | "s" => return { s with isStable := true }
  | "u" => return { s with isUnique := true }
  | "z" => return { s with usesZeros := true }
  | "t" =>
    match g.value with
    | [] => die 2 "empty tab"
    | [c] => return { s with separator := some c }
    | ['\\', '0'] => return { s with separator := some '\x00' }
    | value => die 2 ("multi-character tab " ++ quote value)
  | key =>
    match key.toList with
    | [c] => return { s with order := (s.order.add? c).getD s.order }
    | _ => return s

/-- Of neighbours that compare alike only the first. -/
def dropAlike (isAlike : Octets → Octets → Bool) : List Octets → List Octets
  | a :: b :: rest =>
    if isAlike a b then dropAlike isAlike (a :: rest) else a :: dropAlike isAlike (b :: rest)
  | lines => lines

/-- The first line that comes too early, with its number. -/
def disorder? (s : Sorting) : Nat → List Octets → Option (Nat × Octets)
  | n, a :: b :: rest =>
    let found := s.compare a b
    if found == .gt || (s.isUnique && found == .eq) then some (n + 1, b)
    else disorder? s (n + 1) (b :: rest)
  | _, _ => none

def sort (args : List Octets) : Program Unit := do
  let (s, files) ← readOptions sortChoices true 2 ({} : Sorting) sorting args
  -- Keys without an ordering of their own have the common one.
  let inherited (k : Key) : Key :=
    if k.order = {} && !k.skipsAtEnd then { k with order := s.order } else k
  let s : Sorting := { s with keys := s.keys.map inherited }
  let mut lines : List Octets := []
  for file in orInput files do
    match ← contentOf file with
    | .ok text => lines := lines ++ text.lines
    | .error e =>
      die 2 ((if e = .isDirectory then "read failed: " else "cannot read: ") ++ plainName file ++
        ": " ++ e.text)
  match s.check with
  | some isTold =>
    match disorder? s 1 lines with
    | some (n, line) =>
      if isTold then
        complain (shown ((files.head?).getD ['-']) ++ ":" ++ toString n ++ ": disorder: " ++
          shown line)
      quit 1
    | none => quit 0
  | none =>
    let sorted := lines.mergeSort fun a b => s.compare a b != .gt
    let sorted := if s.isUnique then dropAlike (fun a b => s.byKeys a b == .eq) sorted else sorted
    match s.output with
    | none => print (Octets.asLines sorted)
    | some file =>
      match ← (System.openPath (path file) .toWrite : Dialogue System _) with
      | .ok d =>
        let _ ← (System.write d (OsString.ofOctets (Octets.asLines sorted)).bytes :
          Dialogue System _)
      | .error e => die 2 ("open failed: " ++ plainName file ++ ": " ++ e.text)

end WorkerFleet.Utility
