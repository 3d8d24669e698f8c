import WorkerFleet.Host.Mode
import WorkerFleet.Utility.Files
import WorkerFleet.Utility.Formatting

/-!
# Utilities that tell about files
-/

namespace WorkerFleet.Utility

open Host Text

/-! ## `ls` -/

/-- What is marked behind the names. -/
inductive Marking
  | nothing
  | directories
  | kinds
  deriving DecidableEq, Repr

/-- By what the names are sorted. -/
inductive NameOrder
  | byName
  | byTime
  | bySize
  | unsorted
  deriving DecidableEq, Repr

/-- What `ls` is asked for. -/
structure Listing where
  /-- Names that begin with a dot are shown. -/
  showsHidden : Bool := false
  /-- So are the directory itself and the one above. -/
  showsDots : Bool := false
  asFiles : Bool := false
  marking : Marking := .nothing
  sorting : NameOrder := .byName
  isReversed : Bool := false
  isDeep : Bool := false
  inOneLine : Bool := false
  isQuoted : Bool := false
  followsLinks : Bool := false

/-- Something to be listed. -/
structure Listed where
  name : Octets
  status : Status
  /-- What a symbolic link leads to. -/
  goal : Option Status

def listingChoices : List Choice :=
  [flag 'a' "all", flag 'A' "almost-all", flag 'd' "directory", flag 'F' "", flag 'p' "",
   flag 'r' "reverse", flag 't' "", flag 'S' "", flag 'U' "", flag 'f' "", flag 'R' "recursive",
   flag '1' "", flag 'm' "", flag 'Q' "quote-name", flag 'L' "dereference", flag 'H' "", flag 'h' "",
   flag 'c' "", flag 'u' "", flag 'v' "", flag 'q' "", flag 'N' "literal", flag 'k' "",
   named "color" .attached, ⟨none, "classify", .attached⟩]

def listing (l : Listing) (g : Given) : Program Listing :=
  return match g.key with
    | "a" => { l with showsHidden := true, showsDots := true }
    | "A" => { l with showsHidden := true, showsDots := false }
    | "d" => { l with asFiles := true }
    | "F" | "classify" => { l with marking := .kinds }
    | "p" => { l with marking := .directories }
    | "r" => { l with isReversed := true }
    | "t" => { l with sorting := .byTime }
    | "S" => { l with sorting := .bySize }
    | "U" => { l with sorting := .unsorted }
    | "f" => { l with sorting := .unsorted, showsHidden := true, showsDots := true }
    | "R" => { l with isDeep := true }
    | "m" => { l with inOneLine := true }
    | "1" => { l with inOneLine := false }
    | "Q" => { l with isQuoted := true }
    | "L" => { l with followsLinks := true }
    | _ => l

namespace Listing

/-- A name as it is shown. -/
def shownName (l : Listing) (x : Listed) : Octets :=
  let mark : Octets :=
    match l.marking, x.status.kind with
    | .nothing, _ => []
    | _, .directory => ['/']
    | .directories, _ => []
    | .kinds, .symlink => ['@']
    | .kinds, .fifo => ['|']
    | .kinds, .file => if x.status.mode &&& 0o111 ≠ 0 then ['*'] else []
    | .kinds, .device => []
  (if l.isQuoted then
    '"' :: x.name.flatMap (fun c =>
      if c = '"' || c = '\\' then ['\\', c] else if isPrintable c then [c] else escaped c) ++ ['"']
    else x.name) ++ mark

/-- The order of names. -/
def before (l : Listing) (a b : Listed) : Bool :=
  let byName : Bool := Octets.before a.name b.name
  let byAmount (m n : Nat) : Bool := if m = n then byName else n < m
  match l.sorting with
  | .byName => byName
  | .byTime => byAmount (a.status.modified / Status.tick) (b.status.modified / Status.tick)
  | .bySize => byAmount a.status.size b.status.size
  | .unsorted => true

def sorted (l : Listing) (found : List Listed) : List Listed :=
  let found := found.mergeSort l.before
  if l.isReversed && l.sorting ≠ .unsorted then found.reverse else found

def text (l : Listing) (found : List Listed) : Octets :=
  let names := (l.sorted found).map l.shownName
  if l.inOneLine then
    if names.isEmpty then [] else ", ".toList.intercalate names ++ ['\n']
  else Octets.asLines names

end Listing

/-- Something with what is known about it. -/
def listedAt (l : Listing) (file name : Octets) : Program (Except OsError Listed) := do
  match ← status? file l.followsLinks with
  | .error e => return .error e
  | .ok status =>
    let goal ← if status.kind = .symlink then status? file true else pure (.ok status)
    return .ok ⟨name, status, goal.toOption⟩

/-- A directory with its title, and those in it if asked for. -/
def listDirectory (l : Listing) : (depth : Nat) → (isTitled isFirst isTop : Bool) → Octets →
    Program Unit
  | 0, _, _, _, _ => pure ()
  | depth + 1, isTitled, isFirst, isTop, dir => do
    match ← (System.list (path dir) : Dialogue System _) with
    | .error e =>
      fail (if isTop then 2 else 1) ("cannot open directory " ++ quoteName dir ++ ": " ++ e.text)
    | .ok names =>
      let names := names.map (·.octets)
      let names := if l.showsHidden then names else names.filter fun name => name.head? != some '.'
      let names := if l.showsDots then ['.'] :: ['.', '.'] :: names else names
      let found ← names.filterMapM fun name => do
        return (← listedAt l (joinPath dir name) name).toOption
      if isTitled then
        print ((if isFirst then [] else ['\n']) ++ dir ++ ":\n".toList)
      print (l.text found)
      if l.isDeep then
        for x in l.sorted found do
          if x.status.isDirectory && x.name ≠ ['.'] && x.name ≠ ['.', '.'] then
            listDirectory l depth true false false (joinPath dir x.name)

def ls (args : List Octets) : Program Unit := do
  let (l, places) ← readOptions listingChoices true 2 ({} : Listing) listing args
  let places := if places.isEmpty then [['.']] else places
  let mut seen : List Listed := []
  for place in places do
    match ← listedAt l place place with
    | .ok x => seen := seen ++ [x]
    | .error e => fail 2 ("cannot access " ++ quoteName place ++ ": " ++ e.text)
  let isEntered (x : Listed) : Bool :=
    !l.asFiles && (x.status.isDirectory ||
      (l.marking ≠ .kinds && x.goal.any (·.isDirectory)))
  let dirs := l.sorted (seen.filter isEntered)
  let files := seen.filter fun x => !isEntered x
  print (l.text files)
  let isTitled := l.isDeep || 1 < places.length || !files.isEmpty
  let mut isFirst := files.isEmpty
  for dir in dirs do
    listDirectory l depthLimit isTitled isFirst true dir.name
    isFirst := false

/-! ## `stat` -/

def kindName (s : Status) : String :=
  match s.kind with
  | .file => if s.size = 0 then "regular empty file" else "regular file"
  | .directory => "directory"
  | .symlink => "symbolic link"
  | .fifo => "fifo"
  | .device => "character special file"

/-- The kind in one letter, in front of the permissions. -/
def kindLetter (s : Status) : Char :=
  match s.kind with
  | .file => '-'
  | .directory => 'd'
  | .symlink => 'l'
  | .fifo => 'p'
  | .device => 'c'

def octalDigits (n : Nat) : Octets := Nat.toDigits 8 n

/-- What a letter of the format stands for. -/
def aboutFile (file : Octets) (s : Status) (letter : Char) : Program Octets := do
  match letter with
  | 'n' => return file
  | 'N' =>
    if s.kind = .symlink then
      let goal ← (System.readLink (path file) : Dialogue System _)
      return (quoteName file ++ " -> " ++
        quoteName ((goal.toOption.map (·.octets)).getD [])).toList
    else return (quoteName file).toList
  | 's' => return digits s.size
  | 'a' => return octalDigits s.mode
  | 'A' => return kindLetter s :: Mode.places s.mode
  | 'F' => return (kindName s).toList
  | 'h' => return digits s.names
  | 'Y' => return digits (s.modified / 1000000)
  | '%' => return ['%']
  | _ => return ['?']

/-- A format filled in. -/
def fillFormat (file : Octets) (s : Status) : (fuel : Nat) → Octets → Program Octets
  | 0, _ => return []
  | _ + 1, [] => return []
  | fuel + 1, '%' :: rest => do
    let width := rest.takeWhile Char.isDigit
    match rest.drop width.length with
    | [] => return ['%']
    | letter :: rest =>
      return padLeft (Octets.number width) (← aboutFile file s letter) ++
        (← fillFormat file s fuel rest)
  | fuel + 1, c :: rest => return c :: (← fillFormat file s fuel rest)

def stat (args : List Octets) : Program Unit := do
  let ((format, follows), files) ← readOptions
    [setting 'c' "format", named "printf" .value, flag 'L' "dereference", flag 't' "terse",
     flag 'f' "file-system"] true 1 (("%n".toList, true), false)
    (fun ((format, endsLine), follows) g => pure (match g.key with
      | "c" => ((g.value, true), follows)
      | "printf" => (((longDialect.format.resolve g.value).1, false), follows)
      | "L" => ((format, endsLine), true)
      | _ => ((format, endsLine), follows))) args
  if files.isEmpty then missing "operand"
  for file in files do
    match ← status? file follows with
    | .error e => fail 1 ("cannot statx " ++ quoteName file ++ ": " ++ e.text)
    | .ok s =>
      let text ← fillFormat file s (format.1.length + 1) format.1
      print (if format.2 then text ++ ['\n'] else text)

/-! ## `mktemp` -/

/-- Letters and digits that make a name unlike others. -/
def uniqueMark (size seed : Nat) : Octets :=
  (List.range size).map fun i =>
    ("abcdefghijklmnopqrstuvwxyzABCDEFGHIJKLMNOPQRSTUVWXYZ0123456789".toList)[
      (seed / (i * i + 1) + 7 * i) % 62]?.getD 'a'

def mktemp (args : List Octets) : Program Unit := do
  let ((keys, dir), operands) ← readOptions
    [flag 'd' "directory", flag 'u' "dry-run", flag 'q' "quiet", flag 't' "",
     ⟨some 'p', "tmpdir", .value⟩, named "suffix" .value] true 1 (([] : List String), (none : Option Octets))
    (fun (keys, dir) g => pure (keys ++ [g.key], if g.key = "p" then some g.value else dir)) args
  let template := operands.headD "tmp.XXXXXXXXXX".toList
  let places := ((template.reverse.takeWhile (· == 'X')).length)
  if places < 3 then die 1 ("too few X's in template " ++ quoteName template)
  let standard := (((← get).env.get? "TMPDIR").map (·.octets)).getD "/tmp".toList
  let base := dir.orElse fun _ =>
    if operands.isEmpty || keys.contains "t" then some standard else none
  let seed := (← (System.now : Dialogue System _)) + 31 * (← (System.ownPid : Dialogue System _))
  let name := template.take (template.length - places) ++ uniqueMark places seed
  let file :=
    match base with
    | some dir => joinPath dir name
    | none => name
  let made ←
    if keys.contains "u" then pure (.ok ())
    else if keys.contains "d" then
      (System.makeDirectory (path file) 0o700 : Dialogue System _)
    else do
      match ← (System.openPath (path file) .toWriteNew : Dialogue System _) with
      | .ok d =>
        (System.close d : Dialogue System _)
        (System.setMode (path file) 0o600 : Dialogue System _)
      | .error e => pure (.error e)
  match made with
  | .ok () => printLine file
  | .error e =>
    die 1 ("failed to create " ++ (if keys.contains "d" then "directory" else "file") ++
      " via template " ++ quoteName template ++ ": " ++ e.text)

end WorkerFleet.Utility
