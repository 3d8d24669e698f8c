import WorkerFleet.Host.Mode
import WorkerFleet.Utility.Reading

/-!
# Utilities that change files
-/

namespace WorkerFleet.Utility

open Host

/-- What has been done is told if that was asked for. -/
def tell (isTold : Bool) (message : String) : Program Unit :=
  if isTold then printLine message.toList else pure ()

/-- Without slashes at the end. -/
def trimSlashes (file : Octets) : Octets :=
  let bare := (file.reverse.dropWhile (· == '/')).reverse
  if bare.isEmpty && !file.isEmpty then ['/'] else bare

/-- The last name of a path. -/
def lastName (file : Octets) : Octets :=
  let bare := trimSlashes file
  if bare = ['/'] then bare else (bare.reverse.takeWhile (· != '/')).reverse

/-- The directory part of a path. -/
def parentPath (file : Octets) : Octets :=
  let bare := trimSlashes file
  if bare = ['/'] then ['/']
  else
    let dir := bare.reverse.dropWhile (· != '/')
    let trimmed := (dir.dropWhile (· == '/')).reverse
    if !trimmed.isEmpty then trimmed else if dir.isEmpty then ['.'] else ['/']

def joinPath (dir name : Octets) : Octets :=
  if dir.getLast? == some '/' then dir ++ name else dir ++ '/' :: name

def isThere (file : Octets) : Program Bool := do return (← status? file false).toOption.isSome

/-! ## Making and removing -/

def touch (args : List Octets) : Program Unit := do
  let ((keeps, source, isPast), files) ← readOptions
    [flag 'a' "time", flag 'c' "no-create", setting 'd' "date", flag 'f' "",
     flag 'h' "no-dereference", flag 'm' "", setting 'r' "reference", setting 't' ""] true 1
    (false, (none : Option Octets), false) (fun (keeps, source, isPast) g => pure (match g.key with
      | "c" | "h" => (true, source, isPast)
      | "r" => (keeps, some g.value, isPast)
      | "d" | "t" => (keeps, source, true)
      | _ => (keeps, source, isPast))) args
  if files.isEmpty then missing "file operand"
  let now ← (System.now : Dialogue System _)
  let time ←
    match source with
    | none => pure (if isPast then 0 else now)
    | some file =>
      match ← status? file true with
      | .ok s => pure s.modified
      | .error e => die 1 ("failed to get attributes of " ++ quoteName file ++ ": " ++ e.text)
  for file in files do
    match ← (System.setModified (path file) time : Dialogue System _) with
    | .ok () => pure ()
    | .error e =>
      if e = .notFound && keeps then pure ()
      else if e = .notFound then
        match ← (System.openPath (path file) { Access.toWrite with emptying := false } :
          Dialogue System _) with
        | .ok d =>
          (System.close d : Dialogue System _)
          if isPast || source.isSome then
            let _ ← (System.setModified (path file) time : Dialogue System _)
        | .error e => fail 1 ("cannot touch " ++ quoteName file ++ ": " ++ e.text)
      else fail 1 ("cannot touch " ++ quoteName file ++ ": " ++ e.text)

/-- The mode that an option asks for. -/
def modeOption (before : Nat) (text : Octets) : Program Nat := do
  match Mode.read? ⟨before, 0, false⟩ text with
  | some mode => return mode
  | none => die 1 ("invalid mode " ++ quote text)

/-- Makes a directory with all those above it that are missing. -/
def makeAll (isTold : Bool) (file : Octets) : (names : List Octets) → (made : Octets) →
    Program Bool
  | [], _ => return true
  | name :: rest, made => do
    let here := if made.isEmpty then name else joinPath made name
    match ← (System.makeDirectory (path here) 0o777 : Dialogue System _) with
    | .ok () =>
      tell isTold (shown (← get).name ++ ": created directory " ++ quoteName here)
      makeAll isTold file rest here
    | .error e =>
      if e = .alreadyExists && (← isDirectory here) then makeAll isTold file rest here
      else
        let e := if e = .alreadyExists && !rest.isEmpty then .notDirectory else e
        fail 1 ("cannot create directory " ++ quoteName here ++ ": " ++ e.text)
        return false

def mkdir (args : List Octets) : Program Unit := do
  let ((keys, mode), dirs) ← readOptions
    [setting 'm' "mode", flag 'p' "parents", flag 'v' "verbose"] true 1 ([], (none : Option Nat))
    (fun (keys, mode) g => do
      if g.key = "m" then return (keys, some (← modeOption Mode.full g.value))
      else return (keys ++ [g.key], mode)) args
  if dirs.isEmpty then missing "operand"
  let isTold := keys.contains "v"
  for dir in dirs do
    let isMade ←
      if keys.contains "p" then
        let names := (Text.splitOn '/' dir).filter (!·.isEmpty)
        makeAll isTold dir names (if dir.head? == some '/' then ['/'] else [])
      else
        match ← (System.makeDirectory (path dir) 0o777 : Dialogue System _) with
        | .ok () =>
          tell isTold (shown (← get).name ++ ": created directory " ++ quoteName dir)
          pure true
        | .error e =>
          fail 1 ("cannot create directory " ++ quoteName dir ++ ": " ++ e.text)
          pure false
    if let some mode := mode then
      if isMade then let _ ← (System.setMode (path dir) mode : Dialogue System _)

/-- Removes directories upward as long as they are empty. -/
def removeUpward (ignores : Bool) : (levels : Nat) → Octets → Program Unit
  | 0, _ => pure ()
  | levels + 1, dir => do
    let above := parentPath dir
    if above = ['.'] || above = ['/'] then pure ()
    else
      match ← (System.removeDirectory (path above) : Dialogue System _) with
      | .ok () => removeUpward ignores levels above
      | .error e =>
        if !(ignores && e = .directoryNotEmpty) then
          fail 1 ("failed to remove directory " ++ quoteName above ++ ": " ++ e.text)

def rmdir (args : List Octets) : Program Unit := do
  let (keys, dirs) ← readFlags
    [named "ignore-fail-on-non-empty" .nothing, flag 'p' "parents", flag 'v' "verbose"] args
  if dirs.isEmpty then missing "operand"
  let ignores := keys.contains "ignore-fail-on-non-empty"
  for dir in dirs do
    tell (keys.contains "v") (shown (← get).name ++ ": removing directory, " ++ quoteName dir)
    match ← (System.removeDirectory (path dir) : Dialogue System _) with
    | .ok () => if keys.contains "p" then removeUpward ignores dir.length dir
    | .error e =>
      if !(ignores && e = .directoryNotEmpty) then
        fail 1 ("failed to remove " ++ quoteName dir ++ ": " ++ e.text)

/-- How `rm` works. -/
structure Removing where
  isForced : Bool := false
  isDeep : Bool := false
  takesEmpty : Bool := false
  isTold : Bool := false

/-- Removes something with all that is in it. -/
def removeDeep (r : Removing) : (depth : Nat) → Octets → Program Unit
  | 0, _ => pure ()
  | depth + 1, file => do
    match ← status? file false with
    | .error e =>
      if !(r.isForced && (e = .notFound || e = .notDirectory)) then
        fail 1 ("cannot remove " ++ quoteName file ++ ": " ++ e.text)
    | .ok s =>
      if !s.isDirectory then
        match ← (System.removeFile (path file) : Dialogue System _) with
        | .ok () => tell r.isTold ("removed " ++ quoteName file)
        | .error e => fail 1 ("cannot remove " ++ quoteName file ++ ": " ++ e.text)
      else if !r.isDeep && !r.takesEmpty then
        fail 1 ("cannot remove " ++ quoteName file ++ ": Is a directory")
      else
        if r.isDeep then
          match ← (System.list (path file) : Dialogue System _) with
          | .ok names => for name in names do removeDeep r depth (joinPath file name.octets)
          | .error _ => pure ()
        match ← (System.removeDirectory (path file) : Dialogue System _) with
        | .ok () => tell r.isTold ("removed directory " ++ quoteName file)
        | .error e => fail 1 ("cannot remove " ++ quoteName file ++ ": " ++ e.text)

def rm (args : List Octets) : Program Unit := do
  let (r, files) ← readOptions
    [flag 'd' "dir", flag 'f' "force", flag 'i' "", flag 'I' "", flag 'r' "recursive", flag 'R' "",
     flag 'v' "verbose", named "no-preserve-root" .nothing, named "one-file-system" .nothing] true 1
    ({} : Removing) (fun r g => pure (match g.key with
      | "d" => { r with takesEmpty := true }
      | "f" => { r with isForced := true }
      | "r" | "R" => { r with isDeep := true }
      | "v" => { r with isTold := true }
      | _ => r)) args
  if files.isEmpty && !r.isForced then missing "operand"
  for file in files do
    let name := lastName file
    if r.isDeep && file.all (· == '/') && !file.isEmpty then
      fail 1 "it is dangerous to operate recursively on '/'"
      complain "use --no-preserve-root to override this failsafe"
    else if r.isDeep && (name = ['.'] || name = "..".toList) then
      fail 1 ("refusing to remove '.' or '..' directory: skipping " ++ quoteName file)
    else removeDeep r depthLimit file

/-! ## Moving, copying and linking -/

/-- How `cp`, `mv` and `ln` work. -/
structure Transfer where
  isForced : Bool := false
  keepsTarget : Bool := false
  isDeep : Bool := false
  keepsModes : Bool := false
  keepsLinks : Bool := false
  isSymbolic : Bool := false
  isTold : Bool := false
  /-- Links to directories are no directories. -/
  isPlain : Bool := false
  targetDir : Option Octets := none

def transferChoices : List Choice :=
  [flag 'a' "archive", flag 'b' "", flag 'f' "force", flag 'i' "interactive", flag 'n' "no-clobber",
   flag 'p' "", named "preserve" .attached, flag 'r' "recursive", flag 'R' "", flag 's' "symbolic",
   setting 't' "target-directory", flag 'T' "no-target-directory", flag 'u' "update",
   flag 'v' "verbose", flag 'P' "no-dereference", flag 'd' "", flag 'L' "dereference", flag 'x' ""]

def transfer (t : Transfer) (g : Given) : Program Transfer :=
  return match g.key with
    | "a" => { t with isDeep := true, keepsModes := true, keepsLinks := true }
    | "d" | "P" => { t with keepsLinks := true }
    | "f" => { t with isForced := true, keepsTarget := false }
    | "n" => { t with keepsTarget := true }
    | "p" | "preserve" => { t with keepsModes := true }
    | "r" | "R" => { t with isDeep := true, keepsLinks := true }
    | "s" => { t with isSymbolic := true }
    | "t" => { t with targetDir := some g.value }
    | "T" => { t with isPlain := true }
    | "v" => { t with isTold := true }
    | _ => t

/-- Does something with each source and the place where it is to go: into a directory, or to a new
name. -/
def forEachTarget (t : Transfer) (operand : String) (files : List Octets)
    (act : Octets → Octets → Program Unit) : Program Unit := do
  let into (dir : Octets) (sources : List Octets) : Program Unit := do
    for source in sources do act source (joinPath dir (lastName source))
  match t.targetDir with
  | some dir =>
    if files.isEmpty then missing operand
    else if ← isDirectory dir then into dir files
    else die 1 ("target directory " ++ quoteName dir ++ ": No such file or directory")
  | none =>
    match files with
    | [] => missing operand
    | [only] => misuse 1 ("missing destination " ++ operand ++ " after " ++ quoteName only)
    | files =>
      let target := files.getLastD []
      let sources := files.dropLast
      if !t.isPlain && (← isDirectory target) then into target sources
      else
        match sources with
        | [source] => act source target
        | _ =>
          match ← status? target true with
          | .error e => die 1 ("target " ++ quoteName target ++ ": " ++ e.text)
          | .ok _ => die 1 ("target " ++ quoteName target ++ ": Not a directory")

def isSameFile (a b : Octets) : Program Bool := do
  match ← status? a false, ← status? b false with
  | .ok s, .ok t => return s.identity == t.identity
  | _, _ => return false

def mv (args : List Octets) : Program Unit := do
  let (t, files) ← readOptions transferChoices true 1 ({} : Transfer) transfer args
  forEachTarget t "file operand" files fun source target => do
    match ← status? source false with
    | .error e => fail 1 ("cannot stat " ++ quoteName source ++ ": " ++ e.text)
    | .ok s =>
      if ← isSameFile source target then
        if t.keepsTarget then fail 1 ("not replacing " ++ quoteName target)
        else fail 1 (quoteName source ++ " and " ++ quoteName target ++ " are the same file")
      else
        let there := (← status? target false).toOption
        if t.keepsTarget && there.isSome then fail 1 ("not replacing " ++ quoteName target)
        else if !s.isDirectory && there.any (·.isDirectory) then
          fail 1 ("cannot overwrite directory " ++ quoteName target ++ " with non-directory")
        else if s.isDirectory && there.any (!·.isDirectory) then
          fail 1 ("cannot overwrite non-directory " ++ quoteName target ++ " with directory " ++
            quoteName source)
        else
          match ← (System.rename (path source) (path target) : Dialogue System _) with
          | .ok () => tell t.isTold ("renamed " ++ quoteName source ++ " -> " ++ quoteName target)
          | .error e =>
            if e = .invalidArgument then
              fail 1 ("cannot move " ++ quoteName source ++ " to a subdirectory of itself, " ++
                quoteName target)
            else if e = .directoryNotEmpty then
              fail 1 ("cannot overwrite " ++ quoteName target ++ ": " ++ e.text)
            else
              fail 1 ("cannot move " ++ quoteName source ++ " to " ++ quoteName target ++ ": " ++
                e.text)

/-- Copies the content of a file. -/
def copyFile (t : Transfer) (source target : Octets) (s : Status) : Program Unit := do
  match ← (System.readFile (path source) : Dialogue System _) with
  | .error e => fail 1 ("cannot open " ++ quoteName source ++ " for reading: " ++ e.text)
  | .ok bytes =>
    let wasThere ← isThere target
    match ← (System.openPath (path target) .toWrite : Dialogue System _) with
    | .error e =>
      let e := if e = .isDirectory && target.getLast? == some '/' then .notDirectory else e
      fail 1 ("cannot create regular file " ++ quoteName target ++ ": " ++ e.text)
    | .ok d =>
      let _ ← (System.write d bytes : Dialogue System _)
      (System.close d : Dialogue System _)
      if !wasThere || t.keepsModes then
        let mask ← (System.setMask 0 : Dialogue System _)
        let _ ← (System.setMask mask : Dialogue System _)
        let mode := if t.keepsModes then s.mode else Mode.without (s.mode % 512) mask
        let _ ← (System.setMode (path target) mode : Dialogue System _)
      if t.keepsModes then
        let _ ← (System.setModified (path target) s.modified : Dialogue System _)
      tell t.isTold (quoteName source ++ " -> " ++ quoteName target)

/-- Copies something with all that is in it. -/
def copyDeep (t : Transfer) : (depth : Nat) → Octets → Octets → Program Unit
  | 0, _, _ => pure ()
  | depth + 1, source, target => do
    match ← status? source (!t.keepsLinks) with
    | .error e => fail 1 ("cannot stat " ++ quoteName source ++ ": " ++ e.text)
    | .ok s =>
      let there := (← status? target true).toOption
      if s.isDirectory then
        if !t.isDeep then fail 1 ("-r not specified; omitting directory " ++ quoteName source)
        else if there.any (!·.isDirectory) then
          fail 1 ("cannot overwrite non-directory " ++ quoteName target ++ " with directory " ++
            quoteName source)
        else
          match ← (System.list (path source) : Dialogue System _) with
          | .error e => fail 1 ("cannot access " ++ quoteName source ++ ": " ++ e.text)
          | .ok names =>
            let made ←
              if there.isSome then pure (.ok ())
              else (System.makeDirectory (path target) 0o777 : Dialogue System _)
            match made with
            | .error e => fail 1 ("cannot create directory " ++ quoteName target ++ ": " ++ e.text)
            | .ok () =>
              if there.isNone then
                tell t.isTold (quoteName source ++ " -> " ++ quoteName target)
              for name in names do
                copyDeep t depth (joinPath source name.octets) (joinPath target name.octets)
      else if there.any (·.isDirectory) then
        fail 1 ("cannot overwrite directory " ++ quoteName target ++ " with non-directory " ++
          quoteName source)
      else if there.any (·.identity == s.identity) then
        fail 1 (quoteName source ++ " and " ++ quoteName target ++ " are the same file")
      else if t.keepsTarget && there.isSome then
        fail 1 ("not replacing " ++ quoteName target)
      else if s.kind == .symlink then
        match ← (System.readLink (path source) : Dialogue System _) with
        | .ok goal =>
          if there.isSome then let _ ← (System.removeFile (path target) : Dialogue System _)
          match ← (System.symlink goal (path target) : Dialogue System _) with
          | .ok () => tell t.isTold (quoteName source ++ " -> " ++ quoteName target)
          | .error e =>
            fail 1 ("cannot create symbolic link " ++ quoteName target ++ ": " ++ e.text)
        | .error e => fail 1 ("cannot read symbolic link " ++ quoteName source ++ ": " ++ e.text)
      else
        if t.isForced && there.any (!·.permissions.write) then
          let _ ← (System.removeFile (path target) : Dialogue System _)
        copyFile t source target s

def cp (args : List Octets) : Program Unit := do
  let (t, files) ← readOptions transferChoices true 1 ({} : Transfer) transfer args
  forEachTarget t "file operand" files (copyDeep t depthLimit)

def ln (args : List Octets) : Program Unit := do
  let (t, files) ← readOptions
    [flag 'f' "force", flag 's' "symbolic", flag 'n' "no-dereference", flag 'v' "verbose",
     flag 'r' "relative", flag 'T' "no-target-directory", setting 't' "target-directory",
     flag 'L' "logical", flag 'P' "physical", flag 'i' "interactive"] true 1 ({} : Transfer)
    (fun t g => pure (match g.key with
      | "f" => { t with isForced := true }
      | "s" => { t with isSymbolic := true }
      | "n" | "T" => { t with isPlain := true }
      | "v" => { t with isTold := true }
      | "t" => { t with targetDir := some g.value }
      | _ => t)) args
  let files :=
    match files with
    | [only] => if t.targetDir.isNone then [only, ['.']] else files
    | files => files
  -- A link to a directory is not entered if that is asked for.
  let t ←
    match files with
    | [_, target] =>
      let isLink := (← status? target false).toOption.any (·.kind == .symlink)
      pure { t with isPlain := t.isPlain && isLink }
    | _ => pure { t with isPlain := false }
  forEachTarget t "file operand" files fun source target => do
    let kind := if t.isSymbolic then "symbolic" else "hard"
    let failed (e : OsError) : Program Unit :=
      fail 1 ("failed to create " ++ kind ++ " link " ++ quoteName target ++
        (if t.isSymbolic || e = .alreadyExists then "" else " => " ++ quoteName source) ++ ": " ++
          e.text)
    let make : Program (Except OsError Unit) :=
      if t.isSymbolic then (System.symlink (path source) (path target) : Dialogue System _)
      else (System.link (path source) (path target) : Dialogue System _)
    match t.isSymbolic, ← status? source false with
    | false, .error e => fail 1 ("failed to access " ++ quoteName source ++ ": " ++ e.text)
    | isSymbolic, found =>
      if !isSymbolic && found.toOption.any (·.isDirectory) then
        fail 1 (plainName source ++ ": hard link not allowed for directory")
      else
        if t.isForced then let _ ← (System.removeFile (path target) : Dialogue System _)
        match ← make with
        | .ok () =>
          tell t.isTold (quoteName target ++ (if t.isSymbolic then " -> " else " => ") ++
            quoteName source)
        | .error e => failed e

/-! ## Modes and sizes -/

/-- Changes the mode of a file, and of all that is in it if asked for. -/
def changeMode (text : Octets) (isDeep isQuiet : Bool) (mask : Nat) : (depth : Nat) → Octets →
    Program Unit
  | 0, _ => pure ()
  | depth + 1, file => do
    match ← status? file true with
    | .error e => if isQuiet then worsen 1 else fail 1 ("cannot access " ++ quoteName file ++ ": " ++ e.text)
    | .ok s =>
      match Mode.read? ⟨s.mode, mask, s.isDirectory⟩ text with
      | none => pure ()
      | some mode =>
        match ← (System.setMode (path file) mode : Dialogue System _) with
        | .ok () => pure ()
        | .error e =>
          fail 1 ("changing permissions of " ++ quoteName file ++ ": " ++ e.text)
        if isDeep && s.isDirectory then
          match ← (System.list (path file) : Dialogue System _) with
          | .ok names =>
            for name in names do
              changeMode text isDeep isQuiet mask depth (joinPath file name.octets)
          | .error e => fail 1 ("cannot read directory " ++ quoteName file ++ ": " ++ e.text)

def chmod (args : List Octets) : Program Unit := do
  -- A mode may begin with a minus sign.
  let isMode (arg : Octets) : Bool :=
    match arg with
    | '-' :: c :: rest => (c :: rest).all "rwxXstugo,+=-".toList.contains && "rwxXst".toList.contains c
    | _ => false
  let isReference (arg : Octets) : Bool := arg.take 12 = "--reference=".toList
  let mode := args.find? isMode
  let others := args.filter fun arg => !isMode arg
  let (keys, operands) ← readFlags
    [flag 'c' "changes", flag 'f' "silent", named "quiet" .nothing, flag 'R' "recursive",
     flag 'v' "verbose"] (others.filter fun arg => !isReference arg)
  let (text, files) :=
    match mode with
    | some mode => (mode, operands)
    | none => (operands.headD [], operands.drop 1)
  if mode.isNone && operands.isEmpty then missing "operand"
  if files.isEmpty then misuse 1 ("missing operand after " ++ quote text)
  if (Mode.read? ⟨0, 0, false⟩ text).isNone then misuse 1 ("invalid mode: " ++ quote text)
  let mask ← (System.setMask 0 : Dialogue System _)
  let _ ← (System.setMask mask : Dialogue System _)
  for file in files do
    changeMode text (keys.contains "R") (keys.contains "f" || keys.contains "quiet") mask depthLimit
      file

def mkfifo (args : List Octets) : Program Unit := do
  let (mode, files) ← readOptions [setting 'm' "mode"] true 1 0o666
    (fun _ g => modeOption 0o666 g.value) args
  if files.isEmpty then missing "operand"
  for file in files do
    match ← (System.makeFifo (path file) mode : Dialogue System _) with
    | .ok () => pure ()
    | .error e => fail 1 ("cannot create fifo " ++ quoteName file ++ ": " ++ e.text)

def truncate (args : List Octets) : Program Unit := do
  let ((size, keeps), files) ← readOptions
    [flag 'c' "no-create", setting 's' "size", setting 'r' "reference", flag 'o' "io-blocks"] true 1
    ((none : Option (Option Char × Nat)), false) (fun (size, keeps) g => do
      match g.key with
      | "c" => return (size, true)
      | "s" =>
        let sign := g.value.head?.filter "+-<>/%".toList.contains
        let text := if sign.isSome then g.value.drop 1 else g.value
        match amount text with
        | .ok n => return (some (sign, n), keeps)
        | .error _ => die 1 ("Invalid number: " ++ quote g.value)
      | "r" =>
        match ← status? g.value true with
        | .ok s => return (some (none, s.size), keeps)
        | .error e => die 1 ("cannot stat " ++ quoteName g.value ++ ": " ++ e.text)
      | _ => return (size, keeps)) args
  match size with
  | none => misuse 1 "you must specify either '--size' or '--reference'"
  | some (sign, n) =>
    if files.isEmpty then missing "file operand"
    for file in files do
      let now := ((← status? file true).toOption.map (·.size)).getD 0
      let isThere ← isThere file
      let n := match sign with
        | some '+' => now + n
        | some '-' => now - n
        | some '<' => min now n
        | some '>' => max now n
        | some '/' => if n = 0 then now else now / n * n
        | some '%' => if n = 0 then now else (now + n - 1) / n * n
        | _ => n
      if isThere || !keeps then
        match ← (System.openPath (path file) { Access.toWrite with emptying := false } :
          Dialogue System _) with
        | .error e => fail 1 ("cannot open " ++ quoteName file ++ " for writing: " ++ e.text)
        | .ok d =>
          (System.close d : Dialogue System _)
          let _ ← (System.resize (path file) n : Dialogue System _)

/-! ## Paths -/

def basename (args : List Octets) : Program Unit := do
  let ((several, ending), names) ← readOptions
    [flag 'a' "multiple", setting 's' "suffix", flag 'z' "zero"] false 1
    (false, (none : Option Octets)) (fun (several, ending) g => pure (match g.key with
      | "a" => (true, ending)
      | "s" => (true, some g.value)
      | _ => (several, ending))) args
  let show_ (ending : Octets) (file : Octets) : Program Unit :=
    let name := lastName file
    printLine (if ending.isSuffixOf name && name ≠ ending then
      name.take (name.length - ending.length) else name)
  match names with
  | [] => missing "operand"
  | file :: rest =>
    if several then for name in names do show_ (ending.getD []) name
    else
      match rest with
      | _ :: extra :: _ => misuse 1 ("extra operand " ++ quote extra)
      | rest => show_ (rest.headD []) file

def dirname (args : List Octets) : Program Unit := do
  let (_, names) ← readFlags [flag 'z' "zero"] args
  if names.isEmpty then missing "operand"
  for name in names do printLine (parentPath name)

def pwd (args : List Octets) : Program Unit := do
  let (_, operands) ← readFlags [flag 'L' "logical", flag 'P' "physical"] args
  if !operands.isEmpty then complain "ignoring non-option arguments"
  printLine (← (System.currentDir : Dialogue System _)).octets

/-- The path from the root of something that need not be there, whose directory is. -/
def canonical (mustExist : Bool) (file : Octets) : Program (Except OsError Octets) := do
  match ← (System.resolve (path file) : Dialogue System _) with
  | .ok place => return .ok place.octets
  | .error e =>
    if mustExist || e ≠ .notFound || file.isEmpty then return .error e
    else
      match ← (System.resolve (path (parentPath file)) : Dialogue System _) with
      | .ok place => return .ok (joinPath place.octets (lastName file))
      | .error e => return .error e

def readlink (args : List Octets) : Program Unit := do
  let (keys, files) ← readFlags
    [flag 'f' "canonicalize", flag 'e' "canonicalize-existing", flag 'm' "canonicalize-missing",
     flag 'n' "no-newline", flag 'q' "quiet", flag 's' "silent", flag 'v' "verbose",
     flag 'z' "zero"] args
  if files.isEmpty then missing "operand"
  for file in files do
    let found ←
      if keys.any ["f", "e", "m"].contains then canonical (keys.contains "e") file
      else do
        let goal ← (System.readLink (path file) : Dialogue System _)
        pure (goal.map (·.octets))
    match found with
    | .ok goal => print (if keys.contains "n" then goal else goal ++ ['\n'])
    | .error e =>
      worsen 1
      if keys.contains "v" then complain (plainName file ++ ": " ++ e.text)

def realpath (args : List Octets) : Program Unit := do
  let (keys, files) ← readFlags
    [flag 'e' "canonicalize-existing", flag 'm' "canonicalize-missing", flag 'L' "logical",
     flag 'P' "physical", flag 'q' "quiet", flag 's' "strip", flag 'z' "zero"] args
  if files.isEmpty then missing "operand"
  for file in files do
    match ← canonical (keys.contains "e") file with
    | .ok place => printLine place
    | .error e =>
      if keys.contains "q" then worsen 1 else fail 1 (plainName file ++ ": " ++ e.text)

end WorkerFleet.Utility
