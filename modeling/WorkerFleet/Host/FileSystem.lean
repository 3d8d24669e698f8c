import WorkerFleet.OsError
import WorkerFleet.Path

/-!
# Files

A tree of named entries, kept as one list from full paths to nodes. A name of a file leads to the
number of its content, so that a file may have several names, and outlives them while it is open.
The operations answer with the error that the system gives for the same request to the owner of all
files, whom no privilege lets pass where the permissions of a file do not.
-/

namespace WorkerFleet.Host

/-- A program that belongs to the machine. -/
inductive Tool
  | shell
  | standIn
  | utility (name : String)
  deriving DecidableEq, Repr

/-- Which file is meant, whatever its names are. -/
abbrev FileNumber := Nat

/-- Bytes on their way from one process to another. -/
abbrev Channel := Nat

inductive Device
  /-- Swallows what is written and gives nothing back. -/
  | null
  /-- Gives zeros without end. -/
  | zero
  /-- Has no room for anything. -/
  | full
  /-- The terminal, at which nobody sits. -/
  | terminal
  /-- What the process itself has open under a number. -/
  | descriptor (number : Nat)
  deriving DecidableEq, Repr

inductive Node
  /-- A directory that is not the user's own has an error for those who would change it. -/
  | directory (mode : Nat) (refusal : Option OsError)
  | file (number : FileNumber)
  | program (tool : Tool)
  | symlink (target : OsString)
  | fifo (channel : Channel) (mode : Nat)
  | device (device : Device)
  deriving DecidableEq, Repr

/-- The names that lead from the root to an entry. -/
abbrev Location := List OsString

/-- What a file's mode allows its owner. -/
structure Permissions where
  read : Bool
  write : Bool
  execute : Bool
  deriving DecidableEq, Repr

def Permissions.ofMode (mode : Nat) : Permissions :=
  ⟨mode &&& 0o400 ≠ 0, mode &&& 0o200 ≠ 0, mode &&& 0o100 ≠ 0⟩

structure File where
  content : List UInt8
  mode : Nat
  /-- When the content was changed. -/
  modified : Nat
  deriving DecidableEq, Repr, Inhabited

structure FileSystem where
  entries : List (Location × Node)
  files : List (FileNumber × File)
  /-- The number of the next file. -/
  nextFile : FileNumber
  deriving Repr

namespace FileSystem

def empty : FileSystem := ⟨[], [], 0⟩

/-- The mode of a directory that is not told otherwise. -/
def directoryMode : Nat := 0o755

def node? (fs : FileSystem) (place : Location) : Option Node :=
  if place.isEmpty then some (.directory directoryMode (some .accessDenied))
  else fs.entries.lookup place

def put (fs : FileSystem) (place : Location) (node : Node) : FileSystem :=
  if (fs.entries.lookup place).isSome then
    { fs with entries := fs.entries.map fun e => if e.1 = place then (place, node) else e }
  else { fs with entries := fs.entries ++ [(place, node)] }

def erase (fs : FileSystem) (place : Location) : FileSystem :=
  { fs with entries := fs.entries.filter fun e => e.1 ≠ place }

def file? (fs : FileSystem) (number : FileNumber) : Option File := fs.files.lookup number

def file (fs : FileSystem) (number : FileNumber) : File := (fs.file? number).getD default

/-- Changes a file, under all of its names. -/
def update (fs : FileSystem) (number : FileNumber) (change : File → File) : FileSystem :=
  { fs with files := fs.files.map fun f => if f.1 = number then (number, change f.2) else f }

/-- Adds a file that has no name yet. -/
def newFile (fs : FileSystem) (content : File) : FileSystem × FileNumber :=
  ({ fs with files := (fs.nextFile, content) :: fs.files, nextFile := fs.nextFile + 1 },
    fs.nextFile)

/-- How many symbolic links one path may lead through. -/
def linkLimit : Nat := 40

/-- Where names lead from a place; only the last one may name nothing yet. At a symbolic link the
way goes on as `jump` tells; the last name is a way on only if it is to be followed. -/
def walkWith (fs : FileSystem) (jump : Location → OsString → List OsString → Except OsError Location)
    (follow : Bool) : Location → List OsString → Except OsError Location
  | here, [] => .ok here
  | here, name :: rest =>
    match fs.node? here with
    | none => .error .notFound
    | some (.directory mode _) =>
      if 255 < name.bytes.length then .error .nameTooLong
      else if !(Permissions.ofMode mode).execute then .error .accessDenied
      else if name.bytes = [46, 46] then fs.walkWith jump follow here.dropLast rest
      else
        match fs.node? (here ++ [name]) with
        | some (.symlink target) =>
          if rest.isEmpty && !follow then .ok (here ++ [name]) else jump here target rest
        | _ => fs.walkWith jump follow (here ++ [name]) rest
    | some _ => .error .notDirectory

/-- Where names lead through so many symbolic links at most. -/
def walk (fs : FileSystem) (follow : Bool) :
    (links : Nat) → Location → List OsString → Except OsError Location
  | 0, here, names => fs.walkWith (fun _ _ _ => .error .tooManyLinks) follow here names
  | links + 1, here, names =>
    fs.walkWith (fun here target rest =>
      fs.walk follow links (if Path.isAbsolute target then [] else here)
        (Path.names target ++ rest)) follow here names

/-- Whether a path insists that it names a directory. -/
def wantsDirectory (path : OsString) : Bool :=
  Path.endsInSlash path || ((Text.splitOn Path.slash path.bytes).getLast? == some [46])

/-- Where a path leads, seen from a directory; a symbolic link at its end may be followed or be what
the path names. -/
def locate (fs : FileSystem) (dir : Location) (path : OsString) (follow : Bool) :
    Except OsError Location :=
  if path.isEmpty then .error .notFound
  else if 4095 < path.bytes.length then .error .nameTooLong
  else
    fs.walk (follow || wantsDirectory path) linkLimit
      (if Path.isAbsolute path then [] else dir) (Path.names path)

/-- The entry that a path names. -/
def find (fs : FileSystem) (dir : Location) (path : OsString) (follow : Bool) :
    Except OsError (Location × Node) := do
  let place ← fs.locate dir path follow
  match fs.node? place with
  | none => .error .notFound
  | some (.directory mode refusal) => .ok (place, .directory mode refusal)
  | some node => if wantsDirectory path then .error .notDirectory else .ok (place, node)

def findDirectory (fs : FileSystem) (dir : Location) (path : OsString) :
    Except OsError Location := do
  match ← fs.find dir path true with
  | (place, .directory _ _) => .ok place
  | _ => .error .notDirectory

/-- Whether a directory lets its entries be changed. -/
def permit (fs : FileSystem) (dir : Location) : Except OsError Unit :=
  match fs.node? dir with
  | some (.directory _ (some refusal)) => .error refusal
  | some (.directory mode none) =>
    if (Permissions.ofMode mode).write then .ok () else .error .accessDenied
  | _ => .error .notFound

/-- Adds an entry in a place that holds none. -/
def add (fs : FileSystem) (place : Location) (node : Node) : Except OsError FileSystem := do
  fs.permit place.dropLast
  return fs.put place node

/-- Adds a file in a place that holds nothing. -/
def addFile (fs : FileSystem) (place : Location) (content : File) :
    Except OsError (FileSystem × FileNumber) := do
  fs.permit place.dropLast
  let (fs, number) := fs.newFile content
  return (fs.put place (.file number), number)

/-- Takes an entry out of its directory. -/
def remove (fs : FileSystem) (place : Location) : Except OsError FileSystem := do
  fs.permit place.dropLast
  return fs.erase place

/-- The mode of a new file, unless some of it is masked. -/
def fileMode : Nat := 0o644

/-- Creates an empty file where there is nothing of that name, in one step. -/
def createNew (fs : FileSystem) (now : Nat) (dir : Location) (path : OsString) :
    Except OsError FileSystem := do
  let place ← fs.locate dir path false
  if wantsDirectory path then .error .isDirectory
  else if (fs.node? place).isSome then .error .alreadyExists
  else return (← fs.addFile place ⟨[], fileMode, now⟩).1

/-- Adds bytes at the end of a file. -/
def append (fs : FileSystem) (now : Nat) (dir : Location) (path : OsString) (bytes : List UInt8) :
    Except OsError FileSystem := do
  match ← fs.find dir path true with
  | (_, .file number) =>
    if (Permissions.ofMode (fs.file number).mode).write then
      .ok (fs.update number fun f => { f with content := f.content ++ bytes, modified := now })
    else .error .accessDenied
  | (_, .directory _ _) => .error .isDirectory
  | (_, .program _) => .error .accessDenied
  | _ => .ok fs

def makeDirectory (fs : FileSystem) (dir : Location) (path : OsString) (mode : Nat) :
    Except OsError FileSystem := do
  let place ← fs.locate dir path false
  if (fs.node? place).isSome then .error .alreadyExists else fs.add place (.directory mode none)

/-- Adds an entry that is no directory, where there is nothing of that name. -/
def addNamed (fs : FileSystem) (dir : Location) (path : OsString) (node : Node) :
    Except OsError FileSystem := do
  let place ← fs.locate dir path false
  if (fs.node? place).isSome then .error .alreadyExists
  else if wantsDirectory path then .error .notFound
  else fs.add place node

/-- Gives an entry one more name. A directory has only one. -/
def link (fs : FileSystem) (dir : Location) (source target : OsString) :
    Except OsError FileSystem := do
  match ← fs.find dir source false with
  | (_, .directory _ _) => .error .notPermitted
  | (_, node) => fs.addNamed dir target node

def readLink (fs : FileSystem) (dir : Location) (path : OsString) : Except OsError OsString := do
  match ← fs.find dir path false with
  | (_, .symlink target) => .ok target
  | _ => .error .invalidArgument

/-- Whether a place lies below another. -/
def below (place inner : Location) : Bool := place.isPrefixOf inner && place ≠ inner

def removeFile (fs : FileSystem) (dir : Location) (path : OsString) :
    Except OsError FileSystem := do
  match ← fs.find dir path false with
  | (_, .directory _ _) => .error .isDirectory
  | (place, _) => fs.remove place

def removeDirectory (fs : FileSystem) (dir : Location) (path : OsString) :
    Except OsError FileSystem := do
  if (Text.splitOn Path.slash path.bytes).getLast? == some [46] then throw .invalidArgument
  match ← fs.find dir path false with
  | (place, .directory _ _) =>
    if fs.entries.any fun e => below place e.1 then .error .directoryNotEmpty
    else fs.remove place
  | _ => .error .notDirectory

/-- Gives an entry, with all below it, another path; a file there is replaced. -/
def rename (fs : FileSystem) (dir : Location) (source target : OsString) :
    Except OsError FileSystem := do
  let (old, node) ← fs.find dir source false
  let new ← fs.locate dir target false
  match node, fs.node? new with
  | .directory _ _, some (.directory _ _) =>
    if old ≠ new && fs.entries.any fun e => below new e.1 then throw .directoryNotEmpty
  | .directory _ _, some _ => throw .notDirectory
  | _, some (.directory _ _) => throw .isDirectory
  | .file a, some (.file b) => if a = b then return fs
  | .directory _ _, none => pure ()
  | _, none => if wantsDirectory target then throw .notDirectory
  | _, _ => pure ()
  if old = new then return fs
  if below old new then throw .invalidArgument
  fs.permit old.dropLast
  fs.permit new.dropLast
  return { fs with entries := (fs.erase new).entries.map fun e =>
    if old.isPrefixOf e.1 then (new ++ e.1.drop old.length, e.2) else e }

/-- Gives an entry another mode. -/
def setMode (fs : FileSystem) (dir : Location) (path : OsString) (mode : Nat) :
    Except OsError FileSystem := do
  match ← fs.find dir path true with
  | (_, .file number) => .ok (fs.update number fun f => { f with mode })
  | (place, .directory _ none) => .ok (fs.put place (.directory mode none))
  | (place, .fifo channel _) => .ok (fs.put place (.fifo channel mode))
  | _ => .error .notPermitted

/-- Marks a file as changed at a time. -/
def setModified (fs : FileSystem) (now : Nat) (dir : Location) (path : OsString) :
    Except OsError FileSystem := do
  match ← fs.find dir path true with
  | (_, .file number) => .ok (fs.update number fun f => { f with modified := now })
  | (_, .program _) => .error .accessDenied
  | (_, .directory _ (some _)) => .error .accessDenied
  | _ => .ok fs

/-- The entries of a directory. -/
def children (fs : FileSystem) (place : Location) : List (OsString × Node) :=
  fs.entries.filterMap fun e =>
    match e.1.getLast? with
    | some name => if e.1.dropLast = place then some (name, e.2) else none
    | none => none

def list (fs : FileSystem) (dir : Location) (path : OsString) :
    Except OsError (List (OsString × Node)) := do
  match ← fs.find dir path true with
  | (place, .directory mode _) =>
    if (Permissions.ofMode mode).read then .ok (fs.children place) else .error .accessDenied
  | _ => .error .notDirectory

/-- Adds an entry by its path from the root, whatever is there. -/
def install (fs : FileSystem) (path : String) (node : Node) : FileSystem :=
  fs.put (Path.names (.ofText path)) node

/-- Adds a file with a content in a place, whatever is there. -/
def installFile (fs : FileSystem) (place : Location) (content : File) : FileSystem :=
  let (fs, number) := fs.newFile content
  fs.put place (.file number)

end FileSystem

end WorkerFleet.Host
