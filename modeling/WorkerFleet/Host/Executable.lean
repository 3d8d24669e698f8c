import WorkerFleet.Host.FileSystem

/-!
# Executable files

What the system runs when asked to execute a path: a program of the machine, or the interpreter
that the first line of a script names.
-/

namespace WorkerFleet.Host

/-- A program with its argument vector, its own name first. -/
structure Image where
  tool : Tool
  argv : List OsString
  deriving DecidableEq, Repr

namespace Executable

/-- One argument or variable may take 32 pages of memory, its end mark included. -/
def textLimit : Nat := 131072

/-- All of them together, with their pointers, a quarter of the stack. -/
def totalLimit : Nat := 2097152

def fits (argv : List OsString) (environment : List OsString) : Bool :=
  let all := argv ++ environment
  all.all (fun text => text.bytes.length < textLimit) &&
    (all.foldl (fun sum text => sum + text.bytes.length + 9) 0) ≤ totalLimit

def isGap (b : UInt8) : Bool := b == 32 || b == 9

/-- A name ends at a blank or at a byte that is not there. -/
def isBreak (b : UInt8) : Bool := isGap b || b == 0

/-- How much of a file is looked at. -/
def headSize : Nat := 256

/-- The first line of a script behind its two marks, without the blanks at its end. Where no line
ends within the head of the file, all of it but the last byte is taken for one line, if at least
the name in it comes to an end. -/
def firstLine? (content : List UInt8) : Option (List UInt8) :=
  let bytes := content.take headSize
  match bytes ++ List.replicate (headSize - bytes.length) 0 with
  | 35 :: 33 :: rest =>
    let line :=
      if (rest.takeWhile (· != 0)).contains 10 then some (rest.takeWhile (· != 10))
      else if (rest.dropWhile isGap).any isBreak then some rest.dropLast
      else none
    line.map fun line => (line.reverse.dropWhile isGap).reverse
  | _ => none

/-- The interpreter that a script names, and the one argument it may give. -/
def interpreter? (content : List UInt8) : Option (OsString × Option OsString) := do
  let line := (← firstLine? content).dropWhile isGap
  if line.isEmpty then none
  else
    let name := line.takeWhile fun b => !isBreak b
    let argument : Option OsString :=
      match (line.drop name.length).span isGap with
      | ([], _) => none
      | (_, rest) => some ⟨rest.takeWhile (· != 0)⟩
    some (⟨name⟩, argument)

/-- The file that is opened when a path is executed, and whether it is a program of the machine. -/
def openAt (fs : FileSystem) (dir : Location) (path : OsString) :
    Except OsError (Tool ⊕ List UInt8) := do
  match ← fs.find dir path true with
  | (_, .program tool) => .ok (.inl tool)
  | (_, .file number) =>
    let file := fs.file number
    if (Permissions.ofMode file.mode).execute then .ok (.inr file.content)
    else .error .accessDenied
  | _ => .error .accessDenied

/-- How many files one execution may lead through. -/
def levels : Nat := 6

/-- What executing a path comes to; a script's interpreter may be a script again, up to a limit. -/
def loadWithin (fs : FileSystem) (dir : Location) (environment : List OsString) :
    Nat → OsString → List OsString → Except OsError Image
  | 0, path, _ => do
    let _ ← openAt fs dir path
    .error .tooManyLinks
  | level + 1, path, argv => do
    let found ← openAt fs dir path
    if !fits argv environment then .error .argumentsTooLong
    else
      match found with
      | .inl tool => .ok ⟨tool, argv⟩
      | .inr content =>
        match interpreter? content with
        | none => .error .execFormat
        | some (name, argument) =>
          loadWithin fs dir environment level name
            (name :: argument.toList ++ path :: argv.tail)

def load (fs : FileSystem) (dir : Location) (environment : List OsString) (path : OsString)
    (argv : List OsString) : Except OsError Image :=
  loadWithin fs dir environment levels path argv

/-- The directories in which a name without a slash is looked for. -/
def searchPath (value : Option OsString) : List OsString :=
  let text := value.getD (.ofText "/bin:/usr/bin")
  (Text.splitOn 58 text.bytes).map (⟨·⟩)

/-- Tries one directory after the other. A file that may not be executed does not end the search,
but is remembered for the case that nothing else is found. -/
def searchIn (fs : FileSystem) (dir : Location) (environment : List OsString)
    (name : OsString) (argv : List OsString) :
    List OsString → OsError → Except OsError Image
  | [], last => .error last
  | place :: rest, last =>
    match load fs dir environment (Path.join place name) argv with
    | .ok image => .ok image
    | .error e =>
      if e = .accessDenied then searchIn fs dir environment name argv rest .accessDenied
      else if e = .notFound ∨ e = .notDirectory then
        searchIn fs dir environment name argv rest last
      else .error e

/-- Executes a program by path, or by name along the search path. -/
def resolve (fs : FileSystem) (dir : Location) (environment : List OsString)
    (search : Option OsString) (program : OsString) (argv : List OsString) :
    Except OsError Image :=
  if program.isEmpty then .error .notFound
  else if program.bytes.contains Path.slash then load fs dir environment program argv
  else searchIn fs dir environment program argv (searchPath search) .notFound

end Executable

end WorkerFleet.Host
