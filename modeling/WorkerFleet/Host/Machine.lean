import WorkerFleet.Host.Station

/-!
# A machine as it is set up

The directories, programs and variables that every machine has, and a scratch directory for the
work at hand.
-/

namespace WorkerFleet.Host.Machine

/-- The directories that belong to the machine itself. -/
def directories : List String :=
  ["/bin", "/dev", "/dev/fd", "/etc", "/home", "/lib", "/opt", "/root", "/run", "/sbin", "/srv", "/sys",
   "/usr", "/usr/bin", "/usr/lib", "/usr/local", "/usr/local/bin", "/usr/local/sbin", "/usr/sbin",
   "/usr/share", "/var", "/var/lib", "/var/log"]

/-- The directories in which everyone may work. -/
def sharedDirectories : List String := ["/dev/shm", "/tmp", "/var/tmp"]

/-- Where programs are kept; the same ones in each place. -/
def programDirectories : List String := ["/bin/", "/usr/bin/"]

def programs : List (String × Tool) :=
  [("sh", .shell), ("dash", .shell)] ++ Utility.names.map fun name => (name, .utility name)

def users : String := "root:x:0:0:root:/root:/bin/sh\n"

/-- The devices by name. -/
def devices : List (String × Device) :=
  [("null", .null), ("zero", .zero), ("full", .full), ("tty", .terminal),
   ("stdin", .descriptor standardInput), ("stdout", .descriptor standardOutput),
   ("stderr", .descriptor standardError)] ++
  (List.range 10).map fun n => ("fd/" ++ toString n, .descriptor n)

/-- The files of a machine nobody has worked on yet. -/
def files : FileSystem :=
  let fs := FileSystem.empty
  let fs := directories.foldl (fun fs path =>
    fs.install path (.directory FileSystem.directoryMode (some .accessDenied))) fs
  let fs := sharedDirectories.foldl (fun fs path =>
    fs.install path (.directory 0o777 none)) fs
  let fs := fs.install "/proc" (.directory 0o555 (some .notFound))
  let fs := programDirectories.foldl (fun fs dir =>
    programs.foldl (fun fs p => fs.install (dir ++ p.1) (.program p.2)) fs) fs
  let fs := fs.installFile (Path.names (.ofText "/etc/passwd"))
    ⟨(OsString.ofText users).bytes, 0o644, 0⟩
  devices.foldl (fun fs d => fs.install ("/dev/" ++ d.1) (.device d.2)) fs

def environment : Environment :=
  .setAll .empty [
    ("PATH", .ofText "/usr/local/sbin:/usr/local/bin:/usr/sbin:/usr/bin:/sbin:/bin"),
    ("HOME", .ofText "/root"), ("LC_ALL", .ofText "C")]

/-- What is put into the scratch directory before the work begins. -/
inductive Content
  | directory
  | file (bytes : List UInt8) (mode : Nat)
  | program (tool : Tool)
  deriving Repr

structure Entry where
  path : OsString
  content : Content
  deriving Repr

def addDirectory (fs : FileSystem) (place : Location) : FileSystem :=
  fs.put place (.directory FileSystem.directoryMode none)

/-- Adds an entry at a time, and the directories on the way to it. -/
def addEntry (scratch : Location) (fs : FileSystem) (e : Entry) (time : Nat) : FileSystem :=
  let place := scratch ++ Path.names e.path
  let above := (List.range place.length).map place.take
  let fs := above.foldl (fun fs dir =>
    if (fs.node? dir).isSome then fs else addDirectory fs dir) fs
  match e.content with
  | .directory => addDirectory fs place
  | .file bytes mode => fs.installFile place ⟨bytes, mode, time⟩
  | .program tool => fs.put place (.program tool)

/-- A station in a scratch directory that holds some entries, put there one after the other; the
variables come on top of the machine's own. -/
def station (scratch : OsString) (entries : List Entry) (input : List UInt8) (env : Environment) :
    Station :=
  let place := Path.names scratch
  let fs := addEntry [] files ⟨scratch, .directory⟩ 0
  let fs := entries.zipIdx.foldl (fun fs e => addEntry place fs e.1 (e.2 + 1)) fs
  { world := { clock := entries.length + 1, files := fs, input }, dir := place,
    environment := environment.setAll env.bindings }

end WorkerFleet.Host.Machine
