import WorkerFleet.OsString
import WorkerFleet.Text.Split

/-!
# Paths

A path is an operating system string that slashes divide into names.
-/

namespace WorkerFleet.Path

def slash : UInt8 := 47

/-- The names of a path; empty ones and `.` lead nowhere and are left out. -/
def names (path : OsString) : List OsString :=
  ((Text.splitOn slash path.bytes).filter fun part => !part.isEmpty && part != [46]).map (⟨·⟩)

def isAbsolute (path : OsString) : Bool := path.bytes.head? == some slash

/-- Whether the path insists that it names a directory. -/
def endsInSlash (path : OsString) : Bool := path.bytes.getLast? == some slash

/-- The last name, unless it leads upward. -/
def fileName? (path : OsString) : Option OsString :=
  match (names path).getLast? with
  | some name => if name.bytes = [46, 46] then none else some name
  | none => none

/-- The path of an entry of a directory. -/
def join (dir name : OsString) : OsString :=
  if dir.isEmpty || endsInSlash dir then dir ++ name else dir ++ ⟨[slash]⟩ ++ name

end WorkerFleet.Path
