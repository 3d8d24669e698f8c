/-!
# Wait orders

In which order the launcher reaps its workers, and what becomes of their failures.
-/

namespace WorkerFleet

inductive WaitOrder
  /-- Whichever worker finishes first. -/
  | completion
  /-- Each worker in the order it was started. -/
  | spawn
  deriving DecidableEq, Repr, Inhabited

namespace WaitOrder

def default : WaitOrder := .completion

def all : List WaitOrder := [.completion, .spawn]

def name : WaitOrder → String
  | .completion => "completion"
  | .spawn => "spawn"

/-- A lower-case form of the ASCII letters; other characters stay. -/
def foldCase (text : String) : List Char := text.toList.map Char.toLower

def ofName? (text : String) : Option WaitOrder := all.find? fun o => o.name == text

/-- The order of that name, with or without regard to the case of ASCII letters. -/
def parse (text : String) (ignoreCase : Bool) : Except String WaitOrder :=
  let found := all.find? fun o =>
    if ignoreCase then foldCase o.name == foldCase text else o.name == text
  match found with
  | some order => .ok order
  | none => .error ("invalid variant: " ++ text)

end WaitOrder

/-- Whether failures of workers show in the launcher's own exit status. -/
inductive ExitPolicy
  | ignore
  | propagate
  deriving DecidableEq, Repr, Inhabited

end WorkerFleet
