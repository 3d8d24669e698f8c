import WorkerFleet.OsString

/-!
# Environments

Variables and their values; a name has at most one value.
-/

namespace WorkerFleet

structure Environment where
  bindings : List (String × OsString)
  deriving DecidableEq, Repr, Inhabited

namespace Environment

def empty : Environment := ⟨[]⟩

def get? (env : Environment) (name : String) : Option OsString := env.bindings.lookup name

/-- The value as text; a value that is no text counts as not set. -/
def text? (env : Environment) (name : String) : Option String := (env.get? name).bind (·.text?)

def erase (env : Environment) (name : String) : Environment :=
  ⟨env.bindings.filter fun v => v.1 != name⟩

/-- Gives a name its value, in place of the one it may have had. -/
def set (env : Environment) (name : String) (value : OsString) : Environment :=
  ⟨(env.erase name).bindings ++ [(name, value)]⟩

def setAll (env : Environment) (values : List (String × OsString)) : Environment :=
  values.foldl (fun env v => env.set v.1 v.2) env

/-- The variables as a program is given them. -/
def texts (env : Environment) : List OsString :=
  env.bindings.map fun v => .ofText (v.1 ++ "=") ++ v.2

end Environment

end WorkerFleet
