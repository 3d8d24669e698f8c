import WorkerFleet.OsString

/-!
# The launcher's arguments

What the command line may hold: the worker count, four long options and two that ask for a text,
and the arguments passed on to the workers.
-/

namespace WorkerFleet.CommandLine

/-- An option that takes a value. -/
inductive ValueOption
  | collaborator
  | waitOrder
  deriving DecidableEq, Repr

/-- An option that takes none. -/
inductive Switch
  | failOnChildError
  | help
  | version
  deriving DecidableEq, Repr

inductive Argument
  | workers
  | value (option : ValueOption)
  | switch (switch : Switch)
  | passedOn
  deriving DecidableEq, Repr

def ValueOption.name : ValueOption → String
  | .collaborator => "collaborator"
  | .waitOrder => "wait-order"

def Switch.name : Switch → String
  | .failOnChildError => "fail-on-child-error"
  | .help => "help"
  | .version => "version"

/-- The option as usage texts write it. -/
def ValueOption.usage : ValueOption → String
  | .collaborator => "--collaborator <COLLABORATOR>"
  | .waitOrder => "--wait-order <WAIT_ORDER>"

def Switch.usage (s : Switch) : String := "--" ++ s.name

/-- The options in the order in which the help lists them. -/
def Argument.named : List (String × Argument) :=
  [(ValueOption.collaborator.name, .value .collaborator),
   (ValueOption.waitOrder.name, .value .waitOrder),
   (Switch.failOnChildError.name, .switch .failOnChildError),
   (Switch.help.name, .switch .help),
   (Switch.version.name, .switch .version)]

def Argument.ofName? (name : String) : Option Argument := Argument.named.lookup name

end WorkerFleet.CommandLine
