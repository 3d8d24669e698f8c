import WorkerFleet.Shell.State

/-!
# Options of the shell's commands

Letters behind a dash, some of which take a value; a dash alone is an operand, and two of them end
the options.
-/

namespace WorkerFleet.Shell.Builtin

open Eval

/-- The letters that a command knows, and whether they take a value. -/
abbrev Letters := List (Char × Bool)

/-- The letters of one argument; the next arguments hold the value of the last of them. -/
def readLetters (known : Letters) : Octets → List Octets → Eval (List (Char × Octets) × Bool)
  | [], _ => return ([], false)
  | c :: more, rest => do
    match known.lookup c, more, rest with
    | none, _, _ => fail ("Illegal option -" ++ c.toString)
    | some false, _, _ => do
      let (found, taken) ← readLetters known more rest
      return ((c, []) :: found, taken)
    | some true, [], [] => fail ("No arg for -" ++ c.toString ++ " option")
    | some true, [], value :: _ => return ([(c, value)], true)
    | some true, more, _ => return ([(c, more)], false)

/-- The options at the front of the arguments; `skip` tells that the first was taken already. -/
def readFrom (known : Letters) : (skip : Bool) → List Octets →
    Eval (List (Char × Octets) × List Octets)
  | _, [] => return ([], [])
  | true, _ :: rest => readFrom known false rest
  | false, arg :: rest => do
    match arg with
    | ['-', '-'] => return ([], rest)
    | '-' :: c :: more => do
      let (found, taken) ← readLetters known (c :: more) rest
      let (others, operands) ← readFrom known taken rest
      return (found ++ others, operands)
    | _ => return ([], arg :: rest)

/-- The options with their values, and the operands. -/
def options (known : String) (args : List Octets) : Eval (List (Char × Octets) × List Octets) :=
  readFrom (known.toList.map (·, false)) false args

/-- The operands of a command without options. -/
def operands (args : List Octets) : Eval (List Octets) := do return (← options "" args).2

end WorkerFleet.Shell.Builtin
