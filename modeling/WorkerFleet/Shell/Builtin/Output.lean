import WorkerFleet.Shell.State
import WorkerFleet.Text.Format

/-!
# Printing commands of the shell
-/

namespace WorkerFleet.Shell.Builtin

open Eval Text

/-- `echo` resolves escapes. -/
def echo (args : List Octets) : Eval Unit := do
  let silent := args.head? == some "-n".toList
  let words := if silent then args.drop 1 else args
  let escaping : Format.Escaping := { hasZero := true, hasHex := false }
  let (text, ended) := escaping.resolve (Octets.joined words)
  print (if silent || ended then text else text ++ ['\n'])

/-- How the shell reads formats. -/
def dialect : Format.Dialect where
  format := { hasStop := false, hasZero := false, hasHex := false }
  argument := { hasZero := true, hasHex := false }
  bits := 53
  lead := 1
  modifiers := []
  quote? := none
  minds := false

def formatFault : Format.Fault → String
  | .notANumber arg => String.ofList arg ++ ": expected numeric value"
  | .leftOver arg => String.ofList arg ++ ": not completely converted"
  | .outOfRange arg => String.ofList arg ++ ": Numerical result out of range"
  | .ignored _ | .noLetter _ => "missing format character"
  | .unknown directive => String.ofList directive ++ ": invalid directive"

def formatted (args : List Octets) : Eval Unit := do
  match args with
  | [] => fail "usage: printf format [arg ...]"
  | format :: rest =>
    let out := Format.run dialect format rest
    for fault in out.faults do complain (formatFault fault)
    print out.text
    if out.faults.any (·.isFatal) then setStatus 2
    else if !out.faults.isEmpty then setStatus 1

def printf (args : List Octets) : Eval Unit := do
  match args with
  | ['-', '-'] :: rest => formatted rest
  | ('-' :: c :: _) :: _ => fail ("Illegal option -" ++ c.toString)
  | args => formatted args

end WorkerFleet.Shell.Builtin
