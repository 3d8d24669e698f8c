import WorkerFleet.Text.Blank
import WorkerFleet.Text.Decimal
import WorkerFleet.Text.Quoted

/-!
# Worker counts

The number of workers asked for, a signed 64-bit integer kept as given. A count of zero or less
starts none. Reading forgives white space around the number and nothing else.
-/

namespace WorkerFleet

open Text

structure WorkerCount where
  value : Int
  lower : -9223372036854775808 ≤ value := by decide
  upper : value ≤ 9223372036854775807 := by decide
  deriving DecidableEq, Repr

namespace WorkerCount

/-- The greatest count. -/
def limit : Nat := 9223372036854775807

/-- Why a text is no worker count. -/
inductive Fault
  | empty
  | invalid (input : String)
  deriving DecidableEq, Repr

def Fault.message : Fault → String
  | .empty => "worker count must not be empty"
  | .invalid input =>
    "invalid worker count " ++ String.ofList (Quoted.quote input.toList) ++
      ": expected a base-10 integer"

/-- How many workers the count starts. -/
def toStart (w : WorkerCount) : Nat := w.value.toNat

def ofInt? (value : Int) : Option WorkerCount :=
  if h : -9223372036854775808 ≤ value ∧ value ≤ 9223372036854775807 then
    some ⟨value, h.1, h.2⟩
  else none

/-- A fault names the text as it was given, with its white space. -/
def parse (input : String) : Except Fault WorkerCount :=
  match trim input.toList with
  | [] => .error .empty
  | c :: rest =>
    match (Decimal.integer? limit (c :: rest)).bind ofInt? with
    | none => .error (.invalid input)
    | some w => .ok w

def display (w : WorkerCount) : String := String.ofList (Decimal.ofInt w.value)

end WorkerCount

end WorkerFleet
