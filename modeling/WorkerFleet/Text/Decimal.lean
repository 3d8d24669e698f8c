/-!
# Decimal numbers

Reading scans from left to right and stops at the first fault: a character that is no ASCII digit,
or the digit with which the number passes the limit. Leading zeros count for nothing. Writing uses
the fewest digits.
-/

namespace WorkerFleet.Text.Decimal

/-- Why a text is no number. -/
inductive Fault
  | empty
  | invalidDigit
  | tooLarge
  deriving DecidableEq, Repr

def Fault.message : Fault → String
  | .empty => "cannot parse integer from empty string"
  | .invalidDigit => "invalid digit found in string"
  | .tooLarge => "number too large to fit in target type"

def digit? (c : Char) : Option Nat :=
  if '0' ≤ c ∧ c ≤ '9' then some (c.toNat - '0'.toNat) else none

/-- The number that the digits append to `value`, as long as it stays within the limit. -/
def extend (limit : Nat) : Nat → List Char → Except Fault Nat
  | value, [] => .ok value
  | value, c :: rest =>
    match digit? c with
    | none => .error .invalidDigit
    | some d =>
      if limit < value * 10 + d then .error .tooLarge else extend limit (value * 10 + d) rest

/-- One or more digits. -/
def digits (limit : Nat) : List Char → Except Fault Nat
  | [] => .error .invalidDigit
  | c :: rest => extend limit 0 (c :: rest)

/-- A natural number up to the limit, with an optional plus sign. -/
def natural (limit : Nat) : List Char → Except Fault Nat
  | [] => .error .empty
  | '+' :: rest => digits limit rest
  | c :: rest => digits limit (c :: rest)

/-- An integer from `-(limit + 1)` to `limit`, with an optional sign. -/
def integer? (limit : Nat) : List Char → Option Int
  | '-' :: rest => (digits (limit + 1) rest).toOption.map fun n => -(n : Int)
  | '+' :: rest => (digits limit rest).toOption.map Int.ofNat
  | text => (digits limit text).toOption.map Int.ofNat

def ofNat (n : Nat) : List Char := Nat.toDigits 10 n

def ofInt : Int → List Char
  | .ofNat n => ofNat n
  | .negSucc n => '-' :: ofNat (n + 1)

end WorkerFleet.Text.Decimal
