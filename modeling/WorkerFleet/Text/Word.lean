import WorkerFleet.Octets

/-!
# Words

Integers of 64 bits with a sign, and how they are read from texts.
-/

namespace WorkerFleet.Text.Word

/-- The number of values that a word has. -/
def size : Nat := 18446744073709551616

def highest : Int := 9223372036854775807

def lowest : Int := -9223372036854775808

def wrap (n : Int) : Int := Int.bmod n size

/-- The word nearest to a number. -/
def clamp (n : Int) : Int := max lowest (min highest n)

def digitValue (c : Char) : Nat :=
  if c.isDigit then c.toNat - '0'.toNat
  else if c.isLower then c.toNat - 'a'.toNat + 10
  else if c.isUpper then c.toNat - 'A'.toNat + 10
  else 99

/-- The digits of a base at the front of a text as a number, and what follows. -/
def readDigits (base : Nat) (text : Octets) : Option (Nat × Octets) :=
  let digits := text.takeWhile fun c => digitValue c < base
  if digits.isEmpty then none
  else some (digits.foldl (fun n c => n * base + digitValue c) 0, text.drop digits.length)

/-- The number at the front of a text, in the base that its beginning tells, and what follows. -/
def readNatural (text : Octets) : Option (Nat × Octets) :=
  match text with
  | '0' :: x :: rest =>
    if x = 'x' || x = 'X' then (readDigits 16 rest).orElse fun _ => some (0, x :: rest)
    else readDigits 8 text
  | text => readDigits 10 text

def isGap (c : Char) : Bool := c == ' ' || c == '\n' || ('\t' ≤ c && c ≤ '\r')

def skip (input : Octets) : Octets := input.dropWhile isGap

/-- The number with an optional sign that a text begins with, and what follows. -/
def readInteger (read : Octets → Option (Nat × Octets)) (text : Octets) : Option (Int × Octets) :=
  match skip text with
  | '-' :: rest => (read rest).map fun n => (-(n.1 : Int), n.2)
  | '+' :: rest => (read rest).map fun n => ((n.1 : Int), n.2)
  | rest => (read rest).map fun n => ((n.1 : Int), n.2)

/-- A number between blanks that fits into a word. -/
def integer? (read : Octets → Option (Nat × Octets)) (text : Octets) : Option Int :=
  match readInteger read text with
  | some (n, rest) => if (skip rest).isEmpty && clamp n = n then some n else none
  | none => none

/-- The word without a sign that has the same bits. -/
def ofInt (n : Int) : Nat := (n % (size : Int)).toNat

end WorkerFleet.Text.Word
