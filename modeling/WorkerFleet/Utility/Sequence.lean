import WorkerFleet.Utility.Formatting
import WorkerFleet.Utility.Reading

/-!
# Sequences of numbers

`seq` counts in decimal fractions, without any rounding.
-/

namespace WorkerFleet.Utility

open Text

/-- A number with so many places. -/
structure Fraction where
  /-- In units of the last place. -/
  units : Int
  places : Nat
  /-- How it was written, without blanks. -/
  width : Nat
  deriving Repr

namespace Fraction

def scaled (f : Fraction) (places : Nat) : Int :=
  f.units * (Real.powerOfTen (places - f.places) : Nat)

/-- A number in decimal notation, perhaps with an exponent. -/
def read? (text : Octets) : Option Fraction :=
  let text := text.dropWhile fun c => c == ' ' || c == '\t'
  let (negative, rest) :=
    match text with
    | '-' :: rest => (true, rest)
    | '+' :: rest => (false, rest)
    | rest => (false, rest)
  match Real.readDigits 10 rest with
  | none => none
  | some (n, places, rest) =>
    let (e, after) := Real.readExponent ['e', 'E'] rest
    if !after.isEmpty then none
    else
      let kept : Int := (places : Int) - e
      let n := n * Real.powerOfTen (-kept).toNat
      some ⟨if negative then -(n : Int) else n, kept.toNat, text.length⟩

end Fraction

/-- A number in units of its last place. -/
def decimalText (places : Nat) (units : Int) : Octets :=
  (if units < 0 then ['-'] else []) ++ Real.withPoint places units.natAbs

/-- Filled up with zeros behind the sign. -/
def padSigned (width : Nat) (text : Octets) : Octets :=
  match text with
  | '-' :: rest => '-' :: List.replicate (width - text.length) '0' ++ rest
  | text => List.replicate (width - text.length) '0' ++ text

/-- How the numbers are shown. -/
structure Counting where
  separator : Octets := ['\n']
  isEven : Bool := false
  format : Option Octets := none

/-- What the numbers of a sequence are shown with: what stands in front, a directive, and what
stands behind. -/
def numberFormat (format : Octets) : Program (Octets × Format.Directive × Octets) := do
  let front := format.takeWhile (· != '%')
  match format.drop front.length with
  | [] => die 1 ("format " ++ quote format ++ " has no % directive")
  | _ :: rest =>
    match Format.directive false ['L'] rest [] with
    | (some d, behind, _, _) =>
      if "aefgAEFG".toList.contains d.letter then return (front, d, behind)
      else die 1 ("format " ++ quote format ++ " has unknown %" ++ d.letter.toString ++ " directive")
    | (none, _, _, _) => die 1 ("format " ++ quote format ++ " ends in %")

def realOf (places : Nat) (units : Int) : Text.Real :=
  .finite (decide (units < 0))
    (Real.roundTo 64 ⟨units.natAbs, Real.powerOfTen places⟩)

def seq (args : List Octets) : Program Unit := do
  -- A negative number is no option.
  let isNumber (arg : Octets) : Bool :=
    match arg with
    | '-' :: c :: _ => c.isDigit || c == '.'
    | _ => false
  let options := args.takeWhile fun arg => !isNumber arg
  let (c, front) ← readOptions
    [setting 'f' "format", setting 's' "separator", flag 'w' "equal-width"] false 1
    ({} : Counting) (fun c g => pure (match g.key with
      | "f" => { c with format := some g.value }
      | "s" => { c with separator := g.value }
      | _ => { c with isEven := true })) options
  let operands := front ++ args.drop options.length
  let number (text : Octets) : Program Fraction := do
    match Fraction.read? text with
    | some f => return f
    | none => misuse 1 ("invalid floating point argument: " ++ quote text)
  let one : Fraction := ⟨1, 0, 1⟩
  match operands with
  | [] => misuse 1 "missing operand"
  | _ :: _ :: _ :: extra :: _ => misuse 1 ("extra operand " ++ quote extra)
  | operands =>
    let format ← c.format.mapM numberFormat
    let numbers ← operands.mapM number
    let (first, step, last) :=
      match numbers with
      | [last] => (one, one, last)
      | [first, last] => (first, one, last)
      | first :: step :: last :: _ => (first, step, last)
      | [] => (one, one, one)
    if step.units = 0 then
      misuse 1 ("invalid Zero increment value: " ++ quote ((operands.drop 1).headD []))
    let places := max first.places step.places
    let scale := max places last.places
    let (a, d, b) := (first.scaled scale, step.scaled scale, last.scaled scale)
    let count := if 0 < d then (if b < a then 0 else (b - a) / d + 1)
      else (if a < b then 0 else (a - b) / (-d) + 1)
    let shrink (n : Int) : Int := n.tdiv (Real.powerOfTen (scale - places) : Nat)
    let width := max (decimalText places (shrink a)).length (decimalText places (shrink b)).length
    let shown (n : Int) : Octets :=
      match format with
      | some (front, d, behind) => front ++ d.ofReal longDialect (realOf scale n) ++ behind
      | none =>
        let text := decimalText places (shrink n)
        if c.isEven then padSigned width text else text
    let texts := (List.range count.toNat).map fun (i : Nat) => shown (a + d * (i : Int))
    if !texts.isEmpty then print (c.separator.intercalate texts ++ ['\n'])

end WorkerFleet.Utility
