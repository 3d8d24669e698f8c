import WorkerFleet.Octets
import WorkerFleet.Text.Real
import WorkerFleet.Text.Word

/-!
# Formatted output

A format is a text with escapes and directives; each directive takes an argument, and the format is
used again as long as arguments are left. Programs differ in the escapes and directives that they
know, which a dialect tells.
-/

namespace WorkerFleet.Text.Format

open Octets

def octalValue (digits : Octets) : Nat :=
  digits.foldl (fun n c => n * 8 + (c.toNat - '0'.toNat)) 0

def isOctal (c : Char) : Bool := '0' ≤ c && c ≤ '7'

def byte (n : Nat) : Char := Char.ofNat (n % 256)

/-- The character of a one-letter escape. -/
def letter? (c : Char) : Option Char :=
  [('a', '\x07'), ('b', '\x08'), ('f', '\x0c'), ('n', '\n'), ('r', '\r'), ('t', '\t'),
   ('v', '\x0b'), ('e', '\x1b'), ('\\', '\\')].lookup c

/-- What an escape stands for. -/
inductive Escape
  | char (c : Char)
  /-- The output ends here. -/
  | stop
  deriving DecidableEq, Repr

/-- Which escapes there are. -/
structure Escaping where
  /-- The output may be ended. -/
  hasStop : Bool := true
  /-- A zero may stand in front of three more octal digits. -/
  hasZero : Bool
  /-- There are hexadecimal escapes. -/
  hasHex : Bool
  /-- A double quote may be escaped. -/
  hasQuote : Bool := false
  /-- Characters may be given by their code points. -/
  hasCode : Bool := false
  deriving DecidableEq, Repr

/-- The escape whose text behind the backslash is given, and what follows it. -/
def Escaping.read (e : Escaping) (text : Octets) : Option (Escape × Octets) :=
  match text with
  | [] => none
  | c :: rest =>
    if c = 'c' && e.hasStop then some (.stop, [])
    else if isOctal c then
      let input := if e.hasZero && c = '0' && rest.head?.any isOctal then rest else text
      let digits := (input.take 3).takeWhile isOctal
      some (.char (byte (octalValue digits)), input.drop digits.length)
    else if c = 'x' && e.hasHex then
      let digits := (rest.take 2).takeWhile fun d => Word.digitValue d < 16
      if digits.isEmpty then none
      else
        some (.char (byte (digits.foldl (fun n d => n * 16 + Word.digitValue d) 0)),
          rest.drop digits.length)
    else if (c = 'u' || c = 'U') && e.hasCode then
      let size := if c = 'u' then 4 else 8
      let digits := (rest.take size).takeWhile fun d => Word.digitValue d < 16
      let n := digits.foldl (fun n d => n * 16 + Word.digitValue d) 0
      if digits.length < size || 128 ≤ n then none
      else some (.char (Char.ofNat n), rest.drop size)
    else if c = '"' && e.hasQuote then some (.char c, rest)
    else (letter? c).map fun d => (.char d, rest)

/-- Resolves the escapes of a text; the answer tells also whether the output ends there. Unknown
ones stay as they are. -/
def Escaping.unescape (e : Escaping) : (fuel : Nat) → Octets → Octets × Bool
  | 0, _ => ([], false)
  | _ + 1, [] => ([], false)
  | fuel + 1, '\\' :: rest =>
    match e.read rest with
    | some (.stop, _) => ([], true)
    | some (.char c, rest) =>
      let more := e.unescape fuel rest
      (c :: more.1, more.2)
    | none =>
      let more := e.unescape fuel (rest.drop 1)
      ('\\' :: rest.take 1 ++ more.1, more.2)
  | fuel + 1, c :: rest =>
    let more := e.unescape fuel rest
    (c :: more.1, more.2)

def Escaping.resolve (e : Escaping) (text : Octets) : Octets × Bool :=
  e.unescape (text.length + 1) text

/-- What may be wrong with a format or an argument. -/
inductive Fault
  | notANumber (arg : Octets)
  | leftOver (arg : Octets)
  | outOfRange (arg : Octets)
  /-- Characters behind the one that a quote asks for. -/
  | ignored (rest : Octets)
  | noLetter (directive : Octets)
  | unknown (directive : Octets)
  deriving DecidableEq, Repr

/-- A fault of the format ends the output, one of an argument does not. -/
def Fault.isFatal : Fault → Bool
  | .noLetter _ | .unknown _ => true
  | _ => false

/-- How a program reads formats. -/
structure Dialect where
  format : Escaping
  argument : Escaping
  /-- The significant binary digits of its fractions. -/
  bits : Nat
  /-- How many of them the first hexadecimal digit shows. -/
  lead : Nat
  /-- Letters between a directive and its own letter that mean nothing. -/
  modifiers : List Char
  /-- What else a directive may make of its argument. -/
  quote? : Option (Octets → Octets)
  /-- Whether characters behind a quoted one are a fault. -/
  minds : Bool

/-- The number that an argument begins with, and what is wrong with it. One behind a quote is that
of the character. -/
def numeral (minds : Bool) (arg : Octets) : Int × List Fault :=
  match arg with
  | '\'' :: c :: rest | '"' :: c :: rest =>
    (c.toNat, if minds && !rest.isEmpty then [.ignored rest] else [])
  | [] => (0, [])
  | arg =>
    match Word.readInteger Word.readNatural arg with
    | none => (0, [.notANumber arg])
    | some (n, rest) => (n, if rest.isEmpty then [] else [.leftOver arg])

/-- The number that fits, next to one that need not. -/
def fitted (minds : Bool) (lowest highest : Int) (arg : Octets) : Int × List Fault :=
  let (n, faults) := numeral minds arg
  let inside := max lowest (min highest n)
  (inside, if inside ≠ n then [.outOfRange arg] else faults)

def signed (minds : Bool) (arg : Octets) : Int × List Fault :=
  fitted minds Word.lowest Word.highest arg

def unsigned (minds : Bool) (arg : Octets) : Nat × List Fault :=
  let (n, faults) := fitted minds (-18446744073709551615) 18446744073709551615 arg
  (Word.ofInt n, faults)

/-- The fraction that an argument begins with, and what is wrong with it. -/
def fraction (d : Dialect) (arg : Octets) : Real × List Fault :=
  let whole (n : Nat) : Real := .finite false ⟨n, 1⟩
  match arg with
  | '\'' :: c :: rest | '"' :: c :: rest =>
    (whole c.toNat, if d.minds && !rest.isEmpty then [.ignored rest] else [])
  | [] => (whole 0, [])
  | arg =>
    match Real.read d.bits (Word.skip arg) with
    | none => (whole 0, [.notANumber arg])
    | some (x, rest) => (x, if rest.isEmpty then [] else [.leftOver arg])

/-- One directive of a format: flags, width, precision and its letter. -/
structure Directive where
  flags : Octets
  width : Nat
  precision : Option Nat
  letter : Char
  deriving DecidableEq, Repr

/-- A width or precision, or that an argument gives it; and what follows. -/
def readAmount (input : Octets) : (Option Nat ⊕ Unit) × Octets :=
  match input with
  | '*' :: rest => (.inr (), rest)
  | input =>
    let digits := input.takeWhile Char.isDigit
    (.inl (if digits.isEmpty then none else some (number digits)), input.drop digits.length)

/-- What stands behind a percent sign: a directive, unless it has no letter, with what follows, the
arguments that are left and the faults of those that were taken. -/
def directive (minds : Bool) (modifiers : List Char) (input : Octets) (args : List Octets) :
    Option Directive × Octets × List Octets × List Fault :=
  let flags := input.takeWhile "-0+ #".toList.contains
  let take (amount : Option Nat ⊕ Unit) (args : List Octets) :
      Option Int × List Octets × List Fault :=
    match amount with
    | .inl n => (n.map Int.ofNat, args, [])
    | .inr () =>
      let (n, faults) := signed minds (args.headD [])
      (some n, args.drop 1, faults)
  let (amount, rest) := readAmount (input.drop flags.length)
  let (width, args, faults) := take amount args
  let (precision, rest, args, more) :=
    match rest with
    | '.' :: rest =>
      let (amount, rest) := readAmount rest
      let (precision, args, more) := take amount args
      (some (precision.getD 0), rest, args, more)
    | rest => (none, rest, args, [])
  let width := width.getD 0
  let flags := if width < 0 then '-' :: flags else flags
  let precision := precision.bind fun n => if n < 0 then none else some n.toNat
  match rest.dropWhile modifiers.contains with
  | c :: rest => (some ⟨flags, width.natAbs, precision, c⟩, rest, args, faults ++ more)
  | [] => (none, [], args, faults ++ more)

namespace Directive

/-- Fills up with blanks. -/
def pad (d : Directive) (text : Octets) : Octets :=
  let fill := List.replicate (d.width - text.length) ' '
  if d.flags.contains '-' then text ++ fill else fill ++ text

def shorten (d : Directive) (text : Octets) : Octets :=
  match d.precision with
  | some n => text.take n
  | none => text

/-- Fills up with zeros to the width if a flag asks for it, behind a sign or a mark. -/
def padZeros (d : Directive) (front digits : Octets) : Octets :=
  let size :=
    if d.flags.contains '0' && !d.flags.contains '-' then d.width - front.length else 0
  d.pad (front ++ List.replicate (size - digits.length) '0' ++ digits)

/-- Digits with a sign or a mark of their base in front. They are filled up with zeros to the
precision or else, if a flag asks for it, to the width. -/
def padDigits (d : Directive) (front digits : Octets) : Octets :=
  match d.precision with
  | some n =>
    let digits := if n = 0 && digits = ['0'] then [] else digits
    d.pad (front ++ List.replicate (n - digits.length) '0' ++ digits)
  | none => d.padZeros front digits

/-- What is put in front of a number. -/
def sign (d : Directive) (isNegative : Bool) : Octets :=
  if isNegative then ['-']
  else if d.flags.contains '+' then ['+']
  else if d.flags.contains ' ' then [' ']
  else []

/-- A fraction in the form that the letter asks for. -/
def ofReal (d : Directive) (dialect : Dialect) (x : Real) : Octets :=
  let front := d.sign x.isNegative
  let isUpper := d.letter.isUpper
  let text (s : Octets) : Octets := if isUpper then s.map Char.toUpper else s
  match x with
  | .infinite _ => d.pad (text (front ++ "inf".toList))
  | .notANumber _ => d.pad (text (front ++ "nan".toList))
  | .finite _ size =>
    let places := d.precision.getD 6
    let shown := match d.letter.toLower with
      | 'f' => Real.fixed places size
      | 'e' => Real.scientific places size
      | 'a' => Real.hexadecimal dialect.bits dialect.lead size
      | _ => Real.general places (d.flags.contains '#') size
    d.padZeros front (text shown)

/-- What a directive makes of an argument, whether the output ends with that, and what is wrong;
nothing if the letter is unknown. -/
def apply (d : Directive) (dialect : Dialect) (arg : Octets) :
    Option (Octets × Bool × List Fault) :=
  let ofDigits (base : Nat) (mark : Nat → Octets) : Octets × Bool × List Fault :=
    let (n, faults) := unsigned dialect.minds arg
    (d.padDigits (mark n) (Nat.toDigits base n), false, faults)
  let marked (mark : String) (n : Nat) : Octets :=
    if d.flags.contains '#' && n ≠ 0 then mark.toList else []
  match d.letter with
  | 's' => some (d.pad (d.shorten arg), false, [])
  | 'b' =>
    let (text, ended) := dialect.argument.resolve arg
    some (d.pad (d.shorten text), ended, [])
  | 'c' => some (d.pad (if arg.isEmpty then ['\x00'] else arg.take 1), false, [])
  | 'd' | 'i' =>
    let (n, faults) := signed dialect.minds arg
    some (d.padDigits (d.sign (decide (n < 0))) (Nat.toDigits 10 n.natAbs), false, faults)
  | 'u' => some (ofDigits 10 fun _ => [])
  | 'o' => some (ofDigits 8 (marked "0"))
  | 'x' => some (ofDigits 16 (marked "0x"))
  | 'X' =>
    let (text, ended, faults) := ofDigits 16 (marked "0X")
    some (text.map Char.toUpper, ended, faults)
  | 'q' => dialect.quote?.map fun quote => (quote arg, false, [])
  | letter =>
    if "aAeEfFgG".toList.contains letter then
      let (x, faults) := fraction dialect arg
      some (d.ofReal dialect x, false, faults)
    else none

end Directive

/-- What a pass through a format gives, and the arguments that it leaves. -/
structure Output where
  text : Octets
  rest : List Octets
  ended : Bool
  faults : List Fault
  deriving Inhabited

/-- Puts something in front. -/
def Output.after (more : Output) (text : Octets) : Output := { more with text := text ++ more.text }

/-- One pass through the format; arguments that are missing are empty. -/
def pass (dialect : Dialect) : (fuel : Nat) → Octets → List Octets → Output
  | 0, _, args => ⟨[], args, true, []⟩
  | _ + 1, [], args => ⟨[], args, false, []⟩
  | fuel + 1, '%' :: '%' :: rest, args => (pass dialect fuel rest args).after ['%']
  | fuel + 1, '%' :: rest, args =>
    match directive dialect.minds dialect.modifiers rest args with
    | (none, left, args, faults) =>
      ⟨[], args, true, faults ++ [.noLetter ('%' :: rest.take (rest.length - left.length))]⟩
    | (some d, left, args, faults) =>
      match d.apply dialect (args.headD []) with
      | none =>
        ⟨[], args, true, faults ++ [.unknown ('%' :: rest.take (rest.length - left.length))]⟩
      | some (text, true, more) => ⟨text, args.drop 1, true, faults ++ more⟩
      | some (text, false, more) =>
        let out := pass dialect fuel left (args.drop 1)
        { out.after text with faults := faults ++ more ++ out.faults }
  | fuel + 1, '\\' :: rest, args =>
    match dialect.format.read rest with
    | some (.stop, _) => ⟨[], args, true, []⟩
    | some (.char c, rest) => (pass dialect fuel rest args).after [c]
    | none => (pass dialect fuel (rest.drop 1) args).after ('\\' :: rest.take 1)
  | fuel + 1, c :: rest, args => (pass dialect fuel rest args).after [c]

/-- The format is used again as long as it takes arguments and some are left. -/
def repeated (dialect : Dialect) (format : Octets) : (fuel : Nat) → List Octets → Output
  | 0, args => ⟨[], args, true, []⟩
  | fuel + 1, args =>
    let out := pass dialect (format.length + 1) format args
    if out.ended || out.rest.isEmpty || out.rest.length = args.length then out
    else
      let more := repeated dialect format fuel out.rest
      { more.after out.text with faults := out.faults ++ more.faults }

/-- The output of a format with its arguments, and what was wrong. -/
def run (dialect : Dialect) (format : Octets) (args : List Octets) : Output :=
  repeated dialect format (args.length + 1) args

end WorkerFleet.Text.Format
