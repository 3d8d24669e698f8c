import WorkerFleet.Text.Binary64

/-!
# Real numbers in texts

Decimal and hexadecimal fractions are read as the nearest number with so many significant binary
digits, and written with so many places, correctly rounded. Nothing is lost on the way but what
rounding takes.
-/

namespace WorkerFleet.Text

/-- A number as programs compute with it. -/
inductive Real
  | finite (isNegative : Bool) (size : Ratio)
  | infinite (isNegative : Bool)
  | notANumber (isNegative : Bool)
  deriving DecidableEq, Repr

namespace Real

/-- Ten times itself so often. -/
def powerOfTen : Nat → Nat
  | 0 => 1
  | n + 1 => 10 * powerOfTen n

/-- The binary exponent of a positive fraction: the power of two that it reaches but not the next. -/
def exponentOf (p : Ratio) : Int :=
  let k : Int := (Nat.log2 p.num : Int) - Nat.log2 p.den
  if Ratio.lt p ⟨1 <<< k.toNat, 1 <<< (-k).toNat⟩ then k - 1 else k

/-- The nearest fraction with so many significant binary digits. -/
def roundTo (bits : Nat) (p : Ratio) : Ratio :=
  if p.num = 0 then ⟨0, 1⟩
  else
    let shift : Int := (bits : Int) - 1 - exponentOf p
    ⟨Ratio.nearest (p.num <<< shift.toNat) (p.den <<< (-shift).toNat) <<< (-shift).toNat,
      1 <<< shift.toNat⟩

def isNegative : Real → Bool
  | .finite negative _ | .infinite negative | .notANumber negative => negative

/-- Exponents beyond this are as good as infinite. -/
def exponentLimit : Nat := 6000

def digitOf (c : Char) : Nat :=
  if c.isDigit then c.toNat - '0'.toNat
  else if 'a' ≤ c && c ≤ 'f' then c.toNat - 'a'.toNat + 10
  else if 'A' ≤ c && c ≤ 'F' then c.toNat - 'A'.toNat + 10
  else 99

/-- The digits at the front, with those behind a point. -/
def readDigits (base : Nat) (text : List Char) : Option (Nat × Nat × List Char) :=
  let isDigit (c : Char) : Bool := digitOf c < base
  let value (n : Nat) (digits : List Char) : Nat :=
    digits.foldl (fun n c => n * base + digitOf c) n
  let whole := text.takeWhile isDigit
  let places :=
    match text.drop whole.length with
    | '.' :: rest => rest.takeWhile isDigit
    | _ => []
  let pointed := (text.drop whole.length).head? == some '.'
  if whole.isEmpty && places.isEmpty then none
  else
    some (value (value 0 whole) places, places.length,
      text.drop (whole.length + places.length + if pointed then 1 else 0))

/-- The exponent behind its mark. -/
def readExponent (marks : List Char) (text : List Char) : Int × List Char :=
  match text with
  | mark :: rest =>
    if !marks.contains mark then (0, text)
    else
      let (negative, digits) :=
        match rest with
        | '-' :: more => (true, more)
        | '+' :: more => (false, more)
        | more => (false, more)
      let found := digits.takeWhile Char.isDigit
      if found.isEmpty then (0, text)
      else
        let n := min exponentLimit (found.foldl (fun n c => n * 10 + (c.toNat - '0'.toNat)) 0)
        (if negative then -(n : Int) else n, digits.drop found.length)
  | [] => (0, [])

/-- The words for numbers without digits. -/
def words : List (String × (Bool → Real)) :=
  [("infinity", .infinite), ("inf", .infinite), ("nan", .notANumber)]

/-- The number without sign at the front of a text, and what follows. -/
def readSize (bits : Nat) (isNegative : Bool) (text : List Char) : Option (Real × List Char) :=
  let lower := text.map Char.toLower
  match words.find? fun w => w.1.toList.isPrefixOf lower with
  | some (word, value) => some (value isNegative, text.drop word.length)
  | none =>
    let hexadecimal? : Option (Real × List Char) :=
      match text with
      | '0' :: x :: rest =>
        if x = 'x' || x = 'X' then do
          let (n, places, rest) ← readDigits 16 rest
          let (e, rest) := readExponent ['p', 'P'] rest
          let e := e - 4 * places
          some (.finite isNegative (roundTo bits ⟨n <<< e.toNat, 1 <<< (-e).toNat⟩), rest)
        else none
      | _ => none
    hexadecimal?.orElse fun _ => do
      let (n, places, rest) ← readDigits 10 text
      let (e, rest) := readExponent ['e', 'E'] rest
      let e := e - places
      some (.finite isNegative
        (roundTo bits ⟨n * powerOfTen e.toNat, powerOfTen (-e).toNat⟩), rest)

/-- The number at the front of a text that does not begin with a blank, and what follows. -/
def read (bits : Nat) (text : List Char) : Option (Real × List Char) :=
  match text with
  | '-' :: rest => readSize bits true rest
  | '+' :: rest => readSize bits false rest
  | rest => readSize bits false rest

/-- Digits with a point before the last so many of them. -/
def withPoint (places n : Nat) : List Char :=
  let digits := Nat.toDigits 10 n
  let digits := List.replicate (places + 1 - digits.length) '0' ++ digits
  if places = 0 then digits
  else digits.take (digits.length - places) ++ '.' :: digits.drop (digits.length - places)

/-- A size with so many places. -/
def fixed (places : Nat) (p : Ratio) : List Char :=
  withPoint places (Ratio.nearest (p.num * powerOfTen places) p.den)

/-- The decimal exponent of a size, found from an estimate on. -/
def decimalExponent (p : Ratio) : Int :=
  let estimate : Int := ((Nat.toDigits 10 p.num).length : Int) - (Nat.toDigits 10 p.den).length
  if Ratio.lt p ⟨powerOfTen estimate.toNat, powerOfTen (-estimate).toNat⟩ then estimate - 1
  else estimate

/-- The digits of a size, one before the point, and the exponent that goes with them. -/
def significant (places : Nat) (p : Ratio) : Nat × Int :=
  if p.num = 0 then (0, 0)
  else
    let x := decimalExponent p
    let shift : Int := places - x
    let n := Ratio.nearest (p.num * powerOfTen shift.toNat) (p.den * powerOfTen (-shift).toNat)
    if n < powerOfTen (places + 1) then (n, x) else (n / 10, x + 1)

def exponentText (x : Int) : List Char :=
  let digits := Nat.toDigits 10 x.natAbs
  'e' :: (if x < 0 then '-' else '+') :: List.replicate (2 - digits.length) '0' ++ digits

/-- A size with one digit before the point and so many behind it. -/
def scientific (places : Nat) (p : Ratio) : List Char :=
  let (n, x) := significant places p
  withPoint places n ++ exponentText x

/-- Without the zeros at the end of its places. -/
def trimZeros (text : List Char) : List Char :=
  if !text.contains '.' then text
  else
    match text.reverse.dropWhile (· == '0') with
    | '.' :: rest => rest.reverse
    | rest => rest.reverse

/-- A size with so many significant digits, in the shorter of the two forms. -/
def general (digits : Nat) (keepZeros : Bool) (p : Ratio) : List Char :=
  let digits := max 1 digits
  let (n, x) := significant (digits - 1) p
  let trim (text : List Char) : List Char := if keepZeros then text else trimZeros text
  if -4 ≤ x && x < (digits : Int) then trim (fixed ((digits : Int) - 1 - x).toNat p)
  else trim (withPoint (digits - 1) n) ++ exponentText x

/-- A size in hexadecimal digits; the first one has `lead` of its bits. -/
def hexadecimal (bits lead : Nat) (p : Ratio) : List Char :=
  if p.num = 0 then "0x0p+0".toList
  else
    let shift : Int := (bits : Int) - 1 - exponentOf p
    let n := Ratio.nearest (p.num <<< shift.toNat) (p.den <<< (-shift).toNat)
    let places := ((Nat.toDigits 16 n).drop 1).reverse.dropWhile (· == '0')
    let x : Int := (bits : Int) - lead - shift
    "0x".toList ++ (Nat.toDigits 16 n).take 1 ++
      (if places.isEmpty then [] else '.' :: places.reverse) ++
      'p' :: (if x < 0 then '-' else '+') :: Nat.toDigits 10 x.natAbs

end Real

end WorkerFleet.Text
