import WorkerFleet.Text.Regex
import WorkerFleet.Utility.Printing

/-!
# Expressions

`expr` computes with whole numbers of any size, compares and takes texts apart. Its arguments are
the words of the expression.
-/

namespace WorkerFleet.Utility.Computing

open Host Text

/-- The operators, those that bind least in front. -/
def operators : List (List String) :=
  [["|"], ["&"], ["<", "<=", "=", "==", "!=", ">=", ">"], ["+", "-"], ["*", "/", "%"], [":"]]

/-- The words that are left, and the last one that was used. -/
structure Words where
  last : Octets := []
  rest : List Octets

namespace Words

def next? (w : Words) : Option Octets := w.rest.head?

def isAt (w : Words) (text : String) : Bool := w.next? == some text.toList

def past (w : Words) : Words := ⟨w.rest.headD w.last, w.rest.drop 1⟩

end Words

def misread {α : Type} (message : String) : Program α := die 2 ("syntax error: " ++ message)

def needMore (w : Words) : Program Unit := do
  if w.rest.isEmpty then misread ("missing argument after " ++ quote w.last)

def integer? (text : Octets) : Option Int :=
  match text with
  | '-' :: digits =>
    if !digits.isEmpty && digits.all Char.isDigit then some (-(Octets.number digits : Int)) else none
  | digits =>
    if !digits.isEmpty && digits.all Char.isDigit then some (Octets.number digits) else none

def integer (text : Octets) : Program Int := do
  match integer? text with
  | some n => return n
  | none => die 2 "non-integer argument"

def ofInt (n : Int) : Octets := Decimal.ofInt n

/-- Whether a value counts as false. -/
def isNull (text : Octets) : Bool :=
  let digits := if text.head? == some '-' then text.drop 1 else text
  text.isEmpty || (!digits.isEmpty && digits.all (· == '0'))

def ofBool (b : Bool) : Octets := if b then ['1'] else ['0']

/-- Compares numbers as such and other texts by their octets. -/
def compares (op : String) (a b : Octets) : Bool :=
  let isLess : Bool :=
    match integer? a, integer? b with
    | some m, some n => decide (m < n)
    | _, _ => decide (a < b)
  let isSame : Bool :=
    match integer? a, integer? b with
    | some m, some n => m == n
    | _, _ => a == b
  match op with
  | "<" => isLess
  | "<=" => isLess || isSame
  | "=" | "==" => isSame
  | "!=" => !isSame
  | ">=" => !isLess
  | _ => !isLess && !isSame

/-- Matches an expression at the front of a text: gives what its first group matched, or the size of
the match. -/
def matchFront (text pattern : Octets) : Program Octets := do
  match Regex.read false pattern with
  | .error fault => die 2 fault.message
  | .ok (r, groups) =>
    let view : Regex.View := { text := text.toArray, ignoresCase := false, hasLines := true }
    match r.matchAt? view 0 with
    | none => return if groups = 0 then ['0'] else []
    | some p => return if groups = 0 then digits p.place else Regex.groupText view 0 p 1

/-- The value of two operands. -/
def combine (op : String) (a b : Octets) : Program Octets := do
  match op with
  | "|" => return if !isNull a then a else if isNull b then ['0'] else b
  | "&" => return if isNull a || isNull b then ['0'] else a
  | ":" => matchFront a b
  | "+" => return ofInt ((← integer a) + (← integer b))
  | "-" => return ofInt ((← integer a) - (← integer b))
  | "*" => return ofInt ((← integer a) * (← integer b))
  | "/" | "%" =>
    let m ← integer a
    let n ← integer b
    if n = 0 then die 2 "division by zero"
    else return ofInt (if op = "/" then m.tdiv n else m.tmod n)
  | op => return ofBool (compares op a b)

/-- The part of a text from a place on, with a size. -/
def portion (text first size : Octets) : Octets :=
  match integer? first, integer? size with
  | some i, some n => if 0 < i && 0 < n then (text.drop (i.toNat - 1)).take n.toNat else []
  | _, _ => []

/-- The place of the first character that is one of several. -/
def firstOf (text chars : Octets) : Octets :=
  let before := (text.takeWhile fun c => !chars.contains c).length
  digits (if before < text.length then before + 1 else 0)

mutual

/-- An expression of operators of one level and those that bind more. What cannot count is read but
not computed. -/
def value : (fuel : Nat) → (level : Nat) → (counts : Bool) → Words → Program (Octets × Words)
  | 0, _, _, w => return ([], w)
  | fuel + 1, level, counts, w => do
    match operators[level]? with
    | none => primary fuel counts w
    | some ops =>
      let (a, w) ← value fuel (level + 1) counts w
      chain fuel level ops counts a w

def chain : Nat → Nat → List String → Bool → Octets → Words → Program (Octets × Words)
  | 0, _, _, _, a, w => return (a, w)
  | fuel + 1, level, ops, counts, a, w => do
    match (w.next?.map shown).filter ops.contains with
    | none => return (a, w)
    | some op =>
      let needed := counts && (op ≠ "|" || isNull a) && (op ≠ "&" || !isNull a)
      let (b, w) ← value fuel (level + 1) needed w.past
      let result ← if counts then (if needed then combine op a b
        else pure (if op = "&" then ['0'] else a)) else pure a
      chain fuel level ops counts result w

/-- A word, a part in parentheses or a function with its operands. -/
def primary : Nat → Bool → Words → Program (Octets × Words)
  | 0, _, w => return ([], w)
  | fuel + 1, counts, w => do
    needMore w
    match shown (w.next?.getD []) with
    | "+" =>
      needMore w.past
      return (w.past.next?.getD [], w.past.past)
    | "length" =>
      let (text, w) ← primary fuel counts w.past
      return (digits text.length, w)
    | "match" =>
      let (text, w) ← primary fuel counts w.past
      let (pattern, w) ← primary fuel counts w
      return (← if counts then matchFront text pattern else pure text, w)
    | "index" =>
      let (text, w) ← primary fuel counts w.past
      let (chars, w) ← primary fuel counts w
      return (firstOf text chars, w)
    | "substr" =>
      let (text, w) ← primary fuel counts w.past
      let (first, w) ← primary fuel counts w
      let (size, w) ← primary fuel counts w
      return (portion text first size, w)
    | "(" =>
      let (a, w) ← value fuel 0 counts w.past
      match w.next? with
      | none => misread ("expecting ')' after " ++ quote w.last)
      | some [')'] => return (a, w.past)
      | some found => misread ("expecting ')' instead of " ++ quote found)
    | ")" => misread "unexpected ')'"
    | _ => return (w.next?.getD [], w.past)

end

end Computing

open Computing in
def expr (args : List Octets) : Program Unit := do
  let args := if args.head? = some "--".toList then args.drop 1 else args
  if args.isEmpty then misuse 2 "missing operand"
  else
    let (a, w) ← value (16 * args.length + 32) 0 true { rest := args }
    match w.next? with
    | some extra => misread ("unexpected argument " ++ quote extra)
    | none =>
      printLine a
      worsen (if isNull a then 1 else 0)

end WorkerFleet.Utility
