import WorkerFleet.Utility.Printing

/-!
# The `test` of the machine

How many arguments there are decides how they are read, up to four of them. What does not fit is told
with the argument at which that shows.
-/

namespace WorkerFleet.Utility.Deciding

open Host Text

/-- The arguments, and how many of them have been used. -/
structure Place where
  args : List Octets
  used : Nat := 0

namespace Place

def rest (p : Place) : List Octets := p.args.drop p.used

def next (p : Place) : Octets := p.rest.headD []

def isAt (p : Place) (text : String) : Bool := p.rest.head? == some text.toList

def past (p : Place) (count : Nat) : Place := { p with used := p.used + count }

end Place

/-- Something is wrong with the arguments. -/
def misread {α : Type} (message : String) : Program α := die 2 message

/-- An argument is missing behind the last one. -/
def lacking {α : Type} (p : Place) : Program α :=
  misread ("missing argument after " ++ quote (p.args.getLastD []))

def number (text : Octets) : Program Int := do
  match Word.readInteger (Word.readDigits 10) text with
  | some (n, rest) =>
    if (rest.dropWhile fun c => c == ' ' || c == '\t').isEmpty then return n
    else misread ("invalid integer " ++ quote text)
  | none => misread ("invalid integer " ++ quote text)

def asking (file : Octets) (follow : Bool) (ask : Status → Bool) : Program Bool := do
  return (← status? file follow).toOption.any ask

/-- What a letter behind a dash asks of its operand. -/
def unaryOps : List (Char × (Octets → Program Bool)) :=
  let ofFile (ask : Status → Bool) (file : Octets) : Program Bool := asking file true ask
  [('e', ofFile fun _ => true), ('r', ofFile (·.permissions.read)),
   ('w', ofFile (·.permissions.write)), ('x', ofFile (·.permissions.execute)),
   ('N', ofFile fun _ => false), ('O', ofFile (·.permissions.write)),
   ('G', ofFile (·.permissions.write)), ('f', ofFile (·.isKind .file)),
   ('d', ofFile (·.isKind .directory)), ('s', ofFile (0 < ·.size)), ('S', ofFile fun _ => false),
   ('c', ofFile (·.isKind .device)), ('b', ofFile fun _ => false), ('p', ofFile (·.isKind .fifo)),
   ('L', fun file => asking file false (·.isKind .symlink)),
   ('h', fun file => asking file false (·.isKind .symlink)),
   ('u', ofFile fun s => s.mode &&& 0o4000 ≠ 0), ('g', ofFile fun s => s.mode &&& 0o2000 ≠ 0),
   ('k', ofFile fun s => s.mode &&& 0o1000 ≠ 0),
   ('t', fun text => do
      let _ ← number text
      return false),
   ('n', fun text => return !text.isEmpty), ('z', fun text => return text.isEmpty)]

/-- What an operator between two operands asks of them. -/
def binaryOps : List (String × (Octets → Octets → Program Bool)) :=
  let ofNumbers (holds : Int → Int → Bool) (a b : Octets) : Program Bool := do
    let a ← number a
    let b ← number b
    return holds a b
  let isNewer (a b : Octets) : Program Bool := do
    let a ← status? a true
    let b ← status? b true
    return a.toOption.any fun a => b.toOption.all fun b => a.isNewer b
  [("=", fun a b => return a == b), ("==", fun a b => return a == b),
   ("!=", fun a b => return a != b), ("-nt", isNewer), ("-ot", fun a b => isNewer b a),
   ("-ef", fun a b => do
      let b ← status? b true
      asking a true fun a => b.toOption.any (·.identity == a.identity)),
   ("-eq", ofNumbers (· == ·)), ("-ne", ofNumbers (· != ·)),
   ("-lt", ofNumbers fun a b => decide (a < b)), ("-le", ofNumbers fun a b => decide (a ≤ b)),
   ("-gt", ofNumbers fun a b => decide (b < a)), ("-ge", ofNumbers fun a b => decide (b ≤ a))]

def binary? (text : Option Octets) : Option (Octets → Octets → Program Bool) :=
  text.bind fun text => binaryOps.lookup (shown text)

/-- Whether an argument may be an operator with one operand. -/
def isSwitch (text : Octets) : Bool := text.length = 2 && text.head? == some '-'

/-- What was found, and how far the arguments have been used. -/
abbrev Answer := Bool × Place

def oneArgument (p : Place) : Program Answer := return (!p.next.isEmpty, p.past 1)

def unary (p : Place) : Program Answer := do
  match (p.next.drop 1).head?.bind (List.lookup · unaryOps) with
  | none => misread (quote p.next ++ ": unary operator expected")
  | some ask =>
    match p.rest with
    | _ :: operand :: _ => return (← ask operand, p.past 2)
    | _ => lacking p

def binary (ask : Octets → Octets → Program Bool) (p : Place) : Program Answer := do
  match p.rest with
  | a :: _ :: b :: _ => return (← ask a b, p.past 3)
  | _ => lacking p

def negated (a : Program Answer) : Program Answer := do
  let (holds, p) ← a
  return (!holds, p)

def twoArguments (p : Place) : Program Answer := do
  if p.isAt "!" then negated (oneArgument (p.past 1))
  else if isSwitch p.next then unary p
  else lacking p

/-- Which of the operators that join conditions is looked for. -/
inductive Joint
  | or
  | and

mutual

/-- A condition that takes so many arguments, at least at first sight. -/
def condition : (fuel : Nat) → (count : Nat) → Place → Program Answer
  | 0, _, p => return (false, p)
  | fuel + 1, count, p => do
    match count with
    | 1 => oneArgument p
    | 2 => twoArguments p
    | 3 => threeArguments fuel p
    | 4 =>
      if p.isAt "!" then negated (threeArguments fuel (p.past 1))
      else if p.isAt "(" && (p.past 3).isAt ")" then
        let (holds, p) ← twoArguments (p.past 1)
        return (holds, p.past 1)
      else joined fuel .or p
    | _ => if p.rest.isEmpty then lacking p else joined fuel .or p

def threeArguments : Nat → Place → Program Answer
  | 0, p => return (false, p)
  | fuel + 1, p => do
    let middle := p.rest[1]?
    match binary? middle with
    | some ask => binary ask p
    | none =>
      if p.isAt "!" then negated (twoArguments (p.past 1))
      else if p.isAt "(" && (p.past 2).isAt ")" then
        let (holds, p) ← oneArgument (p.past 1)
        return (holds, p.past 1)
      else if middle = some "-a".toList || middle = some "-o".toList then joined fuel .or p
      else misread (quote (middle.getD []) ++ ": binary operator expected")

/-- Conditions that are joined; all of them are looked at. -/
def joined : Nat → Joint → Place → Program Answer
  | 0, _, p => return (false, p)
  | fuel + 1, joint, p => do
    match joint with
    | .or =>
      let (a, p) ← joined fuel .and p
      if p.isAt "-o" then
        let (b, p) ← joined fuel .or (p.past 1)
        return (a || b, p)
      else return (a, p)
    | .and =>
      let (a, p) ← term fuel p
      if p.isAt "-a" then
        let (b, p) ← joined fuel .and (p.past 1)
        return (a && b, p)
      else return (a, p)

def term : Nat → Place → Program Answer
  | 0, p => return (false, p)
  | fuel + 1, p => do
    if p.rest.isEmpty then lacking p
    else if p.isAt "!" then negated (term fuel (p.past 1))
    else if p.isAt "(" then
      let p := p.past 1
      if p.rest.isEmpty then lacking p
      let inner := ((p.rest.drop 1).takeWhile (· ≠ [')'])).length + 1
      let count := if 4 ≤ inner then p.rest.length else inner
      let (holds, p) ← condition fuel count p
      match p.rest with
      | [] => misread (quote [')'] ++ " expected")
      | found :: _ =>
        if found = [')'] then return (holds, p.past 1)
        else misread (quote [')'] ++ " expected, found " ++ quote found)
    else
      match p.rest with
      | l :: text :: op :: b :: _ =>
        match l == "-l".toList, binary? (some op) with
        | true, some ask =>
          return (← ask (digits text.length) b, p.past 4)
        | _, _ => simple p
      | _ => simple p

/-- A condition that has no others within it. -/
def simple (p : Place) : Program Answer := do
  match p.rest with
  | a :: op :: b :: _ =>
    match binary? (some op) with
    | some ask => return (← ask a b, p.past 3)
    | none => if isSwitch a then unary p else oneArgument p
  | _ => if isSwitch p.next then unary p else oneArgument p

end

/-- Decides about all arguments and ends with that. -/
def decideAll (args : List Octets) : Program Unit := do
  if args.isEmpty then worsen 1
  else
    let (holds, p) ← condition (8 * args.length + 16) args.length { args }
    match p.rest with
    | extra :: _ => misread ("extra argument " ++ quote extra)
    | [] => worsen (if holds then 0 else 1)

end Deciding

def test (args : List Octets) : Program Unit := Deciding.decideAll args

def bracket (args : List Octets) : Program Unit := do
  if args.getLast? ≠ some [']'] then die 2 "missing ']'"
  else Deciding.decideAll args.dropLast

end WorkerFleet.Utility
