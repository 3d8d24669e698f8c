import WorkerFleet.Octets
import WorkerFleet.Text.Word

/-!
# Arithmetic expansion

Integer expressions over 64-bit words that Word.wrap. Variables are read as numbers and may be assigned.
An expression is worked out while it is read, so that the first thing that is wrong with it counts.
What need not be worked out is read all the same.
-/

namespace WorkerFleet.Shell.Arithmetic

open Octets Text

inductive BinaryOp
  | mul
  | div
  | mod
  | add
  | sub
  | shiftLeft
  | shiftRight
  | less
  | lessEq
  | greater
  | greaterEq
  | equal
  | unequal
  | bitAnd
  | bitXor
  | bitOr
  deriving DecidableEq, Repr

inductive Token
  | number (n : Int)
  | variable (name : Octets)
  | operator (op : BinaryOp)
  | assign (op : Option BinaryOp)
  | and
  | or
  | not
  | complement
  | opening
  | closing
  | question
  | colon
  /-- Means nothing. -/
  | other
  deriving DecidableEq, Repr

/-- The operators, each before those that begin it. -/
def operators : List (String × Token) := [
  ("<<=", .assign (some .shiftLeft)), (">>=", .assign (some .shiftRight)),
  ("<<", .operator .shiftLeft), (">>", .operator .shiftRight), ("<=", .operator .lessEq),
  (">=", .operator .greaterEq), ("==", .operator .equal), ("!=", .operator .unequal),
  ("&&", .and), ("||", .or), ("*=", .assign (some .mul)), ("/=", .assign (some .div)),
  ("%=", .assign (some .mod)), ("+=", .assign (some .add)), ("-=", .assign (some .sub)),
  ("&=", .assign (some .bitAnd)), ("^=", .assign (some .bitXor)), ("|=", .assign (some .bitOr)),
  ("=", .assign none), ("<", .operator .less), (">", .operator .greater),
  ("&", .operator .bitAnd), ("^", .operator .bitXor), ("|", .operator .bitOr),
  ("+", .operator .add), ("-", .operator .sub), ("*", .operator .mul), ("/", .operator .div),
  ("%", .operator .mod), ("!", .not), ("~", .complement), ("(", .opening), (")", .closing),
  ("?", .question), (":", .colon)]

/-- The tokens of a text; `fuel` is its length. -/
def tokens : (fuel : Nat) → Octets → List Token
  | 0, _ => []
  | fuel + 1, input =>
    match input.dropWhile fun c => c == ' ' || c == '\t' || c == '\n' with
    | [] => []
    | c :: rest =>
      let input := c :: rest
      if c.isDigit then
        match Word.readNatural input with
        | some (n, rest) => .number (Word.clamp n) :: tokens fuel rest
        | none => [.other]
      else if isNameStart c then
        .variable (input.takeWhile isNameChar) :: tokens fuel (input.dropWhile isNameChar)
      else
        match operators.find? fun op => op.1.toList.isPrefixOf input with
        | some (text, token) => token :: tokens fuel (input.drop text.length)
        | none => .other :: tokens fuel rest

inductive Fault
  /-- Something else must stand here. -/
  | expecting (what : String)
  | divisionByZero
  | badNumber (text : Octets)
  deriving DecidableEq, Repr

def Fault.message (expression : Octets) : Fault → String
  | .expecting what =>
    "arithmetic expression: expecting " ++ what ++ ": \"" ++ String.ofList expression ++ "\""
  | .divisionByZero =>
    "arithmetic expression: division by zero: \"" ++ String.ofList expression ++ "\""
  | .badNumber text => "Illegal number: " ++ String.ofList text

def truth (b : Bool) : Int := if b then 1 else 0

namespace BinaryOp

/-- Operators of a lower level bind tighter. -/
def level : BinaryOp → Nat
  | .mul | .div | .mod => 0
  | .add | .sub => 1
  | .shiftLeft | .shiftRight => 2
  | .less | .lessEq | .greater | .greaterEq => 3
  | .equal | .unequal => 4
  | .bitAnd => 5
  | .bitXor => 6
  | .bitOr => 7

def apply (op : BinaryOp) (a b : Int) : Except Fault Int :=
  match op with
  | .mul => .ok (Word.wrap (a * b))
  | .div => if b = 0 then .error .divisionByZero else .ok (Word.wrap (a.tdiv b))
  | .mod => if b = 0 then .error .divisionByZero else .ok (Word.wrap (a.tmod b))
  | .add => .ok (Word.wrap (a + b))
  | .sub => .ok (Word.wrap (a - b))
  | .shiftLeft => .ok (Word.wrap (a * (1 <<< (Word.ofInt b % 64) : Nat)))
  | .shiftRight => .ok (a / (1 <<< (Word.ofInt b % 64) : Nat))
  | .less => .ok (truth (a < b))
  | .lessEq => .ok (truth (a ≤ b))
  | .greater => .ok (truth (b < a))
  | .greaterEq => .ok (truth (b ≤ a))
  | .equal => .ok (truth (a = b))
  | .unequal => .ok (truth (a ≠ b))
  | .bitAnd => .ok (Word.wrap (Word.ofInt a &&& Word.ofInt b : Nat))
  | .bitXor => .ok (Word.wrap (Word.ofInt a ^^^ Word.ofInt b : Nat))
  | .bitOr => .ok (Word.wrap (Word.ofInt a ||| Word.ofInt b : Nat))

end BinaryOp

/-- The work on an expression: the tokens that are left and the variables that were assigned, the
latest first. -/
structure Calculation where
  rest : List Token
  assigned : List (Octets × Int) := []

abbrev Calc := StateT Calculation (Except Fault)

/-- The level above all operators. -/
def loosest : Nat := 8

namespace Calc

def token? : Calc (Option Token) := do return (← get).rest.head?

def skip : Calc Unit := modify fun s => { s with rest := s.rest.drop 1 }

def valueOf (lookup : Octets → Octets) (name : Octets) : Calc Int := do
  match (← get).assigned.lookup name with
  | some n => return n
  | none =>
    let text := lookup name
    if (Word.skip text).isEmpty then return 0
    match Word.integer? Word.readNatural text with
    | some n => return n
    | none => throw (.badNumber text)

def assign (name : Octets) (value : Int) : Calc Unit :=
  modify fun s => { s with assigned := (name, value) :: s.assigned }

mutual

/-- An assignment, or else a choice. What is idle has no effects and fails at nothing but its
form. -/
def assignment (lookup : Octets → Octets) : (fuel : Nat) → (isIdle : Bool) → Calc Int
  | 0, _ => return 0
  | fuel + 1, isIdle => do
    match (← get).rest with
    | .variable name :: .assign op :: rest =>
      modify fun s => { s with rest }
      let value ← assignment lookup fuel isIdle
      if isIdle then return value
      let value ←
        match op with
        | none => pure value
        | some op => do
          let old ← valueOf lookup name
          (op.apply old value : Except Fault Int)
      assign name value
      return value
    | _ => choice lookup fuel isIdle

def choice (lookup : Octets → Octets) : Nat → Bool → Calc Int
  | 0, _ => return 0
  | fuel + 1, isIdle => do
    let test ← disjunction lookup fuel isIdle
    if (← token?) != some .question then return test
    skip
    let yes ← assignment lookup fuel (isIdle || test = 0)
    if (← token?) != some .colon then throw (.expecting "':'")
    skip
    let no ← choice lookup fuel (isIdle || test ≠ 0)
    return if test ≠ 0 then yes else no

def disjunction (lookup : Octets → Octets) : Nat → Bool → Calc Int
  | 0, _ => return 0
  | fuel + 1, isIdle => do
    let a ← conjunction lookup fuel isIdle
    if (← token?) != some .or then return a
    skip
    let b ← disjunction lookup fuel (isIdle || a ≠ 0)
    return truth (a ≠ 0 || b ≠ 0)

def conjunction (lookup : Octets → Octets) : Nat → Bool → Calc Int
  | 0, _ => return 0
  | fuel + 1, isIdle => do
    let a ← operations lookup fuel isIdle
    if (← token?) != some .and then return a
    skip
    let b ← conjunction lookup fuel (isIdle || a = 0)
    return truth (a ≠ 0 && b ≠ 0)

def operations (lookup : Octets → Octets) : Nat → Bool → Calc Int
  | 0, _ => return 0
  | fuel + 1, isIdle => do
    let a ← operand lookup fuel isIdle
    match ← token? with
    | some (.operator op) =>
      skip
      operation lookup fuel isIdle a op loosest
    | _ => return a

/-- What an operator makes of its left operand and of what follows, as far as that binds tighter
than some level. -/
def operation (lookup : Octets → Octets) : Nat → Bool → Int → BinaryOp → (limit : Nat) → Calc Int
  | 0, _, _, _, _ => return 0
  | fuel + 1, isIdle, a, op, limit => do
    let b ← operand lookup fuel isIdle
    let b ←
      match ← token? with
      | some (.operator tighter) =>
        if tighter.level < op.level then do
          skip
          operation lookup fuel isIdle b tighter op.level
        else pure b
      | _ => pure b
    let a ← if isIdle then pure b else (op.apply a b : Except Fault Int)
    match ← token? with
    | some (.operator next) =>
      if next.level < limit then
        skip
        operation lookup fuel isIdle a next limit
      else return a
    | _ => return a

def operand (lookup : Octets → Octets) : Nat → Bool → Calc Int
  | 0, _ => return 0
  | fuel + 1, isIdle => do
    let token ← token?
    skip
    match token with
    | some .opening =>
      let a ← assignment lookup fuel isIdle
      if (← token?) != some .closing then throw (.expecting "')'")
      skip
      return a
    | some (.number n) => return n
    | some (.variable name) => if isIdle then return 0 else valueOf lookup name
    | some (.operator .add) => operand lookup fuel isIdle
    | some (.operator .sub) => return Word.wrap (-(← operand lookup fuel isIdle))
    | some .not => return truth ((← operand lookup fuel isIdle) = 0)
    | some .complement => return Word.wrap (-(← operand lookup fuel isIdle) - 1)
    | _ => throw (.expecting "primary")

end

end Calc

/-- The value of an expression, and the variables that it assigns in their order. -/
def run (lookup : Octets → Octets) (text : Octets) :
    Except Fault (Int × List (Octets × Int)) := do
  let tokens := tokens text.length text
  let (value, s) ← (Calc.assignment lookup (8 * tokens.length + 16) false).run { rest := tokens }
  if s.rest.isEmpty then return (value, s.assigned.reverse) else throw (.expecting "EOF")

end WorkerFleet.Shell.Arithmetic
