import WorkerFleet.Shell.State
import WorkerFleet.Text.Word

/-!
# Conditions

What the shell's own `test` and its bracket form decide about texts, numbers and files. An operator
is taken for an operand where it could not have one of its own.
-/

namespace WorkerFleet.Shell.Condition

open Host Text Eval

/-- What a question about one text asks. -/
inductive UnaryOp
  | isEmpty
  | isFilled
  | isTerminal
  | ofStatus (follow : Bool) (ask : Status → Bool)

inductive BinaryOp
  | ofTexts (holds : Octets → Octets → Bool)
  | ofNumbers (holds : Int → Int → Bool)
  | ofFiles (holds : Status → Status → Bool)

inductive Token
  | unary (op : UnaryOp)
  | binary (op : BinaryOp)
  | not
  | and
  | or
  | opening
  | closing

def tokens : List (String × Token) := [
  ("-z", .unary .isEmpty), ("-n", .unary .isFilled), ("-t", .unary .isTerminal),
  ("-r", .unary (.ofStatus true (·.permissions.read))),
  ("-w", .unary (.ofStatus true (·.permissions.write))),
  ("-x", .unary (.ofStatus true (·.permissions.execute))),
  ("-e", .unary (.ofStatus true fun _ => true)), ("-f", .unary (.ofStatus true (·.isKind .file))),
  ("-d", .unary (.ofStatus true (·.isKind .directory))),
  ("-c", .unary (.ofStatus true (·.isKind .device))), ("-b", .unary (.ofStatus true fun _ => false)),
  ("-p", .unary (.ofStatus true (·.isKind .fifo))), ("-S", .unary (.ofStatus true fun _ => false)),
  ("-L", .unary (.ofStatus false (·.isKind .symlink))),
  ("-h", .unary (.ofStatus false (·.isKind .symlink))),
  ("-s", .unary (.ofStatus true (0 < ·.size))),
  ("-u", .unary (.ofStatus true fun s => s.mode &&& 0o4000 ≠ 0)),
  ("-g", .unary (.ofStatus true fun s => s.mode &&& 0o2000 ≠ 0)),
  ("-k", .unary (.ofStatus true fun s => s.mode &&& 0o1000 ≠ 0)),
  ("-O", .unary (.ofStatus true (·.permissions.write))),
  ("-G", .unary (.ofStatus true (·.permissions.write))),
  ("=", .binary (.ofTexts (· == ·))), ("!=", .binary (.ofTexts (· != ·))),
  ("<", .binary (.ofTexts fun a b => decide (a < b))),
  (">", .binary (.ofTexts fun a b => decide (b < a))),
  ("-eq", .binary (.ofNumbers (· == ·))), ("-ne", .binary (.ofNumbers (· != ·))),
  ("-lt", .binary (.ofNumbers fun a b => decide (a < b))),
  ("-le", .binary (.ofNumbers fun a b => decide (a ≤ b))),
  ("-gt", .binary (.ofNumbers fun a b => decide (b < a))),
  ("-ge", .binary (.ofNumbers fun a b => decide (b ≤ a))),
  ("-nt", .binary (.ofFiles Status.isNewer)), ("-ot", .binary (.ofFiles fun a b => b.isNewer a)),
  ("-ef", .binary (.ofFiles fun a b => a.identity == b.identity)),
  ("!", .not), ("-a", .and), ("-o", .or), ("(", .opening), (")", .closing)]

def token? (text : Octets) : Option Token := tokens.lookup (String.ofList text)

def binary? (text : Octets) : Option BinaryOp :=
  match token? text with
  | some (.binary op) => some op
  | _ => none

/-- What the first of several arguments is, if it is no operand. -/
def read (args : List Octets) : Option Token :=
  match args with
  | [] => none
  | first :: rest =>
    match token? first with
    | some (.unary op) =>
      let isOperand : Bool :=
        match rest with
        | [] => true
        | [_] => false
        | second :: _ => (binary? second).isSome
      if isOperand then none else some (.unary op)
    | some .opening => if rest.isEmpty then none else some .opening
    | token => token

def statusOf? (follow : Bool) (file : Octets) : Eval (Option Status) := do
  return (← (System.status (.ofOctets file) follow : Dialogue System _)).toOption

def integer (text : Octets) : Eval Int := do
  match Word.integer? (Word.readDigits 10) text with
  | some n => return n
  | none => badNumber text

def UnaryOp.ask (op : UnaryOp) (operand : Octets) : Eval Bool := do
  match op with
  | .isEmpty => return operand.isEmpty
  | .isFilled => return !operand.isEmpty
  | .isTerminal =>
    let _ ← integer operand
    return false
  | .ofStatus follow ask => return (← statusOf? follow operand).any ask

def BinaryOp.ask (op : BinaryOp) (a b : Octets) : Eval Bool := do
  match op with
  | .ofTexts holds => return holds a b
  | .ofNumbers holds =>
    let a ← integer a
    let b ← integer b
    return holds a b
  | .ofFiles holds =>
    match ← statusOf? true a, ← statusOf? true b with
    | some a, some b => return holds a b
    | _, _ => return false

def lacksOperand {α : Type} (op : Octets) : Eval α :=
  Eval.fail (String.ofList op ++ ": argument expected")

/-- The work on a condition: what was found, and the arguments from the last one that was used
on. -/
abbrev Answer := Bool × List Octets

mutual

def disjunction : (fuel : Nat) → Option Token → List Octets → Eval Answer
  | 0, _, args => return (false, args)
  | fuel + 1, first, args => do
    let (a, args) ← conjunction fuel first args
    match read (args.drop 1) with
    | some .or =>
      let (b, args) ← disjunction fuel (read (args.drop 2)) (args.drop 2)
      return (a || b, args)
    | _ => return (a, args)

def conjunction : Nat → Option Token → List Octets → Eval Answer
  | 0, _, args => return (false, args)
  | fuel + 1, first, args => do
    let (a, args) ← negation fuel first args
    match read (args.drop 1) with
    | some .and =>
      let (b, args) ← conjunction fuel (read (args.drop 2)) (args.drop 2)
      return (a && b, args)
    | _ => return (a, args)

def negation : Nat → Option Token → List Octets → Eval Answer
  | 0, _, args => return (false, args)
  | fuel + 1, first, args => do
    match first with
    | some .not =>
      let (a, rest) ← negation fuel (read (args.drop 1)) (args.drop 1)
      return (!a, rest)
    | first => primary fuel first args

def primary : Nat → Option Token → List Octets → Eval Answer
  | 0, _, args => return (false, args)
  | fuel + 1, first, args => do
    match args, first with
    | [], _ => return (false, [])
    | _ :: args, some .opening =>
      match read args with
      | some .closing => return (false, args)
      | inner =>
        let (a, rest) ← disjunction fuel inner args
        match read (rest.drop 1) with
        | some .closing => return (a, rest.drop 1)
        | _ => Eval.fail "closing paren expected"
    | op :: args, some (.unary ask) =>
      match args with
      | [] => lacksOperand op
      | operand :: _ => return (← ask.ask operand, args)
    | a :: args, _ =>
      match args with
      | op :: rest =>
        match read args, rest with
        | some (.binary _), [] => lacksOperand op
        | some (.binary ask), b :: _ => return (← ask.ask a b, rest)
        | _, _ => return (!a.isEmpty, a :: args)
      | [] => return (!a.isEmpty, [a])

end

/-- How the arguments of a condition begin; three or four of them have a rule of their own. -/
def start (args : List Octets) : Option Token × List Octets :=
  let fewRules (args : List Octets) : Option Token × List Octets :=
    if args.head? == some ['('] && args.getLast? == some [')'] then
      let inner := (args.drop 1).dropLast
      (read inner, inner)
    else if args.head? == some ['!'] then (some .not, args)
    else (read args, args)
  match args with
  | [_, op, _] => if (binary? op).isSome then (none, args) else fewRules args
  | [_, _, _, _] => fewRules args
  | args => (read args, args)

def run (args : List Octets) : Eval Bool := do
  if args.isEmpty then return false
  let (first, args) := start args
  let (holds, rest) ← disjunction (8 * args.length + 16) first args
  match rest with
  | last :: _ :: _ =>
    if last.isEmpty then Eval.fail "unexpected operator"
    else Eval.fail (String.ofList last ++ ": unexpected operator")
  | _ => return holds

end WorkerFleet.Shell.Condition
