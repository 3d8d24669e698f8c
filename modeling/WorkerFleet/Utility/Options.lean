import WorkerFleet.Utility.Program

/-!
# Options of utilities

Options are letters behind one dash or names behind two. A letter may have its value right behind
it, a name behind an equals sign; otherwise the next argument is the value. A name may be cut short
as long as it means only one option. Operands may stand between options unless a program says
otherwise; two dashes end the options.
-/

namespace WorkerFleet.Utility

/-- Whether an option takes a value. -/
inductive Taking
  | nothing
  | value
  /-- A value only if it is attached. -/
  | attached
  deriving DecidableEq, Repr

/-- An option of a program; it is known by its letter, or by its name if it has none. -/
structure Choice where
  letter : Option Char
  name : String
  taking : Taking
  deriving Repr

namespace Choice

/-- What the program calls the option. -/
def key (c : Choice) : String :=
  match c.letter with
  | some letter => letter.toString
  | none => c.name

end Choice

/-- An option without a value. -/
def flag (letter : Char) (name : String) : Choice := ⟨some letter, name, .nothing⟩

/-- An option with a value. -/
def setting (letter : Char) (name : String) : Choice := ⟨some letter, name, .value⟩

/-- An option that has no letter. -/
def named (name : String) (taking : Taking) : Choice := ⟨none, name, taking⟩

/-- An option as it was given. -/
structure Given where
  key : String
  value : Octets
  deriving DecidableEq, Repr

/-- What is wrong with an option. -/
inductive OptionFault
  | unknownLetter (letter : Char)
  | unknownName (argument : Octets)
  | ambiguous (argument : Octets) (possible : List String)
  | letterWithoutValue (letter : Char)
  | nameWithoutValue (name : String)
  | unwantedValue (name : String)
  deriving DecidableEq, Repr

def OptionFault.message : OptionFault → String
  | .unknownLetter c => "invalid option -- '" ++ c.toString ++ "'"
  | .unknownName argument => "unrecognized option '" ++ shown argument ++ "'"
  | .ambiguous argument possible =>
    "option '" ++ shown argument ++ "' is ambiguous; possibilities:" ++
      String.join (possible.map fun name => " '--" ++ name ++ "'")
  | .letterWithoutValue c => "option requires an argument -- '" ++ c.toString ++ "'"
  | .nameWithoutValue name => "option '--" ++ name ++ "' requires an argument"
  | .unwantedValue name => "option '--" ++ name ++ "' doesn't allow an argument"

/-- Options and operands as far as they could be read. -/
structure Reading where
  given : List Given := []
  operands : List Octets := []
  fault : Option OptionFault := none
  deriving Repr

namespace Reading

def withGiven (g : Given) (r : Reading) : Reading := { r with given := g :: r.given }

def withOperand (o : Octets) (r : Reading) : Reading := { r with operands := o :: r.operands }

end Reading

/-- The options that a name may mean. -/
def meant (choices : List Choice) (name : String) : List Choice :=
  let named := choices.filter fun c => !c.name.isEmpty
  match named.filter (·.name == name) with
  | [] => named.filter fun c => name.toList.isPrefixOf c.name.toList
  | exact => exact.take 1

/-- The letters of one argument; `rest` are the arguments behind it. The answer tells how many of
those were taken. -/
def readLetters (choices : List Choice) (rest : List Octets) :
    Octets → List Given × Option OptionFault × Nat
  | [] => ([], none, 0)
  | c :: letters =>
    match choices.find? (·.letter == some c) with
    | none => ([], some (.unknownLetter c), 0)
    | some choice =>
      match choice.taking with
      | .nothing =>
        let (given, fault, taken) := readLetters choices rest letters
        (⟨choice.key, []⟩ :: given, fault, taken)
      | .attached => ([⟨choice.key, letters⟩], none, 0)
      | .value =>
        if !letters.isEmpty then ([⟨choice.key, letters⟩], none, 0)
        else
          match rest with
          | value :: _ => ([⟨choice.key, value⟩], none, 1)
          | [] => ([], some (.letterWithoutValue c), 0)

/-- An option by its name. -/
def readName (choices : List Choice) (rest : List Octets) (argument : Octets) :
    Except OptionFault (Given × Nat) :=
  let (name, value) := Text.splitFirst '=' (argument.drop 2)
  match meant choices (String.ofList name) with
  | [] => .error (.unknownName argument)
  | choice :: others =>
    if others.any fun o => o.key ≠ choice.key then
      .error (.ambiguous argument ((choice :: others).map (·.name)))
    else
      match choice.taking, value, rest with
      | .nothing, some _, _ => .error (.unwantedValue choice.name)
      | .nothing, none, _ => .ok (⟨choice.key, []⟩, 0)
      | .attached, value, _ => .ok (⟨choice.key, value.getD []⟩, 0)
      | .value, some value, _ => .ok (⟨choice.key, value⟩, 0)
      | .value, none, value :: _ => .ok (⟨choice.key, value⟩, 1)
      | .value, none, [] => .error (.nameWithoutValue choice.name)

/-- Reads arguments; `skip` of them have been taken as values already. -/
def readArguments (choices : List Choice) (mixed : Bool) : (skip : Nat) → List Octets → Reading
  | _, [] => {}
  | skip + 1, _ :: rest => readArguments choices mixed skip rest
  | 0, argument :: rest =>
    match argument with
    | ['-', '-'] => { operands := rest }
    | '-' :: '-' :: _ =>
      match readName choices rest argument with
      | .error fault => { fault := some fault }
      | .ok (given, taken) => (readArguments choices mixed taken rest).withGiven given
    | '-' :: c :: letters =>
      let (given, fault, taken) := readLetters choices rest (c :: letters)
      match fault with
      | some fault => { given, fault := some fault }
      | none =>
        let more := readArguments choices mixed taken rest
        { more with given := given ++ more.given }
    | operand =>
      if mixed then (readArguments choices mixed 0 rest).withOperand operand
      else { operands := argument :: rest }

/-- Reads options in their order into a record of settings, and gives the operands. The first fault
ends the program with a status. -/
def readOptions {α : Type} (choices : List Choice) (mixed : Bool) (misused : Nat)
    (settings : α) (take : α → Given → Program α) (args : List Octets) :
    Program (α × List Octets) := do
  let reading := readArguments choices mixed 0 args
  let settings ← reading.given.foldlM take settings
  match reading.fault with
  | some fault => misuse misused fault.message
  | none => return (settings, reading.operands)

/-- The keys of the options, for programs that need no values. -/
def readFlags (choices : List Choice) (args : List Octets) : Program (List String × List Octets) :=
  readOptions choices true 1 [] (fun keys g => pure (keys ++ [g.key])) args

/-- The complaint about operands that are not there. -/
def missing {α : Type} (what : String) : Program α := misuse 1 ("missing " ++ what)

end WorkerFleet.Utility
