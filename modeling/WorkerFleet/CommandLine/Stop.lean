import WorkerFleet.CommandLine.Help
import WorkerFleet.Text.Similarity
import WorkerFleet.WaitOrder
import WorkerFleet.WorkerCount

/-!
# Why reading the command line stopped

A request for a text, or a fault of the arguments. Each has a kind, and a message that depends on
the name of the program, on the medium that shows it and, for the help, on the environment.
-/

namespace WorkerFleet.CommandLine

open Text.Terminal

inductive Stop
  | help (long : Bool)
  | version
  /-- An option stands without the value it needs. -/
  | missingValue (option : ValueOption)
  | repeated (argument : Argument)
  /-- The worker count is no text. -/
  | workersNotText
  | badWorkers (text : String) (fault : WorkerCount.Fault)
  | badWaitOrder (text : OsString)
  /-- A switch was given a value, as the first argument of all or later on. -/
  | unexpectedValue (switch : Switch) (value : OsString) (isFirst : Bool)
  /-- No option has that name; `stored` are the arguments taken before. -/
  | unknownOption (name : OsString) (stored : List Argument)
  | unknownLetter (letter : String)
  | unexpectedWord (word : OsString)
  | missingWorkers (stored : List Argument)
  deriving DecidableEq, Repr

namespace Stop

inductive Kind
  | displayHelp
  | displayVersion
  | invalidValue
  | argumentConflict
  | invalidUtf8
  | valueValidation
  | tooManyValues
  | unknownArgument
  | missingRequiredArgument
  deriving DecidableEq, Repr

def kind : Stop → Kind
  | .help _ => .displayHelp
  | .version => .displayVersion
  | .missingValue _ => .invalidValue
  | .repeated _ => .argumentConflict
  | .workersNotText => .invalidUtf8
  | .badWorkers _ _ => .valueValidation
  | .badWaitOrder _ => .invalidValue
  | .unexpectedValue _ _ _ => .tooManyValues
  | .unknownOption _ _ => .unknownArgument
  | .unknownLetter _ => .unknownArgument
  | .unexpectedWord _ => .unknownArgument
  | .missingWorkers _ => .missingRequiredArgument

def Kind.isRequest : Kind → Bool
  | .displayHelp => true
  | .displayVersion => true
  | _ => false

/-- A text that was asked for is a success. -/
def exitCode (s : Stop) : Nat := if s.kind.isRequest then 0 else 2

/-- Whether the message is an error message. -/
def isError (s : Stop) : Bool := !s.kind.isRequest

/-- The values the option may take, if they can be told. -/
def possibleValues : ValueOption → String
  | .collaborator => ""
  | .waitOrder =>
    "\n  [possible values: " ++ ", ".intercalate (WaitOrder.all.map (·.name)) ++ "]"

/-- A name as usage texts write it. -/
def shown : Argument → String
  | .workers => "<WORKERS>"
  | .value option => option.usage
  | .switch switch => switch.usage
  | .passedOn => "[COLLABORATOR_ARGS]..."

/-- The option that an unknown name was probably meant to be. -/
def meant? (name : OsString) : Option (String × Argument) := do
  let similar ← Text.Similarity.closest? name.display.toList (Argument.named.map (·.1))
  return (similar, ← Argument.ofName? similar)

/-- The message without its frame. -/
def text (medium : Medium) : Stop → String
  | .help _ | .version => ""
  | .missingValue option =>
    "a value is required for '" ++ option.usage ++ "' but none was supplied" ++
      possibleValues option
  | .repeated argument =>
    "the argument '" ++ shown argument ++ "' cannot be used multiple times"
  | .workersNotText => "invalid UTF-8 was detected in one or more arguments"
  | .badWorkers input fault =>
    "invalid value '" ++ medium.visible input ++ "' for '<WORKERS>': " ++ fault.message
  | .badWaitOrder input =>
    let tip :=
      match Text.Similarity.closest? input.display.toList (WaitOrder.all.map (·.name)) with
      | some name => "\n\n  tip: a similar value exists: '" ++ name ++ "'"
      | none => ""
    "invalid value '" ++ medium.visible input.display ++ "' for '" ++
      ValueOption.waitOrder.usage ++ "'" ++ possibleValues .waitOrder ++ tip
  | .unexpectedValue switch value _ =>
    "unexpected value '" ++ medium.visible value.display ++ "' for '" ++ switch.usage ++
      "' found; no more were expected"
  | .unknownOption name _ =>
    let option := "--" ++ medium.visible name.display
    let tip :=
      match meant? name with
      | some (similar, _) => "  tip: a similar argument exists: '--" ++ similar ++ "'\n"
      | none => ""
    "unexpected argument '" ++ option ++ "' found\n\n" ++ tip ++
      "  tip: to pass '" ++ option ++ "' as a value, use '-- " ++ option ++ "'"
  | .unknownLetter letter =>
    let option := "-" ++ medium.visible letter
    "unexpected argument '" ++ option ++ "' found\n\n" ++
      "  tip: to pass '" ++ option ++ "' as a value, use '-- " ++ option ++ "'"
  | .unexpectedWord word => "unexpected argument '" ++ medium.visible word.display ++ "' found"
  | .missingWorkers _ => "the following required arguments were not provided:\n  <WORKERS>"

/-- The usage line, where the message has one. -/
def usage? (bin : String) : Stop → Option String
  | .help _ | .version => none
  | .missingValue _ => none
  | .repeated _ => some (Usage.general bin)
  | .workersNotText => some (Usage.general bin)
  | .badWorkers _ _ => none
  | .badWaitOrder _ => none
  | .unexpectedValue switch _ isFirst =>
    some (if isFirst then Usage.withUsed bin [.switch switch] else Usage.asChoice bin switch)
  | .unknownOption name stored =>
    let used :=
      match meant? name with
      | some (_, argument) => if stored.contains argument then stored else stored ++ [argument]
      | none => stored
    some (if used.isEmpty then Usage.general bin else Usage.withUsed bin used)
  | .unknownLetter _ => some (Usage.general bin)
  | .unexpectedWord _ => some (Usage.general bin)
  | .missingWorkers stored => some (Usage.withUsed bin stored)

def errorMessage (medium : Medium) (bin : String) (s : Stop) : String :=
  let usage :=
    match s.usage? bin with
    | some line => "\n\nUsage: " ++ line
    | none => ""
  "error: " ++ s.text medium ++ usage ++ "\n\nFor more information, try '--help'.\n"

def message (medium : Medium) (bin : String) (env : Environment) (s : Stop) : String :=
  let bin := medium.visible bin
  match s with
  | .help true => Help.long medium bin env
  | .help false => Help.short medium bin env
  | .version => Help.version
  | _ => s.errorMessage medium bin

end Stop

end WorkerFleet.CommandLine
