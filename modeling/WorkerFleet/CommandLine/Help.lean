import WorkerFleet.CommandLine.Argument
import WorkerFleet.Collaborator
import WorkerFleet.Path
import WorkerFleet.Text.Terminal

/-!
# Usage, help and version texts

The texts that a medium shows. Names from outside are set off from the text around them, so each
shows what is visible of itself.
-/

namespace WorkerFleet.CommandLine

open Text.Terminal

/-- What the launcher is called where its file has no name to show. -/
def defaultName : String := "gc-launcher"

/-- The name by which the launcher calls itself: that of the file it was started from. -/
def programName (argv : List OsString) : String :=
  ((argv.head?.bind Path.fileName?).bind (·.text?)).getD defaultName

namespace Usage

/-- The whole usage in general terms. -/
def general (bin : String) : String := bin ++ " [OPTIONS] <WORKERS> [-- <COLLABORATOR_ARGS>...]"

/-- The usage that repeats the options already seen. -/
def withUsed (bin : String) (used : List Argument) : String :=
  let options := used.map fun
    | .value option => option.usage ++ " "
    | .switch switch => switch.usage ++ " "
    | .workers => ""
    | .passedOn => ""
  let tail :=
    if used.contains .passedOn then "-- <COLLABORATOR_ARGS>..." else "[-- <COLLABORATOR_ARGS>...]"
  bin ++ " " ++ String.join options ++ "<WORKERS> " ++ tail

/-- The usage that shows every argument as a choice. -/
def asChoice (bin : String) (switch : Switch) : String :=
  let own :=
    match switch with
    | .failOnChildError => ""
    | .help => "--help "
    | .version => "--version "
  bin ++ " " ++ own ++ "<WORKERS|" ++ ValueOption.collaborator.usage ++ "|" ++
    ValueOption.waitOrder.usage ++ "|" ++ Switch.failOnChildError.usage ++ "|COLLABORATOR_ARGS>"

end Usage

namespace Help

/-- The default program that the environment names, with further lines indented by `margin`, and
the text after it. It is not set off from that text, which an unfinished sequence in it hides. -/
def programDefault (medium : Medium) (env : Environment) (margin : Nat) (after : String) : String :=
  let value := ((env.get? CollaboratorOptions.programVariable).getD ⟨[]⟩).display
  let indented := String.ofList (value.toList.flatMap fun c =>
    if c = '\n' then '\n' :: List.replicate margin ' ' else [c])
  medium.visible (indented ++ after)

def heading (bin : String) : String :=
  "Spawn N garbage collector workers and wait for all of them to exit\n\n" ++
  "Usage: " ++ Usage.general bin ++ "\n\n"

def short (medium : Medium) (bin : String) (env : Environment) : String :=
  heading bin ++
  "Arguments:\n" ++
  "  <WORKERS>               " ++
    "Number of collaborator instances to start. Zero or negative starts none\n" ++
  "  [COLLABORATOR_ARGS]...  Arguments passed to every worker\n\n" ++
  "Options:\n" ++
  "      --collaborator <COLLABORATOR>  Executable started for every worker " ++
    "[env: GC_LAUNCHER_COLLABORATOR=" ++
    programDefault medium env 37 "] [default: ./standalone-gc]\n      " ++
  "--wait-order <WAIT_ORDER>      Order in which finished workers are reaped " ++
    "[default: completion] [possible values: completion, spawn]\n" ++
  "      --fail-on-child-error          " ++
    "Exit with status 1 if any worker exited unsuccessfully\n" ++
  "  -h, --help                         Print help (see more with '--help')\n" ++
  "  -V, --version                      Print version\n"

def long (medium : Medium) (bin : String) (env : Environment) : String :=
  heading bin ++
  "Arguments:\n" ++
  "  <WORKERS>\n" ++
  "          Number of collaborator instances to start. Zero or negative starts none\n\n" ++
  "  [COLLABORATOR_ARGS]...\n" ++
  "          Arguments passed to every worker\n\n" ++
  "Options:\n" ++
  "      --collaborator <COLLABORATOR>\n" ++
  "          Executable started for every worker\n" ++
  "          \n" ++
  "          [env: GC_LAUNCHER_COLLABORATOR=" ++
    programDefault medium env 10 "]\n          [default: ./standalone-gc]\n\n      " ++
  "--wait-order <WAIT_ORDER>\n" ++
  "          Order in which finished workers are reaped\n\n" ++
  "          Possible values:\n" ++
  "          - completion: Reap whichever child finishes first\n" ++
  "          - spawn:      Block on each child in the order it was started\n" ++
  "          \n" ++
  "          [default: completion]\n\n" ++
  "      --fail-on-child-error\n" ++
  "          Exit with status 1 if any worker exited unsuccessfully\n\n" ++
  "  -h, --help\n" ++
  "          Print help (see a summary with '-h')\n\n" ++
  "  -V, --version\n" ++
  "          Print version\n"

def version : String := defaultName ++ " 0.1.0\n"

end Help

end WorkerFleet.CommandLine
