/-!
# Exit statuses

A process ends with a code of its own choice or by a signal.
-/

namespace WorkerFleet

structure Signal where
  number : Nat
  deriving DecidableEq, Repr, Inhabited

namespace Signal

def names : List (Nat × String) := [
  (1, "HUP"), (2, "INT"), (3, "QUIT"), (4, "ILL"), (5, "TRAP"), (6, "ABRT"), (7, "BUS"),
  (8, "FPE"), (9, "KILL"), (10, "USR1"), (11, "SEGV"), (12, "USR2"), (13, "PIPE"), (14, "ALRM"),
  (15, "TERM"), (16, "STKFLT"), (17, "CHLD"), (18, "CONT"), (19, "STOP"), (20, "TSTP"),
  (21, "TTIN"), (22, "TTOU"), (23, "URG"), (24, "XCPU"), (25, "XFSZ"), (26, "VTALRM"),
  (27, "PROF"), (28, "WINCH"), (29, "IO"), (30, "PWR"), (31, "SYS")]

def ofName? (name : String) : Option Signal :=
  (names.find? fun s => s.2 == name).map (⟨·.1⟩)

def text (s : Signal) : String :=
  match names.lookup s.number with
  | none => "signal: " ++ toString s.number
  | some name => "signal: " ++ toString s.number ++ " (SIG" ++ name ++ ")"

/-- What happened, in words; the signals that have no name are counted from the first of them. -/
def descriptions : List (Nat × String) := [
  (1, "Hangup"), (2, "Interrupt"), (3, "Quit"), (4, "Illegal instruction"),
  (5, "Trace/breakpoint trap"), (6, "Aborted"), (7, "Bus error"), (8, "Floating point exception"),
  (9, "Killed"), (10, "User defined signal 1"), (11, "Segmentation fault"),
  (12, "User defined signal 2"), (13, "Broken pipe"), (14, "Alarm clock"), (15, "Terminated"),
  (16, "Stack fault"), (17, "Child exited"), (18, "Continued"), (19, "Stopped (signal)"),
  (20, "Stopped"), (21, "Stopped (tty input)"), (22, "Stopped (tty output)"),
  (23, "Urgent I/O condition"), (24, "CPU time limit exceeded"), (25, "File size limit exceeded"),
  (26, "Virtual timer expired"), (27, "Profiling timer expired"), (28, "Window changed"),
  (29, "I/O possible"), (30, "Power failure"), (31, "Bad system call"), (32, "Unknown signal 32"),
  (33, "Unknown signal 33")]

def description (s : Signal) : String :=
  (descriptions.lookup s.number).getD ("Real-time signal " ++ toString (s.number - 34))

/-- Signal numbers end here. -/
def last : Nat := 64

/-- Whether the signal ends a process whatever it does about signals. -/
def isKill (s : Signal) : Bool := s.number == 9

/-- Whether the signal makes a stopped process go on. -/
def isContinue (s : Signal) : Bool := s.number == 18

/-- Whether the signal stops a process whatever it does about signals. -/
def isHold (s : Signal) : Bool := s.number == 19

/-- Whether the signal leaves a process that does not handle it running. -/
def isHarmless (s : Signal) : Bool := [17, 18, 23, 28].contains s.number

/-- Whether the signal stops a process that does not handle it. -/
def isStop (s : Signal) : Bool := [19, 20, 21, 22].contains s.number

end Signal

inductive ExitStatus
  | code (n : Nat)
  | signal (s : Signal)
  deriving DecidableEq, Repr, Inhabited

namespace ExitStatus

def isSuccess : ExitStatus → Bool
  | .code n => n == 0
  | .signal _ => false

def text : ExitStatus → String
  | .code n => "exit status: " ++ toString n
  | .signal s => s.text

end ExitStatus

end WorkerFleet
