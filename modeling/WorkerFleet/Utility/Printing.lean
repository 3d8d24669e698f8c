import WorkerFleet.Utility.Sequence

/-!
# Utilities that print their arguments
-/

namespace WorkerFleet.Utility

open Host Text

/-! ## `echo` -/

/-- How words are printed. -/
structure Echoing where
  endsLine : Bool := true
  escapes : Bool := false

/-- Only a word that consists of known letters is an option. -/
def Echoing.isOption (word : Octets) : Bool :=
  match word with
  | '-' :: c :: letters => (c :: letters).all "neE".toList.contains
  | _ => false

def Echoing.take (e : Echoing) (letter : Char) : Echoing :=
  match letter with
  | 'n' => { e with endsLine := false }
  | 'e' => { e with escapes := true }
  | 'E' => { e with escapes := false }
  | _ => e

def echo (args : List Octets) : Program Unit := do
  let letters := (args.takeWhile Echoing.isOption).flatten
  let e : Echoing := letters.foldl Echoing.take {}
  let text := Octets.joined (args.dropWhile Echoing.isOption)
  let (text, ended) :=
    if e.escapes then { longDialect.argument with hasCode := false }.resolve text else (text, false)
  print (if e.endsLine && !ended then text ++ ['\n'] else text)

/-! ## `printf` -/

/-- What is said about a fault, and whether it changes the status. -/
def formatFault : Format.Fault → String × Bool
  | .notANumber arg => (quote arg ++ ": expected a numeric value", true)
  | .leftOver arg => (quote arg ++ ": value not completely converted", true)
  | .outOfRange arg => (quote arg ++ ": Numerical result out of range", true)
  | .ignored rest =>
    ("warning: " ++ shown rest ++
      ": character(s) following character constant have been ignored", false)
  | .noLetter directive | .unknown directive =>
    (shown directive ++ ": invalid conversion specification", true)

def printf (args : List Octets) : Program Unit := do
  match if args.head? = some "--".toList then args.drop 1 else args with
  | [] => misuse 1 "missing operand"
  | format :: rest =>
    let out := Format.run longDialect format rest
    for fault in out.faults do
      let (message, counts) := formatFault fault
      complain message
      if counts then worsen 1
    print out.text
    if out.rest.length = rest.length then
      if let extra :: _ := rest then
        if !out.ended then
          complain ("warning: ignoring excess arguments, starting with " ++ quote extra)

/-! ## Others -/

/-- A text again and again, as long as anybody wants it. -/
def printForever (text : Octets) : (rounds : Nat) → Program Unit
  | 0 => pure ()
  | rounds + 1 => do
    print text
    flush
    printForever text rounds

/-- So much is printed at a time. -/
def yesBlock : Nat := 4096

def yes (args : List Octets) : Program Unit := do
  let words := if args.head? = some "--".toList then args.drop 1 else args
  let line := (if words.isEmpty then ['y'] else Octets.joined words) ++ ['\n']
  printForever (List.replicate (yesBlock / line.length + 1) line).flatten System.blockLimit

/-- A variable with its value. -/
def showVariable (v : String × OsString) : Octets :=
  (OsString.ofText (v.1 ++ "=") ++ v.2).octets

def printAll (env : Environment) : Program Unit :=
  print (Octets.asLines (env.bindings.map showVariable))

def nameText (name : Octets) : String := (path name).display

def printenv (args : List Octets) : Program Unit := do
  let env := (← get).env
  let (_, names) ← readOptions [flag '0' "null"] false 2 () (fun _ _ => pure ()) args
  if names.isEmpty then printAll env
  for name in names do
    match env.get? (nameText name) with
    | some value => printLine value.octets
    | none => worsen 1

/-- Pays no attention to its arguments. -/
def endWith (status : Nat) (_ : List Octets) : Program Unit := worsen status

end WorkerFleet.Utility
