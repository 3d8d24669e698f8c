import WorkerFleet.Octets

/-!
# Shell scripts

The terms of the command language.
-/

namespace WorkerFleet.Shell

/-- How a redirection opens its file. -/
inductive Direction
  | input
  | output
  /-- Output that empties a file whatever the options say. -/
  | clobber
  | append
  | both
  deriving DecidableEq, Repr

mutual

/-- A piece of a word. Quoted pieces are neither split nor matched against file names. -/
inductive Part
  | text (quoted : Bool) (text : Octets)
  | parameter (quoted : Bool) (name : Octets) (use : Use)
  | substitution (quoted : Bool) (body : Command)
  | arithmetic (quoted : Bool) (expression : List Part)

/-- What is made of a parameter's value. The flag tells whether an empty value counts as unset. -/
inductive Use
  | value
  | length
  | orElse (emptyToo : Bool) (word : List Part)
  | orAssign (emptyToo : Bool) (word : List Part)
  | orFail (emptyToo : Bool) (word : List Part)
  | ifSet (emptyToo : Bool) (word : List Part)
  | strip (fromEnd longest : Bool) (pattern : List Part)
  /-- What stands behind the name is no use of it. -/
  | malformed

inductive Redirect
  | file (descriptor : Nat) (direction : Direction) (target : List Part)
  | here (descriptor : Nat) (text : List Part)
  | duplicate (descriptor : Nat) (target : List Part)

inductive Command
  | nothing
  | simple (line : Nat) (assignments : List (Octets × List Part)) (words : List (List Part))
      (redirects : List Redirect)
  | pipeline (negated : Bool) (commands : List Command)
  | both (first second : Command)
  | either (first second : Command)
  | sequence (first second : Command)
  | redirected (line : Nat) (body : Command) (redirects : List Redirect)
  | subshell (body : Command)
  | background (body : Command)
  | branch (test body : Command) (otherwise : Command)
  | loop (untilTrue : Bool) (test body : Command)
  | forEach (line : Nat) (name : Octets) (words : Option (List (List Part))) (body : Command)
  | choose (line : Nat) (word : List Part) (cases : List (List (List Part) × Command))
  | define (name : Octets) (body : Command)

end

instance : Inhabited Command := ⟨.nothing⟩

end WorkerFleet.Shell
