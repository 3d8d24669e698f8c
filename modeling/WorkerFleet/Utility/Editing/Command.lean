import WorkerFleet.Text.Regex

/-!
# Editing commands

What a script of the line editor consists of: commands with the lines that they are meant for.
-/

namespace WorkerFleet.Utility.Editing

open Text

/-- An expression that lines are compared with. -/
structure Pattern where
  regex : Regex
  groups : Nat
  ignoresCase : Bool := false
  /-- Anchors hold at line ends within the text. -/
  hasLines : Bool := false
  deriving Inhabited

/-- Which line is meant. -/
inductive Address
  | line (number : Nat)
  /-- From a line on each one at such a distance. -/
  | every (first step : Nat)
  | last
  /-- A line that matches; without an expression it is the one that was used last. -/
  | matching (pattern : Option Pattern)

/-- The last line of several. -/
inductive Bound
  | at (address : Address)
  /-- So many lines later. -/
  | after (count : Nat)
  /-- The next line whose number is a multiple. -/
  | multiple (number : Nat)

/-- The lines that a command is meant for. -/
structure Scope where
  first : Option Address := none
  last : Option Bound := none
  isNegated : Bool := false

/-- How letters are changed in a replacement. -/
inductive Casing
  | upper
  | lower
  /-- Only the next letter. -/
  | nextUpper
  | nextLower
  | none
  deriving DecidableEq, Repr

/-- A part of a replacement. -/
inductive Piece
  | text (text : Octets)
  /-- What a group matched, 0 being the whole match. -/
  | group (number : Nat)
  | casing (casing : Casing)
  deriving DecidableEq, Repr

structure Substitution where
  pattern : Option Pattern
  replacement : List Piece
  /-- All matches from this one on, or else only this one. -/
  number : Nat := 1
  isGlobal : Bool := false
  prints : Bool := false
  target : Option Octets := none

inductive Action
  | opening
  | closing
  | label
  | append (text : Octets)
  | insert (text : Octets)
  | change (text : Octets)
  | jump (label : Octets)
  /-- If something has been replaced since the last line or jump. -/
  | jumpIf (label : Octets)
  | jumpUnless (label : Octets)
  | delete
  | deleteFirst
  | fileName
  | fetch
  | fetchAppend
  | hold
  | holdAppend
  | exchange
  | list (width : Option Nat)
  | next
  | nextAppend
  | number
  | print
  | printFirst
  | quit (status : Nat)
  | quitSilently (status : Nat)
  | readFile (file : Octets)
  | readLine (file : Octets)
  | substitute (s : Substitution)
  | translate (pairs : List (Char × Char))
  | writeFile (file : Octets)
  | writeFirst (file : Octets)
  | zap

structure Command where
  scope : Scope
  action : Action

structure Script where
  commands : Array Command := #[]
  /-- Where the labels stand. -/
  labels : List (Octets × Nat) := []
  /-- Where groups of commands begin and end. -/
  groups : List (Nat × Nat) := []
  /-- A comment at the very beginning asks that lines are not printed by themselves. -/
  isSilent : Bool := false

end WorkerFleet.Utility.Editing
