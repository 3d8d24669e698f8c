import WorkerFleet.Octets
import WorkerFleet.Text.CharClass

/-!
# Patterns

Texts with wildcards, as scripts match them against texts and file names. A quoted character stands
for itself.
-/

namespace WorkerFleet.Shell

open Text

/-- A character of an expanded word. -/
structure Glyph where
  char : Char
  quoted : Bool
  deriving DecidableEq, Repr

abbrev Field := List Glyph

def Field.octets (field : Field) : Octets := field.map (·.char)

/-- One element of a pattern. -/
inductive Atom
  | one (c : Char)
  | any
  | many
  | oneOf (negated : Bool) (members : List SetMember)
  deriving DecidableEq, Repr

def Atom.accepts : Atom → Char → Bool
  | .one d, c => c == d
  | .any, _ => true
  | .many, _ => false
  | .oneOf negated members, c => (members.any (·.accepts c)) != negated

/-- The class at the front of a field, unless any of its characters is quoted. -/
def classAtFront? (field : Field) : Option (CharClass × Field) := do
  let plain := field.takeWhile (!·.quoted)
  let (k, rest) ← CharClass.atFront? (Field.octets plain)
  return (k, field.drop (plain.length - rest.length))

/-- The members of a bracket expression up to its end, which cannot be the first of them. -/
def members : Nat → (isFirst : Bool) → Field → Option (List SetMember × Field)
  | 0, _, _ => none
  | _ + 1, _, [] => none
  | fuel + 1, isFirst, g :: rest =>
    if g = ⟨']', false⟩ && !isFirst then some ([], rest)
    else
      let found? := if g = ⟨'[', false⟩ then classAtFront? rest else none
      match found?, rest with
      | some (k, rest), _ => do
        let (more, rest) ← members fuel false rest
        return (.ofClass k :: more, rest)
      | none, ⟨'-', false⟩ :: last :: rest =>
        if last = ⟨']', false⟩ then do
          let (more, rest) ← members fuel false (⟨'-', false⟩ :: last :: rest)
          return (.range g.char g.char :: more, rest)
        else do
          let (more, rest) ← members fuel false rest
          return (.range g.char last.char :: more, rest)
      | none, rest => do
        let (more, rest) ← members fuel false rest
        return (.range g.char g.char :: more, rest)

/-- The bracket expression behind its opening bracket. -/
def bracket? (field : Field) : Option (Atom × Field) := do
  let negated := field.head? == some ⟨'!', false⟩
  let field := if negated then field.drop 1 else field
  let (found, rest) ← members (field.length + 1) true field
  return (.oneOf negated found, rest)

def atoms : Nat → Field → List Atom
  | 0, _ => []
  | _ + 1, [] => []
  | fuel + 1, ⟨c, quoted⟩ :: rest =>
    if quoted then .one c :: atoms fuel rest
    else if c = '*' then .many :: atoms fuel rest
    else if c = '?' then .any :: atoms fuel rest
    else if c = '[' then
      match bracket? rest with
      | some (atom, rest) => atom :: atoms fuel rest
      | none => .one c :: atoms fuel rest
    else .one c :: atoms fuel rest

/-- Whether a pattern describes the whole text. -/
def matchesAtoms : List Atom → Octets → Bool
  | [], text => text.isEmpty
  | .many :: atoms, text =>
    (List.range (text.length + 1)).any fun n => matchesAtoms atoms (text.drop n)
  | atom :: atoms, c :: text => atom.accepts c && matchesAtoms atoms text
  | _ :: _, [] => false

def Field.isMatch (pattern : Field) (text : Octets) : Bool :=
  matchesAtoms (atoms pattern.length pattern) text

/-- Whether the field holds a wildcard. -/
def Field.isPattern (field : Field) : Bool :=
  field.any fun g => !g.quoted && (g.char == '*' || g.char == '?' || g.char == '[')

/-- Takes away the shortest or longest part at one end of a text that a pattern describes. -/
def strip (fromEnd longest : Bool) (pattern : Field) (text : Octets) : Octets :=
  let elements := atoms pattern.length pattern
  let sizes := List.range (text.length + 1)
  let sizes := if longest then sizes.reverse else sizes
  let piece (n : Nat) := if fromEnd then text.drop (text.length - n) else text.take n
  match sizes.find? fun n => matchesAtoms elements (piece n) with
  | some n => if fromEnd then text.take (text.length - n) else text.drop n
  | none => text

end WorkerFleet.Shell
