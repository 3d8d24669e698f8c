import WorkerFleet.Shell.Pattern

/-!
# Fields

An expanded word is a list of pieces: characters, some of them quoted, and cuts between fields.
Fields are cut at the separators in unquoted expansions. A separator that is no blank ends a field
together with the blanks around it; blanks by themselves end a field if there is one. The number of
fields may be limited; then the last one holds all that is left, without the separators at its end.
-/

namespace WorkerFleet.Shell

inductive Piece
  /-- Stands as it is; only its quoting matters for patterns. -/
  | glyph (g : Glyph)
  /-- Comes from an unquoted expansion, at whose separators fields are cut. -/
  | splittable (c : Char)
  /-- Keeps a field that would be empty. -/
  | mark
  /-- Ends a field. Without quotes it counts as a blank. -/
  | cut (quoted : Bool)
  deriving DecidableEq, Repr

/-- The characters of a word that is not split. -/
def joinPieces (pieces : List Piece) : Field :=
  pieces.filterMap fun
    | .glyph g => some g
    | .splittable c => some ⟨c, false⟩
    | .mark => none
    | .cut _ => some ⟨' ', false⟩

/-- The work of cutting a word. -/
structure Splitting where
  /-- The latest field in front. -/
  fields : List Field := []
  /-- The latest character in front. -/
  current : Field := []
  /-- The current field counts even if it is empty. -/
  isMarked : Bool := false
  /-- A field has just been ended by a blank. -/
  inGap : Bool := false
  /-- How many separators may still end a field, if that is limited. -/
  room : Option Nat := none
  /-- How much of the last field stays if nothing but separators follows. -/
  kept : Option Nat := none
  deriving Repr

namespace Splitting

def isBlank (c : Char) : Bool := c == ' ' || c == '\t' || c == '\n'

def isUntouched (s : Splitting) : Bool := s.current.isEmpty && !s.isMarked

def push (s : Splitting) (g : Glyph) : Splitting :=
  { s with current := g :: s.current, inGap := false }

/-- Ends the current field. -/
def close (s : Splitting) : Splitting :=
  { s with fields := s.current.reverse :: s.fields, current := [], isMarked := false }

/-- A character of the last field, which holds all that is left. -/
def keep (s : Splitting) (g : Glyph) (isSeparator isGap : Bool) : Splitting :=
  let kept :=
    if isGap then some (s.kept.getD s.current.length)
    else if isSeparator && s.inGap then s.kept
    else none
  { s with current := g :: s.current, kept, inGap := s.inGap && isGap }

/-- A separator that may end the current field. -/
def separate (s : Splitting) (c : Char) (isGap : Bool) : Splitting :=
  if s.inGap then { s with inGap := isGap }
  else if isGap && s.isUntouched then s
  else
    match s.room with
    | some 1 =>
      { s with
        current := ⟨c, false⟩ :: s.current, kept := some s.current.length, room := some 0
        inGap := isGap }
    | room => { s.close with room := room.map (· - 1), inGap := isGap }

def step (separators : Octets) (s : Splitting) : Piece → Splitting
  | .glyph g => s.push g
  | .mark => { s with isMarked := true, inGap := false }
  | .cut true => { s.close with inGap := false }
  | .cut false => s.separate ' ' true
  | .splittable c =>
    let isSeparator := separators.contains c
    let isGap := isSeparator && isBlank c
    if s.room = some 0 then s.keep ⟨c, false⟩ isSeparator isGap
    else if isSeparator then s.separate c isGap
    else s.push ⟨c, false⟩

/-- The fields in their order. -/
def finish (s : Splitting) : List Field :=
  let last := match s.kept with
    | some n => s.current.reverse.take n
    | none => s.current.reverse
  (if last.isEmpty && !s.isMarked then s.fields else last :: s.fields).reverse

end Splitting

/-- The fields of a word. -/
def splitPieces (separators : Octets) (limit : Option Nat) (pieces : List Piece) : List Field :=
  (pieces.foldl (Splitting.step separators) { room := limit }).finish

end WorkerFleet.Shell
