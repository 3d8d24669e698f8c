import WorkerFleet.Shell.Fields
import WorkerFleet.Shell.State

/-!
# Expansion

What the value of a parameter or of a substitution contributes to the word in which it stands, the
home directories that a tilde stands for, and the file names that a pattern stands for.
-/

namespace WorkerFleet.Shell

open Host

def glyphs (quoted : Bool) (text : Octets) : List Piece := text.map fun c => .glyph ⟨c, quoted⟩

/-- The pieces of a value that an expansion gives. -/
def valuePieces (quoted : Bool) (text : Octets) : List Piece :=
  if quoted then .mark :: glyphs true text else text.map .splittable

/-- The pieces of all positional parameters, each a field of its own. -/
def allParameters (quoted : Bool) (parameters : List Octets) : List Piece :=
  [Piece.cut quoted].intercalate (parameters.map (valuePieces quoted))

/-- The text that stands in for a value is cut like one. -/
def loosen (quoted : Bool) (pieces : List Piece) : List Piece :=
  if quoted then .mark :: pieces
  else pieces.map fun
    | .glyph ⟨c, false⟩ => .splittable c
    | p => p

/-- The characters at the front of a word that are not quoted, up to where they end. -/
def plainFront : List Part → Octets
  | .text false text :: rest => text ++ plainFront rest
  | _ => []

/-- The home directory of a user. -/
def homeOf? (s : State) (user : Octets) : Option Octets :=
  if user.isEmpty then s.value? "HOME".toList
  else if user = "root".toList then some "/root".toList
  else none

/-- The length of a tilde with the name of a user at the front of a word, which ends before a slash
and, in the value of a variable, before a colon. -/
def tildeLength? (inValue : Bool) (word : List Part) : Option Nat :=
  let front := plainFront word
  let isEnd (c : Char) : Bool := c == '/' || (inValue && c == ':')
  let size := (front.takeWhile fun c => !isEnd c).length
  if front.head? != some '~' then none
  else if size = front.length && size < word.length then none
  else some size

/-- Puts home directories in place of tildes. Each part of the front holds one character. -/
def expandTildes (s : State) (inValue : Bool) : Nat → List Part → List Part
  | 0, word => word
  | fuel + 1, word =>
    let (front, rest) :=
      match tildeLength? inValue word with
      | none => ([], word)
      | some size =>
        match homeOf? s ((plainFront (word.take size)).drop 1) with
        | some home => ([Part.text true home], word.drop size)
        | none => (word.take size, word.drop size)
    if !inValue then front ++ rest
    else
      let isColon : Part → Bool
        | .text false [':'] => true
        | _ => false
      let before := rest.takeWhile fun p => !isColon p
      match rest.drop before.length with
      | [] => front ++ before
      | colon :: after => front ++ before ++ colon :: expandTildes s inValue fuel after

/-- The names in a directory that a pattern stands for. A dot in front must be written. -/
def namesLike (place : Octets) (pattern : Field) : Eval (List Octets) := do
  let dir := if place.isEmpty then ['.'] else place
  match ← (System.list (.ofOctets dir) : Dialogue System _) with
  | .error _ => return []
  | .ok names =>
    let hidden := (pattern.head?.map (·.char)) == some '.'
    let names := names.map (·.octets)
    let names := if hidden then ['.'] :: ['.', '.'] :: names else names
    return names.filter fun name =>
      (hidden || name.head? != some '.') && pattern.isMatch name

/-- The existing paths that begin with one text and go on with names like these. -/
def pathsLike (start : Octets) : List Field → Eval (List Octets)
  | [] => do
    match ← (System.status (.ofOctets start) false : Dialogue System _) with
    | .ok _ => return [start]
    | .error _ => return []
  | part :: rest => do
    let gap := if rest.isEmpty then [] else ['/']
    if part.isPattern then
      let found ← (← namesLike start part).mapM fun name => pathsLike (start ++ name ++ gap) rest
      return found.flatten
    else pathsLike (start ++ part.octets ++ gap) rest

/-- The paths that a pattern stands for, or the text itself if there is none. -/
def expandPattern (field : Field) : Eval (List Octets) := do
  if !field.isPattern || (← get).has .noglob then return [field.octets]
  let plain := field.map fun g => if g.char = '/' then ⟨'/', false⟩ else g
  let found ← pathsLike [] (Text.splitOn ⟨'/', false⟩ plain)
  if found.isEmpty then return [field.octets]
  return Octets.sorted found

end WorkerFleet.Shell
