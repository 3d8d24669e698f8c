import WorkerFleet.OsString

/-!
# Octets

Characters below U+0100 that stand for single bytes, so that texts in no encoding pass through
unharmed.
-/

namespace WorkerFleet

abbrev Octets := List Char

def OsString.octets (s : OsString) : Octets := s.bytes.map fun b => Char.ofNat b.toNat

def OsString.ofOctets (text : Octets) : OsString := ⟨text.map fun c => UInt8.ofNat c.toNat⟩

namespace Octets

/-- The order of texts by their octets. -/
def before (a b : Octets) : Bool := !decide (b < a)

def sorted (texts : List Octets) : List Octets := texts.mergeSort before

/-- The parts between line ends, one more than there are line ends. -/
def parts (text : Octets) : List Octets :=
  text.foldr (fun c parts =>
    match parts with
    | part :: more => if c = '\n' then [] :: part :: more else (c :: part) :: more
    | [] => []) [[]]

/-- The lines of a text; the last one may lack its end. -/
def lines (text : Octets) : List Octets :=
  let parts := text.parts
  if parts.getLast? == some [] then parts.dropLast else parts

/-- The lines with their ends. -/
def fullLines (text : Octets) : List Octets :=
  let parts := text.parts
  let whole := parts.dropLast.map fun line => line ++ ['\n']
  match parts.getLast? with
  | some [] | none => whole
  | some last => whole ++ [last]

/-- Each text as a line. -/
def asLines (texts : List Octets) : Octets := texts.flatMap fun text => text ++ ['\n']

def joined (words : List Octets) : Octets := [' '].intercalate words

/-- The number that decimal digits stand for. -/
def number (digits : Octets) : Nat := digits.foldl (fun n c => n * 10 + (c.toNat - '0'.toNat)) 0

def isNameStart (c : Char) : Bool := c.isAlpha || c == '_'

def isNameChar (c : Char) : Bool := c.isAlphanum || c == '_'

def isName (text : Octets) : Bool := text.head?.any isNameStart && text.all isNameChar

/-- Without the line ends at the end. -/
def trimLineEnds (text : Octets) : Octets := (text.reverse.dropWhile (· == '\n')).reverse

end Octets

end WorkerFleet
