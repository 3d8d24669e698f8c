/-!
# Classes of characters

The classes that patterns and regular expressions know by name; each holds ASCII characters only.
-/

namespace WorkerFleet.Text

inductive CharClass
  | alnum
  | alpha
  | blank
  | cntrl
  | digit
  | graph
  | lower
  | print
  | punct
  | space
  | upper
  | xdigit
  deriving DecidableEq, Repr

namespace CharClass

def names : List (String × CharClass) := [
  ("alnum", .alnum), ("alpha", .alpha), ("blank", .blank), ("cntrl", .cntrl), ("digit", .digit),
  ("graph", .graph), ("lower", .lower), ("print", .print), ("punct", .punct), ("space", .space),
  ("upper", .upper), ("xdigit", .xdigit)]

def ofName? (name : String) : Option CharClass := names.lookup name

def contains (k : CharClass) (c : Char) : Bool :=
  let n := c.toNat
  let isGraph : Bool := 0x21 ≤ n && n ≤ 0x7E
  match k with
  | .alnum => c.isAlphanum
  | .alpha => c.isAlpha
  | .blank => c == ' ' || c == '\t'
  | .cntrl => n < 0x20 || n == 0x7F
  | .digit => c.isDigit
  | .graph => isGraph
  | .lower => c.isLower
  | .print => isGraph || c == ' '
  | .punct => isGraph && !c.isAlphanum
  | .space => c == ' ' || (0x09 ≤ n && n ≤ 0x0D)
  | .upper => c.isUpper
  | .xdigit => c.isDigit || ('a' ≤ c && c ≤ 'f') || ('A' ≤ c && c ≤ 'F')

/-- The class whose name stands between colons at the front of a text, up to its closing bracket,
and what follows. -/
def atFront? (text : List Char) : Option (CharClass × List Char) :=
  match text with
  | ':' :: rest =>
    names.findSome? fun k =>
      let marked := k.1.toList ++ [':', ']']
      if marked.isPrefixOf rest then some (k.2, rest.drop marked.length) else none
  | _ => none

end CharClass

/-- A member of a set in brackets. -/
inductive SetMember
  | range (first last : Char)
  | ofClass (k : CharClass)
  deriving DecidableEq, Repr

def SetMember.accepts : SetMember → Char → Bool
  | .range a b, c => a ≤ c && c ≤ b
  | .ofClass k, c => k.contains c

end WorkerFleet.Text
