import WorkerFleet.Text.Utf8

/-!
# Operating system strings

Arguments, paths and environment values are bytes without a promise that they are text.
-/

namespace WorkerFleet

structure OsString where
  bytes : List UInt8
  deriving DecidableEq, Repr, Inhabited

namespace OsString

def ofText (text : String) : OsString := ⟨Text.Utf8.encode text.toList⟩

/-- The text, if the bytes are valid UTF-8. -/
def text? (s : OsString) : Option String := (Text.Utf8.decode? s.bytes).map String.ofList

/-- The text to show, with U+FFFD for each part that is no character. -/
def display (s : OsString) : String := String.ofList (Text.Utf8.decodeLossy s.bytes)

def isEmpty (s : OsString) : Bool := s.bytes.isEmpty

/-- Whether the string holds a NUL byte, with which the system would end it. -/
def hasNul (s : OsString) : Bool := s.bytes.contains 0

def append (s t : OsString) : OsString := ⟨s.bytes ++ t.bytes⟩

instance : Append OsString := ⟨append⟩

end OsString

end WorkerFleet
