/-!
# UTF-8

Bytes are read from left to right by a machine that holds at most one unfinished character
(`Tail`). `scan` gives one entry a character, and `none` for each maximal part that belongs to no
character; the strict reading (`decode?`) refuses such a part, the lossy one (`decodeLossy`) puts
U+FFFD in its place.
-/

namespace WorkerFleet.Text.Utf8

/-- A character of which the first bytes have been read: how many bytes follow the next one, the
bits so far, and the bounds of the next byte. -/
structure Tail where
  more : Nat
  bits : Nat
  low : Nat
  high : Nat
  deriving DecidableEq, Repr

/-- What a byte means where a character may begin. -/
inductive Lead
  | char (c : Char)
  | tail (t : Tail)
  | broken
  deriving DecidableEq, Repr

/-- The bounds of the second byte keep out overlong forms, surrogates and values above U+10FFFF. -/
def lead (b : UInt8) : Lead :=
  let n := b.toNat
  if n < 0x80 then .char (Char.ofNat n)
  else if n < 0xC2 then .broken
  else if n < 0xE0 then .tail ⟨0, n - 0xC0, 0x80, 0xBF⟩
  else if n < 0xF0 then
    .tail ⟨1, n - 0xE0, if n = 0xE0 then 0xA0 else 0x80, if n = 0xED then 0x9F else 0xBF⟩
  else if n < 0xF5 then
    .tail ⟨2, n - 0xF0, if n = 0xF0 then 0x90 else 0x80, if n = 0xF4 then 0x8F else 0xBF⟩
  else .broken

/-- A byte that does not continue the unfinished character ends it and is read as a first byte. -/
def scanFrom : Option Tail → List UInt8 → List (Option Char)
  | none, [] => []
  | some _, [] => [none]
  | none, b :: bs =>
    match lead b with
    | .char c => some c :: scanFrom none bs
    | .tail t => scanFrom (some t) bs
    | .broken => none :: scanFrom none bs
  | some t, b :: bs =>
    if t.low ≤ b.toNat ∧ b.toNat ≤ t.high then
      let bits := t.bits * 64 + (b.toNat - 0x80)
      match t.more with
      | 0 => some (Char.ofNat bits) :: scanFrom none bs
      | more + 1 => scanFrom (some ⟨more, bits, 0x80, 0xBF⟩) bs
    else
      none ::
        match lead b with
        | .char c => some c :: scanFrom none bs
        | .tail t => scanFrom (some t) bs
        | .broken => none :: scanFrom none bs

def scan (bytes : List UInt8) : List (Option Char) := scanFrom none bytes

/-- The characters, if the bytes are valid throughout. -/
def decode? (bytes : List UInt8) : Option (List Char) := (scan bytes).mapM id

/-- The characters, with U+FFFD for each invalid part. -/
def decodeLossy (bytes : List UInt8) : List Char := (scan bytes).map (·.getD '\uFFFD')

def encode (text : List Char) : List UInt8 := text.flatMap String.utf8EncodeChar

end WorkerFleet.Text.Utf8
