import WorkerFleet.Text.Unprintable

/-!
# Quoted text

A text in double quotes on one line: the quote, the backslash and the four named control
characters are written with a backslash, and whatever would not be seen by itself as `\u{…}` with
the code point in lower-case hexadecimal.
-/

namespace WorkerFleet.Text.Quoted

def codePoint (c : Char) : List Char :=
  ['\\', 'u', '{'] ++ Nat.toDigits 16 c.toNat ++ ['}']

/-- How one character is written between the quotes. -/
def escape (c : Char) : List Char :=
  if c = '\x00' then ['\\', '0']
  else if c = '\t' then ['\\', 't']
  else if c = '\r' then ['\\', 'r']
  else if c = '\n' then ['\\', 'n']
  else if c = '"' then ['\\', '"']
  else if c = '\\' then ['\\', '\\']
  else if isExtending c || isUnprintable c then codePoint c
  else [c]

def quote (text : List Char) : List Char := '"' :: (text.flatMap escape ++ ['"'])

end WorkerFleet.Text.Quoted
