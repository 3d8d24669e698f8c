import WorkerFleet.Octets

/-!
# Quoting in complaints

Texts from outside are set off from the message around them. There are two ways: a plain one, with
escapes for what cannot be printed, and one that gives a word that a shell reads back.
-/

namespace WorkerFleet.Utility

def octal (n : Nat) : Octets :=
  [n / 64 % 8, n / 8 % 8, n % 8].map fun d => Char.ofNat ('0'.toNat + d)

def isPrintable (c : Char) : Bool := 0x20 ≤ c.toNat && c.toNat < 0x7F

/-- The escape of a character that cannot be printed. -/
def escaped (c : Char) : Octets :=
  match [('\x07', 'a'), ('\x08', 'b'), ('\x0c', 'f'), ('\n', 'n'), ('\r', 'r'), ('\t', 't'),
    ('\x0b', 'v')].lookup c with
  | some letter => ['\\', letter]
  | none => '\\' :: octal c.toNat

/-- Between quotes, with escapes. -/
def quote (text : Octets) : String :=
  let inner := text.flatMap fun c =>
    if c = '\\' || c = '\'' then ['\\', c] else if isPrintable c then [c] else escaped c
  "'" ++ String.ofList inner ++ "'"

/-- Whether a shell takes the character for more than itself. -/
def isShellSpecial (c : Char) : Bool := " !\"$&()*;<=>?[^`|'\\".toList.contains c

/-- Whether a text has to be quoted for a shell. -/
def needsQuotes (text : Octets) : Bool :=
  text.isEmpty || text = ['{'] || text = ['}'] || text.head? == some '#' ||
    text.head? == some '~' || text.any fun c => (c != '\\' && isShellSpecial c) || !isPrintable c

/-- The characters of a text between single quotes, with escapes outside of them. -/
def singleQuoted (isOutside : Bool) : Octets → Octets
  | [] => if isOutside then [] else ['\'']
  | c :: rest =>
    if c = '\'' then
      (if isOutside then ['\''] else []) ++ "'\\''".toList ++ singleQuoted false rest
    else if isPrintable c then
      (if isOutside then ['\''] else []) ++ c :: singleQuoted false rest
    else
      (if isOutside then [] else "'".toList) ++ "$'".toList ++ escaped c ++ '\'' ::
        singleQuoted true rest

/-- A text as a word that a shell reads back. -/
def shellWord (text : Octets) : Octets :=
  let plain := text.all fun c => isPrintable c && !"\"$`\\!".toList.contains c
  if text.contains '\'' && plain then '"' :: text ++ ['"']
  else singleQuoted false text |> ('\'' :: ·)

/-- A text as such a word, in quotes only if it needs them. -/
def quotedIfNeeded (text : Octets) : Octets := if needsQuotes text then shellWord text else text

/-- A name in a complaint, always in quotes. -/
def quoteName (text : Octets) : String := String.ofList (shellWord text)

/-- A name at the beginning of a complaint, in quotes only if it needs them. -/
def plainName (text : Octets) : String :=
  String.ofList (if needsQuotes text || text.contains ':' then shellWord text else text)

end WorkerFleet.Utility
