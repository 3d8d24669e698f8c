import WorkerFleet.Shell.Script

/-!
# Lexemes of scripts

What the grammar looks at: blanks and comments, reserved words, names and operators, the modes in
which a word is read, and the faults that stop the reading.
-/

namespace WorkerFleet.Shell.Reader

open Octets

/-- Stands for a line that was read before its turn. -/
def passedLine : Char := Char.ofNat 256

/-- Stands before a word that is no alias. -/
def shield : Char := Char.ofNat 257

/-- The characters that end a word unless they are quoted. -/
def isMeta (c : Char) : Bool := " \t\n;&|<>()".toList.contains c || c == passedLine

def skipGap : Octets → Octets
  | ' ' :: rest => skipGap rest
  | '\t' :: rest => skipGap rest
  | '\\' :: '\n' :: rest => skipGap rest
  | c :: rest => if c = passedLine then skipGap rest else c :: rest
  | [] => []

/-- How many lines end in a text. -/
def lineCount (text : Octets) : Nat := text.countP fun c => c == '\n' || c == passedLine

/-- Leaves out blanks and a comment. -/
def skipBlank (input : Octets) : Octets :=
  match skipGap input with
  | '#' :: rest => rest.dropWhile (· != '\n')
  | rest => rest

/-- Leaves out blanks, comments and line ends. -/
def skipLines : Nat → Octets → Octets
  | 0, input => input
  | fuel + 1, input =>
    match skipBlank input with
    | '\n' :: rest => skipLines fuel rest
    | rest => rest

def skipAll (input : Octets) : Octets := skipLines input.length input

/-- The bare word at the front, by which reserved words are recognised. -/
def bareWord (input : Octets) : Octets := input.takeWhile fun c => !isMeta c

def startsWith (word : String) (input : Octets) : Bool := bareWord input == word.toList

/-- Why a script cannot be read, and what remains behind the place where this shows. -/
structure Fault where
  message : String
  rest : Octets
  deriving DecidableEq, Repr

/-- What has been read, with the octets that remain. -/
abbrev Found (α : Type) := α × Octets

/-- The words with a meaning of their own where a command may begin. -/
def reserved : List String :=
  ["!", "\x7b", "\x7d", "case", "do", "done", "elif", "else", "esac", "fi", "for", "if", "in",
   "then", "until", "while"]

/-- The commands of the shell whose names no function can take. -/
def specialBuiltins : List String :=
  [".", ":", "break", "continue", "eval", "exec", "exit", "export", "local", "readonly", "return",
   "set", "shift", "times", "trap", "unset"]

/-- The operators, each before those that begin it. -/
def operators : List String := [";;", ";", "&&", "&", "||", "|", "(", ")"]

def inQuotes (token : String) : String := "\"" ++ token ++ "\""

/-- The number and the operator at the front of a redirection. -/
def redirection? (input : Octets) : Option (Option Nat × Octets) :=
  match input with
  | '<' :: _ | '>' :: _ => some (none, input)
  | d :: '<' :: rest => if d.isDigit then some (some (d.toNat - '0'.toNat), '<' :: rest) else none
  | d :: '>' :: rest => if d.isDigit then some (some (d.toNat - '0'.toNat), '>' :: rest) else none
  | _ => none

/-- How the next token is called in a complaint. -/
def tokenName (input : Octets) : String :=
  match input with
  | [] => "end of file"
  | '\n' :: _ => "newline"
  | input =>
    match operators.find? fun operator => operator.toList.isPrefixOf input with
    | some operator => inQuotes operator
    | none =>
      if (redirection? input).isSome then "redirection"
      else
        match reserved.find? fun word => startsWith word input with
        | some word => inQuotes word
        | none => "word"

/-- The fault of the next token. A line end counts as read. -/
def faultAt (input : Octets) (message : String) : Fault :=
  match input with
  | '\n' :: rest => ⟨message, rest⟩
  | rest => ⟨message, rest⟩

/-- The next token has no place here. -/
def stray {α : Type} (input : Octets) : Except Fault α :=
  .error (faultAt input (tokenName input ++ " unexpected"))

/-- The next token stands where another one must. -/
def lacking {α : Type} (token : String) (input : Octets) : Except Fault α :=
  .error (faultAt input (tokenName input ++ " unexpected (expecting " ++ token ++ ")"))

/-- The script ends within something. -/
def cutOff {α : Type} (message : String) : Except Fault α := .error ⟨message, []⟩

/-- Reads one reserved word. -/
def expect (word : String) (input : Octets) : Except Fault Octets :=
  let input := skipAll input
  if startsWith word input then .ok (input.drop word.length) else lacking (inQuotes word) input

def closers : List String := ["then", "else", "elif", "fi", "do", "done", "esac", "\x7d"]

/-- Whether a list of commands ends here. -/
def endsList : Octets → Bool
  | [] => true
  | ')' :: _ => true
  | ';' :: ';' :: _ => true
  | input => closers.any fun word => startsWith word input

/-- Where the text of a word ends, and whether it stands in double quotes. -/
inductive Mode
  | word
  | inQuotes
  | inBraces (quoted : Bool)
  | whole
  deriving DecidableEq

def Mode.isQuoted : Mode → Bool
  | .word => false
  | .inQuotes => true
  | .inBraces quoted => quoted
  | .whole => true

def Mode.endsAt : Mode → Char → Bool
  | .word, c => isMeta c
  | .inQuotes, c => c == '"'
  | .inBraces _, c => c == '}'
  | .whole, _ => false

/-- What the end of the script means for a word. -/
def Mode.atEnd {α : Type} (mode : Mode) (nothing : α) : Except Fault α :=
  match mode with
  | .word | .whole => .ok nothing
  | .inQuotes => cutOff "Unterminated quoted string"
  | .inBraces _ => cutOff "Missing '\x7d'"

/-- The characters that a backslash protects in double quotes. -/
def isProtected (c : Char) : Bool := c == '$' || c == '\x60' || c == '"' || c == '\\'

/-- The text of an arithmetic expression, up to its two closing parentheses. -/
def arithmeticText : Nat → Octets → Option (Octets × Octets)
  | _, [] => none
  | 0, ')' :: ')' :: rest => some ([], rest)
  | 0, ')' :: _ => none
  | depth + 1, ')' :: rest => (arithmeticText depth rest).map fun r => (')' :: r.1, r.2)
  | depth, '(' :: rest => (arithmeticText (depth + 1) rest).map fun r => ('(' :: r.1, r.2)
  | depth, c :: rest => (arithmeticText depth rest).map fun r => (c :: r.1, r.2)

/-- The script between backquotes, in which a backslash protects only three characters. -/
def backquoted : Octets → Option (Octets × Octets)
  | [] => none
  | '\\' :: c :: rest =>
    (backquoted rest).map fun r =>
      (if c == '$' || c == '\x60' || c == '\\' then c :: r.1 else '\\' :: c :: r.1, r.2)
  | c :: rest =>
    if c == '\x60' then some ([], rest) else (backquoted rest).map fun r => (c :: r.1, r.2)

def isSpecial (c : Char) : Bool := "@*#?$!-".toList.contains c

/-- The name of a parameter. -/
def parameterName : Octets → Option (Octets × Octets)
  | [] => none
  | c :: rest =>
    if isNameStart c then some (c :: rest.takeWhile isNameChar, rest.dropWhile isNameChar)
    else if c.isDigit then some (c :: rest.takeWhile Char.isDigit, rest.dropWhile Char.isDigit)
    else if isSpecial c then some ([c], rest)
    else none

/-- The parameter whose length is asked for, and what follows the braces. -/
def lengthOf? : Octets → Option (Octets × Octets)
  | '#' :: rest =>
    match parameterName rest with
    | some (name, '}' :: rest) => some (name, rest)
    | _ => none
  | _ => none

/-- The lines up to the one that is the delimiter, and what follows it. -/
def hereText (delimiter : Octets) (tabs : Bool) : Nat → Octets → Octets × Octets
  | 0, input => (input, [])
  | fuel + 1, input =>
    if input.isEmpty then ([], [])
    else
      let line := input.takeWhile (· != '\n')
      let line := if tabs then line.dropWhile (· == '\t') else line
      let rest := (input.dropWhile (· != '\n')).drop 1
      if line = delimiter then ([], rest)
      else
        let ending := if input.contains '\n' then ['\n'] else []
        let more := hereText delimiter tabs fuel rest
        (line ++ ending ++ more.1, more.2)

/-- The literal characters of a word, and whether any of them is quoted. -/
def literal (word : List Part) : Octets × Bool :=
  (word.flatMap fun
    | .text _ text => text
    | _ => [],
   word.any fun
    | .text quoted _ => quoted
    | _ => false)

/-- The name that a word assigns to, and what follows its equals sign. -/
def assignment? (input : Octets) : Option (Octets × Octets) :=
  match input with
  | c :: _ =>
    if isNameStart c then
      match input.dropWhile isNameChar with
      | '=' :: rest => some (input.takeWhile isNameChar, rest)
      | _ => none
    else none
  | [] => none

/-- The name of a function definition, and what follows its parentheses. -/
def definition? (input : Octets) : Option (Octets × Octets) :=
  match input with
  | c :: _ =>
    if isNameStart c then
      match skipGap (input.dropWhile isNameChar) with
      | '(' :: rest =>
        match skipGap rest with
        | ')' :: rest => some (input.takeWhile isNameChar, rest)
        | _ => none
      | _ => none
    else none
  | [] => none

/-- Texts that stand in for the first words of commands. -/
abbrev Aliases := List (Octets × Octets)

/-- Protects the words of a text that are in use as aliases already. -/
def shielded (used : List Octets) (isStart : Bool) : Octets → Octets
  | [] => []
  | c :: rest =>
    let isUsed := isStart && !isMeta c && used.contains (bareWord (c :: rest))
    let more := c :: shielded used (isMeta c) rest
    if isUsed then shield :: more else more

/-- Puts the text of an alias in place of the word at the front. If that text ends in a blank, the
next word may be an alias as well. -/
def expandAliases (aliases : Aliases) : (fuel : Nat) → (used : List Octets) → Octets → Octets
  | 0, _, input => input
  | fuel + 1, used, input =>
    let name := bareWord input
    match if used.contains name then none else aliases.lookup name with
    | none => input
    | some text =>
      let rest := input.drop name.length
      let isOpen := text.getLast?.any fun c => c == ' ' || c == '\t'
      let rest := if isOpen then expandAliases aliases fuel used (skipGap rest) else rest
      expandAliases aliases fuel (name :: used) (shielded (name :: used) true text ++ rest)

end WorkerFleet.Shell.Reader
