import WorkerFleet.Shell.Reader.Lexeme

/-!
# Reading scripts

A recursive descent over the octets. Every function returns what it read and the octets that
remain, or the fault that it met. The fuel bounds the depth of the descent and is computed from the
length of the script. A script is read one line at a time, so that what stands before a fault is
run.
-/

namespace WorkerFleet.Shell.Reader

open Octets

/-- How far a list of commands goes: to the end of its line, or over several lines to a token that
ends it, in which case it may have to hold a command. -/
inductive Extent
  | line
  | block
  | clause
  deriving DecidableEq

/-- After its first command a list need not hold another. -/
def Extent.afterOne : Extent → Extent
  | .line => .line
  | _ => .clause

/-- The fuel is never used up, since it grows with the length of the script. -/
def exhausted {α : Type} : Except Fault α := stray []

/-- What a script is read with: its number of lines, and the aliases. -/
structure Context where
  lines : Nat
  aliases : Aliases := []

/-- The line on which the rest of a script begins. -/
def Context.line (ctx : Context) (rest : Octets) : Nat := ctx.lines + 1 - lineCount rest

/-- How much longer aliases may make a script. -/
def Context.aliasSize (ctx : Context) : Nat :=
  16 * (ctx.aliases.flatMap fun a => a.2).length

/-- The rest of a script with its aliases expanded at the front. -/
def Context.expand (ctx : Context) (rest : Octets) : Octets :=
  if ctx.aliases.isEmpty then rest else expandAliases ctx.aliases (ctx.aliases.length + 1) [] rest

mutual

/-- The parts of a word up to where its mode ends it. -/
def parts (ctx : Context) : Nat → Mode → Octets → Except Fault (Found (List Part))
  | 0, _, _ => exhausted
  | _ + 1, mode, [] => mode.atEnd ([], [])
  | fuel + 1, mode, c :: rest =>
    if mode.endsAt c then .ok ([], c :: rest)
    else do
      let (first, rest) ← part ctx fuel mode c rest
      let (more, rest) ← parts ctx fuel mode rest
      return (first ++ more, rest)

/-- What begins with one character. -/
def part (ctx : Context) : Nat → Mode → Char → Octets → Except Fault (Found (List Part))
  | 0, _, _, _ => exhausted
  | fuel + 1, mode, c, rest =>
    let quoted := mode.isQuoted
    if c = '\\' then
      match rest with
      | [] => .ok ([.text true ['\\']], [])
      | '\n' :: rest => .ok ([], rest)
      | d :: rest =>
        if !quoted || isProtected d || (mode = .inBraces true && d == '}') then
          .ok ([.text true [d]], rest)
        else .ok ([.text true ['\\', d]], rest)
    else if c = '\'' && !quoted then
      match rest.dropWhile (· != '\'') with
      | [] => cutOff "Unterminated quoted string"
      | _ :: after => .ok ([.text true (rest.takeWhile (· != '\''))], after)
    else if c = '"' && mode != .whole then do
      let (inner, rest) ← parts ctx fuel .inQuotes rest
      return (if inner.isEmpty then [.text true []] else inner, rest.drop 1)
    else if c = '$' then dollar ctx fuel quoted rest
    else if c = '\x60' then
      match backquoted rest with
      | none => cutOff "EOF in backquote substitution"
      | some (inner, rest) => do
        let (body, _) ← list ctx fuel .clause inner
        return ([.substitution quoted body], rest)
    else if c = shield then .ok ([], rest)
    else .ok ([.text quoted [c]], rest)

/-- What follows a dollar sign. -/
def dollar (ctx : Context) : Nat → Bool → Octets → Except Fault (Found (List Part))
  | 0, _, _ => exhausted
  | fuel + 1, quoted, input =>
    match input with
    | '(' :: '(' :: rest =>
      match arithmeticText 0 rest with
      | none => cutOff "Missing '))'"
      | some (inner, rest) => do
        let (expression, _) ← parts ctx fuel .whole inner
        return ([.arithmetic quoted expression], rest)
    | '(' :: rest => do
      let (body, rest) ← list ctx fuel .clause rest
      match rest with
      | ')' :: rest => return ([.substitution quoted body], rest)
      | rest => lacking (inQuotes ")") rest
    | '{' :: rest => braced ctx fuel quoted rest
    | c :: rest =>
      if isNameStart c then
        .ok ([.parameter quoted (c :: rest.takeWhile isNameChar) .value],
          rest.dropWhile isNameChar)
      else if c.isDigit || isSpecial c then .ok ([.parameter quoted [c] .value], rest)
      else .ok ([.text quoted ['$']], input)
    | [] => .ok ([.text quoted ['$']], [])

/-- A parameter in braces. -/
def braced (ctx : Context) : Nat → Bool → Octets → Except Fault (Found (List Part))
  | 0, _, _ => exhausted
  | fuel + 1, quoted, input =>
    match lengthOf? input with
    | some (name, rest) => .ok ([.parameter quoted name .length], rest)
    | none => do
      let (name, rest) := (parameterName input).getD ([], input)
      let ending (use : List Part → Use) (mode : Mode) (rest : Octets) :
          Except Fault (Found (List Part)) := do
        let (word, rest) ← parts ctx fuel mode rest
        return ([.parameter quoted name (use word)], rest.drop 1)
      if name.isEmpty then ending (fun _ => .malformed) (.inBraces quoted) rest
      else
        match rest with
        | '}' :: rest => return ([.parameter quoted name .value], rest)
        | '%' :: '%' :: rest => ending (.strip true true) (.inBraces false) rest
        | '%' :: rest => ending (.strip true false) (.inBraces false) rest
        | '#' :: '#' :: rest => ending (.strip false true) (.inBraces false) rest
        | '#' :: rest => ending (.strip false false) (.inBraces false) rest
        | ':' :: '-' :: rest => ending (.orElse true) (.inBraces quoted) rest
        | ':' :: '=' :: rest => ending (.orAssign true) (.inBraces quoted) rest
        | ':' :: '?' :: rest => ending (.orFail true) (.inBraces quoted) rest
        | ':' :: '+' :: rest => ending (.ifSet true) (.inBraces quoted) rest
        | '-' :: rest => ending (.orElse false) (.inBraces quoted) rest
        | '=' :: rest => ending (.orAssign false) (.inBraces quoted) rest
        | '?' :: rest => ending (.orFail false) (.inBraces quoted) rest
        | '+' :: rest => ending (.ifSet false) (.inBraces quoted) rest
        | rest => ending (fun _ => .malformed) (.inBraces quoted) rest

/-- A list of commands. -/
def list (ctx : Context) : Nat → Extent → Octets → Except Fault (Found Command)
  | 0, _, _ => exhausted
  | fuel + 1, extent, input =>
    let input := if extent = .line then skipBlank input else skipAll input
    match input with
    | [] => .ok (.nothing, [])
    | '\n' :: rest => .ok (.nothing, rest)
    | input =>
      if extent = .clause && endsList input then .ok (.nothing, input)
      else do
        let (first, rest) ← chain ctx fuel input
        match skipBlank rest with
        | [] => return (first, [])
        | '\n' :: rest =>
          if extent = .line then return (first, rest)
          else listAfter ctx fuel .clause first rest
        | '&' :: rest => listAfter ctx fuel extent.afterOne (.background first) rest
        | ';' :: ';' :: rest =>
          if extent = .line then stray (';' :: ';' :: rest)
          else return (first, ';' :: ';' :: rest)
        | ';' :: rest => listAfter ctx fuel extent.afterOne first rest
        | rest => if extent = .line then stray rest else return (first, rest)

/-- What follows the first command of a list. -/
def listAfter (ctx : Context) : Nat → Extent → Command → Octets → Except Fault (Found Command)
  | 0, _, _, _ => exhausted
  | fuel + 1, extent, first, input => do
    let (more, rest) ← list ctx fuel extent input
    match more with
    | .nothing => return (first, rest)
    | more => return (.sequence first more, rest)

/-- Pipelines joined by `&&` and `||`. -/
def chain (ctx : Context) : Nat → Octets → Except Fault (Found Command)
  | 0, _ => exhausted
  | fuel + 1, input => do
    let (first, rest) ← pipeline ctx fuel input
    links ctx fuel first rest

def links (ctx : Context) : Nat → Command → Octets → Except Fault (Found Command)
  | 0, _, _ => exhausted
  | fuel + 1, first, input =>
    match skipBlank input with
    | '&' :: '&' :: rest => do
      let (second, rest) ← pipeline ctx fuel (skipAll rest)
      links ctx fuel (.both first second) rest
    | '|' :: '|' :: rest => do
      let (second, rest) ← pipeline ctx fuel (skipAll rest)
      links ctx fuel (.either first second) rest
    | rest => .ok (first, rest)

def pipeline (ctx : Context) : Nat → Octets → Except Fault (Found Command)
  | 0, _ => exhausted
  | fuel + 1, input => do
    let input := skipBlank input
    let negated := startsWith "!" input
    let input := if negated then input.drop 1 else input
    let (first, rest) ← command ctx fuel (skipBlank input)
    let (more, rest) ← pipes ctx fuel rest
    if more.isEmpty && !negated then return (first, rest)
    else return (.pipeline negated (first :: more), rest)

def pipes (ctx : Context) : Nat → Octets → Except Fault (Found (List Command))
  | 0, _ => exhausted
  | fuel + 1, input =>
    match skipBlank input with
    | '|' :: '|' :: rest => .ok ([], '|' :: '|' :: rest)
    | '|' :: rest => do
      let (next, rest) ← command ctx fuel (skipAll rest)
      let (more, rest) ← pipes ctx fuel rest
      return (next :: more, rest)
    | rest => .ok ([], rest)

/-- One command. -/
def command (ctx : Context) : Nat → Octets → Except Fault (Found Command)
  | 0, _ => exhausted
  | fuel + 1, input =>
    let input := ctx.expand input
    let line := ctx.line input
    match input with
    | '(' :: rest => do
      let (body, rest) ← list ctx fuel .block rest
      match rest with
      | ')' :: rest => redirected ctx fuel line (.subshell body) rest
      | rest => lacking (inQuotes ")") rest
    | input =>
      match String.ofList (bareWord input) with
      | "\x7b" => do
        let (body, rest) ← list ctx fuel .block (input.drop 1)
        redirected ctx fuel line body (← expect "\x7d" rest)
      | "if" => do
        let (body, rest) ← branch ctx fuel (input.drop 2)
        redirected ctx fuel line body rest
      | "while" => do
        let (body, rest) ← loop ctx fuel false (input.drop 5)
        redirected ctx fuel line body rest
      | "until" => do
        let (body, rest) ← loop ctx fuel true (input.drop 5)
        redirected ctx fuel line body rest
      | "for" => do
        let (body, rest) ← forEach ctx fuel line (input.drop 3)
        redirected ctx fuel line body rest
      | "case" => do
        let (body, rest) ← choose ctx fuel line (input.drop 4)
        redirected ctx fuel line body rest
      | word =>
        if reserved.contains word then stray input
        else
          match definition? input with
          | some (name, rest) =>
            if specialBuiltins.contains (String.ofList name) then
              .error (faultAt rest "Bad function name")
            else do
              let (body, rest) ← command ctx fuel (skipAll rest)
              return (.define name body, rest)
          | none => simple ctx fuel line [] [] [] input

/-- The redirections of a compound command. -/
def redirected (ctx : Context) : Nat → Nat → Command → Octets → Except Fault (Found Command)
  | 0, _, _, _ => exhausted
  | fuel + 1, line, body, input => do
    let (more, rest) ← redirects ctx fuel input
    return (if more.isEmpty then body else .redirected line body more, rest)

/-- What follows `if` or `elif`. -/
def branch (ctx : Context) : Nat → Octets → Except Fault (Found Command)
  | 0, _ => exhausted
  | fuel + 1, input => do
    let (test, rest) ← list ctx fuel .block input
    let (body, rest) ← list ctx fuel .block (← expect "then" rest)
    if startsWith "elif" rest then
      let (otherwise, rest) ← branch ctx fuel (rest.drop 4)
      return (.branch test body otherwise, rest)
    else if startsWith "else" rest then
      let (otherwise, rest) ← list ctx fuel .block (rest.drop 4)
      return (.branch test body otherwise, ← expect "fi" rest)
    else return (.branch test body .nothing, ← expect "fi" rest)

def loop (ctx : Context) : Nat → Bool → Octets → Except Fault (Found Command)
  | 0, _, _ => exhausted
  | fuel + 1, untilTrue, input => do
    let (test, rest) ← list ctx fuel .block input
    let (body, rest) ← list ctx fuel .block (← expect "do" rest)
    return (.loop untilTrue test body, ← expect "done" rest)

def forEach (ctx : Context) : Nat → Nat → Octets → Except Fault (Found Command)
  | 0, _, _ => exhausted
  | fuel + 1, line, input => do
    let input := skipBlank input
    let name := bareWord input
    let rest := input.drop name.length
    if !isName name then .error (faultAt input "Bad for loop variable")
    else if startsWith "in" (skipAll rest) then
      let (words, rest) ← wordList ctx fuel ((skipAll rest).drop 2)
      match rest with
      | ';' :: ';' :: rest => stray (';' :: ';' :: rest)
      | '\n' :: rest | ';' :: rest => loopOver ctx fuel line name (some words) rest
      | rest => stray rest
    else
      match skipBlank rest with
      | ';' :: rest => loopOver ctx fuel line name none rest
      | rest => loopOver ctx fuel line name none rest

/-- The body of a loop over words. -/
def loopOver (ctx : Context) : Nat → Nat → Octets → Option (List (List Part)) → Octets →
    Except Fault (Found Command)
  | 0, _, _, _, _ => exhausted
  | fuel + 1, line, name, words, input => do
    let (body, rest) ← list ctx fuel .block (← expect "do" input)
    return (.forEach line name words body, ← expect "done" rest)

/-- Words up to the end of the command. -/
def wordList (ctx : Context) : Nat → Octets → Except Fault (Found (List (List Part)))
  | 0, _ => exhausted
  | fuel + 1, input =>
    match skipBlank input with
    | [] => .ok ([], [])
    | c :: rest =>
      if isMeta c then .ok ([], c :: rest)
      else do
        let (word, rest) ← parts ctx fuel .word (c :: rest)
        let (more, rest) ← wordList ctx fuel rest
        return (word :: more, rest)

def choose (ctx : Context) : Nat → Nat → Octets → Except Fault (Found Command)
  | 0, _, _ => exhausted
  | fuel + 1, line, input => do
    let input := skipBlank input
    if input.head?.all isMeta then lacking "word" input
    else
      let (word, rest) ← parts ctx fuel .word input
      let (found, rest) ← cases ctx fuel (← expect "in" rest)
      return (.choose line word found, ← expect "esac" rest)

def cases (ctx : Context) : Nat → Octets → Except Fault (Found (List (List (List Part) × Command)))
  | 0, _ => exhausted
  | fuel + 1, input =>
    let input := skipAll input
    if startsWith "esac" input then .ok ([], input)
    else do
      let input :=
        match input with
        | '(' :: rest => rest
        | input => input
      let (patterns, rest) ← alternatives ctx fuel input
      let (body, rest) ← list ctx fuel .clause rest
      match rest with
      | ';' :: ';' :: rest =>
        let (more, rest) ← cases ctx fuel rest
        return ((patterns, body) :: more, rest)
      | rest =>
        if startsWith "esac" rest then return ([(patterns, body)], rest)
        else lacking (inQuotes ";;") rest

/-- The patterns of a case, up to the parenthesis behind them. -/
def alternatives (ctx : Context) : Nat → Octets → Except Fault (Found (List (List Part)))
  | 0, _ => exhausted
  | fuel + 1, input => do
    let (word, rest) ← parts ctx fuel .word (skipBlank input)
    match skipBlank rest with
    | '|' :: rest =>
      let (more, rest) ← alternatives ctx fuel rest
      return (word :: more, rest)
    | ')' :: rest => return ([word], rest)
    | rest => lacking (inQuotes ")") rest

def redirects (ctx : Context) : Nat → Octets → Except Fault (Found (List Redirect))
  | 0, _ => exhausted
  | fuel + 1, input =>
    let input := skipBlank input
    match redirection? input with
    | none => .ok ([], input)
    | some (descriptor, rest) => do
      let (first, rest) ← redirect ctx fuel descriptor rest
      let (more, rest) ← redirects ctx fuel rest
      return (first :: more, rest)

/-- One redirection, from its operator on. -/
def redirect (ctx : Context) : Nat → Option Nat → Octets → Except Fault (Found Redirect)
  | 0, _, _ => exhausted
  | fuel + 1, descriptor, input =>
    let target (rest : Octets) : Except Fault (Found (List Part)) := do
      let rest := skipBlank rest
      if rest.head?.all isMeta then stray rest else parts ctx fuel .word rest
    let file (least : Nat) (direction : Direction) (rest : Octets) :
        Except Fault (Found Redirect) := do
      let (word, rest) ← target rest
      return (.file (descriptor.getD least) direction word, rest)
    let duplicate (least : Nat) (rest : Octets) : Except Fault (Found Redirect) := do
      let (word, rest) ← target rest
      return (.duplicate (descriptor.getD least) word, rest)
    match input with
    | '<' :: '<' :: rest => do
      let (tabs, rest) :=
        match rest with
        | '-' :: rest => (true, rest)
        | rest => (false, rest)
      let (word, rest) ← target rest
      let (delimiter, quoted) := literal word
      let lineRest := rest.takeWhile (· != '\n')
      let below := (rest.dropWhile (· != '\n')).drop 1
      let (text, after) := hereText delimiter tabs below.length below
      let content ←
        if quoted then pure [Part.text true text]
        else Prod.fst <$> parts ctx fuel .whole text
      let passed := List.replicate (lineCount below - lineCount after) passedLine
      return (.here (descriptor.getD 0) content, lineRest ++ passed ++ '\n' :: after)
    | '<' :: '&' :: rest => duplicate 0 rest
    | '<' :: '>' :: rest => file 0 .both rest
    | '<' :: rest => file 0 .input rest
    | '>' :: '>' :: rest => file 1 .append rest
    | '>' :: '&' :: rest => duplicate 1 rest
    | '>' :: '|' :: rest => file 1 .clobber rest
    | '>' :: rest => file 1 .output rest
    | rest => stray rest

/-- The words, assignments and redirections of a simple command. -/
def simple (ctx : Context) : Nat → Nat → List (Octets × List Part) → List (List Part) →
    List Redirect → Octets → Except Fault (Found Command)
  | 0, _, _, _, _, _ => exhausted
  | fuel + 1, line, assigned, words, found, input =>
    let input := skipBlank input
    match redirection? input with
    | some (descriptor, rest) => do
      let (next, rest) ← redirect ctx fuel descriptor rest
      simple ctx fuel line assigned words (next :: found) rest
    | none =>
      if input.head?.all isMeta then
        if assigned.isEmpty && words.isEmpty && found.isEmpty then stray input
        else
          match input, assigned, words, found with
          | '(' :: rest, [], [_], [] =>
            match skipBlank rest with
            | ')' :: rest => .error ⟨"Bad function name", rest⟩
            | rest => lacking (inQuotes ")") rest
          | _, _, _, _ => .ok (.simple line assigned.reverse words.reverse found.reverse, input)
      else
        match (if words.isEmpty then assignment? input else none) with
        | some (name, rest) => do
          let (value, rest) ← parts ctx fuel .word rest
          simple ctx fuel line ((name, value) :: assigned) words found (ctx.expand (skipBlank rest))
        | none => do
          let (word, rest) ← parts ctx fuel .word input
          simple ctx fuel line assigned (word :: words) found rest

end

/-- What a script holds from here on: nothing, or the commands up to the end of a line. -/
def next (ctx : Context) (text : Octets) : Except Fault (Option (Found Command)) :=
  match skipAll text with
  | [] => .ok none
  | text => some <$> list ctx (16 * (text.length + ctx.aliasSize) + 64) .line text

/-- The parts of a text that is expanded as if it stood in double quotes. -/
def quotedText (text : Octets) : List Part :=
  match parts ⟨lineCount text, []⟩ (16 * text.length + 64) .whole text with
  | .ok (found, _) => found
  | .error _ => [.text true text]

end WorkerFleet.Shell.Reader
