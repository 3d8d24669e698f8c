import WorkerFleet.Octets
import WorkerFleet.Text.CharClass

/-!
# Regular expressions

Basic and extended expressions with groups and references to them. Of all matches that begin in one
place the longest counts; earlier parts of the expression take as much of it as they can.
-/

namespace WorkerFleet.Text

/-- A place without width. -/
inductive Anchor
  | lineStart
  | lineEnd
  | textStart
  | textEnd
  | wordStart
  | wordEnd
  | wordEdge
  | noWordEdge
  deriving DecidableEq, Repr

inductive Regex
  | empty
  | char (c : Char)
  | any
  | set (negated : Bool) (members : List SetMember)
  | anchor (a : Anchor)
  | group (number : Nat) (body : Regex)
  | reference (number : Nat)
  | sequence (first second : Regex)
  | choice (first second : Regex)
  | repeated (least : Nat) (most : Option Nat) (body : Regex)
  deriving Repr, Inhabited

namespace Regex

/-- Why an expression cannot be read. -/
inductive Fault
  | invalid
  | openBracket
  | openGroup
  | closedGroup
  | openBrace
  | badBrace
  | badRange
  | badReference
  | badClass
  | trailingBackslash
  | nothingToRepeat
  | tooBig
  deriving DecidableEq, Repr

def Fault.message : Fault → String
  | .invalid => "Invalid regular expression"
  | .openBracket => "Unmatched [, [^, [:, [., or [="
  | .openGroup => "Unmatched ( or \\("
  | .closedGroup => "Unmatched ) or \\)"
  | .openBrace => "Unmatched \\\x7b"
  | .badBrace => "Invalid content of \\\x7b\\\x7d"
  | .badRange => "Invalid range end"
  | .badReference => "Invalid back reference"
  | .badClass => "Invalid character class name"
  | .trailingBackslash => "Trailing backslash"
  | .nothingToRepeat => "Invalid preceding regular expression"
  | .tooBig => "Regular expression too big"

/-! ## Reading -/

/-- The members of a set up to its closing bracket, which cannot be the first of them. -/
def members : (fuel : Nat) → (isFirst : Bool) → Octets →
    Except Fault (List SetMember × Octets)
  | 0, _, _ => .error .openBracket
  | _ + 1, _, [] => .error .openBracket
  | fuel + 1, isFirst, c :: rest => do
    if c = ']' && !isFirst then return ([], rest)
    let (member, rest) ←
      match c, rest with
      | '[', ':' :: more =>
        match CharClass.atFront? rest with
        | some (k, rest) => pure (SetMember.ofClass k, rest)
        | none => .error (if (more.dropWhile Char.isAlpha).take 2 = ":]".toList then .badClass
            else .openBracket)
      | '[', d :: x :: e :: ']' :: rest =>
        if (d = '.' || d = '=') && d = e then pure (SetMember.range x x, rest)
        else pure (.range c c, d :: x :: e :: ']' :: rest)
      | c, '-' :: last :: rest =>
        if last = ']' then pure (.range c c, '-' :: last :: rest)
        else if last < c then .error .badRange
        else pure (.range c last, rest)
      | c, rest => pure (.range c c, rest)
    let (more, rest) ← members fuel false rest
    return (member :: more, rest)

/-- The set behind its opening bracket. -/
def readSet (text : Octets) : Except Fault (Regex × Octets) := do
  let negated := text.head? == some '^'
  let text := if negated then text.drop 1 else text
  if text.isEmpty then throw .invalid
  let (found, rest) ← members (text.length + 1) true text
  return (.set negated found, rest)

/-- The bounds between braces, up to the closing one. -/
def readBounds (isExtended : Bool) (text : Octets) :
    Except Fault (Nat × Option Nat × Octets) := do
  let least := text.takeWhile Char.isDigit
  let (most, rest) :=
    match text.drop least.length with
    | ',' :: rest =>
      let most := rest.takeWhile Char.isDigit
      (if most.isEmpty then none else some (Octets.number most), rest.drop most.length)
    | rest => (some (Octets.number least), rest)
  let closing := if isExtended then ['\x7d'] else ['\\', '\x7d']
  if rest.isEmpty then throw .openBrace
  if !closing.isPrefixOf rest then throw .badBrace
  let low := Octets.number least
  if most.any (· < low) then throw .badBrace
  if 32767 < max low (most.getD 0) then throw .tooBig
  return (low, most, rest.drop closing.length)

def wordClass : List SetMember := [.ofClass .alnum, .range '_' '_']

/-- What a letter behind a backslash stands for in both notations. -/
def letter? (c : Char) : Option Regex :=
  match c with
  | 'w' => some (.set false wordClass)
  | 'W' => some (.set true wordClass)
  | 's' => some (.set false [.ofClass .space])
  | 'S' => some (.set true [.ofClass .space])
  | 'b' => some (.anchor .wordEdge)
  | 'B' => some (.anchor .noWordEdge)
  | '<' => some (.anchor .wordStart)
  | '>' => some (.anchor .wordEnd)
  | '\x60' => some (.anchor .textStart)
  | '\'' => some (.anchor .textEnd)
  | _ => none

/-- What the text begins with. -/
inductive Mark
  | opening
  | closing
  | bar
  | star
  | plus
  | optional
  | brace
  | literal (c : Char)
  | escaped (c : Char)
  | finish
  | backslash

/-- The mark at the front of a text in one of the notations, and what follows. -/
def mark (isExtended : Bool) (text : Octets) : Mark × Octets :=
  match text with
  | [] => (.finish, [])
  | ['\\'] => (.backslash, [])
  | '\\' :: c :: rest =>
    if isExtended then (.escaped c, rest)
    else
      match c with
      | '(' => (.opening, rest)
      | ')' => (.closing, rest)
      | '|' => (.bar, rest)
      | '+' => (.plus, rest)
      | '?' => (.optional, rest)
      | '\x7b' => (.brace, rest)
      | c => (.escaped c, rest)
  | '*' :: rest => (.star, rest)
  | c :: rest =>
    if !isExtended then (.literal c, rest)
    else
      match c with
      | '(' => (.opening, rest)
      | ')' => (.closing, rest)
      | '|' => (.bar, rest)
      | '+' => (.plus, rest)
      | '?' => (.optional, rest)
      | '\x7b' =>
        if rest.head?.any fun d => d.isDigit || d == ',' then (.brace, rest) else (.literal c, rest)
      | c => (.literal c, rest)

/-- Whether a dollar sign in front of this text stands at the end of something. -/
def endsHere (isExtended : Bool) (rest : Octets) : Bool :=
  isExtended ||
    match (mark isExtended rest).1 with
    | .finish | .closing | .bar => true
    | _ => false

/-- An expression with what follows it and the number of groups so far. -/
abbrev Reading := Regex × Octets × Nat

mutual

/-- Alternatives. -/
def readChoice (isExtended : Bool) : (fuel : Nat) → (depth groups : Nat) → Octets →
    Except Fault Reading
  | 0, _, _, _ => .error .tooBig
  | fuel + 1, depth, groups, text => do
    let (first, rest, groups) ← readSequence isExtended fuel depth groups true .empty text
    match mark isExtended rest with
    | (.bar, rest) =>
      let (second, rest, groups) ← readChoice isExtended fuel depth groups rest
      return (.choice first second, rest, groups)
    | _ => return (first, rest, groups)

/-- What follows one another, behind what has been read. -/
def readSequence (isExtended : Bool) : Nat → Nat → Nat → (isStart : Bool) → Regex → Octets →
    Except Fault Reading
  | 0, _, _, _, _, _ => .error .tooBig
  | fuel + 1, depth, groups, isStart, before, text => do
    let follow (next : Regex) (rest : Octets) (groups : Nat) (isStart : Bool) :
        Except Fault Reading := do
      let (next, rest) ← readRepeats isExtended fuel next rest
      readSequence isExtended fuel depth groups isStart (.sequence before next) rest
    match mark isExtended text with
    | (.finish, _) => return (before, text, groups)
    | (.bar, _) => return (before, text, groups)
    | (.backslash, _) => throw .trailingBackslash
    | (.closing, rest) =>
      if 0 < depth then return (before, text, groups)
      else if isExtended then follow (.char ')') rest groups false
      else throw .closedGroup
    | (.opening, rest) =>
      let number := groups + 1
      let (body, rest, groups) ← readChoice isExtended fuel (depth + 1) number rest
      match mark isExtended rest with
      | (.closing, rest) => follow (.group number body) rest groups false
      | _ => throw .openGroup
    | (.star, rest) =>
      if isStart then
        if isExtended then readSequence isExtended fuel depth groups true before rest
        else follow (.char '*') rest groups false
      else readSequence isExtended fuel depth groups false before rest
    | (.plus, rest) | (.optional, rest) =>
      if isStart then
        if isExtended then readSequence isExtended fuel depth groups true before rest
        else follow (.char ((text.drop 1).headD '+')) rest groups false
      else readSequence isExtended fuel depth groups false before rest
    | (.brace, rest) =>
      if isExtended then
        match readBounds true rest with
        | .ok (_, _, rest) => readSequence isExtended fuel depth groups isStart before rest
        | .error _ => follow (.char '\x7b') rest groups false
      else throw .nothingToRepeat
    | (.escaped c, rest) =>
      if c.isDigit && c ≠ '0' then
        let number := c.toNat - '0'.toNat
        if groups < number then throw .badReference else follow (.reference number) rest groups false
      else
        match letter? c with
        | some next => follow next rest groups false
        | none => follow (.char (if c = 'n' then '\n' else c)) rest groups false
    | (.literal c, rest) =>
      if c = '[' then
        let (found, rest) ← readSet rest
        follow found rest groups false
      else if c = '.' then follow .any rest groups false
      else if c = '^' && (isExtended || isStart) then
        readSequence isExtended fuel depth groups true (.sequence before (.anchor .lineStart)) rest
      else if c = '$' && endsHere isExtended rest then
        follow (.anchor .lineEnd) rest groups false
      else follow (.char c) rest groups false

/-- What says how often something stands there. -/
def readRepeats (isExtended : Bool) : Nat → Regex → Octets → Except Fault (Regex × Octets)
  | 0, _, _ => .error .tooBig
  | fuel + 1, body, text => do
    match mark isExtended text with
    | (.star, rest) => readRepeats isExtended fuel (.repeated 0 none body) rest
    | (.plus, rest) => readRepeats isExtended fuel (.repeated 1 none body) rest
    | (.optional, rest) => readRepeats isExtended fuel (.repeated 0 (some 1) body) rest
    | (.brace, rest) =>
      match readBounds isExtended rest with
      | .ok (least, most, rest) => readRepeats isExtended fuel (.repeated least most body) rest
      | .error fault => if isExtended then return (body, text) else throw fault
    | _ => return (body, text)

end

/-- An expression and the number of its groups. -/
def read (isExtended : Bool) (text : Octets) : Except Fault (Regex × Nat) := do
  let (found, rest, groups) ← readChoice isExtended (8 * text.length + 16) 0 0 text
  if rest.isEmpty then return (found, groups) else throw .closedGroup

/-- An expression that describes one text. -/
def ofText (text : Octets) : Regex := text.foldr (fun c r => .sequence (.char c) r) .empty

/-! ## Matching -/

/-- A place in the text that a match has come to, and the groups on the way, the latest first. -/
structure Progress where
  place : Nat
  groups : List (Nat × Nat × Nat) := []
  deriving Repr

/-- How a text is looked at. -/
structure View where
  text : Array Char
  ignoresCase : Bool
  /-- Anchors of lines hold at line ends within the text. -/
  hasLines : Bool := false

namespace View

def alike (v : View) (a b : Char) : Bool :=
  a == b || (v.ignoresCase && a.toLower == b.toLower)

def isWordAt (v : View) (place : Nat) : Bool :=
  (v.text[place]?).any fun c => c.isAlphanum || c == '_'

def isWordBefore (v : View) (place : Nat) : Bool := 0 < place && v.isWordAt (place - 1)

def holds (v : View) (place : Nat) : Anchor → Bool
  | .lineStart => place == 0 || (v.hasLines && v.text[place - 1]? == some '\n')
  | .lineEnd => place == v.text.size || (v.hasLines && v.text[place]? == some '\n')
  | .textStart => place == 0
  | .textEnd => place == v.text.size
  | .wordStart => !v.isWordBefore place && v.isWordAt place
  | .wordEnd => v.isWordBefore place && !v.isWordAt place
  | .wordEdge => v.isWordBefore place != v.isWordAt place
  | .noWordEdge => v.isWordBefore place == v.isWordAt place

end View

/-- Of several ways to a place the first one counts. -/
def distinct (found : List Progress) : List Progress :=
  (found.foldl (fun (kept : List Progress) p =>
    if kept.any (·.place == p.place) then kept else p :: kept) []).reverse

/-- Goes one step if the next character is right. -/
def oneChar (v : View) (accepts : Char → Bool) (p : Progress) : List Progress :=
  match v.text[p.place]? with
  | some c => if accepts c then [{ p with place := p.place + 1 }] else []
  | none => []

/-- All places that any number of steps leads to, the farthest first. -/
def closure (step : Progress → List Progress) : (fuel : Nat) → (seen : List Progress) →
    List Progress → List Progress
  | 0, seen, _ => seen
  | fuel + 1, seen, front =>
    let new := (distinct (front.flatMap step)).filter fun p => !seen.any (·.place == p.place)
    if new.isEmpty then seen else closure step fuel (seen ++ new) new

/-- The places that so many steps lead to. -/
def steps (step : Progress → List Progress) : Nat → List Progress → List Progress
  | 0, front => front
  | n + 1, front => steps step n (distinct (front.flatMap step))

/-- The places that up to so many steps lead to, those of more steps in front. -/
def stepsUpTo (step : Progress → List Progress) : Nat → List Progress → List Progress
  | 0, front => front
  | n + 1, front =>
    let next := distinct (front.flatMap step)
    if next.isEmpty then front else stepsUpTo step n next ++ front

/-- The places that a match may lead to. -/
def advance (v : View) : Regex → Progress → List Progress
  | .empty, p => [p]
  | .char c, p => oneChar v (v.alike c) p
  | .any, p => oneChar v (fun _ => true) p
  | .set negated found, p =>
    oneChar v (fun c =>
      (found.any fun m => m.accepts c || (v.ignoresCase &&
        (m.accepts c.toLower || m.accepts c.toUpper))) != negated) p
  | .anchor a, p => if v.holds p.place a then [p] else []
  | .group number body, p =>
    (advance v body p).map fun q => { q with groups := (number, p.place, q.place) :: q.groups }
  | .reference number, p =>
    match p.groups.lookup number with
    | none => []
    | some (first, last) =>
      let size := last - first
      let same := (List.range size).all fun i =>
        match v.text[first + i]?, v.text[p.place + i]? with
        | some a, some b => v.alike a b
        | _, _ => false
      if same then [{ p with place := p.place + size }] else []
  | .sequence first second, p => distinct ((advance v first p).flatMap (advance v second))
  | .choice first second, p =>
    let found := distinct (advance v first p ++ advance v second p)
    found.mergeSort fun a b => b.place ≤ a.place
  | .repeated least most body, p =>
    let start := steps (advance v body) least [p]
    let found :=
      match most with
      | none => closure (advance v body) (v.text.size + 2) start start
      | some most => stepsUpTo (advance v body) (most - least) start
    distinct (found.mergeSort fun a b => b.place ≤ a.place)

/-- The longest match that begins in a place. -/
def matchAt? (r : Regex) (v : View) (place : Nat) : Option Progress :=
  (r.advance v { place }).foldl (fun best p =>
    match best with
    | none => some p
    | some q => if q.place < p.place then some p else some q) none

/-- The first match from a place on, with its beginning. -/
def find? (r : Regex) (v : View) (place : Nat) : Option (Nat × Progress) :=
  ((List.range (v.text.size + 1 - place)).map (place + ·)).findSome? fun start =>
    (r.matchAt? v start).map (start, ·)

/-- A part of the text. -/
def View.part (v : View) (first last : Nat) : Octets := (v.text.extract first last).toList

/-- What a group matched, the whole match being group 0. -/
def groupText (v : View) (start : Nat) (p : Progress) (number : Nat) : Octets :=
  if number = 0 then v.part start p.place
  else
    match p.groups.lookup number with
    | some (first, last) => v.part first last
    | none => []

end Regex

end WorkerFleet.Text
