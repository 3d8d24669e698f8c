import WorkerFleet.Text.Utf8

/-!
# Texts that a terminal shows

A text may hold sequences that tell a terminal to do something, and control characters. What is
visible of it is the rest: every sequence is left out from its escape character to its end, and of
the control characters only white space is kept.
-/

namespace WorkerFleet.Text.Terminal

/-- What a character may mean within a sequence. -/
inductive Sign
  | mark
  | digit
  | privateMark
  | final
  | other
  deriving DecidableEq, Repr

def signOf (c : Char) : Sign :=
  let n := c.toNat
  if 0x20 ≤ n && n ≤ 0x2F then .mark
  else if 0x30 ≤ n && n ≤ 0x3B then .digit
  else if 0x3C ≤ n && n ≤ 0x3F then .privateMark
  else if 0x40 ≤ n && n ≤ 0x7E then .final
  else .other

/-- How far a control sequence has been read. -/
inductive Phase
  | entry
  | parameters
  | intermediates
  /-- Nothing but the end counts any more. -/
  | malformed
  deriving DecidableEq, Repr

/-- Where a terminal stands in the text that it reads. -/
inductive State
  | ground
  /-- After the escape character. -/
  | escape
  /-- In a sequence whose last character is yet to come. -/
  | escapeTail
  | control (phase : Phase)
  /-- In the head of a text for the device. -/
  | device (phase : Phase)
  /-- In a text for the device. -/
  | deviceText
  /-- In a text for nobody. -/
  | idleText
  /-- In a text for the system, which a bell ends. -/
  | command
  deriving DecidableEq, Repr

/-- The phase to which a character leads, if the sequence goes on with it. -/
def Phase.next (phase : Phase) (sign : Sign) : Phase :=
  match phase, sign with
  | .malformed, _ => .malformed
  | .entry, .mark | .parameters, .mark => .intermediates
  | .entry, .digit | .entry, .privateMark => .parameters
  | .parameters, .privateMark => .malformed
  | .intermediates, .digit | .intermediates, .privateMark => .malformed
  | phase, _ => phase

/-- The byte that ends a text for the device or for nobody. -/
def textEnd : UInt8 := 0x9C

/-- Whether a character holds the byte that ends a text. -/
def holdsTextEnd (c : Char) : Bool := (Utf8.encode [c]).contains textEnd

/-- Where the character after the escape character leads. -/
def afterEscape (c : Char) : State :=
  match c with
  | '[' => .control .entry
  | ']' => .command
  | 'P' => .device .entry
  | 'X' | '^' | '_' => .idleText
  | c =>
    match signOf c with
    | .mark => .escapeTail
    | .other => .escape
    | _ => .ground

/-- Where a character leads. Two control characters break any sequence off and the escape character
begins a new one; a character that means nothing in a place changes nothing. -/
def State.next (s : State) (c : Char) : State :=
  if c = '\x18' ∨ c = '\x1a' then .ground
  else if c = '\x1b' then .escape
  else
    let sign := signOf c
    match s with
    | .ground => .ground
    | .escape => afterEscape c
    | .escapeTail => if sign = .mark ∨ sign = .other then .escapeTail else .ground
    | .control phase => if sign = .final then .ground else .control (phase.next sign)
    | .device .malformed => if holdsTextEnd c then .ground else .device .malformed
    | .device phase => if sign = .final then .deviceText else .device (phase.next sign)
    | .deviceText => if holdsTextEnd c then .ground else .deviceText
    | .idleText => if holdsTextEnd c then .ground else .idleText
    | .command => if c = '\x07' then .ground else .command

/-- The control characters that move on to another place. -/
def isSpacing (c : Char) : Bool := c == '\t' || c == '\n' || c == '\x0C' || c == '\r'

/-- Whether a character shows. White space shows within short sequences too. -/
def State.shows (s : State) (c : Char) : Bool :=
  match s with
  | .ground => isSpacing c || (0x20 ≤ c.toNat && c.toNat != 0x7F)
  | .escape | .escapeTail | .control _ => isSpacing c
  | _ => false

/-- Where a text is shown. -/
inductive Medium
  /-- White space that shows within a sequence breaks it off. -/
  | page
  /-- Within a sequence a stretch of text that begins with white space shows up to the first
  character that would not show by itself; only there the sequence goes on. -/
  | stream
  deriving DecidableEq, Repr

/-- What is left of a sequence after one of its characters has been shown. -/
def Medium.after (medium : Medium) (s : State) (c : Char) : State :=
  match medium with
  | .page => .ground
  | .stream => if c.toNat < 0x80 then s else .ground

/-- The visible part of a text that is read from some state on, perhaps in the middle of a stretch
that shows. -/
def visibleFrom (medium : Medium) : (s : State) → (inStretch : Bool) → List Char → List Char
  | _, _, [] => []
  | s, inStretch, c :: rest =>
    if (if inStretch then State.ground else s).shows c then
      c :: visibleFrom medium (medium.after s c) true rest
    else visibleFrom medium (s.next c) false rest

/-- What a text shows on a medium. -/
def Medium.visible (medium : Medium) (text : String) : String :=
  String.ofList (visibleFrom medium .ground false text.toList)

end WorkerFleet.Text.Terminal
