import WorkerFleet.Octets

/-!
# Modes in letters

Permissions are given in letters as changes: for whom, whether they are added, taken away or set,
and which ones.
-/

namespace WorkerFleet.Host.Mode

/-- All permissions. -/
def full : Nat := 0o777

/-- Without the bits of a mask. -/
def without (mode mask : Nat) : Nat := mode - (mode &&& mask)

/-- The permissions of one kind of user in letters. -/
def letters (mode : Nat) : Octets :=
  [(4, 'r'), (2, 'w'), (1, 'x')].filterMap fun p => if mode &&& p.1 ≠ 0 then some p.2 else none

/-- The permissions of all users in nine places. -/
def places (mode : Nat) : Octets :=
  (List.range 9).map fun i =>
    if mode &&& (1 <<< (8 - i)) ≠ 0 then ("rwx".toList[i % 3]?).getD '-' else '-'

/-- How letters are understood. -/
structure Reading where
  before : Nat
  /-- What is not given to anybody if nobody is named. -/
  mask : Nat
  isDirectory : Bool

/-- One change of a mode: whom it concerns, how it changes, and to what. -/
def applyClause (r : Reading) (mode : Nat) (who : Octets) (op : Char) (what : Octets) : Nat :=
  let place (c : Char) : Nat :=
    match c with
    | 'u' => 0o100
    | 'g' => 0o010
    | 'o' => 0o001
    | _ => 0o111
  let users := if who.isEmpty then 0o111 else who.foldl (fun p c => p ||| place c) 0
  let special := if users &&& 0o100 ≠ 0 then 0o4000 else 0
  let special := special ||| (if users &&& 0o010 ≠ 0 then 0o2000 else 0)
  let bits := what.foldl (fun b c =>
    b ||| match c with
      | 'r' => 4
      | 'w' => 2
      | 'x' => 1
      | 'u' => r.before / 64 % 8
      | 'g' => r.before / 8 % 8
      | 'o' => r.before % 8
      | 'X' => if r.isDirectory || r.before &&& 0o111 ≠ 0 then 1 else 0
      | _ => 0) 0
  let meant := bits * users ||| (if what.contains 's' then special else 0) |||
    (if what.contains 't' then 0o1000 else 0)
  let meant := if who.isEmpty then without meant r.mask else meant
  match op with
  | '-' => without mode meant
  | '+' => mode ||| meant
  | _ => meant ||| without mode (without (7 * users) (if who.isEmpty then r.mask else 0))

/-- A mode changed as letters tell, if they can be read. -/
def applyAll (r : Reading) : (fuel : Nat) → Octets → Octets → Nat → Option Nat
  | 0, _, _, _ => none
  | _ + 1, _, [], mode => some mode
  | fuel + 1, who, text, mode =>
    let more := text.takeWhile "augo".toList.contains
    let who := who ++ more
    match text.drop more.length with
    | op :: rest =>
      if !"=+-".toList.contains op then none
      else
        let what := rest.takeWhile "rwxugoXst".toList.contains
        let mode := applyClause r mode who op what
        match rest.drop what.length with
        | [','] => none
        | ',' :: rest => applyAll r fuel [] rest mode
        | rest => if rest.isEmpty then some mode else applyAll r fuel who rest mode
    | [] => none

/-- The mode that octal digits stand for. -/
def ofDigits? (text : Octets) : Option Nat :=
  if text.isEmpty || !text.all fun c => '0' ≤ c && c ≤ '7' then none
  else
    let n := text.foldl (fun n c => n * 8 + (c.toNat - '0'.toNat)) 0
    if n ≤ 0o7777 then some n else none

/-- A mode in digits, or changed as letters tell. -/
def read? (r : Reading) (text : Octets) : Option Nat :=
  if text.head?.any Char.isDigit then ofDigits? text
  else if text.isEmpty then none
  else applyAll r (text.length + 1) [] text r.before

end WorkerFleet.Host.Mode
