import WorkerFleet.Octets

/-!
# Options of the shell

Each option has a name, and most have a letter. Options are turned on by a minus sign and off by a
plus sign.
-/

namespace WorkerFleet.Shell

/-- An option of the shell. -/
inductive Setting
  | errexit
  | noglob
  | ignoreeof
  | interactive
  | monitor
  | noexec
  | stdin
  | xtrace
  | verbose
  | vi
  | emacs
  | noclobber
  | allexport
  | notify
  | nounset
  | privileged
  | nolog
  | debug
  deriving DecidableEq, Repr

namespace Setting

/-- The options with their names and letters, in the order in which they are listed. -/
def table : List (Setting × String × Option Char) := [
  (.errexit, "errexit", some 'e'), (.noglob, "noglob", some 'f'),
  (.ignoreeof, "ignoreeof", some 'I'), (.interactive, "interactive", some 'i'),
  (.monitor, "monitor", some 'm'), (.noexec, "noexec", some 'n'), (.stdin, "stdin", some 's'),
  (.xtrace, "xtrace", some 'x'), (.verbose, "verbose", some 'v'), (.vi, "vi", some 'V'),
  (.emacs, "emacs", some 'E'), (.noclobber, "noclobber", some 'C'),
  (.allexport, "allexport", some 'a'), (.notify, "notify", some 'b'),
  (.nounset, "nounset", some 'u'), (.privileged, "privileged", some 'p'),
  (.nolog, "nolog", none), (.debug, "debug", none)]

def ofLetter? (letter : Char) : Option Setting :=
  (table.find? fun s => s.2.2 == some letter).map (·.1)

def ofName? (name : Octets) : Option Setting :=
  (table.find? fun s => s.2.1.toList == name).map (·.1)

end Setting

/-- The options that are on. -/
abbrev Settings := List Setting

namespace Settings

def set (settings : Settings) (s : Setting) (on : Bool) : Settings :=
  let others := settings.filter (· ≠ s)
  if on then s :: others else others

/-- The letters of the options that are on. -/
def letters (settings : Settings) : Octets :=
  Setting.table.reverse.filterMap fun s => if settings.contains s.1 then s.2.2 else none

/-- A list of all options for a reader. -/
def listing (settings : Settings) : Octets :=
  "Current option settings\n".toList ++ Setting.table.flatMap fun s =>
    s.2.1.toList ++ List.replicate (16 - s.2.1.length) ' ' ++
      (if settings.contains s.1 then "on\n" else "off\n").toList

/-- The commands that would set all options as they are. -/
def commands (settings : Settings) : Octets :=
  Setting.table.flatMap fun s =>
    (if settings.contains s.1 then "set -o " else "set +o ").toList ++ s.2.1.toList ++ ['\n']

end Settings

/-- What arguments say about options. -/
structure SettingReading where
  settings : Settings
  /-- The argument that comes next. -/
  rest : List Octets
  /-- The listings that were asked for. -/
  listings : Octets := []
  /-- A script was announced as an argument. -/
  isScript : Bool := false
  /-- A dash that ended the options, and how many there were. -/
  dashes : Nat := 0
  /-- What is wrong. -/
  fault : Option String := none

namespace SettingReading

/-- Reads the letters of one argument. At the start of a shell there are more of them. -/
def letters (atStart on : Bool) : Octets → SettingReading → SettingReading
  | [], r => r
  | c :: more, r =>
    if atStart && c = 'c' then letters atStart on more { r with isScript := true }
    else if atStart && c = 'l' then letters atStart on more r
    else if c = 'o' then
      match r.rest with
      | [] =>
        let listing := if on then r.settings.listing else r.settings.commands
        letters atStart on more { r with listings := r.listings ++ listing }
      | name :: rest =>
        match Setting.ofName? name with
        | some s =>
          letters atStart on more { r with settings := r.settings.set s on, rest }
        | none => { r with fault := some ("Illegal option -o " ++ String.ofList name) }
    else
      match Setting.ofLetter? c with
      | some s => letters atStart on more { r with settings := r.settings.set s on }
      | none => { r with fault := some ("Illegal option -" ++ c.toString) }

/-- Reads arguments up to the first that is no option. -/
def arguments (atStart : Bool) : Nat → SettingReading → SettingReading
  | 0, r => r
  | fuel + 1, r =>
    match r.rest with
    | ['-'] :: rest => { r with rest, dashes := 1 }
    | ['-', '-'] :: rest => { r with rest, dashes := 2 }
    | ('-' :: flags) :: rest => next fuel (letters atStart true flags { r with rest })
    | ('+' :: flags) :: rest => next fuel (letters atStart false flags { r with rest })
    | _ => r
where
  next (fuel : Nat) (r : SettingReading) : SettingReading :=
    if r.fault.isSome then r else arguments atStart fuel r

def ofArguments (atStart : Bool) (settings : Settings) (args : List Octets) : SettingReading :=
  arguments atStart (args.length + 1) { settings, rest := args }

end SettingReading

end WorkerFleet.Shell
