import WorkerFleet.CommandLine.Parser
import WorkerFleet.Proofs.Numerals
import WorkerFleet.Proofs.Splitting

/-!
# What one word of the command line does

The words that mean something to the reader, and how it takes each of them. Any other word before
the first `--` stops it.

* `step_separator`, `step_joined`, `step_flag`, `step_switch`, `step_word`, `step_negative`: the
  words that are taken.
* `taken_of_step`: there are no others.
-/

namespace WorkerFleet

section

variable {ε α β : Type} {x : Except ε α} {b : β}

/-- What succeeds has succeeded at each step. -/
theorem ok_of_bind {f : α → Except ε β} (h : x >>= f = .ok b) : ∃ a, x = .ok a ∧ f a = .ok b := by
  cases x with
  | error e => cases h
  | ok a => exact ⟨a, rfl, h⟩

theorem ok_of_map {f : α → β} (h : x.map f = .ok b) : ∃ a, x = .ok a ∧ f a = b := by
  cases x with
  | error e => cases h
  | ok a => exact ⟨a, rfl, Except.ok.inj h⟩

end

namespace CommandLine

open Text

def separator : OsString := .ofText "--"

def flag (name : String) : OsString := .ofText ("--" ++ name)

def joined (option : ValueOption) (value : OsString) : OsString :=
  ⟨(flag option.name).bytes ++ Reader.equalsSign :: value.bytes⟩

theorem flag_bytes (name : String) :
    (flag name).bytes = 45 :: 45 :: (OsString.ofText name).bytes := by
  rw [flag, OsString.ofText, String.toList_append]
  rfl

namespace Argument

theorem ofName?_value (option : ValueOption) : ofName? option.name = some (.value option) := by
  cases option <;> rfl

theorem ofName?_switch (switch : Switch) : ofName? switch.name = some (.switch switch) := by
  cases switch <;> rfl

theorem mem_named {name : String} {argument : Argument} (h : ofName? name = some argument) :
    (name, argument) ∈ named := by
  obtain ⟨before, after, heq, _⟩ := List.lookup_eq_some_iff.mp h
  rw [heq]
  exact List.mem_append_right _ List.mem_cons_self

/-- An option has one name. -/
theorem eq_of_ofName?_value {name : String} {option : ValueOption}
    (h : ofName? name = some (.value option)) : name = option.name := by
  have hall : ∀ entry ∈ named, entry.2 = .value option → entry.1 = option.name := by
    cases option <;> decide
  exact hall _ (mem_named h) rfl

theorem eq_of_ofName?_switch {name : String} {switch : Switch}
    (h : ofName? name = some (.switch switch)) : name = switch.name := by
  have hall : ∀ entry ∈ named, entry.2 = .switch switch → entry.1 = switch.name := by
    cases switch <;> decide
  exact hall _ (mem_named h) rfl

/-- The name of an option is read from the bytes that hold it. -/
theorem text?_bind_ofName? {name : String} {argument : Argument}
    (h : ofName? name = some argument) :
    (OsString.ofText name).text?.bind ofName? = some argument := by
  rw [OsString.text?_ofText, Option.bind_some, h]

end Argument

namespace Reader

/-- Stores an argument that is accepted. -/
def keep (r : Reader) (p : Pending) : Except Stop Reader :=
  match r.store p with
  | (_, some stop) => .error stop
  | (r, none) => .ok r

theorem foldlM_singleton (r : Reader) (word : OsString) :
    [word].foldlM step r = r.step word := by
  rw [List.foldlM_cons]
  exact bind_pure _

theorem storeNow_eq (r : Reader) (p : Pending) : r.storeNow p = r.flush >>= (·.keep p) := rfl

section

variable {r : Reader} {word : OsString}

theorem step_separator (h : r.trailing = false) :
    r.step separator = .ok { r with trailing := true, awaitsValue := false } := by
  rw [step, h]
  rfl

theorem step_long (h : r.trailing = false) {rest : List UInt8} (hne : rest ≠ [])
    (hw : word.bytes = 45 :: 45 :: rest) :
    r.step word = r.readLong ⟨(splitFirst equalsSign rest).1⟩
      ((splitFirst equalsSign rest).2.map (⟨·⟩)) := by
  obtain ⟨b, rest, rfl⟩ := List.exists_cons_of_ne_nil hne
  rw [step, h, hw]
  rfl

theorem step_joined (h : r.trailing = false) (option : ValueOption) (value : OsString) :
    r.step (joined option value) = r.storeNow (.option option (some value)) := by
  have hno : equalsSign ∉ (OsString.ofText option.name).bytes := by
    cases option <;> decide
  have hw : (joined option value).bytes =
      45 :: 45 :: ((OsString.ofText option.name).bytes ++ equalsSign :: value.bytes) := by
    rw [joined, flag_bytes]
    rfl
  have hname := Argument.text?_bind_ofName? (Argument.ofName?_value option)
  rw [step_long h (by simp) hw, splitFirst_append hno]
  simp only [readLong, hname]
  rfl

theorem step_flag (h : r.trailing = false) (option : ValueOption) :
    r.step (flag option.name) = (do
      let r ← r.flush
      return { r with pending := some (.option option none), awaitsValue := true }) := by
  have hno : equalsSign ∉ (OsString.ofText option.name).bytes := by
    cases option <;> decide
  have hne : (OsString.ofText option.name).bytes ≠ [] := by
    cases option <;> decide
  have hname := Argument.text?_bind_ofName? (Argument.ofName?_value option)
  rw [step_long h hne (flag_bytes _), splitFirst_of_not_mem hno]
  simp only [readLong, hname]
  rfl

theorem step_switch (h : r.trailing = false) :
    r.step (flag Switch.failOnChildError.name) = r.storeNow (.switch .failOnChildError) := by
  have hname := Argument.text?_bind_ofName? (Argument.ofName?_switch .failOnChildError)
  rw [step_long h (by decide) (flag_bytes _), splitFirst_of_not_mem (by decide)]
  simp only [readLong, hname]
  rfl

/-- A word that does not begin with `-` is no option. -/
theorem step_word (h : r.trailing = false) (hw : word.bytes.head? ≠ some dash) :
    r.step word = r.readWord word := by
  rw [step, h, if_neg Bool.false_ne_true]
  split
  case h_1 heq => simp [heq, dash] at hw
  case h_2 heq => simp [heq, dash] at hw
  case h_3 heq => rfl
  case h_4 heq => simp [heq, dash] at hw
  case h_5 => rfl

theorem looksNumeric_of_digits {point exponent isFirst : Bool} {text : List Char}
    (h : ∀ c ∈ text, c.isDigit = true) : looksNumeric point exponent isFirst text = true := by
  induction text generalizing isFirst with
  | nil => rfl
  | cons c rest ih =>
    have hc : '0' ≤ c ∧ c ≤ '9' := (isDigit_iff c).mp (h c List.mem_cons_self)
    rw [looksNumeric, if_pos hc]
    exact ih fun d hd => h d (List.mem_cons_of_mem _ hd)

/-- A digit is no dash. -/
theorem byte_ne_dash {c : Char} (h : c.isDigit = true) : c.val.toUInt8 ≠ dash := by
  intro heq
  have hdigit := (isDigit_iff c).mp h
  have hbyte : (45 : UInt8).toNat = c.toNat := by
    rw [← Utf8.toNat_byte (isAscii_of_isDigit h), heq]
    rfl
  have hdash : (45 : UInt8).toNat = 45 := rfl
  omega

/-- A single dash before a digit. -/
theorem step_short (h : r.trailing = false) {first : Char} (hfirst : first.isDigit = true)
    (rest : List Char) :
    r.step (.ofText (String.ofList ('-' :: first :: rest))) =
      r.readShort (.ofText (String.ofList ('-' :: first :: rest)))
        (.ofText (String.ofList (first :: rest))) := by
  have hascii : first.toNat < 128 := isAscii_of_isDigit hfirst
  have hbytes : (OsString.ofText (String.ofList ('-' :: first :: rest))).bytes =
      45 :: first.val.toUInt8 :: Utf8.encode rest := by
    rw [OsString.ofText, String.toList_ofList, Utf8.encode_cons (by decide),
      Utf8.encode_cons hascii]
    rfl
  have hrest : OsString.ofText (String.ofList (first :: rest)) =
      ⟨first.val.toUInt8 :: Utf8.encode rest⟩ := by
    rw [OsString.ofText, String.toList_ofList, Utf8.encode_cons hascii]
  have hdash := byte_ne_dash hfirst
  rw [step, h, if_neg Bool.false_ne_true, hbytes, hrest]
  split
  case h_1 heq => exact absurd (List.cons.inj (List.cons.inj heq).2).1 hdash
  case h_2 heq => exact absurd (List.cons.inj (List.cons.inj heq).2).1 hdash
  case h_3 heq => exact absurd (List.cons.inj heq).2 (List.cons_ne_nil _ _)
  case h_4 heq => rw [(List.cons.inj heq).2]
  case h_5 hno => exact absurd rfl (hno _)

/-- A negative number is no option before the worker count was given. -/
theorem step_negative (h : r.trailing = false) (hfree : r.workersTaken = false) {first : Char}
    {digits : List Char} (hd : ∀ c ∈ first :: digits, c.isDigit = true) :
    r.step (.ofText (String.ofList ('-' :: first :: digits))) =
      r.readWord (.ofText (String.ofList ('-' :: first :: digits))) := by
  have hnumeric : looksNumeric false false true
      (Utf8.decodeLossy (OsString.ofText (String.ofList (first :: digits))).bytes) = true := by
    rw [OsString.ofText, String.toList_ofList, Utf8.decodeLossy_encode]
    exact looksNumeric_of_digits hd
  rw [step_short h (hd first List.mem_cons_self), readShort, hfree, hnumeric]
  rfl

/-- How a word before the first `--` is taken, and what the reader is after it. -/
inductive Takes (r : Reader) : OsString → Reader → Prop
  | separator : Takes r separator { r with trailing := true, awaitsValue := false }
  | joined {option : ValueOption} {value : OsString} {r' : Reader}
      (h : r.storeNow (.option option (some value)) = .ok r') : Takes r (joined option value) r'
  | flag {option : ValueOption} {r' : Reader} (h : r.flush = .ok r') :
      Takes r (flag option.name)
        { r' with pending := some (.option option none), awaitsValue := true }
  | switch {r' : Reader} (h : r.storeNow (.switch .failOnChildError) = .ok r') :
      Takes r (flag Switch.failOnChildError.name) r'
  | word {word : OsString} {r' : Reader} (hne : word ≠ separator)
      (h : r.readWord word = .ok r') : Takes r word r'

/-- A name that reads as an option is written as that option. -/
theorem eq_flag {name : List UInt8} {argument : Argument}
    (h : (OsString.mk name).text?.bind Argument.ofName? = some argument) :
    ∃ text, Argument.ofName? text = some argument ∧
      45 :: 45 :: name = (CommandLine.flag text).bytes := by
  obtain ⟨text, htext, hof⟩ := Option.bind_eq_some_iff.mp h
  have heq := OsString.text?_eq_some_iff.mp htext
  refine ⟨text, hof, ?_⟩
  rw [flag_bytes, ← heq]

theorem takes_of_readLong {name : List UInt8} {value : Option (List UInt8)} {r' : Reader}
    (h : r.readLong ⟨name⟩ (value.map (⟨·⟩)) = .ok r') :
    Takes r ⟨45 :: 45 :: (name ++ (value.map (equalsSign :: ·)).getD [])⟩ r' := by
  rw [readLong.eq_def] at h
  split at h
  case h_1 option v hfound hvalue =>
    obtain ⟨bytes, rfl, rfl⟩ := Option.map_eq_some_iff.mp hvalue
    obtain ⟨text, hof, hflag⟩ := eq_flag hfound
    obtain rfl := Argument.eq_of_ofName?_value hof
    have hword : OsString.mk (45 :: 45 :: (name ++ equalsSign :: bytes)) =
        CommandLine.joined option ⟨bytes⟩ := by
      rw [CommandLine.joined, ← hflag]
      rfl
    rw [Option.map_some, Option.getD_some, hword]
    exact .joined h
  case h_2 option hfound hvalue =>
    obtain rfl := Option.map_eq_none_iff.mp hvalue
    obtain ⟨text, hof, hflag⟩ := eq_flag hfound
    obtain rfl := Argument.eq_of_ofName?_value hof
    obtain ⟨r₁, hflush, hr'⟩ := ok_of_bind h
    cases hr'
    rw [Option.map_none, Option.getD_none, List.append_nil, hflag]
    exact .flag hflush
  case h_3 => cases h
  case h_4 hfound hvalue =>
    obtain rfl := Option.map_eq_none_iff.mp hvalue
    obtain ⟨text, hof, hflag⟩ := eq_flag hfound
    obtain rfl := Argument.eq_of_ofName?_switch hof
    rw [Option.map_none, Option.getD_none, List.append_nil, hflag]
    exact .switch h
  case h_5 =>
    obtain ⟨r₁, _, hstop⟩ := ok_of_bind h
    cases hstop
  case h_6 =>
    obtain ⟨r₁, _, hstop⟩ := ok_of_bind h
    cases hstop
  case h_7 => cases h

theorem readWord_of_readShort {rest : OsString} {r' : Reader} (h : r.readShort word rest = .ok r') :
    r.readWord word = .ok r' := by
  rw [readShort] at h
  split at h
  case isTrue => exact h
  case isFalse =>
    split at h
    case isTrue =>
      obtain ⟨r₁, _, hstop⟩ := ok_of_bind h
      cases hstop
    case isFalse =>
      split at h
      case isTrue =>
        obtain ⟨r₁, _, hstop⟩ := ok_of_bind h
        cases hstop
      case isFalse => cases h

theorem takes_of_step (h : r.trailing = false) {r' : Reader} (hstep : r.step word = .ok r') :
    Takes r word r' := by
  have hseparator {bytes : List UInt8} (hw : word.bytes = bytes) (hne : bytes ≠ [45, 45]) :
      word ≠ CommandLine.separator := by
    rintro rfl
    exact hne hw.symm
  rw [step, h, if_neg Bool.false_ne_true] at hstep
  split at hstep
  case h_1 heq =>
    cases hstep
    have hword : word = CommandLine.separator := congrArg OsString.mk heq
    rw [hword]
    exact .separator
  case h_2 rest hrest heq =>
    have hword : word = ⟨45 :: 45 :: rest⟩ := congrArg OsString.mk heq
    rw [hword, eq_of_splitFirst equalsSign rest]
    exact takes_of_readLong hstep
  case h_3 heq => exact .word (hseparator heq (by decide)) hstep
  case h_4 hshort _ _ heq =>
    refine .word (hseparator heq ?_) (readWord_of_readShort hstep)
    intro hboth
    exact hshort (List.cons.inj hboth).2
  case h_5 hboth _ _ _ =>
    refine .word ?_ hstep
    rintro rfl
    exact hboth rfl

end

end Reader

end CommandLine

end WorkerFleet
