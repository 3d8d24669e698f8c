import WorkerFleet.Proofs.Numerals
import WorkerFleet.Proofs.Splitting
import WorkerFleet.Text.Quoted

/-!
# Reading quoted text

A quoted text is read again from the line in which it stands. Between the quotes a character stands
for itself or is written with a backslash. A reader that goes from left to right never takes one for
the other, since a backslash of the text itself is written as two: no escape comes about by chance.

* `unquote_escape`, `unquote_quote`: what is written is read as the same text, whatever follows.
* `body_flatMap`: between the quotes stand whole characters and whole escapes.
* `shows_quote`, `Shows.unique`: a line with a quoted text in it, and with no other.
-/

namespace WorkerFleet.Text

def isControl (c : Char) : Bool :=
  let n := c.toNat
  n ≤ 0x1F || (0x7F ≤ n && n ≤ 0x9F)

/-- The characters at which a line may end. -/
def endsLine (c : Char) : Bool :=
  let n := c.toNat
  (0x0A ≤ n && n ≤ 0x0D) || n == 0x85 || n == 0x2028 || n == 0x2029

/-- A character that stays on its line and is no order to a display. -/
def Tame (c : Char) : Prop := isControl c = false ∧ endsLine c = false

instance : DecidablePred Tame := fun c =>
  inferInstanceAs (Decidable (isControl c = false ∧ endsLine c = false))

/-- A text on one line, without control characters. -/
def OneLine (text : String) : Prop := ∀ c ∈ text.toList, Tame c

instance : DecidablePred OneLine := fun text => List.decidableBAll Tame text.toList

section

variable {c : Char}

theorem tame_of_ascii (hl : 0x20 ≤ c.toNat) (hu : c.toNat ≤ 0x7E) : Tame c := by
  simp only [Tame, isControl, endsLine, Bool.or_eq_false_iff, Bool.and_eq_false_iff,
    decide_eq_false_iff_not, beq_eq_false_iff_ne]
  omega

theorem not_between_of_printable (h : isUnprintable c = false) {r : Nat × Nat}
    (hr : r ∈ unprintableRanges) : ¬ (r.1 ≤ c.toNat ∧ c.toNat ≤ r.2) := by
  intro hc
  have hin : inRanges unprintableRanges c.toNat = true :=
    List.any_eq_true.mpr ⟨r, hr, by simpa using hc⟩
  rw [isUnprintable, hin] at h
  cases h

/-- What displays leave out is more than control characters and line ends. -/
theorem tame_of_printable (h : isUnprintable c = false) : Tame c := by
  have hlow := not_between_of_printable h (r := (0x0, 0x1F)) (by decide +kernel)
  have hhigh := not_between_of_printable h (r := (0x7F, 0xA0)) (by decide +kernel)
  have hends := not_between_of_printable h (r := (0x2028, 0x202F)) (by decide +kernel)
  simp only [Tame, isControl, endsLine, Bool.or_eq_false_iff, Bool.and_eq_false_iff,
    decide_eq_false_iff_not, beq_eq_false_iff_ne]
  omega

theorem oneLine_ofList {chars : List Char} (h : ∀ c ∈ chars, Tame c) :
    OneLine (String.ofList chars) := by
  rwa [OneLine, String.toList_ofList]

theorem oneLine_of_all {chars : List Char} (h : (chars.all fun c => decide (Tame c)) = true) :
    OneLine (String.ofList chars) :=
  oneLine_ofList fun c hc => of_decide_eq_true (List.all_eq_true.mp h c hc)

theorem OneLine.append {a b : String} (ha : OneLine a) (hb : OneLine b) : OneLine (a ++ b) := by
  intro c hc
  rw [String.toList_append] at hc
  exact (List.mem_append.mp hc).elim (ha c) (hb c)

theorem oneLine_toString (n : Nat) : OneLine (toString n) := by
  have hdigits : ∀ c ∈ Decimal.ofNat n, Tame c := by
    intro c hc
    have hc := (isDigit_iff c).mp (Decimal.isDigit_of_mem_ofNat hc)
    exact tame_of_ascii (by omega) (by omega)
  exact oneLine_ofList hdigits

end

namespace Quoted

def hexDigit? (c : Char) : Option Nat :=
  if '0' ≤ c ∧ c ≤ '9' then some (c.toNat - '0'.toNat)
  else if 'a' ≤ c ∧ c ≤ 'f' then some (c.toNat - 'a'.toNat + 10)
  else none

def named? : Char → Option Char
  | '0' => some '\x00'
  | 't' => some '\t'
  | 'r' => some '\r'
  | 'n' => some '\n'
  | '"' => some '"'
  | '\\' => some '\\'
  | _ => none

/-- How far the reader has come. -/
inductive Stage
  | between
  /-- Behind a backslash. -/
  | escape
  /-- Behind the `u` of an escape. -/
  | brace
  /-- Among the digits of a code point, with the number so far. -/
  | code (n : Nat)

def prepend (c : Char) (found : List Char × List Char) : List Char × List Char :=
  (c :: found.1, found.2)

/-- The text up to the closing quote, and what follows the quote. -/
def unquote : Stage → List Char → Option (List Char × List Char)
  | _, [] => none
  | .between, c :: rest =>
    if c = '"' then some ([], rest)
    else if c = '\\' then unquote .escape rest
    else (unquote .between rest).map (prepend c)
  | .escape, c :: rest =>
    if c = 'u' then unquote .brace rest
    else (named? c).bind fun d => (unquote .between rest).map (prepend d)
  | .brace, c :: rest => if c = '{' then unquote (.code 0) rest else none
  | .code n, c :: rest =>
    if c = '}' then
      if n.isValidChar then (unquote .between rest).map (prepend (Char.ofNat n)) else none
    else (hexDigit? c).bind fun d => unquote (.code (n * 16 + d)) rest

section

variable {c : Char} {d n : Nat}

theorem hexDigit?_digitChar (h : d < 16) : hexDigit? d.digitChar = some d := by
  have hall : ∀ d < 16, hexDigit? (Nat.digitChar d) = some d := by decide
  exact hall d h

theorem tame_of_hexDigit (h : (hexDigit? c).isSome) : Tame c := by
  have hle : ∀ {a b : Char}, a ≤ b → a.toNat ≤ b.toNat := fun hab => hab
  rw [hexDigit?] at h
  split at h
  case isTrue hc =>
    exact tame_of_ascii (Nat.le_trans (by decide) (hle hc.1)) (Nat.le_trans (hle hc.2) (by decide))
  case isFalse =>
    split at h
    case isTrue hc =>
      exact tame_of_ascii (Nat.le_trans (by decide) (hle hc.1))
        (Nat.le_trans (hle hc.2) (by decide))
    case isFalse => cases h

theorem tame_of_named {e : Char} (h : named? e = some c) : Tame e := by
  rw [named?.eq_def] at h
  split at h
  case h_7 => cases h
  all_goals decide

/-- A number in hexadecimal digits is its quotient by 16 and one more digit. -/
theorem toDigits_sixteen (h : 16 ≤ n) :
    Nat.toDigits 16 n = Nat.toDigits 16 (n / 16) ++ [Nat.digitChar (n % 16)] :=
  Nat.toDigits_of_base_le (by omega) h

theorem hexDigit_of_mem_toDigits (h : c ∈ Nat.toDigits 16 n) : (hexDigit? c).isSome := by
  induction n using Nat.strongRecOn with
  | ind n ih =>
    by_cases hn : n < 16
    · rw [Nat.toDigits_of_lt_base hn, List.mem_singleton] at h
      rw [h, hexDigit?_digitChar hn]
      rfl
    · rw [toDigits_sixteen (by omega)] at h
      rcases List.mem_append.mp h with h | h
      · exact ih _ (by omega) h
      · rw [List.mem_singleton.mp h, hexDigit?_digitChar (by omega)]
        rfl

theorem unquote_digit (h : d < 16) (n : Nat) (rest : List Char) :
    unquote (.code n) (d.digitChar :: rest) = unquote (.code (n * 16 + d)) rest := by
  have hdigit := hexDigit?_digitChar h
  have hne : d.digitChar ≠ '}' := by
    intro heq
    rw [heq] at hdigit
    cases hdigit
  rw [unquote, if_neg hne, hdigit, Option.bind_some]

/-- Hexadecimal digits are read as the number that they were written for. -/
theorem unquote_toDigits (n : Nat) (rest : List Char) :
    unquote (.code 0) (Nat.toDigits 16 n ++ rest) = unquote (.code n) rest := by
  induction n using Nat.strongRecOn generalizing rest with
  | ind n ih =>
    by_cases hn : n < 16
    · rw [Nat.toDigits_of_lt_base hn, List.singleton_append, unquote_digit hn, Nat.zero_mul,
        Nat.zero_add]
    · have hsum : n / 16 * 16 + n % 16 = n := by omega
      rw [toDigits_sixteen (by omega), List.append_assoc, ih _ (by omega), List.singleton_append,
        unquote_digit (by omega), hsum]

end

theorem unquote_codePoint (c : Char) (rest : List Char) :
    unquote .between (codePoint c ++ rest) = (unquote .between rest).map (prepend c) := by
  have hvalid : c.toNat.isValidChar := c.valid
  have hcode : unquote .between (codePoint c ++ rest) =
      unquote (.code 0) (Nat.toDigits 16 c.toNat ++ ('}' :: rest)) := by
    simp [codePoint, unquote]
  rw [hcode, unquote_toDigits, unquote, if_pos rfl, if_pos hvalid, Char.ofNat_toNat]

/-- A character is written behind a backslash, as its code point, or as it is. -/
theorem escape_cases (c : Char) :
    (∃ e, named? e = some c ∧ escape c = ['\\', e]) ∨ escape c = codePoint c ∨
      (c ≠ '"' ∧ c ≠ '\\' ∧ isUnprintable c = false ∧ escape c = [c]) := by
  by_cases hzero : c = '\x00'
  · subst hzero
    exact .inl ⟨'0', rfl, rfl⟩
  by_cases htab : c = '\t'
  · subst htab
    exact .inl ⟨'t', rfl, rfl⟩
  by_cases hreturn : c = '\r'
  · subst hreturn
    exact .inl ⟨'r', rfl, rfl⟩
  by_cases hfeed : c = '\n'
  · subst hfeed
    exact .inl ⟨'n', rfl, rfl⟩
  by_cases hquote : c = '"'
  · subst hquote
    exact .inl ⟨'"', rfl, rfl⟩
  by_cases hback : c = '\\'
  · subst hback
    exact .inl ⟨'\\', rfl, rfl⟩
  by_cases hcode : (isExtending c || isUnprintable c) = true
  · refine .inr (.inl ?_)
    simp only [escape, hzero, htab, hreturn, hfeed, hquote, hback, hcode, if_false, if_true]
  · refine .inr (.inr ⟨hquote, hback, ?_, ?_⟩)
    · simp_all
    · simp only [escape, hzero, htab, hreturn, hfeed, hquote, hback, hcode, if_false]
      rfl

/-- A character that was written is read again, and the reader goes on behind it. -/
theorem unquote_escape (c : Char) (rest : List Char) :
    unquote .between (escape c ++ rest) = (unquote .between rest).map (prepend c) := by
  rcases escape_cases c with ⟨e, he, hescape⟩ | hescape | ⟨hquote, hback, -, hescape⟩
  · have hne : e ≠ 'u' := by
      rintro rfl
      cases he
    rw [hescape]
    simp [unquote, hne, he]
  · rw [hescape, unquote_codePoint]
  · rw [hescape]
    simp [unquote, hquote, hback]

theorem unquote_flatMap (text rest : List Char) :
    unquote .between (text.flatMap escape ++ '"' :: rest) = some (text, rest) := by
  induction text with
  | nil => simp [unquote]
  | cons c text ih =>
    rw [List.flatMap_cons, List.append_assoc, unquote_escape, ih]
    rfl

/-- What may stand between the quotes in one piece: a character other than the quote and the
backslash, or an escape. -/
inductive Glyph : List Char → Prop
  | plain {c : Char} (hquote : c ≠ '"') (hback : c ≠ '\\') : Glyph [c]
  | named {c d : Char} (h : named? c = some d) : Glyph ['\\', c]
  | code {ds : List Char} (hne : ds ≠ []) (h : ∀ d ∈ ds, (hexDigit? d).isSome) :
      Glyph (['\\', 'u', '{'] ++ ds ++ ['}'])

/-- What stands between the quotes: no quote ends it, and no backslash is by itself. -/
inductive Body : List Char → Prop
  | nil : Body []
  | cons {piece rest : List Char} (h : Glyph piece) (hs : Body rest) : Body (piece ++ rest)

theorem glyph_escape (c : Char) : Glyph (escape c) := by
  rcases escape_cases c with ⟨e, he, hescape⟩ | hescape | ⟨hquote, hback, -, hescape⟩
  · rw [hescape]
    exact .named he
  · rw [hescape]
    exact .code Nat.toDigits_ne_nil fun d hd => hexDigit_of_mem_toDigits hd
  · rw [hescape]
    exact .plain hquote hback

theorem body_flatMap (text : List Char) : Body (text.flatMap escape) := by
  induction text with
  | nil => exact .nil
  | cons c text ih => exact .cons (glyph_escape c) ih

theorem tame_escape (c : Char) : ∀ d ∈ escape c, Tame d := by
  intro d hd
  rcases escape_cases c with ⟨e, he, hescape⟩ | hescape | ⟨-, -, hprintable, hescape⟩
  · rw [hescape, List.mem_cons, List.mem_singleton] at hd
    rcases hd with rfl | rfl
    · decide
    · exact tame_of_named he
  · rw [hescape, codePoint, List.mem_append, List.mem_append, List.mem_singleton] at hd
    rcases hd with (hd | hd) | rfl
    · simp only [List.mem_cons, List.not_mem_nil, or_false] at hd
      rcases hd with rfl | rfl | rfl <;> decide
    · exact tame_of_hexDigit (hexDigit_of_mem_toDigits hd)
    · decide
  · rw [hescape, List.mem_singleton] at hd
    rw [hd]
    exact tame_of_printable hprintable

theorem tame_quote (text : List Char) : ∀ d ∈ quote text, Tame d := by
  intro d hd
  rw [quote, List.mem_cons, List.mem_append, List.mem_flatMap, List.mem_singleton] at hd
  rcases hd with rfl | ⟨c, -, hd⟩ | rfl
  · decide
  · exact tame_escape c d hd
  · decide

/-- The text that a line shows in quotes, with what stands before and behind it. -/
def shown? (line : String) : Option (String × String × String) :=
  match splitFirst '"' line.toList with
  | (_, none) => none
  | (before, some rest) =>
    (unquote .between rest).map fun found =>
      (String.ofList before, String.ofList found.1, String.ofList found.2)

/-- A line that shows a text in quotes, between words of its own. -/
structure Shows (line before text after : String) : Prop where
  oneLine : OneLine line
  quoted : ∃ body, Body body ∧
    line.toList = before.toList ++ '"' :: (body ++ '"' :: after.toList)
  /-- The text is found again. -/
  shown : shown? line = some (before, text, after)

section

variable {line before text after : String}

theorem shows_quote (hbefore : OneLine before) (hafter : OneLine after)
    (hquote : '"' ∉ before.toList) :
    Shows (before ++ String.ofList (quote text.toList) ++ after) before text after := by
  have hline : (before ++ String.ofList (quote text.toList) ++ after).toList =
      before.toList ++ '"' :: (text.toList.flatMap escape ++ '"' :: after.toList) := by
    simp [quote, String.toList_append]
  refine ⟨?_, ⟨_, body_flatMap text.toList, hline⟩, ?_⟩
  · intro c hc
    rw [String.toList_append, String.toList_append, List.mem_append, List.mem_append,
      String.toList_ofList] at hc
    rcases hc with (hc | hc) | hc
    · exact hbefore c hc
    · exact tame_quote text.toList c hc
    · exact hafter c hc
  · rw [shown?, hline, splitFirst_append hquote]
    simp [unquote_flatMap]

/-- One line does not show two texts. -/
theorem Shows.unique {before' text' after' : String} (h : Shows line before text after)
    (h' : Shows line before' text' after') : before = before' ∧ text = text' ∧ after = after' := by
  have hsame := h.shown.symm.trans h'.shown
  simpa using hsame

end

end Quoted

end WorkerFleet.Text
