import WorkerFleet.Proofs.Trimming
import WorkerFleet.Proofs.Utf8
import WorkerFleet.Text.Decimal
import Mathlib.Tactic.Ring

/-!
# Numbers in texts

Which texts are numbers, and numbers that are written and read again. A digit counts by its place
(`placeValue`), while reading takes one digit after the other and stops at the first one that leads
past the limit.

* `Decimal.digits_eq_ok_iff`, `Decimal.natural_eq_ok_iff`, `Decimal.integer?_eq_some_iff`: what is
  read as a number.
* `Decimal.natural_ofNat`, `Decimal.numeral_ofInt`: what is written is read as the same number.
* `Decimal.normal_ofInt`: the form in which integers are written.
-/

namespace WorkerFleet.Text

theorem isDigit_iff (c : Char) : c.isDigit = true ↔ 48 ≤ c.toNat ∧ c.toNat ≤ 57 := by
  rw [Char.isDigit, Bool.and_eq_true, decide_eq_true_iff, decide_eq_true_iff]
  exact Iff.rfl

theorem isAscii_of_isDigit {c : Char} (h : c.isDigit = true) : c.toNat < 128 := by
  have hc := (isDigit_iff c).mp h
  omega

theorem isBlank_of_isDigit {c : Char} (h : c.isDigit = true) : isBlank c = false := by
  obtain ⟨hl, hu⟩ := (isDigit_iff c).mp h
  simp only [isBlank, Bool.or_eq_false_iff, Bool.and_eq_false_iff, decide_eq_false_iff_not,
    beq_eq_false_iff_ne]
  omega

namespace Decimal

theorem digit?_of_isDigit {c : Char} (h : c.isDigit = true) :
    digit? c = some (c.toNat - '0'.toNat) := by
  rw [digit?, if_pos]
  exact (isDigit_iff c).mp h

theorem digit?_of_not_isDigit {c : Char} (h : ¬ c.isDigit = true) : digit? c = none := by
  rw [digit?, if_neg]
  exact fun hc => h ((isDigit_iff c).mpr hc)

/-- The number that digits stand for. Each counts by its place: ten times as much as it would in the
next one. -/
def placeValue : List Char → Nat
  | [] => 0
  | c :: rest => (c.toNat - '0'.toNat) * 10 ^ rest.length + placeValue rest

theorem ofDigitChars_eq (cs : List Char) (value : Nat) :
    Nat.ofDigitChars 10 cs value = value * 10 ^ cs.length + placeValue cs := by
  induction cs generalizing value with
  | nil => simp [placeValue]
  | cons c rest ih =>
    rw [Nat.ofDigitChars_cons, ih, placeValue, List.length_cons, Nat.pow_succ]
    ring

/-- A digit that is appended to a number counts by its place among the digits to come. -/
theorem append_digit (value : Nat) (c : Char) (rest : List Char) :
    (value * 10 + (c.toNat - '0'.toNat)) * 10 ^ rest.length + placeValue rest =
      value * 10 ^ (c :: rest).length + placeValue (c :: rest) := by
  rw [placeValue, List.length_cons, Nat.pow_succ]
  ring

/-- Digits that follow do not make a number smaller. -/
theorem le_append_digits (value : Nat) (cs : List Char) :
    value ≤ value * 10 ^ cs.length + placeValue cs := by
  have hpos : 0 < 10 ^ cs.length := Nat.pow_pos (by omega)
  have hgrow := Nat.le_mul_of_pos_right value hpos
  omega

/-- Digits are read to their end just if the whole number stays within the limit. -/
theorem extend_eq_ok_iff {limit value n : Nat} {cs : List Char} (hv : value ≤ limit) :
    extend limit value cs = .ok n ↔
      (∀ c ∈ cs, c.isDigit = true) ∧ n = value * 10 ^ cs.length + placeValue cs ∧ n ≤ limit := by
  induction cs generalizing value with
  | nil =>
    constructor
    · intro h
      cases h
      exact ⟨by simp, by simp [placeValue], hv⟩
    · rintro ⟨_, rfl, _⟩
      simp [extend, placeValue]
  | cons c rest ih =>
    by_cases hc : c.isDigit = true
    · have hsum := append_digit value c rest
      simp only [extend, digit?_of_isDigit hc]
      by_cases hle : value * 10 + (c.toNat - '0'.toNat) ≤ limit
      · rw [if_neg (Nat.not_lt.mpr hle), ih hle, hsum]
        simp [hc]
      · -- The digits that follow cannot bring the number back below the limit.
        have hgrow := le_append_digits (value * 10 + (c.toNat - '0'.toNat)) rest
        rw [if_pos (Nat.lt_of_not_le hle), ← hsum]
        constructor
        · intro h
          cases h
        · rintro ⟨_, hn, hlimit⟩
          omega
    · simp [extend, digit?_of_not_isDigit hc, hc]

/-- Digits stand for less than one in the place before them. -/
theorem placeValue_lt {ds : List Char} (h : ∀ c ∈ ds, c.isDigit = true) :
    placeValue ds < 10 ^ ds.length := by
  induction ds with
  | nil => simp [placeValue]
  | cons c rest ih =>
    have hc := (isDigit_iff c).mp (h c List.mem_cons_self)
    have hzero : '0'.toNat = 48 := rfl
    have hdigit : c.toNat - '0'.toNat ≤ 9 := by omega
    have hrest := ih fun d hd => h d (List.mem_cons_of_mem _ hd)
    calc
      placeValue (c :: rest) = (c.toNat - '0'.toNat) * 10 ^ rest.length + placeValue rest := rfl
      _ < 9 * 10 ^ rest.length + 10 ^ rest.length :=
        Nat.add_lt_add_of_le_of_lt (Nat.mul_le_mul_right _ hdigit) hrest
      _ = 10 ^ (c :: rest).length := by rw [List.length_cons, Nat.pow_succ]; ring

structure Digits (text : List Char) : Prop where
  ne_nil : text ≠ []
  isDigit : ∀ c ∈ text, c.isDigit = true

theorem digits_eq_ok_iff {limit n : Nat} {text : List Char} :
    digits limit text = .ok n ↔ Digits text ∧ n = placeValue text ∧ n ≤ limit := by
  cases text with
  | nil =>
    constructor
    · intro h
      cases h
    · rintro ⟨h, _⟩
      exact absurd rfl h.ne_nil
  | cons c rest =>
    rw [digits, extend_eq_ok_iff (Nat.zero_le limit), Nat.zero_mul, Nat.zero_add]
    constructor
    · rintro ⟨hd, hn⟩
      exact ⟨⟨List.cons_ne_nil c rest, hd⟩, hn⟩
    · rintro ⟨hd, hn⟩
      exact ⟨hd.isDigit, hn⟩

/-- A natural number in decimal notation: digits, which a plus sign may precede. -/
inductive Unsigned : List Char → Nat → Prop
  | plain {ds : List Char} (h : Digits ds) : Unsigned ds (placeValue ds)
  | plus {ds : List Char} (h : Digits ds) : Unsigned ('+' :: ds) (placeValue ds)

/-- A number in decimal notation: digits after at most one sign. -/
inductive Numeral : List Char → Int → Prop
  | unsigned {ds : List Char} (h : Digits ds) : Numeral ds (placeValue ds)
  | plus {ds : List Char} (h : Digits ds) : Numeral ('+' :: ds) (placeValue ds)
  | minus {ds : List Char} (h : Digits ds) : Numeral ('-' :: ds) (-(placeValue ds : Int))

theorem Digits.head_ne {c : Char} {rest : List Char} (h : Digits (c :: rest)) :
    c ≠ '+' ∧ c ≠ '-' := by
  have hc := h.isDigit c List.mem_cons_self
  constructor
  · rintro rfl
    cases hc
  · rintro rfl
    cases hc

theorem Unsigned.ne_nil {text : List Char} {n : Nat} (h : Unsigned text n) : text ≠ [] := by
  cases h with
  | plain h => exact h.ne_nil
  | plus => simp

theorem Unsigned.digit_or_plus {text : List Char} {n : Nat} (h : Unsigned text n) :
    ∀ c ∈ text, c.isDigit = true ∨ c = '+' := by
  cases h with
  | plain h => exact fun c hc => .inl (h.isDigit c hc)
  | plus h =>
    intro c hc
    rcases List.mem_cons.mp hc with rfl | hc
    · exact .inr rfl
    · exact .inl (h.isDigit c hc)

theorem natural_of_digits {limit : Nat} {text : List Char} (h : Digits text) :
    natural limit text = digits limit text := by
  obtain ⟨c, rest, rfl⟩ := List.exists_cons_of_ne_nil h.ne_nil
  rw [natural]
  exact h.head_ne.1

/-- A text is read as a number just if it stands for that number, within the limit. -/
theorem natural_eq_ok_iff {limit n : Nat} {text : List Char} :
    natural limit text = .ok n ↔ Unsigned text n ∧ n ≤ limit := by
  constructor
  · intro h
    rw [natural.eq_def] at h
    split at h
    case h_1 => cases h
    case h_2 ds =>
      obtain ⟨hd, rfl, hle⟩ := digits_eq_ok_iff.mp h
      exact ⟨.plus hd, hle⟩
    case h_3 =>
      obtain ⟨hd, rfl, hle⟩ := digits_eq_ok_iff.mp h
      exact ⟨.plain hd, hle⟩
  · rintro ⟨h, hle⟩
    cases h with
    | plain hd =>
      rw [natural_of_digits hd]
      exact digits_eq_ok_iff.mpr ⟨hd, rfl, hle⟩
    | plus hd =>
      rw [natural]
      exact digits_eq_ok_iff.mpr ⟨hd, rfl, hle⟩

theorem integer?_of_digits {limit : Nat} {text : List Char} (h : Digits text) :
    integer? limit text = (digits limit text).toOption.map Int.ofNat := by
  obtain ⟨c, rest, rfl⟩ := List.exists_cons_of_ne_nil h.ne_nil
  obtain ⟨hplus, hminus⟩ := h.head_ne
  rw [integer?]
  · exact fun _ heq => hminus (List.cons.inj heq).1
  · exact fun _ heq => hplus (List.cons.inj heq).1

theorem toOption_map_eq_some_iff {ε α β : Type} {x : Except ε α} {f : α → β} {b : β} :
    x.toOption.map f = some b ↔ ∃ a, x = .ok a ∧ f a = b := by
  cases x <;> simp [Except.toOption]

theorem integer?_minus (limit : Nat) (ds : List Char) :
    integer? limit ('-' :: ds) =
      (digits (limit + 1) ds).toOption.map fun n : Nat => -(n : Int) := by
  rw [integer?]
  cases digits (limit + 1) ds <;> rfl

/-- An integer is read just if the text is a numeral and its value lies within the limits. -/
theorem integer?_eq_some_iff {limit : Nat} {text : List Char} {v : Int} :
    integer? limit text = some v ↔ Numeral text v ∧ -(limit + 1 : Int) ≤ v ∧ v ≤ limit := by
  constructor
  · intro h
    have hminus := h
    rw [integer?.eq_def] at h
    split at h
    case h_1 ds =>
      rw [integer?_minus] at hminus
      obtain ⟨n, hread, rfl⟩ := toOption_map_eq_some_iff.mp hminus
      obtain ⟨hd, rfl, hle⟩ := digits_eq_ok_iff.mp hread
      exact ⟨.minus hd, by omega, by omega⟩
    case h_2 ds =>
      obtain ⟨n, hread, rfl⟩ := toOption_map_eq_some_iff.mp h
      obtain ⟨hd, rfl, hle⟩ := digits_eq_ok_iff.mp hread
      exact ⟨.plus hd, by simp only [Int.ofNat_eq_natCast]; omega, Int.ofNat_le.mpr hle⟩
    case h_3 =>
      obtain ⟨n, hread, rfl⟩ := toOption_map_eq_some_iff.mp h
      obtain ⟨hd, rfl, hle⟩ := digits_eq_ok_iff.mp hread
      exact ⟨.unsigned hd, by simp only [Int.ofNat_eq_natCast]; omega, Int.ofNat_le.mpr hle⟩
  · rintro ⟨h, hl, hu⟩
    cases h with
    | unsigned hd =>
      rw [integer?_of_digits hd, digits_eq_ok_iff.mpr ⟨hd, rfl, by omega⟩]
      rfl
    | @plus ds hd =>
      have hread : digits limit ds = .ok (placeValue ds) :=
        digits_eq_ok_iff.mpr ⟨hd, rfl, by omega⟩
      rw [integer?, hread]
      rfl
    | @minus ds hd =>
      have hread : digits (limit + 1) ds = .ok (placeValue ds) :=
        digits_eq_ok_iff.mpr ⟨hd, rfl, by omega⟩
      rw [integer?_minus, hread]
      rfl

theorem Numeral.ne_nil {text : List Char} {n : Int} (h : Numeral text n) : text ≠ [] := by
  cases h with
  | unsigned hd => exact hd.ne_nil
  | plus | minus => exact List.cons_ne_nil _ _

/-- A numeral has one value. -/
theorem Numeral.unique {text : List Char} {v w : Int} (hv : Numeral text v) (hw : Numeral text w) :
    v = w := by
  cases hv with
  | unsigned hd =>
    cases hw with
    | unsigned => rfl
    | plus => exact absurd rfl hd.head_ne.1
    | minus => exact absurd rfl hd.head_ne.2
  | plus =>
    cases hw with
    | unsigned hd => exact absurd rfl hd.head_ne.1
    | plus => rfl
  | minus =>
    cases hw with
    | unsigned hd => exact absurd rfl hd.head_ne.2
    | minus => rfl

theorem isDigit_of_mem_ofNat {n : Nat} {c : Char} (h : c ∈ ofNat n) : c.isDigit = true :=
  Nat.isDigit_of_mem_toDigits (by omega) (by omega) h

theorem ofNat_ne_nil (n : Nat) : ofNat n ≠ [] := Nat.toDigits_ne_nil

theorem digits_of_ofNat (n : Nat) : Digits (ofNat n) :=
  ⟨ofNat_ne_nil n, fun _ => isDigit_of_mem_ofNat⟩

theorem placeValue_ofNat (n : Nat) : placeValue (ofNat n) = n := by
  have h := ofDigitChars_eq (ofNat n) 0
  rw [Nat.zero_mul, Nat.zero_add] at h
  rw [← h]
  exact Nat.ofDigitChars_ten_toDigits

/-- Each number has its own digits. -/
theorem ofNat_injective {m n : Nat} (h : ofNat m = ofNat n) : m = n := by
  rw [← placeValue_ofNat m, h, placeValue_ofNat]

/-- Only zero is written with a zero in front. -/
theorem ofNat_eq_zero_cons {n : Nat} {rest : List Char} (h : ofNat n = '0' :: rest) :
    n = 0 ∧ rest = [] := by
  have hd := digits_of_ofNat n
  have hvalue := placeValue_ofNat n
  rw [h] at hd hvalue
  have hn : n = placeValue rest := by
    rw [← hvalue, placeValue]
    simp
  have hlt : n < 10 ^ rest.length := by
    rw [hn]
    exact placeValue_lt fun c hc => hd.isDigit c (List.mem_cons_of_mem _ hc)
  have hrest : rest = [] := by
    by_contra hne
    have hpos : 0 < rest.length := List.length_pos_of_ne_nil hne
    have hlength := (Nat.length_toDigits_le_iff (by omega) hpos).mpr hlt
    have hall : (ofNat n).length = rest.length + 1 := by rw [h, List.length_cons]
    have hdef : (ofNat n).length = (Nat.toDigits 10 n).length := rfl
    omega
  subst hrest
  exact ⟨hn, rfl⟩

theorem exists_ofNat (n : Nat) : ∃ c cs, ofNat n = c :: cs ∧ c ≠ '+' ∧ c ≠ '-' := by
  obtain ⟨c, cs, ht⟩ := List.exists_cons_of_ne_nil (ofNat_ne_nil n)
  have hd := digits_of_ofNat n
  rw [ht] at hd
  exact ⟨c, cs, ht, hd.head_ne⟩

theorem unsigned_ofNat (n : Nat) : Unsigned (ofNat n) n := by
  have h := Unsigned.plain (digits_of_ofNat n)
  rwa [placeValue_ofNat] at h

/-- A number that is written within the limit is read again. -/
theorem natural_ofNat {limit n : Nat} (h : n ≤ limit) : natural limit (ofNat n) = .ok n :=
  natural_eq_ok_iff.mpr ⟨unsigned_ofNat n, h⟩

theorem numeral_ofInt (n : Int) : Numeral (ofInt n) n := by
  cases n with
  | ofNat n =>
    have h := Numeral.unsigned (digits_of_ofNat n)
    rwa [placeValue_ofNat] at h
  | negSucc n =>
    have h := Numeral.minus (digits_of_ofNat (n + 1))
    rwa [placeValue_ofNat] at h

/-- A text as numbers are written: no white space, no plus sign, no zero in front of other digits,
and none behind a minus sign. -/
structure Normal (text : List Char) : Prop where
  isBlank : ∀ c ∈ text, isBlank c = false
  plus : '+' ∉ text
  zero : ∀ rest, text = '0' :: rest → rest = []
  negative : ∀ rest, text ≠ '-' :: '0' :: rest

theorem mem_ofInt {n : Int} {c : Char} (h : c ∈ ofInt n) : c.isDigit = true ∨ c = '-' := by
  cases n with
  | ofNat n => exact .inl (isDigit_of_mem_ofNat h)
  | negSucc n =>
    rcases List.mem_cons.mp h with hc | hc
    · exact .inr hc
    · exact .inl (isDigit_of_mem_ofNat hc)

theorem isBlank_of_mem_ofInt {n : Int} {c : Char} (h : c ∈ ofInt n) : isBlank c = false := by
  rcases mem_ofInt h with hc | rfl
  · exact isBlank_of_isDigit hc
  · decide

theorem normal_ofInt (n : Int) : Normal (ofInt n) where
  isBlank c hc := isBlank_of_mem_ofInt hc
  plus h := by
    rcases mem_ofInt h with hc | hc
    · cases hc
    · cases hc
  zero rest h := by
    cases n with
    | ofNat n => exact (ofNat_eq_zero_cons h).2
    | negSucc n => cases h
  negative rest h := by
    cases n with
    | ofNat n =>
      have hminus : '-' ∈ ofNat n := by
        rw [show ofNat n = '-' :: '0' :: rest from h]
        exact List.mem_cons_self
      cases isDigit_of_mem_ofNat hminus
    | negSucc n =>
      have hzero := ofNat_eq_zero_cons (List.cons.inj h).2
      omega

end Decimal

end WorkerFleet.Text
