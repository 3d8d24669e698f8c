import WorkerFleet.Proofs.Entries

/-!
# The leftmost fault of a number

A number is read digit by digit, and two things can go wrong on the way: a character is no digit,
or a digit leads past the limit. The first of them is reported. Seen as a whole, the digits at the
front decide: they are too large by themselves, whatever follows them, or else what follows them is
at fault.

* `Decimal.extend_eq`: reading digits and what follows them.
* `Decimal.natural_eq`: the number or the fault, told from the two parts of a text.
* `StandIn.cause_leftmost`: what a stand-in reports of its index and of its entries.
-/

namespace WorkerFleet.Text.Decimal

/-- The text without one plus sign in front. -/
def magnitude : List Char → List Char
  | '+' :: rest => rest
  | text => text

/-- The digits at the front, behind the sign. -/
def leadingDigits (text : List Char) : List Char := (magnitude text).takeWhile Char.isDigit

/-- What follows the digits at the front. -/
def afterDigits (text : List Char) : List Char := (magnitude text).dropWhile Char.isDigit

section

variable {limit value : Nat} {text ds rest : List Char}

/-- Digits are read up to the one that leads past the limit. If there is none, what follows them
must be nothing. -/
theorem extend_eq (hv : value ≤ limit) (hd : ∀ c ∈ ds, c.isDigit = true)
    (hrest : ∀ c ∈ rest.head?, c.isDigit = false) :
    extend limit value (ds ++ rest) =
      if limit < value * 10 ^ ds.length + placeValue ds then .error .tooLarge
      else if rest = [] then .ok (value * 10 ^ ds.length + placeValue ds)
      else .error .invalidDigit := by
  induction ds generalizing value with
  | nil =>
    have hsum : value * 10 ^ ([] : List Char).length + placeValue [] = value := by
      simp [placeValue]
    rw [hsum, if_neg (Nat.not_lt.mpr hv), List.nil_append]
    cases rest with
    | nil => rfl
    | cons c rest =>
      have hc : ¬ c.isDigit = true := by
        rw [hrest c rfl]
        simp
      simp [extend, digit?_of_not_isDigit hc]
  | cons c ds ih =>
    have hsum := append_digit value c ds
    have htail : ∀ d ∈ ds, d.isDigit = true := fun d hm => hd d (List.mem_cons_of_mem _ hm)
    rw [List.cons_append, extend, digit?_of_isDigit (hd c List.mem_cons_self)]
    dsimp only
    by_cases hle : value * 10 + (c.toNat - '0'.toNat) ≤ limit
    · rw [if_neg (Nat.not_lt.mpr hle), ih hle htail, hsum]
    · -- this digit leads past the limit, and then so do all digits together
      have hgrow := le_append_digits (value * 10 + (c.toNat - '0'.toNat)) ds
      rw [hsum] at hgrow
      rw [if_pos (Nat.lt_of_not_le hle), if_pos (by omega)]

theorem isDigit_of_mem_leadingDigits (text : List Char) :
    ∀ c ∈ leadingDigits text, c.isDigit = true :=
  fun _ hc => List.mem_takeWhile_imp hc

theorem isDigit_head_afterDigits (text : List Char) :
    ∀ c ∈ (afterDigits text).head?, c.isDigit = false := by
  intro c hc
  have h := List.head?_dropWhile_not Char.isDigit (magnitude text)
  rw [show (magnitude text).dropWhile Char.isDigit = afterDigits text from rfl,
    Option.mem_def.mp hc] at h
  exact h

theorem leadingDigits_append_afterDigits (text : List Char) :
    leadingDigits text ++ afterDigits text = magnitude text :=
  List.takeWhile_append_dropWhile

theorem digits_magnitude (h : magnitude text ≠ []) :
    digits limit (magnitude text) =
      if limit < placeValue (leadingDigits text) then .error .tooLarge
      else if afterDigits text = [] then .ok (placeValue (leadingDigits text))
      else .error .invalidDigit := by
  obtain ⟨c, rest, hmag⟩ := List.exists_cons_of_ne_nil h
  have hread := extend_eq (Nat.zero_le limit) (isDigit_of_mem_leadingDigits text)
    (isDigit_head_afterDigits text)
  rw [leadingDigits_append_afterDigits, Nat.zero_mul, Nat.zero_add] at hread
  rw [← hread, hmag, digits]

theorem natural_eq_digits (limit : Nat) (h : text ≠ []) :
    natural limit text = digits limit (magnitude text) := by
  obtain ⟨c, rest, rfl⟩ := List.exists_cons_of_ne_nil h
  by_cases hc : c = '+'
  · subst hc
    rfl
  · have hplus : ∀ rest', c :: rest = '+' :: rest' → False :=
      fun _ heq => hc (List.cons.inj heq).1
    rw [magnitude, natural]
    · exact hc
    · exact hplus

/-- A text with digits in front is too large, or is a number, or has a fault behind them. -/
theorem natural_eq (limit : Nat) (text : List Char) :
    natural limit text =
      if text = [] then .error .empty
      else if magnitude text = [] then .error .invalidDigit
      else if limit < placeValue (leadingDigits text) then .error .tooLarge
      else if afterDigits text = [] then .ok (placeValue (leadingDigits text))
      else .error .invalidDigit := by
  by_cases htext : text = []
  · rw [if_pos htext, htext, natural]
  rw [if_neg htext, natural_eq_digits limit htext]
  by_cases hmag : magnitude text = []
  · rw [if_pos hmag, hmag, digits]
  · rw [if_neg hmag, digits_magnitude hmag]

theorem magnitude_eq_nil_iff :
    magnitude text = [] ↔ leadingDigits text = [] ∧ afterDigits text = [] := by
  rw [← leadingDigits_append_afterDigits, List.append_eq_nil_iff]

end

/-- What is told of a text that should be a number: the number, or what is wrong. -/
def verdict (limit : Nat) (text : List Char) : Except String Nat :=
  (natural limit text).mapError Fault.message

/-- The one cause that is told of a text, if it is no number within the limit. -/
structure Leftmost (limit : Nat) (text : List Char) (result : Except String Nat) : Prop where
  empty : result = .error "cannot parse integer from empty string" ↔ text = []
  /-- The text is not empty, and the digits in front are missing or do no harm. -/
  invalid : result = .error "invalid digit found in string" ↔
    text ≠ [] ∧ (magnitude text = [] ∨
      afterDigits text ≠ [] ∧ placeValue (leadingDigits text) ≤ limit)
  /-- Whatever follows the digits. -/
  tooLarge : result = .error "number too large to fit in target type" ↔
    limit < placeValue (leadingDigits text)
  number : ∀ n, result = .ok n ↔ leadingDigits text ≠ [] ∧ afterDigits text = [] ∧
    placeValue (leadingDigits text) ≤ limit ∧ n = placeValue (leadingDigits text)

theorem leftmost_verdict (limit : Nat) (text : List Char) :
    Leftmost limit text (verdict limit text) := by
  rw [verdict, natural_eq]
  by_cases htext : text = []
  · subst htext
    constructor <;>
      simp [Except.mapError, Fault.message, leadingDigits, afterDigits, magnitude, placeValue]
  rw [if_neg htext]
  by_cases hmag : magnitude text = []
  · obtain ⟨hl, ht⟩ := magnitude_eq_nil_iff.mp hmag
    rw [if_pos hmag]
    constructor <;> simp [Except.mapError, Fault.message, htext, hmag, hl, placeValue]
  rw [if_neg hmag]
  by_cases hlarge : limit < placeValue (leadingDigits text)
  · rw [if_pos hlarge]
    constructor <;> simp [Except.mapError, Fault.message, htext, hmag, hlarge]
  have hle : placeValue (leadingDigits text) ≤ limit := Nat.le_of_not_lt hlarge
  rw [if_neg hlarge]
  by_cases ht : afterDigits text = []
  · have hl : leadingDigits text ≠ [] := fun hl => hmag (magnitude_eq_nil_iff.mpr ⟨hl, ht⟩)
    rw [if_pos ht]
    constructor <;> simp [Except.mapError, htext, hmag, hle, ht, hl, eq_comm]
  · rw [if_neg ht]
    constructor <;> simp [Except.mapError, Fault.message, htext, hle, ht]

end WorkerFleet.Text.Decimal

namespace WorkerFleet.StandIn

open Text Decimal Quoted

theorem readIndex_report {env : Environment} {text : String}
    (h : env.get? indexVariable = some (.ofText text)) (slot : Nat) :
    (readIndex env slot).mapError Failure.report =
      (verdict (wordSize - 1) text.toList).mapError
        ("invalid GC_LAUNCHER_WORKER_INDEX " ++ quoted text ++ "\n\nCaused by:\n    " ++ ·) := by
  rw [readIndex, Environment.text?_eq_some_iff.mpr h, verdict]
  dsimp only
  cases natural (wordSize - 1) text.toList with
  | error fault => exact congrArg Except.error (report_badIndex text fault)
  | ok n => rfl

theorem nthEntry_report {env : Environment} {name text : String} {list : List (List Char)}
    {entry : List Char} {index : Nat} (h : env.get? name = some (.ofText text))
    (hl : Listing text list) (he : list[min index (list.length - 1)]? = some entry)
    (limit : Nat) :
    (nthEntry env name limit index).mapError Failure.report =
      ((verdict limit entry).map some).mapError
        ("invalid entry " ++ quoted (String.ofList entry) ++ (" in " ++ name) ++
          "\n\nCaused by:\n    " ++ ·) := by
  rw [nthEntry_of_listing h hl, he, verdict]
  dsimp only
  cases natural limit entry with
  | error fault => exact congrArg Except.error (report_badEntry name (String.ofList entry) fault)
  | ok n => rfl

/-- Of a malformed number the leftmost fault is told, and the reports on the index and on the
entries of lists give that cause, below a line that shows the text. -/
theorem cause_leftmost :
    (∀ limit text, Leftmost limit text (verdict limit text)) ∧
    (∀ (env : Environment) text slot, env.get? indexVariable = some (.ofText text) →
      (readIndex env slot).mapError Failure.report =
        (verdict (wordSize - 1) text.toList).mapError
          ("invalid GC_LAUNCHER_WORKER_INDEX " ++ quoted text ++ "\n\nCaused by:\n    " ++ ·) ∧
      Shows ("invalid GC_LAUNCHER_WORKER_INDEX " ++ quoted text)
        "invalid GC_LAUNCHER_WORKER_INDEX " text "") ∧
    ∀ (env : Environment) name text list entry limit index,
      env.get? name = some (.ofText text) → Listing text list →
      list[min index (list.length - 1)]? = some entry →
      (nthEntry env name limit index).mapError Failure.report =
        ((verdict limit entry).map some).mapError
          ("invalid entry " ++ quoted (String.ofList entry) ++ (" in " ++ name) ++
            "\n\nCaused by:\n    " ++ ·) ∧
      (OneLine name →
        Shows ("invalid entry " ++ quoted (String.ofList entry) ++ (" in " ++ name))
          "invalid entry " (String.ofList entry) (" in " ++ name)) :=
  ⟨leftmost_verdict, fun _ text slot h => ⟨readIndex_report h slot, shows_index text⟩,
    fun _ _ _ _ _ limit _ h hl he =>
      ⟨nthEntry_report h hl he limit, fun hname => shows_entry hname _⟩⟩

/-- An index that is too large before a letter follows, and an exit code in which the letter comes
first. -/
theorem cause_leftmost_followed :
    (readIndex ⟨[(indexVariable, .ofText "18446744073709551616x")]⟩ 0).mapError Failure.report =
      .error ("invalid GC_LAUNCHER_WORKER_INDEX \"18446744073709551616x\"\n\n" ++
        "Caused by:\n    number too large to fit in target type") ∧
    (nthEntry ⟨[(codesVariable, .ofText "7,+25a6")]⟩ codesVariable 255 4).mapError Failure.report =
      .error ("invalid entry \"+25a6\" in STUB_GC_EXIT_CODES\n\n" ++
        "Caused by:\n    invalid digit found in string") := by
  obtain ⟨hcause, hindex, hentry⟩ := cause_leftmost
  constructor
  · rw [(hindex _ _ _ rfl).1, (hcause _ _).tooLarge.mpr (by decide)]
    decide +kernel
  · have hlisting : Listing "7,+25a6" [['7'], "+25a6".toList] :=
      listing_iff.mpr (by decide +kernel)
    rw [(hentry _ _ _ _ _ _ _ rfl hlisting rfl).1, (hcause _ _).invalid.mpr (by decide)]
    decide +kernel

end WorkerFleet.StandIn
