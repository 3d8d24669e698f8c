import WorkerFleet.Proofs.Numerals
import WorkerFleet.WorkerCount

/-!
# Worker counts in texts

Reading a worker count has three outcomes, told apart by the core of the text: it is empty, it is a
numeral of 64 bits, or it is anything else. Writing a count gives the shortest text that is read
as it.

* `parse_decides`: which texts have which outcome.
* `display_inverse`: reading undoes writing, and what is written is in normal form.
-/

namespace WorkerFleet.WorkerCount

open Text Decimal

variable {s : String} {w : WorkerCount}

theorem ofInt?_eq_some_iff {n : Int} : ofInt? n = some w ↔ w.value = n := by
  rw [ofInt?]
  constructor
  · intro h
    split at h
    case isTrue => rw [← Option.some.inj h]
    case isFalse => cases h
  · rintro rfl
    rw [dif_pos ⟨w.lower, w.upper⟩]

/-- A numeral within the limits is read as the count of its value. -/
theorem read_eq_some_iff {core : List Char} :
    (integer? limit core).bind ofInt? = some w ↔ Numeral core w.value := by
  rw [Option.bind_eq_some_iff]
  constructor
  · rintro ⟨n, hread, hw⟩
    rw [ofInt?_eq_some_iff.mp hw]
    exact (integer?_eq_some_iff.mp hread).1
  · intro h
    exact ⟨w.value, integer?_eq_some_iff.mpr ⟨h, w.lower, w.upper⟩, ofInt?_eq_some_iff.mpr rfl⟩

theorem parse_of_blank (h : trim s.toList = []) : parse s = .error .empty := by
  rw [parse, h]

theorem parse_of_numeral (h : Numeral (trim s.toList) w.value) : parse s = .ok w := by
  have hread := read_eq_some_iff.mpr h
  obtain ⟨c, rest, hcore⟩ := List.exists_cons_of_ne_nil h.ne_nil
  rw [hcore] at hread
  simp [parse, hcore, hread]

theorem parse_of_other (hne : trim s.toList ≠ [])
    (hno : ∀ w : WorkerCount, ¬ Numeral (trim s.toList) w.value) :
    parse s = .error (.invalid s) := by
  have hnone : (integer? limit (trim s.toList)).bind ofInt? = none := by
    rw [Option.eq_none_iff_forall_ne_some]
    exact fun w hw => hno w (read_eq_some_iff.mp hw)
  obtain ⟨c, rest, hcore⟩ := List.exists_cons_of_ne_nil hne
  rw [hcore] at hnone
  simp [parse, hcore, hnone]

/-- The core of the text tells the three outcomes apart. -/
theorem parse_cases (s : String) :
    (trim s.toList = [] ∧ parse s = .error .empty) ∨
      (∃ w, Numeral (trim s.toList) w.value ∧ parse s = .ok w) ∨
      (trim s.toList ≠ [] ∧ (∀ w : WorkerCount, ¬ Numeral (trim s.toList) w.value) ∧
        parse s = .error (.invalid s)) := by
  by_cases hnil : trim s.toList = []
  · exact .inl ⟨hnil, parse_of_blank hnil⟩
  by_cases hnumeral : ∃ w : WorkerCount, Numeral (trim s.toList) w.value
  · obtain ⟨w, hw⟩ := hnumeral
    exact .inr (.inl ⟨w, hw, parse_of_numeral hw⟩)
  · have hno : ∀ w : WorkerCount, ¬ Numeral (trim s.toList) w.value :=
      fun w hw => hnumeral ⟨w, hw⟩
    exact .inr (.inr ⟨hnil, hno, parse_of_other hnil hno⟩)

theorem parse_eq_empty_iff : parse s = .error .empty ↔ trim s.toList = [] := by
  rcases parse_cases s with ⟨hnil, h⟩ | ⟨w, hw, h⟩ | ⟨hne, _, h⟩
  · simp [hnil, h]
  · simp [hw.ne_nil, h]
  · simp [hne, h]

theorem parse_eq_ok_iff : parse s = .ok w ↔ Numeral (trim s.toList) w.value := by
  constructor
  · intro hok
    rcases parse_cases s with ⟨_, h⟩ | ⟨v, hv, h⟩ | ⟨_, _, h⟩
    · rw [h] at hok
      cases hok
    · rw [h] at hok
      cases hok
      exact hv
    · rw [h] at hok
      cases hok
  · exact parse_of_numeral

theorem parse_eq_invalid_iff : parse s = .error (.invalid s) ↔
    trim s.toList ≠ [] ∧ ∀ w : WorkerCount, ¬ Numeral (trim s.toList) w.value := by
  constructor
  · intro hinvalid
    rcases parse_cases s with ⟨_, h⟩ | ⟨w, _, h⟩ | ⟨hne, hno, _⟩
    · rw [h] at hinvalid
      cases hinvalid
    · rw [h] at hinvalid
      cases hinvalid
    · exact ⟨hne, hno⟩
  · rintro ⟨hne, hno⟩
    exact parse_of_other hne hno

/-- The counts are the integers of 64 bits. -/
theorem exists_value_iff {n : Int} :
    (∃ w : WorkerCount, w.value = n) ↔ -2 ^ 63 ≤ n ∧ n ≤ 2 ^ 63 - 1 := by
  constructor
  · rintro ⟨w, rfl⟩
    exact ⟨w.lower, w.upper⟩
  · rintro ⟨hl, hu⟩
    exact ⟨⟨n, hl, hu⟩, rfl⟩

/-- A count below zero starts as many as zero does, and a word holds how many any count starts. -/
theorem toStart_eq (w : WorkerCount) : (w.toStart : Int) = max w.value 0 ∧ w.toStart < 2 ^ 64 := by
  have hu := w.upper
  rw [toStart]
  omega

/-- Every text has a core, which decides the outcome: the count of the numeral that the core is, if
it is one of 64 bits, and otherwise one of two faults. -/
theorem parse_decides (s : String) : ∃ core, (∀ text, Core s.toList text ↔ text = core) ∧
    (parse s = .error .empty ↔ core = []) ∧
    (∀ n : Int, (∃ w, parse s = .ok w ∧ w.value = n) ↔
      Numeral core n ∧ -2 ^ 63 ≤ n ∧ n ≤ 2 ^ 63 - 1) ∧
    (parse s = .error (.invalid s) ↔
      core ≠ [] ∧ ∀ n, Numeral core n → n < -2 ^ 63 ∨ 2 ^ 63 - 1 < n) ∧
    ∀ w, parse s = .ok w → (w.toStart : Int) = max w.value 0 ∧ w.toStart < 2 ^ 64 := by
  refine ⟨trim s.toList, fun text => core_iff, parse_eq_empty_iff, ?_, ?_, fun w _ => toStart_eq w⟩
  · intro n
    rw [← exists_value_iff]
    constructor
    · rintro ⟨w, hok, rfl⟩
      exact ⟨parse_eq_ok_iff.mp hok, w, rfl⟩
    · rintro ⟨hn, w, rfl⟩
      exact ⟨w, parse_eq_ok_iff.mpr hn, rfl⟩
  · rw [parse_eq_invalid_iff]
    refine and_congr_right fun _ => ?_
    constructor
    · intro hno n hn
      by_contra hin
      have hrange : -2 ^ 63 ≤ n ∧ n ≤ 2 ^ 63 - 1 := by omega
      obtain ⟨w, rfl⟩ := exists_value_iff.mpr hrange
      exact hno w hn
    · intro hout w hw
      have hrange := exists_value_iff.mp ⟨w, rfl⟩
      have h := hout w.value hw
      omega

/-- The least count, with zeros in front and white space around, and the number above the greatest
one. -/
theorem parse_decides_least :
    (∃ w, parse "\u3000-009223372036854775808\n" = .ok w ∧ w.value = -2 ^ 63) ∧
      parse "9223372036854775808" = .error (.invalid "9223372036854775808") := by
  constructor
  · obtain ⟨core, hcore, _, hok, _⟩ := parse_decides "\u3000-009223372036854775808\n"
    have hdigits : Digits "009223372036854775808".toList :=
      ⟨by decide, List.all_eq_true.mp (by decide)⟩
    have htrim : Core "\u3000-009223372036854775808\n".toList
        ('-' :: "009223372036854775808".toList) := core_iff.mpr (by decide)
    rw [← (hcore _).mp htrim] at hok
    exact (hok _).mpr ⟨.minus hdigits, by decide, by decide⟩
  · obtain ⟨core, hcore, _, _, hinvalid, _⟩ := parse_decides "9223372036854775808"
    have hdigits : Digits "9223372036854775808".toList :=
      ⟨by decide, List.all_eq_true.mp (by decide)⟩
    have htrim : Core "9223372036854775808".toList "9223372036854775808".toList :=
      core_iff.mpr (by decide)
    rw [← (hcore _).mp htrim] at hinvalid
    refine hinvalid.mpr ⟨hdigits.ne_nil, fun n hn => .inr ?_⟩
    rw [hn.unique (.unsigned hdigits)]
    decide

theorem toList_display (w : WorkerCount) : w.display.toList = ofInt w.value :=
  String.toList_ofList

/-- White space around a written count is forgiven. -/
theorem parse_padded (w : WorkerCount) (before after : String)
    (hbefore : ∀ c ∈ before.toList, isBlank c = true)
    (hafter : ∀ c ∈ after.toList, isBlank c = true) :
    parse (before ++ w.display ++ after) = .ok w := by
  have hcore : Core (before ++ w.display ++ after).toList (ofInt w.value) := by
    refine ⟨⟨before.toList, after.toList, ?_, hbefore, hafter⟩, ?_, ?_⟩
    · rw [String.toList_append, String.toList_append, toList_display]
    · exact fun c hc => isBlank_of_mem_ofInt (List.mem_of_mem_head? hc)
    · exact fun c hc => isBlank_of_mem_ofInt (List.mem_of_mem_getLast? hc)
  rw [parse_eq_ok_iff, hcore.trim_eq]
  exact numeral_ofInt w.value

theorem parse_display (w : WorkerCount) : parse w.display = .ok w := by
  have h := parse_padded w "" "" (by simp) (by simp)
  simpa using h

/-- Reading undoes writing, also with white space around. What is written is in normal form, so two
texts are read as one count just if that count is written the same for both. -/
theorem display_inverse :
    (∀ (w : WorkerCount) (before after : String),
      (∀ c ∈ before.toList ++ after.toList, isBlank c = true) →
        parse (before ++ w.display ++ after) = .ok w) ∧
    (∀ (s : String) (w : WorkerCount), parse s = .ok w →
      Normal w.display.toList ∧ parse w.display = parse s) ∧
    ∀ (s t : String) (v w : WorkerCount), parse s = .ok v → parse t = .ok w →
      (parse s = parse t ↔ v.display = w.display) := by
  refine ⟨?_, ?_, ?_⟩
  · intro w before after hblank
    exact parse_padded w before after (fun c hc => hblank c (List.mem_append_left _ hc))
      fun c hc => hblank c (List.mem_append_right _ hc)
  · intro s w hs
    rw [toList_display, parse_display, hs]
    exact ⟨normal_ofInt w.value, rfl⟩
  · intro s t v w hs ht
    rw [hs, ht]
    constructor
    · intro h
      rw [Except.ok.inj h]
    · intro h
      rw [← parse_display v, h, parse_display]

/-- The least count between white space, and two texts of one count. -/
theorem display_inverse_least :
    (∀ c ∈ "\t\u3000".toList ++ "\n".toList, isBlank c = true) ∧
      parse ("\t\u3000" ++ display { value := -9223372036854775808 } ++ "\n") =
        .ok { value := -9223372036854775808 } ∧
      parse " +007" = .ok { value := 7 } ∧ parse "7" = .ok { value := 7 } ∧
      (parse " +007" = parse "7" ↔ display { value := 7 } = display { value := 7 }) := by
  have hblank : ∀ c ∈ "\t\u3000".toList ++ "\n".toList, isBlank c = true :=
    List.all_eq_true.mp (by decide)
  have hsigned : parse " +007" = .ok { value := 7 } := by decide
  have hplain : parse "7" = .ok { value := 7 } := by decide
  exact ⟨hblank, display_inverse.1 _ _ _ hblank, hsigned, hplain,
    display_inverse.2.2 _ _ _ _ hsigned hplain⟩

end WorkerFleet.WorkerCount
