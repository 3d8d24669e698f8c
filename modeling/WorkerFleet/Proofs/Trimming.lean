import WorkerFleet.Text.Blank
import Mathlib.Data.List.DropRight

/-!
# Trimming

Trimming gives the core of a text: the part that white space at the two ends surrounds.

* `core_trim`: every text has a core, the one that trimming gives.
* `core_iff`: it has no other.
-/

namespace WorkerFleet.Text

/-- No white space stands at either end of the core, and nothing else surrounds it. -/
structure Core (text core : List Char) : Prop where
  around : ∃ before after, text = before ++ core ++ after ∧
    (∀ c ∈ before, isBlank c = true) ∧ ∀ c ∈ after, isBlank c = true
  head : ∀ c ∈ core.head?, isBlank c = false
  last : ∀ c ∈ core.getLast?, isBlank c = false

variable {text core : List Char}

theorem dropWhile_isBlank {text : List Char} (h : ∀ c ∈ text.head?, isBlank c = false) :
    text.dropWhile isBlank = text := by
  cases text with
  | nil => rfl
  | cons c rest => rw [List.dropWhile_cons_of_neg (by simp [h c rfl])]

/-- White space in front is dropped, and what follows it stays. -/
theorem trimLeft_append {before rest : List Char} (hbefore : ∀ c ∈ before, isBlank c = true)
    (hrest : ∀ c ∈ rest.head?, isBlank c = false) : trimLeft (before ++ rest) = rest := by
  rw [trimLeft, List.dropWhile_append_of_pos hbefore, dropWhile_isBlank hrest]

theorem trimRight_append {rest after : List Char} (hafter : ∀ c ∈ after, isBlank c = true)
    (hrest : ∀ c ∈ rest.getLast?, isBlank c = false) : trimRight (rest ++ after) = rest := by
  have hreverse : trimLeft (after.reverse ++ rest.reverse) = rest.reverse :=
    trimLeft_append (by simpa using hafter) (by simpa using hrest)
  rw [trimLeft, ← List.reverse_append] at hreverse
  rw [trimRight, hreverse, List.reverse_reverse]

theorem Core.trim_eq (h : Core text core) : trim text = core := by
  obtain ⟨before, after, rfl, hbefore, hafter⟩ := h.around
  rw [List.append_assoc]
  cases core with
  | nil =>
    have hall : ∀ c ∈ before ++ ([] ++ after), isBlank c = true := by
      intro c hc
      rcases List.mem_append.mp hc with hc | hc
      · exact hbefore c hc
      · exact hafter c hc
    rw [trim, trimLeft, List.dropWhile_eq_nil_iff.mpr hall]
    rfl
  | cons c rest =>
    have hleft : trimLeft (before ++ (c :: rest ++ after)) = c :: rest ++ after :=
      trimLeft_append hbefore h.head
    rw [trim, hleft, trimRight_append hafter h.last]

theorem core_trim (text : List Char) : Core text (trim text) where
  around := by
    refine ⟨text.takeWhile isBlank, (trimLeft text).rtakeWhile isBlank, ?_, ?_, ?_⟩
    · have hright : trim text ++ (trimLeft text).rtakeWhile isBlank = trimLeft text :=
        List.rdropWhile_append_rtakeWhile
      rw [List.append_assoc, hright, trimLeft, List.takeWhile_append_dropWhile]
    · exact fun c hc => List.mem_takeWhile_imp hc
    · exact fun c hc => List.mem_rtakeWhile_imp hc
  head := by
    intro c hc
    have hprefix : trim text <+: trimLeft text := List.rdropWhile_prefix isBlank (trimLeft text)
    obtain ⟨after, hafter⟩ := hprefix
    have hhead : (trimLeft text).head? = some c := by
      rw [← hafter, List.head?_append, hc]
      rfl
    have hnot := List.head?_dropWhile_not isBlank text
    rw [trimLeft] at hhead
    simpa [hhead] using hnot
  last := by
    intro c hc
    have hnot := List.head?_dropWhile_not isBlank (trimLeft text).reverse
    rw [trim, trimRight, List.getLast?_reverse] at hc
    rw [hc] at hnot
    simpa using hnot

/-- A text has one core. -/
theorem core_iff : Core text core ↔ core = trim text := by
  constructor
  · intro h
    exact h.trim_eq.symm
  · rintro rfl
    exact core_trim text

theorem core_of_not_isBlank (h : ∀ c ∈ text, isBlank c = false) : Core text text := by
  refine ⟨⟨[], [], by simp, by simp, by simp⟩, ?_, ?_⟩
  · exact fun c hc => h c (List.mem_of_mem_head? hc)
  · exact fun c hc => h c (List.mem_of_mem_getLast? hc)

end WorkerFleet.Text
