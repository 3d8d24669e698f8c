import WorkerFleet.Text.Split

/-!
# Splitting lists

* `splitOn_intercalate`, `intercalate_splitOn`: splitting and joining undo each other.
* `not_mem_of_mem_splitOn`: no part holds the separator.
* `splitFirst_append`, `eq_of_splitFirst`: what stands before the first separator, and after it.
-/

namespace WorkerFleet.Text

variable {α : Type} [DecidableEq α] {separator : α}

theorem splitOn_eq (separator : α) (list : List α) :
    splitOn separator list = list.splitOn separator := by
  induction list with
  | nil => rfl
  | cons c rest ih =>
    rw [List.splitOn_cons_eq_if_modifyHead, splitOn, ih]
    by_cases hc : c = separator
    · rw [if_pos hc, if_pos (beq_iff_eq.mpr hc)]
    · rw [if_neg hc, if_neg (by simpa using hc)]
      cases hs : rest.splitOn separator with
      | nil => exact absurd hs (List.splitOn_ne_nil separator rest)
      | cons part parts => rfl

/-- Entries without separators are found again. -/
theorem splitOn_intercalate {parts : List (List α)} (h : ∀ part ∈ parts, separator ∉ part)
    (hne : parts ≠ []) : splitOn separator ([separator].intercalate parts) = parts := by
  rw [splitOn_eq]
  exact List.splitOn_intercalate separator h hne

theorem intercalate_splitOn (separator : α) (list : List α) :
    [separator].intercalate (splitOn separator list) = list := by
  rw [splitOn_eq]
  exact List.intercalate_splitOn separator

theorem splitOn_ne_nil (separator : α) (list : List α) : splitOn separator list ≠ [] := by
  rw [splitOn_eq]
  exact List.splitOn_ne_nil separator list

/-- Parts hold no separator. -/
theorem not_mem_of_mem_splitOn {list part : List α} (h : part ∈ splitOn separator list) :
    separator ∉ part := by
  induction list generalizing part with
  | nil =>
    rw [splitOn, List.mem_singleton] at h
    simp [h]
  | cons c rest ih =>
    rw [splitOn] at h
    by_cases hc : c = separator
    · rw [if_pos hc] at h
      rcases List.mem_cons.mp h with rfl | h
      · simp
      · exact ih h
    · obtain ⟨first, parts, hs⟩ := List.exists_cons_of_ne_nil (splitOn_ne_nil separator rest)
      rw [if_neg hc, hs] at h
      rw [hs] at ih
      rcases List.mem_cons.mp h with rfl | h
      · have hfirst := ih List.mem_cons_self
        simp [hfirst, Ne.symm hc]
      · exact ih (List.mem_cons_of_mem _ h)

theorem splitOn_of_not_mem {list : List α} (h : separator ∉ list) :
    splitOn separator list = [list] := by
  have hone : splitOn separator ([separator].intercalate [list]) = [list] :=
    splitOn_intercalate (by simpa using h) (by simp)
  simpa using hone

theorem splitFirst_append {before : List α} (h : separator ∉ before) (rest : List α) :
    splitFirst separator (before ++ separator :: rest) = (before, some rest) := by
  induction before with
  | nil => simp [splitFirst]
  | cons c before ih =>
    rw [List.mem_cons, not_or] at h
    simp [splitFirst, Ne.symm h.1, ih h.2]

theorem splitFirst_of_not_mem {list : List α} (h : separator ∉ list) :
    splitFirst separator list = (list, none) := by
  induction list with
  | nil => rfl
  | cons c list ih =>
    rw [List.mem_cons, not_or] at h
    simp [splitFirst, Ne.symm h.1, ih h.2]

/-- The two parts, with the separator between them, are the whole list. -/
theorem eq_of_splitFirst (separator : α) (list : List α) :
    list = (splitFirst separator list).1 ++
      ((splitFirst separator list).2.map (separator :: ·)).getD [] := by
  induction list with
  | nil => rfl
  | cons c list ih =>
    rw [splitFirst]
    by_cases hc : c = separator
    · simp [hc]
    · simpa [hc] using ih

end WorkerFleet.Text
