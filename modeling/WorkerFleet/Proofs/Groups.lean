import Mathlib.Data.List.Induction
import WorkerFleet.Proofs.Words

/-!
# What the words of an argument amount to

The words before the first `--` fall into groups, one for each argument. A reader that holds what
some groups gave holds nothing else.

* `keep_group`: storing what a group gives.
* `written_holds`: what is held after all groups.
* `exists_written`: groups that are all accepted.
-/

namespace WorkerFleet.CommandLine

/-- The words that give one argument. The value of an option is in the same word or in the next. -/
inductive Group
  | workers (word : OsString)
  | option (option : ValueOption) (value : OsString) (apart : Bool)
  | failOnChildError
  deriving DecidableEq, Repr

namespace Group

def words : Group → List OsString
  | .workers word => [word]
  | .option o value true => [flag o.name, value]
  | .option o value false => [joined o value]
  | .failOnChildError => [flag Switch.failOnChildError.name]

def argument : Group → Argument
  | .workers _ => .workers
  | .option o _ _ => .value o
  | .failOnChildError => .switch .failOnChildError

def gives : Group → Pending
  | .workers word => .workers word
  | .option o value _ => .option o (some value)
  | .failOnChildError => .switch .failOnChildError

def accept : Group → Reader → Except Stop Reader
  | .workers word, r =>
    (Reader.readWorkers word).map fun count => { r with workers := some count }
  | .option .collaborator value _, r =>
    (Reader.readCollaborator value).map fun program => { r with collaborator := some program }
  | .option .waitOrder value _, r =>
    (Reader.readWaitOrder value).map fun order => { r with waitOrder := some order }
  | .failOnChildError, r => .ok { r with failOnChildError := true }

def count? : Group → Option OsString
  | .workers word => some word
  | _ => none

def value? (option : ValueOption) : Group → Option OsString
  | .option other value _ => if other = option then some value else none
  | _ => none

theorem argument_ne_passedOn (g : Group) : g.argument ≠ .passedOn := by
  cases g <;> exact nofun

end Group

def counts (groups : List Group) : List OsString := groups.filterMap Group.count?

def given (option : ValueOption) (groups : List Group) : List OsString :=
  groups.filterMap (Group.value? option)

theorem counts_concat (groups : List Group) (g : Group) :
    counts (groups ++ [g]) = counts groups ++ g.count?.toList := by
  rw [counts, List.filterMap_append]
  cases h : g.count? <;> simp [counts, h]

theorem given_concat (option : ValueOption) (groups : List Group) (g : Group) :
    given option (groups ++ [g]) = given option groups ++ (g.value? option).toList := by
  rw [given, List.filterMap_append]
  cases h : g.value? option <;> simp [given, h]

theorem counts_eq_nil {groups : List Group} (h : .workers ∉ groups.map Group.argument) :
    counts groups = [] := by
  rw [counts, List.filterMap_eq_nil_iff]
  intro g hg
  cases g with
  | workers word => exact absurd (List.mem_map_of_mem (f := Group.argument) hg) h
  | option | failOnChildError => rfl

theorem given_eq_nil_iff {option : ValueOption} {groups : List Group} :
    given option groups = [] ↔ .value option ∉ groups.map Group.argument := by
  rw [given, List.filterMap_eq_nil_iff]
  constructor
  · intro h hm
    obtain ⟨g, hg, hargument⟩ := List.mem_map.mp hm
    have hnone := h g hg
    cases g with
    | option other value apart =>
      cases hargument
      rw [Group.value?, if_pos rfl] at hnone
      cases hnone
    | workers | failOnChildError => cases hargument
  · intro h g hg
    cases g with
    | option other value apart =>
      rw [Group.value?, if_neg]
      rintro rfl
      exact h (List.mem_map_of_mem (f := Group.argument) hg)
    | workers | failOnChildError => rfl

namespace Reader

theorem note_eq {argument : Argument} (h : argument ≠ .passedOn) (r : Reader)
    (next : Reader → Reader × Option Stop) :
    r.note argument next =
      if argument ∈ r.stored then
        ({ r with stored := r.stored.erase argument }, some (.repeated argument))
      else next { r with stored := r.stored ++ [argument] } := by
  simp [note, h]

theorem store_group (r : Reader) (g : Group) :
    r.store g.gives = r.note g.argument fun r =>
      match g.accept r with
      | .error stop => (r, some stop)
      | .ok r => (r, none) := by
  match g with
  | .workers word =>
    rw [Group.gives, store]
    simp only [Group.accept]
    cases readWorkers word <;> rfl
  | .option .collaborator value apart =>
    rw [Group.gives, store]
    simp only [Group.accept]
    cases readCollaborator value <;> rfl
  | .option .waitOrder value apart =>
    rw [Group.gives, store]
    simp only [Group.accept]
    cases readWaitOrder value <;> rfl
  | .failOnChildError => rfl

/-- Storing what a group gives: it must not have been given before, and its value must be good. -/
theorem keep_group (r : Reader) (g : Group) :
    r.keep g.gives =
      if g.argument ∈ r.stored then .error (.repeated g.argument)
      else g.accept { r with stored := r.stored ++ [g.argument] } := by
  rw [keep, store_group, note_eq g.argument_ne_passedOn]
  by_cases hm : g.argument ∈ r.stored
  · rw [if_pos hm, if_pos hm]
  · rw [if_neg hm, if_neg hm]
    cases g.accept { r with stored := r.stored ++ [g.argument] } <;> rfl

theorem keep_passedOn (r : Reader) (words : List OsString) :
    r.keep (.passedOn words) =
      .ok { r with stored := r.stored ++ [.passedOn], collaboratorArgs := words } := rfl

def written (groups : List Group) : Except Stop Reader :=
  groups.foldlM (fun r g => r.keep g.gives) {}

theorem written_concat (groups : List Group) (g : Group) :
    written (groups ++ [g]) = written groups >>= (·.keep g.gives) := by
  rw [written, List.foldlM_append]
  simp only [List.foldlM_cons, List.foldlM_nil, bind_pure]
  rfl

end Reader

open Reader

/-- What may be given once: it was not given, or it was and reads well. -/
inductive AtMostOnce {α : Type} (read : OsString → Except Stop α) :
    List OsString → Option α → Prop
  | never : AtMostOnce read [] none
  | once {word : OsString} {a : α} (h : read word = .ok a) : AtMostOnce read [word] (some a)

namespace AtMostOnce

variable {α : Type} {read : OsString → Except Stop α} {words : List OsString}

theorem of_none (h : AtMostOnce read words none) : words = [] := by
  cases h
  rfl

theorem of_some {a : α} (h : AtMostOnce read words (some a)) :
    ∃ word, words = [word] ∧ read word = .ok a := by
  cases h with
  | once hread => exact ⟨_, rfl, hread⟩

theorem length_le {o : Option α} (h : AtMostOnce read words o) : words.length ≤ 1 := by
  cases h with
  | never => exact Nat.zero_le 1
  | once => exact Nat.le_refl 1

/-- What was given and reads well is what is held. -/
theorem eq_some {o : Option α} {word : OsString} {a : α} (h : AtMostOnce read [word] o)
    (hread : read word = .ok a) : o = some a := by
  cases h with
  | once hread' =>
    rw [hread] at hread'
    cases hread'
    rfl

end AtMostOnce

/-- The reader holds what the groups say and the words to pass on, and nothing else. -/
structure Holds (groups : List Group) (words : List OsString) (r : Reader) : Prop where
  stored : ∀ argument, argument ≠ .passedOn →
    (argument ∈ r.stored ↔ argument ∈ groups.map Group.argument)
  workers : AtMostOnce readWorkers (counts groups) r.workers
  collaborator : AtMostOnce readCollaborator (given .collaborator groups) r.collaborator
  waitOrder : AtMostOnce readWaitOrder (given .waitOrder groups) r.waitOrder
  failOnChildError : groups.count .failOnChildError = if r.failOnChildError then 1 else 0
  collaboratorArgs : r.collaboratorArgs = words

namespace Holds

variable {groups : List Group} {words : List OsString} {r r' : Reader}

theorem nothing : Holds [] [] {} where
  stored _ _ := Iff.rfl
  workers := .never
  collaborator := .never
  waitOrder := .never
  failOnChildError := rfl
  collaboratorArgs := rfl

theorem stored_concat (h : Holds groups words r) (g : Group) :
    ∀ argument, argument ≠ .passedOn →
      (argument ∈ r.stored ++ [g.argument] ↔ argument ∈ (groups ++ [g]).map Group.argument) := by
  intro argument hne
  rw [List.map_append, List.mem_append, List.mem_append, h.stored argument hne]
  rfl

theorem keep (h : Holds groups words r) {g : Group} (hkeep : r.keep g.gives = .ok r') :
    Holds (groups ++ [g]) words r' := by
  rw [keep_group] at hkeep
  split at hkeep
  case isTrue => cases hkeep
  case isFalse hfresh =>
    rw [h.stored _ g.argument_ne_passedOn] at hfresh
    match g with
    | .workers word =>
      rw [Group.accept] at hkeep
      obtain ⟨count, hread, rfl⟩ := ok_of_map hkeep
      refine ⟨h.stored_concat _, ?_, ?_, ?_, ?_, h.collaboratorArgs⟩
      · rw [counts_concat, counts_eq_nil hfresh]
        exact .once hread
      · simpa [given_concat, Group.value?] using h.collaborator
      · simpa [given_concat, Group.value?] using h.waitOrder
      · simpa using h.failOnChildError
    | .option .collaborator value apart =>
      rw [Group.accept] at hkeep
      obtain ⟨program, hread, rfl⟩ := ok_of_map hkeep
      refine ⟨h.stored_concat _, ?_, ?_, ?_, ?_, h.collaboratorArgs⟩
      · simpa [counts_concat, Group.count?] using h.workers
      · rw [given_concat, given_eq_nil_iff.mpr hfresh]
        exact .once hread
      · simpa [given_concat, Group.value?] using h.waitOrder
      · simpa using h.failOnChildError
    | .option .waitOrder value apart =>
      rw [Group.accept] at hkeep
      obtain ⟨order, hread, rfl⟩ := ok_of_map hkeep
      refine ⟨h.stored_concat _, ?_, ?_, ?_, ?_, h.collaboratorArgs⟩
      · simpa [counts_concat, Group.count?] using h.workers
      · simpa [given_concat, Group.value?] using h.collaborator
      · rw [given_concat, given_eq_nil_iff.mpr hfresh]
        exact .once hread
      · simpa using h.failOnChildError
    | .failOnChildError =>
      cases hkeep
      have hnone : Group.failOnChildError ∉ groups := fun hg =>
        hfresh (List.mem_map_of_mem (f := Group.argument) hg)
      refine ⟨h.stored_concat _, ?_, ?_, ?_, ?_, h.collaboratorArgs⟩
      · simpa [counts_concat, Group.count?] using h.workers
      · simpa [given_concat, Group.value?] using h.collaborator
      · simpa [given_concat, Group.value?] using h.waitOrder
      · simp [List.count_eq_zero_of_not_mem hnone]

theorem passOn (h : Holds groups [] r) (hkeep : r.keep (.passedOn words) = .ok r') :
    Holds groups words r' := by
  rw [keep_passedOn] at hkeep
  cases hkeep
  refine ⟨?_, h.workers, h.collaborator, h.waitOrder, h.failOnChildError, rfl⟩
  intro argument hne
  rw [← h.stored argument hne, List.mem_append, List.mem_singleton, or_iff_left hne]

end Holds

namespace Reader

variable {groups : List Group} {r : Reader}

theorem written_holds (h : written groups = .ok r) : Holds groups [] r := by
  induction groups using List.reverseRecOn generalizing r with
  | nil =>
    cases h
    exact .nothing
  | append_singleton groups g ih =>
    rw [written_concat] at h
    obtain ⟨r₁, hbefore, hkeep⟩ := ok_of_bind h
    exact (ih hbefore).keep hkeep

/-- Groups that give each argument once and well are all taken. -/
theorem exists_written (hnodup : (groups.map Group.argument).Nodup)
    (haccept : ∀ g ∈ groups, ∀ r, ∃ r', g.accept r = .ok r') : ∃ r, written groups = .ok r := by
  induction groups using List.reverseRecOn with
  | nil => exact ⟨{}, rfl⟩
  | append_singleton groups g ih =>
    -- What was stored before are the arguments of the earlier groups, and this one is none of them.
    rw [List.map_append, List.nodup_append] at hnodup
    obtain ⟨r₁, hr₁⟩ := ih hnodup.1 fun g hg => haccept g (List.mem_append_left _ hg)
    have hfresh : g.argument ∉ r₁.stored := by
      rw [(written_holds hr₁).stored _ g.argument_ne_passedOn]
      intro hm
      exact hnodup.2.2 _ hm g.argument (by simp) rfl
    rw [written_concat, hr₁]
    obtain ⟨r₂, hr₂⟩ := haccept g (by simp) { r₁ with stored := r₁.stored ++ [g.argument] }
    refine ⟨r₂, ?_⟩
    calc
      r₁.keep g.gives = g.accept { r₁ with stored := r₁.stored ++ [g.argument] } := by
        rw [keep_group, if_neg hfresh]
      _ = .ok r₂ := hr₂

end Reader

end WorkerFleet.CommandLine
