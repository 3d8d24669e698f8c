import WorkerFleet.Proofs.Groups

/-!
# How far reading has come

After some words the reader is between two groups, or it waits for the value of an option, or it
has seen the first `--`. What is pending is stored later, so it is what will have been stored
(`gist`) that agrees with the groups.

* `store_placed`: what is stored does not depend on how far the reader is.
* `Progress.step`: what one word does.
* `progress_of_foldlM`: what all of them do.
-/

namespace WorkerFleet.CommandLine

namespace Reader

/-- A reader that holds what this one holds, as far on the command line as the other. -/
def placed (r place : Reader) : Reader :=
  { r with
    pending := place.pending, awaitsValue := place.awaitsValue,
    workersTaken := place.workersTaken, trailing := place.trailing }

def bare (r : Reader) : Reader := r.placed {}

/-- What the reader holds once what is pending has been stored. -/
def gist (r : Reader) : Except Stop Reader :=
  match r.pending with
  | none => .ok r.bare
  | some p => r.bare.keep p

section

variable {r r' : Reader}

theorem note_placed (r place : Reader) (argument : Argument) {next : Reader → Reader × Option Stop}
    (hnext : ∀ r : Reader, next (r.placed place) = ((next r).1.placed place, (next r).2)) :
    (r.placed place).note argument next =
      ((r.note argument next).1.placed place, (r.note argument next).2) := by
  have hstored : (r.placed place).stored = r.stored := rfl
  cases hc : argument != .passedOn && r.stored.contains argument with
  | true =>
    rw [note, note, hstored, hc, if_pos rfl, if_pos rfl]
    rfl
  | false =>
    rw [note, note, hstored, hc, if_neg Bool.false_ne_true, if_neg Bool.false_ne_true]
    exact hnext { r with stored := r.stored ++ [argument] }

/-- What is stored does not depend on how far the reader is, and takes it no further. -/
theorem store_placed (r place : Reader) (p : Pending) :
    (r.placed place).store p = ((r.store p).1.placed place, (r.store p).2) := by
  match p with
  | .workers word =>
    rw [store, store]
    apply note_placed
    intro r
    cases readWorkers word <;> rfl
  | .option _ none => rfl
  | .option .collaborator (some value) =>
    rw [store, store]
    apply note_placed
    intro r
    cases readCollaborator value <;> rfl
  | .option .waitOrder (some value) =>
    rw [store, store]
    apply note_placed
    intro r
    cases readWaitOrder value <;> rfl
  | .switch switch =>
    rw [store, store]
    apply note_placed
    exact fun r => rfl
  | .passedOn words => rfl

theorem keep_placed (r place : Reader) (p : Pending) :
    (r.placed place).keep p = (r.keep p).map (·.placed place) := by
  rw [keep, keep, store_placed]
  obtain ⟨r₁, stop⟩ := r.store p
  cases stop <;> rfl

/-- Storing leaves the reader where it is. -/
theorem placed_of_keep {p : Pending} (h : r.keep p = .ok r') : r' = r'.placed r := by
  have hr : (r.placed r).keep p = (r.keep p).map (·.placed r) := keep_placed r r p
  rw [show r.placed r = r from rfl, h] at hr
  exact Except.ok.inj hr

theorem keep_bare {p : Pending} (h : r.keep p = .ok r') : r.bare.keep p = .ok r'.bare := by
  rw [bare, keep_placed, h]
  rfl

theorem flush_eq (r : Reader) : r.flush =
    match r.pending with
    | none => .ok r
    | some p => { r with pending := none, awaitsValue := false }.keep p := by
  rw [flush, settle]
  cases r.pending <;> rfl

theorem flush_bare (r : Reader) : r.flush.map bare = r.gist := by
  rw [flush_eq, gist]
  cases r.pending with
  | none => rfl
  | some p => exact (keep_placed _ {} p).symm

theorem gist_of_flush (h : r.flush = .ok r') : r.gist = .ok r'.bare := by
  rw [← flush_bare, h]
  rfl

theorem pending_of_flush (h : r.flush = .ok r') : r'.pending = none := by
  rw [flush_eq] at h
  split at h
  case h_1 hp =>
    cases h
    exact hp
  case h_2 p hp =>
    rw [placed_of_keep h]
    rfl

/-- After storing, nothing is pending and the reader is where it was. -/
theorem placed_of_flush (hawaits : r.awaitsValue = false) (h : r.flush = .ok r') :
    r' = r'.placed { r with pending := none } := by
  rw [flush_eq] at h
  split at h
  case h_1 hp =>
    cases h
    rw [← hp]
    rfl
  case h_2 p hp =>
    rw [← hawaits] at h
    exact placed_of_keep h

end

/-- The groups have been read, and no option waits for its value. -/
structure Settled (groups : List Group) (r : Reader) : Prop where
  awaitsValue : r.awaitsValue = false
  pending : ∀ words, r.pending ≠ some (.passedOn words)
  gist : r.gist = written groups
  proper : separator ∉ groups.flatMap Group.words

/-- The groups have been read, and another one may follow. -/
structure Between (groups : List Group) (r : Reader) : Prop extends Settled groups r where
  trailing : r.trailing = false
  workersTaken : r.workersTaken = !(counts groups).isEmpty

/-- The groups and the first `--` have been read. -/
structure Separated (groups : List Group) (r : Reader) : Prop extends Settled groups r where
  trailing : r.trailing = true

/-- After the groups an option was named, and its value is to follow. -/
structure Awaiting (groups : List Group) (option : ValueOption) (r : Reader) : Prop where
  trailing : r.trailing = false
  awaitsValue : r.awaitsValue = true
  pending : r.pending = some (.option option none)
  workersTaken : r.workersTaken = !(counts groups).isEmpty
  bare : written groups = .ok r.bare
  proper : separator ∉ groups.flatMap Group.words

/-- The groups, the first `--` and some words after it have been read. -/
structure Passing (groups : List Group) (words : List OsString) (r : Reader) : Prop where
  trailing : r.trailing = true
  pending : r.pending = some (.passedOn words)
  bare : written groups = .ok r.bare
  proper : separator ∉ groups.flatMap Group.words

variable {groups : List Group} {option : ValueOption} {words : List OsString} {word : OsString}
  {r r' : Reader}

theorem proper_concat {g : Group} (h : separator ∉ groups.flatMap Group.words)
    (hg : separator ∉ g.words) : separator ∉ (groups ++ [g]).flatMap Group.words := by
  rw [List.flatMap_append, List.mem_append, List.flatMap_singleton]
  exact not_or_intro h hg

/-- What the groups come to is what is held once what is pending has been stored. -/
theorem Settled.flush (h : Settled groups r) (hflush : r.flush = .ok r') :
    written groups = .ok r'.bare := by
  rw [← h.gist, gist_of_flush hflush]

namespace Between

theorem start : Between [] {} where
  awaitsValue := rfl
  pending _ := nofun
  gist := rfl
  proper := List.not_mem_nil
  trailing := rfl
  workersTaken := rfl

/-- A group that is stored at once. -/
theorem store {g : Group} (h : Between groups r) (hcount : g.count? = none)
    (hproper : separator ∉ g.words) (hstore : r.storeNow g.gives = .ok r') :
    Between (groups ++ [g]) r' := by
  rw [storeNow_eq] at hstore
  obtain ⟨r₁, hflush, hkeep⟩ := ok_of_bind hstore
  have hr₁ := placed_of_flush h.awaitsValue hflush
  have hr' := placed_of_keep hkeep
  have hnone : r'.pending = none := by
    rw [hr']
    show r₁.pending = none
    exact pending_of_flush hflush
  refine ⟨⟨?_, ?_, ?_, proper_concat h.proper hproper⟩, ?_, ?_⟩
  · rw [hr', hr₁]
    exact h.awaitsValue
  · rw [hnone]
    exact nofun
  · rw [written_concat, h.flush hflush, Reader.gist, hnone]
    exact (keep_bare hkeep).symm
  · rw [hr', hr₁]
    exact h.trailing
  · rw [hr', hr₁, counts_concat, hcount, Option.toList_none, List.append_nil]
    exact h.workersTaken

/-- A word for the worker count, which is stored later. -/
theorem counted (h : Between groups r) (hne : word ≠ separator) (hread : r.readWord word = .ok r') :
    Between (groups ++ [.workers word]) r' := by
  rw [readWord, h.awaitsValue] at hread
  dsimp only at hread
  split at hread
  case isTrue => cases hread
  case isFalse =>
    obtain ⟨r₁, hflush, hr'⟩ := ok_of_bind hread
    have hr₁ := placed_of_flush h.awaitsValue hflush
    cases hr'
    refine ⟨⟨?_, fun words => nofun, ?_, proper_concat h.proper ?_⟩, ?_, ?_⟩
    · rw [hr₁]
      exact h.awaitsValue
    · rw [written_concat, h.flush hflush]
      rfl
    · simpa [Group.words] using hne.symm
    · rw [hr₁]
      exact h.trailing
    · rw [counts_concat]
      simp [Group.count?]

theorem flag (h : Between groups r) (hflush : r.flush = .ok r') :
    Awaiting groups option
      { r' with pending := some (.option option none), awaitsValue := true } := by
  have hr' := placed_of_flush h.awaitsValue hflush
  refine ⟨?_, rfl, rfl, ?_, (h.flush hflush).trans rfl, h.proper⟩
  · rw [hr']
    exact h.trailing
  · rw [hr']
    exact h.workersTaken

theorem separated (h : Between groups r) :
    Separated groups { r with trailing := true, awaitsValue := false } :=
  ⟨⟨rfl, h.pending, h.gist, h.proper⟩, rfl⟩

end Between

/-- The word after the name of an option is its value. -/
theorem Awaiting.valued (h : Awaiting groups option r) (hne : word ≠ separator)
    (hread : r.readWord word = .ok r') : Between (groups ++ [.option option word true]) r' := by
  rw [readWord, h.awaitsValue, h.pending] at hread
  cases hread
  refine ⟨⟨rfl, fun words => nofun, ?_, proper_concat h.proper ?_⟩, h.trailing, ?_⟩
  · rw [written_concat, h.bare]
    rfl
  · have hflag : flag option.name ≠ separator := by
      cases option <;> decide
    simpa [Group.words] using ⟨hflag.symm, hne.symm⟩
  · rw [counts_concat]
    simpa [Group.count?] using h.workersTaken

/-- An option that stands without its value cannot be stored. -/
theorem flush_missing (h : r.pending = some (.option option none)) :
    r.flush = .error (.missingValue option) := by
  rw [flush_eq, h]
  rfl

theorem Separated.step (h : Separated groups r) (hstep : r.step word = .ok r') :
    Passing groups [word] r' := by
  rw [Reader.step, h.trailing, if_pos rfl, readPassedOn] at hstep
  split at hstep
  case h_1 words hp => exact absurd hp (h.pending words)
  case h_2 =>
    obtain ⟨r₁, hflush, hr'⟩ := ok_of_bind hstep
    have hr₁ := placed_of_flush h.awaitsValue hflush
    cases hr'
    refine ⟨?_, rfl, (h.flush hflush).trans rfl, h.proper⟩
    rw [hr₁]
    exact h.trailing

theorem Passing.step (h : Passing groups words r) (word : OsString) :
    ∃ r', r.step word = .ok r' ∧ Passing groups (words ++ [word]) r' := by
  refine ⟨{ r with pending := some (.passedOn (words ++ [word])) }, ?_,
    h.trailing, rfl, h.bare, h.proper⟩
  rw [Reader.step, if_pos h.trailing, readPassedOn, h.pending]

/-- How far the reader is after some words. -/
inductive Progress : List OsString → Reader → Prop
  | between {groups : List Group} {r : Reader} (h : Between groups r) :
      Progress (groups.flatMap Group.words) r
  | awaiting {groups : List Group} {option : ValueOption} {r : Reader}
      (h : Awaiting groups option r) :
      Progress (groups.flatMap Group.words ++ [CommandLine.flag option.name]) r
  | separated {groups : List Group} {r : Reader} (h : Separated groups r) :
      Progress (groups.flatMap Group.words ++ [separator]) r
  | passing {groups : List Group} {words : List OsString} {r : Reader}
      (h : Passing groups words r) :
      Progress (groups.flatMap Group.words ++ separator :: words) r
  | stuck {words : List OsString} {option : ValueOption} {r : Reader}
      (htrailing : r.trailing = true) (hpending : r.pending = some (.option option none)) :
      Progress words r

/-- A group that was read adds its words. -/
theorem Progress.concat {g : Group} (h : Between (groups ++ [g]) r)
    (hwords : words = groups.flatMap Group.words ++ g.words) : Progress words r := by
  have hall : words = (groups ++ [g]).flatMap Group.words := by
    rw [hwords, List.flatMap_append, List.flatMap_singleton]
  rw [hall]
  exact .between h

theorem separator_not_mem_joined (option : ValueOption) (value : OsString) :
    separator ∉ [joined option value] := by
  rw [List.mem_singleton]
  intro h
  have hm : equalsSign ∈ separator.bytes := by
    rw [h, joined]
    exact List.mem_append_right _ List.mem_cons_self
  exact absurd hm (by decide)

theorem Progress.step (h : Progress words r) (hstep : r.step word = .ok r') :
    Progress (words ++ [word]) r' := by
  cases h with
  | @between groups r h =>
    cases takes_of_step h.trailing hstep with
    | separator => exact .separated h.separated
    | @joined option value _ hstore =>
      exact .concat (h.store (g := .option option value false) rfl
        (separator_not_mem_joined option value) hstore) rfl
    | flag hflush => exact .awaiting (h.flag hflush)
    | switch hstore => exact .concat (h.store (g := .failOnChildError) rfl (by decide) hstore) rfl
    | word hne hread => exact .concat (h.counted hne hread) rfl
  | @awaiting groups option r h =>
    have hflush := flush_missing h.pending
    -- The next word is the value; an option or `--` in its place leaves the option without one.
    cases takes_of_step h.trailing hstep with
    | separator => exact .stuck rfl h.pending
    | joined hstore | switch hstore =>
      rw [storeNow_eq, hflush] at hstore
      cases hstore
    | flag hflush' =>
      rw [hflush] at hflush'
      cases hflush'
    | word hne hread =>
      exact .concat (h.valued hne hread) (List.append_assoc _ _ _)
  | separated h =>
    rw [List.append_assoc]
    exact .passing (h.step hstep)
  | passing h =>
    obtain ⟨r₁, hr₁, hpassing⟩ := h.step word
    rw [hstep] at hr₁
    cases hr₁
    rw [List.append_assoc]
    exact .passing hpassing
  | @stuck _ option _ htrailing hpending =>
    rw [Reader.step, if_pos htrailing, readPassedOn, hpending] at hstep
    obtain ⟨r₁, hflush, _⟩ := ok_of_bind hstep
    rw [flush_missing hpending] at hflush
    cases hflush

theorem progress_of_foldlM (h : words.foldlM Reader.step {} = .ok r) : Progress words r := by
  induction words using List.reverseRecOn generalizing r with
  | nil =>
    cases h
    exact .between .start
  | append_singleton words word ih =>
    rw [List.foldlM_append] at h
    obtain ⟨r₁, hbefore, hlast⟩ := ok_of_bind h
    obtain ⟨r₂, hstep, hr⟩ := ok_of_bind hlast
    cases hr
    exact (ih hbefore).step hstep

end Reader

end WorkerFleet.CommandLine
