import WorkerFleet.Proofs.Grammar
import WorkerFleet.Proofs.WorkerCounts

/-!
# Configurations on the command line

Every configuration can be written down, its groups in any order, and is read back as it was.

* `Reader.Between.reads`: what reading the words of one group takes.
* `parse_written`: the configuration that is read.
-/

namespace WorkerFleet

open Text

namespace CommandLine

def Args.valueOf (args : Args) : ValueOption → OsString
  | .collaborator => args.collaborator
  | .waitOrder => .ofText args.waitOrder.name

/-- The groups of a configuration. Each option's value stands in a word of its own or not. -/
def Args.groups (args : Args) (apart : ValueOption → Bool) : List Group :=
  [.workers (.ofText args.workers.display),
    .option .collaborator (args.valueOf .collaborator) (apart .collaborator),
    .option .waitOrder (args.valueOf .waitOrder) (apart .waitOrder)] ++
  if args.failOnChildError then [.failOnChildError] else []

/-- The words of the group can be read as nothing else. -/
def Group.Plain : Group → Prop
  | .workers word => ∃ count : WorkerCount, word = .ofText count.display
  | .option _ value true => value.bytes.head? ≠ some Reader.dash
  | .option _ _ false => True
  | .failOnChildError => True

namespace Reader

variable {groups : List Group} {words : List OsString} {r s : Reader}

theorem display_ne_separator (count : WorkerCount) : .ofText count.display ≠ separator := by
  intro h
  have htext : some count.display = some "--" := by
    rw [← OsString.text?_ofText count.display, h]
    decide
  have hparse := count.parse_display
  have hfault : WorkerCount.parse "--" = .error (.invalid "--") := by decide
  rw [Option.some.inj htext, hfault] at hparse
  cases hparse

theorem step_display (h : r.trailing = false) (hfree : r.workersTaken = false)
    (count : WorkerCount) :
    r.step (.ofText count.display) = r.readWord (.ofText count.display) := by
  rw [WorkerCount.display]
  cases count.value with
  | ofNat n =>
    obtain ⟨c, cs, ht, _, hminus⟩ := Decimal.exists_ofNat n
    have hc : c.isDigit = true := Decimal.isDigit_of_mem_ofNat (ht ▸ List.mem_cons_self)
    have hw : (OsString.ofText (String.ofList (Decimal.ofNat n))).bytes =
        c.val.toUInt8 :: Utf8.encode cs := by
      rw [OsString.ofText, String.toList_ofList, ht, Utf8.encode_cons (isAscii_of_isDigit hc)]
    refine step_word h ?_
    rw [Decimal.ofInt, hw, List.head?_cons, ne_eq, Option.some.injEq]
    exact byte_ne_dash hc
  | negSucc n =>
    -- Only a reader that has no worker count yet takes the sign for a part of a number.
    obtain ⟨c, cs, ht, _⟩ := Decimal.exists_ofNat (n + 1)
    have hd : ∀ d ∈ Decimal.ofNat (n + 1), d.isDigit = true :=
      fun d hd => Decimal.isDigit_of_mem_ofNat hd
    rw [Decimal.ofInt, ht] at *
    exact step_negative h hfree hd

theorem exists_flush (h : r.gist = .ok s) : ∃ r', r.flush = .ok r' ∧ r'.bare = s := by
  rw [← flush_bare] at h
  exact ok_of_map h

theorem exists_storeNow {p : Pending} (h : r.gist = .ok s) {s' : Reader}
    (hkeep : s.keep p = .ok s') : ∃ r', r.storeNow p = .ok r' := by
  obtain ⟨r₁, hflush, rfl⟩ := exists_flush h
  rw [bare, keep_placed] at hkeep
  obtain ⟨r₂, hr₂, _⟩ := ok_of_map hkeep
  refine ⟨r₂, ?_⟩
  rw [storeNow_eq, hflush]
  exact hr₂

/-- Where another worker count can be stored, none was taken before. -/
theorem Between.workersTaken_eq_false {word : OsString} (h : Between groups r)
    (hwritten : written (groups ++ [.workers word]) = .ok s) : r.workersTaken = false := by
  have honce := (written_holds hwritten).workers.length_le
  rw [counts_concat, List.length_append] at honce
  have hnil : counts groups = [] := by
    rw [← List.length_eq_zero_iff]
    exact Nat.le_zero.mp (Nat.le_of_add_le_add_right honce)
  rw [h.workersTaken, hnil]
  rfl

/-- The words of a group that can be stored are read as that group. -/
theorem Between.reads {g : Group} (h : Between groups r) (hplain : g.Plain)
    (hwritten : written (groups ++ [g]) = .ok s) :
    ∃ r', g.words.foldlM step r = .ok r' ∧ Between (groups ++ [g]) r' := by
  have hbind := hwritten
  rw [written_concat] at hbind
  obtain ⟨s₁, hs₁, hkeep⟩ := ok_of_bind hbind
  have hgist : r.gist = .ok s₁ := h.gist.trans hs₁
  obtain ⟨r₁, hflush, _⟩ := exists_flush hgist
  match g with
  | .workers word =>
    obtain ⟨count, rfl⟩ := hplain
    have hfree := h.workersTaken_eq_false hwritten
    have hread : r.readWord (.ofText count.display) = .ok
        { r₁ with pending := some (.workers (.ofText count.display)), workersTaken := true } := by
      rw [readWord, h.awaitsValue, hfree, hflush]
      rfl
    refine ⟨_, ?_, h.counted (display_ne_separator count) hread⟩
    rw [Group.words, foldlM_singleton, step_display h.trailing hfree, hread]
  | .option o value true =>
    -- The value begins with no dash, so it cannot be taken for an option that ends the wait.
    have hawaiting : Awaiting groups o
        { r₁ with pending := some (.option o none), awaitsValue := true } := h.flag hflush
    have hread : Reader.readWord
        { r₁ with pending := some (.option o none), awaitsValue := true } value = .ok
        { r₁ with pending := some (.option o (some value)), awaitsValue := false } := rfl
    have hne : value ≠ separator := by
      rintro rfl
      exact hplain rfl
    refine ⟨_, ?_, hawaiting.valued hne hread⟩
    rw [Group.words, List.foldlM_cons, step_flag h.trailing, hflush]
    rw [← hread, ← step_word hawaiting.trailing hplain, ← foldlM_singleton]
    rfl
  | .option o value false =>
    obtain ⟨r₂, hstore⟩ := exists_storeNow hgist hkeep
    refine ⟨r₂, ?_, h.store rfl (separator_not_mem_joined o value) hstore⟩
    rw [Group.words, foldlM_singleton, step_joined h.trailing]
    exact hstore
  | .failOnChildError =>
    obtain ⟨r₂, hstore⟩ := exists_storeNow hgist hkeep
    refine ⟨r₂, ?_, h.store rfl (by decide) hstore⟩
    rw [Group.words, foldlM_singleton, step_switch h.trailing]
    exact hstore

/-- The words of all groups are read as these groups. -/
theorem reads_words (hplain : ∀ g ∈ groups, g.Plain) (hwritten : written groups = .ok s) :
    ∃ r, (groups.flatMap Group.words).foldlM step {} = .ok r ∧ Between groups r := by
  induction groups using List.reverseRecOn generalizing s with
  | nil => exact ⟨{}, rfl, .start⟩
  | append_singleton groups g ih =>
    have hbind := hwritten
    rw [written_concat] at hbind
    obtain ⟨s₁, hs₁, _⟩ := ok_of_bind hbind
    obtain ⟨r₁, hr₁, hbetween⟩ := ih (fun g hg => hplain g (List.mem_append_left _ hg)) hs₁
    obtain ⟨r₂, hr₂, hnext⟩ := hbetween.reads (hplain g (by simp)) hwritten
    refine ⟨r₂, ?_, hnext⟩
    rw [List.flatMap_append, List.flatMap_singleton, List.foldlM_append, hr₁]
    exact hr₂

/-- The first word after `--` is read where what was pending can be stored. -/
theorem Separated.reads (h : Separated groups r) (hgist : r.gist = .ok s) (word : OsString) :
    ∃ r', r.step word = .ok r' ∧ Passing groups [word] r' := by
  obtain ⟨r₁, hflush, _⟩ := exists_flush hgist
  have hstep : r.step word = .ok { r₁ with pending := some (.passedOn [word]) } := by
    rw [Reader.step, if_pos h.trailing, readPassedOn]
    split
    case h_1 words hp => exact absurd hp (h.pending words)
    case h_2 =>
      rw [hflush]
      rfl
  exact ⟨_, hstep, h.step hstep⟩

/-- After it every word is read. -/
theorem Passing.reads (h : Passing groups words r) (more : List OsString) :
    ∃ r', more.foldlM Reader.step r = Except.ok r' ∧ Passing groups (words ++ more) r' := by
  induction more generalizing words r with
  | nil => exact ⟨r, rfl, by rwa [List.append_nil]⟩
  | cons word more ih =>
    obtain ⟨r₁, hstep, hnext⟩ := h.step word
    obtain ⟨r₂, hmore, hend⟩ := ih hnext
    refine ⟨r₂, ?_, ?_⟩
    · rw [List.foldlM_cons, hstep]
      exact hmore
    · rwa [List.append_assoc] at hend

/-- What is held after `--` and the words that are passed on. -/
theorem Between.passes (h : Between groups r) (hwritten : written groups = .ok s)
    (words : List OsString) : ∃ r' r'', (separator :: words).foldlM step r = .ok r' ∧
      r'.flush = .ok r'' ∧ Holds groups words r'' := by
  have hseparated := h.separated
  have hgist := hseparated.gist.trans hwritten
  rw [List.foldlM_cons, step_separator h.trailing]
  cases words with
  | nil =>
    obtain ⟨r₁, hflush, _⟩ := exists_flush hgist
    exact ⟨_, r₁, rfl, hflush, hseparated.holds hflush⟩
  | cons first rest =>
    obtain ⟨r₁, hstep, hfirst⟩ := hseparated.reads hgist first
    obtain ⟨r₂, hrest, hpassing⟩ := hfirst.reads rest
    have hgist₂ : r₂.gist = r₂.bare.keep (.passedOn (first :: rest)) := by
      rw [Reader.gist, hpassing.pending]
      rfl
    obtain ⟨r₃, hflush, _⟩ := exists_flush (hgist₂.trans (keep_passedOn _ _))
    refine ⟨r₂, r₃, ?_, hflush, hpassing.holds hflush⟩
    show (first :: rest).foldlM step _ = _
    rw [List.foldlM_cons, hstep]
    exact hrest

end Reader

open Reader

section

variable {groups : List Group} {args : Args} {apart : ValueOption → Bool} {r : Reader}

theorem readWorkers_display (count : WorkerCount) :
    readWorkers (.ofText count.display) = .ok count :=
  readWorkers_ofText count.parse_display

theorem readWaitOrder_name (order : WaitOrder) :
    readWaitOrder (.ofText order.name) = .ok order := by
  cases order <;> decide

theorem counts_groups (hperm : groups.Perm (args.groups apart)) :
    counts groups = [.ofText args.workers.display] := by
  have hall : counts (args.groups apart) = [.ofText args.workers.display] := by
    rw [Args.groups]
    cases args.failOnChildError <;> rfl
  rw [← List.perm_singleton, ← hall]
  exact hperm.filterMap _

theorem given_groups (hperm : groups.Perm (args.groups apart)) (o : ValueOption) :
    given o groups = [args.valueOf o] := by
  have hall : given o (args.groups apart) = [args.valueOf o] := by
    rw [Args.groups]
    cases args.failOnChildError <;> cases o <;> rfl
  rw [← List.perm_singleton, ← hall]
  exact hperm.filterMap _

theorem count_groups (hperm : groups.Perm (args.groups apart)) :
    groups.count .failOnChildError = if args.failOnChildError then 1 else 0 := by
  rw [hperm.count_eq, Args.groups]
  cases args.failOnChildError <;> simp

/-- The groups of a configuration, in any order, give it. -/
theorem Holds.configured_eq (h : Holds groups args.collaboratorArgs r)
    (hperm : groups.Perm (args.groups apart)) (hne : args.collaborator.isEmpty = false) :
    r.configured = .ok args := by
  have hworkers := h.workers
  rw [counts_groups hperm] at hworkers
  have hcollaborator := h.collaborator
  rw [given_groups hperm] at hcollaborator
  have hwaitOrder := h.waitOrder
  rw [given_groups hperm] at hwaitOrder
  have hfail : r.failOnChildError = args.failOnChildError := by
    have hcount := h.failOnChildError
    rw [count_groups hperm] at hcount
    cases hr : r.failOnChildError <;> cases ha : args.failOnChildError <;> simp_all
  rw [configured, hworkers.eq_some (readWorkers_display _),
    hcollaborator.eq_some (readCollaborator_of_ne hne), hwaitOrder.eq_some (readWaitOrder_name _),
    hfail, h.collaboratorArgs]
  rfl

theorem finish_groups {r' : Reader} (hflush : r.flush = .ok r')
    (h : Holds groups args.collaboratorArgs r') (hperm : groups.Perm (args.groups apart))
    (hne : args.collaborator.isEmpty = false) (env : Environment) : r.finish env = .ok args := by
  have hgiven : .value .collaborator ∈ r'.stored := by
    rw [h.stored _ Argument.noConfusion]
    by_contra hnot
    rw [← given_eq_nil_iff, given_groups hperm] at hnot
    cases hnot
  rw [finish_eq, hflush]
  show r'.fromEnvironment env >>= configured = .ok args
  rw [fromEnvironment_of_given hgiven]
  exact h.configured_eq hperm hne

theorem nodup_groups (hperm : groups.Perm (args.groups apart)) :
    (groups.map Group.argument).Nodup := by
  rw [(hperm.map _).nodup_iff, Args.groups]
  cases args.failOnChildError <;> simp [Group.argument]

theorem mem_groups {g : Group} (hperm : groups.Perm (args.groups apart)) (h : g ∈ groups) :
    g = .workers (.ofText args.workers.display) ∨
      (∃ o, g = .option o (args.valueOf o) (apart o)) ∨
      g = .failOnChildError := by
  rw [hperm.mem_iff, Args.groups] at h
  have hcases : g = .workers (.ofText args.workers.display) ∨
      g = .option .collaborator (args.valueOf .collaborator) (apart .collaborator) ∨
      g = .option .waitOrder (args.valueOf .waitOrder) (apart .waitOrder) ∨
      g = .failOnChildError := by
    cases hf : args.failOnChildError <;> simp [hf] at h <;> tauto
  rcases hcases with hg | hg | hg | hg
  · exact .inl hg
  · exact .inr (.inl ⟨_, hg⟩)
  · exact .inr (.inl ⟨_, hg⟩)
  · exact .inr (.inr hg)

theorem accept_groups (hperm : groups.Perm (args.groups apart))
    (hne : args.collaborator.isEmpty = false) : ∀ g ∈ groups, ∀ r, ∃ r', g.accept r = .ok r' := by
  intro g hg r
  rcases mem_groups hperm hg with rfl | ⟨o, rfl⟩ | rfl
  · rw [Group.accept, readWorkers_display]
    exact ⟨_, rfl⟩
  · cases o with
    | collaborator =>
      rw [Group.accept, Args.valueOf, readCollaborator_of_ne hne]
      exact ⟨_, rfl⟩
    | waitOrder =>
      rw [Group.accept, Args.valueOf, readWaitOrder_name]
      exact ⟨_, rfl⟩
  · exact ⟨_, rfl⟩

theorem plain_groups (hperm : groups.Perm (args.groups apart))
    (hapart : apart .collaborator = true → args.collaborator.bytes.head? ≠ some dash) :
    ∀ g ∈ groups, g.Plain := by
  intro g hg
  rcases mem_groups hperm hg with rfl | ⟨o, rfl⟩ | rfl
  · exact ⟨args.workers, rfl⟩
  · cases ha : apart o with
    | false => trivial
    | true =>
      cases o with
      | collaborator => exact hapart ha
      | waitOrder =>
        rw [Group.Plain, Args.valueOf]
        cases args.waitOrder <;> decide
  · trivial

/-- The groups of a configuration, in any order and whatever the environment, are read back as the
configuration, with its further arguments after `--`. -/
theorem parse_written (name : OsString) (env : Environment)
    (hne : args.collaborator.isEmpty = false)
    (hapart : apart .collaborator = true → args.collaborator.bytes.head? ≠ some dash)
    (hperm : groups.Perm (args.groups apart)) :
    parse (name :: groups.flatMap Group.words ++ separator :: args.collaboratorArgs) env =
        .ok args ∧
      (args.collaboratorArgs = [] →
        parse (name :: groups.flatMap Group.words) env = .ok args) := by
  obtain ⟨s, hs⟩ := exists_written (nodup_groups hperm) (accept_groups hperm hne)
  obtain ⟨r, hr, hbetween⟩ := reads_words (plain_groups hperm hapart) hs
  constructor
  · obtain ⟨r₁, r₂, hpassed, hflush, hholds⟩ := hbetween.passes hs args.collaboratorArgs
    have hwords : (groups.flatMap Group.words ++ separator :: args.collaboratorArgs).foldlM
        Reader.step {} = .ok r₁ := by
      rw [List.foldlM_append, hr]
      exact hpassed
    calc
      parse (name :: groups.flatMap Group.words ++ separator :: args.collaboratorArgs) env
        = (groups.flatMap Group.words ++ separator :: args.collaboratorArgs).foldlM
            Reader.step {} >>= (·.finish env) := rfl
      _ = r₁.finish env := by rw [hwords]; rfl
      _ = .ok args := finish_groups hflush hholds hperm hne env
  · intro hnil
    obtain ⟨r₁, hflush, _⟩ := exists_flush (hbetween.gist.trans hs)
    have hholds : Holds groups args.collaboratorArgs r₁ := by
      rw [hnil]
      exact hbetween.holds hflush
    calc
      parse (name :: groups.flatMap Group.words) env
        = (groups.flatMap Group.words).foldlM Reader.step {} >>= (·.finish env) := rfl
      _ = r.finish env := by rw [hr]; rfl
      _ = .ok args := finish_groups hflush hholds hperm hne env

def leastArgs : Args where
  workers := { value := -9223372036854775808 }
  collaborator := ⟨[61, 45, 255]⟩
  waitOrder := .spawn
  failOnChildError := true
  collaboratorArgs := [.ofText "--", .ofText "-h"]

def leastGroups : List Group := (leastArgs.groups (· == .collaborator)).reverse

theorem parse_written_least :
    leastArgs.collaborator.isEmpty = false ∧
      leastArgs.collaborator.bytes.head? ≠ some dash ∧
      leastGroups.Perm (leastArgs.groups (· == .collaborator)) ∧
      parse (.ofText "gc-launcher" :: leastGroups.flatMap Group.words ++
        separator :: leastArgs.collaboratorArgs) .empty = .ok leastArgs :=
  have hne : leastArgs.collaborator.isEmpty = false := by decide
  have hdash : leastArgs.collaborator.bytes.head? ≠ some dash := by decide
  have hperm : leastGroups.Perm (leastArgs.groups (· == .collaborator)) := List.reverse_perm _
  ⟨hne, hdash, hperm, (parse_written _ .empty hne (fun _ => hdash) hperm).1⟩

end

end CommandLine

end WorkerFleet
