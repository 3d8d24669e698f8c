import WorkerFleet.Proofs.ProgramChoice

/-!
# The first `--` splits the command line

What stands before the first `--` decides what comes of the command line; what stands after it is
passed on and changes nothing else.

* `leading_of_foldlM`: a reader that has met no `--`.
* `finish_gist`: the end of reading depends only on what is held once all is stored.
* `gist_separated`: what is held after `--` and the words behind it.
* `parse_separated`: with `--` and more words, a command line has the same outcome as without.
-/

namespace WorkerFleet.CommandLine

open Reader

namespace Reader

/-- The reader has not met a `--`, so no words wait to be passed on. -/
structure Leading (r : Reader) : Prop where
  trailing : r.trailing = false
  pending : ∀ words, r.pending ≠ some (.passedOn words)

variable {r r' : Reader} {word : OsString} {words : List OsString}

theorem leading_start : Leading {} := ⟨rfl, fun _ => nofun⟩

theorem trailing_of_flush (h : r.flush = .ok r') : r'.trailing = r.trailing := by
  rw [flush_eq] at h
  split at h
  case h_1 =>
    cases h
    rfl
  case h_2 =>
    rw [placed_of_keep h]
    rfl

/-- What is stored at once leaves nothing behind. -/
theorem Leading.storeNow (h : Leading r) {p : Pending} (hstore : r.storeNow p = .ok r') :
    Leading r' := by
  rw [storeNow_eq] at hstore
  obtain ⟨r₁, hflush, hkeep⟩ := ok_of_bind hstore
  have hplaced := placed_of_keep hkeep
  have htrailing : r'.trailing = r₁.trailing := by rw [hplaced]; rfl
  have hpending : r'.pending = r₁.pending := by rw [hplaced]; rfl
  refine ⟨?_, ?_⟩
  · rw [htrailing, trailing_of_flush hflush, h.trailing]
  · rw [hpending, pending_of_flush hflush]
    exact fun _ => nofun

theorem Leading.positional (h : Leading r) (hread : r.readWord word = .ok r') : Leading r' := by
  rw [readWord.eq_def] at hread
  split at hread
  case h_1 =>
    cases hread
    exact ⟨h.trailing, fun _ => nofun⟩
  case h_2 =>
    split at hread
    case isTrue => cases hread
    case isFalse =>
      obtain ⟨r₁, hflush, hr'⟩ := ok_of_bind hread
      cases hr'
      exact ⟨(trailing_of_flush hflush).trans h.trailing, fun _ => nofun⟩

/-- Only `--` ends the leading part. -/
theorem Leading.step (h : Leading r) (hne : word ≠ separator) (hstep : r.step word = .ok r') :
    Leading r' := by
  cases takes_of_step h.trailing hstep with
  | separator => exact absurd rfl hne
  | joined hstore => exact h.storeNow hstore
  | flag hflush => exact ⟨(trailing_of_flush hflush).trans h.trailing, fun _ => nofun⟩
  | switch hstore => exact h.storeNow hstore
  | word _ hread => exact h.positional hread

theorem leading_of_foldlM (hno : separator ∉ words) (h : words.foldlM Reader.step {} = .ok r) :
    Leading r := by
  induction words using List.reverseRecOn generalizing r with
  | nil =>
    cases h
    exact leading_start
  | append_singleton words word ih =>
    rw [List.mem_append, not_or, List.mem_singleton] at hno
    rw [List.foldlM_append] at h
    obtain ⟨r₁, hbefore, hlast⟩ := ok_of_bind h
    obtain ⟨r₂, hstep, hr⟩ := ok_of_bind hlast
    cases hr
    exact (ih hno.1 hbefore).step (Ne.symm hno.2) hstep

/-- The environment is asked only about what is held. -/
theorem fromEnvironment_bare (h : r.pending = none) (env : Environment) :
    r.bare.fromEnvironment env = (r.fromEnvironment env).map bare := by
  cases henv : env.get? CollaboratorOptions.programVariable with
  | none =>
    rw [fromEnvironment_of_unset henv, fromEnvironment_of_unset henv]
    rfl
  | some value =>
    by_cases hm : .value .collaborator ∈ r.stored
    · rw [fromEnvironment_of_given hm, fromEnvironment_of_given (r := r.bare) hm]
      rfl
    · rw [fromEnvironment_of_set h hm henv, fromEnvironment_of_set (r := r.bare) rfl hm henv]
      exact keep_placed r {} _

/-- The end of reading, from what is held once all is stored. -/
def conclude (env : Environment) (r : Reader) : Except Stop Args :=
  r.fromEnvironment env >>= configured

theorem finish_gist (r : Reader) (env : Environment) : r.finish env = r.gist >>= conclude env := by
  rw [finish_eq, ← flush_bare]
  cases hflush : r.flush with
  | error stop => rfl
  | ok r' =>
    show r'.fromEnvironment env >>= configured = r'.bare.fromEnvironment env >>= configured
    rw [fromEnvironment_bare (pending_of_flush hflush)]
    cases r'.fromEnvironment env <;> rfl

section

variable {env : Environment}

theorem conclude_of_given (h : .value .collaborator ∈ r.stored) :
    r.conclude env = r.configured := by
  rw [conclude, fromEnvironment_of_given h]
  rfl

theorem conclude_of_unset (h : env.get? CollaboratorOptions.programVariable = none) :
    r.conclude env = r.configured := by
  rw [conclude, fromEnvironment_of_unset h]
  rfl

theorem conclude_of_set (hr : r.pending = none) (hnot : .value .collaborator ∉ r.stored)
    {value : OsString} (h : env.get? CollaboratorOptions.programVariable = some value) :
    r.conclude env = (readCollaborator value).map (fun program =>
      { r with
        stored := r.stored ++ [.value .collaborator]
        collaborator := some program }) >>= configured := by
  have hkeep := (keep_group r (.option .collaborator value true)).trans (if_neg hnot)
  rw [conclude, fromEnvironment_of_set hr hnot h]
  exact congrArg (· >>= configured) hkeep

end

def passing (words : List OsString) (r : Reader) : Reader :=
  match words with
  | [] => r
  | words => { r with stored := r.stored ++ [.passedOn], collaboratorArgs := words }

/-- After one word that is passed on, all others are. -/
theorem foldlM_passedOn (h : r.trailing = true) (words more : List OsString) :
    more.foldlM Reader.step { r with pending := some (.passedOn words) } =
      .ok { r with pending := some (.passedOn (words ++ more)) } := by
  induction more generalizing words with
  | nil =>
    rw [List.append_nil]
    rfl
  | cons word more ih =>
    have hstep : Reader.step { r with pending := some (.passedOn words) } word =
        .ok { r with pending := some (.passedOn (words ++ [word])) } := by
      rw [Reader.step, if_pos h, readPassedOn]
    have hall : words ++ word :: more = words ++ [word] ++ more := List.append_cons _ _ _
    rw [List.foldlM_cons, hstep, hall]
    exact ih (words ++ [word])

/-- After `--` the reader holds what it held before and the words behind it. -/
theorem gist_separated (h : Leading r) (post : List OsString) :
    (separator :: post).foldlM Reader.step r >>= gist = r.gist.map (passing post) := by
  rw [List.foldlM_cons, step_separator h.trailing]
  cases post with
  | nil =>
    show r.gist = r.gist.map id
    cases r.gist <;> rfl
  | cons word rest =>
    -- The first word has what was pending stored, and the others only join it.
    have hstep : Reader.step { r with trailing := true, awaitsValue := false } word =
        Reader.flush { r with trailing := true, awaitsValue := false } >>= fun r =>
          .ok { r with pending := some (.passedOn [word]) } := by
      rw [Reader.step, if_pos rfl, readPassedOn]
      split
      case h_1 words hp => exact absurd hp (h.pending words)
      case h_2 => rfl
    have hgist : r.gist = gist { r with trailing := true, awaitsValue := false } := rfl
    rw [hgist, ← flush_bare]
    show (Reader.step _ word >>= fun r => rest.foldlM Reader.step r) >>= gist = _
    rw [hstep]
    cases hflush : Reader.flush { r with trailing := true, awaitsValue := false } with
    | error stop => rfl
    | ok r₁ =>
      show rest.foldlM Reader.step { r₁ with pending := some (.passedOn [word]) } >>= gist = _
      rw [foldlM_passedOn (trailing_of_flush hflush)]
      rfl

end Reader

/-- The same outcome, but for the words that are passed on. -/
inductive Alike (words : List OsString) : (x y : Except Stop Args) → Prop
  | ok (args : Args) : Alike words (.ok args) (.ok { args with collaboratorArgs := words })
  | error {stop stop' : Stop} (h : stop'.kind = stop.kind) :
      Alike words (.error stop) (.error stop')

namespace Reader

variable {words : List OsString}

theorem configured_alike (r : Reader) (stored : List Argument) (words : List OsString) :
    Alike words r.configured
      (configured { r with stored, collaboratorArgs := words }) := by
  rw [configured, configured]
  cases r.workers with
  | none => exact .error rfl
  | some workers => exact .ok _

theorem conclude_alike (r : Reader) (hr : r.pending = none) {stored : List Argument}
    (hstored : .value .collaborator ∈ stored ↔ .value .collaborator ∈ r.stored)
    (words : List OsString) (env : Environment) :
    Alike words (r.conclude env) (conclude env { r with stored, collaboratorArgs := words }) := by
  cases henv : env.get? CollaboratorOptions.programVariable with
  | none =>
    rw [conclude_of_unset henv, conclude_of_unset henv]
    exact configured_alike _ _ _
  | some value =>
    by_cases hm : .value .collaborator ∈ r.stored
    · rw [conclude_of_given hm, conclude_of_given (hstored.mpr hm)]
      exact configured_alike _ _ _
    · have hother := conclude_of_set (r := { r with stored, collaboratorArgs := words }) hr
        (fun h => hm (hstored.mp h)) henv
      rw [conclude_of_set hr hm henv, hother]
      cases readCollaborator value with
      | error stop => exact .error rfl
      | ok program => exact configured_alike _ _ _

/-- What is passed on is all that `--` changes. -/
theorem passing_alike (r : Reader) (hr : r.pending = none) (hargs : r.collaboratorArgs = [])
    (words : List OsString) (env : Environment) :
    Alike words (r.conclude env) ((passing words r).conclude env) := by
  cases words with
  | nil =>
    have hsame : { r with collaboratorArgs := [] } = r := by rw [← hargs]
    have h := conclude_alike r hr Iff.rfl [] env
    rwa [hsame] at h
  | cons word words => exact conclude_alike r hr (by simp) (word :: words) env

end Reader

theorem parse_eq (bin : OsString) (words : List OsString) (env : Environment) :
    parse (bin :: words) env = words.foldlM Reader.step {} >>= gist >>= conclude env := by
  rw [parse, List.tail_cons]
  cases words.foldlM Reader.step {} with
  | error stop => rfl
  | ok r => exact finish_gist r env

theorem parse_alike (bin : OsString) (env : Environment) {pre : List OsString}
    (h : separator ∉ pre) (post : List OsString) :
    Alike post (parse (bin :: pre) env) (parse (bin :: (pre ++ separator :: post)) env) := by
  rw [parse_eq, parse_eq, List.foldlM_append]
  cases hpre : pre.foldlM Reader.step {} with
  | error stop => exact .error rfl
  | ok r =>
    show Alike post (r.gist >>= conclude env)
      ((separator :: post).foldlM Reader.step r >>= gist >>= conclude env)
    rw [gist_separated (leading_of_foldlM h hpre)]
    cases hgist : r.gist with
    | error stop => exact .error rfl
    | ok s =>
      rw [← flush_bare] at hgist
      obtain ⟨r', hflush, rfl⟩ := ok_of_map hgist
      obtain ⟨groups, passedOn, hconsists, hholds⟩ := (progress_of_foldlM hpre).holds hflush
      have hargs : r'.collaboratorArgs = [] := by
        rcases hconsists.words with ⟨_, hnil⟩ | hwords
        · exact hholds.collaboratorArgs.trans hnil
        · refine absurd ?_ h
          rw [hwords]
          exact List.mem_append_right _ List.mem_cons_self
      exact passing_alike r'.bare rfl hargs post env

/-- Every command line splits at its first `--`. What stands before it decides on its own whether
the command line is accepted, with which configuration, or why not; what stands after it is passed
on word by word, whatever it is. -/
theorem parse_separated (bin : OsString) (env : Environment) {pre : List OsString}
    (h : separator ∉ pre) (post : List OsString) :
    (∀ args, parse (bin :: pre) env = .ok args →
      parse (bin :: (pre ++ separator :: post)) env = .ok { args with collaboratorArgs := post }) ∧
    ∀ stop, parse (bin :: pre) env = .error stop →
      ∃ stop', parse (bin :: (pre ++ separator :: post)) env = .error stop' ∧
        stop'.kind = stop.kind ∧ stop'.exitCode = stop.exitCode := by
  have halike := parse_alike bin env h post
  constructor
  · intro args hargs
    rw [hargs] at halike
    generalize parse (bin :: (pre ++ separator :: post)) env = whole at halike
    cases halike with
    | ok => rfl
  · intro stop hstop
    rw [hstop] at halike
    generalize parse (bin :: (pre ++ separator :: post)) env = whole at halike
    cases halike with
    | error hkind => exact ⟨_, rfl, hkind, by rw [Stop.exitCode, Stop.exitCode, hkind]⟩

/-- A request for help, a second `--` and what is no text are passed on; the value of an option is
not. -/
theorem parse_separated_mixed :
    separator ∉ [.ofText "4"] ∧
      parse [.ofText "gc-launcher", .ofText "4", separator, .ofText "--help", separator, ⟨[255]⟩]
        .empty = .ok { plainArgs with
          collaboratorArgs := [.ofText "--help", separator, ⟨[255]⟩] } ∧
      ∃ stop, parse [.ofText "gc-launcher", .ofText "--wait-order", separator, .ofText "spawn"]
          .empty = .error stop ∧
        stop.kind = .invalidValue ∧ stop.exitCode = 2 := by
  have hcount : separator ∉ [.ofText "4"] := by decide
  have hplain : parse plainArgv .empty = .ok plainArgs := by decide +kernel
  have hoption : separator ∉ [.ofText "--wait-order"] := by decide
  have hmissing : parse [.ofText "gc-launcher", .ofText "--wait-order"] .empty =
      .error (.missingValue .waitOrder) := by decide +kernel
  exact ⟨hcount, (parse_separated _ _ hcount _).1 _ hplain,
    (parse_separated _ _ hoption _).2 _ hmissing⟩

end WorkerFleet.CommandLine
