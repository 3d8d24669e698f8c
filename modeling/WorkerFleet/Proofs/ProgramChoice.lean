import WorkerFleet.Proofs.Grammar
import WorkerFleet.Proofs.Variables

/-!
# The program that the environment names

The command line and the default options take the program from the same variable, and they agree
on every value but the empty one: there the options fall back on the default program, and the
command line is refused.

* `finish_unset`, `finish_set`, `finish_empty`: the end of reading, by what the environment holds.
* `parse_agrees_with_default`: where the two agree.
* `parse_refuses_empty`: a command line on which they do not.
-/

namespace WorkerFleet.CommandLine

open Reader

def NamesCollaborator (word : OsString) : Prop :=
  word = flag ValueOption.collaborator.name ∨
    (joined .collaborator ⟨[]⟩).bytes <+: word.bytes

instance (word : OsString) : Decidable (NamesCollaborator word) :=
  inferInstanceAs (Decidable (_ ∨ _))

/-- The words before the first `--`. -/
def beforeSeparator (words : List OsString) : List OsString :=
  words.takeWhile (· ≠ separator)

section

variable {groups : List Group} {words passedOn : List OsString} {env : Environment} {args : Args}
  {r r' : Reader}

/-- The words of the groups stand before the first `--`. -/
theorem Consists.mem_before (h : Consists words groups passedOn) {g : Group} (hg : g ∈ groups)
    {word : OsString} (hword : word ∈ g.words) : word ∈ beforeSeparator words := by
  have hall : ∀ w ∈ groups.flatMap Group.words, decide (w ≠ separator) = true := by
    intro w hw
    rw [decide_eq_true_iff]
    rintro rfl
    exact h.proper hw
  have hm : word ∈ groups.flatMap Group.words := List.mem_flatMap.mpr ⟨g, hg, hword⟩
  obtain ⟨rest, hrest⟩ : ∃ rest, words = groups.flatMap Group.words ++ rest := by
    rcases h.words with ⟨hwords, _⟩ | hwords
    · exact ⟨[], by rw [hwords, List.append_nil]⟩
    · exact ⟨_, hwords⟩
  rw [beforeSeparator, hrest, List.takeWhile_append_of_pos hall]
  exact List.mem_append_left _ hm

/-- Without the option no collaborator is given. -/
theorem Consists.given_eq_nil (h : Consists words groups passedOn)
    (hno : ∀ word ∈ beforeSeparator words, ¬ NamesCollaborator word) :
    given .collaborator groups = [] := by
  rw [given_eq_nil_iff]
  intro hm
  obtain ⟨g, hg, hargument⟩ := List.mem_map.mp hm
  cases g with
  | option o value apart =>
    cases hargument
    cases apart with
    | true => exact hno _ (h.mem_before hg List.mem_cons_self) (.inl rfl)
    | false =>
      refine hno _ (h.mem_before hg List.mem_cons_self) (.inr ⟨value.bytes, ?_⟩)
      rw [joined, joined, List.append_assoc]
      rfl
  | workers | failOnChildError => cases hargument

variable (hflush : r.flush = .ok r') (hnot : .value .collaborator ∉ r'.stored)

include hflush in
theorem finish_unset (henv : env.get? CollaboratorOptions.programVariable = none) :
    r.finish env = r'.configured := by
  rw [finish_eq, hflush]
  show r'.fromEnvironment env >>= configured = _
  rw [fromEnvironment_of_unset henv]
  rfl

include hflush hnot

theorem finish_of_set {value : OsString}
    (henv : env.get? CollaboratorOptions.programVariable = some value) :
    r.finish env = (readCollaborator value).map (fun program =>
      { r' with
        stored := r'.stored ++ [.value .collaborator]
        collaborator := some program }) >>= configured := by
  rw [finish_eq, hflush]
  show r'.fromEnvironment env >>= configured = _
  rw [fromEnvironment_of_set (pending_of_flush hflush) hnot henv]
  have hkeep := (keep_group r' (.option .collaborator value true)).trans (if_neg hnot)
  exact congrArg (· >>= configured) hkeep

/-- A program that is named is the one of the configuration; nothing else depends on it. -/
theorem finish_set {value : OsString}
    (henv : env.get? CollaboratorOptions.programVariable = some value)
    (hne : value.isEmpty = false) (hargs : r'.configured = .ok args) :
    r.finish env = .ok { args with collaborator := value } := by
  rw [finish_of_set hflush hnot henv, readCollaborator_of_ne hne]
  rw [configured] at hargs
  split at hargs
  case h_1 => cases hargs
  case h_2 workers hworkers =>
    cases hargs
    show configured _ = _
    rw [configured]
    simp only [hworkers]
    rfl

theorem finish_empty {value : OsString}
    (henv : env.get? CollaboratorOptions.programVariable = some value)
    (hempty : value.isEmpty = true) : r.finish env = .error (.missingValue .collaborator) := by
  rw [finish_of_set hflush hnot henv, readCollaborator, hempty]
  rfl

end

section

variable {argv : List OsString} {env : Environment} {args₀ : Args}

/-- Where no collaborator is given and the rest of the command line is accepted, the command line
and the default options take the same program from the environment, unless its value is empty. Then
the options take the default program, and the command line is refused. -/
theorem parse_agrees_with_default
    (hno : ∀ word ∈ beforeSeparator argv.tail, ¬ NamesCollaborator word)
    (h : parse argv (env.erase CollaboratorOptions.programVariable) = .ok args₀) :
    (env.get? CollaboratorOptions.programVariable ≠ some ⟨[]⟩ →
      ∃ args, parse argv env = .ok args ∧
        (args.launcher env).options.program = (CollaboratorOptions.default env).program ∧
        args = { args₀ with collaborator := args.collaborator }) ∧
    (env.get? CollaboratorOptions.programVariable = some ⟨[]⟩ →
      parse argv env = .error (.missingValue .collaborator) ∧
        (CollaboratorOptions.default env).program = CollaboratorOptions.defaultProgram) := by
  obtain ⟨r, hwords, hfinish₀⟩ := ok_of_bind h
  have hparse (other : Environment) : parse argv other = r.finish other := by
    rw [parse, hwords]
    rfl
  rw [finish_eq] at hfinish₀
  obtain ⟨r', hflush, _⟩ := ok_of_bind hfinish₀
  obtain ⟨groups, passedOn, hconsists, hholds⟩ := (progress_of_foldlM hwords).holds hflush
  have hnil := hconsists.given_eq_nil hno
  have hnot : .value .collaborator ∉ r'.stored := by
    rw [hholds.stored _ Argument.noConfusion]
    exact given_eq_nil_iff.mp hnil
  have hconfigured : r'.configured = .ok args₀ := by
    rw [← finish_unset hflush (env.get?_erase _), ← hparse]
    exact h
  rw [hparse]
  constructor
  · intro hne
    cases henv : env.get? CollaboratorOptions.programVariable with
    | none =>
      rw [finish_unset hflush henv, hconfigured]
      refine ⟨args₀, rfl, ?_, rfl⟩
      have hgiven := (hholds.describes hconfigured).1.collaborator
      rw [hnil] at hgiven
      rcases hgiven with hvalue | ⟨_, hdefault⟩
      · cases hvalue
      · show args₀.collaborator = _
        rw [hdefault, CollaboratorOptions.default, henv]
        rfl
    | some value =>
      have hvalue : value.isEmpty = false := by
        obtain ⟨bytes⟩ := value
        cases bytes with
        | nil => exact absurd henv hne
        | cons => rfl
      refine ⟨_, finish_set hflush hnot henv hvalue hconfigured, ?_, rfl⟩
      show value = (CollaboratorOptions.default env).program
      rw [CollaboratorOptions.default, henv]
      simp [hvalue]
  · intro hempty
    exact ⟨finish_empty hflush hnot hempty rfl, by rw [CollaboratorOptions.default, hempty]; rfl⟩

def plainArgv : List OsString := [.ofText "gc-launcher", .ofText "4"]

def plainArgs : Args where
  workers := { value := 4 }
  collaborator := CollaboratorOptions.defaultProgram
  waitOrder := .completion
  failOnChildError := false
  collaboratorArgs := []

def programOnly (value : OsString) : Environment :=
  Environment.empty.set CollaboratorOptions.programVariable value

theorem parse_agrees_with_default_named :
    (∀ word ∈ beforeSeparator plainArgv.tail, ¬ NamesCollaborator word) ∧
      ∃ args, parse plainArgv (programOnly (.ofText "/gc")) = .ok args ∧
        (args.launcher (programOnly (.ofText "/gc"))).options.program =
          (CollaboratorOptions.default (programOnly (.ofText "/gc"))).program ∧
        args = { plainArgs with collaborator := args.collaborator } := by
  have hno : ∀ word ∈ beforeSeparator plainArgv.tail, ¬ NamesCollaborator word := by decide
  have hunset : parse plainArgv
      ((programOnly (.ofText "/gc")).erase CollaboratorOptions.programVariable) =
        .ok plainArgs := by
    decide +kernel
  exact ⟨hno, (parse_agrees_with_default hno hunset).1 (by decide)⟩

/-- With an empty value the default options name a program and the command line gives none. -/
theorem parse_refuses_empty :
    (∀ word ∈ beforeSeparator plainArgv.tail, ¬ NamesCollaborator word) ∧
      parse plainArgv ((programOnly ⟨[]⟩).erase CollaboratorOptions.programVariable) =
        .ok plainArgs ∧
      ¬ ∃ args, parse plainArgv (programOnly ⟨[]⟩) = .ok args ∧
        (args.launcher (programOnly ⟨[]⟩)).options.program =
          (CollaboratorOptions.default (programOnly ⟨[]⟩)).program := by
  refine ⟨by decide, by decide +kernel, ?_⟩
  rintro ⟨args, hargs, _⟩
  have hstop : parse plainArgv (programOnly ⟨[]⟩) = .error (.missingValue .collaborator) := by
    decide +kernel
  rw [hstop] at hargs
  cases hargs

end

end WorkerFleet.CommandLine
