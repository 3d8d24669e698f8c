import WorkerFleet.Proofs.Reading

/-!
# What the command line accepts

An accepted command line is a sequence of groups and, after the first `--`, what is passed on. Each
argument is given at most once, the worker count exactly once, and the configuration is what the
groups say.

* `Reader.Progress.holds`: what a reader holds in the end.
* `fromEnvironment_holds`: the environment acts as one more group.
* `parse_accepts`: accepted command lines and their configurations.
-/

namespace WorkerFleet.CommandLine

open Reader

/-- The words are those of the groups and, after the first `--`, the ones passed on. -/
structure Consists (words : List OsString) (groups : List Group) (passedOn : List OsString) :
    Prop where
  proper : separator ∉ groups.flatMap Group.words
  words :
    words = groups.flatMap Group.words ∧ passedOn = [] ∨
      words = groups.flatMap Group.words ++ separator :: passedOn

/-- The configuration is the one that the groups and the environment describe. -/
structure Describes (groups : List Group) (env : Environment) (args : Args) : Prop where
  workers : ∃ word text, counts groups = [word] ∧ word.text? = some text ∧
    WorkerCount.parse text = .ok args.workers
  collaborator : given .collaborator groups = [args.collaborator] ∨
    given .collaborator groups = [] ∧ args.collaborator =
      (env.get? CollaboratorOptions.programVariable).getD CollaboratorOptions.defaultProgram
  collaborator_ne : args.collaborator.isEmpty = false
  waitOrder : given .waitOrder groups = [.ofText args.waitOrder.name] ∨
    given .waitOrder groups = [] ∧ args.waitOrder = .completion
  failOnChildError : groups.count .failOnChildError = if args.failOnChildError then 1 else 0

section

variable {groups : List Group} {words : List OsString} {env : Environment} {args : Args}
  {r r' : Reader}

theorem Holds.of_bare (h : Holds groups words r.bare) : Holds groups words r :=
  ⟨h.stored, h.workers, h.collaborator, h.waitOrder, h.failOnChildError, h.collaboratorArgs⟩

namespace Reader

theorem Settled.holds (h : Settled groups r) (hflush : r.flush = .ok r') : Holds groups [] r' :=
  (written_holds (h.flush hflush)).of_bare

theorem Passing.holds (h : Passing groups words r) (hflush : r.flush = .ok r') :
    Holds groups words r' := by
  have hgist := gist_of_flush hflush
  rw [gist, h.pending] at hgist
  exact ((written_holds h.bare).passOn hgist).of_bare

/-- What the reader holds after all words and after what was pending has been stored. -/
theorem Progress.holds (h : Progress words r) (hflush : r.flush = .ok r') :
    ∃ groups passedOn, Consists words groups passedOn ∧ Holds groups passedOn r' := by
  cases h with
  | @between groups r h =>
    exact ⟨groups, [], ⟨h.proper, .inl ⟨rfl, rfl⟩⟩, h.holds hflush⟩
  | awaiting h =>
    rw [flush_missing h.pending] at hflush
    cases hflush
  | @separated groups r h =>
    exact ⟨groups, [], ⟨h.proper, .inr rfl⟩, h.holds hflush⟩
  | @passing groups words r h =>
    exact ⟨groups, words, ⟨h.proper, .inr rfl⟩, h.holds hflush⟩
  | stuck htrailing hpending =>
    rw [flush_missing hpending] at hflush
    cases hflush

end Reader

end

namespace Reader

def configured (r : Reader) : Except Stop Args :=
  match r.workers with
  | none => .error (.missingWorkers r.stored)
  | some workers =>
    .ok {
      workers
      collaborator := r.collaborator.getD CollaboratorOptions.defaultProgram
      waitOrder := r.waitOrder.getD .default
      failOnChildError := r.failOnChildError
      collaboratorArgs := r.collaboratorArgs }

theorem finish_eq (r : Reader) (env : Environment) : r.finish env = (do
    let r ← r.flush
    let r ← r.fromEnvironment env
    r.configured) := rfl

variable {groups : List Group} {words : List OsString} {env : Environment} {args : Args}
  {r r' : Reader}

theorem fromEnvironment_of_given (h : .value .collaborator ∈ r.stored) :
    r.fromEnvironment env = .ok r := by
  rw [fromEnvironment, List.contains_iff_mem.mpr h]

theorem fromEnvironment_of_unset (h : env.get? CollaboratorOptions.programVariable = none) :
    r.fromEnvironment env = .ok r := by
  rw [fromEnvironment, h]
  cases r.stored.contains (.value .collaborator) <;> rfl

theorem fromEnvironment_of_set (hr : r.pending = none) (hnot : .value .collaborator ∉ r.stored)
    {value : OsString} (h : env.get? CollaboratorOptions.programVariable = some value) :
    r.fromEnvironment env = r.keep (.option .collaborator (some value)) := by
  have hcontains : r.stored.contains (.value .collaborator) = false := by
    simpa using hnot
  rw [fromEnvironment, hcontains, h]
  dsimp only
  rw [storeNow_eq, flush_eq, hr]
  rfl

/-- Where no collaborator was given, the environment acts as one more group. -/
theorem fromEnvironment_holds (h : Holds groups words r) (hr : r.pending = none)
    (hread : r.fromEnvironment env = .ok r') :
    Holds groups words r' ∧ (given .collaborator groups ≠ [] ∨
      env.get? CollaboratorOptions.programVariable = none) ∨
    given .collaborator groups = [] ∧
      ∃ value, env.get? CollaboratorOptions.programVariable = some value ∧
        Holds (groups ++ [.option .collaborator value true]) words r' := by
  cases henv : env.get? CollaboratorOptions.programVariable with
  | none =>
    rw [fromEnvironment_of_unset henv] at hread
    cases hread
    exact .inl ⟨h, .inr rfl⟩
  | some value =>
    by_cases hm : .value .collaborator ∈ r.stored
    · rw [fromEnvironment_of_given hm] at hread
      cases hread
      rw [h.stored _ Argument.noConfusion] at hm
      exact .inl ⟨h, .inl fun hnil => given_eq_nil_iff.mp hnil hm⟩
    · rw [fromEnvironment_of_set hr hm henv] at hread
      refine .inr ⟨?_, value, rfl, h.keep (g := .option .collaborator value true) hread⟩
      rw [h.stored _ Argument.noConfusion] at hm
      exact given_eq_nil_iff.mpr hm

theorem readWorkers_ok {word : OsString} {count : WorkerCount} (h : readWorkers word = .ok count) :
    ∃ text, word.text? = some text ∧ WorkerCount.parse text = .ok count := by
  rw [readWorkers] at h
  split at h
  case h_1 => cases h
  case h_2 text htext =>
    split at h
    case h_1 => cases h
    case h_2 count' hparse =>
      cases h
      exact ⟨text, htext, hparse⟩

theorem readWorkers_ofText {text : String} {count : WorkerCount}
    (h : WorkerCount.parse text = .ok count) : readWorkers (.ofText text) = .ok count := by
  rw [readWorkers, OsString.text?_ofText]
  simp only [h]

theorem readCollaborator_ok {value program : OsString} (h : readCollaborator value = .ok program) :
    value = program ∧ program.isEmpty = false := by
  rw [readCollaborator] at h
  split at h
  case isTrue => cases h
  case isFalse hne =>
    cases h
    exact ⟨rfl, eq_false_of_ne_true hne⟩

theorem readCollaborator_of_ne {program : OsString} (h : program.isEmpty = false) :
    readCollaborator program = .ok program := by
  rw [readCollaborator, h]
  rfl

/-- A wait order is written as its name and not otherwise. -/
theorem readWaitOrder_ok {value : OsString} {order : WaitOrder}
    (h : readWaitOrder value = .ok order) : value = .ofText order.name := by
  rw [readWaitOrder] at h
  split at h
  case isTrue => cases h
  case isFalse =>
    split at h
    case h_1 => cases h
    case h_2 order' hname =>
      cases h
      obtain ⟨text, htext, hfind⟩ := Option.bind_eq_some_iff.mp hname
      have hsame : order.name = text := by
        have hp := List.find?_some hfind
        exact beq_iff_eq.mp hp
      rw [← hsame] at htext
      exact OsString.text?_eq_some_iff.mp htext

end Reader

section

variable {groups : List Group} {words : List OsString} {env : Environment} {args : Args}
  {r : Reader}

/-- The configuration that a reader holds is the one that its groups describe on their own. -/
theorem Holds.describes (h : Holds groups words r) (hconfigured : r.configured = .ok args) :
    Describes groups .empty args ∧ args.collaboratorArgs = words := by
  rw [configured] at hconfigured
  split at hconfigured
  case h_1 => cases hconfigured
  case h_2 workers hworkers =>
    cases hconfigured
    refine ⟨⟨?_, ?_, ?_, ?_, h.failOnChildError⟩, h.collaboratorArgs⟩
    · have honce := h.workers
      rw [hworkers] at honce
      obtain ⟨word, hword, hread⟩ := honce.of_some
      obtain ⟨text, htext, hparse⟩ := readWorkers_ok hread
      exact ⟨word, text, hword, htext, hparse⟩
    · have honce := h.collaborator
      cases hp : r.collaborator with
      | none =>
        rw [hp] at honce
        exact .inr ⟨honce.of_none, rfl⟩
      | some program =>
        rw [hp] at honce
        obtain ⟨value, hvalue, hread⟩ := honce.of_some
        obtain ⟨rfl, _⟩ := readCollaborator_ok hread
        exact .inl hvalue
    · have honce := h.collaborator
      cases hp : r.collaborator with
      | none => rfl
      | some program =>
        rw [hp] at honce
        obtain ⟨value, _, hread⟩ := honce.of_some
        exact (readCollaborator_ok hread).2
    · have honce := h.waitOrder
      cases ho : r.waitOrder with
      | none =>
        rw [ho] at honce
        exact .inr ⟨honce.of_none, rfl⟩
      | some order =>
        rw [ho] at honce
        obtain ⟨value, hvalue, hread⟩ := honce.of_some
        obtain rfl := readWaitOrder_ok hread
        exact .inl hvalue

/-- What the environment gives is described by it. -/
theorem Describes.of_concat {value : OsString}
    (h : Describes (groups ++ [.option .collaborator value true]) .empty args)
    (hgiven : given .collaborator groups = [])
    (henv : env.get? CollaboratorOptions.programVariable = some value) :
    Describes groups env args := by
  obtain ⟨hworkers, hcollaborator, hne, hwaitOrder, hfail⟩ := h
  rw [given_concat, hgiven] at hcollaborator
  refine ⟨?_, .inr ⟨hgiven, ?_⟩, hne, ?_, ?_⟩
  · simpa [counts_concat, Group.count?] using hworkers
  · rw [henv, Option.getD_some]
    simpa [Group.value?, eq_comm] using hcollaborator
  · simpa [given_concat, Group.value?] using hwaitOrder
  · simpa using hfail

theorem Describes.of_empty (h : Describes groups .empty args)
    (hgiven : given .collaborator groups ≠ [] ∨
      env.get? CollaboratorOptions.programVariable = none) : Describes groups env args := by
  refine ⟨h.workers, ?_, h.collaborator_ne, h.waitOrder, h.failOnChildError⟩
  rcases h.collaborator with hvalue | ⟨hnil, hdefault⟩
  · exact .inl hvalue
  · have henv := hgiven.resolve_left (not_not_intro hnil)
    refine .inr ⟨hnil, ?_⟩
    rw [henv]
    exact hdefault

/-- An accepted command line is groups and what is passed on, and its configuration is what they
and the environment say. -/
theorem parse_accepts {argv : List OsString} (h : parse argv env = .ok args) :
    ∃ groups, Consists argv.tail groups args.collaboratorArgs ∧ Describes groups env args ∧
      ∀ other, args.launcher other =
        ⟨⟨args.collaborator, args.collaboratorArgs, none⟩, args.waitOrder⟩ := by
  obtain ⟨r, hwords, hfinish⟩ := ok_of_bind h
  rw [finish_eq] at hfinish
  obtain ⟨r₁, hflush, hrest⟩ := ok_of_bind hfinish
  obtain ⟨r₂, henv, hconfigured⟩ := ok_of_bind hrest
  obtain ⟨groups, passedOn, hconsists, hholds⟩ := (progress_of_foldlM hwords).holds hflush
  have hlauncher (other : Environment) : args.launcher other =
      ⟨⟨args.collaborator, args.collaboratorArgs, none⟩, args.waitOrder⟩ := rfl
  rcases fromEnvironment_holds hholds (pending_of_flush hflush) henv with
    ⟨hholds₂, hgiven⟩ | ⟨hnil, value, hvalue, hholds₂⟩
  · obtain ⟨hdescribes, rfl⟩ := hholds₂.describes hconfigured
    exact ⟨groups, hconsists, hdescribes.of_empty hgiven, hlauncher⟩
  · obtain ⟨hdescribes, rfl⟩ := hholds₂.describes hconfigured
    exact ⟨groups, hconsists, hdescribes.of_concat hnil hvalue, hlauncher⟩

def mixedArgv : List OsString :=
  ["gc-launcher", "--wait-order", "spawn", "-3", "--collaborator=--gc=1", "--", "--"].map .ofText

def mixedArgs : Args where
  workers := { value := -3 }
  collaborator := .ofText "--gc=1"
  waitOrder := .spawn
  failOnChildError := false
  collaboratorArgs := [.ofText "--"]

theorem parse_accepts_mixed :
    parse mixedArgv .empty = .ok mixedArgs ∧
      ∃ groups, Consists mixedArgv.tail groups mixedArgs.collaboratorArgs ∧
        Describes groups .empty mixedArgs ∧
        ∀ other, mixedArgs.launcher other =
          ⟨⟨mixedArgs.collaborator, mixedArgs.collaboratorArgs, none⟩, mixedArgs.waitOrder⟩ :=
  have h : parse mixedArgv .empty = .ok mixedArgs := by decide +kernel
  ⟨h, parse_accepts h⟩

end

end WorkerFleet.CommandLine
