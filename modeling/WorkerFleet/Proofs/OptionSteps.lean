import Mathlib.Data.List.DropRight
import Mathlib.Data.List.Induction
import WorkerFleet.Collaborator
import WorkerFleet.Proofs.Numerals

/-!
# Building a collaborator's options

Options are built step by step: a field is written, all is started over from the default options,
or a command is taken. What counts is what was written last since the last start, and a command
says just what the options hold.

* `lastWritten_build`: each field holds what was written to it last.
* `plain_build`: as long as no step brings in a NUL byte there is none in the options.
* `build_last_written`: the options after any steps, and the commands that they give.
-/

namespace WorkerFleet.CollaboratorOptions

inductive BuildStep
  | program (value : OsString)
  | arguments (values : List OsString)
  | currentDir (value : OsString)
  /-- Starts over from the default options. -/
  | restart
  /-- Takes the command for a worker. -/
  | command (index : Nat)
  deriving DecidableEq, Repr

inductive Field
  | program
  | arguments
  | currentDir
  deriving DecidableEq, Repr

namespace BuildStep

def apply (env : Environment) (options : CollaboratorOptions) : BuildStep → CollaboratorOptions
  | program value => options.withProgram value
  | arguments values => options.withArguments values
  | currentDir value => options.withCurrentDir value
  | restart => default env
  | command _ => options

def field? : BuildStep → Option Field
  | program _ => some .program
  | arguments _ => some .arguments
  | currentDir _ => some .currentDir
  | restart | command _ => none

def program? : BuildStep → Option OsString
  | program value => some value
  | _ => none

def arguments? : BuildStep → Option (List OsString)
  | arguments values => some values
  | _ => none

def currentDir? : BuildStep → Option OsString
  | currentDir value => some value
  | _ => none

def Plain : BuildStep → Prop
  | program value | currentDir value => value.hasNul = false
  | arguments values => ∀ value ∈ values, value.hasNul = false
  | restart | command _ => True

instance : DecidablePred Plain
  | program value | currentDir value => inferInstanceAs (Decidable (value.hasNul = false))
  | arguments values => inferInstanceAs (Decidable (∀ value ∈ values, value.hasNul = false))
  | restart | command _ => inferInstanceAs (Decidable True)

/-- Steps that write different fields can be swapped. -/
theorem apply_comm {s t : BuildStep} {f g : Field} (hs : s.field? = some f)
    (ht : t.field? = some g) (hne : f ≠ g) (env : Environment) (options : CollaboratorOptions) :
    s.apply env (t.apply env options) = t.apply env (s.apply env options) := by
  have hfields : s.field? ≠ t.field? := by
    rw [hs, ht]
    exact fun h => hne (Option.some.inj h)
  cases s with
  | restart | command => cases hs
  | program =>
    cases t with
    | program => exact absurd rfl hfields
    | restart | command => cases ht
    | arguments | currentDir => rfl
  | arguments =>
    cases t with
    | arguments => exact absurd rfl hfields
    | restart | command => cases ht
    | program | currentDir => rfl
  | currentDir =>
    cases t with
    | currentDir => exact absurd rfl hfields
    | restart | command => cases ht
    | program | arguments => rfl

end BuildStep

/-- The options after some steps, the first of which finds the default options. -/
def build (env : Environment) (steps : List BuildStep) : CollaboratorOptions :=
  steps.foldl (BuildStep.apply env) (default env)

/-- What the steps wrote last since they last started over. -/
def last? {α : Type} (written? : BuildStep → Option α) (steps : List BuildStep) : Option α :=
  ((steps.rtakeWhile (· ≠ .restart)).filterMap written?).getLast?

section LastWrite

variable {α : Type} {written? : BuildStep → Option α} {steps : List BuildStep}

theorem build_concat (env : Environment) (steps : List BuildStep) (step : BuildStep) :
    build env (steps ++ [step]) = step.apply env (build env steps) := by
  simp [build]

theorem last?_restart : last? written? (steps ++ [.restart]) = none := by
  simp [last?]

theorem last?_concat {step : BuildStep} (h : step ≠ .restart) :
    last? written? (steps ++ [step]) = (written? step).or (last? written? steps) := by
  rw [last?, List.rtakeWhile_concat_pos _ _ _ (by simpa using h), List.filterMap_append,
    List.getLast?_append, last?]
  cases hw : written? step <;> simp [hw]

end LastWrite

/-- The program that the environment names. An empty name counts for nothing. -/
def named? (env : Environment) : Option OsString :=
  (env.get? programVariable).filter fun value => !value.isEmpty

theorem default_program (env : Environment) :
    (default env).program = (named? env).getD defaultProgram := by
  rw [default, named?]
  cases env.get? programVariable with
  | none => rfl
  | some value => cases h : value.isEmpty <;> simp [Option.filter, h]

/-- Each field holds what was written to it last since the last start, or else its default. -/
structure LastWritten (env : Environment) (steps : List BuildStep)
    (options : CollaboratorOptions) : Prop where
  program : options.program =
    ((last? BuildStep.program? steps).or (named? env)).getD (.ofText "./standalone-gc")
  arguments : options.arguments = (last? BuildStep.arguments? steps).getD []
  currentDir : options.currentDir = last? BuildStep.currentDir? steps

section Run

variable {env : Environment} {steps : List BuildStep} {options : CollaboratorOptions}

theorem lastWritten_default (hprogram : last? BuildStep.program? steps = none)
    (harguments : last? BuildStep.arguments? steps = none)
    (hcurrentDir : last? BuildStep.currentDir? steps = none) :
    LastWritten env steps (default env) where
  program := by
    rw [hprogram, default_program]
    rfl
  arguments := by
    rw [harguments]
    rfl
  currentDir := by
    rw [hcurrentDir]
    rfl

theorem LastWritten.apply (h : LastWritten env steps options) (step : BuildStep) :
    LastWritten env (steps ++ [step]) (step.apply env options) := by
  by_cases hr : step = .restart
  · subst hr
    exact lastWritten_default last?_restart last?_restart last?_restart
  · -- One field may be written; what is known of the other two stays true of them.
    constructor
    · rw [last?_concat hr]
      cases step with
      | restart => exact absurd rfl hr
      | program => rfl
      | arguments | currentDir | command => exact h.program
    · rw [last?_concat hr]
      cases step with
      | restart => exact absurd rfl hr
      | arguments => rfl
      | program | currentDir | command => exact h.arguments
    · rw [last?_concat hr]
      cases step with
      | restart => exact absurd rfl hr
      | currentDir => rfl
      | program | arguments | command => exact h.currentDir

theorem lastWritten_build (env : Environment) (steps : List BuildStep) :
    LastWritten env steps (build env steps) := by
  induction steps using List.reverseRecOn with
  | nil => exact lastWritten_default rfl rfl rfl
  | append_singleton steps step ih =>
    rw [build_concat]
    exact ih.apply step

structure Plain (options : CollaboratorOptions) : Prop where
  program : options.program.hasNul = false
  arguments : ∀ value ∈ options.arguments, value.hasNul = false
  currentDir : ∀ value ∈ options.currentDir, value.hasNul = false

/-- The environment names no program with a NUL byte. -/
def PlainProgram (env : Environment) : Prop :=
  ∀ value, env.get? programVariable = some value → value.hasNul = false

theorem plain_default (h : PlainProgram env) : (default env).Plain where
  program := by
    rw [default]
    cases hvalue : env.get? programVariable with
    | none => decide
    | some value =>
      by_cases hempty : value.isEmpty = true
      · simp only [hempty, if_true]
        decide
      · simp only [hempty]
        exact h value hvalue
  arguments := by simp [default]
  currentDir := by simp [default]

theorem Plain.apply (h : options.Plain) (henv : PlainProgram env) {step : BuildStep}
    (hstep : step.Plain) : (step.apply env options).Plain := by
  cases step with
  | program value => exact ⟨hstep, h.arguments, h.currentDir⟩
  | arguments values => exact ⟨h.program, hstep, h.currentDir⟩
  | currentDir value =>
    refine ⟨h.program, h.arguments, ?_⟩
    rintro _ ⟨⟩
    exact hstep
  | restart => exact plain_default henv
  | command => exact h

theorem plain_build (henv : PlainProgram env) (h : ∀ step ∈ steps, step.Plain) :
    (build env steps).Plain := by
  induction steps using List.reverseRecOn with
  | nil => exact plain_default henv
  | append_singleton steps step ih =>
    rw [build_concat]
    have hsteps := ih fun s hs => h s (List.mem_append_left _ hs)
    exact hsteps.apply henv (h step (List.mem_append_right _ List.mem_cons_self))

theorem passable_of_plain {text : OsString} (h : text.hasNul = false) : passable text = text := by
  simp [passable, h]

/-- Without NUL bytes a command holds the options as they are, and the index in decimal notation. -/
theorem Plain.command_eq (h : options.Plain) (index : Nat) :
    options.command index =
      { program := options.program
        arguments := options.arguments
        currentDir := options.currentDir
        bindings := [("GC_LAUNCHER_WORKER_INDEX", .ofText (toString index))]
        killOnDrop := false
        refused := false } := by
  have harguments : options.arguments.map passable = options.arguments := by
    conv_rhs => rw [← List.map_id options.arguments]
    exact List.map_congr_left fun value hvalue => passable_of_plain (h.arguments value hvalue)
  have hcurrentDir : options.currentDir.map passable = options.currentDir := by
    cases hvalue : options.currentDir with
    | none => rfl
    | some value => rw [Option.map_some, passable_of_plain (h.currentDir value hvalue)]
  have hlist : options.arguments.any (·.hasNul) = false :=
    List.any_eq_false.mpr fun value hvalue => by simp [h.arguments value hvalue]
  have hdir : options.currentDir.any (·.hasNul) = false := by
    cases hvalue : options.currentDir with
    | none => rfl
    | some value => exact h.currentDir value hvalue
  rw [command, passable_of_plain h.program, harguments, hcurrentDir, h.program, hlist, hdir]
  rfl

/-- The worker's variable tells which worker a command is for. -/
theorem bindings_injective {i j : Nat}
    (h : (options.command i).bindings = (options.command j).bindings) : i = j := by
  simp only [command, indexText, List.cons.injEq, Prod.mk.injEq, true_and, and_true] at h
  exact Text.Decimal.ofNat_injective (String.ofList_injective (OsString.ofText_injective h))

theorem build_swap {before after : List BuildStep} {s t : BuildStep} {f g : Field}
    (hs : s.field? = some f) (ht : t.field? = some g) (hne : f ≠ g) :
    build env (before ++ t :: s :: after) = build env (before ++ s :: t :: after) := by
  rw [build, build, List.foldl_append, List.foldl_append]
  simp only [List.foldl_cons]
  rw [BuildStep.apply_comm hs ht hne]

theorem build_skip {before after : List BuildStep} {index : Nat} :
    build env (before ++ .command index :: after) = build env (before ++ after) := by
  rw [build, build, List.foldl_append, List.foldl_append]
  rfl

end Run

/-- After steps without NUL bytes each field holds what was written to it last. A command says just
that and the worker's index. Writes to different fields can be swapped, and taking a command changes
nothing. -/
theorem build_last_written (env : Environment) (steps : List BuildStep) (henv : PlainProgram env)
    (hsteps : ∀ step ∈ steps, step.Plain) :
    LastWritten env steps (build env steps) ∧
    (∀ index, (build env steps).command index =
      { program := (build env steps).program
        arguments := (build env steps).arguments
        currentDir := (build env steps).currentDir
        bindings := [("GC_LAUNCHER_WORKER_INDEX", .ofText (toString index))]
        killOnDrop := false
        refused := false }) ∧
    (∀ i j, (build env steps).command j =
        { (build env steps).command i with bindings := ((build env steps).command j).bindings } ∧
      (i ≠ j → ((build env steps).command i).bindings ≠ ((build env steps).command j).bindings)) ∧
    (∀ before s t after f g, steps = before ++ s :: t :: after →
      s.field? = some f → t.field? = some g → f ≠ g →
        build env (before ++ t :: s :: after) = build env steps) ∧
    (∀ before index after, steps = before ++ .command index :: after →
      build env (before ++ after) = build env steps) := by
  have hplain := plain_build henv hsteps
  refine ⟨lastWritten_build env steps, hplain.command_eq, ?_, ?_, ?_⟩
  · intro i j
    exact ⟨rfl, fun hij h => hij (bindings_injective h)⟩
  · rintro before s t after f g rfl hs ht hne
    exact build_swap hs ht hne
  · rintro before index after rfl
    exact build_skip.symm

/-- A program given before the last start is forgotten, and of two lists of arguments the second one
counts. -/
theorem build_last_written_restarted :
    let env := Environment.empty.set programVariable (.ofText "/opt/gc")
    let steps : List BuildStep :=
      [.program (.ofText "gc"), .currentDir (.ofText "/tmp"), .restart,
        .arguments [.ofText "--heap", .ofText "1"], .command 2, .currentDir (.ofText "/var"),
        .arguments [.ofText "-v"]]
    PlainProgram env ∧ (∀ step ∈ steps, step.Plain) ∧
      build env steps = ⟨.ofText "/opt/gc", [.ofText "-v"], some (.ofText "/var")⟩ ∧
      LastWritten env steps (build env steps) ∧
      ((build env steps).command 12).bindings =
        [("GC_LAUNCHER_WORKER_INDEX", .ofText "12")] := by
  intro env steps
  have henv : PlainProgram env := by
    intro value h
    cases h
    decide
  have hsteps : ∀ step ∈ steps, step.Plain := by decide
  obtain ⟨hlast, hcommand, _⟩ := build_last_written env steps henv hsteps
  refine ⟨henv, hsteps, by decide, hlast, ?_⟩
  rw [hcommand]
  rfl

end WorkerFleet.CollaboratorOptions
