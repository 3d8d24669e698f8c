import WorkerFleet.Application
import WorkerFleet.Proofs.LaunchResult

/-!
# The exit code of the launcher

What is told to a launch decides how the launcher exits: which workers could not be started, which
waits failed and, if failures are to show, how workers ended.

* `code_of_run`, `orderly_of_run`: the exit code of a run that was asked for a launch.
* `Similar.code_eq`: runs that differ only in how workers end exit alike.
* `run_exit_code`: the exit code of every run.
-/

namespace WorkerFleet.Application

open Dialogue Launching List

/-- What makes a launch exit with code 1. -/
def Fails (args : CommandLine.Args) (t : List (Exchange Launching)) : Prop :=
  StartFails (starts t) ∨ WaitFails (waits t) ∨
    (args.failOnChildError = true ∧ WorkerFails (waits t))

def codeOf (policy : ExitPolicy) : Except LaunchError LaunchReport → Nat
  | .error e => (failed e).code
  | .ok report => (finished report policy).code

theorem run_of_error {argv : List OsString} {env : Environment} {stop : CommandLine.Stop}
    (hp : CommandLine.parse argv env = .error stop) :
    run argv env = .done (stopped (CommandLine.programName argv) env stop) := by
  rw [run, hp]

theorem stopped_code (bin : String) (env : Environment) (stop : CommandLine.Stop) :
    (stopped bin env stop).code =
      if stop.kind = .displayHelp ∨ stop.kind = .displayVersion then 0 else 2 := by
  rw [stopped]
  cases stop <;> rfl

/-- After a command line that parses, a run is a launch and nothing else. -/
theorem run_eq_launch {argv : List OsString} {env : Environment} {args : CommandLine.Args}
    (hp : CommandLine.parse argv env = .ok args) :
    run argv env = ((args.launcher env).run args.workers.toStart).bind fun
      | .error e => .done (failed e)
      | .ok report => .done (finished report args.exitPolicy) := by
  rw [run, hp]
  rfl

theorem run_of_ok {argv : List OsString} {env : Environment} {args : CommandLine.Args}
    (hp : CommandLine.parse argv env = .ok args) {t : List (Exchange Launching)}
    {console : Console} (h : (run argv env).Ends t console) :
    ∃ v, ((args.launcher env).run args.workers.toStart).Ends t v ∧
      console.code = codeOf args.exitPolicy v := by
  rw [run_eq_launch hp] at h
  obtain ⟨u, v, u', rfl, hr, hk⟩ := (ends_bind _ _ _ _).mp h
  cases v with
  | error e =>
    obtain ⟨rfl, rfl⟩ := (ends_done _ _ _).mp hk
    rw [append_nil]
    exact ⟨_, hr, rfl⟩
  | ok report =>
    obtain ⟨rfl, rfl⟩ := (ends_done _ _ _).mp hk
    rw [append_nil]
    exact ⟨_, hr, rfl⟩

theorem codeOf_of_launch (args : CommandLine.Args) {options : CollaboratorOptions} {count : Nat}
    {t : List (Exchange Launching)} {v : Except LaunchError LaunchReport}
    (h : Launch options count (starts t) (waits t) v) :
    (Fails args t → codeOf args.exitPolicy v = 1) ∧
      (¬ Fails args t → codeOf args.exitPolicy v = 0) := by
  cases v with
  | error e =>
    have hf : Fails args t := by
      rcases h.fails_iff.mp ⟨e, rfl⟩ with hs | hw
      · exact .inl hs
      · exact .inr (.inl hw)
    exact ⟨fun _ => rfl, fun hn => absurd hf hn⟩
  | ok report =>
    have hno : ¬ (StartFails (starts t) ∨ WaitFails (waits t)) := by
      rw [← h.fails_iff]
      simp
    have hf : Fails args t ↔ args.failOnChildError = true ∧ report.failures ≠ [] := by
      rw [h.failures_iff, Fails, ← or_assoc, or_iff_right hno]
    rw [hf]
    cases hp : args.failOnChildError with
    | false => simp [codeOf, finished, CommandLine.Args.exitPolicy, hp, LaunchReport.exitStatus]
    | true =>
      have hc : codeOf args.exitPolicy (.ok report) =
          if report.failures.isEmpty then 0 else 1 := by
        rw [CommandLine.Args.exitPolicy, hp]
        rfl
      rw [hc]
      cases report.failures with
      | nil => simp
      | cons outcome rest => simp

/-- Two runs in which the same starts are tried with the same results, and the same waits fail. How
workers end may differ, and when. -/
def Similar (t u : List (Exchange Launching)) : Prop :=
  starts t = starts u ∧
    ∃ sound : Pid → Bool, ∀ wait ∈ waits t ++ waits u, wait.2.isOk = sound wait.1

theorem Similar.symm {t u : List (Exchange Launching)} (h : Similar t u) : Similar u t := by
  obtain ⟨hs, sound, hw⟩ := h
  refine ⟨hs.symm, sound, fun wait hm => hw wait ?_⟩
  rw [mem_append] at hm ⊢
  exact hm.symm

/-- If a wait fails in one of two similar runs, something fails in the other: the worker was
started there as well, and if nothing failed it was waited for. -/
theorem Similar.fails {t u : List (Exchange Launching)} (h : Similar t u)
    {options : CollaboratorOptions} {count : Nat}
    (ht : Orderly options count (starts t) (waits t))
    (hu : Orderly options count (starts u) (waits u)) (hf : WaitFails (waits t)) :
    StartFails (starts u) ∨ WaitFails (waits u) := by
  obtain ⟨hs, sound, hw⟩ := h
  obtain ⟨wait, hm, e, he⟩ := hf
  by_contra hn
  obtain ⟨hno, hnw⟩ := not_or.mp hn
  have hpid : wait.1 ∈ (waits u).map Prod.fst := by
    rw [(hu.waits_all hno hnw).mem_iff, ← hs]
    exact ht.waits_le.subset (mem_map_of_mem hm)
  obtain ⟨other, ho, hpid⟩ := mem_map.mp hpid
  have hsame : other.2.isOk = wait.2.isOk := by
    rw [hw other (mem_append_right _ ho), hw wait (mem_append_left _ hm), hpid]
  rw [he] at hsame
  cases hr : other.2 with
  | error e => exact hnw ⟨other, ho, e, hr⟩
  | ok status =>
    rw [hr] at hsame
    cases hsame

theorem toNat_max (n : Int) : (max n 0).toNat = n.toNat := by
  omega

theorem code_of_run {argv : List OsString} {env : Environment} {args : CommandLine.Args}
    (hp : CommandLine.parse argv env = .ok args) {t : List (Exchange Launching)}
    {console : Console} (h : (run argv env).Ends t console) :
    (Fails args t → console.code = 1) ∧ (¬ Fails args t → console.code = 0) := by
  obtain ⟨v, hr, hc⟩ := run_of_ok hp h
  rw [hc]
  exact codeOf_of_launch args (launch_of_ends hr)

theorem orderly_of_run {argv : List OsString} {env : Environment} {args : CommandLine.Args}
    (hp : CommandLine.parse argv env = .ok args) {t : List (Exchange Launching)}
    {console : Console} (h : (run argv env).Ends t console) :
    Orderly (args.launcher env).options args.workers.value.toNat (starts t) (waits t) := by
  obtain ⟨v, hr, _⟩ := run_of_ok hp h
  exact (launch_of_ends hr).orderly

/-- Nothing can fail where nothing is started. -/
theorem not_fails_of_starts_eq_nil {options : CollaboratorOptions} {count : Nat}
    {args : CommandLine.Args} {t : List (Exchange Launching)}
    (ho : Orderly options count (starts t) (waits t)) (hs : starts t = []) : ¬ Fails args t := by
  have hw : waits t = [] := by
    have hle := ho.waits_le
    rw [hs] at hle
    exact map_eq_nil_iff.mp (subperm_nil.mp hle)
  rw [Fails, hs, hw]
  simp [StartFails, WaitFails, WorkerFails]

theorem Similar.code_eq {argv : List OsString} {env : Environment} {t u : List (Exchange Launching)}
    (h : Similar t u)
    (hno : ∀ args, CommandLine.parse argv env = .ok args → args.failOnChildError = false)
    {c c' : Console} (ht : (run argv env).Ends t c) (hu : (run argv env).Ends u c') :
    c.code = c'.code := by
  cases hp : CommandLine.parse argv env with
  | error stop =>
    rw [run_of_error hp] at ht hu
    obtain ⟨_, rfl⟩ := (ends_done _ _ _).mp ht
    obtain ⟨_, rfl⟩ := (ends_done _ _ _).mp hu
    rfl
  | ok args =>
    have hiff : ∀ t, Fails args t ↔ StartFails (starts t) ∨ WaitFails (waits t) := by
      simp [Fails, hno args hp]
    have hot := orderly_of_run hp ht
    have hou := orderly_of_run hp hu
    by_cases hf : Fails args t
    · have hf' : Fails args u := by
        rw [hiff]
        rcases (hiff t).mp hf with hs | hw
        · exact .inl (h.1 ▸ hs)
        · exact h.fails hot hou hw
      rw [(code_of_run hp ht).1 hf, (code_of_run hp hu).1 hf']
    · have hf' : ¬ Fails args u := by
        intro hu'
        apply hf
        rw [hiff]
        rcases (hiff u).mp hu' with hs | hw
        · exact .inl (h.1 ▸ hs)
        · exact h.symm.fails hou hot hw
      rw [(code_of_run hp ht).2 hf, (code_of_run hp hu).2 hf']

/-- Whatever the system answers, a run can be brought to its end, and what it was told decides its
exit code. Unless failures of workers are to show, it makes no difference how they end and when. -/
theorem run_exit_code (argv : List OsString) (env : Environment) :
    (∀ t d, (run argv env).Follows t d → ∃ u console, (run argv env).Ends (t ++ u) console) ∧
    (∀ stop, CommandLine.parse argv env = .error stop →
      ∀ t console, (run argv env).Ends t console →
        starts t = [] ∧ waits t = [] ∧
        console.code =
          if stop.kind = .displayHelp ∨ stop.kind = .displayVersion then 0 else 2) ∧
    (∀ args, CommandLine.parse argv env = .ok args →
      ∀ t console, (run argv env).Ends t console →
        Orderly (args.launcher env).options (max args.workers.value 0).toNat (starts t) (waits t) ∧
        (Fails args t → console.code = 1) ∧ (¬ Fails args t → console.code = 0) ∧
        (args.workers.value ≤ 0 → starts t = [] ∧ console.code = 0)) ∧
    ((∀ args, CommandLine.parse argv env = .ok args → args.failOnChildError = false) →
      ∀ t u c c', (run argv env).Ends t c → (run argv env).Ends u c' → Similar t u →
        c.code = c'.code) := by
  refine ⟨fun t d h => h.completes nonempty_reply, ?_, ?_, ?_⟩
  · intro stop hp t console h
    rw [run_of_error hp] at h
    obtain ⟨rfl, rfl⟩ := (ends_done _ _ _).mp h
    exact ⟨rfl, rfl, stopped_code _ env stop⟩
  · intro args hp t console h
    have ho := orderly_of_run hp h
    obtain ⟨hbad, hgood⟩ := code_of_run hp h
    rw [toNat_max]
    refine ⟨ho, hbad, hgood, fun hn => ?_⟩
    have hs : starts t = [] := by
      have hl := ho.length_le
      rw [Int.toNat_of_nonpos hn] at hl
      exact length_eq_zero_iff.mp (by omega)
    exact ⟨hs, hgood (not_fails_of_starts_eq_nil ho hs)⟩
  · intro hno t u c c' ht hu hsim
    exact hsim.code_eq hno ht hu

def strictArgv : List OsString :=
  [.ofText "gc-launcher", .ofText "--fail-on-child-error", .ofText "1"]

def strictArgs : CommandLine.Args where
  workers := { value := 1 }
  collaborator := .ofText "./standalone-gc"
  waitOrder := .completion
  failOnChildError := true
  collaboratorArgs := []

theorem parse_strictArgv : CommandLine.parse strictArgv .empty = .ok strictArgs := by
  decide +kernel

/-- The worker is killed, so the launcher exits with code 1. -/
theorem run_exit_code_killed :
    ∃ t console, (run strictArgv .empty).Ends t console ∧ Fails strictArgs t ∧
      console.code = 1 := by
  have hp := parse_strictArgv
  let t : List (Exchange Launching) := [
    ⟨.start ((strictArgs.launcher .empty).options.command 0), (.ok 7 : Except Cause Pid)⟩,
    ⟨.announce (.started 0 7), ()⟩,
    ⟨.turn [7] 0 (by simp), .finish 0 (.ok (.signal ⟨9⟩))⟩,
    ⟨.announce (.exited 0 7 (.signal ⟨9⟩)), ()⟩,
    ⟨.turn [] 1 (by simp), .collect 0⟩]
  have hrun : (run strictArgv .empty).Ends t (finished ⟨[⟨0, 7, .signal ⟨9⟩⟩]⟩ .propagate) := by
    rw [run, hp]
    exact .next (.next (.next (.next (.next (.here _)))))
  have hw : (7, .ok (.signal ⟨9⟩)) ∈ waits t := by simp [t]
  have hf : Fails strictArgs t := .inr (.inr ⟨rfl, _, hw, _, rfl, by simp⟩)
  obtain ⟨_, _, hok, _⟩ := run_exit_code strictArgv .empty
  obtain ⟨_, hbad, _⟩ := hok strictArgs hp t _ hrun
  exact ⟨t, _, hrun, hf, hbad hf⟩

end WorkerFleet.Application
