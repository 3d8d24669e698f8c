import WorkerFleet.Proofs.Announcing
import WorkerFleet.Proofs.ExitCode
import WorkerFleet.Proofs.LogFilter
import WorkerFleet.Proofs.LogLines
import WorkerFleet.Trial

/-!
# The log of a run

The log shows what a run announces and has no part in it: what is started and waited for, what comes
of it and the exit code are the same with every setting. Without a setting the launcher says
something of its own only if something went wrong.

* `run_congr`: no run depends on the setting.
* `logged_eq`: the lines are those of the events that pass, in their order.
* `logged_writes`, `oneLine_of_logged`: what the lines say.
* `err_eq_empty_iff`: when the launcher has nothing to say.
* `log_is_apart`: all of this, for runs at a station too.
-/

namespace WorkerFleet

/-- Times and process numbers are shown without a line end. -/
structure Trial.Stamp.Plain (stamp : Trial.Stamp) : Prop where
  time : Text.OneLine stamp.time
  pid : ∀ pid, Text.OneLine (stamp.pid pid)

namespace Application

open Dialogue Host Launching

/-- Two environments that differ at most in how the log is set. -/
def SameButLog (env env' : Environment) : Prop :=
  ∀ name, name ≠ Log.filterVariable → env.get? name = env'.get? name

def logged (stamp : Trial.Stamp) (env : Environment) (t : List (Exchange Launching)) :
    List String :=
  (events t).flatMap fun e =>
    Log.lines (Log.Filter.ofEnvironment env) stamp.time stamp.pid [e]

def logging (stamp : Trial.Stamp) (s : Station) : Station :=
  { s with log := fun e =>
      Log.lines (Log.Filter.ofEnvironment s.environment) stamp.time stamp.pid [e] }

/-- A launcher that ends puts what it has to say on its streams. -/
def lastWords (console : Console) (world : World) : World :=
  { world with
    out := world.out ++ (OsString.ofText console.out).bytes
    err := world.err ++ (OsString.ofText console.err).bytes }

section

variable {argv : List OsString} {env env' : Environment}

theorem parse_congr (h : SameButLog env env') :
    CommandLine.parse argv env = CommandLine.parse argv env' := by
  have hprogram := h CollaboratorOptions.programVariable (by decide)
  simp only [CommandLine.parse, CommandLine.Reader.finish, CommandLine.Reader.fromEnvironment,
    hprogram]

/-- Of the texts that are asked for, the help shows one variable. -/
theorem message_congr (h : SameButLog env env') (medium : Text.Terminal.Medium) (bin : String)
    (stop : CommandLine.Stop) :
    stop.message medium bin env = stop.message medium bin env' := by
  have hprogram := h CollaboratorOptions.programVariable (by decide)
  have hdefault : CommandLine.Help.programDefault medium env =
      CommandLine.Help.programDefault medium env' := by
    funext margin after
    simp only [CommandLine.Help.programDefault, hprogram]
  have hlong : ∀ bin, CommandLine.Help.long medium bin env =
      CommandLine.Help.long medium bin env' := by
    intro bin
    unfold CommandLine.Help.long
    rw [hdefault]
  have hshort : ∀ bin, CommandLine.Help.short medium bin env =
      CommandLine.Help.short medium bin env' := by
    intro bin
    unfold CommandLine.Help.short
    rw [hdefault]
  unfold CommandLine.Stop.message
  simp only [hlong, hshort]

theorem launcher_congr (h : SameButLog env env') (args : CommandLine.Args) :
    args.launcher env = args.launcher env' := by
  have hprogram := h CollaboratorOptions.programVariable (by decide)
  simp only [CommandLine.Args.launcher, CollaboratorOptions.default, hprogram]

/-- A run does not depend on how the log is set. -/
theorem run_congr (h : SameButLog env env') : run argv env = run argv env' := by
  simp only [run, parse_congr h, stopped, message_congr h, launcher_congr h]

theorem logged_eq {ceiling : Option Level}
    (h : Log.Admits (env.get? Log.filterVariable) ceiling) (stamp : Trial.Stamp)
    (t : List (Exchange Launching)) :
    logged stamp env t =
      ((events t).filter fun e => Log.passes ceiling e.level).map
        (Log.line stamp.time stamp.pid) := by
  rw [logged]
  -- the filter looks at each event alone
  induction events t with
  | nil => rfl
  | cons e rest ih =>
    rw [List.flatMap_cons, ih, Log.lines, List.filter_cons, List.filter_cons,
      Log.enables_of_admits h]
    cases Log.passes ceiling e.level <;> rfl

/-- There is one line for each event that passes. -/
theorem logged_writes {ceiling : Option Level}
    (h : Log.Admits (env.get? Log.filterVariable) ceiling) (stamp : Trial.Stamp)
    (t : List (Exchange Launching)) :
    List.Forall₂ (Log.Writes stamp.time stamp.pid)
      ((events t).filter fun e => Log.passes ceiling e.level) (logged stamp env t) := by
  rw [logged_eq h, List.forall₂_map_right_iff, List.forall₂_same]
  exact fun e _ => Log.writes_line e

theorem oneLine_of_logged {stamp : Trial.Stamp} (hplain : stamp.Plain)
    {t : List (Exchange Launching)} {line : String} (h : line ∈ logged stamp env t) :
    ∃ body, body ≠ "" ∧ Text.OneLine body ∧ line = body ++ "\n" := by
  obtain ⟨e, -, hline⟩ := List.mem_flatMap.mp h
  obtain ⟨e', -, rfl⟩ := List.mem_map.mp hline
  exact (Log.writes_line e').oneLine hplain.time hplain.pid

/-- Without a setting the log is empty. -/
theorem logged_eq_nil
    (h : env.get? Log.filterVariable = none ∨ env.get? Log.filterVariable = some (.ofText ""))
    (stamp : Trial.Stamp) (t : List (Exchange Launching)) : logged stamp env t = [] := by
  have hadmits : Log.Admits (env.get? Log.filterVariable) (some .warn) := by
    rcases h with h | h
    · rw [h]
      exact .unset
    · rw [h]
      exact .empty
  rw [logged_eq hadmits, List.map_eq_nil_iff, List.filter_eq_nil_iff]
  intro e _
  rw [Log.passes_warn]
  exact Bool.false_ne_true

/-- A command line that asks for a text is no fault. -/
theorem stopped_err_iff (bin : String) (stop : CommandLine.Stop) :
    (stopped bin env stop).err = "" ↔ stop.isError = false := by
  rw [stopped]
  cases herror : stop.isError with
  | false => simp
  | true =>
    have hmessage : stop.message .stream bin env =
        stop.errorMessage .stream (Text.Terminal.Medium.stream.visible bin) := by
      unfold CommandLine.Stop.message
      cases stop with
      | help => cases herror
      | version => cases herror
      | _ => rfl
    rw [hmessage]
    unfold CommandLine.Stop.errorMessage
    simp

theorem failed_err_ne (e : LaunchError) : (failed e).err ≠ "" := by
  unfold failed
  simp

/-- A launch ends without a word just if it has a report. -/
theorem launched_err_iff {args : CommandLine.Args} (hp : CommandLine.parse argv env = .ok args)
    {t : List (Exchange Launching)} {console : Console} (h : (run argv env).Ends t console) :
    console.err = "" ↔ ¬ StartFails (starts t) ∧ ¬ WaitFails (waits t) := by
  rw [run_eq_launch hp] at h
  obtain ⟨u, v, u', rfl, hr, hk⟩ := (ends_bind _ _ _ _).mp h
  have hfails := (launch_of_ends hr).fails_iff
  cases v with
  | error e =>
    obtain ⟨rfl, rfl⟩ := (ends_done _ _ _).mp hk
    rw [List.append_nil, ← not_or, ← hfails]
    simp [failed_err_ne]
  | ok report =>
    obtain ⟨rfl, rfl⟩ := (ends_done _ _ _).mp hk
    rw [List.append_nil, ← not_or, ← hfails]
    simp [finished]

theorem err_eq_empty_iff {t : List (Exchange Launching)} {console : Console}
    (h : (run argv env).Ends t console) :
    console.err = "" ↔
      (∀ stop, CommandLine.parse argv env = .error stop → stop.isError = false) ∧
        ¬ StartFails (starts t) ∧ ¬ WaitFails (waits t) := by
  cases hp : CommandLine.parse argv env with
  | error stop =>
    rw [run_of_error hp] at h
    obtain ⟨rfl, rfl⟩ := (ends_done _ _ _).mp h
    rw [stopped_err_iff]
    simp [StartFails, WaitFails]
  | ok args =>
    rw [launched_err_iff hp h]
    simp

end

/-- The log has no part in a run: a run that differs in the setting of the log alone asks the same
and comes to the same, whatever it is told. The log has one line for each event that passes, in
order, which tells all about it, and it is on the error stream before what the launcher says at the
end. Without a setting, whatever becomes of the workers, the launcher says something of its own only
if it cannot read the command line, start a worker or wait for one. -/
theorem log_is_apart (stamp : Trial.Stamp) (argv : List OsString) :
    (∀ env env', SameButLog env env' → run argv env = run argv env') ∧
    (∀ env ceiling, Log.Admits (env.get? Log.filterVariable) ceiling → ∀ t,
      List.Forall₂ (Log.Writes stamp.time stamp.pid)
        ((events t).filter fun e => Log.passes ceiling e.level) (logged stamp env t) ∧
      (stamp.Plain → ∀ line ∈ logged stamp env t,
        ∃ body, body ≠ "" ∧ Text.OneLine body ∧ line = body ++ "\n")) ∧
    (∀ s : Station, ∃ t console final, (run argv s.environment).Ends t console ∧
      (Trial.ofLauncher stamp argv s).2.status = .code console.code ∧
      (Trial.ofLauncher stamp argv s).1.events = s.events ++ events t ∧
      (logging stamp s).Leads t (logged stamp s.environment t) final ∧
      (Trial.ofLauncher stamp argv s).2.err =
        ((lastWords console final.world).pass Trial.outputDelay).err) ∧
    ∀ env, env.get? Log.filterVariable = none ∨ env.get? Log.filterVariable = some (.ofText "") →
      ∀ t console, (run argv env).Ends t console →
        (String.join (logged stamp env t) ++ console.err = "" ↔
          (∀ stop, CommandLine.parse argv env = .error stop → stop.isError = false) ∧
            ¬ StartFails (starts t) ∧ ¬ WaitFails (waits t)) := by
  refine ⟨fun env env' h => run_congr h, fun env ceiling h t => ⟨logged_writes h stamp t,
    fun hplain line hline => oneLine_of_logged hplain hline⟩, ?_, ?_⟩
  · intro s
    obtain ⟨t, hend, hleads, hevents⟩ :=
      Station.leads_converse (run argv s.environment) (logging stamp s)
    exact ⟨t, _, _, hend, rfl, hevents, hleads, rfl⟩
  · intro env hunset t console h
    rw [logged_eq_nil hunset, String.join_nil, String.empty_append]
    exact err_eq_empty_iff h

def killed : List (Exchange Launching) := [
  ⟨.start ((strictArgs.launcher .empty).options.command 0), (.ok 7 : Except Cause Pid)⟩,
  ⟨.announce (.started 0 7), ()⟩,
  ⟨.turn [7] 0 (by simp), .finish 0 (.ok (.signal ⟨9⟩))⟩,
  ⟨.announce (.exited 0 7 (.signal ⟨9⟩)), ()⟩,
  ⟨.turn [] 1 (by simp), .collect 0⟩]

theorem ends_killed :
    (run strictArgv .empty).Ends killed (finished ⟨[⟨0, 7, .signal ⟨9⟩⟩]⟩ .propagate) := by
  rw [run, parse_strictArgv]
  exact .next (.next (.next (.next (.next (.here _)))))

def talkative : Environment := .set .empty Log.filterVariable (.ofText "gc_launcher=Info")

theorem plain_stamp : Trial.Stamp.Plain ⟨"-", toString⟩ := ⟨by decide, Text.oneLine_toString⟩

/-- With that setting the log has the end of the worker, but not its start; with none it has
nothing, and the run is the same. -/
theorem log_is_apart_killed :
    run strictArgv talkative = run strictArgv .empty ∧
    logged ⟨"-", toString⟩ talkative killed =
      ["-  INFO gc_launcher::launch: collaborator exited unsuccessfully index=0 pid=Some(7) " ++
        "status=signal: 9 (SIGKILL)\n"] ∧
    (∀ line ∈ logged ⟨"-", toString⟩ talkative killed,
      ∃ body, body ≠ "" ∧ Text.OneLine body ∧ line = body ++ "\n") ∧
    String.join (logged ⟨"-", toString⟩ .empty killed) ++
      (finished ⟨[⟨0, 7, .signal ⟨9⟩⟩]⟩ .propagate).err = "" ∧
    ∃ t console, (run strictArgv talkative).Ends t console := by
  obtain ⟨hsame, hlogged, hstation, hsilent⟩ := log_is_apart ⟨"-", toString⟩ strictArgv
  have hadmits : Log.Admits (talkative.get? Log.filterVariable) (some .info) := by
    have hscope : Log.IsScope "gc_launcher" := .of_isTarget (by decide)
    have hinfo : Log.Denotes "Info" (some .info) := .name (by decide +kernel)
    have hset : talkative.get? Log.filterVariable =
        some (.ofText ("gc_launcher" ++ "=" ++ "Info")) := by decide +kernel
    rw [hset]
    exact .targetLevel hscope hinfo (by decide +kernel)
  obtain ⟨hwrites, hlines⟩ := hlogged talkative _ hadmits killed
  refine ⟨?_, ?_, hlines plain_stamp, ?_, ?_⟩
  · refine hsame _ _ fun name hname => ?_
    exact Environment.get?_set_of_ne _ _ hname
  · have hpassed : ((events killed).filter fun e => Log.passes (some .info) e.level) =
        [.exited 0 7 (.signal ⟨9⟩)] := rfl
    rw [hpassed, List.forall₂_cons_left_iff] at hwrites
    obtain ⟨line, rest, hline, hrest, hall⟩ := hwrites
    rw [hall, List.forall₂_nil_left_iff.mp hrest]
    cases hline with
    | failed index pid hs hw =>
      cases hw with
      | named hm =>
        simp only [Signal.names, List.mem_cons, Prod.mk.injEq] at hm
        obtain rfl : _ = "KILL" := by simpa using hm
        decide +kernel
      | nameless hno => exact absurd rfl (hno (9, "KILL") (by decide))
  · refine (hsilent .empty (.inl rfl) killed _ ends_killed).mpr ⟨?_, ?_, ?_⟩
    · rw [parse_strictArgv]
      simp
    · simp [StartFails, killed]
    · simp [WaitFails, killed]
  · obtain ⟨t, console, -, hend, -⟩ :=
      hstation ⟨{ files := .empty }, [], talkative, [], fun _ => [], {}, []⟩
    exact ⟨t, console, hend⟩

end Application

end WorkerFleet
