import WorkerFleet.Log
import WorkerFleet.Proofs.QuotedText

/-!
# The lines of the log

A line of the log says when an event was, how grave it is and whose, what has happened and to which
worker; the line about an end also says how the worker has ended.

* `writes_line`: the line that is written of an event.
* `Writes.oneLine`: it stays one line.
-/

namespace WorkerFleet.Log

open Text

/-- How a worker has ended, in words. -/
inductive Tells : ExitStatus → String → Prop
  | code (n : Nat) : Tells (.code n) ("exit status: " ++ toString n)
  | named {n : Nat} {name : String} (h : (n, name) ∈ Signal.names) :
      Tells (.signal ⟨n⟩) ("signal: " ++ toString n ++ " (SIG" ++ name ++ ")")
  | nameless {n : Nat} (h : ∀ p ∈ Signal.names, p.1 ≠ n) :
      Tells (.signal ⟨n⟩) ("signal: " ++ toString n)

/-- What is written of an event. Times and process numbers are shown in a way of their own. -/
inductive Writes (time : String) (showPid : Pid → String) : Event → String → Prop
  | started (index : Nat) (pid : Pid) :
      Writes time showPid (.started index pid)
        (time ++ " DEBUG gc_launcher::launch: collaborator started index=" ++ toString index ++
          " pid=Some(" ++ showPid pid ++ ")" ++ "\n")
  | exited (index : Nat) (pid : Pid) {words : String} (hw : Tells (.code 0) words) :
      Writes time showPid (.exited index pid (.code 0))
        (time ++ " DEBUG gc_launcher::launch: collaborator exited index=" ++ toString index ++
          " pid=Some(" ++ showPid pid ++ ")" ++ " status=" ++ words ++ "\n")
  | failed (index : Nat) (pid : Pid) {status : ExitStatus} {words : String}
      (hs : status ≠ .code 0) (hw : Tells status words) :
      Writes time showPid (.exited index pid status)
        (time ++ "  INFO gc_launcher::launch: collaborator exited unsuccessfully index=" ++
          toString index ++ " pid=Some(" ++ showPid pid ++ ")" ++ " status=" ++ words ++ "\n")

section

variable {time : String} {showPid : Pid → String}

theorem tells_text (status : ExitStatus) : Tells status status.text := by
  cases status with
  | code n => exact .code n
  | signal s =>
    obtain ⟨n⟩ := s
    rw [ExitStatus.text, Signal.text]
    cases h : Signal.names.lookup n with
    | none =>
      refine .nameless fun p hp heq => ?_
      have hne := List.lookup_eq_none_iff.mp h p hp
      simp [heq] at hne
    | some name =>
      obtain ⟨l, r, hl, -⟩ := List.lookup_eq_some_iff.mp h
      exact .named (by rw [hl]; simp)

def heading (level : Level) (message : String) : String :=
  " " ++ (String.ofList (List.replicate (5 - level.name.length) ' ') ++ level.name) ++ " " ++
    target ++ ": " ++ message ++ " index="

theorem line_started (index : Nat) (pid : Pid) :
    line time showPid (.started index pid) =
      time ++ heading .debug "collaborator started" ++ toString index ++ " pid=Some(" ++
        showPid pid ++ ")" ++ "\n" := by
  simp only [line, heading, String.append_assoc]
  rfl

theorem line_exited (index : Nat) (pid : Pid) (status : ExitStatus) :
    line time showPid (.exited index pid status) =
      time ++ heading (Event.exited index pid status).level
        (Event.exited index pid status).message ++ toString index ++ " pid=Some(" ++
        showPid pid ++ ")" ++ " status=" ++ status.text ++ "\n" := by
  simp only [line, heading, String.append_assoc]
  rfl

theorem writes_line (event : Event) : Writes time showPid event (line time showPid event) := by
  cases event with
  | started index pid =>
    have hheading : heading .debug "collaborator started" =
        " DEBUG gc_launcher::launch: collaborator started index=" := by decide
    rw [line_started, hheading]
    exact .started index pid
  | exited index pid status =>
    rw [line_exited, Event.level, Event.message]
    by_cases hs : status = .code 0
    · have hheading : heading .debug "collaborator exited" =
          " DEBUG gc_launcher::launch: collaborator exited index=" := by decide
      have hsuccess : status.isSuccess = true := by
        rw [hs]
        rfl
      rw [if_pos hsuccess, if_pos hsuccess, hheading, hs]
      exact .exited index pid (tells_text _)
    · have hheading : heading .info "collaborator exited unsuccessfully" =
          "  INFO gc_launcher::launch: collaborator exited unsuccessfully index=" := by decide
      have hsuccess : ¬ status.isSuccess = true := by
        cases status <;> simp_all [ExitStatus.isSuccess]
      rw [if_neg hsuccess, if_neg hsuccess, hheading]
      exact .failed index pid hs (tells_text _)

theorem Tells.oneLine {status : ExitStatus} {words : String} (h : Tells status words) :
    OneLine words := by
  have hsignal : OneLine "signal: " := by decide
  cases h with
  | code n =>
    have hcode : OneLine "exit status: " := by decide
    exact hcode.append (oneLine_toString n)
  | @named n name hm =>
    have hnames : ∀ p ∈ Signal.names, OneLine p.2 := by decide +kernel
    have hopen : OneLine " (SIG" := by decide
    have hclose : OneLine ")" := by decide
    exact (((hsignal.append (oneLine_toString n)).append hopen).append (hnames _ hm)).append hclose
  | @nameless n => exact hsignal.append (oneLine_toString n)

/-- Where the time and the process number stay on a line, so does all that is written. -/
theorem Writes.oneLine {event : Event} {text : String} (h : Writes time showPid event text)
    (htime : OneLine time) (hpid : ∀ pid, OneLine (showPid pid)) :
    ∃ body, body ≠ "" ∧ OneLine body ∧ text = body ++ "\n" := by
  have hwhich : ∀ {head : String}, OneLine head → ∀ (index : Nat) (pid : Pid),
      OneLine (time ++ head ++ toString index ++ " pid=Some(" ++ showPid pid ++ ")") := by
    intro head hhead index pid
    have hopen : OneLine " pid=Some(" := by decide
    have hclose : OneLine ")" := by decide
    exact ((((htime.append hhead).append (oneLine_toString index)).append hopen).append
      (hpid pid)).append hclose
  have hstatus : OneLine " status=" := by decide
  cases h with
  | started index pid => exact ⟨_, by simp, hwhich (by decide) index pid, rfl⟩
  | exited index pid hw =>
    exact ⟨_, by simp, ((hwhich (by decide) index pid).append hstatus).append hw.oneLine, rfl⟩
  | failed index pid hs hw =>
    exact ⟨_, by simp, ((hwhich (by decide) index pid).append hstatus).append hw.oneLine, rfl⟩

end

end WorkerFleet.Log
