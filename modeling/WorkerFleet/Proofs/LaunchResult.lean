import WorkerFleet.Proofs.Launching

/-!
# What comes of a launch

What a launch tried, what it waited for and what it was told decide its result.

* `Launch.orderly`: which workers are tried and which are waited for.
* `Launch.fails_iff`, `Launch.failures_iff`: when there is no report, and when one shows failures.
* `Launch.report`: what a report says.
-/

namespace WorkerFleet.Launching

open Dialogue List

def StartFails (a : List (Command × Except Cause Pid)) : Prop :=
  ∃ attempt ∈ a, ∃ cause, attempt.2 = .error cause

/-- Some wait failed, whatever the worker did. -/
def WaitFails (w : List (Pid × Except OsError ExitStatus)) : Prop :=
  ∃ wait ∈ w, ∃ e, wait.2 = .error e

/-- Some worker ended in another way than with exit code 0. -/
def WorkerFails (w : List (Pid × Except OsError ExitStatus)) : Prop :=
  ∃ wait ∈ w, ∃ status, wait.2 = .ok status ∧ status ≠ .code 0

def started (a : List (Command × Except Cause Pid)) : List Pid :=
  a.filterMap fun attempt => attempt.2.toOption

theorem started_append (a b : List (Command × Except Cause Pid)) :
    started (a ++ b) = started a ++ started b := filterMap_append

/-- Workers are tried one after the other from index 0 up, below `count` and up to the first
failure. None of those that were started is waited for twice, and all are if nothing fails. -/
structure Orderly (options : CollaboratorOptions) (count : Nat)
    (a : List (Command × Except Cause Pid)) (w : List (Pid × Except OsError ExitStatus)) :
    Prop where
  commands : a.map Prod.fst = (range a.length).map options.command
  length_le : a.length ≤ count
  started_dropLast : ∀ attempt ∈ a.dropLast, ∃ pid, attempt.2 = .ok pid
  complete : a.length < count → StartFails a
  waits_le : w.map Prod.fst <+~ started a
  waits_all : ¬ StartFails a → ¬ WaitFails w → w.map Prod.fst ~ started a

theorem startFails_iff (options : CollaboratorOptions) (index : Nat)
    (results : List (Except Cause Pid)) :
    StartFails (attempts options index results) ↔ ∃ cause, .error cause ∈ results := by
  have h := attempts_snd options index results
  constructor
  · rintro ⟨attempt, hm, cause, hc⟩
    refine ⟨cause, ?_⟩
    rw [← h, ← hc]
    exact mem_map_of_mem hm
  · rintro ⟨cause, hc⟩
    rw [← h] at hc
    obtain ⟨attempt, hm, ha⟩ := mem_map.mp hc
    exact ⟨attempt, hm, cause, ha⟩

theorem not_startFails (options : CollaboratorOptions) (index : Nat) (pids : List Pid) :
    ¬ StartFails (attempts options index (pids.map .ok)) := by
  rw [startFails_iff]
  simp

theorem started_ok {options : CollaboratorOptions} {index : Nat} {pids : List Pid}
    {attempt : Command × Except Cause Pid}
    (h : attempt ∈ attempts options index (pids.map .ok)) : ∃ pid, attempt.2 = .ok pid := by
  have hm : attempt.2 ∈ pids.map .ok := by
    rw [← attempts_snd options index (pids.map .ok)]
    exact mem_map_of_mem h
  obtain ⟨pid, _, hp⟩ := mem_map.mp hm
  exact ⟨pid, hp.symm⟩

theorem started_pids (options : CollaboratorOptions) (index : Nat) (pids : List Pid) :
    started (attempts options index (pids.map .ok)) = pids := by
  have h := attempts_snd options index (pids.map .ok)
  calc started (attempts options index (pids.map .ok))
      = ((attempts options index (pids.map .ok)).map Prod.snd).filterMap Except.toOption := by
        rw [filterMap_map, started]
        rfl
    _ = pids := by
        rw [h, filterMap_map]
        exact filterMap_some

theorem waitFails_iff {waiting : List Child} {ready finished collected : List Job}
    {w : List (Pid × Except OsError ExitStatus)} {v : Except LaunchError (List Outcome)}
    (h : Reaping waiting ready finished collected w v) :
    WaitFails w ↔ ∃ j ∈ finished, j.fails = true := by
  rw [h.waits]
  simp [WaitFails, Job.fails_iff]

/-- A wait that failed is found sooner or later, if not after another one. -/
theorem Reaping.fails_iff {waiting : List Child} {finished collected : List Job}
    {w : List (Pid × Except OsError ExitStatus)} {v : Except LaunchError (List Outcome)}
    (h : Reaping waiting [] finished collected w v) : (∃ e, v = .error e) ↔ WaitFails w := by
  rw [waitFails_iff h, h.value, Job.collect_fails_iff]
  constructor
  · rintro ⟨j, hj, hf⟩
    exact ⟨j, by simpa using h.collected_le.subset hj, hf⟩
  · rintro ⟨j, hj, hf⟩
    by_contra hn
    have hc : ∀ j ∈ collected, j.fails = false := by simpa using hn
    have hok : v.isOk := by
      rw [h.value, (Job.collect_eq_ok_iff collected _).mpr ⟨hc, rfl⟩]
      rfl
    have hm : j ∈ collected := (h.whole hok).2.mem_iff.mpr (by simpa using hj)
    rw [hc j hm] at hf
    cases hf

/-- There is no report just if some start or some wait failed. -/
theorem Launch.fails_iff {options : CollaboratorOptions} {count : Nat}
    {a : List (Command × Except Cause Pid)} {w : List (Pid × Except OsError ExitStatus)}
    {v : Except LaunchError LaunchReport} (h : Launch options count a w v) :
    (∃ e, v = .error e) ↔ StartFails a ∨ WaitFails w := by
  cases h with
  | unstarted pids cause hn =>
    have hs : StartFails (attempts options 0 (pids.map .ok ++ [.error cause])) := by
      rw [startFails_iff]
      exact ⟨cause, by simp⟩
    exact ⟨fun _ => .inl hs, fun _ => ⟨_, rfl⟩⟩
  | @started pids hn finished collected w outcomes hr =>
    have hs := not_startFails options 0 pids
    rw [or_iff_right hs, ← hr.fails_iff]
    cases outcomes with
    | error e => exact ⟨fun _ => ⟨e, rfl⟩, fun _ => ⟨e, rfl⟩⟩
    | ok outcomes => simp [Except.map]

theorem isSuccess_iff (status : ExitStatus) : status.isSuccess = true ↔ status = .code 0 := by
  cases status with
  | code n => simp [ExitStatus.isSuccess]
  | signal s => simp [ExitStatus.isSuccess]

theorem failures_ne_nil_iff (report : LaunchReport) :
    report.failures ≠ [] ↔ ∃ outcome ∈ report.outcomes, outcome.status ≠ .code 0 := by
  simp [LaunchReport.failures, ← isSuccess_iff]

/-- A report is one of all workers: every one was started, and each had one wait, which did not
fail. -/
theorem Launch.report {options : CollaboratorOptions} {count : Nat}
    {a : List (Command × Except Cause Pid)} {w : List (Pid × Except OsError ExitStatus)}
    {report : LaunchReport} (h : Launch options count a w (.ok report)) :
    ∃ (pids : List Pid) (finished : List Job), pids.length = count ∧
      a = attempts options 0 (pids.map .ok) ∧
      w = finished.map (fun j => (j.child.pid, j.result)) ∧ finished.map Job.child ~ crew 0 pids ∧
      (∀ j ∈ finished, j.fails = false) ∧ report.outcomes ~ finished.filterMap Job.outcome? := by
  generalize hv : (Except.ok report : Except LaunchError LaunchReport) = v at h
  cases h with
  | unstarted pids cause hn => cases hv
  | @started pids hn finished collected w outcomes hr =>
    cases outcomes with
    | error e => cases hv
    | ok outcomes =>
      cases hv
      obtain ⟨hf, hp⟩ := hr.whole rfl
      obtain ⟨hok, rfl⟩ := (Job.collect_eq_ok_iff collected outcomes).mp hr.value.symm
      rw [nil_append] at hp
      exact ⟨pids, finished, hn, rfl, hr.waits, hf, fun j hj => hok j (hp.mem_iff.mpr hj),
        hp.filterMap Job.outcome?⟩

/-- A report shows a failure just if some worker did not end with exit code 0. -/
theorem Launch.failures_iff {options : CollaboratorOptions} {count : Nat}
    {a : List (Command × Except Cause Pid)} {w : List (Pid × Except OsError ExitStatus)}
    {report : LaunchReport} (h : Launch options count a w (.ok report)) :
    report.failures ≠ [] ↔ WorkerFails w := by
  obtain ⟨pids, finished, _, _, hw, _, _, hp⟩ := h.report
  rw [failures_ne_nil_iff, hw]
  constructor
  · rintro ⟨outcome, ho, hs⟩
    obtain ⟨j, hj, ho⟩ := mem_filterMap.mp (hp.mem_iff.mp ho)
    obtain ⟨status, hst, rfl⟩ := (j.outcome?_eq_some_iff outcome).mp ho
    exact ⟨_, mem_map_of_mem hj, status, hst, hs⟩
  · rintro ⟨wait, hm, status, hst, hs⟩
    obtain ⟨j, hj, rfl⟩ := mem_map.mp hm
    have ho : j.outcome? = some ⟨j.child.index, j.child.pid, status⟩ :=
      (j.outcome?_eq_some_iff _).mpr ⟨status, hst, rfl⟩
    exact ⟨_, hp.mem_iff.mpr (mem_filterMap.mpr ⟨j, hj, ho⟩), hs⟩

theorem Launch.orderly {options : CollaboratorOptions} {count : Nat}
    {a : List (Command × Except Cause Pid)} {w : List (Pid × Except OsError ExitStatus)}
    {v : Except LaunchError LaunchReport} (h : Launch options count a w v) :
    Orderly options count a w := by
  cases h with
  | unstarted pids cause hn =>
    have hs : StartFails (attempts options 0 (pids.map .ok ++ [.error cause])) := by
      rw [startFails_iff]
      exact ⟨cause, by simp⟩
    refine ⟨?_, ?_, ?_, fun _ => hs, nil_subperm, fun hno _ => absurd hs hno⟩
    · rw [attempts_fst, attempts_length]
    · rw [attempts_length]
      simp only [length_append, length_map, length_singleton]
      omega
    · intro attempt hm
      rw [attempts_concat, dropLast_concat] at hm
      exact started_ok hm
  | @started pids hn finished collected w outcomes hr =>
    have hl : (attempts options 0 (pids.map .ok)).length = count := by
      rw [attempts_length, length_map, hn]
    refine ⟨?_, by omega, ?_, by omega, ?_, ?_⟩
    · rw [attempts_fst, attempts_length]
    · intro attempt hm
      exact started_ok ((dropLast_sublist _).subset hm)
    · have hle := hr.pids_le
      rw [crew_pids] at hle
      rw [started_pids]
      exact hle
    · intro _ hno
      have hok : outcomes.isOk := by
        cases ho : outcomes with
        | error e => exact absurd (hr.fails_iff.mp ⟨e, ho⟩) hno
        | ok outcomes => rfl
      have hp := hr.pids_perm hok
      rw [crew_pids] at hp
      rw [started_pids]
      exact hp

end WorkerFleet.Launching
