import WorkerFleet.LaunchError
import WorkerFleet.LaunchReport
import Mathlib.Data.List.Perm.Basic

/-!
# Workers with what the wait for each gives

`collect` takes the results of waits in some order: the outcomes, up to the first wait that fails.

* `collect_eq_ok_iff`, `collect_eq_error`: when there is a whole report, and which failure is
  reported otherwise.
* `agrees_of_perm`: two orders of the same jobs agree on all but the order of the outcomes and the
  choice among several failures.
-/

namespace WorkerFleet

/-- A worker that is waited for, and what the wait for it gives. -/
structure Job where
  child : Child
  result : Except OsError ExitStatus

namespace Job

/-- Whether the wait itself fails, whatever the worker does. -/
def fails (j : Job) : Bool :=
  match j.result with
  | .error _ => true
  | .ok _ => false

def outcome (j : Job) : Except LaunchError Outcome :=
  match j.result with
  | .error e => .error (.wait j.child.index (.os e))
  | .ok status => .ok ⟨j.child.index, j.child.pid, status⟩

/-- The outcomes of jobs in this order, or the failure of the first one that fails. -/
def collect : List Job → Except LaunchError (List Outcome)
  | [] => .ok []
  | j :: jobs =>
    match j.outcome with
    | .error e => .error e
    | .ok outcome => (collect jobs).map (outcome :: ·)

theorem fails_iff (j : Job) : j.fails = true ↔ ∃ e, j.result = .error e := by
  unfold fails
  cases j.result <;> simp

theorem outcome_of_error {j : Job} {e : OsError} (h : j.result = .error e) :
    j.outcome = .error (.wait j.child.index (.os e)) := by
  simp only [outcome, h]

theorem outcome_of_ok {j : Job} {status : ExitStatus} (h : j.result = .ok status) :
    j.outcome = .ok ⟨j.child.index, j.child.pid, status⟩ := by
  simp only [outcome, h]

def outcome? (j : Job) : Option Outcome := j.outcome.toOption

theorem outcome?_of_outcome {j : Job} {o : Outcome} (h : j.outcome = .ok o) :
    j.outcome? = some o := by
  rw [outcome?, h]
  rfl

theorem fails_of_outcome {j : Job} {o : Outcome} (h : j.outcome = .ok o) : j.fails = false := by
  obtain ⟨child, result⟩ := j
  cases result with
  | error e => cases h
  | ok status => rfl

theorem outcome_of_not_fails {j : Job} (h : j.fails = false) : ∃ o, j.outcome = .ok o := by
  obtain ⟨child, result⟩ := j
  cases result with
  | error e => cases h
  | ok status => exact ⟨_, rfl⟩

theorem outcome_error {j : Job} {e : LaunchError} (h : j.outcome = .error e) :
    ∃ c, j.result = .error c ∧ e = .wait j.child.index (.os c) := by
  obtain ⟨child, result⟩ := j
  cases result with
  | error c =>
    cases h
    exact ⟨c, rfl, rfl⟩
  | ok status => cases h

theorem outcome?_eq_some_iff (j : Job) (o : Outcome) :
    j.outcome? = some o ↔
      ∃ status, j.result = .ok status ∧ o = ⟨j.child.index, j.child.pid, status⟩ := by
  cases hr : j.result with
  | error e => simp [outcome?, outcome_of_error hr, Except.toOption]
  | ok status =>
    rw [outcome?, outcome_of_ok hr, Except.toOption, Option.some_inj]
    simp [eq_comm]

theorem collect_eq_ok_iff (jobs : List Job) (outcomes : List Outcome) :
    collect jobs = .ok outcomes ↔
      (∀ j ∈ jobs, j.fails = false) ∧ outcomes = jobs.filterMap outcome? := by
  induction jobs generalizing outcomes with
  | nil =>
    constructor
    · rintro ⟨⟩
      simp
    · rintro ⟨_, rfl⟩
      rfl
  | cons j jobs ih =>
    cases hr : j.result with
    | error e => simp [collect, outcome_of_error hr, fails, hr]
    | ok status =>
      have ho := outcome_of_ok hr
      have hf : j.fails = false := by simp [fails, hr]
      cases hc : collect jobs with
      | error e =>
        have hn : ¬ ∀ j ∈ jobs, j.fails = false := fun h => by
          simpa [hc] using (ih (jobs.filterMap outcome?)).mpr ⟨h, rfl⟩
        simp [collect, ho, hc, hf, Except.map, hn]
      | ok rest =>
        obtain ⟨h, rfl⟩ := (ih rest).mp hc
        have hm : (j :: jobs).filterMap outcome? =
            ⟨j.child.index, j.child.pid, status⟩ :: jobs.filterMap outcome? := by
          simp [outcome?, ho, Except.toOption]
        rw [hm]
        constructor
        · intro hall
          simp only [collect, ho, hc, Except.map, Except.ok.injEq] at hall
          exact ⟨by simpa [hf] using h, hall.symm⟩
        · rintro ⟨_, rfl⟩
          simp only [collect, ho, hc, Except.map]

/-- The failure that is reported is that of the first job whose wait fails. -/
theorem collect_eq_error {jobs : List Job} {j : Job} {e : OsError}
    (hj : jobs.find? fails = some j) (he : j.result = .error e) :
    collect jobs = .error (.wait j.child.index (.os e)) := by
  induction jobs with
  | nil => simp at hj
  | cons first jobs ih =>
    cases hr : first.result with
    | error e' =>
      have hf : first.fails = true := by simp [fails, hr]
      rw [List.find?_cons_of_pos hf] at hj
      cases hj
      simp [collect, outcome_of_error he]
    | ok status =>
      have hf : ¬ first.fails = true := by simp [fails, hr]
      rw [List.find?_cons_of_neg hf] at hj
      simp [collect, outcome_of_ok hr, ih hj, Except.map]

theorem collect_fails_iff (jobs : List Job) :
    (∃ e, collect jobs = .error e) ↔ ∃ j ∈ jobs, j.fails = true := by
  cases hc : collect jobs with
  | error e =>
    have h : ¬ ∀ j ∈ jobs, j.fails = false := fun h => by
      simpa [hc] using (collect_eq_ok_iff jobs _).mpr ⟨h, rfl⟩
    simpa using h
  | ok outcomes =>
    have h := ((collect_eq_ok_iff jobs outcomes).mp hc).1
    simp only [reduceCtorEq, exists_false, false_iff, not_exists, not_and, Bool.not_eq_true]
    exact h

/-- If a single wait fails, the order does not matter to what is reported. -/
theorem collect_single {jobs order : List Job} (h : order.Perm jobs) {j : Job} {e : OsError}
    (hj : jobs.filter fails = [j]) (he : j.result = .error e) :
    collect order = .error (.wait j.child.index (.os e)) := by
  have hp : order.filter fails = [j] := by
    have hf := h.filter fails
    rw [hj] at hf
    exact List.perm_singleton.mp hf
  have hfind : order.find? fails = some j := by
    rw [← List.head?_filter, hp]
    rfl
  exact collect_eq_error hfind he

end Job

/-- What two ways to wait for the same workers agree on. -/
inductive Agrees : (v w : Except LaunchError LaunchReport) → Prop
  | failed (e f : LaunchError) : Agrees (.error e) (.error f)
  | reported (r s : LaunchReport) (spawned : r.spawned = s.spawned)
      (failures : r.failures.Perm s.failures)
      (exitStatus : ∀ policy, r.exitStatus policy = s.exitStatus policy) : Agrees (.ok r) (.ok s)

theorem Agrees.of_perm {r s : LaunchReport} (h : r.outcomes.Perm s.outcomes) :
    Agrees (.ok r) (.ok s) := by
  have hf : r.failures.Perm s.failures := h.filter _
  refine .reported r s h.length_eq hf fun policy => ?_
  cases policy with
  | ignore => rfl
  | propagate =>
    have he : r.failures.isEmpty = s.failures.isEmpty := by
      rw [Bool.eq_iff_iff, List.isEmpty_iff, List.isEmpty_iff]
      exact ⟨fun hr => (hr ▸ hf).nil_eq.symm, fun hs => (hs ▸ hf).eq_nil⟩
    rw [LaunchReport.exitStatus, LaunchReport.exitStatus, he]

theorem Job.agrees_of_perm {jobs order : List Job} (h : order.Perm jobs) :
    Agrees ((collect order).map .mk) ((collect jobs).map .mk) := by
  by_cases hf : ∀ j ∈ jobs, j.fails = false
  · have hf' : ∀ j ∈ order, j.fails = false := fun j hj => hf j (h.mem_iff.mp hj)
    rw [(collect_eq_ok_iff jobs _).mpr ⟨hf, rfl⟩, (collect_eq_ok_iff order _).mpr ⟨hf', rfl⟩]
    exact .of_perm (h.filterMap outcome?)
  · have hj : ∃ j ∈ jobs, j.fails = true := by simpa using hf
    obtain ⟨j, hm, hj⟩ := hj
    obtain ⟨e, he⟩ := (collect_fails_iff jobs).mpr ⟨j, hm, hj⟩
    obtain ⟨f, hf⟩ := (collect_fails_iff order).mpr ⟨j, h.mem_iff.mpr hm, hj⟩
    rw [he, hf]
    exact .failed f e

end WorkerFleet
