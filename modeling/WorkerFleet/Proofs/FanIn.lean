import WorkerFleet.Proofs.Launching

/-!
# Waiting together is waiting in the order of joining

The results of the waits and the order in which they are joined are given; when each wait comes to
its end is open. `Yields` says that whatever happens a dialogue gets to its end, with one value.

* `waitInOrder_yields`, `waitTogether_yields`: both ways to wait collect their jobs in order.
* `completion_refines_spawn`: waiting together gives what waiting in the order of joining gives,
  and agrees with waiting in any other order on all that does not depend on the order.
-/

namespace WorkerFleet

open Dialogue

/-- The answers that may be given in a state, and the state after each. -/
def Answering (I : Interface) (σ : Type) := σ → (r : I.Request) → I.Reply r → σ → Prop

/-- A dialogue is never left without an answer, and whatever the answers are it ends with `v`. -/
inductive Yields {I : Interface} {σ α : Type} (A : Answering I σ) : σ → Dialogue I α → α → Prop
  | done (s : σ) (v : α) : Yields A s (.done v) v
  | ask {s : σ} {r : I.Request} {k : I.Reply r → Dialogue I α} {v : α}
      (some : ∃ reply s', A s r reply s')
      (all : ∀ reply s', A s r reply s' → Yields A s' (k reply) v) : Yields A s (.ask r k) v

section

variable {I : Interface} {σ α β : Type} {A : Answering I σ}

/-- So `v` is the only value that can come of it. -/
theorem Yields.unique {s : σ} {d : Dialogue I α} {v w : α} (hv : Yields A s d v)
    (hw : Yields A s d w) : v = w := by
  induction hv with
  | done s v =>
    cases hw
    rfl
  | ask some all ih =>
    obtain ⟨reply, s', h⟩ := some
    cases hw with
    | ask _ hw => exact ih reply s' h (hw reply s' h)

theorem Yields.map {s : σ} {d : Dialogue I α} {v : α} (h : Yields A s d v) (f : α → β) :
    Yields A s (d.bind fun value => .done (f value)) (f v) := by
  induction h with
  | done s v => exact .done s (f v)
  | ask some all ih => exact .ask some fun reply s' hr => ih reply s' hr

end

namespace Launching

/-- Workers whose waits are going on, results that lie ready, and the order in which results are
joined. -/
structure Waiters where
  waiting : List Job
  ready : List Job
  due : List Job

/-- A wait for one worker is for the first of them. Any of the workers may be the next one to end;
what is joined next is settled. -/
inductive Waiters.Answers : Answering Launching Waiters
  | await (j : Job) (waiting ready due : List Job) :
      Answers ⟨j :: waiting, ready, due⟩ (.await j.child.pid) j.result ⟨waiting, ready, due⟩
  | finish (s : Waiters) (pids : List Pid) (ready : Nat) (busy : 0 < pids.length + ready)
      (i : Fin pids.length) (hi : i < s.waiting.length) :
      Answers s (.turn pids ready busy) (.finish i s.waiting[i].result)
        ⟨s.waiting.eraseIdx i, s.ready ++ [s.waiting[i]], s.due⟩
  | collect (s : Waiters) (pids : List Pid) (ready : Nat) (busy : 0 < pids.length + ready)
      (i : Fin ready) (hi : i < s.ready.length) (due : List Job) (hd : s.due = s.ready[i] :: due) :
      Answers s (.turn pids ready busy) (.collect i) ⟨s.waiting, s.ready.eraseIdx i, due⟩
  | announce (s : Waiters) (event : Event) : Answers s (.announce event) () s

/-- To announce the end of a worker changes nothing. -/
theorem yields_finished {α : Type} {s : Waiters} {child : Child}
    {result : Except OsError ExitStatus} {k : Except LaunchError Outcome → Dialogue Launching α}
    {v : α} (h : Yields Waiters.Answers s (k (Job.outcome ⟨child, result⟩)) v) :
    Yields Waiters.Answers s ((Launcher.finished child result).bind k) v := by
  cases result with
  | error e => exact h
  | ok status =>
    refine .ask ⟨(), s, .announce s _⟩ fun reply s' hr => ?_
    cases hr
    exact h

theorem waitInOrder_yields (jobs : List Job) :
    Yields Waiters.Answers ⟨jobs, [], []⟩ (Launcher.waitInOrder (jobs.map Job.child))
      (Job.collect jobs) := by
  induction jobs with
  | nil => exact .done _ _
  | cons j jobs ih =>
    refine .ask ⟨j.result, _, .await j jobs [] []⟩ fun reply s' hr => ?_
    cases hr with
    | await =>
      refine yields_finished ?_
      rw [Job.collect]
      cases j.outcome with
      | error e => exact .done _ _
      | ok outcome => exact ih.map _

/-- What is to be joined next lies ready, or some wait is still going on. -/
theorem Waiters.answered {s : Waiters} (hd : s.due.Perm (s.ready ++ s.waiting)) {pids : List Pid}
    {ready : Nat} (hp : pids.length = s.waiting.length) (hr : ready = s.ready.length)
    (busy : 0 < pids.length + ready) :
    ∃ reply s', Waiters.Answers s (.turn pids ready busy) reply s' := by
  cases hdue : s.due with
  | nil =>
    have hl := hd.length_eq
    rw [hdue, List.length_append, List.length_nil] at hl
    omega
  | cons j due =>
    have hj : j ∈ s.ready ++ s.waiting := hd.mem_iff.mp (by simp [hdue])
    rcases List.mem_append.mp hj with hj | hj
    · obtain ⟨i, hi, rfl⟩ := List.getElem_of_mem hj
      exact ⟨_, _, .collect s pids ready busy ⟨i, by omega⟩ hi due hdue⟩
    · have hi : 0 < s.waiting.length := List.length_pos_of_mem hj
      exact ⟨_, _, .finish s pids ready busy ⟨0, by omega⟩ hi⟩

/-- The results that are still to be joined are those that lie ready and those to come. -/
theorem waitTogether_yields {turns : Nat} {s : Waiters}
    (hn : turns = 2 * s.waiting.length + s.ready.length)
    (hd : s.due.Perm (s.ready ++ s.waiting)) :
    Yields Waiters.Answers s
      (Launcher.waitTogether turns (s.waiting.map Job.child) (s.ready.map Job.outcome))
      (Job.collect s.due) := by
  induction turns generalizing s with
  | zero =>
    have hr : s.ready = [] := List.length_eq_zero_iff.mp (by omega)
    have hw : s.waiting = [] := List.length_eq_zero_iff.mp (by omega)
    rw [hr, hw] at hd
    rw [hd.eq_nil, hr, hw]
    exact .done _ _
  | succ turns ih =>
    have busy : 0 < ((s.waiting.map Job.child).map (·.pid)).length +
        (s.ready.map Job.outcome).length := by
      simp only [List.length_map]
      omega
    rw [Launcher.waitTogether, dif_pos busy]
    refine .ask (Waiters.answered hd (by simp) (by simp) busy) fun reply s' hr => ?_
    cases hr with
    | finish _ _ _ _ i hi =>
      have hl := List.length_eraseIdx_of_lt hi
      have hp : (s.ready ++ s.waiting).Perm
          (s.ready ++ [s.waiting[i]] ++ s.waiting.eraseIdx i) := by
        rw [List.append_assoc]
        exact (List.getElem_cons_eraseIdx_perm hi).symm.append_left s.ready
      have h := ih (s := ⟨s.waiting.eraseIdx i, s.ready ++ [s.waiting[i]], s.due⟩)
        (by simp only [List.length_append, List.length_singleton]; omega) (hd.trans hp)
      refine yields_finished ?_
      simpa [List.eraseIdx_map] using h
    | collect _ _ _ _ i hi due hdue =>
      have hl := List.length_eraseIdx_of_lt hi
      have hp : due.Perm (s.ready.eraseIdx i ++ s.waiting) := by
        have hc := (List.getElem_cons_eraseIdx_perm hi).append_right s.waiting
        rw [hdue] at hd
        exact (hd.trans hc.symm).cons_inv
      have h := ih (s := ⟨s.waiting, s.ready.eraseIdx i, due⟩) (by dsimp only; omega) hp
      rw [hdue, Job.collect]
      simp only [Fin.getElem_fin, List.getElem_map]
      cases s.ready[i].outcome with
      | error e => exact .done _ _
      | ok outcome =>
        rw [List.eraseIdx_map]
        exact h.map _

theorem waitAll_spawn_yields (jobs : List Job) :
    Yields Waiters.Answers ⟨jobs, [], []⟩ (Launcher.waitAll (jobs.map Job.child) .spawn)
      ((Job.collect jobs).map LaunchReport.mk) :=
  (waitInOrder_yields jobs).map _

theorem waitAll_completion_yields {jobs order : List Job} (h : order.Perm jobs) :
    Yields Waiters.Answers ⟨jobs, [], order⟩ (Launcher.waitAll (jobs.map Job.child) .completion)
      ((Job.collect order).map LaunchReport.mk) := by
  have hw := waitTogether_yields (s := ⟨jobs, [], order⟩) rfl (by simpa using h)
  rw [Launcher.waitAll, List.length_map]
  exact hw.map _

/-- Waiting together for workers whose results are joined in an order gives what waiting for one
after the other in that order gives: the outcomes in that order, or the first failure in it.
Compared with waiting for them in the order given, only the order of the outcomes may differ, and
the choice among several failures. -/
theorem completion_refines_spawn {jobs order : List Job} (h : order.Perm jobs) :
    ∃ v w,
      Yields Waiters.Answers ⟨jobs, [], order⟩
        (Launcher.waitAll (jobs.map Job.child) .completion) v ∧
      Yields Waiters.Answers ⟨order, [], []⟩ (Launcher.waitAll (order.map Job.child) .spawn) v ∧
      Yields Waiters.Answers ⟨jobs, [], []⟩ (Launcher.waitAll (jobs.map Job.child) .spawn) w ∧
      (∀ j e, order.find? Job.fails = some j → j.result = .error e →
        v = .error (.wait j.child.index (.os e))) ∧
      Agrees v w ∧
      ∀ j e, jobs.filter Job.fails = [j] → j.result = .error e →
        v = .error (.wait j.child.index (.os e)) ∧ w = .error (.wait j.child.index (.os e)) := by
  refine ⟨_, _, waitAll_completion_yields h, waitAll_spawn_yields order,
    waitAll_spawn_yields jobs, ?_, Job.agrees_of_perm h, ?_⟩
  · intro j e hj he
    rw [Job.collect_eq_error hj he]
    rfl
  · intro j e hj he
    rw [Job.collect_single h hj he, Job.collect_single (.refl jobs) hj he]
    exact ⟨rfl, rfl⟩

/-- The worker that was started last is joined first, and the wait for it failed. -/
theorem completion_refines_spawn_last_first :
    [⟨⟨1, 8⟩, .error .noChild⟩, ⟨⟨0, 7⟩, .ok (.code 3)⟩].Perm
        [(⟨⟨0, 7⟩, .ok (.code 3)⟩ : Job), ⟨⟨1, 8⟩, .error .noChild⟩] ∧
      Yields Waiters.Answers
        ⟨[⟨⟨0, 7⟩, .ok (.code 3)⟩, ⟨⟨1, 8⟩, .error .noChild⟩], [],
          [⟨⟨1, 8⟩, .error .noChild⟩, ⟨⟨0, 7⟩, .ok (.code 3)⟩]⟩
        (Launcher.waitAll [⟨0, 7⟩, ⟨1, 8⟩] .completion) (.error (.wait 1 (.os .noChild))) := by
  have hp : [⟨⟨1, 8⟩, .error .noChild⟩, ⟨⟨0, 7⟩, .ok (.code 3)⟩].Perm
      [(⟨⟨0, 7⟩, .ok (.code 3)⟩ : Job), ⟨⟨1, 8⟩, .error .noChild⟩] := .swap _ _ _
  obtain ⟨v, w, hv, _, _, hfirst, _, _⟩ := completion_refines_spawn hp
  rw [hfirst ⟨⟨1, 8⟩, .error .noChild⟩ .noChild rfl rfl] at hv
  exact ⟨hp, hv⟩

end Launching

end WorkerFleet
