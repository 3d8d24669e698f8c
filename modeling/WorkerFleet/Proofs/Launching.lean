import WorkerFleet.Launcher
import WorkerFleet.Proofs.Exchange
import WorkerFleet.Proofs.Job

/-!
# What a launcher asks and is told

The attempts to start workers, the waits for them and what is announced, in the order of a run.

* `ends_startFrom`: workers are tried from the first index up, until one cannot be started.
* `ends_waitInOrder`, `ends_waitTogether`: both ways to wait are a `Reaping`.
* `ends_run`: a launch is a `Launch`, which says all that can become of it.
-/

namespace WorkerFleet.Launching

open Dialogue List

def start? : Exchange Launching → Option (Command × Except Cause Pid)
  | ⟨.start command, result⟩ => some (command, result)
  | ⟨.await _, _⟩ => none
  | ⟨.turn _ _ _, _⟩ => none
  | ⟨.announce _, _⟩ => none

def wait? : Exchange Launching → Option (Pid × Except OsError ExitStatus)
  | ⟨.start _, _⟩ => none
  | ⟨.await pid, result⟩ => some (pid, result)
  | ⟨.turn pids _ _, .finish i result⟩ => some (pids.get i, result)
  | ⟨.turn _ _ _, .collect _⟩ => none
  | ⟨.announce _, _⟩ => none

def event? : Exchange Launching → Option Event
  | ⟨.start _, _⟩ => none
  | ⟨.await _, _⟩ => none
  | ⟨.turn _ _ _, _⟩ => none
  | ⟨.announce event, _⟩ => some event

def starts (t : List (Exchange Launching)) : List (Command × Except Cause Pid) :=
  t.filterMap start?

def waits (t : List (Exchange Launching)) : List (Pid × Except OsError ExitStatus) :=
  t.filterMap wait?

def events (t : List (Exchange Launching)) : List Event := t.filterMap event?

@[simp] theorem starts_append (t u : List (Exchange Launching)) :
    starts (t ++ u) = starts t ++ starts u := List.filterMap_append

@[simp] theorem waits_append (t u : List (Exchange Launching)) :
    waits (t ++ u) = waits t ++ waits u := List.filterMap_append

@[simp] theorem events_append (t u : List (Exchange Launching)) :
    events (t ++ u) = events t ++ events u := List.filterMap_append

@[simp] theorem starts_nil : starts [] = [] := rfl

@[simp] theorem waits_nil : waits [] = [] := rfl

@[simp] theorem events_nil : events [] = [] := rfl

section Exchanges

variable (t : List (Exchange Launching)) (pid : Pid) (pids : List Pid) (ready : Nat)
  (busy : 0 < pids.length + ready) (event : Event)

@[simp] theorem starts_start (command : Command) (result : Except Cause Pid) :
    starts (⟨.start command, result⟩ :: t) = (command, result) :: starts t := rfl

@[simp] theorem starts_await (result : Except OsError ExitStatus) :
    starts (⟨.await pid, result⟩ :: t) = starts t := rfl

@[simp] theorem starts_turn (turn : Turn pids.length ready) :
    starts (⟨.turn pids ready busy, turn⟩ :: t) = starts t := rfl

@[simp] theorem starts_announce (reply : Unit) :
    starts (⟨.announce event, reply⟩ :: t) = starts t := rfl

@[simp] theorem waits_start (command : Command) (result : Except Cause Pid) :
    waits (⟨.start command, result⟩ :: t) = waits t := rfl

@[simp] theorem waits_await (result : Except OsError ExitStatus) :
    waits (⟨.await pid, result⟩ :: t) = (pid, result) :: waits t := rfl

@[simp] theorem waits_finish (i : Fin pids.length) (result : Except OsError ExitStatus) :
    waits (⟨.turn pids ready busy, .finish i result⟩ :: t) = (pids.get i, result) :: waits t := rfl

@[simp] theorem waits_collect (i : Fin ready) :
    waits (⟨.turn pids ready busy, .collect i⟩ :: t) = waits t := rfl

@[simp] theorem waits_announce (reply : Unit) :
    waits (⟨.announce event, reply⟩ :: t) = waits t := rfl

@[simp] theorem events_start (command : Command) (result : Except Cause Pid) :
    events (⟨.start command, result⟩ :: t) = events t := rfl

@[simp] theorem events_await (result : Except OsError ExitStatus) :
    events (⟨.await pid, result⟩ :: t) = events t := rfl

@[simp] theorem events_turn (turn : Turn pids.length ready) :
    events (⟨.turn pids ready busy, turn⟩ :: t) = events t := rfl

@[simp] theorem events_announce (reply : Unit) :
    events (⟨.announce event, reply⟩ :: t) = event :: events t := rfl

end Exchanges

/-- There is something to answer to every request. -/
theorem nonempty_reply (r : Request) : Nonempty (Reply r) := by
  cases r with
  | start command => exact ⟨.ok 0⟩
  | await pid => exact ⟨.ok (.code 0)⟩
  | turn pids ready busy =>
    by_cases h : 0 < ready
    · exact ⟨.collect ⟨0, h⟩⟩
    · exact ⟨.finish ⟨0, by omega⟩ (.ok (.code 0))⟩
  | announce event => exact ⟨()⟩

/-- The workers that got these process numbers, from an index on. -/
def crew (index : Nat) (pids : List Pid) : List Child :=
  (pids.zipIdx index).map fun p => ⟨p.2, p.1⟩

/-- The attempts that gave these results, from an index on. -/
def attempts (options : CollaboratorOptions) (index : Nat) (results : List (Except Cause Pid)) :
    List (Command × Except Cause Pid) :=
  (results.zipIdx index).map fun p => (options.command p.2, p.1)

/-- How starting `remaining` workers from an index on may go: all are started, or some and then one
attempt fails. -/
inductive Startup (options : CollaboratorOptions) (remaining index : Nat) :
    List (Command × Except Cause Pid) → Except LaunchError (List Child) → Prop
  | all (pids : List Pid) (h : pids.length = remaining) :
      Startup options remaining index (attempts options index (pids.map .ok))
        (.ok (crew index pids))
  | failed (pids : List Pid) (cause : Cause) (h : pids.length < remaining) :
      Startup options remaining index (attempts options index (pids.map .ok ++ [.error cause]))
        (.error (.spawn (index + pids.length) options.program cause))

theorem attempts_fst (options : CollaboratorOptions) (results : List (Except Cause Pid)) :
    (attempts options 0 results).map Prod.fst = (range results.length).map options.command := by
  have h : (results.zipIdx 0).map Prod.snd = range results.length := by
    rw [zipIdx_map_snd, range_eq_range']
  rw [← h, map_map, attempts, map_map]
  rfl

theorem attempts_snd (options : CollaboratorOptions) (index : Nat)
    (results : List (Except Cause Pid)) :
    (attempts options index results).map Prod.snd = results := by
  rw [attempts, map_map]
  exact zipIdx_map_fst index results

theorem attempts_length (options : CollaboratorOptions) (index : Nat)
    (results : List (Except Cause Pid)) :
    (attempts options index results).length = results.length := by
  rw [attempts, length_map, length_zipIdx]

theorem attempts_concat (options : CollaboratorOptions) (index : Nat)
    (results : List (Except Cause Pid)) (last : Except Cause Pid) :
    attempts options index (results ++ [last]) =
      attempts options index results ++ [(options.command (index + results.length), last)] := by
  rw [attempts, zipIdx_append, map_append]
  rfl

theorem crew_pids (index : Nat) (pids : List Pid) : (crew index pids).map Child.pid = pids := by
  rw [crew, map_map]
  exact zipIdx_map_fst index pids

theorem crew_length (index : Nat) (pids : List Pid) : (crew index pids).length = pids.length := by
  rw [crew, length_map, length_zipIdx]

theorem crew_indices (pids : List Pid) : (crew 0 pids).map Child.index = range pids.length := by
  rw [crew, map_map, range_eq_range']
  exact zipIdx_map_snd 0 pids

theorem crew_concat (pids : List Pid) (pid : Pid) :
    crew 0 (pids ++ [pid]) = crew 0 pids ++ [⟨pids.length, pid⟩] := by
  rw [crew, zipIdx_append, map_append, Nat.zero_add]
  rfl

theorem mem_crew_iff (pids : List Pid) (child : Child) :
    child ∈ crew 0 pids ↔ pids[child.index]? = some child.pid := by
  rw [crew, mem_map]
  constructor
  · rintro ⟨p, hp, rfl⟩
    exact mem_zipIdx_iff_getElem?.mp hp
  · intro h
    exact ⟨(child.pid, child.index), mem_zipIdx_iff_getElem?.mpr h, rfl⟩

theorem startup_cons {options : CollaboratorOptions} {remaining index : Nat} {pid : Pid}
    {a : List (Command × Except Cause Pid)} {v : Except LaunchError (List Child)}
    (h : Startup options remaining (index + 1) a v) :
    Startup options (remaining + 1) index ((options.command index, .ok pid) :: a)
      (v.map (⟨index, pid⟩ :: ·)) := by
  cases h with
  | all pids h => exact .all (pid :: pids) (by simp [h])
  | failed pids cause h =>
    have hn : index + 1 + pids.length = index + (pid :: pids).length := by
      simp only [List.length_cons]
      omega
    rw [hn]
    exact .failed (pid :: pids) cause (by simpa using h)

theorem ends_startFrom {options : CollaboratorOptions} {remaining index : Nat}
    {t : List (Exchange Launching)} {v : Except LaunchError (List Child)}
    (h : (Launcher.startFrom options remaining index).Ends t v) :
    waits t = [] ∧ Startup options remaining index (starts t) v := by
  induction remaining generalizing index t v with
  | zero =>
    obtain ⟨rfl, rfl⟩ := (ends_done _ _ _).mp h
    exact ⟨rfl, .all [] rfl⟩
  | succ remaining ih =>
    obtain ⟨reply, u, rfl, hu⟩ := (ends_ask _ _ _ _).mp h
    cases reply with
    | error cause =>
      obtain ⟨rfl, rfl⟩ := (ends_done _ _ _).mp hu
      exact ⟨rfl, .failed [] cause (by simp)⟩
    | ok pid =>
      obtain ⟨_, u, rfl, ha⟩ := (ends_ask _ _ _ _).mp hu
      obtain ⟨t₁, rest, t₂, rfl, hr, hd⟩ := (ends_bind _ _ _ _).mp ha
      obtain ⟨rfl, rfl⟩ := (ends_done _ _ _).mp hd
      obtain ⟨hw, hs⟩ := ih hr
      rw [List.append_nil]
      exact ⟨hw, startup_cons hs⟩

theorem ends_finished {child : Child} {result : Except OsError ExitStatus}
    {t : List (Exchange Launching)} {v : Except LaunchError Outcome}
    (h : (Launcher.finished child result).Ends t v) :
    starts t = [] ∧ waits t = [] ∧ v = Job.outcome ⟨child, result⟩ := by
  cases result with
  | error e =>
    obtain ⟨rfl, rfl⟩ := (ends_done _ _ _).mp h
    exact ⟨rfl, rfl, rfl⟩
  | ok status =>
    obtain ⟨_, u, rfl, hu⟩ := (ends_ask _ _ _ _).mp h
    obtain ⟨rfl, rfl⟩ := (ends_done _ _ _).mp hu
    exact ⟨rfl, rfl, rfl⟩

/-- How waiting for `waiting` may go while the results of `ready` lie there: `finished` are the
waits that came to an end, in that order, and `collected` the results that were picked up. -/
structure Reaping (waiting : List Child) (ready finished collected : List Job)
    (w : List (Pid × Except OsError ExitStatus)) (v : Except LaunchError (List Outcome)) :
    Prop where
  waits : w = finished.map fun j => (j.child.pid, j.result)
  finished_le : finished.map Job.child <+~ waiting
  collected_le : collected <+~ ready ++ finished
  value : v = Job.collect collected
  /-- Nothing is left over unless a wait fails. -/
  whole : v.isOk → finished.map Job.child ~ waiting ∧ collected ~ ready ++ finished

theorem reaping_nil : Reaping [] [] [] [] [] (.ok []) where
  waits := rfl
  finished_le := .refl _
  collected_le := .refl _
  value := rfl
  whole _ := ⟨.nil, .nil⟩

/-- A wait comes to an end and leaves its result. -/
theorem Reaping.finish (waiting : List Child) (ready : List Job) {finished collected : List Job}
    {w : List (Pid × Except OsError ExitStatus)} {v : Except LaunchError (List Outcome)}
    {i : Nat} (hi : i < waiting.length) (result : Except OsError ExitStatus)
    (h : Reaping (waiting.eraseIdx i) (ready ++ [⟨waiting[i], result⟩]) finished collected w v) :
    Reaping waiting ready (⟨waiting[i], result⟩ :: finished) collected
      ((waiting[i].pid, result) :: w) v where
  waits := by simp [h.waits]
  finished_le := by
    have hp := getElem_cons_eraseIdx_perm hi
    exact hp.subperm_left.mp ((subperm_cons _).mpr h.finished_le)
  collected_le := by simpa using h.collected_le
  value := h.value
  whole hv := by
    obtain ⟨hf, hc⟩ := h.whole hv
    exact ⟨(hf.cons _).trans (getElem_cons_eraseIdx_perm hi), by simpa using hc⟩

/-- A result is picked up, and it is an outcome. -/
theorem Reaping.collect {waiting : List Child} (ready : List Job) {finished collected : List Job}
    {w : List (Pid × Except OsError ExitStatus)} {v : Except LaunchError (List Outcome)}
    {i : Nat} (hi : i < ready.length) {outcome : Outcome} (ho : ready[i].outcome = .ok outcome)
    (h : Reaping waiting (ready.eraseIdx i) finished collected w v) :
    Reaping waiting ready finished (ready[i] :: collected) w (v.map (outcome :: ·)) where
  waits := h.waits
  finished_le := h.finished_le
  collected_le := by
    have hp := (getElem_cons_eraseIdx_perm hi).append_right finished
    exact hp.subperm_left.mp ((subperm_cons _).mpr h.collected_le)
  value := by
    rw [Job.collect, ho, h.value]
  whole hv := by
    have hv' : v.isOk := by
      cases v with
      | error e => exact hv
      | ok outcomes => rfl
    obtain ⟨hf, hc⟩ := h.whole hv'
    exact ⟨hf, (hc.cons _).trans ((getElem_cons_eraseIdx_perm hi).append_right finished)⟩

/-- A result is picked up, and it is a failure. -/
theorem reaping_fail (waiting : List Child) (ready : List Job) {i : Nat} (hi : i < ready.length)
    {e : LaunchError} (he : ready[i].outcome = .error e) :
    Reaping waiting ready [] [ready[i]] [] (.error e) where
  waits := rfl
  finished_le := nil_subperm
  collected_le := by simp
  value := by rw [Job.collect, he]
  whole hv := by cases hv

theorem Reaping.pids {waiting : List Child} {ready finished collected : List Job}
    {w : List (Pid × Except OsError ExitStatus)} {v : Except LaunchError (List Outcome)}
    (h : Reaping waiting ready finished collected w v) :
    w.map Prod.fst = (finished.map Job.child).map Child.pid := by
  rw [h.waits, map_map, map_map]
  rfl

/-- No worker is waited for twice. -/
theorem Reaping.pids_le {waiting : List Child} {ready finished collected : List Job}
    {w : List (Pid × Except OsError ExitStatus)} {v : Except LaunchError (List Outcome)}
    (h : Reaping waiting ready finished collected w v) :
    w.map Prod.fst <+~ waiting.map Child.pid := by
  obtain ⟨children, hp, hs⟩ := h.finished_le
  rw [h.pids]
  exact ⟨children.map Child.pid, hp.map Child.pid, hs.map Child.pid⟩

theorem Reaping.pids_perm {waiting : List Child} {ready finished collected : List Job}
    {w : List (Pid × Except OsError ExitStatus)} {v : Except LaunchError (List Outcome)}
    (h : Reaping waiting ready finished collected w v) (hv : v.isOk) :
    w.map Prod.fst ~ waiting.map Child.pid := by
  rw [h.pids]
  exact (h.whole hv).1.map Child.pid

theorem ends_waitInOrder {children : List Child} {t : List (Exchange Launching)}
    {v : Except LaunchError (List Outcome)} (h : (Launcher.waitInOrder children).Ends t v) :
    starts t = [] ∧ ∃ jobs, Reaping children [] jobs jobs (waits t) v := by
  induction children generalizing t v with
  | nil =>
    obtain ⟨rfl, rfl⟩ := (ends_done _ _ _).mp h
    exact ⟨rfl, [], reaping_nil⟩
  | cons child children ih =>
    obtain ⟨result, u, rfl, hu⟩ := (ends_ask _ _ _ _).mp h
    obtain ⟨t₁, r, t₂, rfl, hf, hk⟩ := (ends_bind _ _ _ _).mp hu
    obtain ⟨hs, hw, rfl⟩ := ends_finished hf
    have hi : 0 < (child :: children).length := by simp
    cases ho : Job.outcome ⟨child, result⟩ with
    | error e =>
      rw [ho] at hk
      obtain ⟨rfl, rfl⟩ := (ends_done _ _ _).mp hk
      have hr := reaping_fail children [⟨child, result⟩] (i := 0) (by simp) ho
      refine ⟨by simpa using hs, [⟨child, result⟩], ?_⟩
      simpa [hw] using hr.finish (child :: children) [] hi result
    | ok outcome =>
      rw [ho] at hk
      obtain ⟨t₃, rest, t₄, rfl, hr, hd⟩ := (ends_bind _ _ _ _).mp hk
      obtain ⟨rfl, rfl⟩ := (ends_done _ _ _).mp hd
      obtain ⟨hs', jobs, hj⟩ := ih hr
      have hc := hj.collect [⟨child, result⟩] (i := 0) (by simp) ho
      refine ⟨by simp [hs, hs'], ⟨child, result⟩ :: jobs, ?_⟩
      simpa [hw] using hc.finish (child :: children) [] hi result

/-- Every worker takes two turns, so the turns suffice for all of them. -/
theorem ends_waitTogether {turns : Nat} (waiting : List Child) (ready : List Job)
    (hn : turns = 2 * waiting.length + ready.length) {t : List (Exchange Launching)}
    {v : Except LaunchError (List Outcome)}
    (h : (Launcher.waitTogether turns waiting (ready.map Job.outcome)).Ends t v) :
    starts t = [] ∧ ∃ finished collected, Reaping waiting ready finished collected (waits t) v := by
  induction turns generalizing waiting ready t v with
  | zero =>
    obtain rfl : waiting = [] := length_eq_zero_iff.mp (by omega)
    obtain rfl : ready = [] := length_eq_zero_iff.mp (by omega)
    obtain ⟨rfl, rfl⟩ := (ends_done _ _ _).mp h
    exact ⟨rfl, [], [], reaping_nil⟩
  | succ turns ih =>
    have busy : 0 < (waiting.map (·.pid)).length + (ready.map Job.outcome).length := by
      simp only [length_map]
      omega
    rw [Launcher.waitTogether, dif_pos busy] at h
    obtain ⟨turn, u, rfl, hu⟩ := (ends_ask _ _ _ _).mp h
    cases turn with
    | finish i result =>
      obtain ⟨i, hlt⟩ := i
      have hi : i < waiting.length := by simpa using hlt
      have hl := length_eraseIdx_of_lt hi
      obtain ⟨t₁, r, t₂, rfl, hf, hk⟩ := (ends_bind _ _ _ _).mp hu
      obtain ⟨hs, hw, rfl⟩ := ends_finished hf
      obtain ⟨hs', finished, collected, hr⟩ := ih
        (waiting.eraseIdx i) (ready ++ [⟨waiting[i], result⟩])
        (by simp only [length_append, length_singleton]; omega) (by simpa using hk)
      refine ⟨by simp [hs, hs'], ⟨waiting[i], result⟩ :: finished, collected, ?_⟩
      simpa [hw] using hr.finish waiting ready hi result
    | collect i =>
      obtain ⟨i, hlt⟩ := i
      have hi : i < ready.length := by simpa using hlt
      have hl := length_eraseIdx_of_lt hi
      simp only [Fin.getElem_fin, getElem_map] at hu
      cases ho : ready[i].outcome with
      | error e =>
        rw [ho] at hu
        obtain ⟨rfl, rfl⟩ := (ends_done _ _ _).mp hu
        exact ⟨rfl, [], [ready[i]], reaping_fail waiting ready hi ho⟩
      | ok outcome =>
        rw [ho] at hu
        obtain ⟨t₃, rest, t₄, rfl, hr, hd⟩ := (ends_bind _ _ _ _).mp hu
        obtain ⟨rfl, rfl⟩ := (ends_done _ _ _).mp hd
        obtain ⟨hs', finished, collected, hj⟩ := ih waiting (ready.eraseIdx i)
          (by omega) (by simpa [eraseIdx_map] using hr)
        refine ⟨by simpa using hs', finished, ready[i] :: collected, ?_⟩
        simpa using hj.collect ready hi ho

theorem ends_waitAll {children : List Child} {order : WaitOrder} {t : List (Exchange Launching)}
    {v : Except LaunchError LaunchReport} (h : (Launcher.waitAll children order).Ends t v) :
    starts t = [] ∧ ∃ finished collected outcomes,
      Reaping children [] finished collected (waits t) outcomes ∧
        v = outcomes.map LaunchReport.mk := by
  cases order with
  | spawn =>
    obtain ⟨t₁, outcomes, t₂, rfl, hw, hd⟩ := (ends_bind _ _ _ _).mp h
    obtain ⟨rfl, rfl⟩ := (ends_done _ _ _).mp hd
    obtain ⟨hs, jobs, hr⟩ := ends_waitInOrder hw
    rw [append_nil]
    exact ⟨hs, jobs, jobs, outcomes, hr, rfl⟩
  | completion =>
    obtain ⟨t₁, outcomes, t₂, rfl, hw, hd⟩ := (ends_bind _ _ _ _).mp h
    obtain ⟨rfl, rfl⟩ := (ends_done _ _ _).mp hd
    obtain ⟨hs, finished, collected, hr⟩ := ends_waitTogether children [] rfl hw
    rw [append_nil]
    exact ⟨hs, finished, collected, outcomes, hr, rfl⟩

/-- How a launch of `count` workers may go: what was tried, what was waited for, and the result. -/
inductive Launch (options : CollaboratorOptions) (count : Nat) :
    List (Command × Except Cause Pid) → List (Pid × Except OsError ExitStatus) →
      Except LaunchError LaunchReport → Prop
  | unstarted (pids : List Pid) (cause : Cause) (h : pids.length < count) :
      Launch options count (attempts options 0 (pids.map .ok ++ [.error cause])) []
        (.error (.spawn pids.length options.program cause))
  | started (pids : List Pid) (h : pids.length = count) {finished collected : List Job}
      {w : List (Pid × Except OsError ExitStatus)} {outcomes : Except LaunchError (List Outcome)}
      (hr : Reaping (crew 0 pids) [] finished collected w outcomes) :
      Launch options count (attempts options 0 (pids.map .ok)) w (outcomes.map LaunchReport.mk)

/-- A launch has two parts: first all workers are started, and then they are waited for. -/
theorem ends_run {launcher : Launcher} {count : Nat} {t : List (Exchange Launching)}
    {v : Except LaunchError LaunchReport} (h : (launcher.run count).Ends t v) :
    ∃ t₁ t₂, t = t₁ ++ t₂ ∧ waits t₁ = [] ∧ starts t₂ = [] ∧
      Launch launcher.options count (starts t₁) (waits t₂) v := by
  obtain ⟨t₁, started, t₂, rfl, hs, hk⟩ := (ends_bind _ _ _ _).mp h
  obtain ⟨hw, hs⟩ := ends_startFrom hs
  refine ⟨t₁, t₂, rfl, hw, ?_⟩
  generalize starts t₁ = tried at hs
  cases hs with
  | all pids hn =>
    obtain ⟨hs', finished, collected, outcomes, hr, rfl⟩ := ends_waitAll hk
    exact ⟨hs', .started pids hn hr⟩
  | failed pids cause hn =>
    obtain ⟨rfl, rfl⟩ := (ends_done _ _ _).mp hk
    rw [Nat.zero_add]
    exact ⟨rfl, .unstarted pids cause hn⟩

theorem launch_of_ends {launcher : Launcher} {count : Nat} {t : List (Exchange Launching)}
    {v : Except LaunchError LaunchReport} (h : (launcher.run count).Ends t v) :
    Launch launcher.options count (starts t) (waits t) v := by
  obtain ⟨t₁, t₂, rfl, hw, hs, hl⟩ := ends_run h
  simpa [hw, hs] using hl

end WorkerFleet.Launching
