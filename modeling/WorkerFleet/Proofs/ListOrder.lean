import WorkerFleet.Proofs.EventLog

/-!
# Waiting in the order of a list

Given what the wait for each worker of a list gives, one run of waiting for them in order is left:
it waits up to the first wait that fails, announces each end on the way, and touches no worker
beyond.

* `waitInOrder_iff`: that run.
* `Fleet.Reaches.since`: what a run of any launcher leaves as it was.
* `waited_in_list_order`: what is waited for, announced and reported, and what is left alone.
-/

namespace WorkerFleet

open Dialogue Launching List

namespace Job

/-- The jobs up to the first that fails, and that one. -/
def upToFailure : List Job → List Job
  | [] => []
  | j :: jobs =>
    match j.outcome with
    | .error _ => [j]
    | .ok _ => j :: upToFailure jobs

theorem upToFailure_append {before : List Job} (h : ∀ j ∈ before, j.fails = false)
    (rest : List Job) : upToFailure (before ++ rest) = before ++ upToFailure rest := by
  induction before with
  | nil => rfl
  | cons j before ih =>
    obtain ⟨outcome, ho⟩ := outcome_of_not_fails (h j mem_cons_self)
    rw [cons_append, upToFailure, ho, ih fun k hk => h k (mem_cons_of_mem _ hk), cons_append]

theorem upToFailure_of_ok {jobs : List Job} (h : ∀ j ∈ jobs, j.fails = false) :
    upToFailure jobs = jobs := by
  have hall := upToFailure_append h []
  rwa [append_nil, upToFailure, append_nil] at hall

/-- Nothing after a failure counts. -/
theorem upToFailure_of_failure {before : List Job} (h : ∀ k ∈ before, k.fails = false) {j : Job}
    {e : OsError} (hj : j.result = .error e) (after : List Job) :
    upToFailure (before ++ j :: after) = before ++ [j] := by
  rw [upToFailure_append h, upToFailure, outcome_of_error hj]

end Job

namespace Launching

/-- The waits for the workers of these jobs gave what the jobs say, in the order of the list. -/
def Awaited (jobs : List Job) (t : List (Exchange Launching)) : Prop :=
  (waits t).map Prod.snd <+: jobs.map Job.result

def awaiting (j : Job) : List (Exchange Launching) := ⟨.await j.child.pid, j.result⟩ :: announcing j

theorem starts_awaiting (jobs : List Job) : starts (jobs.flatMap awaiting) = [] := by
  rw [starts, filterMap_flatMap, flatMap_eq_nil_iff]
  exact fun j _ => starts_announcing j

theorem waits_awaiting (jobs : List Job) :
    waits (jobs.flatMap awaiting) = jobs.map fun j => (j.child.pid, j.result) := by
  rw [waits, filterMap_flatMap, map_eq_flatMap]
  refine congrArg (flatMap · jobs) (funext fun j => ?_)
  exact congrArg ((j.child.pid, j.result) :: ·) (waits_announcing j)

theorem events_awaiting (jobs : List Job) :
    events (jobs.flatMap awaiting) = (jobs.filterMap Job.outcome?).map Outcome.event := by
  rw [events, filterMap_flatMap, filterMap_eq_flatMap_toList, map_flatMap]
  refine congrArg (flatMap · jobs) (funext fun j => ?_)
  exact events_announcing j

variable {t : List (Exchange Launching)} {jobs : List Job}

theorem awaited_nil (jobs : List Job) : Awaited jobs [] := nil_prefix

theorem awaited_cons (j : Job) (result : Except OsError ExitStatus) :
    Awaited (j :: jobs) (⟨.await j.child.pid, result⟩ :: t) ↔
      result = j.result ∧ Awaited jobs t := by
  rw [Awaited, waits_await, map_cons, map_cons, cons_prefix_cons]
  exact .rfl

theorem awaited_announcing (j : Job) : Awaited jobs (announcing j ++ t) ↔ Awaited jobs t := by
  rw [Awaited, waits_append, waits_announcing, nil_append]
  exact .rfl

/-- The wait for the first worker fails. -/
theorem waitInOrder_error_iff {j : Job} {e : LaunchError} (ho : j.outcome = .error e)
    (v : Except LaunchError (List Outcome)) :
    ((Launcher.waitInOrder ((j :: jobs).map Job.child)).Ends t v ∧ Awaited (j :: jobs) t) ↔
      t = awaiting j ∧ v = .error e := by
  rw [map_cons, Launcher.waitInOrder, ends_ask]
  constructor
  · rintro ⟨⟨result, _, rfl, hreplied⟩, ht⟩
    obtain ⟨rfl, _⟩ := (awaited_cons j result).mp ht
    obtain ⟨u, rfl, hu⟩ := ends_finished_bind.mp hreplied
    rw [show Job.outcome ⟨j.child, j.result⟩ = _ from ho] at hu
    obtain ⟨rfl, rfl⟩ := (ends_done _ _ _).mp hu
    exact ⟨congrArg _ (append_nil _), rfl⟩
  · rintro ⟨rfl, rfl⟩
    refine ⟨⟨j.result, _, rfl, follows_finished ho _⟩, (awaited_cons j j.result).mpr ⟨rfl, ?_⟩⟩
    rw [← append_nil (announcing j)]
    exact (awaited_announcing j).mpr (awaited_nil jobs)

/-- The first worker is waited for, and then the others. -/
theorem waitInOrder_ok_iff {j : Job} {outcome : Outcome} (ho : j.outcome = .ok outcome)
    (v : Except LaunchError (List Outcome)) :
    ((Launcher.waitInOrder ((j :: jobs).map Job.child)).Ends t v ∧ Awaited (j :: jobs) t) ↔
      ∃ u w, t = awaiting j ++ u ∧ v = w.map (outcome :: ·) ∧
        (Launcher.waitInOrder (jobs.map Job.child)).Ends u w ∧ Awaited jobs u := by
  rw [map_cons, Launcher.waitInOrder, ends_ask]
  constructor
  · rintro ⟨⟨result, _, rfl, hreplied⟩, ht⟩
    obtain ⟨rfl, hlater⟩ := (awaited_cons j result).mp ht
    obtain ⟨_, rfl, hannounced⟩ := ends_finished_bind.mp hreplied
    rw [show Job.outcome ⟨j.child, j.result⟩ = _ from ho] at hannounced
    obtain ⟨u, w, _, rfl, hu, hd⟩ := (ends_bind _ _ _ _).mp hannounced
    obtain ⟨rfl, rfl⟩ := (ends_done _ _ _).mp hd
    rw [append_nil] at hlater ⊢
    exact ⟨u, w, rfl, rfl, hu, (awaited_announcing j).mp hlater⟩
  · rintro ⟨u, w, rfl, rfl, hu, ht⟩
    refine ⟨⟨j.result, _, rfl, (follows_finished ho _).append ?_⟩,
      (awaited_cons j j.result).mpr ⟨rfl, (awaited_announcing j).mpr ht⟩⟩
    exact (ends_bind _ _ _ _).mpr ⟨u, w, [], (append_nil u).symm, hu, .here _⟩

/-- Workers are waited for up to the first wait that fails. -/
theorem waitInOrder_iff (jobs : List Job) (t : List (Exchange Launching))
    (v : Except LaunchError (List Outcome)) :
    ((Launcher.waitInOrder (jobs.map Job.child)).Ends t v ∧ Awaited jobs t) ↔
      t = (Job.upToFailure jobs).flatMap awaiting ∧ v = Job.collect jobs := by
  induction jobs generalizing t v with
  | nil =>
    rw [map_nil, Launcher.waitInOrder, ends_done]
    constructor
    · exact And.left
    · rintro ⟨rfl, rfl⟩
      exact ⟨⟨rfl, rfl⟩, awaited_nil _⟩
  | cons j jobs ih =>
    rw [Job.upToFailure, Job.collect]
    cases ho : j.outcome with
    | error e => rw [waitInOrder_error_iff ho, flatMap_singleton]
    | ok outcome =>
      rw [waitInOrder_ok_iff ho, flatMap_cons]
      simp only [ih]
      constructor
      · rintro ⟨_, _, rfl, rfl, rfl, rfl⟩
        exact ⟨rfl, rfl⟩
      · rintro ⟨rfl, rfl⟩
        exact ⟨_, _, rfl, rfl, rfl, rfl⟩

theorem waitAll_spawn_iff (jobs : List Job) (t : List (Exchange Launching))
    (v : Except LaunchError LaunchReport) :
    ((Launcher.waitAll (jobs.map Job.child) .spawn).Ends t v ∧ Awaited jobs t) ↔
      t = (Job.upToFailure jobs).flatMap awaiting ∧ v = (Job.collect jobs).map LaunchReport.mk := by
  rw [Launcher.waitAll, bind_eq, ends_bind]
  constructor
  · rintro ⟨⟨u, outcomes, _, rfl, hu, hd⟩, ht⟩
    obtain ⟨rfl, rfl⟩ := (ends_done _ _ _).mp hd
    rw [append_nil] at ht ⊢
    obtain ⟨rfl, rfl⟩ := (waitInOrder_iff jobs u outcomes).mp ⟨hu, ht⟩
    exact ⟨rfl, rfl⟩
  · rintro ⟨rfl, rfl⟩
    obtain ⟨hu, ht⟩ := (waitInOrder_iff jobs _ _).mpr ⟨rfl, rfl⟩
    exact ⟨⟨_, _, [], (append_nil _).symm, hu, .here _⟩, ht⟩

end Launching

/-- The outcome of the worker of a job. -/
theorem Job.outcome?_iff (j : Job) (o : Outcome) :
    j.outcome? = some o ↔ o.child = j.child ∧ j.result = .ok o.status := by
  rw [outcome?_eq_some_iff]
  constructor
  · rintro ⟨status, hr, rfl⟩
    exact ⟨rfl, hr⟩
  · rintro ⟨hc, hr⟩
    exact ⟨o.status, hr, by rw [← hc]; rfl⟩

/-- Where no wait fails, there is an outcome for every job, in their order. -/
theorem Job.outcomes_iff {jobs : List Job} (h : ∀ j ∈ jobs, j.fails = false)
    (outcomes : List Outcome) :
    Forall₂ (fun j o => o.child = j.child ∧ j.result = .ok o.status) jobs outcomes ↔
      outcomes = jobs.filterMap Job.outcome? := by
  induction jobs generalizing outcomes with
  | nil => exact forall₂_nil_left_iff
  | cons j jobs ih =>
    obtain ⟨outcome, ho⟩ := outcome_of_not_fails (h j mem_cons_self)
    have hsome := outcome?_of_outcome ho
    have ih := fun later => ih (fun k hk => h k (mem_cons_of_mem _ hk)) later
    rw [forall₂_cons_left_iff, filterMap_cons_some hsome]
    constructor
    · rintro ⟨o, later, hfirst, hlater, rfl⟩
      have hsame := hsome.symm.trans ((j.outcome?_iff o).mpr hfirst)
      rw [Option.some.inj hsame, (ih later).mp hlater]
    · rintro rfl
      exact ⟨_, _, (j.outcome?_iff outcome).mp hsome, (ih _).mpr rfl, rfl⟩

variable {C : Conduct}

/-- What a run that says `t` leaves of a worker. -/
structure Worker.Since (w : Worker C) (t : List (Exchange Launching)) (w' : Worker C) : Prop where
  command : w'.command = w.command
  pid : w'.pid = w.pid
  waited_le : w'.waited ≤ w.waited + ((waits t).map Prod.fst).count w.pid
  le_waited : w.waited ≤ w'.waited
  killed : w'.killed = true → w.killed = true ∨ w.command.killOnDrop = true

theorem Worker.Since.refl (w : Worker C) (t : List (Exchange Launching)) : w.Since t w :=
  ⟨rfl, rfl, Nat.le_add_right _ _, Nat.le_refl _, .inl⟩

theorem Worker.Since.trans {w w' w'' : Worker C} {t u : List (Exchange Launching)}
    (h : w.Since t w') (h' : w'.Since u w'') : w.Since (t ++ u) w'' where
  command := h'.command.trans h.command
  pid := h'.pid.trans h.pid
  waited_le := by
    have hle := h'.waited_le
    have := h.waited_le
    rw [h.pid] at hle
    rw [waits_append, map_append, count_append]
    omega
  le_waited := Nat.le_trans h.le_waited h'.le_waited
  killed hk := by
    rcases h'.killed hk with hk | hk
    · exact h.killed hk
    · rw [h.command] at hk
      exact .inr hk

theorem Worker.Next.since {w w' : Worker C} {u : List (Exchange Launching)} (h : w.Next u w') :
    w.Since u w' :=
  ⟨h.command, h.pid, h.waited_le, h.le_waited, h.killed⟩

namespace Fleet

def Since (s : Fleet C) (t : List (Exchange Launching)) (s' : Fleet C) : Prop :=
  ∀ (i : Nat) (w : Worker C), s.workers[i]? = some w →
    ∃ w', s'.workers[i]? = some w' ∧ w.Since t w'

theorem Since.refl (s : Fleet C) (t : List (Exchange Launching)) : s.Since t s :=
  fun _ w hw => ⟨w, hw, .refl w t⟩

theorem Since.trans {s s' s'' : Fleet C} {t u : List (Exchange Launching)} (h : s.Since t s')
    (h' : s'.Since u s'') : s.Since (t ++ u) s'' := by
  intro i w hw
  obtain ⟨w', hw', hsince⟩ := h i w hw
  obtain ⟨w'', hw'', hsince'⟩ := h' i w' hw'
  exact ⟨w'', hw'', hsince.trans hsince'⟩

/-- A step of one worker leaves the others as they are. -/
theorem since_put {s : Fleet C} {u : List (Exchange Launching)} {k : Nat}
    (hk : k < s.workers.length) {w' : Worker C} (hn : s.workers[k].Next u w') :
    s.Since u (s.put k w') := by
  intro i w hw
  by_cases hi : k = i
  · subst hi
    rw [getElem?_eq_getElem hk] at hw
    obtain rfl := Option.some.inj hw
    exact ⟨w', getElem?_set_self hk, hn.since⟩
  · exact ⟨w, (getElem?_set_ne hi).trans hw, .refl w u⟩

theorem Moves.since {s s' : Fleet C} (h : Moves s s') : s.Since [] s' := by
  cases h with
  | live i hi alive hl =>
    intro k w hw
    exact since_put hi (Worker.next_live _ _) k w hw
  | die i hi alive status hd => exact since_put hi (Worker.next_die _ alive _)
  | release i hi => exact since_put hi (Worker.next_release _)

theorem Answers.since {s s' : Fleet C} {x : Exchange Launching} (h : Answers s x s') :
    s.Since [x] s' := by
  cases h with
  | start command pid life fresh hb =>
    intro i w hw
    have hi := (List.getElem?_eq_some_iff.mp hw).1
    exact ⟨w, (getElem?_append_left hi).trans hw, .refl w _⟩
  | refuse command cause => exact .refl _ _
  | wait i hi result hx hr => exact since_put hi (Worker.next_wait _ hx hr)
  | other _ hs hw => exact .refl _ _

/-- In a run of any launcher, only what it says of waits makes waits, and a worker is killed only
if its command says so. -/
theorem Reaches.since {α : Type} {start c : Fleet C × Dialogue Launching α}
    {t : List (Exchange Launching)} (h : Reaches start t c) : start.1.Since t c.1 := by
  induction h with
  | start => exact .refl _ _
  | step _ hs ih =>
    refine ih.trans ?_
    cases hs with
    | move d hm => exact hm.since
    | answer k ha => exact ha.since

end Fleet

/-- A worker that no wait was for has not been waited for, and no worker of a launcher is killed. -/
theorem Worker.Since.untouched {w w' : Worker C} {t : List (Exchange Launching)}
    (h : w.Since t w') :
    (w.pid ∉ (waits t).map Prod.fst → w'.waited = w.waited) ∧
      ∀ (options : CollaboratorOptions) (index : Nat), w.command = options.command index →
        w.killed = false → w'.killed = false := by
  constructor
  · intro hno
    have hle := h.waited_le
    rw [count_eq_zero_of_not_mem hno] at hle
    exact Nat.le_antisymm hle h.le_waited
  · intro options index hcommand hk
    by_contra hkilled
    rcases h.killed (by simpa using hkilled) with hk' | hk'
    · rw [hk] at hk'
      cases hk'
    · rw [hcommand] at hk'
      cases hk'

/-- Let the wait for each worker of a list give what its job says. In the order of starting the
workers are waited for from the front of the list. If no wait fails, the report has the outcome of
each of them, in their order, with its own index. If one fails, it is the last, its failure is
reported with its own index, and what was announced are the ends of the workers before it; the
workers after it are not waited for and not killed. -/
theorem waited_in_list_order (jobs : List Job) :
    (∀ js : List Job, starts (js.flatMap awaiting) = [] ∧
      waits (js.flatMap awaiting) = js.map (fun j => (j.child.pid, j.result))) ∧
    ((∀ j ∈ jobs, j.fails = false) → ∀ t v,
      ((Launcher.waitAll (jobs.map Job.child) .spawn).Ends t v ∧ Awaited jobs t) ↔
        t = jobs.flatMap awaiting ∧ ∃ outcomes, v = .ok ⟨outcomes⟩ ∧
          Forall₂ (fun j o => o.child = j.child ∧ j.result = .ok o.status) jobs outcomes) ∧
    ∀ before j after e, jobs = before ++ j :: after → (∀ k ∈ before, k.fails = false) →
      j.result = .error e →
      (∀ t v, ((Launcher.waitAll (jobs.map Job.child) .spawn).Ends t v ∧ Awaited jobs t) ↔
        t = (before ++ [j]).flatMap awaiting ∧ v = .error (.wait j.child.index (.os e))) ∧
      (∃ exits, events ((before ++ [j]).flatMap awaiting) = exits.map Outcome.event ∧
        Forall₂ (fun k o => o.child = k.child ∧ k.result = .ok o.status) before exits) ∧
      ∀ (C : Conduct) (s₀ s : Fleet C) t v,
        Fleet.Reaches (s₀, Launcher.waitAll (jobs.map Job.child) .spawn) t (s, .done v) →
        Awaited jobs t → ∀ (i : Nat) (w : Worker C), s₀.workers[i]? = some w →
          ∃ w' : Worker C, s.workers[i]? = some w' ∧ w'.pid = w.pid ∧
            (w.pid ∉ (before ++ [j]).map (fun k => k.child.pid) → w'.waited = w.waited) ∧
            ∀ (options : CollaboratorOptions) (index : Nat), w.command = options.command index →
              w.killed = false → w'.killed = false := by
  refine ⟨fun js => ⟨starts_awaiting js, waits_awaiting js⟩, ?_, ?_⟩
  · intro hok t v
    rw [waitAll_spawn_iff, Job.upToFailure_of_ok hok,
      (Job.collect_eq_ok_iff jobs _).mpr ⟨hok, rfl⟩]
    simp only [Job.outcomes_iff hok, exists_eq_right]
    exact .rfl
  · rintro before j after e rfl hok he
    have hfirst : (before ++ j :: after).find? Job.fails = some j := by
      have hnone : before.find? Job.fails = none := by simpa using hok
      rw [find?_append, hnone, Option.none_or, find?_cons_of_pos ((j.fails_iff).mpr ⟨e, he⟩)]
    have hends := waitAll_spawn_iff (before ++ j :: after)
    rw [Job.upToFailure_of_failure hok he, Job.collect_eq_error hfirst he] at hends
    refine ⟨hends, ⟨_, ?_, (Job.outcomes_iff hok _).mpr rfl⟩, ?_⟩
    · have hnone : j.outcome? = none := by
        rw [Job.outcome?, Job.outcome_of_error he]
        rfl
      rw [events_awaiting, filterMap_append, filterMap_cons_none hnone, filterMap_nil, append_nil]
    · intro C s₀ s t v h ht i w hw
      -- All that was said is known, so the waits are those up to the failure.
      obtain ⟨rfl, _⟩ := (hends t v).mp ⟨h.follows, ht⟩
      obtain ⟨w', hw', hsince⟩ := h.since i w hw
      obtain ⟨hwaited, hkilled⟩ := hsince.untouched
      refine ⟨w', hw', hsince.pid, fun hno => hwaited ?_, hkilled⟩
      rwa [waits_awaiting, map_map]

/-- Two workers of the same index, and the wait for the second of them fails. -/
theorem waited_in_list_order_second :
    ∃ t, (Launcher.waitAll [⟨5, 7⟩, ⟨5, 8⟩, ⟨0, 9⟩] .spawn).Ends t
        (.error (.wait 5 (.os .noChild))) ∧
      waits t = [(7, .ok (.code 0)), (8, .error .noChild)] ∧
      events t = [.exited 5 7 (.code 0)] := by
  obtain ⟨hwaits, _, hfailed⟩ := waited_in_list_order
    [⟨⟨5, 7⟩, .ok (.code 0)⟩, ⟨⟨5, 8⟩, .error .noChild⟩, ⟨⟨0, 9⟩, .ok (.code 1)⟩]
  obtain ⟨hends, _⟩ := hfailed [⟨⟨5, 7⟩, .ok (.code 0)⟩] ⟨⟨5, 8⟩, .error .noChild⟩
    [⟨⟨0, 9⟩, .ok (.code 1)⟩] .noChild rfl (by decide) rfl
  exact ⟨_, ((hends _ _).mpr ⟨rfl, rfl⟩).1, (hwaits _).2, rfl⟩

end WorkerFleet
