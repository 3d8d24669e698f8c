import WorkerFleet.Proofs.Course
import WorkerFleet.Proofs.Reaped

/-!
# The events of a launch tell the truth

First every start is announced, in the order of the indices, and then every end of a worker that
the launcher was told of, each once and with the status of that very worker.

* `Step.heard`, `Course.heard`: what was said up to a stage agrees with what the launch holds there.
* `Faithful.exits`: an announced end is that of the worker that was started at its index.
* `events_truthful`: so it is in every run, and no outcome is collected before it was announced.
-/

namespace WorkerFleet

open Dialogue Launching List

def Child.event (child : Child) : Event := .started child.index child.pid

def Outcome.event (outcome : Outcome) : Event := .exited outcome.index outcome.pid outcome.status

def Outcome.child (outcome : Outcome) : Child := ⟨outcome.index, outcome.pid⟩

namespace Launching

/-- What was said: these workers were started, and then these waits for them came to an end. -/
structure Heard (t : List (Exchange Launching)) (crew : List Child) (finished : List Job) :
    Prop where
  crew_eq : crew = Launching.crew 0 (started (starts t))
  waits : waits t = finished.map fun j => (j.child.pid, j.result)
  events : events t = crew.map Child.event ++ (finished.filterMap Job.outcome?).map Outcome.event
  finished_le : finished.map Job.child <+~ crew

/-- What a stage holds, given all workers and the waits that came to an end. -/
inductive Tally (order : WaitOrder) (crew : List Child) (finished : List Job) : Stage → Prop
  | starting (hf : finished = []) : Tally order crew finished (.starting crew)
  | waiting {children : List Child} {ready collected : List Job}
      (hc : finished.map Job.child ++ children ~ crew) (hr : ready ++ collected ~ finished)
      (hok : ∀ j ∈ collected, j.fails = false)
      (ho : order = .spawn → ready = [] ∧ collected = finished) :
      Tally order crew finished (.waiting children ready (collected.filterMap Job.outcome?))
  | unstarted {index : Nat} {program : OsString} {cause : Cause} (hf : finished = []) :
      Tally order crew finished (.ended (.error (.spawn index program cause)))
  | lost {index : Nat} {cause : Cause} :
      Tally order crew finished (.ended (.error (.wait index cause)))
  | reported {collected : List Job} (hc : finished.map Job.child ~ crew)
      (hr : collected ~ finished) (hok : ∀ j ∈ collected, j.fails = false)
      (ho : order = .spawn → collected = finished) :
      Tally order crew finished (.ended (.ok ⟨collected.filterMap Job.outcome?⟩))

section

variable {t : List (Exchange Launching)} {crew : List Child} {finished : List Job}

theorem starts_announcing (j : Job) : starts (announcing j) = [] := by
  rw [announcing]
  cases j.result <;> rfl

theorem waits_announcing (j : Job) : waits (announcing j) = [] := by
  rw [announcing]
  cases j.result <;> rfl

theorem events_announcing (j : Job) :
    events (announcing j) = ([j].filterMap Job.outcome?).map Outcome.event := by
  obtain ⟨child, result⟩ := j
  cases result <;> rfl

/-- The end of a wait is neither a start nor an announcement. -/
theorem only_wait {x : Exchange Launching} {wait : Pid × Except OsError ExitStatus}
    (hx : wait? x = some wait) : start? x = none ∧ event? x = none := by
  obtain ⟨r, reply⟩ := x
  cases r with
  | start command => cases hx
  | await pid => exact ⟨rfl, rfl⟩
  | turn pids ready busy => exact ⟨rfl, rfl⟩
  | announce event => cases hx

theorem heard_nil : Heard [] [] [] := ⟨rfl, rfl, rfl, .refl _⟩

namespace Heard

/-- Another worker was started. -/
theorem start (h : Heard t crew []) (command : Command) (pid : Pid) :
    Heard (t ++ [⟨.start command, .ok pid⟩, ⟨.announce (.started crew.length pid), ()⟩])
      (crew ++ [⟨crew.length, pid⟩]) [] where
  crew_eq := by
    have hlen : crew.length = (started (starts t)).length := by
      rw [h.crew_eq, crew_length]
    rw [starts_append, started_append, starts_start, starts_announce, hlen]
    exact (congrArg (· ++ _) h.crew_eq).trans (crew_concat _ _).symm
  waits := by simpa using h.waits
  events := by simpa [Child.event] using h.events
  finished_le := nil_subperm

theorem refuse (h : Heard t crew finished) (command : Command) (cause : Cause) :
    Heard (t ++ [⟨.start command, .error cause⟩]) crew finished where
  crew_eq := by
    rw [starts_append, started_append]
    exact h.crew_eq.trans (congrArg (Launching.crew 0) (append_nil _).symm)
  waits := by
    rw [waits_append, waits_start, waits_nil, append_nil]
    exact h.waits
  events := by
    rw [events_append, events_start, events_nil, append_nil]
    exact h.events
  finished_le := h.finished_le

/-- Another wait came to an end, and what there is to announce of it was announced. -/
theorem finish (h : Heard t crew finished) {x : Exchange Launching} {j : Job}
    (hx : wait? x = some (j.child.pid, j.result))
    (hle : (finished ++ [j]).map Job.child <+~ crew) :
    Heard (t ++ x :: announcing j) crew (finished ++ [j]) := by
  obtain ⟨hs, he⟩ := only_wait hx
  refine ⟨?_, ?_, ?_, hle⟩
  · have hnone : starts (x :: announcing j) = [] := by
      rw [starts, filterMap_cons_none hs]
      exact starts_announcing j
    rw [starts_append, hnone, append_nil]
    exact h.crew_eq
  · have hone : Launching.waits (x :: announcing j) = [(j.child.pid, j.result)] := by
      rw [Launching.waits, filterMap_cons_some hx]
      exact congrArg _ (waits_announcing j)
    rw [waits_append, hone, h.waits, map_append, map_singleton]
  · have hsame : Launching.events (x :: announcing j) = Launching.events (announcing j) := by
      rw [Launching.events, filterMap_cons_none he]
      rfl
    rw [events_append, hsame, events_announcing, h.events, append_assoc, ← map_append,
      ← filterMap_append]

/-- A result was collected, of which nothing is said. -/
theorem collect (h : Heard t crew finished) (pids : List Pid) (ready : Nat)
    (busy : 0 < pids.length + ready) (i : Fin ready) :
    Heard (t ++ [⟨.turn pids ready busy, .collect i⟩]) crew finished := by
  refine ⟨?_, ?_, ?_, h.finished_le⟩
  · simpa using h.crew_eq
  · simpa using h.waits
  · simpa using h.events

end Heard

/-- One of the workers is not waited for any more. -/
theorem finished_perm (children : List Child) (i : Nat) (hi : i < children.length)
    (result : Except OsError ExitStatus) :
    (finished ++ [(⟨children[i], result⟩ : Job)]).map Job.child ++ children.eraseIdx i ~
      finished.map Job.child ++ children := by
  rw [map_append, append_assoc]
  exact (getElem_cons_eraseIdx_perm hi).append_left _

/-- Another outcome was collected. -/
theorem collected_concat {collected : List Job} (hok : ∀ j ∈ collected, j.fails = false) {j : Job}
    {outcome : Outcome} (ho : j.outcome = .ok outcome) :
    (collected ++ [j]).filterMap Job.outcome? = collected.filterMap Job.outcome? ++ [outcome] ∧
      ∀ k ∈ collected ++ [j], k.fails = false := by
  constructor
  · rw [filterMap_append, filterMap_cons_some (Job.outcome?_of_outcome ho), filterMap_nil]
  · intro k hk
    rcases mem_append.mp hk with hk | hk
    · exact hok k hk
    · rw [mem_singleton.mp hk]
      exact Job.fails_of_outcome ho

variable {launcher : Launcher} {count : Nat} {u : List (Exchange Launching)} {stage stage' : Stage}

/-- A step is heard of, and adds to what the launch holds just what was heard. -/
theorem Step.heard (hs : Step launcher count stage u stage') (h : Heard t crew finished)
    (hy : Tally launcher.waitOrder crew finished stage) :
    ∃ crew' finished', Heard (t ++ u) crew' finished' ∧
      Tally launcher.waitOrder crew' finished' stage' := by
  cases hs with
  | start hlt pid =>
    cases hy with
    | starting hf =>
      subst hf
      exact ⟨_, [], h.start _ pid, .starting rfl⟩
  | refuse hlt cause =>
    cases hy with
    | starting hf => exact ⟨crew, finished, h.refuse _ cause, .unstarted hf⟩
  | wait hlen =>
    cases hy with
    | starting hf =>
      subst hf
      rw [append_nil]
      have hnone : ∀ j ∈ ([] : List Job), j.fails = false := nofun
      exact ⟨crew, [], h, .waiting (.refl _) .nil hnone fun _ => ⟨rfl, rfl⟩⟩
  | reap horder child children outcomes result ho =>
    cases hy with
    | @waiting _ _ collected hc hr hok hsame =>
      -- In the order of starting nothing lies ready: what has finished has been collected.
      obtain ⟨_, hall⟩ := hsame horder
      rw [hall] at hok ⊢
      have hc' := (finished_perm (child :: children) 0 (by simp) result).trans hc
      obtain ⟨hout, hok'⟩ := collected_concat hok ho
      rw [← hout]
      refine ⟨crew, finished ++ [⟨child, result⟩], h.finish rfl ?_,
        .waiting hc' (.refl _) hok' fun _ => ⟨rfl, rfl⟩⟩
      exact (sublist_append_left _ _).subperm.trans hc'.subperm
  | lose horder child children outcomes result he =>
    obtain ⟨c, _, rfl⟩ := Job.outcome_error he
    cases hy with
    | waiting hc hr hok hsame =>
      have hc' := (finished_perm (child :: children) 0 (by simp) result).trans hc
      refine ⟨crew, finished ++ [⟨child, result⟩], h.finish rfl ?_, .lost⟩
      exact (sublist_append_left _ _).subperm.trans hc'.subperm
  | finish horder children ready outcomes busy i hi result =>
    cases hy with
    | @waiting _ _ collected hc hr hok hsame =>
      have hc' := (finished_perm children i hi result).trans hc
      have hx : wait? ⟨.turn (children.map (·.pid)) (ready.map Job.outcome).length busy,
          .finish i result⟩ = some (children[i].pid, result) := by
        simp [wait?]
      refine ⟨crew, finished ++ [⟨children[i], result⟩], h.finish hx ?_, .waiting hc' ?_ hok ?_⟩
      · exact (sublist_append_left _ _).subperm.trans hc'.subperm
      · calc ready ++ [⟨children[i], result⟩] ++ collected
            ~ ready ++ collected ++ [⟨children[i], result⟩] := by
              rw [append_assoc, append_assoc]
              exact perm_append_comm.append_left ready
          _ ~ finished ++ [⟨children[i], result⟩] := hr.append_right _
      · rw [horder]
        exact nofun
  | collect horder children ready outcomes busy i hi ho =>
    cases hy with
    | @waiting _ _ collected hc hr hok hsame =>
      -- The result lay ready, so its end has been announced already.
      obtain ⟨hout, hok'⟩ := collected_concat hok ho
      rw [← hout]
      refine ⟨crew, finished, h.collect _ _ busy i, .waiting hc ?_ hok' ?_⟩
      · calc ready.eraseIdx i ++ (collected ++ [ready[i]])
            ~ ready[i] :: ready.eraseIdx i ++ collected := by
              rw [← append_assoc]
              exact perm_append_singleton _ _
          _ ~ ready ++ collected := (getElem_cons_eraseIdx_perm hi).append_right _
          _ ~ finished := hr
      · rw [horder]
        exact nofun
  | fail horder children ready outcomes busy i hi he =>
    obtain ⟨c, _, rfl⟩ := Job.outcome_error he
    exact ⟨crew, finished, h.collect _ _ busy i, .lost⟩
  | report outcomes =>
    cases hy with
    | waiting hc hr hok hsame =>
      rw [append_nil] at hc ⊢
      exact ⟨crew, finished, h, .reported hc hr hok fun horder => (hsame horder).2⟩

/-- At every stage, what the launch holds agrees with what was said. -/
theorem Course.heard (h : Course launcher count t stage) :
    ∃ crew finished, Heard t crew finished ∧ Tally launcher.waitOrder crew finished stage := by
  induction h with
  | start => exact ⟨[], [], heard_nil, .starting rfl⟩
  | step _ hs ih =>
    obtain ⟨crew, finished, hheard, hy⟩ := ih
    exact hs.heard hheard hy

theorem Tally.outcomes_subset {order : WaitOrder} (hy : Tally order crew finished stage) :
    stage.outcomes ⊆ finished.filterMap Job.outcome? := by
  cases hy with
  | starting hf => exact nil_subset _
  | waiting hc hr hok hsame =>
    exact Subset.trans (filterMap_subset _ (subset_append_right _ _)) (hr.filterMap _).subset
  | unstarted hf => exact nil_subset _
  | lost => exact nil_subset _
  | reported hc hr hok hsame => exact (hr.filterMap _).subset

/-- No outcome is collected before it was announced. -/
theorem Course.announced (h : Course launcher count t stage) {outcome : Outcome}
    (ho : outcome ∈ stage.outcomes) : outcome.event ∈ events t := by
  obtain ⟨crew, finished, hheard, hy⟩ := h.heard
  rw [hheard.events]
  exact mem_append_right _ (mem_map_of_mem (hy.outcomes_subset ho))

/-- The workers whose ends were announced are those whose waits did not fail. -/
theorem exits_children (finished : List Job) :
    (finished.filterMap Job.outcome?).map Outcome.child =
      (finished.filter fun j => !j.fails).map Job.child := by
  induction finished with
  | nil => rfl
  | cons j finished ih =>
    obtain ⟨child, result⟩ := j
    cases result with
    | error e => exact ih
    | ok status => exact congrArg (child :: ·) ih

theorem exits_indices (finished : List Job) :
    (finished.filterMap Job.outcome?).map Outcome.index =
      ((finished.filter fun j => !j.fails).map Job.child).map Child.index := by
  rw [← exits_children, map_map]
  rfl

namespace Heard

theorem nodup_indices (h : Heard t crew finished) :
    ((finished.map Job.child).map Child.index).Nodup := by
  obtain ⟨children, hp, hs⟩ := h.finished_le
  have hcrew : (crew.map Child.index).Nodup := by
    rw [h.crew_eq, crew_indices]
    exact nodup_range
  exact (hp.map _).nodup ((hs.map _).nodup hcrew)

/-- No end is announced twice. -/
theorem nodup_exits (h : Heard t crew finished) :
    ((finished.filterMap Job.outcome?).map Outcome.index).Nodup := by
  rw [exits_indices]
  exact ((filter_sublist.map _).map _).nodup h.nodup_indices

/-- An end is announced only of a worker that was started. -/
theorem exits_subset (h : Heard t crew finished) :
    (finished.filterMap Job.outcome?).map Outcome.child ⊆ crew := by
  rw [exits_children]
  exact Subset.trans (filter_sublist.map _).subset h.finished_le.subset

/-- There is one wait for a worker. -/
theorem eq_of_index (h : Heard t crew finished) {j k : Job} (hj : j ∈ finished) (hk : k ∈ finished)
    (hi : j.child.index = k.child.index) : j = k := by
  have hn := h.nodup_indices
  rw [map_map] at hn
  exact inj_on_of_nodup_map hn hj hk hi

/-- Where the wait for a worker failed, no end of it is announced. -/
theorem silent (h : Heard t crew finished) {j : Job} (hj : j ∈ finished) (hf : j.fails = true) :
    j.child.index ∉ (finished.filterMap Job.outcome?).map Outcome.index := by
  rw [exits_indices]
  intro hm
  obtain ⟨child, hc, hi⟩ := mem_map.mp hm
  obtain ⟨k, hk, rfl⟩ := mem_map.mp hc
  obtain ⟨hk, hkf⟩ := mem_filter.mp hk
  rw [h.eq_of_index hk hj hi, hf] at hkf
  cases hkf

end Heard

/-- After a failed start there was no wait. -/
theorem Tally.of_unstarted {order : WaitOrder} {index : Nat} {program : OsString} {cause : Cause}
    (hy : Tally order crew finished (.ended (.error (.spawn index program cause)))) :
    finished = [] := by
  cases hy with
  | unstarted hf => exact hf

/-- A report is one of all workers, and there is an announcement for every one of them. -/
theorem Tally.of_reported {order : WaitOrder} {report : LaunchReport}
    (hy : Tally order crew finished (.ended (.ok report))) :
    (finished.filterMap Job.outcome?).map Outcome.child ~ crew ∧
      finished.filterMap Job.outcome? ~ report.outcomes ∧
      (order = .spawn → finished.filterMap Job.outcome? = report.outcomes) := by
  cases hy with
  | @reported collected hc hr hok ho =>
    have hall : (finished.filter fun j => !j.fails) = finished := by
      refine filter_eq_self.mpr fun j hj => ?_
      rw [hok j (hr.mem_iff.mpr hj)]
      rfl
    refine ⟨?_, (hr.filterMap _).symm, fun horder => ?_⟩
    · rw [exits_children, hall]
      exact hc
    · rw [ho horder]

end

end Launching

variable {C : Conduct} {s : Fleet C} {t : List (Exchange Launching)} {crew : List Child}
  {finished : List Job}

theorem Faithful.crew_eq (h : Faithful s t) (hh : Heard t crew finished) :
    crew = Launching.crew 0 (s.workers.map Worker.pid) := by
  rw [hh.crew_eq, h.pids]

/-- A worker that was waited for stands at its index. -/
theorem Faithful.child (h : Faithful s t) (hh : Heard t crew finished) {j : Job}
    (hj : j ∈ finished) : (s.workers.map Worker.pid)[j.child.index]? = some j.child.pid := by
  rw [← mem_crew_iff, ← h.crew_eq hh]
  exact hh.finished_le.subset (mem_map_of_mem hj)

/-- An end that was announced is that of the worker that was started at its index. -/
theorem Faithful.exits (h : Faithful s t) (hh : Heard t crew finished)
    (hnodup : (s.workers.map Worker.pid).Nodup) {outcome : Outcome}
    (ho : outcome ∈ finished.filterMap Job.outcome?) :
    ∃ w, s.workers[outcome.index]? = some w ∧ w.pid = outcome.pid ∧
      w.status = some outcome.status := by
  obtain ⟨j, hj, ho⟩ := mem_filterMap.mp ho
  obtain ⟨status, hr, rfl⟩ := (j.outcome?_eq_some_iff _).mp ho
  have hok : j.fails = false := by
    rw [Job.fails, hr]
  have hw : (j.child.pid, j.result) ∈ waits t := by
    rw [hh.waits]
    exact mem_map_of_mem hj
  obtain ⟨w, status', hwi, hjw, hst, _⟩ := h.job hnodup hok (h.child hh hj) hw
  rw [hjw] at hr ⊢
  exact ⟨w, hwi, rfl, by rw [hst, Except.ok.inj hr]⟩

/-- How the end of a worker is announced. -/
theorem Outcome.announcement (o : Outcome) :
    (o.event.level, o.event.message) =
      if o.status = .code 0 then (.debug, "collaborator exited")
      else (.info, "collaborator exited unsuccessfully") := by
  simp only [Outcome.event, Event.level, Event.message, isSuccess_iff]
  split <;> rfl

/-- What a launch announces is first the start of every worker that was started, by their indices,
and then the end of each of them whose wait did not fail, once and with its own status. Of a report
every outcome was announced, in the order of starting just as it stands there; after a failed start
no end is announced. On the way, no outcome is collected before it was announced. -/
theorem events_truthful (launcher : Launcher) (count : Nat) {t : List (Exchange Launching)}
    {v : Except LaunchError LaunchReport} (h : (launcher.run count).Ends t v) :
    ∃ (crew : List Child) (finished : List Job) (exits : List Outcome),
      Heard t crew finished ∧ exits = finished.filterMap Job.outcome? ∧
      events t = crew.map Child.event ++ exits.map Outcome.event ∧
      crew.map Child.index = range crew.length ∧ (exits.map Outcome.index).Nodup ∧
      (∀ o ∈ exits, o.child ∈ crew ∧ (o.event.level, o.event.message) =
        if o.status = .code 0 then (.debug, "collaborator exited")
        else (.info, "collaborator exited unsuccessfully")) ∧
      (∀ j ∈ finished, j.fails = true → j.child.index ∉ exits.map Outcome.index) ∧
      (∀ report, v = .ok report →
        crew.length = count ∧ exits.map Outcome.index ~ range count ∧ exits ~ report.outcomes ∧
        (launcher.waitOrder = .spawn → exits = report.outcomes)) ∧
      (∀ index program cause, v = .error (.spawn index program cause) → exits = []) ∧
      Course launcher count t (.ended v) ∧
      (∀ t' stage, Course launcher count t' stage →
        (launcher.run count).Follows t' (stage.rest launcher count) ∧
        ∀ o ∈ stage.outcomes, o.event ∈ events t') ∧
      ∀ (C : Conduct) (common : C.Common) (s : Fleet C),
        Fleet.Reaches (Fleet.alone common (launcher.run count)) t (s, .done v) →
        s.workers.map Worker.pid = crew.map Child.pid ∧
        ∀ o ∈ exits, ∃ w, s.workers[o.index]? = some w ∧ w.pid = o.pid ∧
          w.status = some o.status := by
  have hcourse := course_of_ends h
  obtain ⟨crew, finished, hheard, hy⟩ := hcourse.heard
  have hindices : crew.map Child.index = range crew.length := by
    rw [hheard.crew_eq, crew_indices, crew_length]
  refine ⟨crew, finished, _, hheard, rfl, hheard.events, hindices, hheard.nodup_exits, ?_,
    fun j hj hf => hheard.silent hj hf, ?_, ?_, hcourse,
    fun t' stage hc => ⟨hc.follows, fun o ho => hc.announced ho⟩, ?_⟩
  · exact fun o ho => ⟨hheard.exits_subset (mem_map_of_mem ho), o.announcement⟩
  · rintro report rfl
    obtain ⟨hchildren, hout, hsame⟩ := hy.of_reported
    obtain ⟨pids, _, hn, ha, _⟩ := (launch_of_ends h).report
    have hlen : crew.length = count := by
      rw [hheard.crew_eq, crew_length, ha, started_pids, hn]
    have hall := hchildren.map Child.index
    rw [map_map, hindices, hlen] at hall
    exact ⟨hlen, hall, hout, hsame⟩
  · rintro index program cause rfl
    rw [hy.of_unstarted]
    rfl
  · intro C common s hs
    have hf := hs.faithful
    refine ⟨?_, fun o ho => hf.exits hheard (hf.distinct (phased_of_ends h)) ho⟩
    rw [hf.crew_eq hheard, crew_pids]

/-- The wait for the second worker fails, and the first one ends before that is noticed. -/
theorem events_truthful_lost :
    ∃ t s, Fleet.Reaches (Fleet.alone (C := Conduct.free) () (together.run 2)) t
        (s, .done (.error (.wait 1 (.os .noChild)))) ∧
      events t = [.started 0 7, .started 1 8, .exited 0 7 (.code 3)] ∧
      ∃ w, s.workers[0]? = some w ∧ w.pid = 7 ∧ w.status = some (.code 3) := by
  have h : Fleet.Reaches (Fleet.alone (C := Conduct.free) () (together.run 2)) _ _ :=
    .step .start (.answer _ (.start _ _ 7 () (by simp) trivial))
  have h := h.step (.answer _ (.other _ ⟨.announce (.started 0 7), ()⟩ rfl rfl))
  have h := h.step (.answer _ (.start _ _ 8 () (by simp) trivial))
  have h := h.step (.answer _ (.other _ ⟨.announce (.started 1 8), ()⟩ rfl rfl))
  have h := h.step (.answer _ (.wait _ (x := ⟨.turn [7, 8] 0 (by decide),
    .finish 1 (.error .noChild)⟩) 1 (by decide) (.error .noChild) rfl nofun))
  have h := h.step (.move _ (.die _ 0 (by decide) rfl (.code 3) trivial))
  have h := h.step (.answer _ (.reap _ ⟨.turn [7] 1 (by decide), .finish 0 (.ok (.code 3))⟩
    0 (by decide) _ rfl rfl))
  have h := h.step (.answer _ (.other _ ⟨.announce (.exited 0 7 (.code 3)), ()⟩ rfl rfl))
  have h := h.step (.answer _ (.other _ ⟨.turn [] 2 (by decide), .collect 0⟩ rfl rfl))
  obtain ⟨crew, _, exits, _, _, he, _, _, _, _, _, _, _, _, hfleet⟩ :=
    events_truthful together 2 h.follows
  have he : [.started 0 7, .started 1 8, .exited 0 7 (.code 3)] =
      crew.map Child.event ++ exits.map Outcome.event := he
  have hone : Event.exited 0 7 (.code 3) ∈ crew.map Child.event ++ exits.map Outcome.event := by
    rw [← he]
    decide
  refine ⟨_, _, h, rfl, ?_⟩
  rcases mem_append.mp hone with hm | hm
  · obtain ⟨child, _, hc⟩ := mem_map.mp hm
    cases hc
  · obtain ⟨⟨index, pid, status⟩, ho, hc⟩ := mem_map.mp hm
    cases hc
    exact (hfleet _ _ _ h).2 _ ho

end WorkerFleet
