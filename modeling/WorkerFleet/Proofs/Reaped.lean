import Mathlib.Data.List.Nodup
import WorkerFleet.Proofs.Fleet
import WorkerFleet.Proofs.LaunchResult

/-!
# Every worker is reaped once

Whatever workers do and whenever they end, a launch waits at most once for each of them and kills
none. If it gives a report, it started as many as it should, each had ended and was waited for, and
the report says so.

* `Faithful.reaped`: a report and the state of the workers say the same.
* `workers_reaped_once`: so it is at the end of every run.
-/

namespace WorkerFleet

open Dialogue Launching List

variable {C : Conduct}

namespace Launching

/-- A launch starts all workers before it waits for any. -/
theorem phased_of_ends {launcher : Launcher} {count : Nat} {t : List (Exchange Launching)}
    {v : Except LaunchError LaunchReport} (h : (launcher.run count).Ends t v) : Phased t := by
  obtain ⟨t₁, t₂, rfl, hw, hs, _⟩ := ends_run h
  have hw : ∀ x ∈ t₁, wait? x = none := filterMap_eq_nil_iff.mp hw
  have hs : ∀ y ∈ t₂, start? y = none := filterMap_eq_nil_iff.mp hs
  refine pairwise_append.mpr ⟨?_, ?_, ?_⟩
  · refine pairwise_of_forall_mem_list fun x hx y _ hwait => ?_
    rw [hw x hx] at hwait
    cases hwait
  · exact pairwise_of_forall_mem_list fun x _ y hy _ => hs y hy
  · exact fun x _ y hy _ => hs y hy

theorem phased_of_follows {launcher : Launcher} {count : Nat} {t : List (Exchange Launching)}
    {d : Dialogue Launching (Except LaunchError LaunchReport)}
    (h : (launcher.run count).Follows t d) : Phased t := by
  obtain ⟨u, v, hu⟩ := h.completes nonempty_reply
  exact (pairwise_append.mp (phased_of_ends hu)).1

/-- At no moment of a launch has a worker been waited for twice. -/
theorem waits_le_of_follows {launcher : Launcher} {count : Nat} {t : List (Exchange Launching)}
    {d : Dialogue Launching (Except LaunchError LaunchReport)}
    (h : (launcher.run count).Follows t d) : (waits t).map Prod.fst <+~ started (starts t) := by
  obtain ⟨u, v, hu⟩ := h.completes nonempty_reply
  have hle := (launch_of_ends hu).orderly.waits_le
  obtain ⟨t₁, t₂, ht, hw, hs, _⟩ := ends_run hu
  rcases append_eq_append_iff.mp ht with ⟨r, rfl, rfl⟩ | ⟨r, rfl, rfl⟩
  · rw [waits_append, append_eq_nil_iff] at hw
    rw [hw.1]
    exact nil_subperm
  · rw [starts_append, append_eq_nil_iff] at hs
    rw [waits_append, starts_append, hs.2, append_nil, map_append] at hle
    exact (sublist_append_left _ _).subperm.trans hle

theorem commands_of_follows {launcher : Launcher} {count : Nat} {t : List (Exchange Launching)}
    {d : Dialogue Launching (Except LaunchError LaunchReport)}
    (h : (launcher.run count).Follows t d) {p : Command × Pid} (hp : p ∈ enlisted t) :
    ∃ index, p.1 = launcher.options.command index := by
  obtain ⟨u, v, hu⟩ := h.completes nonempty_reply
  have hc := (launch_of_ends hu).orderly.commands
  obtain ⟨a, ha, hap⟩ := mem_filterMap.mp hp
  obtain ⟨pid, _, rfl⟩ := Option.map_eq_some_iff.mp hap
  have hm : a.1 ∈ (starts (t ++ u)).map Prod.fst := by
    rw [starts_append, map_append]
    exact mem_append_left _ (mem_map_of_mem ha)
  rw [hc] at hm
  obtain ⟨index, _, hi⟩ := mem_map.mp hm
  exact ⟨index, hi.symm⟩

theorem enlisted_snd (t : List (Exchange Launching)) :
    (enlisted t).map Prod.snd = started (starts t) := by
  rw [enlisted, started, map_filterMap]
  refine filterMap_congr fun a _ => ?_
  rw [Option.map_map]
  exact Option.map_id'

end Launching

theorem Faithful.pids {s : Fleet C} {t : List (Exchange Launching)} (h : Faithful s t) :
    s.workers.map Worker.pid = started (starts t) := by
  rw [← enlisted_snd, ← h.roster, map_map]
  rfl

/-- The workers are those that were started, in that order. -/
theorem Faithful.workers {s : Fleet C} {t : List (Exchange Launching)} (h : Faithful s t)
    {options : CollaboratorOptions} {pids : List Pid}
    (ha : starts t = attempts options 0 (pids.map .ok)) :
    s.workers.map Worker.pid = pids ∧
      s.workers.map Worker.command = (range pids.length).map options.command := by
  refine ⟨by rw [h.pids, ha, started_pids], ?_⟩
  have he : enlisted t = (pids.zipIdx 0).map fun p => (options.command p.2, p.1) := by
    rw [enlisted, ha, attempts, zipIdx_map, map_map, filterMap_map]
    exact congrFun filterMap_eq_map _
  calc s.workers.map Worker.command
      = (enlisted t).map Prod.fst := by
        rw [← h.roster, map_map]
        rfl
    _ = ((pids.zipIdx 0).map Prod.snd).map options.command := by
        rw [he, map_map, map_map]
        rfl
    _ = (range pids.length).map options.command := by
        rw [zipIdx_map_snd, range_eq_range']

def Worker.outcome? (index : Nat) (w : Worker C) : Option Outcome :=
  w.status.map fun status => ⟨index, w.pid, status⟩

/-- Where process numbers are distinct, the result of a wait for a worker is that of the process
that was started at its index. -/
theorem Faithful.job {s : Fleet C} {t : List (Exchange Launching)} (h : Faithful s t)
    (hnodup : (s.workers.map Worker.pid).Nodup) {j : Job} (hok : j.fails = false)
    (hc : (s.workers.map Worker.pid)[j.child.index]? = some j.child.pid)
    (hw : (j.child.pid, j.result) ∈ waits t) :
    ∃ w status, s.workers[j.child.index]? = some w ∧ j = ⟨⟨j.child.index, w.pid⟩, .ok status⟩ ∧
      w.status = some status ∧ 0 < w.waited := by
  obtain ⟨w, hm, hp, hpos, hst⟩ := h.answered _ hw
  obtain ⟨k, hk, rfl⟩ := getElem_of_mem hm
  have hi : k = j.child.index := by
    have hk' : k < (s.workers.map Worker.pid).length := by simpa using hk
    refine (getElem?_inj hk' hnodup).mp ?_
    rw [hc, getElem?_map, getElem?_eq_getElem hk]
    exact congrArg some hp
  obtain ⟨⟨i, pid⟩, result⟩ := j
  cases result with
  | error e => cases hok
  | ok status =>
    subst hi
    exact ⟨s.workers[k], status, getElem?_eq_getElem hk, by rw [hp], hst status rfl, hpos⟩

def Fleet.outcome? (s : Fleet C) (child : Child) : Option Outcome :=
  s.workers[child.index]?.bind (Worker.outcome? child.index)

theorem Fleet.map_outcome? (s : Fleet C) :
    (crew 0 (s.workers.map Worker.pid)).map s.outcome? = s.workers.mapIdx Worker.outcome? := by
  rw [crew, zipIdx_map, map_map, map_map, mapIdx_eq_zipIdx_map]
  refine map_congr_left fun p hp => ?_
  have hw := mem_zipIdx_iff_getElem?.mp hp
  simp only [Function.comp_apply, Prod.map_snd, id_eq, Fleet.outcome?, hw, Option.bind_some]

/-- Behind a report there is one wait for each worker, which says how its process ended. -/
theorem Faithful.jobs {s : Fleet C} {t : List (Exchange Launching)} (h : Faithful s t)
    (hph : Phased t) {options : CollaboratorOptions} {count : Nat} {report : LaunchReport}
    (hl : Launch options count (starts t) (waits t) (.ok report)) :
    s.workers.map Worker.command = (range count).map options.command ∧
      ∃ finished : List Job, finished.map Job.child ~ crew 0 (s.workers.map Worker.pid) ∧
        report.outcomes ~ finished.filterMap Job.outcome? ∧
        ∀ j ∈ finished, ∃ w status, s.workers[j.child.index]? = some w ∧
          j = ⟨⟨j.child.index, w.pid⟩, .ok status⟩ ∧ w.status = some status ∧ 0 < w.waited := by
  obtain ⟨pids, finished, hn, ha, hw, hc, hok, ho⟩ := hl.report
  obtain ⟨hpids, hcommands⟩ := h.workers ha
  rw [hn] at hcommands
  rw [← hpids] at hc
  refine ⟨hcommands, finished, hc, ho, fun j hj => ?_⟩
  have hm : j.child ∈ crew 0 (s.workers.map Worker.pid) := hc.mem_iff.mp (mem_map_of_mem hj)
  refine h.job (h.distinct hph) (hok j hj) ((mem_crew_iff _ j.child).mp hm) ?_
  rw [hw]
  exact mem_map_of_mem hj

/-- Every worker has ended and was waited for, and the report says how it ended. -/
theorem Faithful.reaped {s : Fleet C} {t : List (Exchange Launching)} (h : Faithful s t)
    (hph : Phased t) {options : CollaboratorOptions} {count : Nat} {report : LaunchReport}
    (hl : Launch options count (starts t) (waits t) (.ok report)) :
    s.workers.map Worker.command = (range count).map options.command ∧
      (∀ w ∈ s.workers, w.status.isSome ∧ 0 < w.waited) ∧
      report.outcomes.map some ~ s.workers.mapIdx Worker.outcome? := by
  obtain ⟨hcommands, finished, hc, ho, hjob⟩ := h.jobs hph hl
  refine ⟨hcommands, ?_, ?_⟩
  · intro w hm
    obtain ⟨i, hi, rfl⟩ := getElem_of_mem hm
    have hchild : (⟨i, s.workers[i].pid⟩ : Child) ∈ crew 0 (s.workers.map Worker.pid) := by
      rw [mem_crew_iff, getElem?_map, getElem?_eq_getElem hi]
      rfl
    obtain ⟨j, hj, hji⟩ := mem_map.mp (hc.mem_iff.mpr hchild)
    obtain ⟨w, status, hwi, _, hst, hpos⟩ := hjob j hj
    rw [hji, getElem?_eq_getElem hi] at hwi
    obtain rfl := Option.some.inj hwi
    exact ⟨by rw [hst]; rfl, hpos⟩
  · have hsay : ∀ j ∈ finished, j.outcome? = s.outcome? j.child ∧ j.outcome?.isSome := by
      intro j hj
      obtain ⟨w, status, hwi, hjw, hst, _⟩ := hjob j hj
      have hout : j.outcome? = some ⟨j.child.index, w.pid, status⟩ := by
        rw [hjw, Job.outcome?_eq_some_iff]
        exact ⟨status, rfl, rfl⟩
      refine ⟨?_, by rw [hout]; rfl⟩
      rw [hout]
      simp only [Fleet.outcome?, hwi, Option.bind_some, Worker.outcome?, hst, Option.map_some]
    calc report.outcomes.map some
        ~ (finished.filterMap Job.outcome?).map some := ho.map some
      _ = finished.map Job.outcome? := by
        rw [map_filterMap_some_eq_filter_map_isSome, filter_eq_self]
        intro o hm
        obtain ⟨j, hj, rfl⟩ := mem_map.mp hm
        exact (hsay j hj).2
      _ = (finished.map Job.child).map s.outcome? := by
        rw [map_map]
        exact map_congr_left fun j hj => (hsay j hj).1
      _ ~ (crew 0 (s.workers.map Worker.pid)).map s.outcome? := hc.map s.outcome?
      _ = s.workers.mapIdx Worker.outcome? := s.map_outcome?

/-- Every worker has the command of its index, and it has ended. -/
theorem Faithful.worker {s : Fleet C} {t : List (Exchange Launching)} (h : Faithful s t)
    (hph : Phased t) {options : CollaboratorOptions} {count : Nat} {report : LaunchReport}
    (hl : Launch options count (starts t) (waits t) (.ok report)) :
    s.workers.length = count ∧ ∀ index w, s.workers[index]? = some w →
      index < count ∧ w.command = options.command index ∧ w.status.isSome := by
  obtain ⟨hcommands, hended, _⟩ := h.reaped hph hl
  have hlen : s.workers.length = count := by
    rw [← length_map (f := Worker.command), hcommands, length_map, length_range]
  refine ⟨hlen, fun index w hw => ?_⟩
  have hlt : index < count := by
    rw [← hlen]
    exact (List.getElem?_eq_some_iff.mp hw).1
  have hcommand : (s.workers.map Worker.command)[index]? = some w.command := by
    rw [getElem?_map, hw]
    rfl
  rw [hcommands, getElem?_map, getElem?_range hlt] at hcommand
  exact ⟨hlt, (Option.some.inj hcommand).symm, (hended w (mem_of_getElem? hw)).1⟩

/-- The launcher is told of a failure just if some worker did not end with exit code 0. -/
theorem Faithful.workerFails_iff {s : Fleet C} {t : List (Exchange Launching)} (h : Faithful s t)
    (hph : Phased t) {options : CollaboratorOptions} {count : Nat} {report : LaunchReport}
    (hl : Launch options count (starts t) (waits t) (.ok report)) :
    WorkerFails (waits t) ↔ ∃ w ∈ s.workers, w.status ≠ some (.code 0) := by
  obtain ⟨_, hended, hreport⟩ := h.reaped hph hl
  have hmem : ∀ outcome, outcome ∈ report.outcomes ↔
      some outcome ∈ s.workers.mapIdx Worker.outcome? := by
    intro outcome
    rw [← hreport.mem_iff, mem_map]
    simp
  rw [← hl.failures_iff, failures_ne_nil_iff]
  constructor
  · rintro ⟨outcome, ho, hs⟩
    obtain ⟨i, hi, hout⟩ := mem_mapIdx.mp ((hmem outcome).mp ho)
    obtain ⟨status, hst, rfl⟩ := Option.map_eq_some_iff.mp hout
    exact ⟨s.workers[i], getElem_mem hi, by simpa [hst] using hs⟩
  · rintro ⟨w, hw, hs⟩
    obtain ⟨i, hi, rfl⟩ := getElem_of_mem hw
    obtain ⟨status, hst⟩ := Option.isSome_iff_exists.mp (hended _ hw).1
    refine ⟨⟨i, s.workers[i].pid, status⟩, (hmem _).mpr (mem_mapIdx.mpr ⟨i, hi, ?_⟩), ?_⟩
    · rw [Worker.outcome?, hst]
      rfl
    · simpa [hst] using hs

/-- A launch kills none of its workers. -/
theorem Faithful.spared {s : Fleet C} {t : List (Exchange Launching)} (h : Faithful s t)
    {launcher : Launcher} {count : Nat} {d : Dialogue Launching (Except LaunchError LaunchReport)}
    (hd : (launcher.run count).Follows t d) : ∀ w ∈ s.workers, w.killed = false := by
  intro w hw
  have hp : (w.command, w.pid) ∈ enlisted t := by
    rw [← h.roster]
    exact mem_map_of_mem hw
  obtain ⟨index, hi⟩ := commands_of_follows hd hp
  by_contra hk
  have hkill := h.killed w hw (by simpa using hk)
  rw [show w.command = launcher.options.command index from hi] at hkill
  cases hkill

/-- At every moment of a launch no worker has been waited for twice and none has been killed. When
it gives a report, it has started as many workers as it should, and each of them has ended and was
waited for once. The report has one outcome for every worker, which says how its process ended. -/
theorem workers_reaped_once (C : Conduct) (common : C.Common) (launcher : Launcher) (count : Nat)
    {t : List (Exchange Launching)} {s : Fleet C}
    {d : Dialogue Launching (Except LaunchError LaunchReport)}
    (h : Fleet.Reaches (Fleet.alone common (launcher.run count)) t (s, d)) :
    (∀ w ∈ s.workers, w.waited ≤ 1 ∧ w.killed = false) ∧
      ∀ report, d = .done (.ok report) →
        s.workers.map Worker.command = (range count).map launcher.options.command ∧
        (∀ w ∈ s.workers, w.status.isSome ∧ w.waited = 1) ∧
        report.outcomes.map some ~ s.workers.mapIdx fun index w =>
          w.status.map fun status => ⟨index, w.pid, status⟩ := by
  have hf := h.faithful
  have hd := h.follows
  have hph := phased_of_follows hd
  have hone : ∀ w ∈ s.workers, w.waited ≤ 1 := by
    intro w hw
    have hle := waits_le_of_follows hd
    rw [← hf.pids] at hle
    calc w.waited
        ≤ ((waits t).map Prod.fst).count w.pid := hf.waited_le w hw
      _ ≤ (s.workers.map Worker.pid).count w.pid := hle.count_le w.pid
      _ ≤ 1 := nodup_iff_count_le_one.mp (hf.distinct hph) w.pid
  refine ⟨fun w hw => ⟨hone w hw, hf.spared hd w hw⟩, ?_⟩
  rintro report rfl
  obtain ⟨hcommands, hended, hreport⟩ := hf.reaped hph (launch_of_ends hd)
  refine ⟨hcommands, ?_, hreport⟩
  intro w hw
  obtain ⟨hs, hpos⟩ := hended w hw
  have hle := hone w hw
  exact ⟨hs, by omega⟩

def together : Launcher := ⟨⟨.ofText "worker", [], none⟩, .completion⟩

/-- The second worker is killed by someone, and the first one ends after that. -/
theorem workers_reaped_once_crossed :
    ∃ t s report, Fleet.Reaches (Fleet.alone (C := Conduct.free) () (together.run 2)) t
        (s, .done (.ok report)) ∧
      report.outcomes = [⟨1, 8, .signal ⟨9⟩⟩, ⟨0, 7, .code 3⟩] ∧
      ∀ w ∈ s.workers, w.status.isSome ∧ w.waited = 1 ∧ w.killed = false := by
  have h : Fleet.Reaches (Fleet.alone (C := Conduct.free) () (together.run 2)) _ _ :=
    .step .start (.answer _ (.start _ _ 7 () (by simp) trivial))
  have h := h.step (.answer _ (.other _ ⟨.announce (.started 0 7), ()⟩ rfl rfl))
  have h := h.step (.answer _ (.start _ _ 8 () (by simp) trivial))
  have h := h.step (.answer _ (.other _ ⟨.announce (.started 1 8), ()⟩ rfl rfl))
  have h := h.step (.move _ (.die _ 1 (by decide) rfl (.signal ⟨9⟩) trivial))
  have h := h.step (.answer _ (.reap _ ⟨.turn [7, 8] 0 (by decide), .finish 1 (.ok (.signal ⟨9⟩))⟩
    1 (by decide) _ rfl rfl))
  have h := h.step (.answer _ (.other _ ⟨.announce (.exited 1 8 (.signal ⟨9⟩)), ()⟩ rfl rfl))
  have h := h.step (.move _ (.die _ 0 (by decide) rfl (.code 3) trivial))
  have h := h.step (.answer _ (.other _ ⟨.turn [7] 1 (by decide), .collect 0⟩ rfl rfl))
  have h := h.step (.answer _ (.reap _ ⟨.turn [7] 0 (by decide), .finish 0 (.ok (.code 3))⟩
    0 (by decide) _ rfl rfl))
  have h := h.step (.answer _ (.other _ ⟨.announce (.exited 0 7 (.code 3)), ()⟩ rfl rfl))
  have h := h.step (.answer _ (.other _ ⟨.turn [] 1 (by decide), .collect 0⟩ rfl rfl))
  obtain ⟨hone, hreport⟩ := workers_reaped_once Conduct.free () together 2 h
  obtain ⟨_, hended, _⟩ := hreport ⟨[⟨1, 8, .signal ⟨9⟩⟩, ⟨0, 7, .code 3⟩]⟩ rfl
  exact ⟨_, _, _, h, rfl, fun w hw => ⟨(hended w hw).1, (hended w hw).2, (hone w hw).2⟩⟩

end WorkerFleet
