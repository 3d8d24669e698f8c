import WorkerFleet.Proofs.Launching

/-!
# The course of a launch

A launch goes from stage to stage: it starts one worker after the other, waits for them, and ends.
A stage shows what the launch holds at that moment, among it the outcomes it has collected so far.

* `Stage.rest`: what is left of a launch at a stage.
* `Course.follows`: every stage of a course is one of the launch.
* `course_of_ends`: a launch that has ended has run such a course.
-/

namespace WorkerFleet.Launching

open Dialogue List

inductive Stage
  /-- These workers have been started. -/
  | starting (children : List Child)
  /-- These workers are waited for, results lie ready, and outcomes have been collected. -/
  | waiting (children : List Child) (ready : List Job) (outcomes : List Outcome)
  | ended (result : Except LaunchError LaunchReport)

def Stage.outcomes : Stage → List Outcome
  | .starting _ => []
  | .waiting _ _ outcomes => outcomes
  | .ended (.ok report) => report.outcomes
  | .ended (.error _) => []

/-- What is announced when the wait for a worker is over. -/
def announcing (j : Job) : List (Exchange Launching) :=
  match j.result with
  | .error _ => []
  | .ok status => [⟨.announce (.exited j.child.index j.child.pid status), ()⟩]

section

variable (launcher : Launcher) (count : Nat)

/-- What is left of waiting for these workers while results lie ready. -/
def remaining (children : List Child) (ready : List Job) :
    Dialogue Launching (Except LaunchError (List Outcome)) :=
  match launcher.waitOrder with
  | .spawn => Launcher.waitInOrder children
  | .completion =>
    Launcher.waitTogether (2 * children.length + ready.length) children (ready.map Job.outcome)

/-- What is left of a launch. The outcomes that were collected come first in its report. -/
def Stage.rest : Stage → Dialogue Launching (Except LaunchError LaunchReport)
  | .starting children =>
    (Launcher.startFrom launcher.options (count - children.length) children.length).bind fun
      | .error e => .done (.error e)
      | .ok more => Launcher.waitAll (children ++ more) launcher.waitOrder
  | .waiting children ready outcomes =>
    (remaining launcher children ready).bind fun later =>
      .done ((later.map (outcomes ++ ·)).map LaunchReport.mk)
  | .ended result => .done result

/-- What can happen from one stage to the next, and what is said meanwhile. -/
inductive Step : Stage → List (Exchange Launching) → Stage → Prop
  | start {children : List Child} (h : children.length < count) (pid : Pid) :
      Step (.starting children)
        [⟨.start (launcher.options.command children.length), .ok pid⟩,
          ⟨.announce (.started children.length pid), ()⟩]
        (.starting (children ++ [⟨children.length, pid⟩]))
  | refuse {children : List Child} (h : children.length < count) (cause : Cause) :
      Step (.starting children)
        [⟨.start (launcher.options.command children.length), .error cause⟩]
        (.ended (.error (.spawn children.length launcher.options.program cause)))
  | wait {children : List Child} (h : children.length = count) :
      Step (.starting children) [] (.waiting children [] [])
  /-- In the order of starting, a result is collected as soon as it is there. -/
  | reap (h : launcher.waitOrder = .spawn) (child : Child) (children : List Child)
      (outcomes : List Outcome) (result : Except OsError ExitStatus) {outcome : Outcome}
      (ho : Job.outcome ⟨child, result⟩ = .ok outcome) :
      Step (.waiting (child :: children) [] outcomes)
        (⟨.await child.pid, result⟩ :: announcing ⟨child, result⟩)
        (.waiting children [] (outcomes ++ [outcome]))
  | lose (h : launcher.waitOrder = .spawn) (child : Child) (children : List Child)
      (outcomes : List Outcome) (result : Except OsError ExitStatus) {e : LaunchError}
      (he : Job.outcome ⟨child, result⟩ = .error e) :
      Step (.waiting (child :: children) [] outcomes)
        (⟨.await child.pid, result⟩ :: announcing ⟨child, result⟩) (.ended (.error e))
  /-- Together, a result lies ready until it is collected. -/
  | finish (h : launcher.waitOrder = .completion) (children : List Child) (ready : List Job)
      (outcomes : List Outcome)
      (busy : 0 < (children.map (·.pid)).length + (ready.map Job.outcome).length)
      (i : Fin (children.map (·.pid)).length) (hi : i < children.length)
      (result : Except OsError ExitStatus) :
      Step (.waiting children ready outcomes)
        (⟨.turn (children.map (·.pid)) (ready.map Job.outcome).length busy, .finish i result⟩ ::
          announcing ⟨children[i], result⟩)
        (.waiting (children.eraseIdx i) (ready ++ [⟨children[i], result⟩]) outcomes)
  | collect (h : launcher.waitOrder = .completion) (children : List Child) (ready : List Job)
      (outcomes : List Outcome)
      (busy : 0 < (children.map (·.pid)).length + (ready.map Job.outcome).length)
      (i : Fin (ready.map Job.outcome).length) (hi : i < ready.length) {outcome : Outcome}
      (ho : ready[i].outcome = .ok outcome) :
      Step (.waiting children ready outcomes)
        [⟨.turn (children.map (·.pid)) (ready.map Job.outcome).length busy, .collect i⟩]
        (.waiting children (ready.eraseIdx i) (outcomes ++ [outcome]))
  | fail (h : launcher.waitOrder = .completion) (children : List Child) (ready : List Job)
      (outcomes : List Outcome)
      (busy : 0 < (children.map (·.pid)).length + (ready.map Job.outcome).length)
      (i : Fin (ready.map Job.outcome).length) (hi : i < ready.length) {e : LaunchError}
      (he : ready[i].outcome = .error e) :
      Step (.waiting children ready outcomes)
        [⟨.turn (children.map (·.pid)) (ready.map Job.outcome).length busy, .collect i⟩]
        (.ended (.error e))
  | report (outcomes : List Outcome) : Step (.waiting [] [] outcomes) [] (.ended (.ok ⟨outcomes⟩))

/-- The stages of a launch, with all that was said up to each of them. -/
inductive Course : List (Exchange Launching) → Stage → Prop
  | start : Course [] (.starting [])
  | step {t u : List (Exchange Launching)} {stage stage' : Stage} (h : Course t stage)
      (hs : Step launcher count stage u stage') : Course (t ++ u) stage'

end

variable {launcher : Launcher} {count : Nat}

theorem rest_start (launcher : Launcher) (count : Nat) :
    (Stage.starting []).rest launcher count = launcher.run count := by
  rw [Stage.rest, Launcher.run, Launcher.spawnAll, bind_eq]
  refine congrArg _ (funext fun started => ?_)
  cases started <;> rfl

/-- Another worker is to be started. -/
theorem rest_starting {children : List Child} (h : children.length < count) :
    (Stage.starting children).rest launcher count =
      .ask (.start (launcher.options.command children.length)) fun
        | .error cause =>
          .done (.error (.spawn children.length launcher.options.program cause))
        | .ok pid =>
          .ask (.announce (.started children.length pid)) fun _ =>
            (Stage.starting (children ++ [⟨children.length, pid⟩])).rest launcher count := by
  obtain ⟨n, hn⟩ : ∃ n, count - children.length = n + 1 := ⟨count - children.length - 1, by omega⟩
  rw [Stage.rest, hn, Launcher.startFrom, ask_bind]
  refine congrArg _ (funext fun reply => ?_)
  cases reply with
  | error cause => rfl
  | ok pid =>
    have hlen : count - (children ++ [(⟨children.length, pid⟩ : Child)]).length = n := by
      rw [length_append, length_singleton]
      omega
    refine congrArg (Dialogue.ask _) (funext fun _ => ?_)
    rw [Stage.rest, hlen, length_append, length_singleton]
    refine (bind_assoc _ _ _).trans (congrArg _ (funext fun more => ?_))
    cases more with
    | error e => rfl
    | ok more =>
      show Launcher.waitAll (children ++ ⟨children.length, pid⟩ :: more) launcher.waitOrder =
        Launcher.waitAll (children ++ [⟨children.length, pid⟩] ++ more) launcher.waitOrder
      rw [append_assoc, singleton_append]

/-- All workers have been started. -/
theorem rest_started {children : List Child} (h : children.length = count) :
    (Stage.starting children).rest launcher count =
      (Stage.waiting children [] []).rest launcher count := by
  have hn : count - children.length = 0 := by omega
  rw [Stage.rest, hn, Launcher.startFrom, done_bind]
  show Launcher.waitAll (children ++ []) launcher.waitOrder = _
  have hlater : (fun later : Except LaunchError (List Outcome) =>
      (Dialogue.done (later.map LaunchReport.mk) : Dialogue Launching _)) =
        fun later => .done ((later.map ([] ++ ·)).map LaunchReport.mk) := by
    funext later
    cases later <;> rfl
  rw [append_nil, Stage.rest, remaining, ← hlater]
  cases launcher.waitOrder <;> rfl

/-- Nothing is left to wait for. -/
theorem rest_waited (launcher : Launcher) (count : Nat) (outcomes : List Outcome) :
    (Stage.waiting [] [] outcomes).rest launcher count =
      (Stage.ended (.ok ⟨outcomes⟩)).rest launcher count := by
  have hnone : remaining launcher [] [] = .done (.ok []) := by
    rw [remaining]
    cases launcher.waitOrder <;> rfl
  rw [Stage.rest, hnone, done_bind]
  show Dialogue.done (Except.ok (LaunchReport.mk (outcomes ++ []))) = .done (.ok ⟨outcomes⟩)
  rw [append_nil]

/-- A collected outcome comes before those collected later. -/
theorem bind_collected (d : Dialogue Launching (Except LaunchError (List Outcome)))
    (outcomes : List Outcome) (outcome : Outcome) :
    ((d.bind fun later => .done (later.map (outcome :: ·))).bind fun later =>
        .done ((later.map (outcomes ++ ·)).map LaunchReport.mk)) =
      d.bind fun later => .done ((later.map (outcomes ++ [outcome] ++ ·)).map LaunchReport.mk) := by
  refine (bind_assoc _ _ _).trans (congrArg _ (funext fun later => ?_))
  cases later with
  | error e => rfl
  | ok later =>
    show Dialogue.done (Except.ok (LaunchReport.mk (outcomes ++ outcome :: later))) =
      .done (.ok ⟨outcomes ++ [outcome] ++ later⟩)
    rw [append_assoc, singleton_append]

/-- Only the result of the wait decides how the launch goes on. -/
theorem finished_bind {α : Type} (child : Child) (result : Except OsError ExitStatus)
    (k : Except LaunchError Outcome → Dialogue Launching α) :
    (Launcher.finished child result).bind k =
      (Launcher.finished child result).bind fun _ => k (Job.outcome ⟨child, result⟩) := by
  cases result <;> rfl

/-- One after the other, the first worker is waited for. -/
theorem rest_inOrder (h : launcher.waitOrder = .spawn) (child : Child) (children : List Child)
    (outcomes : List Outcome) :
    (Stage.waiting (child :: children) [] outcomes).rest launcher count =
      .ask (.await child.pid) fun result => (Launcher.finished child result).bind fun
        | .error e => (Stage.ended (.error e)).rest launcher count
        | .ok outcome =>
          (Stage.waiting children [] (outcomes ++ [outcome])).rest launcher count := by
  rw [Stage.rest, remaining, h, Launcher.waitInOrder, ask_bind]
  refine congrArg _ (funext fun result => ?_)
  refine (bind_assoc _ _ _).trans (congrArg _ (funext fun outcome => ?_))
  cases outcome with
  | error e => rfl
  | ok outcome =>
    show _ = (remaining launcher children []).bind _
    rw [remaining, h]
    exact bind_collected _ _ _

/-- Together, a wait comes to an end or a result is collected. -/
theorem rest_together (h : launcher.waitOrder = .completion) {children : List Child}
    {ready : List Job} (outcomes : List Outcome)
    (busy : 0 < (children.map (·.pid)).length + (ready.map Job.outcome).length) :
    (Stage.waiting children ready outcomes).rest launcher count =
      .ask (.turn (children.map (·.pid)) (ready.map Job.outcome).length busy) fun
        | .finish i result =>
          have hi : i < children.length := by simpa using i.isLt
          (Launcher.finished children[i] result).bind fun _ =>
            (Stage.waiting (children.eraseIdx i) (ready ++ [⟨children[i], result⟩])
              outcomes).rest launcher count
        | .collect i =>
          have hi : i < ready.length := by simpa using i.isLt
          match ready[i].outcome with
          | .error e => (Stage.ended (.error e)).rest launcher count
          | .ok outcome =>
            (Stage.waiting children (ready.eraseIdx i) (outcomes ++ [outcome])).rest
              launcher count := by
  have hlen : 0 < 2 * children.length + ready.length := by
    simp only [length_map] at busy
    omega
  obtain ⟨n, hn⟩ := Nat.exists_eq_add_one.mpr hlen
  rw [Stage.rest, remaining, h]
  dsimp only
  rw [hn, Launcher.waitTogether, dif_pos busy, ask_bind]
  refine congrArg _ (funext fun turn => ?_)
  cases turn with
  | finish i result =>
    have hi : i < children.length := by simpa using i.isLt
    have hl := length_eraseIdx_of_lt hi
    have hturns : 2 * (children.eraseIdx i).length +
        (ready ++ [(⟨children[i], result⟩ : Job)]).length = n := by
      rw [length_append, length_singleton]
      omega
    refine (bind_assoc _ _ _).trans ((finished_bind _ _ _).trans ?_)
    refine congrArg _ (funext fun _ => ?_)
    rw [Stage.rest, remaining, h]
    dsimp only
    rw [hturns, map_append]
    rfl
  | collect i =>
    have hi : i < ready.length := by simpa using i.isLt
    have hl := length_eraseIdx_of_lt hi
    have hturns : 2 * children.length + (ready.eraseIdx i).length = n := by omega
    simp only [Fin.getElem_fin, getElem_map]
    cases ready[(i : Nat)].outcome with
    | error e => rfl
    | ok outcome =>
      dsimp only
      rw [Stage.rest, remaining, h]
      dsimp only
      rw [hturns, ← eraseIdx_map]
      exact bind_collected _ _ _

theorem follows_finished {α : Type} {child : Child} {result : Except OsError ExitStatus}
    {r : Except LaunchError Outcome} (hr : Job.outcome ⟨child, result⟩ = r)
    (k : Except LaunchError Outcome → Dialogue Launching α) :
    ((Launcher.finished child result).bind k).Follows (announcing ⟨child, result⟩) (k r) := by
  subst hr
  cases result with
  | error e => exact .here _
  | ok status => exact .next (.here _)

theorem ends_finished_bind {α : Type} {child : Child} {result : Except OsError ExitStatus}
    {k : Except LaunchError Outcome → Dialogue Launching α} {t : List (Exchange Launching)}
    {v : α} : ((Launcher.finished child result).bind k).Ends t v ↔
      ∃ u, t = announcing ⟨child, result⟩ ++ u ∧ (k (Job.outcome ⟨child, result⟩)).Ends u v := by
  constructor
  · intro h
    cases result with
    | error e => exact ⟨t, rfl, h⟩
    | ok status =>
      obtain ⟨_, u, rfl, hu⟩ := (ends_ask _ _ _ _).mp h
      exact ⟨u, rfl, hu⟩
  · rintro ⟨u, rfl, hu⟩
    exact (follows_finished rfl k).append hu

/-- A step is one of the launch. -/
theorem Step.follows {stage stage' : Stage} {u : List (Exchange Launching)}
    (h : Step launcher count stage u stage') :
    (stage.rest launcher count).Follows u (stage'.rest launcher count) := by
  cases h with
  | start h pid =>
    rw [rest_starting h]
    exact .next (.next (.here _))
  | refuse h cause =>
    rw [rest_starting h]
    exact .next (.here _)
  | wait h =>
    rw [rest_started h]
    exact .here _
  | reap h child children outcomes result ho =>
    rw [rest_inOrder h]
    exact .next (follows_finished ho _)
  | lose h child children outcomes result he =>
    rw [rest_inOrder h]
    exact .next (follows_finished he _)
  | finish h children ready outcomes busy i hi result =>
    rw [rest_together h outcomes busy]
    exact .next (follows_finished rfl _)
  | collect h children ready outcomes busy i hi ho =>
    rw [rest_together h outcomes busy]
    refine .next ?_
    dsimp only
    rw [ho]
    exact .here _
  | fail h children ready outcomes busy i hi he =>
    rw [rest_together h outcomes busy]
    refine .next ?_
    dsimp only
    rw [he]
    exact .here _
  | report outcomes =>
    rw [rest_waited]
    exact .here _

theorem Course.follows {t : List (Exchange Launching)} {stage : Stage}
    (h : Course launcher count t stage) :
    (launcher.run count).Follows t (stage.rest launcher count) := by
  induction h with
  | start =>
    rw [rest_start]
    exact .here _
  | step _ hs ih => exact ih.append hs.follows

section

variable {t u : List (Exchange Launching)} {v : Except LaunchError LaunchReport}
  {children : List Child} {ready : List Job} {outcomes : List Outcome}

theorem Course.reported (hc : Course launcher count t (.waiting [] [] outcomes))
    (h : ((Stage.waiting [] [] outcomes).rest launcher count).Ends u v) :
    Course launcher count (t ++ u) (.ended v) := by
  rw [rest_waited] at h
  obtain ⟨rfl, rfl⟩ := (ends_done _ _ _).mp h
  exact hc.step (.report outcomes)

theorem Course.inOrder (ho : launcher.waitOrder = .spawn)
    (hc : Course launcher count t (.waiting children [] outcomes))
    (h : ((Stage.waiting children [] outcomes).rest launcher count).Ends u v) :
    Course launcher count (t ++ u) (.ended v) := by
  induction children generalizing t u outcomes with
  | nil => exact hc.reported h
  | cons child children ih =>
    rw [rest_inOrder ho] at h
    obtain ⟨result, u, rfl, hu⟩ := (ends_ask _ _ _ _).mp h
    obtain ⟨later, rfl, hlater⟩ := ends_finished_bind.mp hu
    rw [← cons_append, ← append_assoc]
    cases hr : Job.outcome ⟨child, result⟩ with
    | error e =>
      rw [hr] at hlater
      obtain ⟨rfl, rfl⟩ := (ends_done _ _ _).mp hlater
      rw [append_nil]
      exact hc.step (.lose ho child children outcomes result hr)
    | ok outcome =>
      rw [hr] at hlater
      exact ih (hc.step (.reap ho child children outcomes result hr)) hlater

/-- Every worker takes two turns, its end and the collecting of its result. -/
theorem Course.together (ho : launcher.waitOrder = .completion) {turns : Nat}
    (hn : turns = 2 * children.length + ready.length)
    (hc : Course launcher count t (.waiting children ready outcomes))
    (h : ((Stage.waiting children ready outcomes).rest launcher count).Ends u v) :
    Course launcher count (t ++ u) (.ended v) := by
  induction turns generalizing children ready t u outcomes with
  | zero =>
    obtain rfl : children = [] := length_eq_zero_iff.mp (by omega)
    obtain rfl : ready = [] := length_eq_zero_iff.mp (by omega)
    exact hc.reported h
  | succ turns ih =>
    have busy : 0 < (children.map (·.pid)).length + (ready.map Job.outcome).length := by
      simp only [length_map]
      omega
    rw [rest_together ho outcomes busy] at h
    obtain ⟨turn, u, rfl, hu⟩ := (ends_ask _ _ _ _).mp h
    cases turn with
    | finish i result =>
      -- One worker fewer is waited for and one result more lies ready: one turn was used.
      have hi : i < children.length := by simpa using i.isLt
      have hl := length_eraseIdx_of_lt hi
      obtain ⟨later, rfl, hlater⟩ := ends_finished_bind.mp hu
      rw [← cons_append, ← append_assoc]
      refine ih ?_ (hc.step (.finish ho children ready outcomes busy i hi result)) hlater
      rw [length_append, length_singleton]
      omega
    | collect i =>
      have hi : i < ready.length := by simpa using i.isLt
      have hl := length_eraseIdx_of_lt hi
      dsimp only at hu
      cases hr : ready[i].outcome with
      | error e =>
        rw [hr] at hu
        obtain ⟨rfl, rfl⟩ := (ends_done _ _ _).mp hu
        exact hc.step (.fail ho children ready outcomes busy i hi hr)
      | ok outcome =>
        rw [hr] at hu
        rw [← singleton_append, ← append_assoc]
        exact ih (by omega) (hc.step (.collect ho children ready outcomes busy i hi hr)) hu

/-- After all workers have been started, they are waited for in one of the two ways. -/
theorem Course.waited (hc : Course launcher count t (.waiting children [] outcomes))
    (h : ((Stage.waiting children [] outcomes).rest launcher count).Ends u v) :
    Course launcher count (t ++ u) (.ended v) := by
  cases ho : launcher.waitOrder with
  | spawn => exact hc.inOrder ho h
  | completion => exact hc.together ho rfl h

theorem Course.started {more : Nat} (hn : children.length + more = count)
    (hc : Course launcher count t (.starting children))
    (h : ((Stage.starting children).rest launcher count).Ends u v) :
    Course launcher count (t ++ u) (.ended v) := by
  induction more generalizing children t u with
  | zero =>
    rw [rest_started hn] at h
    have hc' := hc.step (.wait hn)
    rw [append_nil] at hc'
    exact hc'.waited h
  | succ more ih =>
    have hlt : children.length < count := by omega
    rw [rest_starting hlt] at h
    obtain ⟨reply, u, rfl, hu⟩ := (ends_ask _ _ _ _).mp h
    cases reply with
    | error cause =>
      obtain ⟨rfl, rfl⟩ := (ends_done _ _ _).mp hu
      exact hc.step (.refuse hlt cause)
    | ok pid =>
      obtain ⟨_, later, rfl, hlater⟩ := (ends_ask _ _ _ _).mp hu
      have hlen : (children ++ [(⟨children.length, pid⟩ : Child)]).length + more = count := by
        rw [length_append, length_singleton]
        omega
      have hnext := ih hlen (hc.step (.start hlt pid)) hlater
      rwa [append_assoc] at hnext

/-- What a launch has said when it has ended is what is said on its course. -/
theorem course_of_ends (h : (launcher.run count).Ends t v) :
    Course launcher count t (.ended v) := by
  rw [← rest_start] at h
  exact Course.started (Nat.zero_add count) .start h

end

end WorkerFleet.Launching
