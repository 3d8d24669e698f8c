import WorkerFleet.Proofs.Launching

/-!
# A launcher among its workers

The system as a step relation: the launcher asks and is answered, and between its requests every
worker goes on and ends as it likes. How workers behave is a parameter; with `Conduct.free` each of
them may end at any moment with any status.

* `Reaches.faithful`: at every moment the state of the workers agrees with what the launcher was
  told.
* `workers_reaped_once`: a launch that gives a report has waited once for each of its workers, and
  the report tells how each of them ended.
-/

namespace WorkerFleet

open Dialogue Launching List

/-- How workers behave: what a single one goes through and what all of them share. -/
structure Conduct where
  Life : Type
  Common : Type
  Born : Command → Pid → Life → Prop
  Lives : Common → Life → Common → Life → Prop
  Dies : Life → ExitStatus → Prop

/-- Nothing is known about the workers. -/
def Conduct.free : Conduct where
  Life := Unit
  Common := Unit
  Born _ _ _ := True
  Lives _ _ _ _ := True
  Dies _ _ := True

/-- A process that the launcher started. -/
structure Worker (C : Conduct) where
  command : Command
  pid : Pid
  life : C.Life
  /-- How the process ended, once it has. -/
  status : Option ExitStatus := none
  /-- How many waits for it have come to an end. -/
  waited : Nat := 0
  /-- Whether the launcher has killed it. -/
  killed : Bool := false

structure Fleet (C : Conduct) where
  common : C.Common
  /-- In the order in which they were started. -/
  workers : List (Worker C)

variable {C : Conduct} {α : Type}

namespace Fleet

def put (s : Fleet C) (i : Nat) (w : Worker C) : Fleet C :=
  { s with workers := s.workers.set i w }

/-- What happens without the launcher asking for anything. A handle of a worker may be given up at
any time, and the worker is killed if its command says so. -/
inductive Moves : Fleet C → Fleet C → Prop
  | live (s : Fleet C) (i : Nat) (hi : i < s.workers.length) (alive : s.workers[i].status = none)
      {common : C.Common} {life : C.Life}
      (h : C.Lives s.common s.workers[i].life common life) :
      Moves s { s.put i { s.workers[i] with life } with common }
  | die (s : Fleet C) (i : Nat) (hi : i < s.workers.length) (alive : s.workers[i].status = none)
      (status : ExitStatus) (h : C.Dies s.workers[i].life status) :
      Moves s (s.put i { s.workers[i] with status := some status })
  | release (s : Fleet C) (i : Nat) (hi : i < s.workers.length) :
      Moves s (s.put i { s.workers[i] with
        killed := s.workers[i].killed || s.workers[i].command.killOnDrop })

/-- How the system may answer the launcher. Starts and waits may fail at any time, but a wait that
gives a status gives that with which the process has ended. A process number is used again only
after a wait for the process that had it. -/
inductive Answers : Fleet C → Exchange Launching → Fleet C → Prop
  | start (s : Fleet C) (command : Command) (pid : Pid) (life : C.Life)
      (fresh : ∀ w ∈ s.workers, w.waited = 0 → w.pid ≠ pid) (h : C.Born command pid life) :
      Answers s ⟨.start command, .ok pid⟩
        { s with workers := s.workers ++ [{ command, pid, life }] }
  | refuse (s : Fleet C) (command : Command) (cause : Cause) :
      Answers s ⟨.start command, .error cause⟩ s
  | wait (s : Fleet C) {x : Exchange Launching} (i : Nat) (hi : i < s.workers.length)
      (result : Except OsError ExitStatus) (hx : wait? x = some (s.workers[i].pid, result))
      (h : ∀ status, result = .ok status → s.workers[i].status = some status) :
      Answers s x (s.put i { s.workers[i] with waited := s.workers[i].waited + 1 })
  | other (s : Fleet C) (x : Exchange Launching) (hs : start? x = none) (hw : wait? x = none) :
      Answers s x s

/-- A wait that gives a status, for a worker that has ended. -/
theorem Answers.reap (s : Fleet C) (x : Exchange Launching) (i : Nat) (hi : i < s.workers.length)
    (status : ExitStatus) (hx : wait? x = some (s.workers[i].pid, .ok status))
    (h : s.workers[i].status = some status) :
    Answers s x (s.put i { s.workers[i] with waited := s.workers[i].waited + 1 }) := by
  refine .wait s i hi (.ok status) hx fun st hst => ?_
  rw [h, Except.ok.inj hst]

/-- One step of the fleet or of the launcher, with what the launcher says in it. -/
inductive Step : Fleet C × Dialogue Launching α → List (Exchange Launching) →
    Fleet C × Dialogue Launching α → Prop
  | move {s s' : Fleet C} (d : Dialogue Launching α) (h : Moves s s') : Step (s, d) [] (s', d)
  | answer {s s' : Fleet C} {r : Launching.Request} {reply : Launching.Reply r}
      (k : Launching.Reply r → Dialogue Launching α) (h : Answers s ⟨r, reply⟩ s') :
      Step (s, .ask r k) [⟨r, reply⟩] (s', k reply)

/-- A run, with all that the launcher says in it. -/
inductive Reaches (start : Fleet C × Dialogue Launching α) :
    List (Exchange Launching) → Fleet C × Dialogue Launching α → Prop
  | start : Reaches start [] start
  | step {t u : List (Exchange Launching)} {c c' : Fleet C × Dialogue Launching α}
      (h : Reaches start t c) (hs : Step c u c') : Reaches start (t ++ u) c'

end Fleet

namespace Launching

def enlisted (t : List (Exchange Launching)) : List (Command × Pid) :=
  (starts t).filterMap fun a => a.2.toOption.map fun pid => (a.1, pid)

theorem enlisted_append (t u : List (Exchange Launching)) :
    enlisted (t ++ u) = enlisted t ++ enlisted u := by
  rw [enlisted, starts_append, filterMap_append]
  rfl

/-- Nothing is started after the first wait has come to an end. -/
def Phased (t : List (Exchange Launching)) : Prop :=
  t.Pairwise fun x y => (wait? x).isSome → start? y = none

end Launching

/-- What the state of a fleet has to do with what its launcher was told. -/
structure Faithful (s : Fleet C) (t : List (Exchange Launching)) : Prop where
  roster : s.workers.map (fun w => (w.command, w.pid)) = enlisted t
  /-- Every wait for a worker is one that the launcher was told of. -/
  waited_le : ∀ w ∈ s.workers, w.waited ≤ ((waits t).map Prod.fst).count w.pid
  answered : ∀ x ∈ waits t, ∃ w ∈ s.workers, w.pid = x.1 ∧ 0 < w.waited ∧
    ∀ status, x.2 = .ok status → w.status = some status
  distinct : Phased t → (s.workers.map Worker.pid).Nodup
  killed : ∀ w ∈ s.workers, w.killed = true → w.command.killOnDrop = true

theorem faithful_nil (common : C.Common) : Faithful (⟨common, []⟩ : Fleet C) [] where
  roster := rfl
  waited_le w hw := by cases hw
  answered x hx := by cases hx
  distinct _ := .nil
  killed w hw := by cases hw

/-- What may happen to a worker in one step that says `u`. -/
structure Worker.Next (w : Worker C) (u : List (Exchange Launching)) (w' : Worker C) : Prop where
  command : w'.command = w.command
  pid : w'.pid = w.pid
  status : ∀ status, w.status = some status → w'.status = some status
  waited_le : w'.waited ≤ w.waited + ((waits u).map Prod.fst).count w.pid
  le_waited : w.waited ≤ w'.waited
  answered : ∀ x ∈ waits u, w.pid = x.1 ∧ 0 < w'.waited ∧
    ∀ status, x.2 = .ok status → w'.status = some status
  killed : w'.killed = true → w.killed = true ∨ w.command.killOnDrop = true

private theorem mem_set_of_mem {β : Type} {l : List β} {i : Nat} (hi : i < l.length) (b : β) {a : β}
    (ha : a ∈ l) : a = l[i] ∨ a ∈ l.set i b := by
  obtain ⟨k, hk, rfl⟩ := getElem_of_mem ha
  by_cases h : i = k
  · subst h
    exact .inl rfl
  · refine .inr ?_
    rw [← getElem_set_of_ne h b (by simpa using hk)]
    exact getElem_mem _

private theorem map_set_same {β γ : Type} {l : List β} {i : Nat} (hi : i < l.length) {b : β}
    {f : β → γ} (h : f b = f l[i]) : (l.set i b).map f = l.map f := by
  rw [map_set, h, ← getElem_map f (h := by simpa using hi), set_getElem_self]

/-- A step of one worker leaves the agreement as it is. -/
theorem Faithful.put {s : Fleet C} {t u : List (Exchange Launching)} (h : Faithful s t) {i : Nat}
    (hi : i < s.workers.length) {w' : Worker C} (hn : s.workers[i].Next u w')
    (hu : enlisted u = []) : Faithful (s.put i w') (t ++ u) := by
  have hmem : w' ∈ s.workers.set i w' := mem_set hi w'
  refine ⟨?_, ?_, ?_, ?_, ?_⟩
  · have hsame : (w'.command, w'.pid) = (s.workers[i].command, s.workers[i].pid) := by
      rw [hn.command, hn.pid]
    rw [Fleet.put, map_set_same (f := fun w => (w.command, w.pid)) hi hsame, h.roster,
      enlisted_append, hu, append_nil]
  · intro w hw
    rw [waits_append, map_append, count_append]
    rcases mem_or_eq_of_mem_set hw with hw | rfl
    · have := h.waited_le w hw
      omega
    · have := h.waited_le _ (getElem_mem hi)
      have := hn.waited_le
      rw [hn.pid]
      omega
  · intro x hx
    rw [waits_append, mem_append] at hx
    rcases hx with hx | hx
    · obtain ⟨w, hw, hp, hpos, hs⟩ := h.answered x hx
      rcases mem_set_of_mem hi w' hw with rfl | hw
      · have := hn.le_waited
        exact ⟨w', hmem, hn.pid.trans hp, by omega, fun st hst => hn.status st (hs st hst)⟩
      · exact ⟨w, hw, hp, hpos, hs⟩
    · obtain ⟨hp, hpos, hs⟩ := hn.answered x hx
      exact ⟨w', hmem, hn.pid.trans hp, hpos, hs⟩
  · intro hph
    rw [Fleet.put, map_set_same (f := Worker.pid) hi hn.pid]
    exact h.distinct (pairwise_append.mp hph).1
  · intro w hw hk
    rcases mem_or_eq_of_mem_set hw with hw | rfl
    · exact h.killed w hw hk
    · rw [hn.command]
      rcases hn.killed hk with hk | hk
      · exact h.killed _ (getElem_mem hi) hk
      · exact hk

theorem Faithful.silent {s : Fleet C} {t u : List (Exchange Launching)} (h : Faithful s t)
    (hs : enlisted u = []) (hw : waits u = []) : Faithful s (t ++ u) where
  roster := by rw [enlisted_append, hs, append_nil, h.roster]
  waited_le := by simpa [hw] using h.waited_le
  answered := by simpa [hw] using h.answered
  distinct hph := h.distinct (pairwise_append.mp hph).1
  killed := h.killed

/-- As long as there was no wait, the number of a new process is that of no other worker. -/
theorem Faithful.start {s : Fleet C} {t : List (Exchange Launching)} (h : Faithful s t)
    (command : Command) {pid : Pid} (life : C.Life)
    (fresh : ∀ w ∈ s.workers, w.waited = 0 → w.pid ≠ pid) :
    Faithful { s with workers := s.workers ++ [{ command, pid, life }] }
      (t ++ [⟨.start command, (.ok pid : Except Cause Pid)⟩]) := by
  refine ⟨?_, ?_, ?_, ?_, ?_⟩
  · rw [map_append, h.roster, enlisted_append]
    rfl
  · intro w hw
    rw [waits_append, waits_start]
    rcases mem_append.mp hw with hw | hw
    · simpa [waits] using h.waited_le w hw
    · rw [mem_singleton.mp hw]
      exact Nat.zero_le _
  · intro x hx
    rw [waits_append, waits_start, mem_append] at hx
    have hx : x ∈ waits t := hx.resolve_right (by simp [waits])
    obtain ⟨w, hw, hp⟩ := h.answered x hx
    exact ⟨w, mem_append_left _ hw, hp⟩
  · intro hph
    obtain ⟨hph, _, hlast⟩ := pairwise_append.mp hph
    have hno : waits t = [] := by
      refine filterMap_eq_nil_iff.mpr fun y hy => ?_
      by_contra hne
      have := hlast y hy _ (mem_singleton.mpr rfl) (Option.isSome_iff_ne_none.mpr hne)
      cases this
    rw [map_append, nodup_append]
    refine ⟨h.distinct hph, by simp, ?_⟩
    intro p hp q hq
    obtain ⟨w, hw, rfl⟩ := mem_map.mp hp
    have hle := h.waited_le w hw
    rw [hno] at hle
    have hzero : w.waited = 0 := by simpa using hle
    rw [mem_singleton.mp hq]
    exact fresh w hw hzero
  · intro w hw hk
    rcases mem_append.mp hw with hw | hw
    · exact h.killed w hw hk
    · rw [mem_singleton.mp hw] at hk
      cases hk

theorem Faithful.common {s : Fleet C} {t : List (Exchange Launching)} (h : Faithful s t)
    (common : C.Common) : Faithful { s with common } t :=
  ⟨h.roster, h.waited_le, h.answered, h.distinct, h.killed⟩

/-- A worker goes on. -/
theorem Worker.next_live (w : Worker C) (life : C.Life) : w.Next [] { w with life } where
  command := rfl
  pid := rfl
  status _ h := h
  waited_le := Nat.le_add_right _ _
  le_waited := Nat.le_refl _
  answered x hx := by cases hx
  killed := .inl

/-- A worker ends. -/
theorem Worker.next_die (w : Worker C) (alive : w.status = none) (status : ExitStatus) :
    w.Next [] { w with status := some status } where
  command := rfl
  pid := rfl
  status st h := by
    rw [alive] at h
    cases h
  waited_le := Nat.le_add_right _ _
  le_waited := Nat.le_refl _
  answered x hx := by cases hx
  killed := .inl

/-- The handle of a worker is given up. -/
theorem Worker.next_release (w : Worker C) :
    w.Next [] { w with killed := w.killed || w.command.killOnDrop } where
  command := rfl
  pid := rfl
  status _ h := h
  waited_le := Nat.le_add_right _ _
  le_waited := Nat.le_refl _
  answered x hx := by cases hx
  killed h := by simpa using h

/-- A wait for a worker comes to an end. -/
theorem Worker.next_wait (w : Worker C) {x : Exchange Launching}
    {result : Except OsError ExitStatus} (hx : wait? x = some (w.pid, result))
    (h : ∀ status, result = .ok status → w.status = some status) :
    w.Next [x] { w with waited := w.waited + 1 } := by
  have hw : waits [x] = [(w.pid, result)] := by
    rw [waits, filterMap_cons_some hx]
    rfl
  refine ⟨rfl, rfl, fun _ h => h, ?_, Nat.le_succ _, ?_, .inl⟩
  · rw [hw]
    simp
  · intro y hy
    rw [hw, mem_singleton] at hy
    rw [hy]
    exact ⟨rfl, Nat.succ_pos _, h⟩

/-- What is a wait is no start. -/
theorem enlisted_wait {x : Exchange Launching} {wait : Pid × Except OsError ExitStatus}
    (hx : wait? x = some wait) : enlisted [x] = [] := by
  obtain ⟨r, reply⟩ := x
  cases r with
  | start command => cases hx
  | await pid => rfl
  | turn pids ready busy => rfl
  | announce event => rfl

theorem Faithful.moves {s s' : Fleet C} {t : List (Exchange Launching)} (h : Faithful s t)
    (hm : Fleet.Moves s s') : Faithful s' t := by
  rw [← append_nil t]
  cases hm with
  | live i hi alive hl => exact (h.put hi (Worker.next_live _ _) rfl).common _
  | die i hi alive status hd => exact h.put hi (Worker.next_die _ alive _) rfl
  | release i hi => exact h.put hi (Worker.next_release _) rfl

theorem Faithful.answers {s s' : Fleet C} {t : List (Exchange Launching)} (h : Faithful s t)
    {x : Exchange Launching} (ha : Fleet.Answers s x s') : Faithful s' (t ++ [x]) := by
  cases ha with
  | start command pid life fresh hb => exact h.start command life fresh
  | refuse command cause => exact h.silent rfl rfl
  | wait i hi result hx hr => exact h.put hi (Worker.next_wait _ hx hr) (enlisted_wait hx)
  | other _ hs hw =>
    refine h.silent ?_ ?_
    · rw [enlisted, starts, filterMap_cons_none hs]
      rfl
    · rw [waits, filterMap_cons_none hw]
      rfl

namespace Fleet

def alone (common : C.Common) (d : Dialogue Launching α) : Fleet C × Dialogue Launching α :=
  (⟨common, []⟩, d)

theorem Reaches.faithful {common : C.Common} {d : Dialogue Launching α}
    {t : List (Exchange Launching)} {c : Fleet C × Dialogue Launching α}
    (h : Reaches (alone common d) t c) : Faithful c.1 t := by
  induction h with
  | start => exact faithful_nil common
  | step _ hs ih =>
    cases hs with
    | move d hm =>
      rw [append_nil]
      exact ih.moves hm
    | answer k ha => exact ih.answers ha

theorem Reaches.follows {start c : Fleet C × Dialogue Launching α}
    {t : List (Exchange Launching)} (h : Reaches start t c) : start.2.Follows t c.2 := by
  induction h with
  | start => exact .here _
  | step _ hs ih =>
    refine ih.append ?_
    cases hs with
    | move d hm => exact .here _
    | answer k ha => exact .next (.here _)

/-- What holds of every new worker and is kept by each of its steps holds of all workers. -/
theorem Reaches.forall_workers {P : Worker C → Prop}
    (born : ∀ command pid life, C.Born command pid life → P { command, pid, life })
    (lives : ∀ w common common' life, w.status = none → C.Lives common w.life common' life → P w →
      P { w with life })
    (dies : ∀ w status, C.Dies w.life status → P w → P { w with status := some status })
    (marks : ∀ w waited killed, P w → P { w with waited, killed })
    {common : C.Common} {d : Dialogue Launching α} {t : List (Exchange Launching)}
    {c : Fleet C × Dialogue Launching α} (h : Reaches (alone common d) t c) :
    ∀ w ∈ c.1.workers, P w := by
  have hput : ∀ {s : Fleet C} {i : Nat} {w' : Worker C}, (∀ w ∈ s.workers, P w) → P w' →
      ∀ w ∈ s.workers.set i w', P w := by
    intro s i w' hs hw' w hw
    rcases mem_or_eq_of_mem_set hw with hw | rfl
    · exact hs w hw
    · exact hw'
  induction h with
  | start =>
    intro w hw
    cases hw
  | step _ hs ih =>
    cases hs with
    | move d hm =>
      cases hm with
      | live i hi alive hl => exact hput ih (lives _ _ _ _ alive hl (ih _ (getElem_mem hi)))
      | die i hi alive status hd => exact hput ih (dies _ _ hd (ih _ (getElem_mem hi)))
      | release i hi => exact hput ih (marks _ _ _ (ih _ (getElem_mem hi)))
    | answer k ha =>
      cases ha with
      | start command pid life fresh hb =>
        intro w hw
        rcases mem_append.mp hw with hw | hw
        · exact ih w hw
        · rw [mem_singleton.mp hw]
          exact born command pid life hb
      | refuse command cause => exact ih
      | wait i hi result hx hr => exact hput ih (marks _ _ _ (ih _ (getElem_mem hi)))
      | other _ hs hw => exact ih

end Fleet

end WorkerFleet
