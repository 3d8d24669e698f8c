import WorkerFleet.Proofs.Reaped

/-!
# Starting stops at the first failure

Given what the system says to each attempt, one run of starting workers is left. It tries the
workers one after the other up to the first that cannot be started, however many there should be,
and leaves those it has started alone.

* `startFrom_all_iff`, `startFrom_failed_iff`: that run, if every start succeeds and if one fails.
* `waits_nil_of_failure`: after a failed start there is no wait.
* `first_failed_start`: what is tried, what comes of it, and what happens to the workers.
-/

namespace WorkerFleet

open Dialogue Launching List

namespace Launching

/-- The attempts, of which the first is for that index, got these results. -/
def Tried (results : Nat → Except Cause Pid) (index : Nat) (t : List (Exchange Launching)) : Prop :=
  (starts t).map Prod.snd = (range' index (starts t).length).map results

def trying (options : CollaboratorOptions) (results : Nat → Except Cause Pid) (index : Nat) :
    List (Exchange Launching) :=
  match results index with
  | .error cause => [⟨.start (options.command index), .error cause⟩]
  | .ok pid => [⟨.start (options.command index), .ok pid⟩, ⟨.announce (.started index pid), ()⟩]

variable {options : CollaboratorOptions} {results : Nat → Except Cause Pid} {index : Nat}
  {t : List (Exchange Launching)}

theorem trying_error {cause : Cause} (h : results index = .error cause) :
    trying options results index = [⟨.start (options.command index), .error cause⟩] := by
  rw [trying, h]

theorem trying_ok {pid : Pid} (h : results index = .ok pid) :
    trying options results index =
      [⟨.start (options.command index), .ok pid⟩, ⟨.announce (.started index pid), ()⟩] := by
  rw [trying, h]

theorem starts_trying (options : CollaboratorOptions) (results : Nat → Except Cause Pid)
    (indices : List Nat) :
    starts (indices.flatMap (trying options results)) =
      indices.map fun index => (options.command index, results index) := by
  rw [starts, filterMap_flatMap, map_eq_flatMap]
  refine congrArg (flatMap · indices) (funext fun index => ?_)
  cases h : results index with
  | error cause =>
    rw [trying_error h]
    rfl
  | ok pid =>
    rw [trying_ok h]
    rfl

theorem waits_trying (options : CollaboratorOptions) (results : Nat → Except Cause Pid)
    (indices : List Nat) : waits (indices.flatMap (trying options results)) = [] := by
  rw [waits, filterMap_flatMap, flatMap_eq_nil_iff]
  intro index _
  cases h : results index with
  | error cause =>
    rw [trying_error h]
    rfl
  | ok pid =>
    rw [trying_ok h]
    rfl

theorem tried_nil (results : Nat → Except Cause Pid) (index : Nat) : Tried results index [] := rfl

theorem tried_start (command : Command) (result : Except Cause Pid) :
    Tried results index (⟨.start command, result⟩ :: t) ↔
      result = results index ∧ Tried results (index + 1) t := by
  simp only [Tried, starts_start, map_cons, length_cons, range'_succ, cons.injEq]

theorem tried_announce (event : Event) (reply : Unit) :
    Tried results index (⟨.announce event, reply⟩ :: t) ↔ Tried results index t := .rfl

/-- No worker is left to be tried. -/
theorem startFrom_zero_iff (v : Except LaunchError (List Child)) :
    ((Launcher.startFrom options 0 index).Ends t v ∧ Tried results index t) ↔
      t = [] ∧ v = .ok [] := by
  rw [Launcher.startFrom, ends_done]
  constructor
  · exact And.left
  · rintro ⟨rfl, rfl⟩
    exact ⟨⟨rfl, rfl⟩, tried_nil _ _⟩

/-- The worker that is tried now cannot be started. -/
theorem startFrom_error_iff (remaining : Nat) {cause : Cause} (hr : results index = .error cause)
    (v : Except LaunchError (List Child)) :
    ((Launcher.startFrom options (remaining + 1) index).Ends t v ∧ Tried results index t) ↔
      t = trying options results index ∧ v = .error (.spawn index options.program cause) := by
  rw [Launcher.startFrom, ends_ask, trying_error hr]
  constructor
  · rintro ⟨⟨reply, u, rfl, hu⟩, ht⟩
    obtain ⟨hreply, _⟩ := (tried_start _ _).mp ht
    obtain rfl := hreply.trans hr
    obtain ⟨rfl, rfl⟩ := (ends_done _ _ _).mp hu
    exact ⟨rfl, rfl⟩
  · rintro ⟨rfl, rfl⟩
    exact ⟨⟨_, [], rfl, .here _⟩, (tried_start _ _).mpr ⟨hr.symm, tried_nil _ _⟩⟩

/-- The worker that is tried now is started. -/
theorem startFrom_ok_iff (remaining : Nat) {pid : Pid} (hr : results index = .ok pid)
    (v : Except LaunchError (List Child)) :
    ((Launcher.startFrom options (remaining + 1) index).Ends t v ∧ Tried results index t) ↔
      ∃ u w, t = trying options results index ++ u ∧ v = w.map (⟨index, pid⟩ :: ·) ∧
        (Launcher.startFrom options remaining (index + 1)).Ends u w ∧
        Tried results (index + 1) u := by
  rw [Launcher.startFrom, ends_ask, trying_ok hr]
  constructor
  · rintro ⟨⟨reply, _, rfl, hreplied⟩, ht⟩
    obtain ⟨hreply, hlater⟩ := (tried_start _ _).mp ht
    obtain rfl := hreply.trans hr
    obtain ⟨_, _, rfl, hannounced⟩ := (ends_ask _ _ _ _).mp hreplied
    obtain ⟨u, w, _, rfl, hu, hd⟩ := (ends_bind _ _ _ _).mp hannounced
    obtain ⟨rfl, rfl⟩ := (ends_done _ _ _).mp hd
    rw [append_nil] at hlater ⊢
    exact ⟨u, w, rfl, rfl, hu, (tried_announce _ _).mp hlater⟩
  · rintro ⟨u, w, rfl, rfl, hu, ht⟩
    refine ⟨⟨.ok pid, _, rfl, .next ((ends_bind _ _ _ _).mpr ?_)⟩, ?_⟩
    · exact ⟨u, w, [], (append_nil _).symm, hu, .here _⟩
    · exact (tried_start _ _).mpr ⟨hr.symm, (tried_announce _ _).mpr ht⟩

/-- Where all workers can be started, all are tried. -/
theorem startFrom_all_iff {pids : List Pid}
    (hr : (range' index pids.length).map results = pids.map .ok)
    (v : Except LaunchError (List Child)) :
    ((Launcher.startFrom options pids.length index).Ends t v ∧ Tried results index t) ↔
      t = (range' index pids.length).flatMap (trying options results) ∧
        v = .ok (crew index pids) := by
  induction pids generalizing index t v with
  | nil => exact startFrom_zero_iff v
  | cons pid pids ih =>
    obtain ⟨hfirst, hr⟩ := cons.inj hr
    rw [length_cons, startFrom_ok_iff _ hfirst, range'_succ, flatMap_cons]
    constructor
    · rintro ⟨u, w, rfl, rfl, hu⟩
      obtain ⟨rfl, rfl⟩ := (ih hr w).mp hu
      exact ⟨rfl, rfl⟩
    · rintro ⟨rfl, rfl⟩
      exact ⟨_, _, rfl, rfl, (ih hr (.ok (crew (index + 1) pids))).mpr ⟨rfl, rfl⟩⟩

/-- Where one worker cannot be started, it is the last that is tried. -/
theorem startFrom_failed_iff {remaining : Nat} {pids : List Pid} {cause : Cause}
    (hr : (range' index pids.length).map results = pids.map .ok)
    (hc : results (index + pids.length) = .error cause) (hlt : pids.length < remaining)
    (v : Except LaunchError (List Child)) :
    ((Launcher.startFrom options remaining index).Ends t v ∧ Tried results index t) ↔
      t = (range' index (pids.length + 1)).flatMap (trying options results) ∧
        v = .error (.spawn (index + pids.length) options.program cause) := by
  induction pids generalizing index t v remaining with
  | nil =>
    obtain ⟨n, rfl⟩ := Nat.exists_eq_add_one.mpr hlt
    rw [length_nil, Nat.add_zero] at hc ⊢
    rw [startFrom_error_iff n hc, range'_one, flatMap_singleton, Nat.add_zero]
  | cons pid pids ih =>
    obtain ⟨n, rfl⟩ : ∃ n, remaining = n + 1 := Nat.exists_eq_add_one.mpr (by omega)
    obtain ⟨hfirst, hr⟩ := cons.inj hr
    have hnext : index + (pid :: pids).length = index + 1 + pids.length := by
      rw [length_cons]
      omega
    have hlt : pids.length < n := by
      rw [length_cons] at hlt
      omega
    rw [hnext] at hc ⊢
    rw [startFrom_ok_iff _ hfirst, length_cons, range'_succ, flatMap_cons]
    constructor
    · rintro ⟨u, w, rfl, rfl, hu⟩
      obtain ⟨rfl, rfl⟩ := (ih hr hc hlt w).mp hu
      exact ⟨rfl, rfl⟩
    · rintro ⟨rfl, rfl⟩
      exact ⟨_, .error _, rfl, rfl, (ih hr hc hlt _).mpr ⟨rfl, rfl⟩⟩

/-- The process numbers of the workers before a failure. -/
theorem exists_pids (results : Nat → Except Cause Pid) (count : Nat)
    (h : ∀ index < count, (results index).isOk) :
    ∃ pids : List Pid, pids.length = count ∧ (range' 0 count).map results = pids.map .ok := by
  have hpids : ∀ indices : List Nat, (∀ index ∈ indices, (results index).isOk) →
      ∃ pids : List Pid, indices.map results = pids.map .ok := by
    intro indices hall
    induction indices with
    | nil => exact ⟨[], rfl⟩
    | cons index indices ih =>
      obtain ⟨pids, hpids⟩ := ih fun i hi => hall i (mem_cons_of_mem _ hi)
      have hok := hall index mem_cons_self
      cases hr : results index with
      | error cause =>
        rw [hr] at hok
        cases hok
      | ok pid => exact ⟨pid :: pids, by rw [map_cons, map_cons, hr, hpids]⟩
  obtain ⟨pids, hpids⟩ := hpids (range' 0 count) fun i hi => h i (by simpa using hi)
  have hlen := congrArg length hpids
  simp only [length_map, length_range'] at hlen
  exact ⟨pids, hlen.symm, hpids⟩

/-- If some start fails, one of them is the first. -/
theorem exists_first_failure {n : Nat} (h : ¬ ∀ index < n, (results index).isOk) :
    ∃ k < n, (∀ index < k, (results index).isOk) ∧ ∃ cause, results k = .error cause := by
  induction n with
  | zero => exact absurd nofun h
  | succ n ih =>
    by_cases hall : ∀ index < n, (results index).isOk
    · refine ⟨n, Nat.lt_succ_self n, hall, ?_⟩
      cases hr : results n with
      | error cause => exact ⟨cause, rfl⟩
      | ok pid =>
        refine absurd (fun index hi => ?_) h
        rcases Nat.lt_succ_iff_lt_or_eq.mp hi with hi | rfl
        · exact hall index hi
        · rw [hr]
          rfl
    · obtain ⟨k, hk, hfirst⟩ := ih hall
      exact ⟨k, by omega, hfirst⟩

theorem crew_of_indices {children : List Child}
    (h : children.map Child.index = range children.length) :
    crew 0 (children.map Child.pid) = children := by
  have hzip : (children.map Child.pid).zipIdx =
      children.map fun child => (child.pid, child.index) := by
    rw [zipIdx_eq_zip_range', length_map, ← range_eq_range', ← h, zip_map']
  rw [crew, hzip, map_map]
  exact map_id _

theorem spawnAll_all_iff (launcher : Launcher) {count : Nat}
    (hok : ∀ index < count, (results index).isOk) (v : Except LaunchError (List Child)) :
    ((launcher.spawnAll count).Ends t v ∧ Tried results 0 t) ↔
      t = (range count).flatMap (trying launcher.options results) ∧
        ∃ children, v = .ok children ∧ children.map Child.index = range count ∧
          children.map (fun child => .ok child.pid) = (range count).map results := by
  obtain ⟨pids, rfl, hpids⟩ := exists_pids results count hok
  rw [Launcher.spawnAll, startFrom_all_iff hpids]
  rw [← range_eq_range'] at hpids ⊢
  refine and_congr_right fun _ => ⟨?_, ?_⟩
  · rintro rfl
    refine ⟨_, rfl, crew_indices pids, ?_⟩
    rw [hpids, ← crew_pids 0 pids, map_map, crew_pids]
    rfl
  · rintro ⟨children, rfl, hindices, hchildren⟩
    have hmap : (children.map Child.pid).map (Except.ok (ε := Cause)) = pids.map .ok := by
      rw [map_map, ← hpids, ← hchildren]
      rfl
    have hpid := map_injective_iff.mpr (fun _ _ => Except.ok.inj) hmap
    rw [← hpid, crew_of_indices]
    rw [hindices, ← hpid, length_map]

theorem spawnAll_failed_iff (launcher : Launcher) {k : Nat} {cause : Cause}
    (hok : ∀ index < k, (results index).isOk) (hc : results k = .error cause) {count : Nat}
    (hlt : k < count) (v : Except LaunchError (List Child)) :
    ((launcher.spawnAll count).Ends t v ∧ Tried results 0 t) ↔
      t = (range (k + 1)).flatMap (trying launcher.options results) ∧
        v = .error (.spawn k launcher.options.program cause) := by
  obtain ⟨pids, rfl, hpids⟩ := exists_pids results k hok
  have hc : results (0 + pids.length) = .error cause := by rwa [Nat.zero_add]
  rw [Launcher.spawnAll, startFrom_failed_iff hpids hc hlt, ← range_eq_range', Nat.zero_add]

/-- Fewer workers are tried in the same way as more of them. -/
theorem spawnAll_mono {launcher : Launcher} {m n : Nat} (hle : m ≤ n)
    {t' : List (Exchange Launching)} {v v' : Except LaunchError (List Child)}
    (h : (launcher.spawnAll m).Ends t v ∧ Tried results 0 t)
    (h' : (launcher.spawnAll n).Ends t' v' ∧ Tried results 0 t') : t <+: t' := by
  have hprefix : ∀ i j, i ≤ j → (range i).flatMap (trying launcher.options results) <+:
      (range j).flatMap (trying launcher.options results) := by
    intro i j hij
    obtain ⟨r, rfl⟩ := Nat.exists_eq_add_of_le hij
    rw [range_add, flatMap_append]
    exact prefix_append _ _
  by_cases hall : ∀ index < n, (results index).isOk
  · rw [spawnAll_all_iff launcher hall] at h'
    rw [spawnAll_all_iff launcher fun index hi => hall index (by omega)] at h
    rw [h.1, h'.1]
    exact hprefix m n hle
  · obtain ⟨k, hk, hok, cause, hc⟩ := exists_first_failure hall
    rw [spawnAll_failed_iff launcher hok hc hk] at h'
    rw [h'.1]
    by_cases hkm : k < m
    · rw [spawnAll_failed_iff launcher hok hc hkm] at h
      obtain ⟨rfl, _⟩ := h
      exact prefix_rfl
    · rw [spawnAll_all_iff launcher fun index hi => hok index (by omega)] at h
      rw [h.1]
      exact hprefix m (k + 1) (by omega)

theorem Tried.of_append {u : List (Exchange Launching)} (h : Tried results index (t ++ u)) :
    Tried results index t := by
  rw [Tried, starts_append, map_append, length_append, ← range'_append_1, map_append] at h
  exact (append_inj h (by simp)).1

def andWait (launcher : Launcher) :
    Except LaunchError (List Child) → Dialogue Launching (Except LaunchError LaunchReport)
  | .error e => .done (.error e)
  | .ok children => Launcher.waitAll children launcher.waitOrder

theorem run_eq (launcher : Launcher) (count : Nat) :
    launcher.run count = (launcher.spawnAll count).bind (andWait launcher) := rfl

/-- After a failed start, the launch ends with it. -/
theorem run_failed_iff (launcher : Launcher) {k : Nat} {cause : Cause}
    (hok : ∀ index < k, (results index).isOk) (hc : results k = .error cause) {count : Nat}
    (hlt : k < count) (v : Except LaunchError LaunchReport) :
    ((launcher.run count).Ends t v ∧ Tried results 0 t) ↔
      t = (range (k + 1)).flatMap (trying launcher.options results) ∧
        v = .error (.spawn k launcher.options.program cause) := by
  have hspawn := fun t v => spawnAll_failed_iff (t := t) launcher hok hc hlt v
  rw [run_eq, ends_bind]
  constructor
  · rintro ⟨⟨u, started, u', rfl, hu, hwait⟩, ht⟩
    obtain ⟨rfl, rfl⟩ := (hspawn u started).mp ⟨hu, ht.of_append⟩
    obtain ⟨rfl, rfl⟩ := (ends_done _ _ _).mp hwait
    exact ⟨append_nil _, rfl⟩
  · rintro ⟨rfl, rfl⟩
    obtain ⟨he, ht⟩ := (hspawn _ _).mpr ⟨rfl, rfl⟩
    exact ⟨⟨_, _, [], (append_nil _).symm, he, .here _⟩, ht⟩

/-- Where a start fails, the launch does not come to wait for any worker. -/
theorem waits_nil_of_failure {launcher : Launcher} {count : Nat}
    {d : Dialogue Launching (Except LaunchError LaunchReport)}
    (h : (launcher.run count).Follows t d) (ht : Tried results 0 t) {k : Nat} {cause : Cause}
    (hlt : k < count) (hc : results k = .error cause) : waits t = [] := by
  obtain ⟨u, v, hu⟩ := h.completes nonempty_reply
  obtain ⟨t₁, t₂, heq, hw, hs, hl⟩ := ends_run hu
  rcases append_eq_append_iff.mp heq with ⟨r, rfl, rfl⟩ | ⟨r, rfl, rfl⟩
  · rw [waits_append, append_eq_nil_iff] at hw
    exact hw.1
  · rw [waits_append, hw, nil_append]
    generalize ha : starts t₁ = tried at hl
    generalize hwaits : waits (r ++ u) = later at hl
    cases hl with
    | unstarted pids cause hn =>
      rw [waits_append, append_eq_nil_iff] at hwaits
      exact hwaits.1
    | started pids hn hr =>
      -- Here all workers were started, also that of index `k`.
      have hall := ht.of_append
      rw [Tried, ha, attempts_snd, attempts_length, length_map, hn, ← range_eq_range'] at hall
      have hk : results k ∈ pids.map .ok := by
        rw [hall]
        exact mem_map_of_mem (mem_range.mpr hlt)
      obtain ⟨pid, _, hp⟩ := mem_map.mp hk
      rw [hc] at hp
      cases hp

end Launching

variable {C : Conduct} {s : Fleet C} {t : List (Exchange Launching)}

theorem Faithful.unwaited (h : Faithful s t) (hw : waits t = []) :
    ∀ w ∈ s.workers, w.waited = 0 := by
  intro w hm
  have hle := h.waited_le w hm
  rw [hw] at hle
  exact Nat.le_zero.mp hle

/-- The workers are those that were tried before the failure. -/
theorem Faithful.tried {options : CollaboratorOptions} {results : Nat → Except Cause Pid} {k : Nat}
    {cause : Cause} (hok : ∀ index < k, (results index).isOk) (hc : results k = .error cause)
    (h : Faithful s ((range (k + 1)).flatMap (trying options results))) :
    s.workers.map (fun w => (w.command, Except.ok w.pid)) =
      (range k).map fun index => (options.command index, results index) := by
  have hbefore : ∀ index ∈ range k,
      ((results index).toOption.map fun pid => (options.command index, Except.ok pid)) =
        some (options.command index, results index) := by
    intro index hi
    have hi := hok index (mem_range.mp hi)
    cases hr : results index with
    | error cause =>
      rw [hr] at hi
      cases hi
    | ok pid => rfl
  have hlast : ((results k).toOption.map fun pid => (options.command k, Except.ok pid)) =
      (none : Option (Command × Except Cause Pid)) := by
    rw [hc]
    rfl
  calc s.workers.map (fun w => (w.command, Except.ok w.pid))
      = (enlisted ((range (k + 1)).flatMap (trying options results))).map
          fun p => (p.1, Except.ok p.2) := by
        rw [← h.roster, map_map]
        rfl
    _ = (range (k + 1)).filterMap fun index =>
          (results index).toOption.map fun pid => (options.command index, Except.ok pid) := by
        rw [enlisted, starts_trying, filterMap_map, map_filterMap]
        refine filterMap_congr fun index _ => ?_
        rw [Function.comp_apply, Option.map_map]
        rfl
    _ = (range k).map fun index => (options.command index, results index) := by
        rw [range_succ, filterMap_append, filterMap_congr hbefore, filterMap_cons, hlast]
        exact (append_nil _).trans (congrFun filterMap_eq_map _)

/-- Let the system answer the attempts to start workers as it likes, but independently of how many
there should be. If no start fails, as many workers are started, each by the command of its index.
If one fails, then however many workers there should be beyond it, exactly those up to it are tried,
nothing follows, and its failure is reported; the workers that were started before it are not waited
for and not killed. Fewer workers are started in the same way as more of them. -/
theorem first_failed_start (launcher : Launcher) (results : Nat → Except Cause Pid) :
    (∀ indices : List Nat,
      starts (indices.flatMap (trying launcher.options results)) =
        indices.map (fun index => (launcher.options.command index, results index)) ∧
      waits (indices.flatMap (trying launcher.options results)) = []) ∧
    (∀ count, (∀ index < count, (results index).isOk) → ∀ t v,
      ((launcher.spawnAll count).Ends t v ∧ Tried results 0 t) ↔
        t = (range count).flatMap (trying launcher.options results) ∧
        ∃ children, v = .ok children ∧ children.map Child.index = range count ∧
          children.map (fun child => .ok child.pid) = (range count).map results) ∧
    (∀ k cause, (∀ index < k, (results index).isOk) → results k = .error cause →
      ∀ count, k < count →
        (∀ t v, ((launcher.spawnAll count).Ends t v ∧ Tried results 0 t) ↔
          t = (range (k + 1)).flatMap (trying launcher.options results) ∧
          v = .error (.spawn k launcher.options.program cause)) ∧
        (∀ t v, ((launcher.run count).Ends t v ∧ Tried results 0 t) ↔
          t = (range (k + 1)).flatMap (trying launcher.options results) ∧
          v = .error (.spawn k launcher.options.program cause)) ∧
        ∀ (C : Conduct) (common : C.Common) (s : Fleet C) t,
          ((∃ d, Fleet.Reaches (Fleet.alone common (launcher.spawnAll count)) t (s, d)) ∨
            ∃ d, Fleet.Reaches (Fleet.alone common (launcher.run count)) t (s, d)) →
          Tried results 0 t →
          (∀ w ∈ s.workers, w.waited = 0 ∧ w.killed = false) ∧
          (t = (range (k + 1)).flatMap (trying launcher.options results) →
            s.workers.map (fun w => (w.command, Except.ok w.pid)) =
              (range k).map fun index => (launcher.options.command index, results index))) ∧
    ∀ m n, m ≤ n → ∀ t v t' v', (launcher.spawnAll m).Ends t v → Tried results 0 t →
      (launcher.spawnAll n).Ends t' v' → Tried results 0 t' → t <+: t' := by
  refine ⟨fun indices => ⟨starts_trying _ _ _, waits_trying _ _ _⟩,
    fun count hok t v => spawnAll_all_iff launcher hok v, ?_, ?_⟩
  · intro k cause hok hc count hlt
    refine ⟨fun t v => spawnAll_failed_iff launcher hok hc hlt v,
      fun t v => run_failed_iff launcher hok hc hlt v, ?_⟩
    intro C common s t h ht
    have hboth : Faithful s t ∧ ∃ d, (launcher.run count).Follows t d := by
      rcases h with ⟨d, h⟩ | ⟨d, h⟩
      · exact ⟨h.faithful, _, h.follows.bind (andWait launcher)⟩
      · exact ⟨h.faithful, d, h.follows⟩
    obtain ⟨hf, d, hd⟩ := hboth
    refine ⟨fun w hw => ⟨hf.unwaited ?_ w hw, hf.spared hd w hw⟩, ?_⟩
    · exact waits_nil_of_failure hd ht hlt hc
    · rintro rfl
      exact hf.tried hok hc
  · intro m n hle t v t' v' h ht h' ht'
    exact spawnAll_mono hle ⟨h, ht⟩ ⟨h', ht'⟩

/-- Of as many workers as can be counted, the third cannot be started. -/
theorem first_failed_start_third :
    ∃ t, (together.spawnAll 18446744073709551615).Ends t
        (.error (.spawn 2 together.options.program (.os .noSpace))) ∧
      starts t = [(together.options.command 0, .ok 7), (together.options.command 1, .ok 8),
        (together.options.command 2, .error (.os .noSpace))] := by
  let results : Nat → Except Cause Pid := fun index =>
    if index < 2 then .ok (7 + index) else .error (.os .noSpace)
  have hok : ∀ index < 2, (results index).isOk := by
    intro index hi
    simp only [results, if_pos hi]
    rfl
  obtain ⟨hstarts, _, hfailed, _⟩ := first_failed_start together results
  obtain ⟨hspawn, _⟩ := hfailed 2 (.os .noSpace) hok rfl 18446744073709551615 (by decide)
  exact ⟨_, ((hspawn _ _).mpr ⟨rfl, rfl⟩).1, (hstarts (range 3)).1⟩

end WorkerFleet
