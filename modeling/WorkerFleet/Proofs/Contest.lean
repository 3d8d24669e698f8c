import WorkerFleet.Proofs.Claimant

/-!
# Claimants that share a directory

Any number of claimants, whose steps mix in any order.

* `Contest.Sound`: what the claimants have said agrees with what is in the directory.
* `Contest.Sound.step`, `Contest.Reaches.sound`: so it is after each step, and after every run.
-/

namespace WorkerFleet

open Dialogue Host List StandIn

private theorem flatMap_set_perm {β γ : Type} {l : List β} {i : Nat} (hi : i < l.length) {b : β}
    {f : β → List γ} {extra : List γ} (h : f b = f l[i] ++ extra) :
    ((l.set i b).flatMap f).Perm (l.flatMap f ++ extra) := by
  induction l generalizing i with
  | nil => cases hi
  | cons a l ih =>
    cases i with
    | zero =>
      have h : f b = f a ++ extra := h
      rw [set_cons_zero, flatMap_cons, flatMap_cons, h, append_assoc, append_assoc]
      exact perm_append_comm.append_left (f a)
    | succ i =>
      rw [set_cons_succ, flatMap_cons, flatMap_cons, append_assoc]
      exact (ih (Nat.lt_of_succ_lt_succ hi) h).append_left (f a)

private theorem eq_of_mem_flatMap {β γ : Type} {l : List β} {f : β → List γ}
    (h : (l.flatMap f).Nodup) {i j : Nat} (hi : i < l.length) (hj : j < l.length) {a : γ}
    (ha : a ∈ f l[i]) (hb : a ∈ f l[j]) : i = j := by
  have hpair := pairwise_iff_getElem.mp (nodup_flatMap.mp h).2
  rcases Nat.lt_trichotomy i j with hlt | heq | hlt
  · exact absurd hb (hpair i j hi hj hlt ha)
  · exact heq
  · exact absurd ha (hpair j i hj hi hlt hb)

/-- The claimants and the directory that they share. -/
structure Contest where
  directory : Directory
  claimants : List Claimant

namespace Contest

def made (c : Contest) : List OsString := c.claimants.flatMap Claimant.made

/-- How many have claimed a slot. -/
def holders (c : Contest) : Nat := c.claimants.countP fun w => !w.made.isEmpty

/-- One claimant asks something and is served. -/
inductive Step (dir : OsString) (i : Nat) : Contest → Contest → Prop
  | serve (c : Contest) (hi : i < c.claimants.length) {r : System.Request}
      {k : System.Reply r → Dialogue System (Except Failure Nat)}
      (hrest : c.claimants[i].rest = .ask r k) {reply : System.Reply r} {directory : Directory}
      (h : Directory.Serves dir c.claimants[i].pid c.directory ⟨r, reply⟩ directory) :
      Step dir i c ⟨directory, c.claimants.set i (c.claimants[i].after ⟨r, reply⟩ (k reply))⟩

def opening (dir : OsString) (directory : Directory) (pids : List Pid) : Contest :=
  ⟨directory, pids.map fun pid => ⟨pid, [], claimSlot dir⟩⟩

/-- A run of so many steps. -/
inductive Reaches (dir : OsString) (start : Contest) : Nat → Contest → Prop
  | start : Reaches dir start 0 start
  | step {steps i : Nat} {c c' : Contest} (h : Reaches dir start steps c) (hs : Step dir i c c') :
      Reaches dir start (steps + 1) c'

/-- What the claimants have said agrees with what is in the directory. -/
structure Sound (dir : OsString) (start : Directory) (pids : List Pid) (steps : Nat)
    (c : Contest) : Prop where
  pids : c.claimants.map Claimant.pid = pids
  steps : (c.claimants.flatMap Claimant.history).length = steps
  stages : ∀ w ∈ c.claimants, w.Stage dir
  tried : ∀ w ∈ c.claimants, ∀ slot made, (slotPath dir slot, made) ∈ w.attempts →
    slotName slot ∈ c.directory.names
  /-- What was there at the start is left alone, and what has come is what the claimants made. -/
  entries : ∃ new, c.directory.entries = start.entries ++ new ∧
    (new.map fun e => Path.join dir e.1).Perm c.made
  kept : ∀ w ∈ c.claimants, ∀ slot, slotPath dir slot ∈ w.made →
    (slotName slot, w.written) ∈ c.directory.entries

variable {dir : OsString} {start : Directory} {pids : List Pid} {steps : Nat} {c : Contest}

theorem sound_opening (dir : OsString) (start : Directory) (pids : List Pid) :
    Sound dir start pids 0 (opening dir start pids) where
  pids := by simp [opening, Function.comp_def]
  steps := by simp [opening, flatMap_map]
  stages w hw := by
    obtain ⟨pid, _, rfl⟩ := mem_map.mp hw
    exact Claimant.stage_begin dir pid
  tried w hw slot made hm := by
    obtain ⟨pid, _, rfl⟩ := mem_map.mp hw
    cases hm
  entries := by
    refine ⟨[], by simp [opening], ?_⟩
    simp [made, opening, flatMap_map, Claimant.made, Claimant.attempts]
  kept w hw slot hm := by
    obtain ⟨pid, _, rfl⟩ := mem_map.mp hw
    cases hm

namespace Sound

/-- No file was made twice. -/
theorem made_nodup (h : Sound dir start pids steps c) : c.made.Nodup := by
  obtain ⟨new, hentries, hnew⟩ := h.entries
  have hdistinct := c.directory.distinct
  rw [hentries, map_append, nodup_append] at hdistinct
  have hpaths : (new.map fun e => Path.join dir e.1) = (new.map Prod.fst).map (Path.join dir) := by
    rw [map_map]
    rfl
  rw [← hnew.nodup_iff, hpaths]
  exact hdistinct.2.1.map (Path.join_injective dir)

/-- A slot is taken now just if it was at the start or some claimant has made its file. -/
theorem mem_names_iff (h : Sound dir start pids steps c) (slot : Nat) :
    slotName slot ∈ c.directory.names ↔
      slotName slot ∈ start.names ∨ slotPath dir slot ∈ c.made := by
  obtain ⟨new, hentries, hnew⟩ := h.entries
  rw [← hnew.mem_iff, Directory.names, hentries, map_append, mem_append]
  refine or_congr_right ?_
  rw [mem_map, mem_map]
  constructor
  · rintro ⟨e, he, hname⟩
    exact ⟨e, he, congrArg (Path.join dir) hname⟩
  · rintro ⟨e, he, hpath⟩
    exact ⟨e, he, Path.join_injective dir hpath⟩

/-- A slot that was made was free at the start. -/
theorem free_of_made (h : Sound dir start pids steps c) {slot : Nat}
    (hm : slotPath dir slot ∈ c.made) : slotName slot ∉ start.names := by
  obtain ⟨new, hentries, hnew⟩ := h.entries
  have hdistinct := c.directory.distinct
  rw [hentries, map_append, nodup_append] at hdistinct
  rw [← hnew.mem_iff, mem_map] at hm
  obtain ⟨e, he, hpath⟩ := hm
  have hname : e.1 = slotName slot := Path.join_injective dir hpath
  exact fun hold => hdistinct.2.2 _ hold _ (mem_map_of_mem he) hname.symm

/-- Two claimants do not make the same file. -/
theorem eq_of_made (h : Sound dir start pids steps c) {i j : Nat} (hi : i < c.claimants.length)
    (hj : j < c.claimants.length) {path : OsString} (ha : path ∈ c.claimants[i].made)
    (hb : path ∈ c.claimants[j].made) : i = j :=
  eq_of_mem_flatMap h.made_nodup hi hj ha hb

end Sound

/-- Claimants other than the one that moves, with their places. -/
private theorem mem_set_cases {β : Type} {l : List β} {i : Nat} {a b : β} (h : a ∈ l.set i b) :
    a = b ∨ ∃ j, ∃ hj : j < l.length, j ≠ i ∧ l[j] = a := by
  obtain ⟨j, hj, rfl⟩ := getElem_of_mem h
  rw [length_set] at hj
  by_cases hij : i = j
  · left
    subst hij
    rw [getElem_set_self]
  · right
    exact ⟨j, hj, Ne.symm hij, (getElem_set_of_ne hij b (by simpa using hj)).symm⟩

/-- A step leaves what was there at the start alone. -/
theorem Sound.entries_step (h : Sound dir start pids steps c) {i : Nat}
    (hi : i < c.claimants.length) {x : Exchange System}
    {rest : Dialogue System (Except Failure Nat)} {d' : Directory}
    (he : c.claimants[i].Effect dir c.directory x d') :
    ∃ new, d'.entries = start.entries ++ new ∧
      (new.map fun e => Path.join dir e.1).Perm
        (made ⟨d', c.claimants.set i (c.claimants[i].after x rest)⟩) := by
  obtain ⟨new, hentries, hnew⟩ := h.entries
  have hmade : (made ⟨d', c.claimants.set i (c.claimants[i].after x rest)⟩).Perm
      (c.made ++ ((attempt? x).toList.filter (·.2)).map Prod.fst) :=
    flatMap_set_perm hi (Claimant.made_after _ _ _)
  cases he with
  | refused slot hx taken hw =>
    rw [hx] at hmade
    exact ⟨new, hentries, hnew.trans (by simpa using hmade.symm)⟩
  | claimed slot hx free hw empty =>
    rw [hx] at hmade
    refine ⟨new ++ [(slotName slot, [])], ?_, ?_⟩
    · rw [Directory.entries_add, hentries, append_assoc]
    · rw [map_append]
      exact (hnew.append_right _).trans hmade.symm
  | noted slot hx own =>
    rw [hx] at hmade
    -- The number goes into a file of the claimant's own, which is none of those at the start.
    have hfree : slotName slot ∉ start.names :=
      h.free_of_made (mem_flatMap.mpr ⟨_, getElem_mem hi, own⟩)
    refine ⟨new.map (Directory.lengthen (slotName slot) (written? x)), ?_, ?_⟩
    · have hstart : start.entries.map (Directory.lengthen (slotName slot) (written? x)) =
          start.entries := by
        refine (map_congr_left fun e he => ?_).trans (map_id _)
        exact Directory.lengthen_of_ne _ fun hname => hfree (hname ▸ mem_map_of_mem he)
      rw [Directory.entries_extend, hentries, map_append, hstart]
    · rw [map_map]
      simpa [Function.comp_def] using hnew.trans (by simpa using hmade.symm)
  | silent hx hw =>
    rw [hx] at hmade
    exact ⟨new, hentries, hnew.trans (by simpa using hmade.symm)⟩

/-- What is under the names of other claimants stays. -/
theorem Sound.kept_step (h : Sound dir start pids steps c) {i : Nat} (hi : i < c.claimants.length)
    {x : Exchange System} {rest : Dialogue System (Except Failure Nat)} {d' : Directory}
    (he : c.claimants[i].Effect dir c.directory x d') :
    ∀ w ∈ c.claimants.set i (c.claimants[i].after x rest), ∀ slot,
      slotPath dir slot ∈ w.made → (slotName slot, w.written) ∈ d'.entries := by
  intro w hw slot hm
  rcases mem_set_cases hw with rfl | ⟨j, hj, hne, rfl⟩
  · rw [Claimant.made_after, mem_append] at hm
    rw [Claimant.written_after]
    have hold := h.kept _ (getElem_mem hi) slot
    cases he with
    | refused other hx taken hw =>
      rw [hx] at hm
      rw [hw, append_nil]
      exact hold (by simpa using hm)
    | claimed other hx free hw empty =>
      rw [hx] at hm
      rw [hw, append_nil]
      rcases hm with hm | hm
      · exact mem_append_left _ (hold hm)
      · have hslot : slot = other := slotPath_injective dir (by simpa using hm)
        rw [hslot, empty]
        exact mem_append_right _ (mem_singleton.mpr rfl)
    | noted other hx own =>
      rw [hx] at hm
      have hm : slotPath dir slot ∈ c.claimants[i].made := by simpa using hm
      have hattempts := ((h.stages _ (getElem_mem hi)).of_made own).1
      rw [Claimant.made_of_claimed hattempts, mem_singleton] at hm
      obtain rfl := slotPath_injective dir hm
      exact mem_map.mpr ⟨_, hold own, if_pos rfl⟩
    | silent hx hw =>
      rw [hx] at hm
      rw [hw, append_nil]
      exact hold (by simpa using hm)
  · have hold := h.kept _ (getElem_mem hj) slot hm
    cases he with
    | refused other hx taken hw => exact hold
    | claimed other hx free hw empty => exact mem_append_left _ hold
    | noted other hx own =>
      refine mem_map.mpr ⟨_, hold, if_neg fun hname => hne ?_⟩
      obtain rfl : slot = other := slotName_injective hname
      exact h.eq_of_made hj hi hm own
    | silent hx hw => exact hold

theorem Sound.step (h : Sound dir start pids steps c) {i : Nat} {c' : Contest}
    (hs : Step dir i c c') : Sound dir start pids (steps + 1) c' := by
  cases hs with
  | serve hi hrest hserves =>
    obtain ⟨hstage, heffect⟩ := (h.stages _ (getElem_mem hi)).step hrest hserves
    refine ⟨?_, ?_, ?_, ?_, h.entries_step hi heffect, h.kept_step hi heffect⟩
    · rw [map_set, Claimant.pid_after,
        ← getElem_map Claimant.pid (h := by simpa using hi), set_getElem_self, h.pids]
    · rw [(flatMap_set_perm hi rfl).length_eq, length_append, h.steps]
      rfl
    · intro w hw
      rcases mem_set_cases hw with rfl | ⟨j, hj, _, rfl⟩
      · exact hstage
      · exact h.stages _ (getElem_mem hj)
    · intro w hw slot made hm
      rcases mem_set_cases hw with rfl | ⟨j, hj, _, rfl⟩
      · rw [Claimant.attempts_after, mem_append, Option.mem_toList] at hm
        rcases hm with hm | hm
        · exact heffect.names_subset (h.tried _ (getElem_mem hi) slot made hm)
        · exact heffect.tried hm
      · exact heffect.names_subset (h.tried _ (getElem_mem hj) slot made hm)

theorem Reaches.sound (h : Reaches dir (opening dir start pids) steps c) :
    Sound dir start pids steps c := by
  induction h with
  | start => exact sound_opening dir start pids
  | step _ hs ih => exact ih.step hs

end Contest

end WorkerFleet
