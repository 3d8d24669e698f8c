import Mathlib.Algebra.Order.BigOperators.Group.List
import Mathlib.Data.Nat.Nth
import WorkerFleet.Proofs.Contest

/-!
# The lowest slots

Which slots claimants get that share a directory, and that they all come to an end.

* `Contest.Sound.lowest`: the slots that were claimed are the lowest ones that were free.
* `Contest.Sound.slot_lt`, `Contest.Sound.steps_le`: bounds of the slots and of whole runs.
* `lowest_slots_claimed`: how a contest stands at any moment.
-/

namespace WorkerFleet

open Dialogue Host List StandIn

namespace Contest

variable {dir : OsString} {start : Directory} {pids : List Pid} {steps : Nat} {c : Contest}

/-- Numbers that have a property, together with all lower ones that have it, are the lowest ones. -/
theorem perm_nth {p : Nat → Prop} {slots : List Nat} (hnd : slots.Nodup) (hp : ∀ k ∈ slots, p k)
    (hdown : ∀ k ∈ slots, ∀ j < k, p j → j ∈ slots) :
    slots.Perm ((range slots.length).map (Nat.nth p)) := by
  classical
  refine (hnd.subperm fun k hk => ?_).perm_of_length_le (by simp)
  -- All numbers with the property below `k` are in the list, so `k` comes early among them.
  have hlt : Nat.count p k < slots.length := by
    have hbelow : insert k ((Finset.range k).filter p) ⊆ slots.toFinset := by
      intro j hj
      rw [Finset.mem_insert, Finset.mem_filter, Finset.mem_range] at hj
      rw [mem_toFinset]
      rcases hj with rfl | ⟨hj, hpj⟩
      · exact hk
      · exact hdown k hk j hj hpj
    have hcard := Finset.card_le_card hbelow
    rw [Finset.card_insert_of_notMem (by simp), toFinset_card_of_nodup hnd,
      ← Nat.count_eq_card_filter_range] at hcard
    exact hcard
  exact mem_map.mpr ⟨_, mem_range.mpr hlt, Nat.nth_count (hp k hk)⟩

namespace Sound

/-- The files that were made are those of some slots. -/
theorem exists_slots (h : Sound dir start pids steps c) :
    ∃ slots : List Nat, c.made = slots.map (slotPath dir) := by
  have hslot : ∀ path ∈ c.made, path ∈ Set.range (slotPath dir) := by
    intro path hpath
    obtain ⟨w, hw, hm⟩ := mem_flatMap.mp hpath
    rcases (h.stages w hw).made_cases with hmade | ⟨slot, hmade⟩
    · rw [hmade] at hm
      cases hm
    · rw [hmade, mem_singleton] at hm
      exact ⟨slot, hm.symm⟩
  have hrange : c.made ∈ Set.range (map (slotPath dir)) := by
    rw [Set.range_list_map]
    exact hslot
  obtain ⟨slots, hslots⟩ := hrange
  exact ⟨slots, hslots.symm⟩

/-- Every slot below one that was made is taken. -/
theorem taken_below (h : Sound dir start pids steps c) {slot : Nat}
    (hm : slotPath dir slot ∈ c.made) {j : Nat} (hj : j ≤ slot) :
    slotName j ∈ c.directory.names := by
  rcases Nat.lt_or_eq_of_le hj with hlt | rfl
  · obtain ⟨w, hw, hmw⟩ := mem_flatMap.mp hm
    refine h.tried w hw j false ?_
    rw [((h.stages w hw).of_made hmw).1, Claimant.claimed, Claimant.refusals, mem_append, mem_map]
    exact .inl ⟨j, mem_range.mpr hlt, rfl⟩
  · exact (h.mem_names_iff j).mpr (.inr hm)

theorem lowest (h : Sound dir start pids steps c) :
    c.made.Perm ((range c.made.length).map fun i =>
      slotPath dir (Nat.nth (fun slot => slotName slot ∉ start.names) i)) := by
  obtain ⟨slots, hslots⟩ := h.exists_slots
  have hmem : ∀ slot, slotPath dir slot ∈ c.made ↔ slot ∈ slots := by
    intro slot
    rw [hslots]
    exact mem_map_of_injective (slotPath_injective dir)
  have hnd : slots.Nodup := by
    have hmade := h.made_nodup
    rw [hslots] at hmade
    exact hmade.of_map
  have hlowest := perm_nth (p := fun slot => slotName slot ∉ start.names) hnd
    (fun slot hs => h.free_of_made ((hmem slot).mpr hs)) fun slot hs j hj hfree => by
      have htaken := h.taken_below ((hmem slot).mpr hs) (Nat.le_of_lt hj)
      exact (hmem j).mp (((h.mem_names_iff j).mp htaken).resolve_left hfree)
  rw [hslots, length_map]
  simpa [Function.comp_def] using hlowest.map (slotPath dir)

/-- As many names are taken as there were at the start and were made. -/
theorem length_names (h : Sound dir start pids steps c) :
    c.directory.names.length = start.names.length + c.made.length := by
  obtain ⟨new, hentries, hnew⟩ := h.entries
  simp [Directory.names, hentries, ← hnew.length_eq]

theorem length_made (h : Sound dir start pids steps c) : c.made.length = c.holders := by
  have hcases : ∀ w ∈ c.claimants, w.made.length = if w.made.isEmpty then 0 else 1 := by
    intro w hw
    rcases (h.stages w hw).made_cases with hmade | ⟨slot, hmade⟩ <;> simp [hmade]
  rw [made, holders]
  generalize c.claimants = claimants at hcases
  induction claimants with
  | nil => rfl
  | cons w rest ih =>
    have hw := hcases w mem_cons_self
    have hrest := ih fun w hw => hcases w (mem_cons_of_mem _ hw)
    rw [flatMap_cons, length_append, countP_cons, hrest, hw]
    cases w.made.isEmpty <;> simp [Nat.add_comm]

theorem length_claimants (h : Sound dir start pids steps c) :
    c.claimants.length = pids.length := by
  rw [← h.pids, length_map]

theorem holders_le (h : Sound dir start pids steps c) : c.holders ≤ pids.length := by
  rw [← h.length_claimants]
  exact countP_le_length

/-- A slot that was made is small, since all below it are taken. -/
theorem slot_lt (h : Sound dir start pids steps c) {slot : Nat}
    (hm : slotPath dir slot ∈ c.made) : slot < start.names.length + c.holders := by
  have hle : slot + 1 ≤ c.directory.names.length :=
    le_length_names fun j hj => h.taken_below hm (Nat.le_of_lt_succ hj)
  rw [h.length_names, h.length_made] at hle
  exact hle

/-- A claimant without a file has made no more attempts than there are names. -/
theorem attempts_le (h : Sound dir start pids steps c) {w : Claimant} (hw : w ∈ c.claimants)
    {slot : Nat} (ha : w.attempts = Claimant.refusals dir slot) :
    slot ≤ start.names.length + c.holders := by
  rw [← h.length_made, ← h.length_names]
  refine le_length_names fun j hj => h.tried w hw j false ?_
  rw [ha, Claimant.refusals]
  exact mem_map.mpr ⟨j, mem_range.mpr hj, rfl⟩

theorem length_history_le (h : Sound dir start pids steps c) {w : Claimant}
    (hw : w ∈ c.claimants) :
    w.history.length ≤ start.names.length + pids.length + 2 := by
  have hholders := h.holders_le
  rcases (h.stages w hw).made_cases with hmade | ⟨slot, hmade⟩
  · obtain ⟨slot, remaining, _, ha, hlen, _⟩ := (h.stages w hw).of_not_made hmade
    have hle := h.attempts_le hw ha
    omega
  · have hm : slotPath dir slot ∈ w.made := by simp [hmade]
    obtain ⟨_, _, hlen⟩ := (h.stages w hw).of_made hm
    have hlt := h.slot_lt (mem_flatMap.mpr ⟨w, hw, hm⟩)
    omega

theorem steps_le (h : Sound dir start pids steps c) :
    steps ≤ pids.length * (start.names.length + pids.length + 2) := by
  have hmem : ∀ n ∈ c.claimants.map fun w => w.history.length,
      n ≤ start.names.length + pids.length + 2 := by
    intro n hn
    obtain ⟨w, hw, rfl⟩ := mem_map.mp hn
    exact h.length_history_le hw
  have hsum := List.sum_le_card_nsmul _ _ hmem
  rw [length_map, Nat.nsmul_eq_mul, h.length_claimants] at hsum
  rw [← h.steps, length_flatMap]
  exact hsum

/-- A claimant that has ended without a file has found every slot taken. -/
theorem of_exhausted (h : Sound dir start pids steps c) {w : Claimant} (hw : w ∈ c.claimants)
    (hmade : w.made = []) {v : Except Failure Nat} (hv : w.rest = .done v) :
    v = .error .slotOverflow ∧ slotLimit ≤ start.names.length + c.holders ∧
      c.holders < pids.length := by
  obtain ⟨slot, remaining, hsum, ha, _, hrest⟩ := (h.stages w hw).of_not_made hmade
  rw [hv] at hrest
  cases remaining with
  | succ remaining => cases hrest
  | zero =>
    cases hrest
    have hle := h.attempts_le hw ha
    have hlt : c.holders < c.claimants.length := by
      rw [holders, countP_lt_length_iff]
      exact ⟨w, hw, by simp [hmade]⟩
    rw [h.length_claimants] at hlt
    exact ⟨rfl, by omega, hlt⟩

/-- A claimant that has ended with a file has noted its number there, unless that failed. -/
theorem of_ended (h : Sound dir start pids steps c) {w : Claimant} (hw : w ∈ c.claimants)
    {slot : Nat} (hm : slotPath dir slot ∈ w.made) {v : Except Failure Nat}
    (hv : w.rest = .done v) :
    v = .ok slot ∧ (slotName slot, pidLine w.pid) ∈ c.directory.entries ∨
      ∃ e, v = .error (.slotContent e) := by
  have hkept := h.kept w hw slot hm
  cases h.stages w hw with
  | searching other remaining sum attempts length written rest =>
    rw [Claimant.made_of_refusals attempts] at hm
    cases hm
  | holding other small attempts length written rest =>
    rw [hv] at rest
    cases rest
  | noting other small attempts length written rest =>
    rw [hv] at rest
    cases rest
  | ended other small attempts length result written rest =>
    rw [Claimant.made_of_claimed attempts, mem_singleton] at hm
    obtain rfl := slotPath_injective dir hm
    rw [hv] at rest
    cases result with
    | error e =>
      cases rest
      exact .inr ⟨e, rfl⟩
    | ok noted =>
      cases rest
      rw [written rfl] at hkept
      exact .inl ⟨rfl, hkept⟩

/-- A claimant that has not ended can be served at once. -/
theorem goes_on (h : Sound dir start pids steps c) {i : Nat} (hi : i < c.claimants.length) :
    (∃ c', Step dir i c c') ∨ ∃ v, c.claimants[i].rest = .done v := by
  have hw : c.claimants[i] ∈ c.claimants := getElem_mem hi
  cases h.stages _ hw with
  | searching slot remaining sum attempts length written rest =>
    cases remaining with
    | zero => exact .inr ⟨_, rest⟩
    | succ remaining =>
      by_cases htaken : slotName slot ∈ c.directory.names
      · exact .inl ⟨_, .serve c hi rest (.collide _ _ _ rfl htaken)⟩
      · exact .inl ⟨_, .serve c hi rest (.create _ _ _ rfl htaken)⟩
  | holding slot small attempts length written rest =>
    exact .inl ⟨_, .serve c hi rest (.ownPid _)⟩
  | noting slot small attempts length written rest =>
    have hm : slotPath dir slot ∈ c.claimants[i].made := by
      simp [Claimant.made_of_claimed attempts]
    have htaken := h.taken_below (mem_flatMap.mpr ⟨_, hw, hm⟩) (Nat.le_refl slot)
    exact .inl ⟨_, .serve c hi rest (.write _ _ _ _ rfl htaken)⟩
  | ended slot small attempts length result written rest =>
    cases result with
    | error e => exact .inr ⟨_, rest⟩
    | ok noted => exact .inr ⟨_, rest⟩

/-- In a directory that was empty, claimants that have all ended hold the first slots. -/
theorem holders_of_empty (h : Sound dir start pids steps c) (hempty : start.names = [])
    (hover : ∀ w ∈ c.claimants, ∃ v, w.rest = .done v) :
    c.holders = min pids.length slotLimit := by
  have hle := h.holders_le
  have hsmall : c.holders ≤ slotLimit := by
    obtain ⟨slots, hslots⟩ := h.exists_slots
    have hnd : slots.Nodup := by
      have hmade := h.made_nodup
      rw [hslots] at hmade
      exact hmade.of_map
    have hsub : slots ⊆ range slotLimit := by
      intro slot hs
      have hm : slotPath dir slot ∈ c.made := hslots ▸ mem_map_of_mem hs
      obtain ⟨w, hw, hmw⟩ := mem_flatMap.mp hm
      exact mem_range.mpr ((h.stages w hw).of_made hmw).2.1
    have hlen := (hnd.subperm hsub).length_le
    rw [length_range] at hlen
    rw [← h.length_made, hslots, length_map]
    exact hlen
  by_cases hall : ∀ w ∈ c.claimants, w.made ≠ []
  · have hholders : c.holders = c.claimants.length := by
      rw [holders, countP_eq_length]
      intro w hw
      simpa using hall w hw
    rw [h.length_claimants] at hholders
    omega
  · push Not at hall
    obtain ⟨w, hw, hmade⟩ := hall
    obtain ⟨v, hv⟩ := hover w hw
    obtain ⟨_, hword, hlt⟩ := h.of_exhausted hw hmade hv
    rw [hempty, length_nil] at hword
    omega

end Sound

/-- How a contest stands at any moment. -/
structure Lawful (dir : OsString) (start : Directory) (pids : List Pid) (steps : Nat)
    (c : Contest) : Prop where
  distinct : c.made.Nodup
  /-- The slots claimed so far are the lowest of those that were free. -/
  lowest : c.made.Perm ((range c.holders).map fun i =>
    slotPath dir (Nat.nth (fun slot => slotName slot ∉ start.names) i))
  /-- What was there at the start is left alone, and what has come is what was claimed. -/
  unchanged : ∃ new, c.directory.entries = start.entries ++ new ∧
    (new.map fun e => Path.join dir e.1).Perm c.made
  holder : ∀ path ∈ c.made, ∃! i : Nat, ∃ w, c.claimants[i]? = some w ∧ path ∈ w.made
  /-- The claimant of a slot tried all slots up to it, once each. -/
  attempts : ∀ w ∈ c.claimants, ∀ slot, slotPath dir slot ∈ w.made →
    w.made = [slotPath dir slot] ∧ w.attempts.length = slot + 1 ∧
      slot < start.names.length + pids.length
  /-- No run is longer than that. -/
  bounded : steps ≤ pids.length * (start.names.length + pids.length + 2)
  /-- Nobody has to wait for another. -/
  goesOn : ∀ i w, c.claimants[i]? = some w →
    (∃ c', Step dir i c c') ∨ ∃ v, w.rest = .done v
  /-- Who has ended holds a slot, or there were too many for all slots that can be numbered. -/
  result : ∀ w ∈ c.claimants, ∀ v, w.rest = .done v →
    (∃ slot, slotPath dir slot ∈ w.made ∧
      (v = .ok slot ∧ (slotName slot, pidLine w.pid) ∈ c.directory.entries ∨
        ∃ e, v = .error (.slotContent e))) ∨
    (w.made = [] ∧ v = .error .slotOverflow ∧ slotLimit < start.names.length + pids.length)
  ofEmpty : start.names = [] → (∀ w ∈ c.claimants, ∃ v, w.rest = .done v) →
    c.made.Perm ((range (min pids.length slotLimit)).map (slotPath dir))

end Contest

open Contest in
/-- However the steps of the claimants mix, they claim the lowest free slots, one each, and all of
them come to an end. -/
theorem lowest_slots_claimed {dir : OsString} {start : Directory} {pids : List Pid} {steps : Nat}
    {c : Contest} (h : Reaches dir (opening dir start pids) steps c) :
    Lawful dir start pids steps c := by
  have hs := h.sound
  have hlowest := hs.lowest
  rw [hs.length_made] at hlowest
  refine ⟨hs.made_nodup, hlowest, hs.entries, ?_, ?_, hs.steps_le, ?_, ?_, ?_⟩
  · intro path hpath
    obtain ⟨w, hw, hm⟩ := mem_flatMap.mp hpath
    obtain ⟨i, hi, rfl⟩ := getElem_of_mem hw
    refine ⟨i, ⟨_, getElem?_eq_getElem hi, hm⟩, ?_⟩
    rintro j ⟨other, hother, hmo⟩
    obtain ⟨hj, rfl⟩ := List.getElem?_eq_some_iff.mp hother
    exact hs.eq_of_made hj hi hmo hm
  · intro w hw slot hm
    obtain ⟨ha, _, _⟩ := (hs.stages w hw).of_made hm
    have hlt := hs.slot_lt (mem_flatMap.mpr ⟨w, hw, hm⟩)
    have hle := hs.holders_le
    refine ⟨Claimant.made_of_claimed ha, ?_, by omega⟩
    simp [ha, Claimant.claimed, Claimant.refusals]
  · intro i w hw
    obtain ⟨hi, rfl⟩ := List.getElem?_eq_some_iff.mp hw
    exact hs.goes_on hi
  · intro w hw v hv
    rcases (hs.stages w hw).made_cases with hmade | ⟨slot, hmade⟩
    · obtain ⟨hfull, hword, hlt⟩ := hs.of_exhausted hw hmade hv
      exact .inr ⟨hmade, hfull, by omega⟩
    · have hm : slotPath dir slot ∈ w.made := by simp [hmade]
      exact .inl ⟨slot, hm, hs.of_ended hw hm hv⟩
  · intro hempty hover
    rw [hs.holders_of_empty hempty hover, hempty] at hlowest
    simpa using hlowest

def Directory.used : Directory where
  entries := [(slotName 0, [55, 10]), (slotName 2, [])]
  distinct := by decide +kernel

open Contest in
/-- Both claimants find the slot 0 taken, the second one is first at 1, and so 3 is left. -/
theorem lowest_slots_claimed_crossed :
    ∃ c, Reaches ⟨[]⟩ (opening ⟨[]⟩ .used [7, 8]) 10 c ∧
      c.made = [slotPath ⟨[]⟩ 3, slotPath ⟨[]⟩ 1] ∧ Lawful ⟨[]⟩ .used [7, 8] 10 c := by
  have h : Reaches ⟨[]⟩ (opening ⟨[]⟩ .used [7, 8]) 0 _ := .start
  have h := h.step (i := 0) (.serve _ (by decide) rfl (.collide _ _ _ rfl (by decide +kernel)))
  have h := h.step (i := 1) (.serve _ (by decide) rfl (.collide _ _ _ rfl (by decide +kernel)))
  have h := h.step (i := 1) (.serve _ (by decide) rfl (.create _ _ _ rfl (by decide +kernel)))
  have h := h.step (i := 0) (.serve _ (by decide) rfl (.collide _ _ _ rfl (by decide +kernel)))
  have h := h.step (i := 1) (.serve _ (by decide) rfl (.ownPid _))
  have h := h.step (i := 0) (.serve _ (by decide) rfl (.collide _ _ _ rfl (by decide +kernel)))
  have h := h.step (i := 0) (.serve _ (by decide) rfl (.create _ _ _ rfl (by decide +kernel)))
  have h := h.step (i := 1) (.serve _ (by decide) rfl (.write _ _ _ _ rfl (by decide +kernel)))
  have h := h.step (i := 0) (.serve _ (by decide) rfl (.ownPid _))
  have h := h.step (i := 0) (.serve _ (by decide) rfl (.write _ _ _ _ rfl (by decide +kernel)))
  exact ⟨_, h, rfl, lowest_slots_claimed h⟩

end WorkerFleet
