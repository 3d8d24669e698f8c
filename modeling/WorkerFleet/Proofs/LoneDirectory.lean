import WorkerFleet.Proofs.Claimant

/-!
# A directory with one who makes files in it

What becomes of a directory in the course of a run, if nobody else makes files there, and what the
search for a free slot in it comes to.

* `Directory.Alone`, `Directory.Through`: what a directory is like after a step, and after a run.
* `Directory.exists_lowest`: there is always a lowest slot that is free.
* `search_of_ends`: all that a search can come to.
* `ends_of_free`: a search finds the lowest free slot, if it may come that far.
-/

namespace WorkerFleet

open Dialogue Host StandIn

namespace StandIn

/-- A file was refused, though nothing of its name is there. -/
def refusal : Exchange System → Bool
  | ⟨.createNew _, .error e⟩ => e != .alreadyExists
  | _ => false

/-- Sleeping, and what goes through descriptors, is nothing to the directory. -/
def inert : Exchange System → Bool
  | ⟨.pause _, _⟩ => true
  | ⟨.closeFrom _, _⟩ => true
  | ⟨.write _ _, _⟩ => true
  | _ => false

end StandIn

namespace Directory

/-- How the system serves the only one who makes files in a directory. Whatever can be made can be
written to. -/
inductive Alone (dir : OsString) (pid : Pid) : Directory → Exchange System → Directory → Prop
  | serve {d d' : Directory} {x : Exchange System} (h : Serves dir pid d x d')
      (hkept : lostNumber x = false) : Alone dir pid d x d'
  | refuse {d : Directory} {x : Exchange System} (h : refusal x = true) : Alone dir pid d x d
  | pass {d : Directory} {x : Exchange System} (h : inert x = true) : Alone dir pid d x d

/-- What becomes of a directory in the course of a run. -/
inductive Through (dir : OsString) (pid : Pid) :
    Directory → List (Exchange System) → Directory → Prop
  | nil (d : Directory) : Through dir pid d [] d
  | cons {d d' d'' : Directory} {x : Exchange System} {t : List (Exchange System)}
      (hx : Alone dir pid d x d') (ht : Through dir pid d' t d'') : Through dir pid d (x :: t) d''

/-- The lowest slot whose name is not taken. -/
structure Lowest (d : Directory) (slot : Nat) : Prop where
  free : slotName slot ∉ d.names
  taken : ∀ k < slot, slotName k ∈ d.names

variable {dir : OsString} {pid : Pid} {d d' : Directory} {x : Exchange System}
  {t u : List (Exchange System)} {slot : Nat}

theorem through_cons_iff :
    Through dir pid d (x :: t) d' ↔ ∃ e, Alone dir pid d x e ∧ Through dir pid e t d' := by
  constructor
  · intro h
    cases h with
    | cons hx ht => exact ⟨_, hx, ht⟩
  · rintro ⟨e, hx, ht⟩
    exact .cons hx ht

theorem through_nil_iff : Through dir pid d [] d' ↔ d' = d := by
  constructor
  · intro h
    cases h
    rfl
  · rintro rfl
    exact .nil _

theorem through_append_iff :
    Through dir pid d (t ++ u) d' ↔ ∃ e, Through dir pid d t e ∧ Through dir pid e u d' := by
  induction t generalizing d with
  | nil => simp [through_nil_iff]
  | cons x t ih =>
    simp only [List.cons_append, through_cons_iff, ih]
    constructor
    · rintro ⟨e, hx, f, ht, hu⟩
      exact ⟨f, ⟨e, hx, ht⟩, hu⟩
    · rintro ⟨f, ⟨e, hx, ht⟩, hu⟩
      exact ⟨e, hx, f, ht, hu⟩

theorem alone_of_inert (h : inert x = true) : Alone dir pid d x d' ↔ d' = d := by
  constructor
  · intro hx
    cases hx with
    | serve hs => cases hs <;> cases h
    | refuse => rfl
    | pass => rfl
  · rintro rfl
    exact .pass h

theorem through_of_inert (h : ∀ x ∈ t, inert x = true) : Through dir pid d t d' ↔ d' = d := by
  induction t generalizing d with
  | nil => exact through_nil_iff
  | cons x t ih =>
    rw [through_cons_iff]
    have hx := h x List.mem_cons_self
    have ht := ih (d := d) fun y hy => h y (List.mem_cons_of_mem _ hy)
    simp only [alone_of_inert hx, exists_eq_left, ht]

theorem alone_ownPid_iff {reply : Pid} :
    Alone dir pid d ⟨.ownPid, reply⟩ d' ↔ reply = pid ∧ d' = d := by
  constructor
  · intro h
    cases h with
    | serve h =>
      cases h
      exact ⟨rfl, rfl⟩
    | refuse h => cases h
    | pass h => cases h
  · rintro ⟨rfl, rfl⟩
    exact .serve (.ownPid _) rfl

theorem Lowest.unique {other : Nat} (h : d.Lowest slot) (h' : d.Lowest other) : slot = other := by
  rcases Nat.lt_trichotomy slot other with hlt | heq | hlt
  · exact absurd (h'.taken slot hlt) h.free
  · exact heq
  · exact absurd (h.taken other hlt) h'.free

/-- Every directory has a slot that is free, and a lowest one. -/
theorem exists_lowest (d : Directory) : ∃ slot, slot ≤ d.entries.length ∧ d.Lowest slot := by
  have hfree : ∃ slot, slotName slot ∉ d.names := by
    by_contra hall
    push Not at hall
    have hle : d.names.length + 1 ≤ d.names.length := le_length_names fun j _ => hall j
    omega
  classical
  have hlowest : d.Lowest (Nat.find hfree) := by
    refine ⟨Nat.find_spec hfree, fun k hk => ?_⟩
    by_contra hnot
    exact Nat.find_min hfree hk hnot
  refine ⟨_, ?_, hlowest⟩
  simpa [names] using le_length_names hlowest.taken

/-- A slot's file, once its number is in it. -/
theorem entries_extend_add (d : Directory) {name : OsString} (free : name ∉ d.names)
    (bytes : List UInt8) :
    ((d.add name free).extend name bytes).entries = d.entries ++ [(name, bytes)] := by
  have hothers : d.entries.map (lengthen name bytes) = d.entries := by
    refine (List.map_congr_left fun e he => ?_).trans (List.map_id _)
    refine lengthen_of_ne bytes ?_
    rintro rfl
    exact free (List.mem_map_of_mem he)
  rw [entries_extend, entries_add, List.map_append, hothers]
  simp [lengthen]

theorem alone_createNew_iff {reply : Except OsError Unit} :
    Alone dir pid d ⟨.createNew (slotPath dir slot), reply⟩ d' ↔
      (∃ free, reply = .ok () ∧ d' = d.add (slotName slot) free) ∨
      (slotName slot ∈ d.names ∧ reply = .error .alreadyExists ∧ d' = d) ∨
      ∃ e, e ≠ .alreadyExists ∧ reply = .error e ∧ d' = d := by
  constructor
  · intro h
    cases h with
    | serve h =>
      cases h with
      | create name _ hpath free =>
        obtain rfl : slotName slot = name := Path.join_injective dir hpath
        exact .inl ⟨free, rfl, rfl⟩
      | collide name _ hpath taken =>
        obtain rfl : slotName slot = name := Path.join_injective dir hpath
        exact .inr (.inl ⟨taken, rfl, rfl⟩)
    | refuse h =>
      cases reply with
      | ok made => cases h
      | error e => exact .inr (.inr ⟨e, bne_iff_ne.mp h, rfl, rfl⟩)
    | pass h => cases h
  · rintro (⟨free, rfl, rfl⟩ | ⟨taken, rfl, rfl⟩ | ⟨e, he, rfl, rfl⟩)
    · exact .serve (.create _ _ _ rfl free) rfl
    · exact .serve (.collide _ _ _ rfl taken) rfl
    · exact .refuse (bne_iff_ne.mpr he)

theorem alone_append_iff {bytes : List UInt8} {reply : Except OsError Unit} :
    Alone dir pid d ⟨.append (slotPath dir slot) bytes, reply⟩ d' ↔
      slotName slot ∈ d.names ∧ reply = .ok () ∧ d' = d.extend (slotName slot) bytes := by
  constructor
  · intro h
    cases h with
    | serve h hkept =>
      cases h with
      | write name _ _ hpath held =>
        obtain rfl : slotName slot = name := Path.join_injective dir hpath
        exact ⟨held, rfl, rfl⟩
      | lose => cases hkept
    | refuse h => cases h
    | pass h => cases h
  · rintro ⟨held, rfl, rfl⟩
    exact .serve (.write _ _ _ _ rfl held) rfl

end Directory

namespace StandIn

open Directory

/-- Attempts at slots that are taken, from `slot` on. -/
def collisions (dir : OsString) : (slot count : Nat) → List (Exchange System)
  | _, 0 => []
  | slot, count + 1 =>
    ⟨.createNew (slotPath dir slot), (.error .alreadyExists : Except OsError Unit)⟩ ::
      collisions dir (slot + 1) count

@[simp] theorem collisions_zero (dir : OsString) (slot : Nat) : collisions dir slot 0 = [] := rfl

/-- All slots from one on are taken, up to a second one. -/
def TakenTo (d : Directory) (slot last : Nat) : Prop :=
  ∀ k, slot ≤ k → k < last → slotName k ∈ d.names

/-- What the search for a slot comes to that tries them from `slot` on, up to a limit. -/
inductive Search (dir : OsString) (d : Directory) (slot limit : Nat) :
    List (Exchange System) → Except Failure Nat → Directory → Prop
  | found {own : Nat} (hle : slot ≤ own) (hlt : own < limit) (taken : TakenTo d slot own)
      (free : slotName own ∉ d.names) :
      Search dir d slot limit
        (collisions dir slot (own - slot) ++
          [⟨.createNew (slotPath dir own), (.ok () : Except OsError Unit)⟩])
        (.ok own) (d.add (slotName own) free)
  | refused {last : Nat} {e : OsError} (hle : slot ≤ last) (hlt : last < limit)
      (taken : TakenTo d slot last) (he : e ≠ .alreadyExists) :
      Search dir d slot limit
        (collisions dir slot (last - slot) ++
          [⟨.createNew (slotPath dir last), (.error e : Except OsError Unit)⟩])
        (.error (.slotFile e)) d
  | full (taken : TakenTo d slot limit) :
      Search dir d slot limit (collisions dir slot (limit - slot)) (.error .slotOverflow) d

variable {dir : OsString} {pid : Pid} {d d' : Directory} {t : List (Exchange System)}
  {slot limit : Nat} {v : Except Failure Nat}

theorem takenTo_self (d : Directory) (slot : Nat) : TakenTo d slot slot := by
  intro k hle hlt
  omega

theorem TakenTo.cons {last : Nat} (htaken : slotName slot ∈ d.names)
    (h : TakenTo d (slot + 1) last) : TakenTo d slot last := by
  intro k hle hlt
  rcases Nat.eq_or_lt_of_le hle with rfl | hle
  · exact htaken
  · exact h k hle hlt

theorem TakenTo.tail {last : Nat} (h : TakenTo d slot last) : TakenTo d (slot + 1) last := by
  intro k hle hlt
  exact h k (by omega) hlt

theorem collisions_cons (dir : OsString) {last : Nat} (hlt : slot < last) :
    collisions dir slot (last - slot) =
      ⟨.createNew (slotPath dir slot), (.error .alreadyExists : Except OsError Unit)⟩ ::
        collisions dir (slot + 1) (last - (slot + 1)) := by
  obtain ⟨count, rfl⟩ : ∃ count, last = slot + 1 + count := ⟨last - (slot + 1), by omega⟩
  have hcount : slot + 1 + count - slot = count + 1 := by omega
  rw [hcount, collisions, Nat.add_sub_cancel_left]

/-- A slot that is taken only makes the search longer. -/
theorem Search.cons (htaken : slotName slot ∈ d.names) (hlt : slot < limit)
    (h : Search dir d (slot + 1) limit t v d') :
    Search dir d slot limit
      (⟨.createNew (slotPath dir slot), (.error .alreadyExists : Except OsError Unit)⟩ :: t)
      v d' := by
  cases h with
  | found hle hown taken free =>
    rw [← List.cons_append, ← collisions_cons dir hle]
    exact .found (Nat.le_of_lt hle) hown (taken.cons htaken) free
  | refused hle hlast taken he =>
    rw [← List.cons_append, ← collisions_cons dir hle]
    exact .refused (Nat.le_of_lt hle) hlast (taken.cons htaken) he
  | full taken =>
    rw [← collisions_cons dir hlt]
    exact .full (taken.cons htaken)

theorem search_of_ends {remaining : Nat} (hlimit : slot + remaining = limit)
    (hend : (claimFrom dir remaining slot).Ends t v) (h : Through dir pid d t d') :
    Search dir d slot limit t v d' := by
  -- along the slots still to be tried: the directory stays the same until one of them is free
  induction remaining generalizing slot t with
  | zero =>
    obtain ⟨rfl, rfl⟩ := (ends_done _ _ _).mp hend
    obtain rfl := through_nil_iff.mp h
    obtain rfl : slot = limit := hlimit
    have hfull : Search dir d' slot slot _ _ d' := .full (takenTo_self d' slot)
    simpa using hfull
  | succ remaining ih =>
    obtain ⟨reply, u, rfl, hu⟩ := (ends_ask _ _ _ _).mp hend
    obtain ⟨e, hx, hthrough⟩ := through_cons_iff.mp h
    rcases alone_createNew_iff.mp hx with ⟨free, rfl, rfl⟩ | ⟨taken, rfl, rfl⟩ | ⟨e, he, rfl, rfl⟩
    · obtain ⟨rfl, rfl⟩ := (ends_done _ _ _).mp hu
      obtain rfl := through_nil_iff.mp hthrough
      have hfound : Search dir d slot limit _ (.ok slot) _ :=
        .found (Nat.le_refl slot) (by omega) (takenTo_self d slot) free
      simpa using hfound
    · dsimp only at hu
      rw [if_pos rfl] at hu
      exact (ih (by omega) hu hthrough).cons taken (by omega)
    · dsimp only at hu
      rw [if_neg he] at hu
      obtain ⟨rfl, rfl⟩ := (ends_done _ _ _).mp hu
      obtain rfl := through_nil_iff.mp hthrough
      have hrefused : Search dir d' slot limit _ (.error (.slotFile e)) _ :=
        .refused (Nat.le_refl slot) (by omega) (takenTo_self d' slot) he
      simpa using hrefused

/-- The search finds a slot that is free, if all before it are taken and it may come that far. -/
theorem ends_of_free {remaining own : Nat} (hle : slot ≤ own) (hlt : own < slot + remaining)
    (taken : TakenTo d slot own) (free : slotName own ∉ d.names) :
    ∃ t, (claimFrom dir remaining slot).Ends t (.ok own) ∧
      Through dir pid d t (d.add (slotName own) free) ∧ ∀ x ∈ t, refusal x = false := by
  induction remaining generalizing slot with
  | zero => omega
  | succ remaining ih =>
    rcases Nat.eq_or_lt_of_le hle with rfl | hlater
    · refine ⟨[⟨.createNew (slotPath dir slot), (.ok () : Except OsError Unit)⟩], ?_, ?_, ?_⟩
      · exact .next (.here _)
      · exact .cons (alone_createNew_iff.mpr (.inl ⟨free, rfl, rfl⟩)) (.nil _)
      · simp [refusal]
    · obtain ⟨t, hend, hthrough, hworks⟩ := ih hlater (by omega) taken.tail
      refine ⟨⟨.createNew (slotPath dir slot), (.error .alreadyExists : Except OsError Unit)⟩ :: t,
        ?_, ?_, ?_⟩
      · refine .next ?_
        dsimp only
        rw [if_pos rfl]
        exact hend
      · have htaken := taken slot (Nat.le_refl _) hlater
        exact .cons (alone_createNew_iff.mpr (.inr (.inl ⟨htaken, rfl, rfl⟩))) hthrough
      · simpa [refusal] using hworks

end StandIn

end WorkerFleet
