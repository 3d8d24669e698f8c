import WorkerFleet.Proofs.Conclusion
import WorkerFleet.Proofs.LoneDirectory

/-!
# A stand-in on its own

What a single run of a stand-in leaves in its directory, and what comes of the run, if nobody else
makes files there. The slot is claimed before anything else is read, so a run that fails later on
leaves the same behind as one that does not.

* `claims_of_ends`: all that the claim of a slot can come to.
* `loneRun_iff`: a whole run is a claim and what comes after it.
* `leaves_own_slot`: what a run leaves, and its exit code.
-/

namespace WorkerFleet.StandIn

open Dialogue Host Directory Text Quoted

variable {dir : OsString} {pid : Pid} {d d' : Directory} {t : List (Exchange System)}
  {v : Except Failure Nat}

theorem Concludes.inert {env : Environment} {slot code : Nat} (h : Concludes env slot t code) :
    ∀ x ∈ t, inert x = true := by
  have hnap : ∀ sleep, ∀ x ∈ nap sleep, StandIn.inert x = true := by
    intro sleep
    cases sleep <;> simp [nap, StandIn.inert]
  cases h with
  | badIndex => simp [complain, StandIn.inert]
  | badSleep => simp [complain, StandIn.inert]
  | badCode hi hs hc reply =>
    intro x hx
    rcases List.mem_append.mp hx with hx | hx
    · exact hnap _ x hx
    · rw [List.mem_singleton.mp hx]
      rfl
  | exits => exact hnap _

theorem refusal_of_inert {x : Exchange System} (h : inert x = true) : refusal x = false := by
  obtain ⟨r, reply⟩ := x
  cases r with
  | createNew => cases h
  | _ => rfl

def recording (dir : OsString) (pid : Pid) (own : Nat) : List (Exchange System) :=
  collisions dir 0 own ++
    [⟨.createNew (slotPath dir own), (.ok () : Except OsError Unit)⟩, ⟨.ownPid, pid⟩,
      ⟨.append (slotPath dir own) (pidLine pid), (.ok () : Except OsError Unit)⟩]

def refused (dir : OsString) (last : Nat) (e : OsError) : List (Exchange System) :=
  collisions dir 0 last ++
    [⟨.createNew (slotPath dir last), (.error e : Except OsError Unit)⟩]

theorem refusal_refused (dir : OsString) (last : Nat) {e : OsError} (he : e ≠ .alreadyExists) :
    ∃ x ∈ refused dir last e, refusal x = true :=
  ⟨⟨.createNew (slotPath dir last), (.error e : Except OsError Unit)⟩, by simp [refused],
    by simp [refusal, he]⟩

/-- What a claim comes to. -/
inductive Claims (dir : OsString) (pid : Pid) (d : Directory) :
    List (Exchange System) → Except Failure Nat → Directory → Prop
  | recorded {own : Nat} {d' : Directory} (hlt : own < slotLimit) (hlowest : d.Lowest own)
      (hentries : d'.entries = d.entries ++ [(slotName own, pidLine pid)]) :
      Claims dir pid d (recording dir pid own) (.ok own) d'
  | refused {last : Nat} {e : OsError} (he : e ≠ .alreadyExists) :
      Claims dir pid d (refused dir last e) (.error (.slotFile e)) d
  | full (taken : ∀ k < slotLimit, slotName k ∈ d.names) :
      Claims dir pid d (collisions dir 0 slotLimit) (.error .slotOverflow) d

theorem claims_of_ends (hend : (claimSlot dir).Ends t v) (h : Through dir pid d t d') :
    Claims dir pid d t v d' := by
  rw [claimSlot_eq, ends_bind] at hend
  obtain ⟨u, claim, u', rfl, hu, hk⟩ := hend
  obtain ⟨e, hsearch, hnote⟩ := through_append_iff.mp h
  cases search_of_ends (Nat.zero_add _) hu hsearch with
  | found hle hlt taken free =>
    obtain ⟨reply, w, rfl, hw⟩ := (ends_ask _ _ _ _).mp hk
    obtain ⟨written, w', rfl, hw'⟩ := (ends_ask _ _ _ _).mp hw
    obtain ⟨f, hx, hrest⟩ := through_cons_iff.mp hnote
    obtain ⟨rfl, rfl⟩ := alone_ownPid_iff.mp hx
    obtain ⟨g, hx, hnil⟩ := through_cons_iff.mp hrest
    obtain ⟨-, rfl, rfl⟩ := alone_append_iff.mp hx
    obtain ⟨rfl, rfl⟩ := (ends_done _ _ _).mp hw'
    obtain rfl := through_nil_iff.mp hnil
    have hlowest : d.Lowest _ := ⟨free, fun k hk => taken k (Nat.zero_le k) hk⟩
    have hrecorded : Claims dir reply d _ _ _ :=
      .recorded hlt hlowest (entries_extend_add d free (pidLine reply))
    simpa [recording] using hrecorded
  | refused hle hlt taken he =>
    obtain ⟨rfl, rfl⟩ := (ends_done _ _ _).mp hk
    obtain rfl := through_nil_iff.mp hnote
    rw [List.append_nil]
    exact .refused he
  | full taken =>
    obtain ⟨rfl, rfl⟩ := (ends_done _ _ _).mp hk
    obtain rfl := through_nil_iff.mp hnote
    rw [List.append_nil]
    exact .full fun k hk => taken k (Nat.zero_le k) hk

theorem exists_ends_claimSlot (dir : OsString) (pid : Pid) {own : Nat} (hlt : own < slotLimit)
    (hlowest : d.Lowest own) :
    ∃ t d', (claimSlot dir).Ends t (.ok own) ∧ Through dir pid d t d' ∧
      ∀ x ∈ t, refusal x = false := by
  obtain ⟨t, hend, hthrough, hworks⟩ : ∃ t, (claimFrom dir slotLimit 0).Ends t (.ok own) ∧
      Through dir pid d t (d.add (slotName own) hlowest.free) ∧ ∀ x ∈ t, refusal x = false :=
    ends_of_free (Nat.zero_le own) (by omega) (fun k _ hk => hlowest.taken k hk) hlowest.free
  have hnote : Through dir pid (d.add (slotName own) hlowest.free)
      [⟨.ownPid, pid⟩, ⟨.append (slotPath dir own) (pidLine pid), (.ok () : Except OsError Unit)⟩]
      ((d.add (slotName own) hlowest.free).extend (slotName own) (pidLine pid)) :=
    .cons (alone_ownPid_iff.mpr ⟨rfl, rfl⟩)
      (.cons (alone_append_iff.mpr ⟨by simp, rfl, rfl⟩) (.nil _))
  refine ⟨_, _, ?_, through_append_iff.mpr ⟨_, hthrough, hnote⟩, ?_⟩
  · rw [claimSlot_eq, ends_bind]
    exact ⟨t, .ok own, _, rfl, hend, .next (.next (.here _))⟩
  · intro x hx
    rcases List.mem_append.mp hx with hx | hx
    · exact hworks x hx
    · rcases List.mem_pair.mp hx with rfl | rfl <;> rfl

def finish (env : Environment) : Except Failure Nat → Dialogue System Nat
  | .error e => report (.error e)
  | .ok slot => (proceed env slot).bind report

def opening (pid : Pid) : List (Exchange System) :=
  [⟨.ownPid, pid⟩, ⟨.closeFrom asideFrom, ()⟩]

theorem process_eq (argv : List OsString) (env : Environment) :
    Shell.process ⟨.standIn, argv⟩ env =
      .ask .ownPid fun _ => .ask (.closeFrom asideFrom) fun _ =>
        (StandIn.slot env).bind (finish env) := by
  rw [Shell.process_standIn, run_eq_proceed]
  simp only [bind_assoc]
  congr 1
  funext _
  congr 1
  funext _
  congr 1
  funext claim
  cases claim <;> rfl

/-- A whole run of a stand-in that has a directory for itself. -/
structure LoneRun (argv : List OsString) (env : Environment) (dir : OsString) (pid : Pid)
    (start : Directory) (t : List (Exchange System)) (code : Nat) (final : Directory) : Prop where
  ends : (Shell.process ⟨.standIn, argv⟩ env).Ends t code
  through : start.Through dir pid t final

variable {argv : List OsString} {env : Environment} {start final : Directory} {code : Nat}

theorem loneRun_iff :
    LoneRun argv env dir pid start t code final ↔
      ∃ claim u u' between, t = opening pid ++ (u ++ u') ∧ (slot env).Ends u claim ∧
        start.Through dir pid u between ∧ (finish env claim).Ends u' code ∧
        between.Through dir pid u' final := by
  constructor
  · rintro ⟨hend, hthrough⟩
    rw [process_eq] at hend
    obtain ⟨reply, w, rfl, hw⟩ := (ends_ask _ _ _ _).mp hend
    obtain ⟨_, w', rfl, hw'⟩ := (ends_ask _ _ _ _).mp hw
    obtain ⟨u, claim, u', rfl, hu, hk⟩ := (ends_bind _ _ _ _).mp hw'
    obtain ⟨d, hpid, hlater⟩ := through_cons_iff.mp hthrough
    obtain ⟨rfl, rfl⟩ := alone_ownPid_iff.mp hpid
    obtain ⟨e, hclose, hown⟩ := through_cons_iff.mp hlater
    obtain rfl := (alone_of_inert rfl).mp hclose
    obtain ⟨between, hclaim, hrest⟩ := through_append_iff.mp hown
    exact ⟨claim, u, u', between, rfl, hu, hclaim, hk, hrest⟩
  · rintro ⟨claim, u, u', between, rfl, hu, hthrough, hk, hrest⟩
    constructor
    · rw [process_eq]
      exact .next (.next ((ends_bind _ _ _ _).mpr ⟨u, claim, u', rfl, hu, hk⟩))
    · have hown : start.Through dir pid (u ++ u') final :=
        through_append_iff.mpr ⟨between, hthrough, hrest⟩
      exact .cons (alone_ownPid_iff.mpr ⟨rfl, rfl⟩) (.cons (.pass rfl) hown)

/-- Without a directory to record in, a stand-in takes slot 0 and makes no file. -/
theorem loneRun_of_unset (hunset : env.get? recordVariable = none)
    (h : LoneRun argv env dir pid start t code final) :
    final = start ∧ ∃ u, t = opening pid ++ u ∧ Concludes env 0 u code := by
  have hslot : slot env = .done (.ok 0) := by rw [slot, hunset]
  obtain ⟨claim, u, u', between, rfl, hu, hclaim, hk, hrest⟩ := loneRun_iff.mp h
  rw [hslot] at hu
  obtain ⟨rfl, rfl⟩ := (ends_done _ _ _).mp hu
  obtain rfl := through_nil_iff.mp hclaim
  have hconcludes := concludes_of_ends hk
  obtain rfl := (through_of_inert hconcludes.inert).mp hrest
  exact ⟨rfl, u', rfl, hconcludes⟩

theorem exists_loneRun_of_unset (hunset : env.get? recordVariable = none) :
    ∃ t code final, LoneRun argv env dir pid start t code final := by
  have hslot : slot env = .done (.ok 0) := by rw [slot, hunset]
  obtain ⟨u, code, hends⟩ := exists_ends env 0
  refine ⟨_, code, start, loneRun_iff.mpr ⟨.ok 0, [], u, start, rfl, ?_, .nil _, hends,
    (through_of_inert (concludes_of_ends hends).inert).mpr rfl⟩⟩
  rw [hslot]
  exact .here _

/-- The exchanges of a run with which the slot is claimed, and those that come after it. -/
theorem claims_of_loneRun (hdir : env.get? recordVariable = some dir)
    (h : LoneRun argv env dir pid start t code final) :
    ∃ claim u u', t = opening pid ++ (u ++ u') ∧ Claims dir pid start u claim final ∧
      (∀ x ∈ u', inert x = true) ∧ (finish env claim).Ends u' code ∧
      ∀ other : Environment, other.get? recordVariable = some dir →
        (finish other claim).Ends u' code → LoneRun argv other dir pid start t code final := by
  have hslot : ∀ {other : Environment}, other.get? recordVariable = some dir →
      slot other = claimSlot dir := by
    intro other hother
    rw [slot, hother]
  obtain ⟨claim, u, u', between, rfl, hu, hclaim, hk, hrest⟩ := loneRun_iff.mp h
  rw [hslot hdir] at hu
  have hinert : ∀ x ∈ u', inert x = true := by
    cases claim with
    | error e =>
      obtain ⟨reply, rfl, -⟩ := ends_report_error.mp hk
      simp [complain, inert]
    | ok own => exact (concludes_of_ends hk).inert
  obtain rfl := (through_of_inert hinert).mp hrest
  refine ⟨claim, u, u', rfl, claims_of_ends hu hclaim, hinert, hk, ?_⟩
  -- of the environment, only the directory has a part in the claim
  intro other hother hk'
  exact loneRun_iff.mpr ⟨claim, u, u', final, rfl, by rwa [hslot hother], hclaim, hk', hrest⟩

theorem collisions_works (dir : OsString) (slot count : Nat) :
    ∀ x ∈ collisions dir slot count, refusal x = false := by
  induction count generalizing slot with
  | zero => simp
  | succ count ih => simpa [collisions, refusal] using ih (slot + 1)

/-- Only one way to end has a refusal in it. -/
theorem Claims.of_refusal (h : Claims dir pid d t v d') (hrefusal : ∃ x ∈ t, refusal x = true) :
    ∃ last e, v = .error (.slotFile e) ∧ t = StandIn.refused dir last e ∧ d' = d := by
  obtain ⟨x, hx, hrefusal⟩ := hrefusal
  cases h with
  | recorded =>
    rcases List.mem_append.mp hx with hx | hx
    · rw [collisions_works dir 0 _ x hx] at hrefusal
      cases hrefusal
    · simp only [List.mem_cons, List.not_mem_nil, or_false] at hx
      rcases hx with rfl | rfl | rfl <;> cases hrefusal
  | refused => exact ⟨_, _, rfl, rfl, rfl⟩
  | full =>
    rw [collisions_works dir 0 _ x hx] at hrefusal
    cases hrefusal

/-- Whatever is refused is refused while the slot is claimed. -/
theorem refusal_of_run {u u' : List (Exchange System)} (hinert : ∀ x ∈ u', inert x = true)
    {x : Exchange System} (hx : x ∈ opening pid ++ (u ++ u')) (h : refusal x = true) : x ∈ u := by
  simp only [opening, List.mem_append, List.mem_pair] at hx
  rcases hx with (rfl | rfl) | hx | hx
  · cases h
  · cases h
  · exact hx
  · rw [refusal_of_inert (hinert x hx)] at h
    cases h

theorem not_works_of_refused (pid : Pid) {last : Nat} {e : OsError} (he : e ≠ .alreadyExists)
    (u : List (Exchange System)) :
    ¬ ∀ x ∈ opening pid ++ (refused dir last e ++ u), refusal x = false := by
  intro hworks
  obtain ⟨x, hx, hrefusal⟩ := refusal_refused dir last he
  have hno := hworks x (by simp [hx])
  rw [hrefusal] at hno
  cases hno

section

variable (hdir : env.get? recordVariable = some dir)

include hdir

theorem exists_loneRun {own : Nat} (hlowest : start.Lowest own) (hlt : own < slotLimit) :
    ∃ t code final, LoneRun argv env dir pid start t code final ∧ ∀ x ∈ t, refusal x = false := by
  obtain ⟨u, d', hend, hthrough, hworks⟩ := exists_ends_claimSlot dir pid hlt hlowest
  obtain ⟨u', code, hends⟩ := exists_ends env own
  have hinert := (concludes_of_ends hends).inert
  have hslot : slot env = claimSlot dir := by rw [slot, hdir]
  refine ⟨_, code, d', loneRun_iff.mpr ⟨.ok own, u, u', d', rfl, by rwa [hslot], hthrough, hends,
    (through_of_inert hinert).mpr rfl⟩, ?_⟩
  intro x hx
  by_contra hrefusal
  rw [Bool.not_eq_false] at hrefusal
  have hno := hworks x (refusal_of_run hinert hx hrefusal)
  rw [hrefusal] at hno
  cases hno

theorem loneRun_of_works {own : Nat} (hlowest : start.Lowest own) (hlt : own < slotLimit)
    (h : LoneRun argv env dir pid start t code final) (hworks : ∀ x ∈ t, refusal x = false) :
    final.entries = start.entries ++ [(slotName own, pidLine pid)] ∧
      ∃ u, t = opening pid ++ (recording dir pid own ++ u) ∧ Concludes env own u code := by
  obtain ⟨claim, u, u', rfl, hclaims, -, hk, -⟩ := claims_of_loneRun hdir h
  cases hclaims with
  | recorded hlt' hlowest' hentries =>
    obtain rfl := hlowest.unique hlowest'
    exact ⟨hentries, u', rfl, concludes_of_ends hk⟩
  | refused he => exact absurd hworks (not_works_of_refused pid he u')
  | full taken => exact absurd (taken own hlt) hlowest.free

/-- A slot that no search comes to is as good as none. -/
theorem loneRun_of_full {own : Nat} (hlowest : start.Lowest own) (hle : slotLimit ≤ own)
    (h : LoneRun argv env dir pid start t code final) (hworks : ∀ x ∈ t, refusal x = false) :
    final = start ∧ code = 101 := by
  obtain ⟨claim, u, u', rfl, hclaims, -, hk, -⟩ := claims_of_loneRun hdir h
  cases hclaims with
  | recorded hlt hlowest' hentries =>
    obtain rfl := hlowest.unique hlowest'
    omega
  | refused he => exact absurd hworks (not_works_of_refused pid he u')
  | full taken =>
    obtain ⟨_, -, rfl⟩ := ends_report_error.mp hk
    exact ⟨rfl, rfl⟩

theorem loneRun_of_refusal (h : LoneRun argv env dir pid start t code final)
    (hrefusal : ∃ x ∈ t, refusal x = true) :
    final = start ∧ code = 1 ∧
      (∃ last e words reply, (Failure.slotFile e).Says words ∧
        t = opening pid ++ (refused dir last e ++ [complain words reply])) ∧
      ∀ other : Environment, other.get? recordVariable = some dir →
        LoneRun argv other dir pid start t code final := by
  obtain ⟨x, hx, hrefusal⟩ := hrefusal
  obtain ⟨claim, u, u', rfl, hclaims, hinert, hk, hother⟩ := claims_of_loneRun hdir h
  obtain ⟨last, e, rfl, rfl, rfl⟩ :=
    hclaims.of_refusal ⟨x, refusal_of_run hinert hx hrefusal, hrefusal⟩
  obtain ⟨reply, rfl, rfl⟩ := ends_report_error.mp hk
  exact ⟨rfl, rfl, ⟨last, e, _, reply, says_slotFile e, rfl⟩,
    fun other hdir' => hother other hdir' hk⟩

end

/-- A stand-in that is alone with its directory leaves one file more in it, under the lowest name
that was free, whatever becomes of it afterwards; it leaves everything as it was if it may make no
file or has no directory to make one in. Its exit code depends on nothing but its slot and what its
environment says. -/
theorem leaves_own_slot (argv : List OsString) (env : Environment) (pid : Pid)
    (start : Directory) :
    (env.get? recordVariable = none → ∀ dir,
      (∃ t code final, LoneRun argv env dir pid start t code final) ∧
      ∀ t code final, LoneRun argv env dir pid start t code final →
        final = start ∧ ∃ u, t = opening pid ++ u ∧ Concludes env 0 u code) ∧
    (∀ dir, env.get? recordVariable = some dir →
      (∃ own, own ≤ start.entries.length ∧ start.Lowest own) ∧
      (∀ own, start.Lowest own → own < slotLimit →
        (∃ t code final, LoneRun argv env dir pid start t code final ∧
          ∀ x ∈ t, refusal x = false) ∧
        ∀ t code final, LoneRun argv env dir pid start t code final →
          (∀ x ∈ t, refusal x = false) →
          final.entries = start.entries ++ [(slotName own, pidLine pid)] ∧
          ∃ u, t = opening pid ++ (recording dir pid own ++ u) ∧ Concludes env own u code) ∧
      (∀ own, start.Lowest own → slotLimit ≤ own → ∀ t code final,
        LoneRun argv env dir pid start t code final → (∀ x ∈ t, refusal x = false) →
        final = start ∧ code = 101) ∧
      ∀ t code final, LoneRun argv env dir pid start t code final →
        (∃ x ∈ t, refusal x = true) → final = start ∧ code = 1 ∧
        (∃ last e words reply, (Failure.slotFile e).Says words ∧
          t = opening pid ++ (refused dir last e ++ [complain words reply])) ∧
        ∀ other : Environment, other.get? recordVariable = some dir →
          LoneRun argv other dir pid start t code final) ∧
    ∀ slot, ∃! code, ∃ u, Concludes env slot u code := by
  refine ⟨?_, ?_, ?_⟩
  · intro hunset dir
    exact ⟨exists_loneRun_of_unset hunset, fun t code final h => loneRun_of_unset hunset h⟩
  · intro dir hdir
    refine ⟨start.exists_lowest, ?_, ?_, ?_⟩
    · intro own hlowest hlt
      refine ⟨exists_loneRun hdir hlowest hlt, ?_⟩
      intro t code final h hworks
      exact loneRun_of_works hdir hlowest hlt h hworks
    · intro own hlowest hle t code final h hworks
      exact loneRun_of_full hdir hlowest hle h hworks
    · intro t code final h hrefusal
      exact loneRun_of_refusal hdir h hrefusal
  · intro slot
    obtain ⟨u, hconcludes⟩ := exists_concludes env slot
    refine ⟨_, ⟨u, hconcludes⟩, ?_⟩
    rintro code ⟨u', h⟩
    exact h.code_eq

def begun : Directory := ⟨[(slotName 0, [55, 10])], by simp⟩

def misled : Environment :=
  ⟨[(recordVariable, .ofText "slots"), (CollaboratorOptions.indexVariable, .ofText " 1")]⟩

theorem lowest_begun : begun.Lowest 1 where
  free := by decide
  taken := by
    intro k hk
    obtain rfl : k = 0 := by omega
    decide

def denied : String :=
  "Error: could not create slot file\n\nCaused by:\n    Permission denied (os error 13)\n"

/-- A directory may refuse the very first file. -/
theorem loneRun_refused : LoneRun [] misled (.ofText "slots") 7 begun
    (opening 7 ++ (refused (.ofText "slots") 0 .accessDenied ++ [complain denied (.ok ())])) 1
    begun := by
  refine loneRun_iff.mpr ⟨.error (.slotFile .accessDenied), _, _, begun, rfl, ?_, ?_, ?_, ?_⟩
  · have hsize : slotLimit = (slotLimit - 1) + 1 := by decide
    have hslot : slot misled = claimSlot (.ofText "slots") := rfl
    rw [hslot, claimSlot_eq, ends_bind]
    refine ⟨_, .error (.slotFile .accessDenied), [], (List.append_nil _).symm, ?_, .here _⟩
    rw [hsize]
    exact .next (.here _)
  · exact .cons (.refuse rfl) (.nil _)
  · have hdenied : (Failure.slotFile .accessDenied).complaint = denied := by decide +kernel
    exact ends_report_error.mpr ⟨.ok (), by rw [hdenied], rfl⟩
  · exact .cons (.pass rfl) (.nil _)

/-- A malformed index does not keep a stand-in from taking slot 1, and it shows the index. A refused
file does keep it from that, and without a directory nothing is made. -/
theorem leaves_own_slot_begun :
    (∃ t final line reply, LoneRun [] misled (.ofText "slots") 7 begun t 1 final ∧
      final.entries = begun.entries ++ [(slotName 1, pidLine 7)] ∧
      t = opening 7 ++ (recording (.ofText "slots") 7 1 ++ [complain ("Error: " ++ line ++
        "\n\nCaused by:\n    invalid digit found in string\n") reply]) ∧
      Shows line "invalid GC_LAUNCHER_WORKER_INDEX " " 1" "") ∧
    (∀ other : Environment, other.get? recordVariable = some (.ofText "slots") →
      LoneRun [] other (.ofText "slots") 7 begun
        (opening 7 ++ (refused (.ofText "slots") 0 .accessDenied ++ [complain denied (.ok ())])) 1
        begun) ∧
    ∃ t code final, LoneRun [] .empty (.ofText "slots") 7 begun t code final ∧ final = begun := by
  refine ⟨?_, ?_, ?_⟩
  · obtain ⟨-, hset, -⟩ := leaves_own_slot [] misled 7 begun
    obtain ⟨-, hworks, -, -⟩ := hset (.ofText "slots") rfl
    obtain ⟨⟨t, code, final, hrun, hno⟩, hleft⟩ := hworks 1 lowest_begun (by decide)
    obtain ⟨hentries, u, rfl, hconcludes⟩ := hleft t code final hrun hno
    have hread : readIndex misled 1 = .error (.badIndex " 1" .invalidDigit) := by decide +kernel
    obtain ⟨words, reply, hwords, rfl, rfl⟩ := hconcludes.of_malformed hread
    cases hwords with
    | @badIndex _ line _ _ hline hcause =>
      cases hcause
      refine ⟨_, final, line, reply, hrun, hentries, ?_, hline⟩
      simp only [String.append_assoc]
      rfl
  · obtain ⟨-, hset, -⟩ := leaves_own_slot [] misled 7 begun
    obtain ⟨-, -, -, hrefused⟩ := hset (.ofText "slots") rfl
    obtain ⟨x, hx, hrefusal⟩ := refusal_refused (.ofText "slots") 0 (by decide : .accessDenied ≠ _)
    exact (hrefused _ _ _ loneRun_refused ⟨x, by simp [hx], hrefusal⟩).2.2.2
  · obtain ⟨hunset, -⟩ := leaves_own_slot [] .empty 7 begun
    obtain ⟨⟨t, code, final, hrun⟩, hleft⟩ := hunset rfl (.ofText "slots")
    exact ⟨t, code, final, hrun, (hleft t code final hrun).1⟩

end WorkerFleet.StandIn
