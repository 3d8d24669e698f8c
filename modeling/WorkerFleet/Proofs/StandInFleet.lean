import WorkerFleet.Proofs.ExitCode
import WorkerFleet.Proofs.Reaped
import WorkerFleet.Proofs.StandIn

/-!
# A launcher among stand-ins

Every worker runs the stand-in, in the environment that its command gives it. Their steps mix in
any order, and they meet in the directory in which they claim their slots.

* `Sound`: what a worker has done so far is a beginning of the stand-in's work, and if it has ended
  then with the stand-in's exit code.
* `Told.statuses`: workers that are told codes end with the codes for their indices.
* `stand_ins_exit_codes`: so it is at the end of every run, and the launcher exits accordingly.
-/

namespace WorkerFleet

open Dialogue Launching Host

/-- A process that runs the stand-in: what it has said to the system, and what is left of it. -/
structure StandInLife where
  pid : Pid
  history : List (Exchange System)
  rest : Dialogue System Nat

/-- How the system may serve a process. `taken` are the paths of the files that are there: making
one of them again fails, and a free one is taken by the first process that gets it. -/
inductive Serves (pid : Pid) : List OsString → Exchange System → List OsString → Prop
  | ownPid (taken : List OsString) : Serves pid taken ⟨.ownPid, pid⟩ taken
  | create (taken : List OsString) (path : OsString) (free : path ∉ taken) :
      Serves pid taken ⟨.createNew path, (.ok () : Except OsError Unit)⟩ (path :: taken)
  | collide (taken : List OsString) (path : OsString) (h : path ∈ taken) :
      Serves pid taken ⟨.createNew path, (.error .alreadyExists : Except OsError Unit)⟩ taken
  | refuse (taken : List OsString) (path : OsString) (e : OsError) (h : e ≠ .alreadyExists) :
      Serves pid taken ⟨.createNew path, (.error e : Except OsError Unit)⟩ taken
  | other (taken : List OsString) (r : System.Request) (reply : System.Reply r)
      (hpid : r ≠ .ownPid) (hcreate : ∀ path, r ≠ .createNew path) :
      Serves pid taken ⟨r, reply⟩ taken

def standInProcess (env : Environment) (command : Command) : Dialogue System Nat :=
  Shell.process ⟨.standIn, command.program :: command.arguments⟩ (workerEnvironment env command)

/-- Workers that run the stand-in, started by a launcher with this environment. -/
def standIns (env : Environment) : Conduct where
  Life := StandInLife
  Common := List OsString
  Born command pid life := life = ⟨pid, [], standInProcess env command⟩
  Lives taken life taken' life' :=
    ∃ r reply k, life.rest = .ask r k ∧ Serves life.pid taken ⟨r, reply⟩ taken' ∧
      life' = ⟨life.pid, life.history ++ [⟨r, reply⟩], k reply⟩
  Dies life status := ∃ code, life.rest = .done code ∧ status = .code (code % 256)

/-- A worker gets an answer to what it asks. -/
theorem Fleet.Reaches.serve {α : Type} {env : Environment}
    {start : Fleet (standIns env) × Dialogue Launching α} {t : List (Exchange Launching)}
    {s : Fleet (standIns env)} {d : Dialogue Launching α} (h : Fleet.Reaches start t (s, d))
    (i : Nat) (hi : i < s.workers.length) (alive : s.workers[i].status = none)
    {r : System.Request} {k : System.Reply r → Dialogue System Nat}
    (hrest : s.workers[i].life.rest = .ask r k) (reply : System.Reply r) {taken : List OsString}
    (hs : Serves s.workers[i].life.pid s.common ⟨r, reply⟩ taken) :
    Fleet.Reaches start (t ++ []) ({ s.put i { s.workers[i] with
      life := ⟨s.workers[i].life.pid, s.workers[i].life.history ++ [⟨r, reply⟩], k reply⟩ } with
      common := taken }, d) :=
  h.step (.move d (.live s i hi alive ⟨r, reply, k, hrest, hs, rfl⟩))

/-- A worker has done a part of what the stand-in does, and all of it when it ends. -/
structure Sound (env : Environment) (w : Worker (standIns env)) : Prop where
  follows : (standInProcess env w.command).Follows w.life.history w.life.rest
  ended : ∀ status, w.status = some status →
    ∃ code, w.life.rest = .done code ∧ status = .code (code % 256)

theorem Fleet.Reaches.sound {α : Type} {env : Environment} {taken : List OsString}
    {d : Dialogue Launching α} {t : List (Exchange Launching)}
    {c : Fleet (standIns env) × Dialogue Launching α}
    (h : Fleet.Reaches (Fleet.alone taken d) t c) : ∀ w ∈ c.1.workers, Sound env w := by
  refine h.forall_workers ?_ ?_ ?_ ?_
  · rintro command pid life rfl
    exact ⟨.here _, fun status hs => by cases hs⟩
  · rintro w taken taken' life alive ⟨r, reply, k, hrest, _, rfl⟩ hw
    refine ⟨hw.follows.append ?_, fun status hs => ?_⟩
    · rw [hrest]
      exact .next (.here _)
    · rw [show w.status = some status from hs] at alive
      cases alive
  · rintro w status ⟨code, hrest, rfl⟩ hw
    refine ⟨hw.follows, fun status hs => ?_⟩
    exact ⟨code, hrest, (Option.some.inj hs).symm⟩
  · intro w waited killed hw
    exact ⟨hw.follows, hw.ended⟩

/-- The code for an index: its own, or the last one of a list that is too short. -/
def codeFor? (codes : List UInt8) (index : Nat) : Option UInt8 :=
  codes[min index (codes.length - 1)]?

theorem codeFor?_isSome {codes : List UInt8} (h : codes ≠ []) (index : Nat) :
    ∃ code, codeFor? codes index = some code :=
  StandIn.exists_forIndex h index

/-- What the stand-ins of a launcher with this environment are told: a code for each index and, if
anything, how long to sleep. -/
structure Told (env : Environment) (codes : List UInt8) (sleeps : Option (List UInt64)) : Prop where
  codes_ne_nil : codes ≠ []
  codes_eq : env.get? StandIn.codesVariable =
    some (.ofText (StandIn.joined (codes.map UInt8.toNat)))
  sleeps_eq : env.get? StandIn.sleepVariable =
    sleeps.map fun sleeps => .ofText (StandIn.joined (sleeps.map UInt64.toNat))

theorem Told.code_eq {env : Environment} {codes : List UInt8} {sleeps : Option (List UInt64)}
    (h : Told env codes sleeps) (options : CollaboratorOptions) (index : Nat) :
    StandIn.nthEntry (workerEnvironment env (options.command index)) StandIn.codesVariable 255
      index = .ok ((codeFor? codes index).map UInt8.toNat) := by
  have hget := (get?_command options env index (by decide)).trans h.codes_eq
  exact StandIn.nthEntry_codes hget index

theorem Told.sleep_eq {env : Environment} {codes : List UInt8} {sleeps : Option (List UInt64)}
    (h : Told env codes sleeps) (options : CollaboratorOptions) (index : Nat) :
    StandIn.nthEntry (workerEnvironment env (options.command index)) StandIn.sleepVariable
      (StandIn.wordSize - 1) index =
        .ok (sleeps.bind fun sleeps =>
          (sleeps.map UInt64.toNat)[min index ((sleeps.map UInt64.toNat).length - 1)]?) := by
  have hget := (get?_command options env index (by decide)).trans h.sleeps_eq
  cases sleeps with
  | none => exact StandIn.nthEntry_unset (by simp [hget]) _ _
  | some sleeps =>
    refine StandIn.nthEntry_joined hget ?_ index
    intro n hn
    obtain ⟨sleep, _, rfl⟩ := List.mem_map.mp hn
    exact Nat.le_of_lt_succ sleep.toNat_lt

/-- A stand-in that has its slot exits with the code for the index it was started at. -/
theorem Told.ends_standInProcess {env : Environment} {codes : List UInt8}
    {sleeps : Option (List UInt64)} (h : Told env codes sleeps) (options : CollaboratorOptions)
    {index : Nat} (hindex : index < StandIn.wordSize) {t : List (Exchange System)} {v : Nat}
    (hend : (standInProcess env (options.command index)).Ends t v)
    (hclaim : env.get? StandIn.recordVariable = none ∨ StandIn.Claimed t) :
    codeFor? codes index = some (UInt8.ofNat v) := by
  rw [← get?_command options env index (by decide)] at hclaim
  have hv := Shell.ends_process (StandIn.readIndex_eq hindex (get?_index options env index))
    (h.sleep_eq options index) (h.code_eq options index) hend hclaim
  obtain ⟨code, hc⟩ := codeFor?_isSome h.codes_ne_nil index
  rw [hc] at hv ⊢
  rw [hv]
  simp

def claimant (dir : OsString) (code : Nat) : Dialogue System Nat :=
  .ask .ownPid fun _ => .ask (.closeFrom asideFrom) fun _ =>
    (StandIn.claimSlot dir).bind fun claim => StandIn.report (claim.map fun _ => code)

/-- With a directory to record in and nothing to wait for, a stand-in only claims a slot. -/
theorem Told.standInProcess_eq {env : Environment} {codes : List UInt8} (h : Told env codes none)
    {dir : OsString} (hdir : env.get? StandIn.recordVariable = some dir)
    (options : CollaboratorOptions) {index : Nat} (hindex : index < StandIn.wordSize) {code : UInt8}
    (hcode : codeFor? codes index = some code) :
    standInProcess env (options.command index) = claimant dir code.toNat := by
  have hslot : StandIn.slot (workerEnvironment env (options.command index)) =
      StandIn.claimSlot dir := by
    rw [StandIn.slot, get?_command options env index (by decide), hdir]
  rw [standInProcess, Shell.process_standIn,
    StandIn.run_eq (StandIn.readIndex_eq hindex (get?_index options env index))
      (h.sleep_eq options index) (h.code_eq options index), hslot, hcode, claimant]
  simp only [bind_assoc]
  congr 1
  funext _
  congr 1
  funext _
  congr 1
  funext claim
  cases claim with
  | error e => rfl
  | ok slot => rfl

/-- What a worker says that finds all slots below one taken, and claims that one. -/
def claiming (dir : OsString) (pid : Pid) (slot : Nat) : List (Exchange System) :=
  [⟨.ownPid, pid⟩, ⟨.closeFrom asideFrom, ()⟩] ++
    (List.range slot).map (fun k => ⟨.createNew (StandIn.slotPath dir k),
      (.error .alreadyExists : Except OsError Unit)⟩) ++
    [⟨.createNew (StandIn.slotPath dir slot), (.ok () : Except OsError Unit)⟩, ⟨.ownPid, pid⟩,
      ⟨.append (StandIn.slotPath dir slot)
        (OsString.ofText (String.ofList (Text.Decimal.ofNat pid) ++ "\n")).bytes,
        (.ok () : Except OsError Unit)⟩]

theorem claimed_claiming (dir : OsString) (pid : Pid) (slot : Nat) :
    StandIn.Claimed (claiming dir pid slot) := by
  simp [StandIn.Claimed, claiming, StandIn.madeSlot, StandIn.lostNumber]

/-- A worker that has ended did so with the code for its index. -/
theorem Told.status_eq {env : Environment} {codes : List UInt8} {sleeps : Option (List UInt64)}
    (h : Told env codes sleeps) {w : Worker (standIns env)} (hsound : Sound env w)
    (hended : w.status.isSome) {options : CollaboratorOptions} {index : Nat}
    (hcommand : w.command = options.command index) (hindex : index < StandIn.wordSize)
    (hclaim : env.get? StandIn.recordVariable = none ∨ StandIn.Claimed w.life.history) :
    w.status = (codeFor? codes index).map fun code => .code code.toNat := by
  obtain ⟨status, hst⟩ := Option.isSome_iff_exists.mp hended
  obtain ⟨code, hrest, rfl⟩ := hsound.ended status hst
  have hend := hsound.follows
  rw [hrest, hcommand] at hend
  rw [hst, h.ends_standInProcess _ hindex hend hclaim]
  simp

/-- After a launch that gives a report every worker has ended with the code for its index. -/
theorem Told.statuses {env : Environment} {codes : List UInt8} {sleeps : Option (List UInt64)}
    (h : Told env codes sleeps) {s : Fleet (standIns env)} {t : List (Exchange Launching)}
    (hf : Faithful s t) (hph : Phased t) (hsound : ∀ w ∈ s.workers, Sound env w)
    {options : CollaboratorOptions} {count : Nat} (hcount : count ≤ StandIn.wordSize)
    {report : LaunchReport} (hl : Launch options count (starts t) (waits t) (.ok report))
    (hclaims : env.get? StandIn.recordVariable = none ∨
      ∀ w ∈ s.workers, StandIn.Claimed w.life.history) :
    s.workers.length = count ∧ ∀ index w, s.workers[index]? = some w →
      w.status = (codeFor? codes index).map fun code => .code code.toNat := by
  obtain ⟨hlen, hworker⟩ := hf.worker hph hl
  refine ⟨hlen, fun index w hw => ?_⟩
  obtain ⟨hlt, hcommand, hended⟩ := hworker index w hw
  have hm := List.mem_of_getElem? hw
  exact h.status_eq (hsound w hm) hended hcommand (Nat.lt_of_lt_of_le hlt hcount)
    (hclaims.imp_right fun hc => hc w hm)

/-- Some worker failed just if some code for the index of a worker is not 0. -/
theorem exists_failed_iff {C : Conduct} {s : Fleet C} {codes : List UInt8} (hne : codes ≠ [])
    {count : Int} (hlen : s.workers.length = count.toNat)
    (hstatus : ∀ index w, s.workers[index]? = some w →
      w.status = (codeFor? codes index).map fun code => .code code.toNat) :
    (∃ w ∈ s.workers, w.status ≠ some (.code 0)) ↔
      ∃ index : Nat, (index : Int) < count ∧ codeFor? codes index ≠ some 0 := by
  constructor
  · rintro ⟨w, hm, hw⟩
    obtain ⟨index, hi, rfl⟩ := List.getElem_of_mem hm
    refine ⟨index, by omega, fun hzero => hw ?_⟩
    rw [hstatus index _ (List.getElem?_eq_getElem hi), hzero]
    rfl
  · rintro ⟨index, hlt, hc⟩
    have hi : index < s.workers.length := by omega
    refine ⟨s.workers[index], List.getElem_mem hi, fun hzero => hc ?_⟩
    obtain ⟨code, hcode⟩ := codeFor?_isSome hne index
    rw [hstatus index _ (List.getElem?_eq_getElem hi), hcode] at hzero
    have hcode0 : code = 0 := by
      rw [← UInt8.toNat_inj]
      simpa using hzero
    rw [hcode, hcode0]

/-- Workers that end do so with the codes for the indices they were started at, whatever slots they
claimed, and nothing else decides the launcher's own exit code. -/
theorem stand_ins_exit_codes {argv : List OsString} {env : Environment} {args : CommandLine.Args}
    (hp : CommandLine.parse argv env = .ok args) {codes : List UInt8}
    {sleeps : Option (List UInt64)} (htold : Told env codes sleeps) {taken : List OsString}
    {t : List (Exchange Launching)} {s : Fleet (standIns env)} {console : Console}
    (h : Fleet.Reaches (Fleet.alone taken (Application.run argv env)) t (s, .done console))
    (hstarts : ¬ StartFails (starts t)) (hwaits : ¬ WaitFails (waits t))
    (hclaims : env.get? StandIn.recordVariable = none ∨
      ∀ w ∈ s.workers, StandIn.Claimed w.life.history) :
    (s.workers.length : Int) = max args.workers.value 0 ∧
      (∀ index w, s.workers[index]? = some w →
        w.status = (codeFor? codes index).map fun code => .code code.toNat) ∧
      (console.code = 0 ∨ console.code = 1) ∧
      (console.code = 1 ↔ args.failOnChildError = true ∧
        ∃ index : Nat, (index : Int) < args.workers.value ∧ codeFor? codes index ≠ some 0) := by
  have hf : Faithful s t := h.faithful
  obtain ⟨v, hr, hcode⟩ := Application.run_of_ok hp h.follows
  have hph := phased_of_ends hr
  have hl := launch_of_ends hr
  cases v with
  | error e =>
    rcases hl.fails_iff.mp ⟨e, rfl⟩ with hs | hw
    · exact absurd hs hstarts
    · exact absurd hw hwaits
  | ok report =>
    have hcount : args.workers.toStart ≤ StandIn.wordSize := by
      have hupper := args.workers.upper
      rw [WorkerCount.toStart, StandIn.wordSize]
      omega
    obtain ⟨hlen, hstatus⟩ := htold.statuses hf hph h.sound hcount hl hclaims
    have hlen : s.workers.length = args.workers.value.toNat := hlen
    have hfails : Application.Fails args t ↔ args.failOnChildError = true ∧
        ∃ index : Nat, (index : Int) < args.workers.value ∧ codeFor? codes index ≠ some 0 := by
      rw [Application.Fails, or_iff_right hstarts, or_iff_right hwaits,
        hf.workerFails_iff hph hl, exists_failed_iff htold.codes_ne_nil hlen hstatus]
    obtain ⟨hbad, hgood⟩ := Application.codeOf_of_launch args hl
    rw [← hcode] at hbad hgood
    refine ⟨by omega, hstatus, ?_, ?_⟩
    · by_cases hfail : Application.Fails args t
      · exact .inr (hbad hfail)
      · exact .inl (hgood hfail)
    · rw [← hfails]
      refine ⟨fun hone => ?_, hbad⟩
      by_contra hfail
      rw [hgood hfail] at hone
      cases hone

def pairArgv : List OsString :=
  [.ofText "gc-launcher", .ofText "--fail-on-child-error", .ofText "2"]

def slotsDir : OsString := .ofText "slots"

def pairEnvironment : Environment :=
  ⟨[(StandIn.recordVariable, slotsDir),
    (StandIn.codesVariable, .ofText (StandIn.joined [0, 3]))]⟩

def pairArgs : CommandLine.Args where
  workers := { value := 2 }
  collaborator := .ofText "./standalone-gc"
  waitOrder := .completion
  failOnChildError := true
  collaboratorArgs := []

theorem parse_pairArgv : CommandLine.parse pairArgv pairEnvironment = .ok pairArgs := by
  decide +kernel

theorem told_pair : Told pairEnvironment [0, 3] none := ⟨by simp, rfl, rfl⟩

def pairFleet (taken : List OsString) (first second : StandInLife) :
    Fleet (standIns pairEnvironment) :=
  let command := (pairArgs.launcher pairEnvironment).options.command
  ⟨taken, [⟨command 0, 7, first, none, 0, false⟩, ⟨command 1, 8, second, none, 0, false⟩]⟩

/-- The worker of index 1 claims the slot 0 and ends first, yet its code is that of its index. -/
theorem stand_ins_exit_codes_crossed :
    ∃ t s console,
      Fleet.Reaches (Fleet.alone (C := standIns pairEnvironment) []
        (Application.run pairArgv pairEnvironment)) t (s, .done console) ∧
      s.workers.map Worker.status = [some (.code 0), some (.code 3)] ∧ console.code = 1 := by
  have hrun := Application.run_eq_launch parse_pairArgv
  have hborn : ∀ (pid : Pid) (index : Nat) (code : UInt8), index < StandIn.wordSize →
      codeFor? [0, 3] index = some code →
      (standIns pairEnvironment).Born ((pairArgs.launcher pairEnvironment).options.command index)
        pid (StandInLife.mk pid [] (claimant slotsDir code.toNat)) := by
    intro pid index code hindex hcode
    exact congrArg (StandInLife.mk pid []) (told_pair.standInProcess_eq rfl _ hindex hcode).symm
  have h : Fleet.Reaches (Fleet.alone (C := standIns pairEnvironment) []
      (Application.run pairArgv pairEnvironment)) _ _ := .start
  rw [hrun] at h
  have h := h.step (.answer _ (.start _ _ 7 _ (by simp) (hborn 7 0 0 (by decide) rfl)))
  have h := h.step (.answer _ (.other _ ⟨.announce (.started 0 7), ()⟩ rfl rfl))
  have h := h.step (.answer _ (.start _ _ 8 _ (by simp) (hborn 8 1 3 (by decide) rfl)))
  have h := h.step (.answer _ (.other _ ⟨.announce (.started 1 8), ()⟩ rfl rfl))
  -- the second worker comes first
  have h := h.serve 1 (by decide) rfl rfl 8 (.ownPid _)
  have h := h.serve 1 (by decide) rfl rfl () (.other _ _ _ (by simp) (by simp))
  have h := h.serve 1 (by decide) rfl rfl (.ok ()) (.create _ _ (by simp))
  have h := h.serve 1 (by decide) rfl rfl 8 (.ownPid _)
  have h := h.serve 1 (by decide) rfl rfl (.ok ()) (.other _ _ _ (by simp) (by simp))
  have h : Fleet.Reaches _ _ (pairFleet [StandIn.slotPath slotsDir 0] ⟨7, [], claimant slotsDir 0⟩
    ⟨8, claiming slotsDir 8 0, .done 3⟩, _) := h
  -- the first worker finds the slot taken
  have hfree : StandIn.slotPath slotsDir 1 ∉ [StandIn.slotPath slotsDir 0] := by decide +kernel
  have h := h.serve 0 (by decide) rfl rfl 7 (.ownPid _)
  have h := h.serve 0 (by decide) rfl rfl () (.other _ _ _ (by simp) (by simp))
  have h := h.serve 0 (by decide) rfl rfl (.error .alreadyExists) (.collide _ _ (.head _))
  have h := h.serve 0 (by decide) rfl rfl (.ok ()) (.create _ _ hfree)
  have h := h.serve 0 (by decide) rfl rfl 7 (.ownPid _)
  have h := h.serve 0 (by decide) rfl rfl (.ok ()) (.other _ _ _ (by simp) (by simp))
  have h : Fleet.Reaches _ _ (pairFleet [StandIn.slotPath slotsDir 1, StandIn.slotPath slotsDir 0]
    ⟨7, claiming slotsDir 7 1, .done 0⟩ ⟨8, claiming slotsDir 8 0, .done 3⟩, _) := h
  have h := h.step (.move _ (.die _ 1 (by decide) rfl _ ⟨_, rfl, rfl⟩))
  have h := h.step (.answer _ (.reap _ ⟨.turn [7, 8] 0 (by decide), .finish 1 (.ok (.code 3))⟩
    1 (by decide) _ rfl rfl))
  have h := h.step (.answer _ (.other _ ⟨.announce (.exited 1 8 (.code 3)), ()⟩ rfl rfl))
  have h := h.step (.move _ (.die _ 0 (by decide) rfl _ ⟨_, rfl, rfl⟩))
  have h := h.step (.answer _ (.other _ ⟨.turn [7] 1 (by decide), .collect 0⟩ rfl rfl))
  have h := h.step (.answer _ (.reap _ ⟨.turn [7] 0 (by decide), .finish 0 (.ok (.code 0))⟩
    0 (by decide) _ rfl rfl))
  have h := h.step (.answer _ (.other _ ⟨.announce (.exited 0 7 (.code 0)), ()⟩ rfl rfl))
  have h := h.step (.answer _ (.other _ ⟨.turn [] 1 (by decide), .collect 0⟩ rfl rfl))
  rw [← hrun] at h
  obtain ⟨_, _, _, hcode⟩ := stand_ins_exit_codes parse_pairArgv told_pair h
    (by simp [StartFails, starts, start?]) (by simp [WaitFails, waits, wait?])
    (.inr (by simp [pairFleet, Fleet.put, claimed_claiming]))
  exact ⟨_, _, _, h, rfl, hcode.mpr ⟨rfl, 1, by decide, by decide⟩⟩

end WorkerFleet
