import WorkerFleet.Host.Station
import WorkerFleet.Proofs.Conclusion
import WorkerFleet.Proofs.Words

/-!
# The index on its way to a worker

A launcher writes the index of a worker into a variable of the worker's environment, and a stand-in
reads it there. Whatever the launcher finds in that variable itself, as it does when it was started
by another launcher, the worker gets its own index, and nothing else of the environment changes.

* `StandIn.run_eq_attend`: a stand-in that is told its index goes by it, whatever its slot.
* `Host.Station.launched`: a station starts processes in the environment of a worker.
* `index_carried`: from the launcher's options to what the stand-in does.
-/

namespace WorkerFleet

open Text Dialogue Host

namespace StandIn

/-- What a stand-in does once it knows its index. -/
def attend (env : Environment) (index : Nat) : Dialogue System (Except Failure Nat) :=
  match nthEntry env sleepVariable (wordSize - 1) index with
  | .error e => .done (.error e)
  | .ok sleep =>
    (sleepFor sleep).bind fun _ => .done ((nthEntry env codesVariable 255 index).map (·.getD 0))

section

variable {env other : Environment} {index : Nat}

theorem proceed_eq_attend {slot : Nat} (h : readIndex env slot = .ok index) :
    proceed env slot = attend env index := by
  rw [proceed, h]
  rfl

/-- A stand-in that is told its index does not look at its slot. -/
theorem run_eq_attend (h : ∀ slot, readIndex env slot = .ok index) :
    run env = (slot env).bind fun
      | .error e => .done (.error e)
      | .ok _ => attend env index := by
  rw [run_eq_proceed]
  congr 1
  funext claim
  cases claim with
  | error e => rfl
  | ok slot => exact proceed_eq_attend (h slot)

theorem slot_congr (h : env.get? recordVariable = other.get? recordVariable) :
    slot env = slot other := by
  rw [slot, slot, h]

theorem nthEntry_congr {name : String} (h : env.get? name = other.get? name) (limit index : Nat) :
    nthEntry env name limit index = nthEntry other name limit index := by
  rw [nthEntry, nthEntry, Environment.text?, Environment.text?, h]

theorem attend_congr (hsleep : env.get? sleepVariable = other.get? sleepVariable)
    (hcodes : env.get? codesVariable = other.get? codesVariable) (index : Nat) :
    attend env index = attend other index := by
  rw [attend, attend, nthEntry_congr hsleep, nthEntry_congr hcodes]

end

end StandIn

namespace Host.Station

theorem environment_of_resolve {s : Station} {command : Command} {dir : Location}
    {env : Environment} {image : Image} (h : s.resolve command = .ok (dir, env, image)) :
    env = workerEnvironment s.environment command := by
  rw [resolve] at h
  -- the directory is found, then the program
  split at h
  all_goals
    obtain ⟨_, _, himage⟩ := ok_of_bind h
    obtain ⟨_, _, hresult⟩ := ok_of_bind himage
    cases hresult
    rfl

/-- A process that a station starts for a command runs in the environment of a worker. -/
theorem launched {s s' : Station} {command : Command} {pid : Pid}
    (h : s.start command = (s', .ok pid)) :
    ∃ dir image, (s'.world, pid) = (s.world.pass startTime).launch dir
      (Shell.process image (workerEnvironment s.environment command)) := by
  rw [start] at h
  split at h
  case isTrue => cases (Prod.mk.inj h).2
  case isFalse =>
    dsimp only at h
    split at h
    case h_1 => cases (Prod.mk.inj h).2
    case h_2 dir env image hresolve =>
      obtain rfl := environment_of_resolve hresolve
      obtain ⟨hs, hpid⟩ := Prod.mk.inj h
      refine ⟨dir, image, ?_⟩
      rw [← hs, ← Except.ok.inj hpid]

end Host.Station

/-- A stand-in that is started for an index works with that index, whatever the launcher's own
variables are and whatever slot it claims. All other variables it has from the launcher. -/
theorem index_carried (options : CollaboratorOptions) (env : Environment) {index : Nat}
    (h : index < StandIn.wordSize) :
    let child := workerEnvironment env (options.command index)
    (options.command index).bindings.map Prod.fst = [StandIn.indexVariable] ∧
    child.get? StandIn.indexVariable = some (.ofText (String.ofList (Decimal.ofNat index))) ∧
    (∀ name, name ≠ StandIn.indexVariable → child.get? name = env.get? name) ∧
    Decimal.natural (StandIn.wordSize - 1) (Decimal.ofNat index) = .ok index ∧
    (∀ slot, StandIn.readIndex child slot = .ok index) ∧
    (StandIn.run child = (StandIn.slot env).bind fun
      | .error e => .done (.error e)
      | .ok _ => StandIn.attend env index) ∧
    (∀ argv, Shell.process ⟨.standIn, argv⟩ child =
      .ask .ownPid fun _ => .ask (.closeFrom asideFrom) fun _ =>
        (StandIn.run child).bind StandIn.report) ∧
    ∀ (s s' : Station) pid, s.environment = env →
      s.start (options.command index) = (s', .ok pid) →
      ∃ dir image, (s'.world, pid) =
        (s.world.pass Station.startTime).launch dir (Shell.process image child) := by
  have hindex := get?_index options env index
  have hother : ∀ name, name ≠ StandIn.indexVariable →
      (workerEnvironment env (options.command index)).get? name = env.get? name :=
    fun _ hne => get?_command options env index hne
  have hread := StandIn.readIndex_eq h hindex
  refine ⟨rfl, hindex, hother, Decimal.natural_ofNat (Nat.le_sub_one_of_lt h), hread, ?_,
    fun argv => Shell.process_standIn argv _, ?_⟩
  · rw [StandIn.run_eq_attend hread, StandIn.slot_congr (hother _ (by decide)),
      StandIn.attend_congr (hother _ (by decide)) (hother _ (by decide))]
  · rintro s s' pid rfl hstart
    exact Station.launched hstart

def innerStation : Station where
  world := {
    files := FileSystem.empty.put (Path.names (.ofText "standalone-gc")) (.program .standIn) }
  dir := []
  environment := ⟨[(StandIn.indexVariable, .ofText " 7"), ("PATH", .ofText "/bin")]⟩

/-- The greatest index, at a station with an index of its own. -/
theorem index_carried_inner :
    let command := (CollaboratorOptions.default .empty).command 18446744073709551615
    let child := workerEnvironment innerStation.environment command
    (∀ slot, StandIn.readIndex child slot = .ok 18446744073709551615) ∧
    child.get? "PATH" = some (.ofText "/bin") ∧
    ∃ s' dir image, innerStation.start command = (s', .ok 4000) ∧
      (s'.world, 4000) =
        (innerStation.world.pass Station.startTime).launch dir (Shell.process image child) := by
  have hstart : (innerStation.start
      ((CollaboratorOptions.default .empty).command 18446744073709551615)).2 = .ok 4000 := by
    decide +kernel
  obtain ⟨-, -, hother, -, hread, -, -, hlaunch⟩ :=
    index_carried (CollaboratorOptions.default .empty) innerStation.environment
      (by decide : 18446744073709551615 < StandIn.wordSize)
  obtain ⟨dir, image, hworld⟩ := hlaunch innerStation _ 4000 rfl (Prod.ext rfl hstart)
  exact ⟨hread, hother "PATH" (by decide), _, dir, image, Prod.ext rfl hstart, hworld⟩

end WorkerFleet
