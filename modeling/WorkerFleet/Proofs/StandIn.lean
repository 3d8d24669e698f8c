import WorkerFleet.Proofs.Exchange
import WorkerFleet.Proofs.WrittenLists
import WorkerFleet.Shell.Interpreter

/-!
# What a stand-in worker does

The index that a worker is told, the entry of a list that it takes for it, and the exit code that
comes of it, whatever slot the worker claims.

* `get?_index`, `get?_command`: what a worker finds in its environment.
* `ends_run`: the exit code of a stand-in whose claim succeeds.
* `process_standIn`: a process that runs the stand-in does nothing else.
-/

namespace WorkerFleet

open Text Dialogue Host

/-- The environment of a worker, made from the launcher's own. -/
def workerEnvironment (env : Environment) (command : Command) : Environment :=
  env.setAll command.bindings

theorem get?_index (options : CollaboratorOptions) (env : Environment) (index : Nat) :
    (workerEnvironment env (options.command index)).get? CollaboratorOptions.indexVariable =
      some (CollaboratorOptions.indexText index) :=
  env.get?_set _ _

/-- All but its index a worker has from the launcher. -/
theorem get?_command (options : CollaboratorOptions) (env : Environment) (index : Nat)
    {name : String} (h : name ≠ CollaboratorOptions.indexVariable) :
    (workerEnvironment env (options.command index)).get? name = env.get? name :=
  env.get?_set_of_ne _ h

namespace StandIn

/-- The variable that a stand-in reads is the one that a launcher sets. -/
theorem indexVariable_eq : indexVariable = CollaboratorOptions.indexVariable := rfl

theorem readIndex_eq {env : Environment} {index : Nat} (hlt : index < wordSize)
    (h : env.get? CollaboratorOptions.indexVariable =
      some (CollaboratorOptions.indexText index)) (slot : Nat) :
    readIndex env slot = .ok index := by
  rw [readIndex, indexVariable_eq, Environment.text?_eq_some_iff.mpr h]
  simp only [String.toList_ofList, Decimal.natural_ofNat (Nat.le_sub_one_of_lt hlt)]

def madeSlot : Exchange System → Bool
  | ⟨.createNew _, .ok _⟩ => true
  | _ => false

def lostNumber : Exchange System → Bool
  | ⟨.append _ _, .error _⟩ => true
  | _ => false

/-- A slot was claimed for good. -/
def Claimed (t : List (Exchange System)) : Prop :=
  t.any madeSlot = true ∧ t.any lostNumber = false

theorem ends_claimFrom {dir : OsString} {remaining slot : Nat} {t : List (Exchange System)}
    {v : Except Failure Nat} (h : (claimFrom dir remaining slot).Ends t v)
    (hmade : t.any madeSlot = true) : ∃ slot, v = .ok slot := by
  induction remaining generalizing slot t with
  | zero =>
    obtain ⟨rfl, rfl⟩ := (ends_done _ _ _).mp h
    cases hmade
  | succ remaining ih =>
    obtain ⟨reply, u, rfl, hu⟩ := (ends_ask _ _ _ _).mp h
    cases reply with
    | error e =>
      dsimp only at hu
      by_cases he : e = .alreadyExists
      · rw [if_pos he] at hu
        exact ih hu hmade
      · rw [if_neg he] at hu
        obtain ⟨rfl, rfl⟩ := (ends_done _ _ _).mp hu
        cases hmade
    | ok made =>
      obtain ⟨rfl, rfl⟩ := (ends_done _ _ _).mp hu
      exact ⟨slot, rfl⟩

theorem ends_claimSlot {dir : OsString} {t : List (Exchange System)} {v : Except Failure Nat}
    (h : (claimSlot dir).Ends t v) (hc : Claimed t) : ∃ slot, v = .ok slot := by
  obtain ⟨u, claim, u', rfl, hu, hk⟩ := (ends_bind _ _ _ _).mp h
  cases claim with
  | error e =>
    obtain ⟨rfl, rfl⟩ := (ends_done _ _ _).mp hk
    rw [List.append_nil] at hc
    obtain ⟨slot, hs⟩ := ends_claimFrom hu hc.1
    cases hs
  | ok slot =>
    obtain ⟨pid, w, rfl, hw⟩ := (ends_ask _ _ _ _).mp hk
    obtain ⟨reply, w', rfl, hd⟩ := (ends_ask _ _ _ _).mp hw
    cases reply with
    | error e =>
      have hlost := hc.2
      simp [lostNumber] at hlost
    | ok written =>
      obtain ⟨_, rfl⟩ := (ends_done _ _ _).mp hd
      exact ⟨slot, rfl⟩

theorem ends_slot {env : Environment} {t : List (Exchange System)} {v : Except Failure Nat}
    (h : (slot env).Ends t v) (hc : env.get? recordVariable = none ∨ Claimed t) :
    ∃ slot, v = .ok slot := by
  rw [slot] at h
  cases hdir : env.get? recordVariable with
  | none =>
    rw [hdir] at h
    obtain ⟨_, rfl⟩ := (ends_done _ _ _).mp h
    exact ⟨0, rfl⟩
  | some dir =>
    rw [hdir] at h
    refine ends_claimSlot h (hc.resolve_left ?_)
    rw [hdir]
    simp

def sleepFor : Option Nat → Dialogue System Unit
  | none => .done ()
  | some milliseconds => .ask (.pause (milliseconds * 1000)) .done

def proceed (env : Environment) (slot : Nat) : Dialogue System (Except Failure Nat) :=
  match readIndex env slot with
  | .error e => .done (.error e)
  | .ok index =>
    match nthEntry env sleepVariable (wordSize - 1) index with
    | .error e => .done (.error e)
    | .ok sleep =>
      (sleepFor sleep).bind fun _ =>
        .done ((nthEntry env codesVariable 255 index).map (·.getD 0))

theorem run_eq_proceed (env : Environment) :
    run env = (slot env).bind fun
      | .error e => .done (.error e)
      | .ok slot => proceed env slot := by
  rw [run, bind_eq]
  congr 1
  funext claim
  cases claim with
  | error e => rfl
  | ok slot =>
    dsimp only
    rw [proceed]
    cases readIndex env slot with
    | error e => rfl
    | ok index =>
      dsimp only
      cases nthEntry env sleepVariable (wordSize - 1) index with
      | error e => rfl
      | ok sleep => cases sleep <;> cases nthEntry env codesVariable 255 index <;> rfl

/-- Once a worker has its slot, only its index counts. -/
theorem run_eq {env : Environment} {index : Nat} {sleep code : Option Nat}
    (hindex : ∀ slot, readIndex env slot = .ok index)
    (hsleep : nthEntry env sleepVariable (wordSize - 1) index = .ok sleep)
    (hcode : nthEntry env codesVariable 255 index = .ok code) :
    run env = (slot env).bind fun
      | .error e => .done (.error e)
      | .ok _ => (sleepFor sleep).bind fun _ => .done (.ok (code.getD 0)) := by
  rw [run_eq_proceed]
  congr 1
  funext claim
  cases claim with
  | error e => rfl
  | ok slot =>
    simp only [proceed, hindex, hsleep, hcode]
    rfl

theorem ends_run {env : Environment} {index : Nat} {sleep code : Option Nat}
    (hindex : ∀ slot, readIndex env slot = .ok index)
    (hsleep : nthEntry env sleepVariable (wordSize - 1) index = .ok sleep)
    (hcode : nthEntry env codesVariable 255 index = .ok code)
    {t : List (Exchange System)} {v : Except Failure Nat} (h : (run env).Ends t v)
    (hc : env.get? recordVariable = none ∨ Claimed t) : v = .ok (code.getD 0) := by
  rw [run_eq hindex hsleep hcode] at h
  obtain ⟨u, claim, u', rfl, hu, hk⟩ := (ends_bind _ _ _ _).mp h
  cases claim with
  | error e =>
    obtain ⟨rfl, rfl⟩ := (ends_done _ _ _).mp hk
    rw [List.append_nil] at hc
    obtain ⟨slot, hs⟩ := ends_slot hu hc
    cases hs
  | ok slot =>
    obtain ⟨_, _, _, _, _, hd⟩ := (ends_bind _ _ _ _).mp hk
    exact ((ends_done _ _ _).mp hd).2

def report : Except Failure Nat → Dialogue System Nat
  | .ok code => .done code
  | .error e =>
    .ask (.write standardError (OsString.ofText e.complaint).bytes) fun _ => .done e.exitCode

theorem complaint_ne (e : Failure) : e.complaint ≠ "" := by
  have hline : ∀ text : String, text ++ "\n" ≠ "" := by simp
  unfold Failure.complaint
  cases e <;> exact hline _

end StandIn

namespace Shell

/-- What is asked of the system within a script is asked at once. -/
theorem run_lift_bind {α β : Type} (d : Dialogue System β) (k : β → Eval α) (s : State) :
    ((liftM d >>= k : Eval α).run).run s = d.bind fun b => ((k b).run).run s := by
  induction d with
  | done value => rfl
  | ask r next ih =>
    have h : ∀ reply, ((liftM (next reply) >>= k : Eval α).run).run s =
        (next reply).bind fun b => ((k b).run).run s := ih
    rw [ask_bind]
    simp only [← h]
    rfl

theorem ofOctets_octets (s : OsString) : OsString.ofOctets s.octets = s := by
  have hbyte : ∀ b : UInt8, UInt8.ofNat (Char.ofNat b.toNat).toNat = b := by
    intro b
    have hvalid : b.toNat.isValidChar := by
      have hlt := b.toNat_lt
      exact .inl (by omega)
    exact Utf8.ofNat_eq (Utf8.toNat_ofNat hvalid)
  simp only [OsString.ofOctets, OsString.octets, List.map_map, Function.comp_def, hbyte,
    List.map_id']

theorem octets_isEmpty {text : String} (h : text ≠ "") :
    (OsString.ofText text).octets.isEmpty = false := by
  obtain ⟨c, cs, hcs⟩ := List.exists_cons_of_ne_nil (fun h' => h (String.toList_eq_nil_iff.mp h'))
  simp [OsString.octets, OsString.ofText, Utf8.encode, hcs, String.utf8EncodeChar_ne_nil]

theorem process_standIn (argv : List OsString) (env : Environment) :
    process ⟨.standIn, argv⟩ env =
      .ask .ownPid fun _ => .ask (.closeFrom asideFrom) fun _ =>
        (StandIn.run env).bind StandIn.report := by
  unfold process
  rw [allowance, runImage]
  simp only [System.ownPid, System.closeFrom, bind_eq, ask_bind, done_bind]
  congr 1
  funext pid
  rw [run_lift_bind, ask_bind, ask_bind]
  congr 1
  funext _
  rw [done_bind, run_lift_bind, bind_assoc]
  congr 1
  funext result
  cases result with
  | ok code => rfl
  | error e =>
    dsimp only
    rw [Eval.printError, Eval.write, octets_isEmpty (StandIn.complaint_ne e), ofOctets_octets]
    rfl

/-- The exit code of a process that runs the stand-in. -/
theorem ends_process {argv : List OsString} {env : Environment} {index : Nat}
    {sleep code : Option Nat} (hindex : ∀ slot, StandIn.readIndex env slot = .ok index)
    (hsleep : StandIn.nthEntry env StandIn.sleepVariable (StandIn.wordSize - 1) index = .ok sleep)
    (hcode : StandIn.nthEntry env StandIn.codesVariable 255 index = .ok code)
    {t : List (Exchange System)} {v : Nat} (h : (process ⟨.standIn, argv⟩ env).Ends t v)
    (hc : env.get? StandIn.recordVariable = none ∨ StandIn.Claimed t) : v = code.getD 0 := by
  rw [process_standIn] at h
  obtain ⟨pid, w, rfl, hw⟩ := (ends_ask _ _ _ _).mp h
  obtain ⟨_, w', rfl, hw'⟩ := (ends_ask _ _ _ _).mp hw
  obtain ⟨u, result, u', rfl, hu, hk⟩ := (ends_bind _ _ _ _).mp hw'
  have hclaim : env.get? StandIn.recordVariable = none ∨ StandIn.Claimed u := by
    refine hc.imp_right fun hc => ?_
    cases result with
    | ok code =>
      obtain ⟨rfl, rfl⟩ := (ends_done _ _ _).mp hk
      simpa [StandIn.Claimed, StandIn.madeSlot, StandIn.lostNumber] using hc
    | error e =>
      obtain ⟨reply, x, rfl, hx⟩ := (ends_ask _ _ _ _).mp hk
      obtain ⟨rfl, rfl⟩ := (ends_done _ _ _).mp hx
      simpa [StandIn.Claimed, StandIn.madeSlot, StandIn.lostNumber] using hc
  obtain rfl := StandIn.ends_run hindex hsleep hcode hu hclaim
  obtain ⟨_, rfl⟩ := (ends_done _ _ _).mp hk
  rfl

end Shell

end WorkerFleet
