import WorkerFleet.Proofs.Complaints
import WorkerFleet.Proofs.StandIn

/-!
# What a stand-in does with its slot

Once it has its slot, a stand-in reads its index, how long to sleep and the code to exit with, in
this order. It complains of the first of them that is malformed.

* `readIndex_iff`: the index that it takes.
* `concludes_of_ends`: all that it says from there on, and its exit code.
* `exists_concludes`, `Concludes.code_eq`: there is exactly one exit code for each slot.
-/

namespace WorkerFleet.StandIn

open Dialogue Host Text Decimal

variable {env : Environment} {slot code : Nat} {t : List (Exchange System)}

/-- The index that a stand-in takes: the one that it is told, or its slot. White space around an
index makes it malformed. -/
inductive Indexed (env : Environment) (slot : Nat) : Except Failure Nat → Prop
  | told {text : String} {n : Nat}
      (h : env.get? CollaboratorOptions.indexVariable = some (.ofText text))
      (hn : Unsigned text.toList n) (hlt : n < wordSize) : Indexed env slot (.ok n)
  | malformed {text : String} {fault : Fault}
      (h : env.get? CollaboratorOptions.indexVariable = some (.ofText text))
      (hno : ∀ n, Unsigned text.toList n → wordSize ≤ n)
      (hf : natural (wordSize - 1) text.toList = .error fault) :
      Indexed env slot (.error (.badIndex text fault))
  | untold (h : ∀ text, env.get? CollaboratorOptions.indexVariable ≠ some (.ofText text)) :
      Indexed env slot (.ok slot)

def nap : Option Nat → List (Exchange System)
  | none => []
  | some milliseconds => [⟨.pause (milliseconds * 1000), ()⟩]

def complain (words : String) (reply : Except OsError Unit) : Exchange System :=
  ⟨.write standardError (OsString.ofText words).bytes, reply⟩

/-- What a stand-in says once it has its slot, and its exit code. The first of its inputs that is
malformed is the one that it complains of. -/
inductive Concludes (env : Environment) (slot : Nat) : List (Exchange System) → Nat → Prop
  | badIndex {e : Failure} {words : String} (hi : Indexed env slot (.error e)) (hw : e.Says words)
      (reply : Except OsError Unit) : Concludes env slot [complain words reply] 1
  | badSleep {index : Nat} {e : Failure} {words : String} (hi : Indexed env slot (.ok index))
      (hs : Selects env sleepVariable (wordSize - 1) index (.error e)) (hw : e.Says words)
      (reply : Except OsError Unit) : Concludes env slot [complain words reply] 1
  | badCode {index : Nat} {sleep : Option Nat} {e : Failure} {words : String}
      (hi : Indexed env slot (.ok index))
      (hs : Selects env sleepVariable (wordSize - 1) index (.ok sleep))
      (hc : Selects env codesVariable 255 index (.error e)) (hw : e.Says words)
      (reply : Except OsError Unit) :
      Concludes env slot (nap sleep ++ [complain words reply]) 1
  | exits {index : Nat} {sleep code : Option Nat} (hi : Indexed env slot (.ok index))
      (hs : Selects env sleepVariable (wordSize - 1) index (.ok sleep))
      (hc : Selects env codesVariable 255 index (.ok code)) :
      Concludes env slot (nap sleep) (code.getD 0)

theorem readIndex_iff {r : Except Failure Nat} :
    readIndex env slot = r ↔ Indexed env slot r := by
  constructor
  · rintro rfl
    cases htext : env.text? CollaboratorOptions.indexVariable with
    | none =>
      rw [readIndex, indexVariable_eq, htext]
      exact .untold (Environment.text?_eq_none_iff.mp htext)
    | some text =>
      have hset := Environment.text?_eq_some_iff.mp htext
      rw [readIndex, indexVariable_eq, htext]
      dsimp only
      cases hread : natural (wordSize - 1) text.toList with
      | error fault =>
        refine .malformed hset (fun n hn => ?_) hread
        have hlt := lt_of_unsigned hread hn
        omega
      | ok n =>
        obtain ⟨hn, hle⟩ := natural_eq_ok_iff.mp hread
        exact .told hset hn (Nat.lt_of_le_sub_one (by decide) hle)
  · intro h
    cases h with
    | told h hn hlt =>
      rw [readIndex, indexVariable_eq, Environment.text?_eq_some_iff.mpr h]
      simp only [natural_eq_ok_iff.mpr ⟨hn, Nat.le_sub_one_of_lt hlt⟩]
    | malformed h hno hf =>
      rw [readIndex, indexVariable_eq, Environment.text?_eq_some_iff.mpr h]
      simp only [hf]
    | untold h => rw [readIndex, indexVariable_eq, Environment.text?_eq_none_iff.mpr h]

@[simp] theorem ends_sleepFor {sleep : Option Nat} {v : Unit} :
    (sleepFor sleep).Ends t v ↔ t = nap sleep := by
  cases sleep with
  | none => simp [sleepFor, nap]
  | some milliseconds =>
    rw [sleepFor, ends_ask]
    constructor
    · rintro ⟨reply, u, rfl, hu⟩
      obtain ⟨rfl, -⟩ := (ends_done _ _ _).mp hu
      rfl
    · rintro rfl
      exact ⟨(), [], rfl, .here _⟩

theorem ends_report_error {e : Failure} :
    (report (.error e)).Ends t code ↔
      ∃ reply, t = [complain e.complaint reply] ∧ code = e.exitCode := by
  simp [report, complain]

theorem ends_report_ok {n : Nat} :
    (report (.ok n)).Ends t code ↔ t = [] ∧ code = n := by
  simp [report]

theorem exists_ends_report (result : Except Failure Nat) :
    ∃ u code, (report result).Ends u code := by
  cases result with
  | ok n => exact ⟨_, _, ends_report_ok.mpr ⟨rfl, rfl⟩⟩
  | error e => exact ⟨_, _, ends_report_error.mpr ⟨.ok (), rfl, rfl⟩⟩

theorem proceed_of_badIndex {e : Failure} (hi : readIndex env slot = .error e) :
    proceed env slot = .done (.error e) := by
  rw [proceed, hi]

theorem proceed_of_badSleep {index : Nat} {e : Failure} (hi : readIndex env slot = .ok index)
    (hs : nthEntry env sleepVariable (wordSize - 1) index = .error e) :
    proceed env slot = .done (.error e) := by
  rw [proceed, hi]
  simp only [hs]

/-- Only after the sleep is the exit code looked at. -/
theorem ends_proceed {index : Nat} {sleep : Option Nat} (hi : readIndex env slot = .ok index)
    (hs : nthEntry env sleepVariable (wordSize - 1) index = .ok sleep) :
    ((proceed env slot).bind report).Ends t code ↔
      ∃ u, t = nap sleep ++ u ∧
        (report ((nthEntry env codesVariable 255 index).map (·.getD 0))).Ends u code := by
  rw [proceed, hi]
  simp only [hs]
  rw [bind_assoc, ends_bind]
  constructor
  · rintro ⟨u, _, u', rfl, hu, hk⟩
    obtain rfl := ends_sleepFor.mp hu
    exact ⟨u', rfl, hk⟩
  · rintro ⟨u, rfl, hk⟩
    exact ⟨nap sleep, (), u, rfl, ends_sleepFor.mpr rfl, hk⟩

theorem concludes_of_badIndex {e : Failure} (hi : Indexed env slot (.error e))
    (reply : Except OsError Unit) :
    Concludes env slot [complain e.complaint reply] e.exitCode := by
  cases hi with
  | malformed h hno hf => exact .badIndex (.malformed h hno hf) (says_badIndex _ _) reply

theorem says_of_selects {name : String} (hname : OneLine name) {limit index : Nat} {e : Failure}
    (h : Selects env name limit index (.error e)) : e.Says e.complaint ∧ e.exitCode = 1 := by
  cases h with
  | malformed => exact ⟨says_badEntry hname _ _, rfl⟩

theorem concludes_of_ends (h : ((proceed env slot).bind report).Ends t code) :
    Concludes env slot t code := by
  cases hi : readIndex env slot with
  | error e =>
    rw [proceed_of_badIndex hi] at h
    obtain ⟨reply, rfl, rfl⟩ := ends_report_error.mp h
    exact concludes_of_badIndex (readIndex_iff.mp hi) reply
  | ok index =>
    have hindexed := readIndex_iff.mp hi
    cases hs : nthEntry env sleepVariable (wordSize - 1) index with
    | error e =>
      rw [proceed_of_badSleep hi hs] at h
      obtain ⟨reply, rfl, rfl⟩ := ends_report_error.mp h
      obtain ⟨hw, hcode⟩ := says_of_selects (by decide) (nthEntry_iff.mp hs)
      rw [hcode]
      exact .badSleep hindexed (nthEntry_iff.mp hs) hw reply
    | ok sleep =>
      obtain ⟨u, rfl, hu⟩ := (ends_proceed hi hs).mp h
      cases hc : nthEntry env codesVariable 255 index with
      | error e =>
        rw [hc] at hu
        obtain ⟨reply, rfl, rfl⟩ := ends_report_error.mp hu
        obtain ⟨hw, hcode⟩ := says_of_selects (by decide) (nthEntry_iff.mp hc)
        rw [hcode]
        exact .badCode hindexed (nthEntry_iff.mp hs) (nthEntry_iff.mp hc) hw reply
      | ok code =>
        rw [hc] at hu
        obtain ⟨rfl, rfl⟩ := ends_report_ok.mp hu
        rw [List.append_nil]
        exact .exits hindexed (nthEntry_iff.mp hs) (nthEntry_iff.mp hc)

theorem Concludes.of_malformed {e : Failure} (hi : readIndex env slot = .error e)
    (h : Concludes env slot t code) :
    ∃ words reply, e.Says words ∧ t = [complain words reply] ∧ code = 1 := by
  have hnone : ∀ {index : Nat}, ¬ Indexed env slot (.ok index) := by
    intro index hindexed
    cases hi.symm.trans (readIndex_iff.mpr hindexed)
  cases h with
  | badIndex hindexed hw reply =>
    obtain rfl := Except.error.inj (hi.symm.trans (readIndex_iff.mpr hindexed))
    exact ⟨_, reply, hw, rfl, rfl⟩
  | badSleep hindexed => exact absurd hindexed hnone
  | badCode hindexed => exact absurd hindexed hnone
  | exits hindexed => exact absurd hindexed hnone

theorem exists_ends (env : Environment) (slot : Nat) :
    ∃ u code, ((proceed env slot).bind report).Ends u code := by
  cases hi : readIndex env slot with
  | error e =>
    rw [proceed_of_badIndex hi]
    exact exists_ends_report (.error e)
  | ok index =>
    cases hs : nthEntry env sleepVariable (wordSize - 1) index with
    | error e =>
      rw [proceed_of_badSleep hi hs]
      exact exists_ends_report (.error e)
    | ok sleep =>
      obtain ⟨u, code, hu⟩ :=
        exists_ends_report ((nthEntry env codesVariable 255 index).map (·.getD 0))
      exact ⟨_, code, (ends_proceed hi hs).mpr ⟨u, rfl, hu⟩⟩

def exitCode (env : Environment) (slot : Nat) : Nat :=
  match readIndex env slot with
  | .error _ => 1
  | .ok index =>
    match nthEntry env sleepVariable (wordSize - 1) index with
    | .error _ => 1
    | .ok _ =>
      match nthEntry env codesVariable 255 index with
      | .error _ => 1
      | .ok code => code.getD 0

theorem Concludes.code_eq (h : Concludes env slot t code) :
    code = exitCode env slot := by
  rw [exitCode]
  cases h with
  | badIndex hi => rw [readIndex_iff.mpr hi]
  | badSleep hi hs =>
    rw [readIndex_iff.mpr hi]
    simp only [nthEntry_iff.mpr hs]
  | badCode hi hs hc =>
    rw [readIndex_iff.mpr hi]
    simp only [nthEntry_iff.mpr hs, nthEntry_iff.mpr hc]
  | exits hi hs hc =>
    rw [readIndex_iff.mpr hi]
    simp only [nthEntry_iff.mpr hs, nthEntry_iff.mpr hc]

theorem exists_concludes (env : Environment) (slot : Nat) :
    ∃ u, Concludes env slot u (exitCode env slot) := by
  obtain ⟨u, code, h⟩ := exists_ends env slot
  have hconcludes := concludes_of_ends h
  exact ⟨u, hconcludes.code_eq ▸ hconcludes⟩

end WorkerFleet.StandIn
