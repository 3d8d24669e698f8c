import Mathlib.Data.List.Nodup
import Mathlib.Data.List.Perm.Subperm
import WorkerFleet.Proofs.StandIn

/-!
# A claimant of a slot

A stand-in that claims a slot in a directory that it may share with others. To make a file is one
step of the system, which fails just if its name is there already.

* `Claimant.Stage`: how far a claimant has come, as what it has said shows.
* `Claimant.Stage.step`: all that one step of a claimant can do, to itself and to the directory.
* `Claimant.Stage.of_made`, `Claimant.Stage.of_not_made`: which attempts it has made.
-/

namespace WorkerFleet

open Dialogue Host List StandIn

/-- A directory as those see it who make files in it: names, each with what is kept under it. -/
structure Directory where
  entries : List (OsString × List UInt8)
  distinct : (entries.map Prod.fst).Nodup

namespace Directory

def names (d : Directory) : List OsString := d.entries.map Prod.fst

def add (d : Directory) (name : OsString) (free : name ∉ d.names) : Directory where
  entries := d.entries ++ [(name, [])]
  distinct := by
    rw [map_append, nodup_append]
    refine ⟨d.distinct, by simp, ?_⟩
    intro a ha b hb hab
    have hname : b = name := by simpa using hb
    exact free (hname ▸ hab ▸ ha)

/-- An entry with more bytes at its end, if it has that name. -/
def lengthen (name : OsString) (bytes : List UInt8) (e : OsString × List UInt8) :
    OsString × List UInt8 :=
  if e.1 = name then (e.1, e.2 ++ bytes) else e

@[simp] theorem lengthen_fst (name : OsString) (bytes : List UInt8) (e : OsString × List UInt8) :
    (lengthen name bytes e).1 = e.1 := by
  rw [lengthen]
  split <;> rfl

theorem lengthen_of_ne {name : OsString} (bytes : List UInt8) {e : OsString × List UInt8}
    (h : e.1 ≠ name) : lengthen name bytes e = e := if_neg h

def extend (d : Directory) (name : OsString) (bytes : List UInt8) : Directory where
  entries := d.entries.map (lengthen name bytes)
  distinct := by simpa [Function.comp_def] using d.distinct

@[simp] theorem entries_add (d : Directory) (name : OsString) (free : name ∉ d.names) :
    (d.add name free).entries = d.entries ++ [(name, [])] := rfl

@[simp] theorem entries_extend (d : Directory) (name : OsString) (bytes : List UInt8) :
    (d.extend name bytes).entries = d.entries.map (lengthen name bytes) := rfl

@[simp] theorem names_add (d : Directory) (name : OsString) (free : name ∉ d.names) :
    (d.add name free).names = d.names ++ [name] := by
  simp [names]

@[simp] theorem names_extend (d : Directory) (name : OsString) (bytes : List UInt8) :
    (d.extend name bytes).names = d.names := by
  simp [names, Function.comp_def]

/-- How the system serves those who make files in the directory that `dir` leads to. To make a file
is one step, which fails just if the name is there already. What was made can be written to, which
may fail at any time. -/
inductive Serves (dir : OsString) (pid : Pid) : Directory → Exchange System → Directory → Prop
  | ownPid (d : Directory) : Serves dir pid d ⟨.ownPid, pid⟩ d
  | create (d : Directory) (name path : OsString) (hpath : path = Path.join dir name)
      (free : name ∉ d.names) :
      Serves dir pid d ⟨.createNew path, (.ok () : Except OsError Unit)⟩ (d.add name free)
  | collide (d : Directory) (name path : OsString) (hpath : path = Path.join dir name)
      (h : name ∈ d.names) :
      Serves dir pid d ⟨.createNew path, (.error .alreadyExists : Except OsError Unit)⟩ d
  | write (d : Directory) (name path : OsString) (bytes : List UInt8)
      (hpath : path = Path.join dir name) (h : name ∈ d.names) :
      Serves dir pid d ⟨.append path bytes, (.ok () : Except OsError Unit)⟩ (d.extend name bytes)
  | lose (d : Directory) (path : OsString) (bytes : List UInt8) (e : OsError) :
      Serves dir pid d ⟨.append path bytes, (.error e : Except OsError Unit)⟩ d

end Directory

theorem Path.join_injective (dir : OsString) : Function.Injective (Path.join dir) := by
  have happend : ∀ {s t u : OsString}, s ++ t = s ++ u → t = u := by
    intro s t u h
    have hbytes : s.bytes ++ t.bytes = s.bytes ++ u.bytes := congrArg OsString.bytes h
    exact congrArg OsString.mk (append_cancel_left hbytes)
  intro a b h
  rw [Path.join, Path.join] at h
  split at h
  · exact happend h
  · exact happend h

namespace StandIn

def slotName (slot : Nat) : OsString := .ofText (String.ofList (Text.Decimal.ofNat slot))

theorem slotName_injective : Function.Injective slotName := by
  intro a b h
  have hdigits : Text.Decimal.ofNat a = Text.Decimal.ofNat b :=
    String.ofList_injective (OsString.ofText_injective h)
  exact Text.Decimal.ofNat_injective hdigits

theorem slotPath_injective (dir : OsString) : Function.Injective (slotPath dir) :=
  (Path.join_injective dir).comp slotName_injective

/-- Slots that are taken from 0 on are no more than the names in the directory. -/
theorem le_length_names {d : Directory} {count : Nat} (h : ∀ j < count, slotName j ∈ d.names) :
    count ≤ d.names.length := by
  have hnd : ((range count).map slotName).Nodup := nodup_range.map slotName_injective
  have hsub : (range count).map slotName ⊆ d.names := by
    intro name hname
    obtain ⟨j, hj, rfl⟩ := mem_map.mp hname
    exact h j (mem_range.mp hj)
  simpa using (hnd.subperm hsub).length_le

/-- The bytes that tell whose a slot is. -/
def pidLine (pid : Pid) : List UInt8 :=
  (OsString.ofText (String.ofList (Text.Decimal.ofNat pid) ++ "\n")).bytes

/-- What comes after the number has been written, or has not. -/
def noted (slot : Nat) : Except OsError Unit → Dialogue System (Except Failure Nat)
  | .error e => .done (.error (.slotContent e))
  | .ok () => .done (.ok slot)

def note (dir : OsString) : Except Failure Nat → Dialogue System (Except Failure Nat)
  | .error e => .done (.error e)
  | .ok slot =>
    .ask .ownPid fun pid => .ask (.append (slotPath dir slot) (pidLine pid)) (noted slot)

theorem claimSlot_eq (dir : OsString) :
    claimSlot dir = (claimFrom dir slotLimit 0).bind (note dir) := rfl

end StandIn

/-- A stand-in that claims a slot: what it has said to the system, and what is left of it. -/
structure Claimant where
  pid : Pid
  history : List (Exchange System)
  rest : Dialogue System (Except Failure Nat)

/-- An attempt to make a file: its path, and whether it was made. -/
def attempt? : Exchange System → Option (OsString × Bool)
  | ⟨.createNew path, .ok _⟩ => some (path, true)
  | ⟨.createNew path, .error _⟩ => some (path, false)
  | _ => none

def written? : Exchange System → List UInt8
  | ⟨.append _ bytes, .ok _⟩ => bytes
  | _ => []

namespace Claimant

def attempts (w : Claimant) : List (OsString × Bool) := w.history.filterMap attempt?

def made (w : Claimant) : List OsString := (w.attempts.filter (·.2)).map Prod.fst

def written (w : Claimant) : List UInt8 := w.history.flatMap written?

def after (w : Claimant) (x : Exchange System) (rest : Dialogue System (Except Failure Nat)) :
    Claimant :=
  { w with history := w.history ++ [x], rest }

theorem pid_after (w : Claimant) (x : Exchange System)
    (rest : Dialogue System (Except Failure Nat)) : (w.after x rest).pid = w.pid := rfl

theorem attempts_after (w : Claimant) (x : Exchange System)
    (rest : Dialogue System (Except Failure Nat)) :
    (w.after x rest).attempts = w.attempts ++ (attempt? x).toList := by
  rw [attempts, after, filterMap_append]
  cases h : attempt? x <;> simp [attempts, h]

/-- The attempts at all slots below one. -/
def refusals (dir : OsString) (slot : Nat) : List (OsString × Bool) :=
  (range slot).map fun k => (slotPath dir k, false)

def claimed (dir : OsString) (slot : Nat) : List (OsString × Bool) :=
  refusals dir slot ++ [(slotPath dir slot, true)]

theorem refusals_succ (dir : OsString) (slot : Nat) :
    refusals dir (slot + 1) = refusals dir slot ++ [(slotPath dir slot, false)] := by
  rw [refusals, range_succ, map_append]
  rfl

/-- How far a claimant has come. It tries one slot after the other, notes its number under the first
one that it gets, and is done. -/
inductive Stage (dir : OsString) (w : Claimant) : Prop
  | searching (slot remaining : Nat) (sum : slot + remaining = slotLimit)
      (attempts : w.attempts = refusals dir slot) (length : w.history.length = slot)
      (written : w.written = []) (rest : w.rest = (claimFrom dir remaining slot).bind (note dir))
  | holding (slot : Nat) (small : slot < slotLimit) (attempts : w.attempts = claimed dir slot)
      (length : w.history.length = slot + 1) (written : w.written = [])
      (rest : w.rest = note dir (.ok slot))
  | noting (slot : Nat) (small : slot < slotLimit) (attempts : w.attempts = claimed dir slot)
      (length : w.history.length = slot + 2) (written : w.written = [])
      (rest : w.rest = .ask (.append (slotPath dir slot) (pidLine w.pid)) (noted slot))
  | ended (slot : Nat) (small : slot < slotLimit) (attempts : w.attempts = claimed dir slot)
      (length : w.history.length = slot + 3) (result : Except OsError Unit)
      (written : result = .ok () → w.written = pidLine w.pid) (rest : w.rest = noted slot result)

variable {dir : OsString} {w : Claimant}

theorem stage_begin (dir : OsString) (pid : Pid) : Stage dir ⟨pid, [], claimSlot dir⟩ :=
  .searching 0 slotLimit (Nat.zero_add _) rfl rfl rfl (claimSlot_eq dir)

theorem mem_made {path : OsString} :
    path ∈ w.made ↔ (path, true) ∈ w.attempts := by
  simp [made]

theorem made_after (w : Claimant) (x : Exchange System)
    (rest : Dialogue System (Except Failure Nat)) :
    (w.after x rest).made =
      w.made ++ (((attempt? x).toList.filter (·.2)).map Prod.fst) := by
  rw [made, attempts_after, filter_append, map_append]
  rfl

theorem written_after (w : Claimant) (x : Exchange System)
    (rest : Dialogue System (Except Failure Nat)) :
    (w.after x rest).written = w.written ++ written? x := by
  simp [written, after]

/-- What the step of a claimant comes to in the directory. -/
inductive Effect (dir : OsString) (w : Claimant) (d : Directory) (x : Exchange System) :
    Directory → Prop
  | refused (slot : Nat) (hx : attempt? x = some (slotPath dir slot, false))
      (h : slotName slot ∈ d.names) (hw : written? x = []) : Effect dir w d x d
  | claimed (slot : Nat) (hx : attempt? x = some (slotPath dir slot, true))
      (free : slotName slot ∉ d.names) (hw : written? x = []) (empty : w.written = []) :
      Effect dir w d x (d.add (slotName slot) free)
  | noted (slot : Nat) (hx : attempt? x = none) (own : slotPath dir slot ∈ w.made) :
      Effect dir w d x (d.extend (slotName slot) (written? x))
  | silent (hx : attempt? x = none) (hw : written? x = []) : Effect dir w d x d

theorem Effect.names_subset {d d' : Directory} {x : Exchange System} (h : w.Effect dir d x d') :
    d.names ⊆ d'.names := by
  cases h with
  | refused slot hx taken hw => exact fun _ hn => hn
  | claimed slot hx free hw empty =>
    rw [Directory.names_add]
    exact subset_append_left _ _
  | noted slot hx own =>
    rw [Directory.names_extend]
    exact fun _ hn => hn
  | silent hx hw => exact fun _ hn => hn

/-- The attempt of a step names a slot that is taken afterwards. -/
theorem Effect.tried {d d' : Directory} {x : Exchange System} (h : w.Effect dir d x d')
    {slot : Nat} {made : Bool}
    (hx : attempt? x = some (slotPath dir slot, made)) : slotName slot ∈ d'.names := by
  have hslot : ∀ {other : Nat} {flag : Bool}, attempt? x = some (slotPath dir other, flag) →
      other = slot := by
    intro other flag hother
    rw [hother, Option.some.injEq, Prod.mk.injEq] at hx
    exact slotPath_injective dir hx.1
  cases h with
  | refused other ho taken hw =>
    obtain rfl := hslot ho
    exact taken
  | claimed other ho free hw empty =>
    obtain rfl := hslot ho
    rw [Directory.names_add]
    simp
  | noted other ho own =>
    rw [ho] at hx
    cases hx
  | silent ho hw =>
    rw [ho] at hx
    cases hx

/-- All that one step of a claimant can do. -/
theorem Stage.step (h : w.Stage dir) {r : System.Request}
    {k : System.Reply r → Dialogue System (Except Failure Nat)} (hrest : w.rest = .ask r k)
    {reply : System.Reply r} {d d' : Directory}
    (hs : Directory.Serves dir w.pid d ⟨r, reply⟩ d') :
    (w.after ⟨r, reply⟩ (k reply)).Stage dir ∧ Effect dir w d ⟨r, reply⟩ d' := by
  cases h with
  | searching slot remaining sum attempts length written rest =>
    rw [rest] at hrest
    cases remaining with
    | zero => cases hrest
    | succ remaining =>
      cases hrest
      cases hs with
      | create name _ hpath free =>
        obtain rfl : slotName slot = name := Path.join_injective dir hpath
        refine ⟨.holding slot (by omega) ?_ ?_ ?_ rfl, .claimed slot rfl free rfl written⟩
        · rw [attempts_after, attempts]
          rfl
        · simp [after, length]
        · rw [written_after, written]
          rfl
      | collide name _ hpath taken =>
        obtain rfl : slotName slot = name := Path.join_injective dir hpath
        refine ⟨.searching (slot + 1) remaining (by omega) ?_ ?_ ?_ rfl,
          .refused slot rfl taken rfl⟩
        · rw [attempts_after, attempts, refusals_succ]
          rfl
        · simp [after, length]
        · rw [written_after, written]
          rfl
  | holding slot small attempts length written rest =>
    rw [rest] at hrest
    cases hrest
    cases hs
    refine ⟨.noting slot small ?_ ?_ ?_ rfl, .silent rfl rfl⟩
    · rw [attempts_after, attempts]
      exact append_nil _
    · simp [after, length]
    · rw [written_after, written]
      rfl
  | noting slot small attempts length written rest =>
    rw [rest] at hrest
    cases hrest
    have hattempts : ∀ (reply : Except OsError Unit),
        (w.after ⟨.append (slotPath dir slot) (pidLine w.pid), reply⟩ (noted slot reply)).attempts =
          claimed dir slot := by
      intro reply
      rw [attempts_after, attempts]
      exact append_nil _
    cases hs with
    | write name _ _ hpath held =>
      obtain rfl : slotName slot = name := Path.join_injective dir hpath
      refine ⟨.ended slot small (hattempts _) ?_ (.ok ()) ?_ rfl, .noted slot rfl ?_⟩
      · simp [after, length]
      · rw [written_after, written]
        exact fun _ => rfl
      · rw [mem_made, attempts, claimed]
        simp
    | lose _ _ e =>
      refine ⟨.ended slot small (hattempts _) ?_ (.error e) ?_ rfl, .silent rfl rfl⟩
      · simp [after, length]
      · intro hne
        cases hne
  | ended slot small attempts length result written rest =>
    rw [rest] at hrest
    cases result <;> cases hrest

theorem made_of_refusals {slot : Nat} (h : w.attempts = refusals dir slot) : w.made = [] := by
  simp [made, h, refusals, filter_map, Function.comp_def]

theorem made_of_claimed {slot : Nat} (h : w.attempts = claimed dir slot) :
    w.made = [slotPath dir slot] := by
  simp [made, h, claimed, refusals, filter_map, Function.comp_def]

/-- A claimant is still searching, or it has the slot that it tried last. -/
theorem Stage.searching_or_claimed (h : w.Stage dir) :
    (∃ slot remaining, slot + remaining = slotLimit ∧ w.attempts = refusals dir slot ∧
      w.history.length = slot ∧ w.rest = (claimFrom dir remaining slot).bind (note dir)) ∨
    ∃ slot, slot < slotLimit ∧ w.attempts = claimed dir slot ∧ w.history.length ≤ slot + 3 := by
  cases h with
  | searching slot remaining sum attempts length written rest =>
    exact .inl ⟨slot, remaining, sum, attempts, length, rest⟩
  | holding slot small attempts length written rest =>
    exact .inr ⟨slot, small, attempts, by omega⟩
  | noting slot small attempts length written rest =>
    exact .inr ⟨slot, small, attempts, by omega⟩
  | ended slot small attempts length result written rest =>
    exact .inr ⟨slot, small, attempts, by omega⟩

theorem Stage.made_cases (h : w.Stage dir) :
    w.made = [] ∨ ∃ slot, w.made = [slotPath dir slot] := by
  rcases h.searching_or_claimed with ⟨slot, remaining, _, ha, _⟩ | ⟨slot, _, ha, _⟩
  · exact .inl (made_of_refusals ha)
  · exact .inr ⟨slot, made_of_claimed ha⟩

/-- A claimant that has a file tried all slots below it first. -/
theorem Stage.of_made (h : w.Stage dir) {slot : Nat}
    (hm : slotPath dir slot ∈ w.made) :
    w.attempts = claimed dir slot ∧ slot < slotLimit ∧ w.history.length ≤ slot + 3 := by
  rcases h.searching_or_claimed with ⟨other, remaining, _, ha, _⟩ | ⟨other, hsmall, ha, hlen⟩
  · rw [made_of_refusals ha] at hm
    cases hm
  · rw [made_of_claimed ha, mem_singleton] at hm
    obtain rfl := slotPath_injective dir hm
    exact ⟨ha, hsmall, hlen⟩

/-- A claimant without a file has found all slots taken so far. -/
theorem Stage.of_not_made (h : w.Stage dir) (hm : w.made = []) :
    ∃ slot remaining, slot + remaining = slotLimit ∧ w.attempts = refusals dir slot ∧
      w.history.length = slot ∧ w.rest = (claimFrom dir remaining slot).bind (note dir) := by
  rcases h.searching_or_claimed with hsearching | ⟨slot, _, ha, _⟩
  · exact hsearching
  · rw [made_of_claimed ha] at hm
    cases hm

end Claimant

end WorkerFleet
