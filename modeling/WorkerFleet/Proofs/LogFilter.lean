import WorkerFleet.Log
import WorkerFleet.Proofs.Numerals
import WorkerFleet.Proofs.Splitting
import WorkerFleet.Proofs.Variables

/-!
# What the log lets pass

For the launcher's own events a setting of the filter comes to a ceiling, or to silence. This is so
for a setting with one directive, or with none.

* `ceiling?_eq_some_iff`: the levels, by name and by number.
* `enables_of_admits`: which events pass.
-/

namespace WorkerFleet.Log

open Text Decimal

/-- A level by name, in letters of either case, or by number. Silence counts as one. -/
inductive Denotes (text : String) : Option Level → Prop
  | name {ceiling : Option Level}
      (h : (String.ofList (text.toList.map Char.toLower), ceiling) ∈ ceilings) :
      Denotes text ceiling
  | number {n : Nat} {name : String} {ceiling : Option Level} (hn : Unsigned text.toList n)
      (h : ceilings[n]? = some (name, ceiling)) : Denotes text ceiling

/-- What targets may begin with. -/
structure IsScope (name : String) : Prop where
  ne_empty : name ≠ ""
  chars : ∀ c ∈ name.toList,
    c.isAlphanum = true ∨ c = '_' ∨ c = ':' ∨ c = '-' ∨ 128 ≤ c.toNat

/-- The ceiling that a setting comes to for the launcher's own target: none is silence. -/
inductive Admits : Option OsString → Option Level → Prop
  | unset : Admits none (some .warn)
  | empty : Admits (some (.ofText "")) (some .warn)
  | level {text : String} {ceiling : Option Level} (h : Denotes text ceiling)
      (hplus : text.toList.head? ≠ some '+') : Admits (some (.ofText text)) ceiling
  /-- A target without a level lets everything pass that is its own. -/
  | target {name : String} (h : IsScope name) (hp : name.toList <+: target.toList) :
      Admits (some (.ofText name)) (some .trace)
  | otherTarget {name : String} (h : IsScope name) (hno : ∀ ceiling, ¬ Denotes name ceiling)
      (hp : ¬ name.toList <+: target.toList) : Admits (some (.ofText name)) none
  | targetLevel {name text : String} {ceiling : Option Level} (h : IsScope name)
      (hl : Denotes text ceiling) (hp : name.toList <+: target.toList) :
      Admits (some (.ofText (name ++ "=" ++ text))) ceiling
  | otherTargetLevel {name text : String} {ceiling : Option Level} (h : IsScope name)
      (hl : Denotes text ceiling) (hp : ¬ name.toList <+: target.toList) :
      Admits (some (.ofText (name ++ "=" ++ text))) none

/-- The levels up to a ceiling. -/
def upTo : Option Level → List Level
  | none => []
  | some .error => [.error]
  | some .warn => [.error, .warn]
  | some .info => [.error, .warn, .info]
  | some .debug => [.error, .warn, .info, .debug]
  | some .trace => [.error, .warn, .info, .debug, .trace]

def passes (ceiling : Option Level) (level : Level) : Bool := (upTo ceiling).contains level

/-- The names of the levels are in lower case. -/
theorem isLower_of_mem_ceilings {p : String × Option Level} (h : p ∈ ceilings) :
    p.1 ≠ "" ∧ ∀ c ∈ p.1.toList, c.isLower = true := by
  have hall : ceilings.all (fun p => p.1 != "" && p.1.toList.all Char.isLower) = true := by
    decide
  have hp := List.all_eq_true.mp hall p h
  rw [Bool.and_eq_true, bne_iff_ne, List.all_eq_true] at hp
  exact hp

theorem lookup_of_mem_ceilings {p : String × Option Level} (h : p ∈ ceilings) :
    ceilings.lookup p.1 = some p.2 := by
  revert p
  decide

/-- What is left alone in lower case and is no such letter stands in no name of a level. -/
theorem not_mem_of_name {text : List Char} {ceiling : Option Level}
    (h : (String.ofList (text.map Char.toLower), ceiling) ∈ ceilings) {c : Char}
    (hsame : c.toLower = c) (hc : c.isLower = false) : c ∉ text := by
  intro hm
  have hlower := (isLower_of_mem_ceilings h).2 c (by
    rw [String.toList_ofList]
    exact List.mem_map.mpr ⟨c, hm, hsame⟩)
  rw [hc] at hlower
  cases hlower

theorem lower_of_isDigit {c : Char} (h : c.isDigit = true) :
    c.toLower = c ∧ c.isLower = false := by
  have hc := (isDigit_iff c).mp h
  have hnat : c.toNat = c.val.toNat := rfl
  constructor
  · have hupper : ¬ (c.val ≥ 'A'.val ∧ c.val ≤ 'Z'.val) := by
      rintro ⟨hle, -⟩
      have hle' : 65 ≤ c.val.toNat := hle
      omega
    exact dif_neg hupper
  · have hlower : ¬ c.val ≥ 'a'.val := by
      intro hle
      have hle' : 97 ≤ c.val.toNat := hle
      omega
    show (decide (c.val ≥ 'a'.val) && decide (c.val ≤ 'z'.val)) = false
    rw [decide_eq_false hlower, Bool.false_and]

/-- No number is the name of a level. -/
theorem not_unsigned_of_name {text : List Char} {ceiling : Option Level}
    (h : (String.ofList (text.map Char.toLower), ceiling) ∈ ceilings) (n : Nat) :
    ¬ Unsigned text n := by
  intro hn
  obtain ⟨c, rest, rfl⟩ := List.exists_cons_of_ne_nil hn.ne_nil
  rcases hn.digit_or_plus c List.mem_cons_self with hc | rfl
  · exact not_mem_of_name h (lower_of_isDigit hc).1 (lower_of_isDigit hc).2 List.mem_cons_self
  · exact not_mem_of_name h (by decide) (by decide) List.mem_cons_self

theorem ceiling?_eq_some_iff {text : String} {ceiling : Option Level} :
    ceiling? text = some ceiling ↔ Denotes text ceiling := by
  rw [ceiling?]
  constructor
  · cases hread : natural (ceilings.length - 1) text.toList with
    | ok n =>
      dsimp only
      rw [Option.map_eq_some_iff]
      rintro ⟨⟨name, ceiling⟩, hn, rfl⟩
      exact .number (natural_eq_ok_iff.mp hread).1 hn
    | error fault =>
      dsimp only
      rw [List.lookup_eq_some_iff]
      rintro ⟨before, after, heq, -⟩
      refine .name ?_
      rw [heq]
      simp
  · intro h
    cases h with
    | name h =>
      cases hread : natural (ceilings.length - 1) text.toList with
      | ok n => exact absurd (natural_eq_ok_iff.mp hread).1 (not_unsigned_of_name h n)
      | error fault => exact lookup_of_mem_ceilings h
    | @number n name _ hn h =>
      have hlt : n < ceilings.length := (List.getElem?_eq_some_iff.mp h).1
      rw [natural_eq_ok_iff.mpr ⟨hn, Nat.le_sub_one_of_lt hlt⟩]
      dsimp only
      rw [h, Option.map_some]

/-- Levels hold nothing that separates directives or their parts. -/
theorem Denotes.plain {text : String} {ceiling : Option Level} (h : Denotes text ceiling) :
    text.toList ≠ [] ∧ ',' ∉ text.toList ∧ '=' ∉ text.toList := by
  cases h with
  | name h =>
    refine ⟨?_, not_mem_of_name h (by decide) (by decide),
      not_mem_of_name h (by decide) (by decide)⟩
    intro hnil
    rw [hnil] at h
    exact (isLower_of_mem_ceilings h).1 rfl
  | number hn =>
    have hno : ∀ {c : Char}, c.isDigit = false → c ≠ '+' → c ∉ text.toList := by
      intro c hc hplus hm
      rcases hn.digit_or_plus c hm with hd | rfl
      · rw [hc] at hd
        cases hd
      · exact hplus rfl
    exact ⟨hn.ne_nil, hno (by decide) (by decide), hno (by decide) (by decide)⟩

namespace IsScope

variable {name : String}

theorem plain (h : IsScope name) :
    name.toList ≠ [] ∧ ',' ∉ name.toList ∧ '=' ∉ name.toList ∧ name.toList.head? ≠ some '+' := by
  have hno : ∀ {c : Char}, c.isAlphanum = false → c.toNat < 128 → c ≠ '_' → c ≠ ':' → c ≠ '-' →
      c ∉ name.toList := by
    intro c halnum hascii h_ hcolon hminus hm
    rcases h.chars c hm with hc | hc | hc | hc | hc
    · rw [halnum] at hc
      cases hc
    · exact h_ hc
    · exact hcolon hc
    · exact hminus hc
    · omega
  refine ⟨by simpa using h.ne_empty,
    hno (by decide) (by decide) (by decide) (by decide) (by decide),
    hno (by decide) (by decide) (by decide) (by decide) (by decide), ?_⟩
  intro hplus
  exact hno (by decide) (by decide) (by decide) (by decide) (by decide)
    (List.mem_of_mem_head? hplus)

theorem of_isTarget (h : Directive.isTarget name = true) : IsScope name := by
  rw [Directive.isTarget, Bool.and_eq_true, List.all_eq_true] at h
  refine ⟨by simpa using h.1, fun c hc => ?_⟩
  have hchar := h.2 c hc
  simp only [Bool.or_eq_true, beq_iff_eq] at hchar
  rcases hchar with ((halnum | h_) | hcolon) | hminus
  · exact .inl halnum
  · exact .inr (.inl h_)
  · exact .inr (.inr (.inl hcolon))
  · exact .inr (.inr (.inr (.inl hminus)))

/-- The beginnings of the launcher's own target are in ASCII, and no levels. -/
theorem of_prefix (h : IsScope name) (hp : name.toList <+: target.toList) :
    Directive.isTarget name = true ∧ ceiling? name = none := by
  constructor
  · rw [Directive.isTarget, Bool.and_eq_true]
    refine ⟨by simpa using h.ne_empty, List.all_eq_true.mpr fun c hc => ?_⟩
    have hall : target.toList.all
        (fun c => c.isAlphanum || c == '_' || c == ':' || c == '-') = true := by decide
    exact List.all_eq_true.mp hall c (hp.subset hc)
  · obtain ⟨rest, hrest⟩ := hp
    obtain ⟨c, cs, hname⟩ := List.exists_cons_of_ne_nil h.plain.1
    rw [hname] at hrest
    obtain rfl : c = 'g' := by
      have hhead := congrArg List.head? hrest
      simpa [target] using hhead
    rw [Option.eq_none_iff_forall_ne_some]
    intro ceiling hceiling
    cases ceiling?_eq_some_iff.mp hceiling with
    | name hlevel =>
      have hg : ∀ p ∈ ceilings, p.1.toList.head? ≠ some 'g' := by decide
      refine hg _ hlevel ?_
      rw [String.toList_ofList, hname]
      rfl
    | number hn =>
      -- no number begins with the first letter of the target either
      rw [hname] at hn
      rcases hn.digit_or_plus 'g' List.mem_cons_self with hc | hc <;> cases hc

end IsScope

/-- A level alone is a directive for all targets. -/
theorem parse?_level {text : String} {ceiling : Option Level} (h : Denotes text ceiling)
    (hplus : text.toList.head? ≠ some '+') : Directive.parse? text = some ⟨none, ceiling⟩ := by
  rw [Directive.parse?, splitFirst_of_not_mem h.plain.2.2]
  split
  case h_1 heq =>
    rw [(Prod.mk.inj heq).1] at hplus
    exact absurd rfl hplus
  case h_2 => rw [ceiling?_eq_some_iff.mpr h]
  case h_3 heq => cases (Prod.mk.inj heq).2
  case h_4 heq => cases (Prod.mk.inj heq).2

theorem parse?_target {name : String} (h : IsScope name) (hno : ceiling? name = none) :
    Directive.parse? name =
      if Directive.isTarget name then some ⟨some name, some .trace⟩ else none := by
  rw [Directive.parse?, splitFirst_of_not_mem h.plain.2.2.1]
  split
  case h_1 heq =>
    have hplus := h.plain.2.2.2
    rw [(Prod.mk.inj heq).1] at hplus
    exact absurd rfl hplus
  case h_2 => rw [hno]
  case h_3 heq => cases (Prod.mk.inj heq).2
  case h_4 heq => cases (Prod.mk.inj heq).2

theorem parse?_targetLevel {name text : String} {ceiling : Option Level} (h : IsScope name)
    (hl : Denotes text ceiling) : Directive.parse? (name ++ "=" ++ text) =
      if Directive.isTarget name then some ⟨some name, ceiling⟩ else none := by
  have hsplit : splitFirst '=' (name ++ "=" ++ text).toList = (name.toList, some text.toList) := by
    rw [← splitFirst_append h.plain.2.2.1]
    simp
  rw [Directive.parse?, hsplit]
  split
  case h_1 heq => cases (Prod.mk.inj heq).2
  case h_2 heq => cases (Prod.mk.inj heq).2
  case h_3 heq =>
    have hnil := Option.some.inj (Prod.mk.inj heq).2
    exact absurd hnil hl.plain.1
  case h_4 heq =>
    obtain ⟨rfl, htext⟩ := Prod.mk.inj heq
    obtain rfl := Option.some.inj htext
    rw [String.ofList_toList, String.ofList_toList, ceiling?_eq_some_iff.mpr hl]
    rfl

theorem passes_some (ceiling level : Level) :
    passes (some ceiling) level = decide (level.rank ≤ ceiling.rank) := by
  cases ceiling <;> cases level <;> rfl

/-- A filter with one directive. -/
theorem enables_singleton (d : Directive) (name : String) (level : Level) :
    Filter.enables [d] name level = (d.covers name && passes d.ceiling level) := by
  rw [Filter.enables, Filter.directive?]
  cases hcovers : d.covers name with
  | false => simp [hcovers]
  | true =>
    simp only [hcovers, List.filter_cons_of_pos, List.filter_nil, List.foldl_cons, List.foldl_nil,
      Option.bind_some, Bool.true_and]
    cases d.ceiling with
    | none => rfl
    | some ceiling => exact (passes_some ceiling level).symm

theorem covers_scope (name : String) (ceiling : Option Level) :
    (⟨some name, ceiling⟩ : Directive).covers target = true ↔ name.toList <+: target.toList :=
  List.isPrefixOf_iff_prefix

/-- A setting without a comma is one directive, or none that counts. -/
theorem filter_parse {text : String} (hne : text.toList ≠ []) (hcomma : ',' ∉ text.toList) :
    Filter.parse text =
      match Directive.parse? text with
      | some d => [d]
      | none => .default := by
  rw [Filter.parse, splitOn_of_not_mem hcomma]
  have hkept : [text.toList].filter (!·.isEmpty) = [text.toList] := by simpa using hne
  rw [hkept]
  simp only [List.filterMap_cons, List.filterMap_nil, String.ofList_toList]
  cases Directive.parse? text <;> rfl

/-- No event of a launch is as grave as a warning. -/
theorem passes_warn (e : Event) : passes (some .warn) e.level = false := by
  cases e with
  | started => rfl
  | exited _ _ status =>
    rw [Event.level]
    cases status.isSuccess <;> rfl

theorem enables_default (e : Event) : Filter.enables .default target e.level = false := by
  rw [Filter.default, enables_singleton]
  exact passes_warn e

/-- Which events pass under a setting with one directive. -/
theorem enables_parse {text : String} (hne : text.toList ≠ []) (hcomma : ',' ∉ text.toList)
    (e : Event) : (Filter.parse text).enables target e.level =
      match Directive.parse? text with
      | some d => d.covers target && passes d.ceiling e.level
      | none => false := by
  rw [filter_parse hne hcomma]
  cases Directive.parse? text with
  | none => exact enables_default e
  | some d => exact enables_singleton d target e.level

/-- What follows a scope says for which level it is, and the scope for which targets. -/
theorem enables_scope {text name : String} {ceiling : Option Level} (hne : text.toList ≠ [])
    (hcomma : ',' ∉ text.toList)
    (hparse : Directive.parse? text =
      if Directive.isTarget name then some ⟨some name, ceiling⟩ else none) (e : Event) :
    (name.toList <+: target.toList → Directive.isTarget name = true →
      (Filter.parse text).enables target e.level = passes ceiling e.level) ∧
    (¬ name.toList <+: target.toList → (Filter.parse text).enables target e.level = false) := by
  rw [enables_parse hne hcomma, hparse]
  constructor
  · intro hp htarget
    rw [if_pos htarget]
    simp only [(covers_scope name ceiling).mpr hp, Bool.true_and]
  · intro hp
    have hcovers : (⟨some name, ceiling⟩ : Directive).covers target = false := by
      rw [Bool.eq_false_iff, ne_eq, covers_scope]
      exact hp
    by_cases htarget : Directive.isTarget name = true
    · rw [if_pos htarget]
      simp only [hcovers, Bool.false_and]
    · rw [if_neg htarget]

/-- The events that pass are those up to the ceiling that the setting comes to. -/
theorem enables_of_admits {env : Environment} {ceiling : Option Level}
    (h : Admits (env.get? filterVariable) ceiling) (e : Event) :
    (Filter.ofEnvironment env).enables target e.level = passes ceiling e.level := by
  rw [Filter.ofEnvironment]
  generalize hvalue : env.get? filterVariable = value at h
  have htext : ∀ {text : String}, value = some (.ofText text) →
      (env.text? filterVariable).getD "" = text := by
    rintro text rfl
    rw [Environment.text?_eq_some_iff.mpr hvalue, Option.getD_some]
  cases h with
  | unset =>
    have hnone : env.text? filterVariable = none :=
      Environment.text?_eq_none_iff.mpr (by simp [hvalue])
    rw [hnone]
    exact (enables_default e).trans (passes_warn e).symm
  | empty =>
    rw [htext rfl]
    exact (enables_default e).trans (passes_warn e).symm
  | level h hplus =>
    rw [htext rfl, enables_parse h.plain.1 h.plain.2.1, parse?_level h hplus]
    exact Bool.true_and _
  | target h hp =>
    obtain ⟨htarget, hno⟩ := h.of_prefix hp
    rw [htext rfl]
    exact (enables_scope h.plain.1 h.plain.2.1 (parse?_target h hno) e).1 hp htarget
  | otherTarget h hno hp =>
    have hnone : ceiling? _ = none :=
      Option.eq_none_iff_forall_ne_some.mpr fun ceiling hceiling =>
        hno ceiling (ceiling?_eq_some_iff.mp hceiling)
    rw [htext rfl]
    exact (enables_scope h.plain.1 h.plain.2.1 (parse?_target h hnone) e).2 hp
  | @targetLevel name text _ h hl hp =>
    have hcomma : ',' ∉ (name ++ "=" ++ text).toList := by simp [h.plain.2.1, hl.plain.2.1]
    rw [htext rfl]
    exact (enables_scope (by simp) hcomma (parse?_targetLevel h hl) e).1 hp (h.of_prefix hp).1
  | @otherTargetLevel name text _ h hl hp =>
    have hcomma : ',' ∉ (name ++ "=" ++ text).toList := by simp [h.plain.2.1, hl.plain.2.1]
    rw [htext rfl]
    exact (enables_scope (by simp) hcomma (parse?_targetLevel h hl) e).2 hp

end WorkerFleet.Log
