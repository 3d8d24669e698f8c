import WorkerFleet.Proofs.Complaints
import WorkerFleet.Proofs.Variables

/-!
# The entries of a list

A list is a text with commas. What stands between two of them is an entry, without the white space
around it, unless nothing else stands there. For an index a stand-in takes one of the entries, and
that one alone has to be a number.

* `listing_iff`: every text has its entries.
* `nthEntry_iff`: what the list of a variable gives for an index.
* `nthEntry_selects`: it depends on one entry and on how many there are.
* `nthEntry_of_listing`: the entry for an index of a list of numbers.
-/

namespace WorkerFleet.StandIn

open Text Decimal Quoted

/-- The parts of a list, and its entries. Each entry is the core of its part, and a blank part has
none. -/
inductive Lists : List (List Char) → List (List Char) → Prop
  | nil : Lists [] []
  | blank {part : List Char} {parts list : List (List Char)} (h : Core part [])
      (hs : Lists parts list) : Lists (part :: parts) list
  | entry {part entry : List Char} {parts list : List (List Char)} (h : Core part entry)
      (hne : entry ≠ []) (hs : Lists parts list) : Lists (part :: parts) (entry :: list)

/-- The entries of a text, whose parts stand between commas. -/
def Listing (text : String) (list : List (List Char)) : Prop :=
  ∃ parts, parts ≠ [] ∧ (∀ part ∈ parts, ',' ∉ part) ∧ text.toList = [','].intercalate parts ∧
    Lists parts list

section

variable {parts list : List (List Char)} {text : String}

theorem Lists.eq_filter (h : Lists parts list) :
    list = (parts.map trim).filter (!·.isEmpty) := by
  induction h with
  | nil => rfl
  | blank h _ ih => simpa [h.trim_eq] using ih
  | entry h hne _ ih => simpa [h.trim_eq, hne] using ih

theorem lists_filter (parts : List (List Char)) :
    Lists parts ((parts.map trim).filter (!·.isEmpty)) := by
  induction parts with
  | nil => exact .nil
  | cons part parts ih =>
    have hcore := core_trim part
    by_cases hblank : trim part = []
    · rw [hblank] at hcore
      simpa [hblank] using Lists.blank hcore ih
    · simpa [hblank] using Lists.entry hcore hblank ih

theorem listing_entries (text : String) : Listing text (entries text) :=
  ⟨splitOn ',' text.toList, splitOn_ne_nil _ _, fun _ hp => not_mem_of_mem_splitOn hp,
    (intercalate_splitOn _ _).symm, lists_filter _⟩

/-- Every text has its entries, and no others. -/
theorem listing_iff : Listing text list ↔ list = entries text := by
  constructor
  · rintro ⟨parts, hne, hcomma, htext, hs⟩
    rw [entries, htext, splitOn_intercalate hcomma hne]
    exact hs.eq_filter
  · rintro rfl
    exact listing_entries text

/-- White space holds no comma, so a part has none unless its entry does. -/
theorem Lists.not_mem (h : Lists parts list) (hcomma : ∀ entry ∈ list, ',' ∉ entry) :
    ∀ part ∈ parts, ',' ∉ part := by
  have hcore : ∀ {part core : List Char}, Core part core → ',' ∉ core → ',' ∉ part := by
    intro part core hpart hno hm
    obtain ⟨before, after, rfl, hbefore, hafter⟩ := hpart.around
    rcases List.mem_append.mp hm with hm | hm
    · rcases List.mem_append.mp hm with hm | hm
      · cases hbefore _ hm
      · exact hno hm
    · cases hafter _ hm
  induction h with
  | nil => simp
  | blank h _ ih =>
    -- the core of a blank part is empty, and the rest of it is white space
    intro part hp
    rcases List.mem_cons.mp hp with rfl | hp
    · exact hcore h (by simp)
    · exact ih hcomma part hp
  | entry h _ _ ih =>
    intro part hp
    rcases List.mem_cons.mp hp with rfl | hp
    · exact hcore h (hcomma _ List.mem_cons_self)
    · exact ih (fun e he => hcomma e (List.mem_cons_of_mem _ he)) part hp

/-- The parts with commas between them are a list of the entries. -/
theorem Lists.listing (h : Lists parts list) (hne : parts ≠ [])
    (hcomma : ∀ entry ∈ list, ',' ∉ entry) :
    Listing (String.ofList ([','].intercalate parts)) list :=
  ⟨parts, hne, h.not_mem hcomma, String.toList_ofList, h⟩

end

/-- The last entry holds for all later indices. -/
theorem select?_eq {α : Type} (list : List α) (index : Nat) :
    select? list index = list[min index (list.length - 1)]? := by
  rw [select?]
  cases h : list[index]? with
  | some entry =>
    have hlt : index < list.length := (List.getElem?_eq_some_iff.mp h).1
    rw [Nat.min_eq_left (by omega), h]
  | none =>
    have hle : list.length ≤ index := List.getElem?_eq_none_iff.mp h
    rw [Nat.min_eq_right (by omega), List.getLast?_eq_getElem?]

/-- The number, if any, that the list of a variable gives for an index. -/
inductive Selects (env : Environment) (name : String) (limit index : Nat) :
    Except Failure (Option Nat) → Prop
  /-- The variable is not set, or its value is no text. -/
  | unset (h : ∀ text, env.get? name ≠ some (.ofText text)) :
      Selects env name limit index (.ok none)
  | empty {text : String} (h : env.get? name = some (.ofText text)) (hl : Listing text []) :
      Selects env name limit index (.ok none)
  | number {text : String} {list : List (List Char)} {entry : List Char} {n : Nat}
      (h : env.get? name = some (.ofText text)) (hl : Listing text list)
      (he : list[min index (list.length - 1)]? = some entry) (hn : Unsigned entry n)
      (hle : n ≤ limit) : Selects env name limit index (.ok (some n))
  /-- The entry is no number, or one beyond the limit. -/
  | malformed {text : String} {list : List (List Char)} {entry : List Char} {fault : Fault}
      (h : env.get? name = some (.ofText text)) (hl : Listing text list)
      (he : list[min index (list.length - 1)]? = some entry)
      (hno : ∀ n, Unsigned entry n → limit < n) (hf : natural limit entry = .error fault) :
      Selects env name limit index (.error (.badEntry name (String.ofList entry) fault))

section

variable {env : Environment} {name : String} {limit index : Nat} {text : String}
  {list : List (List Char)}

theorem nthEntry_unset (h : ∀ text, env.get? name ≠ some (.ofText text)) (limit index : Nat) :
    nthEntry env name limit index = .ok none := by
  rw [nthEntry, Environment.text?_eq_none_iff.mpr h]

/-- Of a list, only the entry for the index is read. -/
theorem nthEntry_of_listing (h : env.get? name = some (.ofText text)) (hl : Listing text list)
    (limit index : Nat) : nthEntry env name limit index =
      match list[min index (list.length - 1)]? with
      | none => .ok none
      | some entry =>
        match natural limit entry with
        | .error fault => .error (.badEntry name (String.ofList entry) fault)
        | .ok n => .ok (some n) := by
  have htext := Environment.text?_eq_some_iff.mpr h
  have hentry := select?_eq list index
  rw [listing_iff.mp hl] at hentry ⊢
  cases he : (entries text)[min index ((entries text).length - 1)]? with
  | none => simp only [nthEntry, htext, hentry, he]
  | some entry =>
    cases hread : natural limit entry with
    | error fault => simp only [nthEntry, htext, hentry, he, hread]
    | ok n => simp only [nthEntry, htext, hentry, he, hread]

theorem lt_of_unsigned {entry : List Char} {fault : Fault}
    (hf : natural limit entry = .error fault) {n : Nat} (hn : Unsigned entry n) : limit < n := by
  by_contra hle
  rw [natural_eq_ok_iff.mpr ⟨hn, Nat.le_of_not_lt hle⟩] at hf
  cases hf

/-- A list gives something for every index. -/
theorem selects_nthEntry (env : Environment) (name : String) (limit index : Nat) :
    Selects env name limit index (nthEntry env name limit index) := by
  cases htext : env.text? name with
  | none =>
    have hunset := Environment.text?_eq_none_iff.mp htext
    rw [nthEntry_unset hunset]
    exact .unset hunset
  | some text =>
    have hset := Environment.text?_eq_some_iff.mp htext
    have hl := listing_entries text
    rw [nthEntry_of_listing hset hl]
    cases he : (entries text)[min index ((entries text).length - 1)]? with
    | none =>
      have hnil : entries text = [] := by
        by_contra hne
        have hpos := List.length_pos_of_ne_nil hne
        rw [List.getElem?_eq_none_iff] at he
        omega
      rw [hnil] at hl
      exact .empty hset hl
    | some entry =>
      dsimp only
      cases hread : natural limit entry with
      | error fault => exact .malformed hset hl he (fun n hn => lt_of_unsigned hread hn) hread
      | ok n =>
        obtain ⟨hn, hle⟩ := natural_eq_ok_iff.mp hread
        exact .number hset hl he hn hle

theorem nthEntry_iff {r : Except Failure (Option Nat)} :
    nthEntry env name limit index = r ↔ Selects env name limit index r := by
  constructor
  · rintro rfl
    exact selects_nthEntry env name limit index
  · intro h
    cases h with
    | unset h => exact nthEntry_unset h limit index
    | empty h hl =>
      rw [nthEntry_of_listing h hl]
      rfl
    | number h hl he hn hle =>
      rw [nthEntry_of_listing h hl, he]
      simp only [natural_eq_ok_iff.mpr ⟨hn, hle⟩]
    | malformed h hl he hno hf =>
      rw [nthEntry_of_listing h hl, he]
      simp only [hf]

end

/-- What a list gives for an index is read off one entry: its own, or the last one if the list is
too short. A report on it shows that entry. What the other entries are makes no difference, as long
as there are equally many. -/
theorem nthEntry_selects (env : Environment) (name : String) (limit : Nat) :
    (∀ index r, nthEntry env name limit index = r ↔ Selects env name limit index r) ∧
    (∀ index e, nthEntry env name limit index = .error e → ∃ entry fault cause,
      e = .badEntry name entry fault ∧ fault.Says cause ∧
      e.report = "invalid entry " ++ quoted entry ++ (" in " ++ name) ++ "\n\nCaused by:\n    " ++
        cause ∧
      (OneLine name → Shows ("invalid entry " ++ quoted entry ++ (" in " ++ name)) "invalid entry "
        entry (" in " ++ name))) ∧
    ∀ text list, env.get? name = some (.ofText text) → Listing text list →
      (∀ index, list.length - 1 ≤ index →
        nthEntry env name limit index = nthEntry env name limit (list.length - 1)) ∧
      ∀ (other : Environment) text' list' index, other.get? name = some (.ofText text') →
        Listing text' list' → list'.length = list.length →
        list'[min index (list.length - 1)]? = list[min index (list.length - 1)]? →
        nthEntry other name limit index = nthEntry env name limit index := by
  refine ⟨fun _ _ => nthEntry_iff, ?_, ?_⟩
  · intro index e he
    cases nthEntry_iff.mp he with
    | @malformed _ _ entry fault =>
      exact ⟨_, fault, fault.message, rfl, fault.says_message, report_badEntry _ _ _,
        fun hname => shows_entry hname _⟩
  · intro text list h hl
    constructor
    · intro index hle
      rw [nthEntry_of_listing h hl, nthEntry_of_listing h hl, Nat.min_eq_right hle, Nat.min_self]
    · intro other text' list' index h' hl' hlength hsame
      rw [nthEntry_of_listing h' hl', nthEntry_of_listing h hl, hlength, hsame]

/-- Blank entries do not count, a sign may stand before a number, and a fault elsewhere in the list
does no harm; the last entry here is beyond an exit code. -/
theorem nthEntry_selects_mixed :
    nthEntry ⟨[(codesVariable, .ofText " , x,+7 ,,300")]⟩ codesVariable 255 1 = .ok (some 7) ∧
    nthEntry ⟨[(codesVariable, .ofText " , x,+7 ,,300")]⟩ codesVariable 255 8 =
      .error (.badEntry codesVariable "300" .tooLarge) ∧
    nthEntry ⟨[(codesVariable, .ofText "1,\t+7,-")]⟩ codesVariable 255 1 = .ok (some 7) := by
  have hmixed : Listing " , x,+7 ,,300" [['x'], ['+', '7'], ['3', '0', '0']] :=
    listing_iff.mpr (by decide +kernel)
  have hother : Listing "1,\t+7,-" [['1'], ['+', '7'], ['-']] :=
    listing_iff.mpr (by decide +kernel)
  have hget : (⟨[(codesVariable, .ofText " , x,+7 ,,300")]⟩ : Environment).get? codesVariable =
      some (.ofText " , x,+7 ,,300") := rfl
  obtain ⟨hall, -, hsame⟩ :=
    nthEntry_selects ⟨[(codesVariable, .ofText " , x,+7 ,,300")]⟩ codesVariable 255
  have hunsigned : Unsigned ['+', '7'] 7 :=
    (natural_eq_ok_iff.mp (by decide : natural 255 ['+', '7'] = .ok 7)).1
  have hfault : natural 255 ['3', '0', '0'] = .error .tooLarge := by decide
  have hseven := (hall 1 _).mpr (.number hget hmixed rfl hunsigned (by decide))
  refine ⟨hseven, ?_, ?_⟩
  · rw [(hsame _ _ hget hmixed).1 8 (by decide)]
    exact (hall _ _).mpr
      (.malformed hget hmixed rfl (fun _ hn => lt_of_unsigned hfault hn) hfault)
  · rw [← hseven]
    exact (hsame _ _ hget hmixed).2 _ _ _ 1 rfl hother rfl rfl

end WorkerFleet.StandIn
