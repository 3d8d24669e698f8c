import WorkerFleet.Proofs.Entries

/-!
# Lists that are written

A test run gives its workers a plan: how long each one sleeps and which code it exits with. The two
lists of numbers go into variables, with commas between the numbers, and each worker takes its own
numbers from there.

* `nthEntry_of_numbers`: the number for an index, from any list whose entries are written numbers.
* `nthEntry_joined`: the same for the numbers with nothing but commas between them.
* `nthEntry_inverse`: what a plan says for an index is what a worker reads, so that workers with
  the same plan for every index have the same plan.
-/

namespace WorkerFleet.StandIn

open Text Decimal

def joined (numbers : List Nat) : String :=
  ",".intercalate (numbers.map fun n => String.ofList (Decimal.ofNat n))

/-- What a test run wants of its workers; the last number of a list holds for all later indices. -/
structure Plan where
  sleeps : List UInt64
  codes : List UInt8
  deriving DecidableEq, Repr

/-- An environment in which the workers follow the plan and record themselves in a directory. -/
def Plan.apply (plan : Plan) (dir : OsString) (env : Environment) : Environment :=
  env.setAll [(recordVariable, dir),
    (sleepVariable, .ofText (joined (plan.sleeps.map UInt64.toNat))),
    (codesVariable, .ofText (joined (plan.codes.map UInt8.toNat)))]

theorem core_ofNat (n : Nat) : Core (Decimal.ofNat n) (Decimal.ofNat n) :=
  core_of_not_isBlank fun _ hc => isBlank_of_isDigit (isDigit_of_mem_ofNat hc)

theorem comma_not_mem_ofNat (n : Nat) : ',' ∉ Decimal.ofNat n := by
  intro h
  cases isDigit_of_mem_ofNat h

theorem lists_ofNat (numbers : List Nat) :
    Lists (numbers.map Decimal.ofNat) (numbers.map Decimal.ofNat) := by
  induction numbers with
  | nil => exact .nil
  | cons n numbers ih => exact .entry (core_ofNat n) (ofNat_ne_nil n) ih

section

variable {env : Environment} {name text : String} {numbers : List Nat} {limit : Nat}
  {parts : List (List Char)}

theorem listing_of_numbers (h : Lists parts (numbers.map Decimal.ofNat)) (hne : parts ≠ []) :
    Listing (String.ofList ([','].intercalate parts)) (numbers.map Decimal.ofNat) := by
  refine h.listing hne ?_
  intro entry he
  obtain ⟨n, -, rfl⟩ := List.mem_map.mp he
  exact comma_not_mem_ofNat n

theorem joined_eq (numbers : List Nat) :
    joined numbers = String.ofList ([','].intercalate (numbers.map Decimal.ofNat)) := by
  rw [← String.toList_inj, joined, String.toList_intercalate]
  simp [Function.comp_def]

theorem listing_joined (numbers : List Nat) :
    Listing (joined numbers) (numbers.map Decimal.ofNat) := by
  rw [joined_eq]
  cases numbers with
  | nil =>
    -- no number at all is still a text with one part, a blank one
    have hblank : Lists [[]] ([].map Decimal.ofNat) :=
      .blank ⟨⟨[], [], by simp⟩, by simp, by simp⟩ .nil
    have hlisting := listing_of_numbers hblank (by simp)
    exact hlisting
  | cons n numbers => exact listing_of_numbers (lists_ofNat _) (by simp)

/-- The number that a list of numbers gives for an index. -/
theorem nthEntry_of_numbers (h : env.get? name = some (.ofText text))
    (hl : Listing text (numbers.map Decimal.ofNat)) (hle : ∀ n ∈ numbers, n ≤ limit)
    (index : Nat) :
    nthEntry env name limit index = .ok numbers[min index (numbers.length - 1)]? := by
  rw [nthEntry_of_listing h hl, List.length_map, List.getElem?_map]
  cases hn : numbers[min index (numbers.length - 1)]? with
  | none => rfl
  | some n =>
    have hm : n ∈ numbers := List.mem_of_getElem? hn
    simp only [Option.map_some, natural_ofNat (hle n hm)]

theorem nthEntry_joined (h : env.get? name = some (.ofText (joined numbers)))
    (hle : ∀ n ∈ numbers, n ≤ limit) (index : Nat) :
    nthEntry env name limit index = .ok numbers[min index (numbers.length - 1)]? :=
  nthEntry_of_numbers h (listing_joined numbers) hle index

theorem nthEntry_sleeps {sleeps : List UInt64}
    (h : env.get? name = some (.ofText (joined (sleeps.map UInt64.toNat)))) (index : Nat) :
    nthEntry env name (wordSize - 1) index =
      .ok (sleeps[min index (sleeps.length - 1)]?.map UInt64.toNat) := by
  rw [nthEntry_joined h, List.length_map, List.getElem?_map]
  intro n hn
  obtain ⟨sleep, -, rfl⟩ := List.mem_map.mp hn
  exact Nat.le_of_lt_succ sleep.toNat_lt

theorem nthEntry_codes {codes : List UInt8}
    (h : env.get? name = some (.ofText (joined (codes.map UInt8.toNat)))) (index : Nat) :
    nthEntry env name 255 index =
      .ok (codes[min index (codes.length - 1)]?.map UInt8.toNat) := by
  rw [nthEntry_joined h, List.length_map, List.getElem?_map]
  intro n hn
  obtain ⟨code, -, rfl⟩ := List.mem_map.mp hn
  exact Nat.le_of_lt_succ code.toNat_lt

end

/-- A list that is not empty has something for every index. -/
theorem exists_forIndex {α : Type} {list : List α} (h : list ≠ []) (index : Nat) :
    ∃ a, list[min index (list.length - 1)]? = some a := by
  have hpos : 0 < list.length := List.length_pos_of_ne_nil h
  exact ⟨_, List.getElem?_eq_getElem (by omega)⟩

/-- Lists of one length are the same if they have the same for every index. -/
theorem eq_of_forIndex {α : Type} {list list' : List α} (hlength : list.length = list'.length)
    (h : ∀ index, list[min index (list.length - 1)]? = list'[min index (list'.length - 1)]?) :
    list = list' := by
  refine List.ext_getElem? fun index => ?_
  by_cases hlt : index < list.length
  · have hown := h index
    rwa [← hlength, Nat.min_eq_left (by omega)] at hown
  · rw [List.getElem?_eq_none (by omega), List.getElem?_eq_none (by omega)]

section

variable (plan : Plan) (dir : OsString) (env : Environment)

theorem Plan.get?_sleeps : (plan.apply dir env).get? sleepVariable =
    some (.ofText (joined (plan.sleeps.map UInt64.toNat))) := by
  have hne : sleepVariable ≠ codesVariable := by decide
  exact (Environment.get?_set_of_ne _ _ hne).trans (Environment.get?_set _ _ _)

theorem Plan.get?_codes : (plan.apply dir env).get? codesVariable =
    some (.ofText (joined (plan.codes.map UInt8.toNat))) :=
  Environment.get?_set _ _ _

theorem Plan.sleep_eq (index : Nat) :
    nthEntry (plan.apply dir env) sleepVariable (wordSize - 1) index =
      .ok (plan.sleeps[min index (plan.sleeps.length - 1)]?.map UInt64.toNat) :=
  nthEntry_sleeps (plan.get?_sleeps dir env) index

theorem Plan.code_eq (index : Nat) :
    nthEntry (plan.apply dir env) codesVariable 255 index =
      .ok (plan.codes[min index (plan.codes.length - 1)]?.map UInt8.toNat) :=
  nthEntry_codes (plan.get?_codes dir env) index

end

/-- A worker reads what the plan says for its index, also from lists with white space around the
numbers and blank entries between them; plans of one length that all workers read alike are the
same. -/
theorem nthEntry_inverse :
    (∀ (plan : Plan) (dir : OsString) (env : Environment) (index : Nat),
      (plan.sleeps ≠ [] → ∃ sleep, plan.sleeps[min index (plan.sleeps.length - 1)]? = some sleep ∧
        nthEntry (plan.apply dir env) sleepVariable (wordSize - 1) index =
          .ok (some sleep.toNat)) ∧
      (plan.codes ≠ [] → ∃ code, plan.codes[min index (plan.codes.length - 1)]? = some code ∧
        nthEntry (plan.apply dir env) codesVariable 255 index = .ok (some code.toNat))) ∧
    (∀ (env : Environment) (name : String) (limit : Nat) (numbers : List Nat)
      (parts : List (List Char)), numbers ≠ [] → (∀ n ∈ numbers, n ≤ limit) →
      Lists parts (numbers.map Decimal.ofNat) →
      env.get? name = some (.ofText (String.ofList ([','].intercalate parts))) →
      ∀ index, ∃ n, numbers[min index (numbers.length - 1)]? = some n ∧
        nthEntry env name limit index = .ok (some n)) ∧
    ∀ (plan plan' : Plan) (dir dir' : OsString) (env env' : Environment),
      (plan.sleeps.length = plan'.sleeps.length →
        (∀ index, nthEntry (plan.apply dir env) sleepVariable (wordSize - 1) index =
          nthEntry (plan'.apply dir' env') sleepVariable (wordSize - 1) index) →
        plan.sleeps = plan'.sleeps) ∧
      (plan.codes.length = plan'.codes.length →
        (∀ index, nthEntry (plan.apply dir env) codesVariable 255 index =
          nthEntry (plan'.apply dir' env') codesVariable 255 index) →
        plan.codes = plan'.codes) := by
  refine ⟨?_, ?_, ?_⟩
  · intro plan dir env index
    constructor
    · intro hne
      obtain ⟨sleep, hsleep⟩ := exists_forIndex hne index
      exact ⟨sleep, hsleep, by rw [plan.sleep_eq, hsleep, Option.map_some]⟩
    · intro hne
      obtain ⟨code, hcode⟩ := exists_forIndex hne index
      exact ⟨code, hcode, by rw [plan.code_eq, hcode, Option.map_some]⟩
  · intro env name limit numbers parts hne hle hparts hget index
    have hparts_ne : parts ≠ [] := by
      rintro rfl
      cases numbers with
      | nil => exact hne rfl
      | cons n numbers => nomatch hparts
    obtain ⟨n, hn⟩ := exists_forIndex hne index
    refine ⟨n, hn, ?_⟩
    rw [nthEntry_of_numbers hget (listing_of_numbers hparts hparts_ne) hle, hn]
  · intro plan plan' dir dir' env env'
    constructor
    · intro hlength h
      refine eq_of_forIndex hlength fun index => ?_
      have hread := h index
      rw [plan.sleep_eq, plan'.sleep_eq, Except.ok.injEq] at hread
      exact Option.map_injective (fun _ _ => UInt64.toNat_inj.mp) hread
    · intro hlength h
      refine eq_of_forIndex hlength fun index => ?_
      have hread := h index
      rw [plan.code_eq, plan'.code_eq, Except.ok.injEq] at hread
      exact Option.map_injective (fun _ _ => UInt8.toNat_inj.mp) hread

/-- A plan for two workers, the same plan written with blanks, and a plan that another code gives
away. -/
theorem nthEntry_inverse_pair :
    nthEntry (Plan.apply ⟨[40, 0], [0, 255]⟩ (.ofText "slots") .empty) sleepVariable
      (wordSize - 1) 0 = .ok (some 40) ∧
    nthEntry (Plan.apply ⟨[40, 0], [0, 255]⟩ (.ofText "slots") .empty) codesVariable 255 7 =
      .ok (some 255) ∧
    nthEntry ⟨[(codesVariable, .ofText ", \t0 ,,255\n,")]⟩ codesVariable 255 1 =
      .ok (some 255) ∧
    ∃ index, nthEntry (Plan.apply ⟨[40, 0], [0, 255]⟩ (.ofText "slots") .empty) codesVariable 255
        index ≠
      nthEntry (Plan.apply ⟨[40, 0], [0, 254]⟩ (.ofText "slots") .empty) codesVariable 255
        index := by
  obtain ⟨hplan, hwritten, hsame⟩ := nthEntry_inverse
  refine ⟨?_, ?_, ?_, ?_⟩
  · obtain ⟨sleep, hsleep, h⟩ := (hplan ⟨[40, 0], [0, 255]⟩ (.ofText "slots") .empty 0).1 (by simp)
    obtain rfl : 40 = sleep := Option.some.inj hsleep
    exact h
  · obtain ⟨code, hcode, h⟩ := (hplan ⟨[40, 0], [0, 255]⟩ (.ofText "slots") .empty 7).2 (by simp)
    obtain rfl : 255 = code := Option.some.inj hcode
    exact h
  · have hblank : ∀ {part : List Char}, trim part = [] → Core part [] :=
      fun h => core_iff.mpr h.symm
    have hparts : Lists ["".toList, " \t0 ".toList, "".toList, "255\n".toList, "".toList]
        ([0, 255].map Decimal.ofNat) :=
      .blank (hblank rfl) <| .entry (core_iff.mpr rfl) (by decide) <| .blank (hblank rfl) <|
        .entry (core_iff.mpr rfl) (by decide) <| .blank (hblank rfl) .nil
    obtain ⟨n, hn, h⟩ := hwritten ⟨[(codesVariable, .ofText ", \t0 ,,255\n,")]⟩ codesVariable 255
      [0, 255] _ (by simp) (by decide) hparts rfl 1
    obtain rfl : 255 = n := Option.some.inj hn
    exact h
  · by_contra hall
    have hcodes := (hsame ⟨[40, 0], [0, 255]⟩ ⟨[40, 0], [0, 254]⟩ (.ofText "slots")
      (.ofText "slots") .empty .empty).2 rfl fun index => by
        by_contra hne
        exact hall ⟨index, hne⟩
    revert hcodes
    decide

end WorkerFleet.StandIn
