import WorkerFleet.Proofs.ProgramChoice
import WorkerFleet.Proofs.WorkerCounts

/-!
# The worker count as the only argument

The command line and the worker count each have a rule of their own for what a number is. They
agree on every text but one kind: a negative number with white space behind it is a worker count,
and the command line takes it for an option that it does not know.

* `Reader.step_count`, `Reader.step_minus_blank`: how a text that is a worker count is taken.
* `parse_count`: which texts the command line accepts.
* `parse_refuses_blank`: a worker count that it refuses.
-/

namespace WorkerFleet

open Text Decimal

namespace Text.Utf8

/-- An ASCII byte stands in front just if its character does. -/
theorem eq_of_head?_encode {c : Char} {rest : List Char} {b : UInt8} {d : Char}
    (hlead : lead b = .char d) (h : (encode (c :: rest)).head? = some b) : c = d := by
  obtain ⟨bytes, hbytes⟩ := List.head?_eq_some_iff.mp h
  have hscan := scan_encode (c :: rest)
  rw [hbytes, scan, scanFrom, hlead] at hscan
  exact (Option.some.inj (List.cons.inj hscan).1).symm

end Text.Utf8

namespace WorkerCount

variable {s : String} {w : WorkerCount}

/-- A worker count that begins with a minus sign goes on with digits and then white space. -/
theorem exists_of_minus (h : parse s = .ok w) (hminus : s.toList.head? = some '-') :
    ∃ first digits after, s.toList = '-' :: first :: digits ++ after ∧
      (∀ c ∈ first :: digits, c.isDigit = true) ∧ ∀ c ∈ after, isBlank c = true := by
  have hnumeral := parse_eq_ok_iff.mp h
  obtain ⟨before, after, hs, hbefore, hafter⟩ := (core_trim s.toList).around
  have hnil : before = [] := by
    cases before with
    | nil => rfl
    | cons c before =>
      rw [hs] at hminus
      have hc : c = '-' := Option.some.inj hminus
      have hblank := hbefore c List.mem_cons_self
      rw [hc] at hblank
      cases hblank
  rw [hnil, List.nil_append] at hs
  generalize trim s.toList = core at hnumeral hs
  generalize w.value = value at hnumeral
  cases hnumeral with
  | unsigned hd =>
    obtain ⟨c, rest, rfl⟩ := List.exists_cons_of_ne_nil hd.ne_nil
    rw [hs] at hminus
    exact absurd (Option.some.inj hminus) hd.head_ne.2
  | plus =>
    rw [hs] at hminus
    cases hminus
  | minus hd =>
    obtain ⟨first, digits, rfl⟩ := List.exists_cons_of_ne_nil hd.ne_nil
    exact ⟨first, digits, after, hs, hd.isDigit, hafter⟩

end WorkerCount

namespace CommandLine

open Reader

/-- A minus sign stands first and white space last. -/
def MinusThenBlank (text : String) : Prop :=
  text.toList.head? = some '-' ∧ ∃ c ∈ text.toList.getLast?, isBlank c = true

namespace Reader

variable {r : Reader} {s : String} {count : WorkerCount}

/-- What looks like a number holds no white space. -/
theorem looksNumeric_of_blank {point exponent isFirst : Bool} {text : List Char} {c : Char}
    (hc : c ∈ text) (hblank : isBlank c = true) :
    looksNumeric point exponent isFirst text = false := by
  induction text generalizing point exponent isFirst with
  | nil => cases hc
  | cons d rest ih =>
    rw [looksNumeric]
    rcases List.mem_cons.mp hc with rfl | hrest
    · have hdigit : ¬ ('0' ≤ c ∧ c ≤ '9') := by
        intro h
        rw [isBlank_of_isDigit ((isDigit_iff c).mpr h)] at hblank
        cases hblank
      have hpoint : c ≠ '.' := by
        rintro rfl
        cases hblank
      have hexponent : ¬ (c = 'e' ∨ c = 'E') := by
        rintro (rfl | rfl) <;> cases hblank
      simp [hdigit, hpoint, hexponent]
    · simp [ih hrest]

/-- What begins with a digit and is no number is an option that does not exist. -/
theorem readShort_of_blank {word : OsString} {first : Char} {rest : List Char} {c : Char}
    (hfirst : first.isDigit = true) (hc : c ∈ first :: rest) (hblank : isBlank c = true) :
    r.readShort word (.ofText (String.ofList (first :: rest))) =
      .error (.unknownLetter (String.singleton first)) := by
  have hbytes : (OsString.ofText (String.ofList (first :: rest))).bytes =
      Utf8.encode (first :: rest) := by
    rw [OsString.ofText, String.toList_ofList]
  have hletter : letter (.ofText (String.ofList (first :: rest))) = String.singleton first := by
    rw [letter, hbytes, Utf8.scan_encode]
    rfl
  have hne (c : Char) (hc : c.isDigit = false) : String.singleton first ≠ String.singleton c := by
    intro h
    rw [String.singleton_inj.mp h, hc] at hfirst
    cases hfirst
  have hh : String.singleton first ≠ "h" := hne 'h' (by decide)
  have hV : String.singleton first ≠ "V" := hne 'V' (by decide)
  rw [readShort, hbytes, Utf8.decodeLossy_encode, looksNumeric_of_blank hc hblank, hletter,
    Bool.and_false, if_neg Bool.false_ne_true, if_neg hh, if_neg hV]

theorem step_minus_blank (h : r.trailing = false) (hparse : WorkerCount.parse s = .ok count)
    (hs : MinusThenBlank s) : ∃ stop, r.step (.ofText s) = .error stop := by
  obtain ⟨hminus, c, hc, hblank⟩ := hs
  obtain ⟨first, digits, after, htext, hdigits, _⟩ := WorkerCount.exists_of_minus hparse hminus
  have hfirst : first.isDigit = true := hdigits first List.mem_cons_self
  have hmem : c ∈ first :: (digits ++ after) := by
    have hall : c ∈ s.toList := List.mem_of_mem_getLast? hc
    rw [htext] at hall
    rcases List.mem_cons.mp hall with rfl | hrest
    · cases hblank
    · exact hrest
  have hshort := step_short h hfirst (digits ++ after)
  rw [readShort_of_blank hfirst hmem hblank] at hshort
  refine ⟨.unknownLetter (String.singleton first), ?_⟩
  rw [← String.ofList_toList (s := s), htext]
  exact hshort

theorem step_count (h : r.trailing = false) (hfree : r.workersTaken = false)
    (hparse : WorkerCount.parse s = .ok count) (hs : ¬ MinusThenBlank s) :
    r.step (.ofText s) = r.readWord (.ofText s) := by
  by_cases hminus : s.toList.head? = some '-'
  · obtain ⟨first, digits, after, htext, hdigits, hafter⟩ :=
      WorkerCount.exists_of_minus hparse hminus
    have hnil : after = [] := by
      by_contra hne
      refine hs ⟨hminus, after.getLast hne, ?_, hafter _ (List.getLast_mem hne)⟩
      rw [htext, List.getLast?_append_of_ne_nil _ hne, List.getLast?_eq_some_getLast hne]
      rfl
    rw [hnil, List.append_nil] at htext
    rw [← String.ofList_toList (s := s), htext]
    exact step_negative h hfree hdigits
  · refine step_word h ?_
    intro hdash
    obtain ⟨c, rest, htext⟩ : ∃ c rest, s.toList = c :: rest := by
      cases htext : s.toList with
      | nil =>
        rw [OsString.ofText, htext] at hdash
        cases hdash
      | cons c rest => exact ⟨c, rest, rfl⟩
    rw [OsString.ofText, htext] at hdash
    have hc : c = '-' := Utf8.eq_of_head?_encode (d := '-') (by decide) hdash
    exact hminus (by rw [htext, hc]; rfl)

/-- A word that is taken for the worker count, and nothing else. -/
theorem flush_count (hparse : WorkerCount.parse s = .ok count) :
    Reader.flush { pending := some (.workers (.ofText s)), workersTaken := true } =
      .ok { stored := [.workers], workers := some count, workersTaken := true } := by
  rw [flush_eq]
  simp [keep, store, note, readWorkers_ofText hparse]

end Reader

def countOnly (count : WorkerCount) : Args where
  workers := count
  collaborator := CollaboratorOptions.defaultProgram
  waitOrder := .completion
  failOnChildError := false
  collaboratorArgs := []

variable {env : Environment} {s : String} {count : WorkerCount}

theorem parse_of_count (bin : OsString)
    (henv : env.get? CollaboratorOptions.programVariable = none)
    (hparse : WorkerCount.parse s = .ok count) (hs : ¬ MinusThenBlank s) :
    parse [bin, .ofText s] env = .ok (countOnly count) := by
  have hstep : Reader.step {} (.ofText s) =
      .ok { pending := some (.workers (.ofText s)), workersTaken := true } :=
    step_count rfl rfl hparse hs
  calc
    parse [bin, .ofText s] env = Reader.step {} (.ofText s) >>= (·.finish env) := by
      rw [parse, List.tail_cons, foldlM_singleton]
    _ = Reader.finish { pending := some (.workers (.ofText s)), workersTaken := true } env := by
      rw [hstep]; rfl
    _ = .ok (countOnly count) := by rw [finish_unset (flush_count hparse) henv]; rfl

theorem count_of_parse {bin : OsString} {args : Args}
    (h : parse [bin, .ofText s] env = .ok args) : WorkerCount.parse s = .ok args.workers := by
  obtain ⟨groups, hconsists, hdescribes, _⟩ := parse_accepts h
  obtain ⟨word, text, hcounts, htext, hparse⟩ := hdescribes.workers
  have hword : word = .ofText s := by
    have hcount : word ∈ counts groups := by
      rw [hcounts]
      exact List.mem_cons_self
    obtain ⟨g, hg, hgives⟩ := List.mem_filterMap.mp hcount
    have hwords : word ∈ g.words := by
      cases g with
      | workers other =>
        cases hgives
        exact List.mem_cons_self
      | option | failOnChildError => cases hgives
    have hbefore := hconsists.mem_before hg hwords
    exact List.mem_singleton.mp ((List.takeWhile_sublist _).subset hbefore)
  rw [hword, OsString.text?_ofText] at htext
  rw [Option.some.inj htext]
  exact hparse

/-- A text on its own is accepted just if it is a worker count, unless a minus sign stands first in
it and white space last. -/
theorem parse_count (bin : OsString)
    (henv : env.get? CollaboratorOptions.programVariable = none) (s : String)
    (count : WorkerCount) :
    (∃ args, parse [bin, .ofText s] env = .ok args ∧ args.workers = count) ↔
      WorkerCount.parse s = .ok count ∧ ¬ MinusThenBlank s := by
  constructor
  · rintro ⟨args, hargs, rfl⟩
    have hparse := count_of_parse hargs
    refine ⟨hparse, fun hs => ?_⟩
    obtain ⟨stop, hstop⟩ := step_minus_blank (r := {}) rfl hparse hs
    rw [parse, List.tail_cons, foldlM_singleton, hstop] at hargs
    cases hargs
  · rintro ⟨hparse, hs⟩
    exact ⟨countOnly count, parse_of_count bin henv hparse hs, rfl⟩

/-- White space in front of a minus sign is forgiven on the command line, too. -/
theorem parse_count_padded :
    Environment.empty.get? CollaboratorOptions.programVariable = none ∧
      ∃ args, parse [.ofText "gc-launcher", .ofText "\u3000-4 "] .empty = .ok args ∧
        args.workers = { value := -4 } := by
  have hunset : Environment.empty.get? CollaboratorOptions.programVariable = none := rfl
  have hcount : WorkerCount.parse "\u3000-4 " = .ok { value := -4 } := by decide
  have hfirst : ¬ MinusThenBlank "\u3000-4 " := by
    rintro ⟨hminus, _⟩
    revert hminus
    decide
  exact ⟨hunset, (parse_count _ hunset _ _).mpr ⟨hcount, hfirst⟩⟩

/-- White space behind a negative number is not. -/
theorem parse_refuses_blank :
    Environment.empty.get? CollaboratorOptions.programVariable = none ∧
      WorkerCount.parse "-4 " = .ok { value := -4 } ∧
      ¬ ∃ args, parse [.ofText "gc-launcher", .ofText "-4 "] .empty = .ok args ∧
        args.workers = { value := -4 } := by
  refine ⟨rfl, by decide, ?_⟩
  rintro ⟨args, hargs, _⟩
  have hstop : parse [.ofText "gc-launcher", .ofText "-4 "] .empty =
      .error (.unknownLetter "4") := by
    decide +kernel
  rw [hstop] at hargs
  cases hargs

end CommandLine

end WorkerFleet
