import WorkerFleet.Proofs.Conclusion
import WorkerFleet.Proofs.WorkerCounts

/-!
# Texts that are refused

Whoever refuses a text shows it: the reader of worker counts in its message, and the stand-in on the
first line of its report, the rest of which gives the cause. Each time the line stays one line
whatever the text holds, and the text can be found again in it.

* `WorkerCount.shows_invalid`: the message about a worker count.
* `StandIn.shows_badEntry`, `StandIn.shows_badIndex`: the first lines of reports.
* `refused_shown`: what is refused is shown, and no line shows two texts.
-/

namespace WorkerFleet

open Text Quoted

theorem WorkerCount.eq_of_parse_invalid {s input : String}
    (h : parse s = .error (.invalid input)) : input = s := by
  rcases parse_cases s with ⟨-, hs⟩ | ⟨w, -, hs⟩ | ⟨-, -, hs⟩
  · rw [hs] at h
    cases h
  · rw [hs] at h
    cases h
  · rw [hs] at h
    cases h
    rfl

theorem WorkerCount.shows_invalid (s : String) :
    Shows (Fault.invalid s).message "invalid worker count " s ": expected a base-10 integer" :=
  shows_quote (by decide) (by decide) (by decide)

def firstLine (text : String) : String := String.ofList (text.toList.takeWhile (· ≠ '\n'))

/-- Of a message with its cause the first line is the message. -/
theorem firstLine_withCause {message : String} (h : OneLine message) (cause : String) :
    firstLine (withCause message cause) = message := by
  have hno : ∀ c ∈ message.toList, decide (c ≠ '\n') = true := by
    intro c hc
    have htame := h c hc
    refine decide_eq_true fun heq => ?_
    rw [heq] at htame
    exact absurd htame (by decide)
  have htext : (withCause message cause).toList =
      message.toList ++ '\n' :: ("\nCaused by:\n    ".toList ++ (indented cause).toList) := by
    simp [withCause, String.toList_append]
  rw [firstLine, htext, List.takeWhile_append_of_pos hno]
  simp

namespace StandIn

/-- The line about an entry also names its variable. -/
theorem shows_badEntry {name : String} (hname : OneLine name) (entry : String)
    (fault : Decimal.Fault) :
    Shows (firstLine (Failure.badEntry name entry fault).report) "invalid entry " entry
      (" in " ++ name) := by
  have hshows := shows_entry hname entry
  have hcontext : "invalid entry " ++ quoted entry ++ " in " ++ name =
      "invalid entry " ++ quoted entry ++ (" in " ++ name) := String.append_assoc
  rw [Failure.report, hcontext, firstLine_withCause hshows.oneLine]
  exact hshows

theorem shows_badIndex (text : String) (fault : Decimal.Fault) :
    Shows (firstLine (Failure.badIndex text fault).report) ("invalid " ++ indexVariable ++ " ") text
      "" := by
  have hshows : Shows ("invalid " ++ indexVariable ++ " " ++ quoted text)
      ("invalid " ++ indexVariable ++ " ") text "" := shows_index text
  rw [Failure.report, firstLine_withCause hshows.oneLine]
  exact hshows

end StandIn

open StandIn

/-- Each text that is refused is shown on one line, and different texts on different lines: a worker
count in the message about it, and an entry of a list or an index on the first line of the
stand-in's report, which names the variable of the list. -/
theorem refused_shown :
    (∀ s input, WorkerCount.parse s = .error (.invalid input) →
      Shows (WorkerCount.Fault.invalid input).message
        "invalid worker count " s ": expected a base-10 integer") ∧
    (∀ (env : Environment) name limit index e, OneLine name →
      nthEntry env name limit index = .error e →
      ∃ text list entry, env.get? name = some (.ofText text) ∧ Listing text list ∧
        list[min index (list.length - 1)]? = some entry ∧
        Shows (firstLine e.report) "invalid entry " (String.ofList entry) (" in " ++ name)) ∧
    (∀ (env : Environment) slot e, readIndex env slot = .error e →
      ∃ text, env.get? indexVariable = some (.ofText text) ∧
        Shows (firstLine e.report) ("invalid " ++ indexVariable ++ " ") text "") ∧
    ∀ line before text after line' before' text' after', Shows line before text after →
      Shows line' before' text' after' → text ≠ text' → line ≠ line' := by
  refine ⟨?_, ?_, ?_, ?_⟩
  · intro s input h
    rw [WorkerCount.eq_of_parse_invalid h]
    exact WorkerCount.shows_invalid s
  · intro env name limit index e hname h
    cases nthEntry_iff.mp h with
    | malformed hget hl he _ _ =>
      exact ⟨_, _, _, hget, hl, he, shows_badEntry hname _ _⟩
  · intro env slot e h
    cases readIndex_iff.mp h with
    | malformed hget _ _ => exact ⟨_, hget, shows_badIndex _ _⟩
  · rintro line before text after line' before' text' after' h h' hne rfl
    exact hne (h.unique h').2.1

def oddText : String := "1\\u\x7b30\x7d\"\u0007"

/-- Three readers refuse the odd text, and the message about it is not the one about the text that
its escape would make. -/
theorem refused_shown_odd :
    WorkerCount.parse oddText = .error (.invalid oddText) ∧
    Shows (WorkerCount.Fault.invalid oddText).message
      "invalid worker count " oddText ": expected a base-10 integer" ∧
    nthEntry ⟨[(codesVariable, .ofText ("7, " ++ oddText ++ "\t"))]⟩ codesVariable 255 3 =
      .error (.badEntry codesVariable oddText .invalidDigit) ∧
    Shows (firstLine (Failure.badEntry codesVariable oddText .invalidDigit).report)
      "invalid entry " oddText (" in " ++ codesVariable) ∧
    readIndex ⟨[(indexVariable, .ofText oddText)]⟩ 0 = .error (.badIndex oddText .invalidDigit) ∧
    Shows (firstLine (Failure.badIndex oddText .invalidDigit).report)
      ("invalid " ++ indexVariable ++ " ") oddText "" ∧
    (WorkerCount.Fault.invalid oddText).message ≠
      (WorkerCount.Fault.invalid "10\"\u0007").message := by
  obtain ⟨hcount, hentry, hindex, hdiffer⟩ := refused_shown
  have hparse : WorkerCount.parse oddText = .error (.invalid oddText) := by decide +kernel
  have hother : WorkerCount.parse "10\"\u0007" = .error (.invalid "10\"\u0007") := by
    decide +kernel
  have hlist :
      nthEntry ⟨[(codesVariable, .ofText ("7, " ++ oddText ++ "\t"))]⟩ codesVariable 255 3 =
        .error (.badEntry codesVariable oddText .invalidDigit) := by decide +kernel
  have hread : readIndex ⟨[(indexVariable, .ofText oddText)]⟩ 0 =
      .error (.badIndex oddText .invalidDigit) := by decide +kernel
  have hshows := hcount _ _ hparse
  refine ⟨hparse, hshows, hlist, ?_, hread, ?_, ?_⟩
  · obtain ⟨text, list, entry, hget, hl, he, hline⟩ :=
      hentry _ _ _ _ _ (by decide : OneLine codesVariable) hlist
    obtain rfl := OsString.ofText_injective (Option.some.inj hget)
    rw [listing_iff.mp hl] at he
    have hodd : entry = oddText.toList := by
      refine (Option.some.inj ?_).symm
      rw [← he]
      decide +kernel
    rwa [hodd, String.ofList_toList] at hline
  · obtain ⟨text, hget, hline⟩ := hindex _ _ _ hread
    obtain rfl := OsString.ofText_injective (Option.some.inj hget)
    exact hline
  · exact hdiffer _ _ _ _ _ _ _ _ hshows (hcount _ _ hother) (by decide)

end WorkerFleet
