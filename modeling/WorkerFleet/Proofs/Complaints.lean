import WorkerFleet.Proofs.QuotedText
import WorkerFleet.StandIn

/-!
# Complaints of a stand-in

A complaint tells on its first line what is at fault and on its last one why. In between nothing is
said, whatever the text at fault holds: it stands in quotes, and no cause has a line end.

* `OsError.oneLine_message`, `Text.Decimal.Fault.says_message`: the causes.
* `report_badIndex`, `report_badEntry`: reports of texts that are no numbers.
* `says_slotFile`, `says_badIndex`, `says_badEntry`: what a stand-in writes of them.
-/

namespace WorkerFleet

open Text Quoted

theorem indented_of_oneLine {text : String} (h : OneLine text) : indented text = text := by
  have hkeep : ∀ c ∈ text.toList, (if c = '\n' then '\n' :: "    ".toList else [c]) = [c] := by
    intro c hc
    refine if_neg ?_
    rintro rfl
    exact absurd (h _ hc) (by decide)
  calc
    indented text = String.ofList (text.toList.flatMap fun c => [c]) := by
      rw [indented, List.flatMap_def, List.map_congr_left hkeep, List.flatMap_def]
    _ = text := by rw [List.flatMap_singleton', String.ofList_toList]

/-- A cause on one line stands below the message as it is. -/
theorem withCause_of_oneLine (message : String) {cause : String} (h : OneLine cause) :
    withCause message cause = message ++ "\n\nCaused by:\n    " ++ cause := by
  rw [withCause, indented_of_oneLine h]

namespace OsError

theorem oneLine_number (e : OsError) : OneLine (toString e.number) := by
  cases e.number with
  | ofNat n => exact oneLine_toString n
  | negSucc n =>
    have hminus : OneLine "-" := by decide
    exact hminus.append (oneLine_toString (n + 1))

theorem oneLine_texts : ∀ p ∈ texts, OneLine p.2 := by
  rw [texts]
  -- one text at a time: to decide it for all at once takes long
  repeat'
    refine List.forall_mem_cons.mpr ⟨oneLine_of_all (by decide +kernel), ?_⟩
  exact fun _ h => absurd h List.not_mem_nil

theorem oneLine_text (e : OsError) : OneLine e.text := by
  rw [text]
  cases h : texts.lookup e.number with
  | none =>
    have hunknown : OneLine "Unknown error " := by decide
    exact hunknown.append e.oneLine_number
  | some found =>
    obtain ⟨l, r, hl, -⟩ := List.lookup_eq_some_iff.mp h
    exact oneLine_texts (e.number, found) (by rw [hl]; simp)

theorem oneLine_message (e : OsError) : OneLine e.message := by
  have hbefore : OneLine " (os error " := by decide
  have hafter : OneLine ")" := by decide
  exact ((e.oneLine_text.append hbefore).append e.oneLine_number).append hafter

end OsError

namespace Text.Decimal.Fault

/-- The words for a fault. -/
inductive Says : Fault → String → Prop
  | empty : Says .empty "cannot parse integer from empty string"
  | invalidDigit : Says .invalidDigit "invalid digit found in string"
  | tooLarge : Says .tooLarge "number too large to fit in target type"

theorem says_message (fault : Fault) : fault.Says fault.message := by
  cases fault with
  | empty => exact .empty
  | invalidDigit => exact .invalidDigit
  | tooLarge => exact .tooLarge

theorem oneLine_message (fault : Fault) : OneLine fault.message := by
  cases fault <;> decide

end Text.Decimal.Fault

namespace StandIn

theorem shows_index (text : String) :
    Shows ("invalid GC_LAUNCHER_WORKER_INDEX " ++ quoted text) "invalid GC_LAUNCHER_WORKER_INDEX "
      text "" := by
  have hshows : Shows ("invalid GC_LAUNCHER_WORKER_INDEX " ++ quoted text ++ "")
      "invalid GC_LAUNCHER_WORKER_INDEX " text "" :=
    shows_quote (by decide) (by decide) (by decide)
  rwa [String.append_empty] at hshows

theorem shows_entry {name : String} (hname : OneLine name) (entry : String) :
    Shows ("invalid entry " ++ quoted entry ++ (" in " ++ name)) "invalid entry " entry
      (" in " ++ name) := by
  have hin : OneLine " in " := by decide
  exact shows_quote (by decide) (hin.append hname) (by decide)

theorem report_badIndex (text : String) (fault : Decimal.Fault) :
    (Failure.badIndex text fault).report =
      "invalid GC_LAUNCHER_WORKER_INDEX " ++ quoted text ++ "\n\nCaused by:\n    " ++
        fault.message :=
  withCause_of_oneLine _ fault.oneLine_message

theorem report_badEntry (name entry : String) (fault : Decimal.Fault) :
    (Failure.badEntry name entry fault).report =
      "invalid entry " ++ quoted entry ++ (" in " ++ name) ++ "\n\nCaused by:\n    " ++
        fault.message := by
  rw [← String.append_assoc]
  exact withCause_of_oneLine _ fault.oneLine_message

/-- What a stand-in says of a failure: what is at fault, and below it the cause. -/
inductive Failure.Says : Failure → String → Prop
  | slotFile (e : OsError) :
      Says (.slotFile e)
        ("Error: could not create slot file\n\nCaused by:\n    " ++ e.message ++ "\n")
  | badIndex {text line cause : String} {fault : Decimal.Fault}
      (hline : Shows line "invalid GC_LAUNCHER_WORKER_INDEX " text "")
      (hcause : fault.Says cause) :
      Says (.badIndex text fault)
        ("Error: " ++ line ++ "\n\nCaused by:\n    " ++ cause ++ "\n")
  | badEntry {name entry line cause : String} {fault : Decimal.Fault}
      (hline : Shows line "invalid entry " entry (" in " ++ name)) (hcause : fault.Says cause) :
      Says (.badEntry name entry fault)
        ("Error: " ++ line ++ "\n\nCaused by:\n    " ++ cause ++ "\n")

theorem complaint_eq {e : Failure} (h : e ≠ .slotOverflow) :
    e.complaint = "Error: " ++ e.report ++ "\n" := by
  cases e with
  | slotOverflow => exact absurd rfl h
  | _ => rfl

theorem says_slotFile (e : OsError) :
    (Failure.slotFile e).Says (Failure.slotFile e).complaint := by
  have hreport : (Failure.slotFile e).report =
      "could not create slot file" ++ "\n\nCaused by:\n    " ++ e.message :=
    withCause_of_oneLine _ e.oneLine_message
  have hhead : "Error: " ++ ("could not create slot file" ++ "\n\nCaused by:\n    ") =
      "Error: could not create slot file\n\nCaused by:\n    " := by decide
  rw [complaint_eq (by simp), hreport, ← String.append_assoc, hhead]
  exact .slotFile e

theorem says_badIndex (text : String) (fault : Decimal.Fault) :
    (Failure.badIndex text fault).Says (Failure.badIndex text fault).complaint := by
  have h := Failure.Says.badIndex (shows_index text) fault.says_message
  rw [complaint_eq (by simp), report_badIndex]
  simpa only [String.append_assoc] using h

theorem says_badEntry {name : String} (hname : OneLine name) (entry : String)
    (fault : Decimal.Fault) :
    (Failure.badEntry name entry fault).Says (Failure.badEntry name entry fault).complaint := by
  have h := Failure.Says.badEntry (shows_entry hname entry) fault.says_message
  rw [complaint_eq (by simp), report_badEntry]
  simpa only [String.append_assoc] using h

end StandIn

end WorkerFleet
