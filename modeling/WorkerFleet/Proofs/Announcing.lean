import WorkerFleet.Host.Station
import WorkerFleet.Proofs.Launching

/-!
# A launcher that talks to its station

A station answers every request. What it is told of events it keeps, and puts on the error stream
as its log has it; nothing else changes either.

* `Station.answer_same`: an answer to anything but an announcement leaves the events alone.
* `Station.leads_converse`: a whole dialogue with a station.
-/

namespace WorkerFleet.Host.Station

open Dialogue

/-- Nothing was announced in between, and the log is the same. -/
structure Same (s s' : Station) : Prop where
  events : s'.events = s.events
  log : s'.log = s.log

/-- A station gives these answers and comes into a new state. Meanwhile the launcher puts these
lines on the error stream: those of an event go to its end as soon as the event is announced. -/
inductive Leads : Station → List (Exchange Launching) → List String → Station → Prop
  | here (s : Station) : Leads s [] [] s
  | announce {s s' : Station} {event : Event} {t : List (Exchange Launching)}
      {new lines : List String}
      (herr : (s.answer (.announce event)).1.world.err =
        s.world.err ++ (OsString.ofText (String.join new)).bytes)
      (h : Leads (s.answer (.announce event)).1 t lines s') :
      Leads s (⟨.announce event, ()⟩ :: t) (new ++ lines) s'
  | answer {s s' : Station} {r : Launching.Request} {t : List (Exchange Launching)}
      {lines : List String} (hr : ∀ event, r ≠ .announce event)
      (h : Leads (s.answer r).1 t lines s') : Leads s (⟨r, (s.answer r).2⟩ :: t) lines s'

theorem start_same (s : Station) (command : Command) : Same s (s.start command).1 := by
  rw [start]
  split
  · exact ⟨rfl, rfl⟩
  · dsimp only
    split <;> exact ⟨rfl, rfl⟩

theorem awaitWithin_same (steps : Nat) (s : Station) (pid : Pid) :
    Same s (awaitWithin steps s pid).1 := by
  induction steps generalizing s with
  | zero => exact ⟨rfl, rfl⟩
  | succ steps ih =>
    rw [awaitWithin]
    split
    · exact ⟨rfl, rfl⟩
    · exact ⟨(ih _).events, (ih _).log⟩

theorem enroll_same (s : Station) (pids : List Pid) : Same s (s.enroll pids) := by
  rw [enroll]
  split <;> exact ⟨rfl, rfl⟩

theorem turnWithin_same (steps : Nat) (s : Station) (pids : List Pid) (ready : Nat)
    (busy : 0 < pids.length + ready) : Same s (turnWithin steps s pids ready busy).1 := by
  induction steps generalizing s with
  | zero =>
    rw [turnWithin]
    split <;> exact ⟨rfl, rfl⟩
  | succ steps ih =>
    rw [turnWithin]
    split
    · exact ⟨rfl, rfl⟩
    · dsimp only
      split
      · split
        · exact ⟨rfl, rfl⟩
        · exact ⟨(ih _).events, (ih _).log⟩
      · split
        · exact ⟨(ih _).events, (ih _).log⟩
        · split
          · exact ⟨rfl, rfl⟩
          · exact ⟨(ih _).events, (ih _).log⟩

/-- An answer to anything but an announcement leaves the events and the log alone. -/
theorem answer_same (s : Station) {r : Launching.Request} (h : ∀ event, r ≠ .announce event) :
    Same s (s.answer r).1 := by
  cases r with
  | start command => exact start_same s command
  | await pid => exact awaitWithin_same _ s pid
  | turn pids ready busy =>
    have henroll := enroll_same s pids
    have hturn := turnWithin_same World.patience (s.enroll pids) pids ready busy
    exact ⟨hturn.events.trans henroll.events, hturn.log.trans henroll.log⟩
  | announce event => exact absurd rfl (h event)

/-- A dialogue with a station comes to an end, and the log has the lines of its events. -/
theorem leads_converse {α : Type} (d : Dialogue Launching α) (s : Station) :
    ∃ t, d.Ends t (s.converse d).2 ∧
      s.Leads t ((Launching.events t).flatMap s.log) (s.converse d).1 ∧
      (s.converse d).1.events = s.events ++ Launching.events t := by
  induction d generalizing s with
  | done value => exact ⟨[], .here _, .here s, (List.append_nil _).symm⟩
  | ask r k ih =>
    obtain ⟨t, hend, hleads, hevents⟩ := ih (s.answer r).2 (s.answer r).1
    refine ⟨⟨r, (s.answer r).2⟩ :: t, .next hend, ?_⟩
    by_cases hr : ∃ event, r = .announce event
    · obtain ⟨event, rfl⟩ := hr
      constructor
      · exact .announce rfl hleads
      · rw [Launching.events_announce]
        exact hevents.trans (List.append_assoc _ _ _)
    · push Not at hr
      -- nothing is announced, so the next state has the log of this one
      have hsame := answer_same s hr
      have hnone : Launching.events (⟨r, (s.answer r).2⟩ :: t) = Launching.events t := by
        cases r with
        | announce event => exact absurd rfl (hr event)
        | _ => rfl
      rw [hnone]
      constructor
      · rw [← hsame.log]
        exact .answer hr hleads
      · rw [← hsame.events]
        exact hevents

end WorkerFleet.Host.Station
