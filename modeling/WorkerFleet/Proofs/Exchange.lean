import WorkerFleet.Dialogue

/-!
# What is said in a dialogue

The requests of a dialogue with the answers they got, in order. `Follows` leads to what is left of
the dialogue after some exchanges, `Ends` to its value.

* `ends_bind`: what is said in `d.bind k` is what is said in `d` and then in `k`.
* `Follows.completes`: where every request can be answered, every beginning has an end.
-/

namespace WorkerFleet

structure Exchange (I : Interface) where
  request : I.Request
  reply : I.Reply request

namespace Dialogue

variable {I : Interface} {α β : Type}

@[simp] theorem bind_eq (d : Dialogue I α) (k : α → Dialogue I β) : (d >>= k) = d.bind k := rfl

/-- After these exchanges the last dialogue is left of the first one. -/
inductive Follows : Dialogue I α → List (Exchange I) → Dialogue I α → Prop
  | here (d : Dialogue I α) : Follows d [] d
  | next {r : I.Request} {k : I.Reply r → Dialogue I α} {reply : I.Reply r}
      {t : List (Exchange I)} {rest : Dialogue I α} :
      Follows (k reply) t rest → Follows (.ask r k) (⟨r, reply⟩ :: t) rest

def Ends (d : Dialogue I α) (t : List (Exchange I)) (value : α) : Prop := d.Follows t (.done value)

@[simp] theorem ends_done (v w : α) (t : List (Exchange I)) :
    (done v : Dialogue I α).Ends t w ↔ t = [] ∧ w = v := by
  constructor
  · intro h
    cases h
    exact ⟨rfl, rfl⟩
  · rintro ⟨rfl, rfl⟩
    exact .here _

@[simp] theorem ends_ask (r : I.Request) (k : I.Reply r → Dialogue I α) (t : List (Exchange I))
    (v : α) : (ask r k).Ends t v ↔ ∃ reply u, t = ⟨r, reply⟩ :: u ∧ (k reply).Ends u v := by
  constructor
  · intro h
    cases h with
    | next h => exact ⟨_, _, rfl, h⟩
  · rintro ⟨reply, u, rfl, h⟩
    exact .next h

theorem Follows.append {d e f : Dialogue I α} {t u : List (Exchange I)} (h : d.Follows t e)
    (hu : e.Follows u f) : d.Follows (t ++ u) f := by
  induction h with
  | here => exact hu
  | next _ ih => exact .next (ih hu)

theorem Follows.bind {d e : Dialogue I α} {t : List (Exchange I)} (h : d.Follows t e)
    (k : α → Dialogue I β) : (d.bind k).Follows t (e.bind k) := by
  induction h with
  | here => exact .here _
  | next _ ih => exact .next ih

theorem ends_bind (d : Dialogue I α) (k : α → Dialogue I β) (t : List (Exchange I)) (w : β) :
    (d.bind k).Ends t w ↔ ∃ u v u', t = u ++ u' ∧ d.Ends u v ∧ (k v).Ends u' w := by
  induction d generalizing t with
  | done value =>
    rw [done_bind]
    constructor
    · intro h
      exact ⟨[], value, t, rfl, by simp, h⟩
    · rintro ⟨u, v, u', rfl, hd, hk⟩
      obtain ⟨rfl, rfl⟩ := (ends_done _ _ _).mp hd
      exact hk
  | ask r next ih =>
    rw [ask_bind, ends_ask]
    constructor
    · rintro ⟨reply, t', rfl, h⟩
      obtain ⟨u, v, u', rfl, hd, hk⟩ := (ih reply t').mp h
      exact ⟨⟨r, reply⟩ :: u, v, u', rfl, .next hd, hk⟩
    · rintro ⟨u, v, u', rfl, hd, hk⟩
      obtain ⟨reply, u₁, rfl, h₁⟩ := (ends_ask _ _ _ _).mp hd
      exact ⟨reply, u₁ ++ u', rfl, (ih reply _).mpr ⟨u₁, v, u', rfl, h₁, hk⟩⟩

/-- Where every request has an answer, a dialogue that has begun can be brought to its end. -/
theorem Follows.completes (answers : ∀ r, Nonempty (I.Reply r)) {d e : Dialogue I α}
    {t : List (Exchange I)} (h : d.Follows t e) : ∃ u v, d.Ends (t ++ u) v := by
  have he : ∀ e : Dialogue I α, ∃ u v, e.Ends u v := by
    intro e
    induction e with
    | done value => exact ⟨[], value, .here _⟩
    | ask r next ih =>
      obtain ⟨reply⟩ := answers r
      obtain ⟨u, v, hu⟩ := ih reply
      exact ⟨⟨r, reply⟩ :: u, v, .next hu⟩
  obtain ⟨u, v, hu⟩ := he e
  exact ⟨u, v, h.append hu⟩

end Dialogue

end WorkerFleet
