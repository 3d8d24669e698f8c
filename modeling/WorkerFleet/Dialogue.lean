/-!
# Dialogues

A program that talks to its surroundings, as a value: it is done, or it asks something and goes on
in a way that depends on the answer. Nothing is assumed about the answers, so a statement about a
dialogue is one about every system it may run on.
-/

namespace WorkerFleet

/-- What can be asked, and what kind of answer each request gets. -/
structure Interface where
  Request : Type
  Reply : Request → Type

inductive Dialogue (I : Interface) (α : Type) : Type
  | done (value : α)
  | ask (request : I.Request) (next : I.Reply request → Dialogue I α)

namespace Dialogue

variable {I : Interface} {α β : Type}

def bind : Dialogue I α → (α → Dialogue I β) → Dialogue I β
  | .done value, k => k value
  | .ask request next, k => .ask request fun reply => (next reply).bind k

instance : Monad (Dialogue I) where
  pure := .done
  bind := bind

/-- One request and its answer. -/
def request (r : I.Request) : Dialogue I (I.Reply r) := .ask r .done

@[simp] theorem done_bind (value : α) (k : α → Dialogue I β) : (done value).bind k = k value := rfl

@[simp] theorem ask_bind (r : I.Request) (next : I.Reply r → Dialogue I α)
    (k : α → Dialogue I β) : (ask r next).bind k = .ask r fun reply => (next reply).bind k := rfl

theorem bind_done (d : Dialogue I α) : d.bind .done = d := by
  induction d with
  | done value => rfl
  | ask r next ih => simp only [bind, ih]

theorem bind_assoc {γ : Type} (d : Dialogue I α) (f : α → Dialogue I β) (g : β → Dialogue I γ) :
    (d.bind f).bind g = d.bind fun value => (f value).bind g := by
  induction d with
  | done value => rfl
  | ask r next ih => simp only [bind, ih]

instance : LawfulMonad (Dialogue I) :=
  .mk' _ bind_done (fun _ _ => rfl) bind_assoc

end Dialogue

end WorkerFleet
