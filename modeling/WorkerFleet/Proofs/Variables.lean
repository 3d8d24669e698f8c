import WorkerFleet.Environment
import WorkerFleet.Proofs.Utf8

/-!
# Variables of an environment

What an environment holds after a variable was set or taken away, and which values are texts.
-/

namespace WorkerFleet

namespace Environment

theorem get?_erase (env : Environment) (name : String) : (env.erase name).get? name = none := by
  rw [get?, List.lookup_eq_none_iff]
  intro v hv
  have hne := (List.mem_filter.mp hv).2
  exact bne_iff_ne.mpr (bne_iff_ne.mp hne).symm

theorem get?_set (env : Environment) (name : String) (value : OsString) :
    (env.set name value).get? name = some value := by
  have h : (env.erase name).bindings.lookup name = none := env.get?_erase name
  rw [get?, set, List.lookup_append, h]
  simp

theorem get?_set_of_ne (env : Environment) {name other : String} (value : OsString)
    (h : other ≠ name) : (env.set name value).get? other = env.get? other := by
  have herase : (env.erase name).bindings.lookup other = env.bindings.lookup other := by
    rw [erase]
    induction env.bindings with
    | nil => rfl
    | cons v rest ih =>
      obtain ⟨key, held⟩ := v
      by_cases hk : key = name
      · have hno : (other == key) = false := by simpa [hk] using h
        rw [List.filter_cons_of_neg (by simpa using hk), List.lookup_cons, hno, ih]
      · rw [List.filter_cons_of_pos (by simpa using hk), List.lookup_cons, List.lookup_cons, ih]
  have hlast : [(name, value)].lookup other = none := by
    have hno : (other == name) = false := by simpa using h
    rw [List.lookup_cons, hno, List.lookup_nil]
  rw [get?, get?, set, List.lookup_append, herase, hlast, Option.or_none]

theorem text?_eq_some_iff {env : Environment} {name text : String} :
    env.text? name = some text ↔ env.get? name = some (.ofText text) := by
  rw [text?, Option.bind_eq_some_iff]
  simp [OsString.text?_eq_some_iff]

theorem text?_eq_none_iff {env : Environment} {name : String} :
    env.text? name = none ↔ ∀ text, env.get? name ≠ some (.ofText text) := by
  simp [Option.eq_none_iff_forall_ne_some, text?_eq_some_iff]

end Environment

end WorkerFleet
