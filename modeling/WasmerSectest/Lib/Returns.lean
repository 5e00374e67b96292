import Mathlib

set_option autoImplicit true

/-- Every value a fallible computation returns has the property. -/
def Returns (P : α → Prop) (x : Except ε α) : Prop := ∀ a, x = .ok a → P a

namespace Returns

variable {ε α β : Type} {P : α → Prop} {Q : β → Prop}

theorem pure {a : α} (h : P a) : Returns P (Pure.pure a : Except ε α) := by
  intro b hb
  cases hb
  exact h

theorem throw (e : ε) : Returns P (MonadExcept.throw e : Except ε α) := by
  intro b hb
  cases hb

theorem bind {x : Except ε α} {f : α → Except ε β} (hx : Returns P x)
    (hf : ∀ a, P a → Returns Q (f a)) : Returns Q (x >>= f) := by
  intro b hb
  cases x with
  | error e => cases hb
  | ok a => exact hf a (hx a rfl) b hb

theorem any (x : Except ε α) : Returns (fun _ => True) x := fun _ _ => trivial

/-- A computation that returns has returned at each of its steps. -/
theorem bind_ok {x : Except ε α} {f : α → Except ε β} (h : x >>= f = .ok b) :
    ∃ a, x = .ok a ∧ f a = .ok b := by
  cases x with
  | error => cases h
  | ok a => exact ⟨a, rfl, h⟩

theorem map_ok_iff {x : Except ε α} {f : α → β} :
    x.map f = .ok b ↔ ∃ a, x = .ok a ∧ f a = b := by
  cases x with
  | error err =>
    constructor
    · intro h
      cases h
    · intro h
      obtain ⟨a, ha, -⟩ := h
      cases ha
  | ok a =>
    constructor
    · intro h
      exact ⟨a, rfl, Except.ok.inj h⟩
    · intro h
      obtain ⟨a', ha, rfl⟩ := h
      cases ha
      rfl

end Returns
