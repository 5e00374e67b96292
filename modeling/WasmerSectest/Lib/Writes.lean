import Mathlib

namespace Writes
set_option autoImplicit true

section
variable {κ ν : Type} [DecidableEq κ]

/-- A map after some writes, one after the other. -/
def apply (m : κ → Option ν) (ws : List (κ × ν)) : κ → Option ν :=
  ws.foldl (fun m w => Function.update m w.1 (some w.2)) m

theorem apply_concat (m : κ → Option ν) (ws : List (κ × ν)) (w : κ × ν) :
    apply m (ws ++ [w]) = Function.update (apply m ws) w.1 (some w.2) := by
  rw [apply, List.foldl_append]
  rfl

theorem apply_concat_self (m : κ → Option ν) (ws : List (κ × ν)) (w : κ × ν) :
    apply m (ws ++ [w]) w.1 = some w.2 := by
  rw [apply_concat, Function.update_self]

theorem apply_concat_of_ne (m : κ → Option ν) (ws : List (κ × ν)) (h : k ≠ w.1) :
    apply m (ws ++ [w]) k = apply m ws k := by
  rw [apply_concat, Function.update_of_ne h]

theorem apply_of_not_mem (m : κ → Option ν) (h : k ∉ ws.map Prod.fst) : apply m ws k = m k := by
  induction ws generalizing m with
  | nil => rfl
  | cons w ws ih =>
    rw [List.map_cons, List.mem_cons, not_or] at h
    obtain ⟨hw, hws⟩ := h
    exact (ih _ hws).trans (Function.update_of_ne hw (some w.2) m)

theorem apply_of_nodup (m : κ → Option ν) (h : (ws.map Prod.fst).Nodup) (hw : w ∈ ws) :
    apply m ws w.1 = some w.2 := by
  induction ws generalizing m with
  | nil => cases hw
  | cons v ws ih =>
    rw [List.map_cons, List.nodup_cons] at h
    obtain ⟨hv, hws⟩ := h
    rcases List.mem_cons.1 hw with rfl | hw
    · exact (apply_of_not_mem _ hv).trans (Function.update_self w.1 (some w.2) m)
    · exact ih _ hws hw

/-- A value that is read was there before or has been written. -/
theorem apply_eq_some {m : κ → Option ν} (h : apply m ws k = some v) : m k = some v ∨ (k, v) ∈ ws := by
  induction ws generalizing m with
  | nil => exact .inl h
  | cons w ws ih =>
    change apply (Function.update m w.1 (some w.2)) ws k = some v at h
    rcases ih h with h | h
    · by_cases hk : k = w.1
      · subst hk
        rw [Function.update_self] at h
        obtain rfl := Option.some.inj h
        exact .inr List.mem_cons_self
      · rw [Function.update_of_ne hk] at h
        exact .inl h
    · exact .inr (List.mem_cons_of_mem w h)

end

end Writes
