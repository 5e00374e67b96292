import Mathlib

namespace BoundedLog
set_option autoImplicit true

/-- The last entries of a history, as many as there is room for. -/
def last (capacity : Nat) (history : List α) : List α := history.drop (history.length - capacity)

/-- A log that makes room for an entry by dropping its oldest ones. -/
def push (capacity : Nat) (log : List α) (entry : α) : List α :=
  log.drop (log.length + 1 - capacity) ++ [entry]

theorem length_last (capacity : Nat) (history : List α) :
    (last capacity history).length = min history.length capacity := by
  rw [last, List.length_drop]
  omega

theorem last_of_length_le (h : history.length ≤ capacity) : last capacity history = history := by
  rw [last, Nat.sub_eq_zero_of_le h]
  exact List.drop_zero

/-- Pushing an entry keeps the log at the last entries of the history. -/
theorem push_last (hpos : 0 < capacity) (history : List α) (entry : α) :
    push capacity (last capacity history) entry = last capacity (history ++ [entry]) := by
  have hdrop : history.length - capacity + (min history.length capacity + 1 - capacity) =
      (history ++ [entry]).length - capacity := by
    rw [List.length_append, List.length_singleton]
    omega
  have hle : (history ++ [entry]).length - capacity ≤ history.length := by
    rw [List.length_append, List.length_singleton]
    omega
  rw [push, length_last, last, List.drop_drop, hdrop, last, List.drop_append_of_le_length hle]

theorem foldl_push_last (hpos : 0 < capacity) (history entries : List α) :
    entries.foldl (push capacity) (last capacity history) =
      last capacity (history ++ entries) := by
  induction entries generalizing history with
  | nil => rw [List.append_nil, List.foldl_nil]
  | cons entry entries ih =>
    rw [List.foldl_cons, push_last hpos, ih, List.append_assoc]
    rfl

end BoundedLog
