import Mathlib

namespace Segments
set_option autoImplicit true

/-- The pieces of a path that are no names: nothing at all, the place itself, and the place
above it. -/
structure Marks (α : Type*) where
  empty : α
  here : α
  above : α
  above_ne_empty : above ≠ empty
  above_ne_here : above ≠ here

namespace Marks

variable {α : Type*} (m : Marks α)

structure Ordinary (piece : α) : Prop where
  ne_empty : piece ≠ m.empty
  ne_here : piece ≠ m.here
  ne_above : piece ≠ m.above

variable [DecidableEq α]

/-- One piece, followed from the place whose names are on the stack. -/
def step (stack : List α) (piece : α) : List α :=
  if piece = m.empty ∨ piece = m.here then stack
  else if piece = m.above then stack.dropLast
  else stack ++ [piece]

def follow (stack pieces : List α) : List α := pieces.foldl m.step stack

/-- The names on the way from the root to the place that the pieces lead to. -/
def resolve (pieces : List α) : List α := m.follow [] pieces

variable {m}

theorem step_above : m.step stack m.above = stack.dropLast := by
  rw [step, if_neg, if_pos rfl]
  exact not_or.2 ⟨m.above_ne_empty, m.above_ne_here⟩

theorem step_ordinary (h : m.Ordinary piece) : m.step stack piece = stack ++ [piece] := by
  rw [step, if_neg (not_or.2 ⟨h.ne_empty, h.ne_here⟩), if_neg h.ne_above]

/-- The four kinds of pieces, with what each does. -/
theorem step_cases (stack : List α) (piece : α) :
    (piece = m.empty ∨ piece = m.here) ∧ m.step stack piece = stack ∨
    piece = m.above ∧ m.step stack piece = stack.dropLast ∨
    m.Ordinary piece ∧ m.step stack piece = stack ++ [piece] := by
  by_cases hskip : piece = m.empty ∨ piece = m.here
  · exact .inl ⟨hskip, if_pos hskip⟩
  · by_cases habove : piece = m.above
    · rw [habove]
      exact .inr (.inl ⟨rfl, step_above⟩)
    · obtain ⟨hempty, hhere⟩ := not_or.1 hskip
      have hordinary : m.Ordinary piece := ⟨hempty, hhere, habove⟩
      exact .inr (.inr ⟨hordinary, step_ordinary hordinary⟩)

theorem follow_cons (stack : List α) (piece : α) (pieces : List α) :
    m.follow stack (piece :: pieces) = m.follow (m.step stack piece) pieces := rfl

theorem follow_append (stack before after : List α) :
    m.follow stack (before ++ after) = m.follow (m.follow stack before) after :=
  List.foldl_append ..

theorem step_all_ordinary (h : ∀ name ∈ stack, m.Ordinary name) (piece : α) :
    ∀ name ∈ m.step stack piece, m.Ordinary name := by
  intro name hname
  obtain ⟨-, heq⟩ | ⟨-, heq⟩ | ⟨hpiece, heq⟩ := step_cases (m := m) stack piece
  · exact h name (heq ▸ hname)
  · rw [heq] at hname
    exact h name (List.mem_of_mem_dropLast hname)
  · rw [heq, List.mem_append, List.mem_singleton] at hname
    rcases hname with hname | rfl
    · exact h name hname
    · exact hpiece

theorem follow_all_ordinary (h : ∀ name ∈ stack, m.Ordinary name) (pieces : List α) :
    ∀ name ∈ m.follow stack pieces, m.Ordinary name := by
  induction pieces generalizing stack with
  | nil => exact h
  | cons piece pieces ih => exact ih (step_all_ordinary h piece)

theorem resolve_all_ordinary (pieces : List α) :
    ∀ name ∈ m.resolve pieces, m.Ordinary name :=
  follow_all_ordinary (by simp only [List.not_mem_nil, false_implies, implies_true]) pieces

theorem mem_follow (h : name ∈ m.follow stack pieces) : name ∈ stack ∨ name ∈ pieces := by
  induction pieces generalizing stack with
  | nil => exact .inl h
  | cons piece pieces ih =>
    rcases ih h with hname | hname
    · obtain ⟨-, heq⟩ | ⟨-, heq⟩ | ⟨-, heq⟩ := step_cases (m := m) stack piece
      · exact .inl (heq ▸ hname)
      · rw [heq] at hname
        exact .inl (List.mem_of_mem_dropLast hname)
      · rw [heq, List.mem_append, List.mem_singleton] at hname
        apply hname.imp_right
        intro hname
        rw [hname]
        exact List.mem_cons_self
    · exact .inr (List.mem_cons_of_mem _ hname)

theorem follow_ordinary (h : ∀ piece ∈ pieces, m.Ordinary piece) :
    m.follow stack pieces = stack ++ pieces := by
  induction pieces generalizing stack with
  | nil => exact (List.append_nil stack).symm
  | cons piece pieces ih =>
    rw [List.forall_mem_cons] at h
    rw [follow_cons, step_ordinary h.1, ih h.2, List.append_assoc, List.singleton_append]

/-- A piece that leads nowhere can stand anywhere. -/
theorem resolve_insert (h : piece = m.empty ∨ piece = m.here) (before after : List α) :
    m.resolve (before ++ piece :: after) = m.resolve (before ++ after) := by
  rw [resolve, resolve, follow_append, follow_append, follow_cons, step, if_pos h]

/-- Going into a place and back out again can stand anywhere. -/
theorem resolve_detour (h : m.Ordinary name) (before after : List α) :
    m.resolve (before ++ name :: m.above :: after) = m.resolve (before ++ after) := by
  rw [resolve, resolve, follow_append, follow_append, follow_cons, follow_cons, step_ordinary h,
    step_above, List.dropLast_concat]

end Marks

variable {α : Type*} [DecidableEq α]

theorem not_mem_of_mem_splitOn {sep : α} {xs : List α} (h : piece ∈ xs.splitOn sep) :
    sep ∉ piece := by
  induction xs generalizing piece with
  | nil =>
    rw [List.splitOn_nil, List.mem_singleton] at h
    rw [h]
    exact List.not_mem_nil
  | cons x xs ih =>
    rw [List.splitOn_cons_eq_if_modifyHead] at h
    split at h
    · rw [List.mem_cons] at h
      rcases h with rfl | h
      · exact List.not_mem_nil
      · exact ih h
    · next hx =>
      obtain ⟨first, pieces, heq⟩ := List.exists_cons_of_ne_nil (List.splitOn_ne_nil sep xs)
      rw [heq, List.modifyHead_cons, List.mem_cons] at h
      rcases h with rfl | h
      · rw [List.mem_cons, not_or]
        apply And.intro
        · rintro rfl
          exact hx (beq_self_eq_true sep)
        · exact ih (heq ▸ List.mem_cons_self)
      · exact ih (heq ▸ List.mem_cons_of_mem _ h)

def Start (sep : α) (before : List α) : Prop := before = [] ∨ ∃ xs, before = xs ++ [sep]

def End (sep : α) (after : List α) : Prop := after = [] ∨ ∃ xs, after = sep :: xs

theorem Start.splitOn {sep : α} {before : List α} (h : Start sep before) :
    ∃ pieces, ∀ rest, (before ++ rest).splitOn sep = pieces ++ rest.splitOn sep := by
  obtain rfl | ⟨xs, rfl⟩ := h
  · exact ⟨[], fun _ => rfl⟩
  · refine ⟨xs.splitOn sep, ?_⟩
    intro rest
    rw [List.append_assoc, List.singleton_append, List.splitOn_append_cons_self]

theorem End.splitOn {sep : α} {after : List α} (h : End sep after) (before : List α) :
    ∃ pieces, (before ++ after).splitOn sep = before.splitOn sep ++ pieces ∧
      (before ++ sep :: after).splitOn sep = before.splitOn sep ++ [] :: pieces := by
  obtain rfl | ⟨xs, rfl⟩ := h
  · refine ⟨[], ?_, ?_⟩
    · rw [List.append_nil, List.append_nil]
    · rw [List.splitOn_append_cons_self, List.splitOn_nil]
  · refine ⟨xs.splitOn sep, List.splitOn_append_cons_self .., ?_⟩
    rw [List.splitOn_append_cons_self, ← List.nil_append (sep :: xs),
      List.splitOn_append_cons_self, List.splitOn_nil, List.singleton_append]

end Segments
