import Mathlib

namespace Machine
set_option autoImplicit true

section
variable {σ ι ο : Type} (step : σ → ι → ο × σ)

def final (s : σ) : List ι → σ
  | [] => s
  | i :: is => final (step s i).2 is

/-- The inputs of a run, each with the output it produced. -/
def trace (s : σ) : List ι → List (ι × ο)
  | [] => []
  | i :: is => (i, (step s i).1) :: trace (step s i).2 is

theorem final_append (s : σ) (is js : List ι) :
    final step s (is ++ js) = final step (final step s is) js := by
  induction is generalizing s with
  | nil => rfl
  | cons i is ih => exact ih _

theorem trace_append (s : σ) (is js : List ι) :
    trace step s (is ++ js) = trace step s is ++ trace step (final step s is) js := by
  induction is generalizing s with
  | nil => rfl
  | cons i is ih => exact congrArg _ (ih _)

theorem final_concat (s : σ) (is : List ι) (i : ι) :
    final step s (is ++ [i]) = (step (final step s is) i).2 :=
  final_append step s is [i]

theorem trace_concat (s : σ) (is : List ι) (i : ι) :
    trace step s (is ++ [i]) = trace step s is ++ [(i, (step (final step s is) i).1)] :=
  trace_append step s is [i]

theorem trace_inputs (s : σ) (is : List ι) : (trace step s is).map Prod.fst = is := by
  induction is generalizing s with
  | nil => rfl
  | cons i is ih => exact congrArg _ (ih _)

theorem trace_getElem? (s : σ) (is : List ι) (n : Nat) :
    (trace step s is)[n]? =
      is[n]?.map fun i => (i, (step (final step s (is.take n)) i).1) := by
  induction is generalizing s n with
  | nil => rfl
  | cons i is ih =>
    cases n with
    | zero => rfl
    | succ n => exact ih _ n

/-- Induction over a run, one input at a time, with the trace so far in view. -/
theorem trace_induction {J : List (ι × ο) → σ → Prop} {s : σ} (h₀ : J [] s)
    (hstep : ∀ tr s' i, J tr s' → J (tr ++ [(i, (step s' i).1)]) (step s' i).2)
    (is : List ι) : J (trace step s is) (final step s is) := by
  induction is using List.reverseRecOn with
  | nil => exact h₀
  | append_singleton is i ih =>
    rw [trace_concat, final_concat]
    exact hstep _ _ _ ih

/-- The states a machine can be in after finitely many inputs. -/
def Reachable (s s' : σ) : Prop := ∃ is, s' = final step s is

theorem Reachable.invariant {I : σ → Prop} (h : Reachable step s s') (h₀ : I s)
    (hstep : ∀ s i, I s → I (step s i).2) : I s' := by
  obtain ⟨is, he⟩ := h
  subst he
  exact trace_induction step (J := fun _ s => I s) h₀ (fun _ s i => hstep s i) is

/-- Every input of a run meets the condition, in the state in which it is consumed. -/
def Always (P : σ → ι → Prop) (s : σ) : List ι → Prop
  | [] => True
  | i :: is => P s i ∧ Always P (step s i).2 is

def Sometime (P : σ → ι → Prop) (s : σ) : List ι → Prop
  | [] => False
  | i :: is => P s i ∨ Sometime P (step s i).2 is

theorem always_concat (P : σ → ι → Prop) (s : σ) (is : List ι) (i : ι) :
    Always step P s (is ++ [i]) ↔ Always step P s is ∧ P (final step s is) i := by
  induction is generalizing s with
  | nil => exact ⟨fun h => ⟨trivial, h.1⟩, fun h => ⟨h.2, trivial⟩⟩
  | cons j is ih =>
    rw [List.cons_append, Always, Always, ih, and_assoc]
    rfl

theorem sometime_concat (P : σ → ι → Prop) (s : σ) (is : List ι) (i : ι) :
    Sometime step P s (is ++ [i]) ↔ Sometime step P s is ∨ P (final step s is) i := by
  induction is generalizing s with
  | nil => exact ⟨fun h => .inr (h.resolve_right id), fun h => .inl (h.resolve_left id)⟩
  | cons j is ih =>
    rw [List.cons_append, Sometime, Sometime, ih, or_assoc]
    rfl

end

end Machine
