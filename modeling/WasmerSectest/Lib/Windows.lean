import Mathlib

namespace Windows
set_option autoImplicit true

/-- Rust's `items.windows(window.len()).position(|w| w == window)`. -/
def position [BEq α] (window items : List α) : Option Nat :=
  items.tails.findIdx? window.isPrefixOf

section
variable [DecidableEq α] {window items : List α}

theorem position_eq_none_iff : position window items = none ↔ ¬window <:+: items := by
  rw [position, List.findIdx?_eq_none_iff, List.infix_iff_prefix_suffix]
  apply Iff.intro
  · rintro h ⟨tail, hprefix, hsuffix⟩
    exact Bool.eq_false_iff.1 (h tail ((List.mem_tails _ _).2 hsuffix))
      (List.isPrefixOf_iff_prefix.2 hprefix)
  · intro h tail htail
    apply Bool.eq_false_iff.2
    intro hprefix
    exact h ⟨tail, List.isPrefixOf_iff_prefix.1 hprefix, (List.mem_tails _ _).1 htail⟩

theorem position_eq_some {pos : Nat} (hpos : pos ≤ items.length)
    (hwindow : window <+: items.drop pos) (hfirst : ∀ m < pos, ¬window <+: items.drop m) :
    position window items = some pos := by
  rw [position, List.findIdx?_eq_some_iff_getElem]
  have hlength : pos < items.tails.length := by
    rw [List.length_tails]
    omega
  refine ⟨hlength, ?_, ?_⟩
  · rw [List.getElem_tails, List.isPrefixOf_iff_prefix]
    exact hwindow
  · intro m hm
    rw [List.getElem_tails, List.isPrefixOf_iff_prefix]
    exact hfirst m hm

/-- A window that stands nowhere before its last item is read is first found there. -/
theorem position_append {before : List α} (hne : window ≠ [])
    (hfirst : ¬window <:+: before ++ window.dropLast) (rest : List α) :
    position window (before ++ (window ++ rest)) = some before.length := by
  apply position_eq_some
  · rw [List.length_append]
    omega
  · rw [List.drop_left]
    exact List.prefix_append _ _
  · intro m hm hwindow
    have hpart : (before ++ window.dropLast).drop m <+: (before ++ (window ++ rest)).drop m := by
      have hdropLast := (List.dropLast_prefix window).trans (List.prefix_append window rest)
      exact ((List.prefix_append_right_inj before).2 hdropLast).drop m
    have hroom : window.length ≤ ((before ++ window.dropLast).drop m).length := by
      have hpos := List.length_pos_of_ne_nil hne
      rw [List.length_drop, List.length_append, List.length_dropLast]
      omega
    have hearly := List.prefix_of_prefix_length_le hwindow hpart hroom
    exact hfirst (hearly.isInfix.trans (List.drop_suffix _ _).isInfix)

end

end Windows
