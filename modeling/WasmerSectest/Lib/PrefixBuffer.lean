import Mathlib

/-- A buffer that keeps a stream of items up to a limit, and drops what comes after. -/
def PrefixBuffer.extend (limit : Nat) (kept items : List α) : List α := (kept ++ items).take limit

namespace PrefixBuffer
set_option autoImplicit true

variable {α : Type} {kept : List α} {limit : Nat}

theorem extend_nil (h : kept.length ≤ limit) : extend limit kept [] = kept := by
  rw [extend, List.append_nil, List.take_of_length_le h]

theorem extend_take (stream items : List α) :
    extend limit (stream.take limit) items = (stream ++ items).take limit := by
  have hrest : limit - min limit stream.length = limit - stream.length := by omega
  rw [extend, List.take_append, List.take_append, List.take_take, Nat.min_self,
    List.length_take, hrest]

theorem extend_eq_append (items : List α) (h : kept.length ≤ limit) :
    extend limit kept items = kept ++ items.take (limit - kept.length) := by
  rw [extend, List.take_append, List.take_of_length_le h]

theorem prefix_extend (items : List α) (h : kept.length ≤ limit) :
    kept <+: extend limit kept items := by
  rw [extend_eq_append items h]
  exact List.prefix_append _ _

theorem eq_extend_iff (items : List α) (h : kept.length ≤ limit) :
    kept = extend limit kept items ↔ items = [] ∨ limit ≤ kept.length := by
  rw [extend_eq_append items h, List.self_eq_append_right, List.take_eq_nil_iff,
    Nat.sub_eq_zero_iff_le, or_comm]

end PrefixBuffer
