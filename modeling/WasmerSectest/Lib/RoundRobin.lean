import Mathlib

namespace RoundRobin
set_option autoImplicit true

/-- The slots that go to `count` requests, one after the other, from a counter at `start`. -/
def slots (span start count : Nat) : List Nat :=
  (List.range count).map fun i => (start + i) % span

theorem slots_succ (span start count : Nat) :
    slots span start (count + 1) = start % span :: slots span (start + 1) count := by
  rw [slots, List.range_succ_eq_map, List.map_cons, List.map_map, Nat.add_zero]
  congr 1
  apply List.map_congr_left
  intro i _
  rw [Function.comp_apply, Nat.succ_eq_add_one, Nat.add_assoc, Nat.add_comm i]

theorem slots_wrap (h : span ∣ period) (start count : Nat) :
    slots span (start % period) count = slots span start count := by
  apply List.map_congr_left
  intro i _
  rw [Nat.add_mod, Nat.mod_mod_of_dvd _ h, ← Nat.add_mod]

theorem slot_lt (hspan : 0 < span) (h : slot ∈ slots span start count) : slot < span := by
  obtain ⟨i, _, rfl⟩ := List.mem_map.1 h
  exact Nat.mod_lt _ hspan

theorem mod_ne_of_lt {a b : Nat} (hlt : a < b) (hnear : b < a + span) : a % span ≠ b % span := by
  intro h
  have hdvd : span ∣ b - a := (Nat.modEq_iff_dvd' hlt.le).1 h
  have hle := Nat.le_of_dvd (Nat.sub_pos_of_lt hlt) hdvd
  omega

theorem nodup_round (span start count k : Nat) :
    (((slots span start count).drop k).take span).Nodup := by
  rw [List.nodup_iff_pairwise_ne, List.pairwise_iff_getElem]
  intro i j hi hj hij
  rw [List.length_take, List.length_drop, lt_min_iff] at hj
  simp only [slots, List.getElem_take, List.getElem_drop, List.getElem_map, List.getElem_range]
  apply mod_ne_of_lt
  · omega
  · omega

end RoundRobin
