import Mathlib

namespace BoundedPool
set_option autoImplicit true

inductive Event (α : Type) where
  | spawned (task : α)
  | joined (task : α)

def spawned : List (Event α) → List α
  | [] => []
  | .spawned task :: log => task :: spawned log
  | .joined _ :: log => spawned log

def joined : List (Event α) → List α
  | [] => []
  | .spawned _ :: log => joined log
  | .joined task :: log => task :: joined log

theorem spawned_append (log log' : List (Event α)) :
    spawned (log ++ log') = spawned log ++ spawned log' := by
  induction log with
  | nil => rfl
  | cons event log ih =>
    cases event with
    | spawned task => exact congrArg (task :: ·) ih
    | joined task => exact ih

theorem joined_append (log log' : List (Event α)) :
    joined (log ++ log') = joined log ++ joined log' := by
  induction log with
  | nil => rfl
  | cons event log ih =>
    cases event with
    | spawned task => exact ih
    | joined task => exact congrArg (task :: ·) ih

/-- Tasks in flight, with the log of how they got there; none is lost and none is made up. -/
structure Pool (α : Type) where
  inFlight : List α
  log : List (Event α)
  balanced : (inFlight ++ joined log).Perm (spawned log)

namespace Pool

def empty : Pool α := ⟨[], [], .nil⟩

def spawn (pool : Pool α) (task : α) : Pool α where
  inFlight := pool.inFlight ++ [task]
  log := pool.log ++ [.spawned task]
  balanced := by
    rw [spawned_append, joined_append]
    change (pool.inFlight ++ [task] ++ (joined pool.log ++ [])).Perm (spawned pool.log ++ [task])
    rw [List.append_nil, List.append_assoc]
    have hswap : (pool.inFlight ++ ([task] ++ joined pool.log)).Perm
        (pool.inFlight ++ joined pool.log ++ [task]) := by
      rw [List.append_assoc]
      exact .append_left _ List.perm_append_comm
    exact hswap.trans (pool.balanced.append_right _)

/-- The task in flight at the given place, counted cyclically, completes and is joined. -/
def joinNext (pool : Pool α) (choice : Nat) : Option (α × Pool α) :=
  if h : choice % pool.inFlight.length < pool.inFlight.length then
    let task := pool.inFlight[choice % pool.inFlight.length]
    some (task, {
      inFlight := pool.inFlight.eraseIdx (choice % pool.inFlight.length)
      log := pool.log ++ [.joined task]
      balanced := by
        rw [spawned_append, joined_append]
        change (_ ++ (joined pool.log ++ [task])).Perm (spawned pool.log ++ [])
        rw [List.append_nil, ← List.append_assoc]
        have hfront : (pool.inFlight.eraseIdx (choice % pool.inFlight.length) ++
            joined pool.log ++ [task]).Perm (pool.inFlight ++ joined pool.log) := by
          apply List.perm_append_comm.trans
          change (([task] ++ pool.inFlight.eraseIdx _) ++ joined pool.log).Perm _
          exact (List.getElem_cons_eraseIdx_perm h).append_right _
        exact hfront.trans pool.balanced })
  else none

theorem spawn_length (pool : Pool α) (task : α) :
    (pool.spawn task).inFlight.length = pool.inFlight.length + 1 :=
  List.length_append

theorem joinNext_eq_none_iff (pool : Pool α) (choice : Nat) :
    pool.joinNext choice = none ↔ pool.inFlight = [] := by
  rw [joinNext, ← List.length_eq_zero_iff]
  split
  · exact ⟨nofun, fun h => by omega⟩
  · rename_i hge
    refine ⟨fun _ => ?_, fun _ => rfl⟩
    by_contra hne
    exact hge (Nat.mod_lt _ (Nat.pos_of_ne_zero hne))

theorem joinNext_log {pool pool' : Pool α} {task : α} {choice : Nat}
    (h : pool.joinNext choice = some (task, pool')) :
    pool'.log = pool.log ++ [.joined task] := by
  rw [joinNext] at h
  split at h
  · cases h
    rfl
  · cases h

theorem joinNext_length {pool pool' : Pool α} {task : α} {choice : Nat}
    (h : pool.joinNext choice = some (task, pool')) :
    pool'.inFlight.length + 1 = pool.inFlight.length := by
  rw [joinNext] at h
  split at h
  · rename_i hlt
    cases h
    rw [List.length_eraseIdx_of_lt hlt]
    exact Nat.sub_add_cancel (Nat.zero_lt_of_lt hlt)
  · cases h

theorem length_eq (pool : Pool α) :
    pool.inFlight.length + (joined pool.log).length = (spawned pool.log).length := by
  rw [← List.length_append]
  exact pool.balanced.length_eq

end Pool

/-- At every moment of the log the tasks spawned are those joined and at most so many others. -/
def Within (limit : Nat) (log : List (Event α)) : Prop :=
  ∀ before, before <+: log →
    ∃ inFlight, (inFlight ++ joined before).Perm (spawned before) ∧ inFlight.length ≤ limit

theorem within_nil (limit : Nat) : Within limit ([] : List (Event α)) := by
  intro before h
  rw [List.prefix_nil.1 h]
  exact ⟨[], .nil, Nat.zero_le limit⟩

theorem Within.concat {limit : Nat} {pool : Pool α} {log : List (Event α)} {event : Event α}
    (h : Within limit log) (hlog : pool.log = log ++ [event])
    (hlimit : pool.inFlight.length ≤ limit) : Within limit pool.log := by
  intro before hb
  rw [hlog] at hb
  rcases List.prefix_concat_iff.1 hb with hb | hb
  · rw [hb, ← hlog]
    exact ⟨pool.inFlight, pool.balanced, hlimit⟩
  · exact h before hb

section
variable {limit : Nat} {pool pool' : Pool α} {task : α}

theorem Within.inFlight_le (h : Within limit pool.log) : pool.inFlight.length ≤ limit := by
  obtain ⟨inFlight, hperm, hlimit⟩ := h pool.log (List.prefix_refl _)
  have hlength := hperm.length_eq
  rw [List.length_append, ← pool.length_eq] at hlength
  omega

theorem Within.spawn (h : Within limit pool.log) (hroom : pool.inFlight.length < limit) :
    Within limit (pool.spawn task).log :=
  h.concat rfl (pool.spawn_length task ▸ hroom)

theorem Within.joinNext {choice : Nat} (h : Within limit pool.log)
    (hj : pool.joinNext choice = some (task, pool')) : Within limit pool'.log := by
  have hlength := Pool.joinNext_length hj
  have hlimit := h.inFlight_le
  exact h.concat (Pool.joinNext_log hj) (by omega)

end

/-- Sorting by distinct keys undoes any shuffling of a list in the order of its keys. -/
theorem mergeSort_of_perm (key : α → Nat) {sorted shuffled : List α}
    (hp : shuffled.Perm sorted) (hs : sorted.Pairwise fun a b => key a < key b) :
    shuffled.mergeSort (fun a b => key a ≤ key b) = sorted := by
  have hle : sorted.Pairwise fun a b => key a ≤ key b := hs.imp Nat.le_of_lt
  have htrans (a b c : α) (hab : decide (key a ≤ key b) = true)
      (hbc : decide (key b ≤ key c) = true) : decide (key a ≤ key c) = true := by
    rw [decide_eq_true_eq] at hab hbc ⊢
    exact Nat.le_trans hab hbc
  have htotal (a b : α) : (decide (key a ≤ key b) || decide (key b ≤ key a)) = true := by
    rw [Bool.or_eq_true, decide_eq_true_eq, decide_eq_true_eq]
    exact Nat.le_total (key a) (key b)
  have hsorted : (shuffled.mergeSort fun a b => key a ≤ key b).Pairwise
      fun a b => key a ≤ key b := by
    apply (List.pairwise_mergeSort htrans htotal shuffled).imp
    intro a b hab
    exact of_decide_eq_true hab
  have hperm := (List.mergeSort_perm shuffled fun a b => decide (key a ≤ key b)).trans hp
  refine hperm.eq_of_pairwise ?_ hsorted hle
  intro a b ha hb hab hba
  have hnodup : (sorted.map key).Nodup := List.pairwise_map.2 (hs.imp Nat.ne_of_lt)
  exact List.inj_on_of_nodup_map hnodup (hperm.mem_iff.1 ha) hb (Nat.le_antisymm hab hba)

end BoundedPool
