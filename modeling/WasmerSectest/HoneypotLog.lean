import WasmerSectest.Lib.BoundedLog

namespace WasmerSectest
set_option autoImplicit true

def honeypotEventCapacity : Nat := 1024

def enforceCapacity (events : List α) (capacity : Nat) : List α :=
  if capacity = 0 then []
  else if capacity ≤ events.length then events.drop (events.length + 1 - capacity)
  else events

/-- `record` of both honeypots. -/
def recordEvent (capacity : Nat) (events : List α) (event : α) : List α :=
  enforceCapacity events capacity ++ [event]

theorem recordEvent_eq_push (hpos : 0 < capacity) (events : List α) (event : α) :
    recordEvent capacity events event = BoundedLog.push capacity events event := by
  rw [recordEvent, enforceCapacity, if_neg (Nat.ne_of_gt hpos), BoundedLog.push]
  by_cases h : capacity ≤ events.length
  · rw [if_pos h]
  · have hzero : events.length + 1 - capacity = 0 := by omega
    rw [if_neg h, hzero, List.drop_zero]

theorem foldl_recordEvent (hpos : 0 < capacity) (history events : List α) :
    events.foldl (recordEvent capacity) (BoundedLog.last capacity history) =
      BoundedLog.last capacity (history ++ events) := by
  have hpush : recordEvent capacity = BoundedLog.push (α := α) capacity := by
    funext log event
    exact recordEvent_eq_push hpos log event
  rw [hpush, BoundedLog.foldl_push_last hpos]

end WasmerSectest
