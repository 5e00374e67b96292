import Mathlib
import WasmerSectest.HostImports
import WasmerSectest.Lib.Machine

namespace WasmerSectest
set_option autoImplicit true

def GuestCall.arguments : GuestCall → Option UInt32 × Option UInt32 × Option UInt32
  | .acceptPacket ptr len align | .writeMarker ptr len align => (some ptr, some len, some align)
  | .readCap ptr len => (some ptr, some len, some 1)
  | .allocCap requested => (none, some requested, none)
  | .tick => (none, none, none)

/-- The event a call leaves behind when it is answered with the given code. -/
structure ImportEvent.Answers (event : ImportEvent) (call : GuestCall) (code : Int32) :
    Prop where
  import_eq : event.import = call.import
  arguments_eq : (event.ptr, event.len, event.align) = call.arguments
  code_eq : event.resultCode = code

/-- One call of the guest, with the memory it finds and the time the host takes. -/
structure Invocation where
  memory : Option Memory
  store : Store
  call : GuestCall
  elapsedUs : U128

def Invocation.step [HostArch] (state : HostState) (i : Invocation) : Int32 × HostState :=
  let (result, state, _) := i.call.perform { state with memory := i.memory } i.store i.elapsedUs
  (result, state)

section
variable [HostArch] {state : HostState} {store : Store} {elapsedUs : U128} {call : GuestCall}

theorem GuestCall.perform_record (h : call ≠ .tick) (state : HostState) (store : Store)
    (elapsedUs : U128) :
    ∃ event : ImportEvent, event.Answers call (call.perform state store elapsedUs).1 ∧
      (call.perform state store elapsedUs).2.1 = state.record event := by
  cases call with
  | acceptPacket ptr len align => exact ⟨_, ⟨rfl, rfl, rfl⟩, rfl⟩
  | readCap ptr len => exact ⟨_, ⟨rfl, rfl, rfl⟩, rfl⟩
  | allocCap requested => exact ⟨_, ⟨rfl, rfl, rfl⟩, rfl⟩
  | writeMarker ptr len align => exact ⟨_, ⟨rfl, rfl, rfl⟩, rfl⟩
  | tick => exact absurd rfl h

end

section
variable (state : HostState) (elapsedUs : U128)

theorem hostTick_exhausted (h : state.fuelRemaining = 0) :
    ∃ event : ImportEvent, event.Answers .tick Abi.errBudget ∧
      hostTick state elapsedUs = (Abi.errBudget, state.countTick.record event) := by
  have hc : state.countTick.fuelRemaining = 0 := h
  simp only [hostTick, hc, if_pos]
  exact ⟨_, ⟨rfl, rfl, rfl⟩, rfl⟩

def HostState.burn (state : HostState) : HostState :=
  { state.countTick with fuelRemaining := state.fuelRemaining - 1 }

theorem hostTick_recorded (h : state.fuelRemaining ≠ 0)
    (hr : shouldRecordTick state.countTick.telemetry.ticksSeen Abi.ok = true) :
    ∃ event : ImportEvent, event.Answers .tick Abi.ok ∧
      hostTick state elapsedUs = (Abi.ok, state.burn.record event) := by
  have hc : ¬state.countTick.fuelRemaining = 0 := h
  simp only [hostTick, hc, if_false, hr, if_true]
  exact ⟨_, ⟨rfl, rfl, rfl⟩, rfl⟩

theorem hostTick_silent (h : state.fuelRemaining ≠ 0)
    (hr : shouldRecordTick state.countTick.telemetry.ticksSeen Abi.ok = false) :
    hostTick state elapsedUs = (Abi.ok, state.burn) := by
  have hc : ¬state.countTick.fuelRemaining = 0 := h
  simp only [hostTick, hc, if_false, hr]
  rfl

end

/-- Which ticks leave an event, given the fuel of the policy and the number of the tick. -/
def TickLogged (fuel k : Nat) : Prop := fuel < k ∨ k ≤ 5 ∨ 64 ∣ k

instance : Decidable (TickLogged fuel k) :=
  inferInstanceAs (Decidable (fuel < k ∨ k ≤ 5 ∨ 64 ∣ k))

def ticks (calls : List Invocation) : Nat := (calls.map Invocation.call).count .tick

/-- The answered calls that leave an event, when `k` ticks came before them. -/
def logged (fuel : Nat) : Nat → List (Invocation × Int32) → List (Invocation × Int32)
  | _, [] => []
  | k, (i, code) :: rest =>
    if i.call = .tick then
      if TickLogged fuel (k + 1) then (i, code) :: logged fuel (k + 1) rest
      else logged fuel (k + 1) rest
    else (i, code) :: logged fuel k rest

section
variable {i : Invocation} {code : Int32} {fuel k : Nat}

theorem ticks_concat (calls : List Invocation) (i : Invocation) :
    ticks (calls ++ [i]) = ticks calls + if i.call = .tick then 1 else 0 := by
  rw [ticks, List.map_append, List.count_append, List.map_singleton, List.count_singleton]
  simp only [beq_iff_eq]
  rfl

theorem logged_append (fuel k : Nat) (before after : List (Invocation × Int32)) :
    logged fuel k (before ++ after) =
      logged fuel k before ++ logged fuel (k + ticks (before.map Prod.fst)) after := by
  induction before generalizing k with
  | nil => rfl
  | cons head before ih =>
    obtain ⟨i, code⟩ := head
    have hc : ticks ((i :: before.map Prod.fst)) =
        ticks (before.map Prod.fst) + if i.call = .tick then 1 else 0 := by
      rw [ticks, List.map_cons, List.count_cons]
      simp only [beq_iff_eq]
      rfl
    rw [List.cons_append, List.map_cons, hc, logged, logged]
    by_cases ht : i.call = .tick
    · simp only [if_pos ht]
      rw [ih, Nat.add_assoc, Nat.add_comm 1]
      split <;> rfl
    · simp only [if_neg ht]
      rw [ih]
      rfl

theorem toNat_saturatingAdd (a b : UInt32) :
    (saturatingAdd a b).toNat = min (a.toNat + b.toNat) (2 ^ 32 - 1) := by
  rw [saturatingAdd, checkedAdd]
  by_cases h : a.toNat + b.toNat < 2 ^ 32
  · rw [if_pos h, Option.getD_some, UInt32.toNat_add, Nat.mod_eq_of_lt h]
    omega
  · rw [if_neg h, Option.getD_none]
    change 2 ^ 32 - 1 = _
    omega

theorem shouldRecordTick_ok (tick : UInt32) :
    shouldRecordTick tick Abi.ok = true ↔ tick.toNat ≤ 5 ∨ 64 ∣ tick.toNat := by
  have h5 : tick ≤ 5 ↔ tick.toNat ≤ 5 := UInt32.le_iff_toNat_le
  have h64 : tick % 64 = 0 ↔ 64 ∣ tick.toNat := by
    rw [Nat.dvd_iff_mod_eq_zero, ← UInt32.toNat_inj, UInt32.toNat_mod]
    rfl
  simp only [shouldRecordTick, bne_self_eq_false, Bool.false_or, Bool.or_eq_true,
    decide_eq_true_eq, beq_iff_eq, h5, h64]

end

/-- What holds after every run: the meters are functions of the number of ticks. -/
structure FuelInvariant (fuel : Nat) (tr : List (Invocation × Int32)) (state : HostState) :
    Prop where
  fuel_eq : state.fuelRemaining.toNat = fuel - min (ticks (tr.map Prod.fst)) fuel
  ticks_eq : state.telemetry.ticksSeen.toNat = min (ticks (tr.map Prod.fst)) (2 ^ 32 - 1)
  events_eq : List.Forall₂ (fun event p => ImportEvent.Answers event p.1.call p.2)
    state.telemetry.events (logged fuel 0 tr)

section
variable {fuel : Nat} {tr : List (Invocation × Int32)} {state : HostState}

theorem FuelInvariant.extend (h : FuelInvariant fuel tr state) {state' : HostState}
    {i : Invocation} {code : Int32} (events : List ImportEvent)
    (hf : state'.fuelRemaining.toNat = fuel - min (ticks (tr.map Prod.fst ++ [i])) fuel)
    (ht : state'.telemetry.ticksSeen.toNat =
      min (ticks (tr.map Prod.fst ++ [i])) (2 ^ 32 - 1))
    (he : state'.telemetry.events = state.telemetry.events ++ events)
    (hl : List.Forall₂ (fun event p => ImportEvent.Answers event p.1.call p.2) events
      (logged fuel (ticks (tr.map Prod.fst)) [(i, code)])) :
    FuelInvariant fuel (tr ++ [(i, code)]) state' := by
  refine ⟨?_, ?_, ?_⟩
  · rw [List.map_append]
    exact hf
  · rw [List.map_append]
    exact ht
  · rw [he, logged_append, Nat.zero_add]
    exact List.rel_append h.events_eq hl

theorem FuelInvariant.step_other [HostArch] (h : FuelInvariant fuel tr state) {i : Invocation}
    (hi : i.call ≠ .tick) :
    FuelInvariant fuel (tr ++ [(i, (i.step state).1)]) (i.step state).2 := by
  obtain ⟨event, ha, he⟩ :=
    GuestCall.perform_record hi { state with memory := i.memory } i.store i.elapsedUs
  have hs : (i.step state).2 = { state with memory := i.memory }.record event := he
  rw [hs]
  refine h.extend [event] ?_ ?_ rfl ?_
  · rw [ticks_concat, if_neg hi]
    exact h.fuel_eq
  · rw [ticks_concat, if_neg hi]
    exact h.ticks_eq
  · rw [logged, if_neg hi]
    exact .cons ha .nil

theorem step_tick_eq [HostArch] {i : Invocation} (hi : i.call = .tick) :
    i.step state = hostTick { state with memory := i.memory } i.elapsedUs := by
  rw [Invocation.step, hi]
  rfl

theorem FuelInvariant.countTick (h : FuelInvariant fuel tr state) :
    state.countTick.telemetry.ticksSeen.toNat =
      min (ticks (tr.map Prod.fst) + 1) (2 ^ 32 - 1) := by
  have ht := h.ticks_eq
  change (saturatingAdd state.telemetry.ticksSeen 1).toNat = _
  rw [toNat_saturatingAdd, ht]
  change min (_ + 1) _ = _
  omega

theorem FuelInvariant.fuel_zero_iff (h : FuelInvariant fuel tr state) :
    state.fuelRemaining = 0 ↔ fuel ≤ ticks (tr.map Prod.fst) := by
  have hf := h.fuel_eq
  rw [← UInt32.toNat_inj, hf]
  change _ = 0 ↔ _
  omega

theorem FuelInvariant.step_exhausted [HostArch] (h : FuelInvariant fuel tr state)
    {i : Invocation} (hi : i.call = .tick) (hz : state.fuelRemaining = 0) :
    FuelInvariant fuel (tr ++ [(i, (i.step state).1)]) (i.step state).2 ∧
      (i.step state).1 = Abi.errBudget := by
  have hk := h.fuel_zero_iff.1 hz
  have hf := h.fuel_eq
  let ready : HostState := { state with memory := i.memory }
  obtain ⟨event, ha, he⟩ := hostTick_exhausted ready i.elapsedUs hz
  rw [step_tick_eq hi, he]
  refine ⟨h.extend [event] ?_ ?_ rfl ?_, rfl⟩
  · rw [ticks_concat, if_pos hi]
    change state.fuelRemaining.toNat = _
    omega
  · rw [ticks_concat, if_pos hi]
    exact h.countTick
  · rw [logged, if_pos hi, if_pos (.inl (by omega))]
    exact .cons (hi ▸ ha) .nil

theorem FuelInvariant.step_burn [HostArch] (h : FuelInvariant fuel tr state)
    (hb : fuel < 2 ^ 32) {i : Invocation} (hi : i.call = .tick)
    (hz : state.fuelRemaining ≠ 0) :
    FuelInvariant fuel (tr ++ [(i, (i.step state).1)]) (i.step state).2 ∧
      (i.step state).1 = Abi.ok := by
  have hk : ticks (tr.map Prod.fst) < fuel := Nat.not_le.1 (mt h.fuel_zero_iff.2 hz)
  have hf := h.fuel_eq
  have hc := h.countTick
  let ready : HostState := { state with memory := i.memory }
  have hburn : (state.fuelRemaining - 1).toNat =
      fuel - min (ticks (tr.map Prod.fst ++ [i])) fuel := by
    have hone : (1 : UInt32) ≤ state.fuelRemaining := by
      rw [UInt32.le_iff_toNat_le]
      change 1 ≤ _
      omega
    rw [UInt32.toNat_sub_of_le _ _ hone, hf, ticks_concat, if_pos hi]
    change _ - 1 = _
    omega
  have hticks : ready.burn.telemetry.ticksSeen.toNat =
      min (ticks (tr.map Prod.fst ++ [i])) (2 ^ 32 - 1) := by
    rw [ticks_concat, if_pos hi]
    exact hc
  -- below the budget the counter has not saturated, so it is the number of the tick
  have hsample : shouldRecordTick ready.countTick.telemetry.ticksSeen Abi.ok = true ↔
      TickLogged fuel (ticks (tr.map Prod.fst) + 1) := by
    have hseen : ready.countTick.telemetry.ticksSeen.toNat =
        ticks (tr.map Prod.fst) + 1 := by
      have hc' : ready.countTick.telemetry.ticksSeen.toNat = _ := hc
      omega
    rw [shouldRecordTick_ok, hseen]
    exact ⟨.inr, fun h => h.resolve_left (by omega)⟩
  rw [step_tick_eq hi]
  by_cases hr : shouldRecordTick ready.countTick.telemetry.ticksSeen Abi.ok = true
  · obtain ⟨event, ha, he⟩ :=
      hostTick_recorded ready i.elapsedUs hz hr
    rw [he]
    refine ⟨h.extend [event] hburn hticks rfl ?_, rfl⟩
    rw [logged, if_pos hi, if_pos (hsample.1 hr)]
    exact .cons (hi ▸ ha) .nil
  · rw [hostTick_silent ready i.elapsedUs hz (Bool.not_eq_true _ ▸ hr)]
    refine ⟨h.extend [] hburn hticks (List.append_nil _).symm ?_, rfl⟩
    rw [logged, if_pos hi, if_neg (mt hsample.2 hr)]
    exact .nil

theorem FuelInvariant.step [HostArch] (h : FuelInvariant fuel tr state) (hb : fuel < 2 ^ 32)
    (i : Invocation) :
    FuelInvariant fuel (tr ++ [(i, (i.step state).1)]) (i.step state).2 := by
  by_cases hi : i.call = .tick
  · by_cases hz : state.fuelRemaining = 0
    · exact (h.step_exhausted hi hz).1
    · exact (h.step_burn hb hi hz).1
  · exact h.step_other hi

end

theorem fuelInvariant_new (policy : Policy) :
    FuelInvariant policy.initialFuel.toNat [] (.new policy) := by
  refine ⟨?_, rfl, .nil⟩
  change policy.initialFuel.toNat = policy.initialFuel.toNat - min 0 _
  rw [Nat.zero_min]
  rfl

theorem fuelInvariant_run [HostArch] (policy : Policy) (calls : List Invocation) :
    FuelInvariant policy.initialFuel.toNat
      (Machine.trace Invocation.step (.new policy) calls)
      (Machine.final Invocation.step (.new policy) calls) := by
  have hb := policy.initialFuel.toNat_lt
  apply Machine.trace_induction
  · exact fuelInvariant_new policy
  · intro tr state i h
    exact h.step hb i

theorem tick_code [HostArch] (policy : Policy) {calls : List Invocation} {n : Nat}
    {i : Invocation} {code : Int32} (hi : i.call = .tick)
    (h : (Machine.trace Invocation.step (.new policy) calls)[n]? = some (i, code)) :
    code = if ticks (calls.take (n + 1)) ≤ policy.initialFuel.toNat then Abi.ok
      else Abi.errBudget := by
  rw [Machine.trace_getElem?, Option.map_eq_some_iff] at h
  obtain ⟨j, hj, he⟩ := h
  cases he
  have hrun := fuelInvariant_run policy (calls.take n)
  have htake : calls.take (n + 1) = calls.take n ++ [i] := by
    rw [List.take_add_one, hj]
    rfl
  have hzero := hrun.fuel_zero_iff
  rw [Machine.trace_inputs] at hzero
  rw [htake, ticks_concat, if_pos hi]
  by_cases hz : (Machine.final Invocation.step (.new policy) (calls.take n)).fuelRemaining = 0
  · rw [if_neg (Nat.not_le.2 (Nat.lt_succ_of_le (hzero.1 hz)))]
    exact (hrun.step_exhausted hi hz).2
  · rw [if_pos (Nat.succ_le_of_lt (Nat.not_le.1 (mt hzero.2 hz)))]
    exact (hrun.step_burn policy.initialFuel.toNat_lt hi hz).2

/-- The meters and the log of a whole run of host imports, whatever the guest calls. -/
theorem fuel_contract [HostArch] (policy : Policy) (calls : List Invocation) :
    let fuel := policy.initialFuel.toNat
    let tr := Machine.trace Invocation.step (.new policy) calls
    let state := Machine.final Invocation.step (.new policy) calls
    (∀ n i code, tr[n]? = some (i, code) → i.call = .tick →
      code = if ticks (calls.take (n + 1)) ≤ fuel then Abi.ok else Abi.errBudget) ∧
    state.fuelRemaining.toNat = fuel - min (ticks calls) fuel ∧
    state.telemetry.ticksSeen.toNat = min (ticks calls) (2 ^ 32 - 1) ∧
    (∀ (s : HostState) (i : Invocation), i.call ≠ .tick →
      (i.step s).2.fuelRemaining = s.fuelRemaining ∧
      (i.step s).2.telemetry.ticksSeen = s.telemetry.ticksSeen) ∧
    List.Forall₂ (fun event p => ImportEvent.Answers event p.1.call p.2)
      state.telemetry.events (logged fuel 0 tr) := by
  have hrun := fuelInvariant_run policy calls
  have hin := Machine.trace_inputs Invocation.step (.new policy) calls
  have hf := hrun.fuel_eq
  have ht := hrun.ticks_eq
  rw [hin] at hf ht
  refine ⟨?_, hf, ht, ?_, hrun.events_eq⟩
  · intro n i code hn hi
    exact tick_code policy hi hn
  · intro s i hi
    obtain ⟨event, -, he⟩ :=
      GuestCall.perform_record hi { s with memory := i.memory } i.store i.elapsedUs
    have hs : (i.step s).2 = { s with memory := i.memory }.record event := he
    rw [hs]
    exact ⟨rfl, rfl⟩

end WasmerSectest
