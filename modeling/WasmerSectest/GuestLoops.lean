import WasmerSectest.GuestVerdicts

namespace WasmerSectest
set_option autoImplicit true

open BuiltinGuests

theorem hostTick_meters (state : HostState) (elapsedUs : U128) :
    (hostTick state elapsedUs).1 =
      (if state.fuelRemaining = 0 then Abi.errBudget else Abi.ok) ∧
    (hostTick state elapsedUs).2.fuelRemaining.toNat = state.fuelRemaining.toNat - 1 ∧
    (hostTick state elapsedUs).2.telemetry.ticksSeen =
      saturatingAdd state.telemetry.ticksSeen 1 := by
  by_cases hz : state.fuelRemaining = 0
  · obtain ⟨event, -, he⟩ := hostTick_exhausted state elapsedUs hz
    rw [he, if_pos hz]
    refine ⟨rfl, ?_, rfl⟩
    change state.fuelRemaining.toNat = _
    rw [hz]
    rfl
  · have hone : (1 : UInt32) ≤ state.fuelRemaining := by
      have hne : state.fuelRemaining.toNat ≠ 0 := fun h => hz (UInt32.toNat_inj.1 h)
      rw [UInt32.le_iff_toNat_le]
      exact Nat.pos_of_ne_zero hne
    have hburn : state.burn.fuelRemaining.toNat = state.fuelRemaining.toNat - 1 :=
      UInt32.toNat_sub_of_le _ _ hone
    rw [if_neg hz]
    cases hr : shouldRecordTick state.countTick.telemetry.ticksSeen Abi.ok with
    | true =>
      obtain ⟨event, -, he⟩ := hostTick_recorded state elapsedUs hz hr
      rw [he]
      exact ⟨rfl, hburn, rfl⟩
    | false =>
      rw [hostTick_silent state elapsedUs hz hr]
      exact ⟨rfl, hburn, rfl⟩

section
variable [HostArch]

def Instance.tick (around : Surroundings) (inst : Instance) : Instance where
  state := (hostTick inst.state (around.elapsedUs inst.clock)).2
  store := inst.store
  calls := inst.calls ++ [⟨inst.store, .tick, around.elapsedUs inst.clock⟩]
  clock := inst.clock + 1

def Instance.ticks (around : Surroundings) (inst : Instance) : Nat → Instance
  | 0 => inst
  | k + 1 => (inst.ticks around k).tick around

/-- What holds of an instance that started with the given fuel and has only called
`host.tick`, so many times. -/
structure Ticked (entry : HostState) (fuel k : Nat) (inst : Instance) : Prop where
  fuel_eq : inst.state.fuelRemaining.toNat = fuel - k
  ticks_eq : inst.state.telemetry.ticksSeen.toNat = min k (2 ^ 32 - 1)
  calls_eq : inst.calls.map HostCall.call = List.replicate k .tick
  replayed : Machine.final HostCall.step entry inst.calls = inst.state

section
variable {around : Surroundings} {entry : HostState} {inst : Instance}

theorem Ticked.tick (h : Ticked entry fuel k inst) :
    Ticked entry fuel (k + 1) (inst.tick around) := by
  obtain ⟨-, hfuel, hticks⟩ := hostTick_meters inst.state (around.elapsedUs inst.clock)
  apply Ticked.mk
  · change (hostTick inst.state (around.elapsedUs inst.clock)).2.fuelRemaining.toNat = _
    rw [hfuel, h.fuel_eq]
    rfl
  · change (hostTick inst.state (around.elapsedUs inst.clock)).2.telemetry.ticksSeen.toNat = _
    have hone : (1 : UInt32).toNat = 1 := rfl
    rw [hticks, toNat_saturatingAdd, h.ticks_eq, hone]
    omega
  · rw [Instance.tick, List.map_append, h.calls_eq]
    exact List.replicate_succ'.symm
  · rw [Instance.tick, Machine.final_concat, h.replayed]
    rfl

theorem Ticked.ticks (h : Ticked entry fuel 0 inst) (k : Nat) :
    Ticked entry fuel k (inst.ticks around k) := by
  induction k with
  | zero => exact h
  | succ k ih => exact ih.tick

theorem callImport_tick {imports : List HostImport} (h : imports[function]? = some .tick) :
    inst.callImport around imports function [] = some
      ((if inst.state.fuelRemaining = 0 then Abi.errBudget else Abi.ok).toUInt32,
        inst.tick around) := by
  rw [← (hostTick_meters inst.state (around.elapsedUs inst.clock)).1, Instance.callImport, h]
  rfl

end

omit [HostArch] in
theorem toInt_ofNat {n : Nat} (h : n < 2 ^ 31) : (UInt32.ofNat n).toInt32.toInt = n := by
  have hbmod : ((n : Int)).bmod (2 ^ 32) = n := by
    rw [Int.bmod_eq_of_le] <;> omega
  simpa using hbmod

omit [HostArch] in
theorem meteredRound_paid {env : Wasm.Environment σ} {s : Wasm.Frame σ} {k : Nat} {host' : σ}
    (hparams : env.params 3 = 0) (hcall : env.call 3 [] s.host = some (0, host'))
    (hlocals : s.locals = [UInt32.ofNat k]) (hk : k < 1000000) :
    Wasm.Runs env meteredRound [] s (if k + 1 < 1000000 then .branch 0 [] else .next [])
      ⟨[UInt32.ofNat (k + 1)], host'⟩ := by
  have hlt : (UInt32.ofNat (k + 1)).toInt32 < (1000000 : UInt32).toInt32 ↔ k + 1 < 1000000 := by
    rw [Int32.lt_iff_toInt_lt, toInt_ofNat (by omega)]
    exact Int.ofNat_lt
  rw [UInt32.ofNat_add] at hlt ⊢
  refine ⟨20, ?_⟩
  by_cases hc : k + 1 < 1000000
  · have hc' := hlt.2 hc
    simpa [meteredRound, Wasm.exec, Wasm.Plain.perform, hparams, hcall, Wasm.binary, hlocals,
      Wasm.Frame.setLocal, Wasm.Outcome.leave, Wasm.ofBool, hc] using hc'
  · have hc' := mt hlt.1 hc
    simpa [meteredRound, Wasm.exec, Wasm.Plain.perform, hparams, hcall, Wasm.binary, hlocals,
      Wasm.Frame.setLocal, Wasm.Outcome.leave, Wasm.ofBool, hc] using hc'

omit [HostArch] in
theorem meteredRound_refused {env : Wasm.Environment σ} {s : Wasm.Frame σ} {host' : σ}
    (hparams : env.params 3 = 0)
    (hcall : env.call 3 [] s.host = some (Abi.errBudget.toUInt32, host')) :
    Wasm.Runs env meteredRound [] s (.return [Abi.errBudget.toUInt32]) ⟨s.locals, host'⟩ := by
  have hcode : Abi.errBudget.toUInt32 = -6 := by decide
  rw [hcode] at hcall ⊢
  refine ⟨20, ?_⟩
  simp [meteredRound, Wasm.exec, Wasm.Plain.perform, hparams, hcall, Wasm.binary,
    Wasm.Outcome.leave, Wasm.ofBool]

section
variable {around : Surroundings} {policy : Policy}

/-- The loop of `cpu_metered_loop` before its round `k`. -/
def meteredFrame (around : Surroundings) (policy : Policy) (k : Nat) : Wasm.Frame Instance where
  locals := [UInt32.ofNat k]
  host := (cpuMeteredLoop.entry around policy).host.ticks around k

theorem meteredFrame_ticked (around : Surroundings) (policy : Policy) (k : Nat) :
    Ticked { HostState.new policy with memory := some around.memory } policy.initialFuel.toNat k
      (meteredFrame around policy k).host := by
  have hentry : Ticked { HostState.new policy with memory := some around.memory }
    policy.initialFuel.toNat 0 (cpuMeteredLoop.entry around policy).host := ⟨rfl, rfl, rfl, rfl⟩
  exact hentry.ticks k

/-- The loop of `cpu_metered_loop` goes on until its fuel or its million of rounds is used up. -/
theorem meteredLoop_runs (around : Surroundings) (policy : Policy) (limit : Nat) :
    Wasm.Runs (cpuMeteredLoop.environment around limit) cpuMeteredLoop.run []
      (cpuMeteredLoop.entry around policy)
      (if policy.initialFuel.toNat < 1000000 then .return [Abi.errBudget.toUInt32]
        else .next [0])
      ⟨[UInt32.ofNat (min policy.initialFuel.toNat 1000000)],
        (meteredFrame around policy (min (policy.initialFuel.toNat + 1) 1000000)).host⟩ := by
  have hround (k : Nat) (hk : k < policy.initialFuel.toNat) (hk' : k < 1000000) :
      Wasm.Runs (cpuMeteredLoop.environment around limit) meteredRound []
        (meteredFrame around policy k) (if k + 1 < 1000000 then .branch 0 [] else .next [])
        (meteredFrame around policy (k + 1)) := by
    have hfuel := (meteredFrame_ticked around policy k).fuel_eq
    have hpaid : ¬(meteredFrame around policy k).host.state.fuelRemaining = 0 := by
      intro hz
      rw [hz] at hfuel
      change 0 = _ at hfuel
      omega
    have hcall : (cpuMeteredLoop.environment around limit).call 3 []
        (meteredFrame around policy k).host =
        some (0, (meteredFrame around policy (k + 1)).host) := by
      refine (callImport_tick rfl).trans ?_
      rw [if_neg hpaid]
      rfl
    exact meteredRound_paid rfl hcall rfl hk'
  by_cases hf : policy.initialFuel.toNat < 1000000
  · rw [if_pos hf, Nat.min_eq_left (Nat.le_of_lt hf), Nat.min_eq_left hf]
    have hfuel := (meteredFrame_ticked around policy
      policy.initialFuel.toNat).fuel_eq
    rw [Nat.sub_self] at hfuel
    have hcall : (cpuMeteredLoop.environment around limit).call 3 []
        (meteredFrame around policy policy.initialFuel.toNat).host =
        some (Abi.errBudget.toUInt32,
          (meteredFrame around policy (policy.initialFuel.toNat + 1)).host) := by
      refine (callImport_tick rfl).trans ?_
      rw [if_pos (UInt32.toNat_inj.1 hfuel)]
      rfl
    refine Wasm.Runs.loop_rounds (meteredFrame around policy) (fun _ => [])
      policy.initialFuel.toNat ?_ ?_
    · intro k hk
      have hnext := hround k hk (by omega)
      rwa [if_pos (by omega)] at hnext
    · exact Wasm.Runs.loop_return (meteredRound_refused rfl hcall)
  · rw [if_neg hf, Nat.min_eq_right (by omega), Nat.min_eq_right (by omega)]
    refine Wasm.Runs.loop_rounds (meteredFrame around policy) (fun _ => []) 999999 ?_ ?_
    · intro k hk
      have hnext := hround k (by omega) (by omega)
      rwa [if_pos (by omega)] at hnext
    · have hlast := hround 999999 (by omega) (by omega)
      rw [if_neg (by omega)] at hlast
      exact Wasm.Runs.loop_next hlast ⟨2, rfl⟩

def meteredCode (policy : Policy) : Int32 :=
  if policy.initialFuel.toNat < 1000000 then Abi.errBudget else Abi.ok

theorem meteredLoop_execution (around : Surroundings) (policy : Policy) (backend : Backend)
    {kind : CaseKind} (hkind : kind ≠ .growthProbe) (growUs : U128) : ∃ fuel guest,
      cpuMeteredLoop.execution around backend policy kind growUs fuel = some guest ∧
      guest.run = ((meteredFrame around policy
        (min (policy.initialFuel.toNat + 1) 1000000)).host.calls, .ok (meteredCode policy)) := by
  obtain ⟨fuel, hrun⟩ := Program.execution_of_runs hkind growUs
    (meteredLoop_runs around policy
      ((makeStore backend policy).limit cpuMeteredLoop.memory))
  refine ⟨fuel, _, hrun, ?_⟩
  rw [meteredCode]
  dsimp only
  split
  · exact congrArg (_, ·) (congrArg Except.ok (Int32.toInt32_toUInt32 Abi.errBudget))
  · rfl

/-- A guest that spins without calling the host never ends, whatever it is given. -/
theorem nonCooperativeLoop_diverges (backend : Backend) (kind : CaseKind) (growUs : U128)
    (fuel : Nat) :
    nonCooperativeLoop.execution around backend policy kind growUs fuel = none := by
  have hinvoke (limit fuel : Nat) (inst : Instance) :
      nonCooperativeLoop.invoke around limit fuel nonCooperativeLoop.run 0 inst = none := by
    have hloop : Wasm.exec (nonCooperativeLoop.environment around limit) fuel
        nonCooperativeLoop.run [] ⟨[], { inst with calls := [] }⟩ = none := by
      apply Wasm.exec_loop_none (I := fun _ => True) _ trivial
      intro fuel s r _ hexec
      cases fuel with
      | zero => cases hexec
      | succ fuel =>
        cases hexec
        exact ⟨[], s, rfl, trivial⟩
    exact congrArg (Option.map _) hloop
  rw [Program.execution]
  cases nonCooperativeLoop.probe around _ fuel kind growUs _ with
  | none => rfl
  | some probed =>
    change Option.bind (nonCooperativeLoop.invoke around _ fuel nonCooperativeLoop.run 0 _) _ = _
    rw [hinvoke]
    rfl

/-- Whatever the fuel, the metered guest comes to an end, is refused exactly when it cannot
have a million ticks, and has made as many as the meter says. -/
theorem metered_guest_report {engine : Engine} {guest : GuestExecution} {clock : Timings}
    {case : GuestCase} {backend : Backend}
    (h : RunsProgram engine guest clock around case backend policy cpuMeteredLoop)
    (hkind : case.kind = .runExport) (hpages : 1 ≤ policy.maxMemoryPages) :
    let report := runCase engine guest clock case backend policy
    let ticks := min (policy.initialFuel.toNat + 1) 1000000
    report.actualCode = some (meteredCode policy) ∧ report.hostError = none ∧
      report.telemetry.ticksSeen.toNat = ticks ∧
      guest.run.1.map HostCall.call = List.replicate ticks .tick := by
  intro report ticks
  have hnotprobe : case.kind ≠ .growthProbe := by rw [hkind]; decide
  have hnotstatic : case.kind ≠ .staticAudit := by rw [hkind]; decide
  have hd : cpuMeteredLoop.denial policy = none := by
    rw [cpuMeteredLoop.denial_onePage rfl rfl, if_neg (UInt32.not_lt.2 hpages)]
  obtain ⟨fuel, guest', hrun, he⟩ :=
    meteredLoop_execution around policy backend hnotprobe clock.growUs
  obtain rfl := h.executes fuel guest' hrun
  obtain ⟨state, inst, hexecuted⟩ := Program.execution_executed hrun
  obtain ⟨wasmBytes, hstarted⟩ := runCaseInner_started guest clock case backend policy
    (h.started hnotstatic hd)
  have hticked := meteredFrame_ticked around policy ticks
  have hseen : (meteredFrame around policy ticks).host.state.telemetry.ticksSeen.toNat = ticks := by
    rw [hticked.ticks_eq]
    omega
  have hfresh := hexecuted.probed.fresh
  have hreport : report = (runInstance guest clock case backend policy wasmBytes).report :=
    congrArg Run.report hstarted
  rw [runInstance,
    show guest.start = [] from congrArg GuestExecution.start hfresh,
    show guest.instantiate = .ok () from congrArg GuestExecution.instantiate hfresh,
    show guest.memoryExport = .ok around.memory from
      congrArg GuestExecution.memoryExport hfresh,
    show guest.runExport = .ok () from congrArg GuestExecution.runExport hfresh, he] at hreport
  dsimp only [Machine.final] at hreport
  rw [if_neg hnotprobe, hticked.replayed] at hreport
  rw [hreport, he]
  exact ⟨rfl, rfl, hseen, hticked.calls_eq⟩

end

end

theorem metered_default_report :
    letI := HostArch.x86_64
    ∃ guest, (runCase (programEngine cpuMeteredLoop) guest ⟨1, 1, 1, 1, 1⟩
      (case "metered" "" Abi.errBudget .runExport "" "" "" "") .cranelift
      .default).telemetry.ticksSeen.toNat = 257 := by
  let _ := HostArch.x86_64
  obtain ⟨fuel, guest, hrun, -⟩ := meteredLoop_execution plainSurroundings .default .cranelift
    (by decide : CaseKind.runExport ≠ .growthProbe) 1
  have hruns : RunsProgram (programEngine cpuMeteredLoop) guest ⟨1, 1, 1, 1, 1⟩
      plainSurroundings (case "metered" "" Abi.errBudget .runExport "" "" "" "") .cranelift
      .default cpuMeteredLoop := .of_execution ⟨_, rfl, rfl⟩ hrun
  exact ⟨guest, (metered_guest_report hruns rfl (by decide)).2.2.1⟩

end WasmerSectest
