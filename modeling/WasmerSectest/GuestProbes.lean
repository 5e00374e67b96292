import WasmerSectest.GuestVerdicts

namespace WasmerSectest
set_option autoImplicit true

open BuiltinGuests

section
variable [HostArch] {around : Surroundings} {policy : Policy}

theorem grow_appends (around : Surroundings) (limit : Nat) (delta : UInt32) (inst : Instance) :
    ∃ result inst', inst.grow around limit delta = (result, inst') ∧
      inst'.state = inst.state ∧ inst'.calls = inst.calls ∧
      ∃ added, (around.memory.view inst'.store).bytes =
        (around.memory.view inst.store).bytes ++ added := by
  refine ⟨(inst.grow around limit delta).1, (inst.grow around limit delta).2, rfl, ?_⟩
  rcases grow_eq around limit delta inst with ⟨hfits, -, he⟩ | he
  · rw [he]
    refine ⟨rfl, rfl, List.replicate (delta.toNat * 65536) 0, ?_⟩
    have hview : around.memory.view (inst.store.set around.memory
        ((around.memory.view inst.store).extend delta.toNat hfits)) =
      (around.memory.view inst.store).extend delta.toNat hfits := if_pos rfl
    change (around.memory.view (Store.set _ _ _)).bytes = _
    rw [hview]
    rfl
  · rw [he]
    exact ⟨rfl, rfl, [], (List.append_nil _).symm⟩

omit [HostArch] in
theorem range_append {view view' : LinearMemory} {ptr len : UInt32}
    (h : view'.bytes = view.bytes ++ added)
    (hfits : ptr.toNat + len.toNat ≤ view.bytes.length) :
    view'.range ptr len = view.range ptr len := by
  rw [LinearMemory.range, LinearMemory.range, slice, slice, h,
    List.drop_append_of_le_length (by omega), List.take_append_of_le_length]
  rw [List.length_drop]
  omega

omit [HostArch] in
theorem grownPacket_code {view view' : LinearMemory} (hsize : view.bytes.length = 65536)
    (hrange : view.range 64 21 = packetData wireMagic 1 5 0x74)
    (h : view'.bytes = view.bytes ++ added) :
    (GuestCall.acceptPacket 64 21 8).code policy view' =
      if 21 > policy.maxPacketLen then Abi.errTooLarge else Abi.ok := by
  have hsize' : 85 ≤ view'.dataSize.toNat := by
    rw [LinearMemory.toNat_dataSize, h, List.length_append]
    omega
  have hvalid : ValidRange 64 21 8 21 view'.dataSize.toNat :=
    ⟨by decide, by decide, by decide, by decide, hsize'⟩
  have hrange' : view'.range 64 21 = packetData wireMagic 1 5 0x74 :=
    (range_append h (by rw [hsize]; decide)).trans hrange
  rw [GuestCall.code, rangeCode_maxLen (by decide), rangeCode_judged hvalid, hrange']
  rfl

/-- What `memory_grow_probe` has done before `run`: its state has all its fuel, and its memory
has only been appended to. -/
structure GrowProbed (around : Surroundings) (policy : Policy) (inst : Instance) : Prop where
  memory_eq : inst.state.memory = some around.memory
  policy_eq : inst.state.policy = policy
  fuel_eq : inst.state.fuelRemaining = policy.initialFuel
  bytes_eq : ∃ added, (around.memory.view inst.store).bytes =
    (around.memory.view (memoryGrowProbe.entry around policy).host.store).bytes ++ added

theorem growOnly_probe (around : Surroundings) (policy : Policy) (limit : Nat) (growUs : U128) :
    ∃ guest inst, inst.calls = [] ∧
    inst.store = guest.grown ∧ GrowProbed around policy inst ∧
    memoryGrowProbe.probe around limit 10 .growthProbe growUs
      { HostState.new policy with memory := some around.memory } =
        some (guest, inst.state, inst.clock) := by
  let entry := (memoryGrowProbe.entry around policy).host
  obtain ⟨grown, inst, hgrow, hstate, hcalls, added, hadded⟩ :=
    grow_appends around limit 1 entry
  let guest := { memoryGrowProbe.instantiate around with
    growOnly := some (inst.calls, .ok grown.toInt32), grown := inst.store }
  have hinvoke : memoryGrowProbe.invoke around limit 10
      [.plain (.i32Const 1), .plain .memoryGrow] 0 entry = some (.ok grown.toInt32, inst) := by
    have hexec : Wasm.exec (memoryGrowProbe.environment around limit) 10
        [.plain (.i32Const 1), .plain .memoryGrow] [] ⟨[], entry⟩ =
        some (.next [(entry.grow around limit 1).1], ⟨[], (entry.grow around limit 1).2⟩) := rfl
    rw [hgrow] at hexec
    exact congrArg (Option.map _) hexec
  have hfinal : Machine.final HostCall.step entry.state inst.calls = entry.state := by
    rw [hcalls]
    rfl
  refine ⟨guest, ⟨runGrowthProbe guest entry.state around.memory growUs, inst.store, [],
    inst.clock⟩, rfl, rfl, ⟨?_, ?_, ?_, added, hadded⟩, ?_⟩
  · exact congrArg HostState.memory hfinal
  · exact congrArg HostState.policy hfinal
  · exact congrArg HostState.fuelRemaining hfinal
  · rw [Program.probe, if_pos rfl]
    exact Option.bind_eq_some_iff.2 ⟨_, hinvoke, rfl⟩

theorem growRun_invoke (limit : Nat) {inst : Instance} (h : GrowProbed around policy inst)
    (hcalls : inst.calls = []) : ∃ inst',
      memoryGrowProbe.invoke around limit 10 memoryGrowProbe.run 0 inst =
        some (.ok (if 21 > policy.maxPacketLen then Abi.errTooLarge else Abi.ok), inst') := by
  obtain ⟨added, hadded⟩ := h.bytes_eq
  obtain ⟨grown, inst', hgrow, hstate, -, added', hadded'⟩ :=
    grow_appends around limit 1 inst
  let answer := (GuestCall.acceptPacket 64 21 8).perform inst'.state inst'.store
    (around.elapsedUs inst'.clock)
  have hcode : answer.1 = if 21 > policy.maxPacketLen then Abi.errTooLarge else Abi.ok := by
    have hpolicy : inst'.state.policy = policy := by rw [hstate, h.policy_eq]
    have hperform := GuestCall.perform_code (.acceptPacket 64 21 8)
      (hstate ▸ h.memory_eq) (by rw [hstate, h.fuel_eq, h.policy_eq]) inst'.store
      (around.elapsedUs inst'.clock)
    have hgrown : (around.memory.view inst'.store).bytes =
        (around.memory.view (memoryGrowProbe.entry around policy).host.store).bytes ++
          (added ++ added') := by
      rw [hadded', ← List.append_assoc, ← hadded]
    have hsize : (around.memory.view
        (memoryGrowProbe.entry around policy).host.store).bytes.length = 65536 :=
      memoryGrowProbe.initialMemory_pages around
    rw [hpolicy] at hperform
    exact hperform.trans (grownPacket_code hsize (Program.entry_range rfl rfl) hgrown)
  let inst'' : Instance := ⟨answer.2.1, answer.2.2, inst'.calls ++
    [⟨inst'.store, .acceptPacket 64 21 8, around.elapsedUs inst'.clock⟩], inst'.clock + 1⟩
  have hexec : Wasm.exec (memoryGrowProbe.environment around limit) 10 memoryGrowProbe.run []
      ⟨[], inst⟩ = ((memoryGrowProbe.environment around limit).call 0 [64, 21, 8]
        (inst.grow around limit 1).2).map fun (result, host) =>
          (.next [result], ⟨[], host⟩) := rfl
  have hcall : (memoryGrowProbe.environment around limit).call 0 [64, 21, 8] inst' =
    some (answer.1.toUInt32, inst'') := rfl
  have hreset : ({ inst with calls := [] } : Instance) = inst := by rw [← hcalls]
  have hreturned : returned around (.next [answer.1.toUInt32]) = .ok answer.1 :=
    congrArg Except.ok (Int32.toInt32_toUInt32 answer.1)
  rw [hgrow, hcall] at hexec
  refine ⟨inst'', ?_⟩
  rw [Program.invoke, hreset, ← hcode, ← hreturned]
  exact congrArg (Option.map _) hexec

theorem growProbe_execution (around : Surroundings) (policy : Policy) (backend : Backend)
    (growUs : U128) : ∃ fuel guest,
    memoryGrowProbe.execution around backend policy .growthProbe growUs fuel = some guest ∧
      guest.run.2 = .ok (if 21 > policy.maxPacketLen then Abi.errTooLarge else Abi.ok) := by
  let limit := (makeStore backend policy).limit memoryGrowProbe.memory
  obtain ⟨guest, inst, hcalls, hstore, hprobed, hprobe⟩ :=
    growOnly_probe around policy limit growUs
  obtain ⟨inst', hrun⟩ := growRun_invoke limit hprobed hcalls
  have hentered : (⟨inst.state, guest.grown, [], inst.clock⟩ : Instance) = inst := by
    rw [← hstore, ← hcalls]
  refine ⟨10, { guest with run := (inst'.calls, _), finished := inst'.store }, ?_, rfl⟩
  rw [Program.execution]
  refine Option.bind_eq_some_iff.2 ⟨(guest, inst.state, inst.clock), hprobe, ?_⟩
  exact Option.bind_eq_some_iff.2 ⟨(_, inst'), hentered.symm ▸ hrun, rfl⟩

omit [HostArch] in
theorem markerProbe_exec {env : Wasm.Environment σ} {s : Wasm.Frame σ} {host' : σ}
    (hparams : env.params 0 = 3) (hlocals : s.locals = [0, 0])
    (hcall : env.call 0 [128, 4, 4] s.host = some (0, host'))
    (h128 : env.load 128 host' = some 0x57) (h129 : env.load 129 host' = some 0x53)
    (h130 : env.load 130 host' = some 0x45) (h131 : env.load 131 host' = some 0x43) :
    Wasm.Runs env zeroCopyWriteProbe.run [] s (.next [0]) ⟨[0, 1], host'⟩ := by
  refine ⟨60, ?_⟩
  simp [zeroCopyWriteProbe, markerByte, Wasm.exec, Wasm.Plain.perform, Wasm.binary, Wasm.ofBool,
    Wasm.Frame.setLocal, Wasm.Outcome.leave, hparams, hlocals, hcall, h128, h129, h130, h131]

/-- `zero_copy_write_probe` reads the marker back and returns 0, whatever the policy. -/
theorem markerProbe_runs (around : Surroundings) (policy : Policy) (limit : Nat) : ∃ frame,
    Wasm.Runs (zeroCopyWriteProbe.environment around limit) zeroCopyWriteProbe.run []
      (zeroCopyWriteProbe.entry around policy) (.next [0]) frame := by
  let entry := (zeroCopyWriteProbe.entry around policy).host
  let answer := (GuestCall.writeMarker 128 4 4).perform entry.state entry.store
    (around.elapsedUs 0)
  have hsize : (around.memory.view entry.store).bytes.length = 65536 :=
    zeroCopyWriteProbe.initialMemory_pages around
  have hrange : MarkerRange (around.memory.view entry.store) 128 4 4 := by
    refine ⟨rfl, by decide, by decide, ?_⟩
    rw [hsize]
    decide
  obtain ⟨hok, hwritten, -⟩ := hostWriteMarker_touches entry.state entry.store 128 4 4
    (around.elapsedUs 0)
  have hcode : answer.1 = Abi.ok := hok.2 ⟨around.memory, rfl, hrange⟩
  obtain ⟨m, hm, -, hmarker⟩ := hwritten hcode
  obtain rfl := Option.some.inj hm
  let inst : Instance := ⟨answer.2.1, answer.2.2, [⟨entry.store, .writeMarker 128 4 4,
    around.elapsedUs 0⟩], 1⟩
  have hcall : (zeroCopyWriteProbe.environment around limit).call 0 [128, 4, 4] entry =
      some (0, inst) := by
    have hzero : answer.1.toUInt32 = 0 := by rw [hcode]; rfl
    rw [← hzero]
    rfl
  have hload (address : UInt32) (i : Nat) (ha : address.toNat = 128 + i) (hi : i < 4) :
      (zeroCopyWriteProbe.environment around limit).load address inst =
        hostWriteMarkerBytes[i]? := by
    change (around.memory.view answer.2.2).bytes[address.toNat]? = _
    have hbefore : ((around.memory.view entry.store).bytes.take 128).length = 128 := by
      rw [List.length_take, hsize]
      rfl
    have hbytes : (around.memory.view answer.2.2).bytes = _ := hmarker.bytes_eq
    rw [hbytes, List.append_assoc, ha, List.getElem?_append_right (by
      rw [show (128 : UInt32).toNat = 128 from rfl, hbefore]; omega)]
    rw [show (128 : UInt32).toNat = 128 from rfl, hbefore, Nat.add_sub_cancel_left,
      List.getElem?_append_left (by exact hi)]
  exact ⟨_, markerProbe_exec rfl rfl hcall (hload 128 0 rfl (by decide))
    (hload 129 1 rfl (by decide)) (hload 130 2 rfl (by decide)) (hload 131 3 rfl (by decide))⟩

end

end WasmerSectest
