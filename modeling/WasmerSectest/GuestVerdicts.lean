import WasmerSectest.BuiltinGuests
import WasmerSectest.ImportCodes

namespace WasmerSectest
set_option autoImplicit true

open Wasm (Instr Plain)

section
variable [HostArch]

/-- The engine compiles the case to the program, and the guest does what the program says,
should it come to an end. -/
structure RunsProgram (engine : Engine) (guest : GuestExecution) (clock : Timings)
    (around : Surroundings) (case : GuestCase) (backend : Backend) (policy : Policy)
    (program : Program) : Prop where
  compiles : Compiles engine case backend program.module
  executes : ∀ fuel guest', program.execution around backend policy case.kind clock.growUs fuel =
    some guest' → guest = guest'

/-- An engine all of whose modules are that of one program. -/
def programEngine (program : Program) : Engine where
  parseStr := fun _ => .ok [0x00, 0x61, 0x73, 0x6d]
  compile := fun _ _ => .ok program.module

def Program.denial (program : Program) (policy : Policy) : Option Int32 :=
  if policy.maxMemoryPages < program.memory.minimum then some Abi.errTooLarge
  else if policy.requireTickImport && !program.imports.contains .tick then some Abi.errBudget
  else none

def Program.entry (program : Program) (around : Surroundings) (policy : Policy) :
    Wasm.Frame Instance where
  locals := List.replicate program.locals 0
  host :=
    { state := { HostState.new policy with memory := some around.memory }
      store := (program.instantiate around).instantiated
      calls := []
      clock := 0 }

section
variable {engine : Engine} {guest : GuestExecution} {clock : Timings} {around : Surroundings}
  {case : GuestCase} {backend : Backend} {policy : Policy} {program : Program}

omit [HostArch] in
theorem HostImport.name_eq_tick (i : HostImport) : i.name = "tick" ↔ i = .tick := by
  cases i <;> decide

omit [HostArch] in
theorem Program.auditModule_denial (program : Program) (policy : Policy) :
    match program.denial policy with
    | some code => ∃ denial, auditModule program.module policy = .error denial ∧
        denial.resultCode = code
    | none => auditModule program.module policy = .ok () := by
  have himported : program.module.importedMemories = [] := by
    apply List.filterMap_eq_nil_iff.2
    intro i hi
    obtain ⟨j, -, rfl⟩ := List.mem_map.1 hi
    rfl
  have hexported : program.module.exportedMemories = [program.memory] := by
    have hmemories : program.module.memories = [program.memory] := by
      rw [Module.memories, himported]
      rfl
    rw [Module.exportedMemories, hmemories]
    cases hg : program.growOnly with
    | none =>
      rw [module, hg]
      rfl
    | some code =>
      rw [module, hg]
      rfl
  have htick : program.module.imports.any (fun i =>
      i.type.isFunction && i.module == "host" && i.name == "tick") =
        program.imports.contains .tick := by
    rw [module, List.any_map, List.contains_eq_any_beq]
    apply List.any_congr rfl
    intro i
    simp only [Function.comp_apply, ImportType.isFunction, Bool.true_and, beq_self_eq_true]
    rw [Bool.eq_iff_iff, beq_iff_eq, beq_iff_eq, HostImport.name_eq_tick, eq_comm]
  rw [denial, auditModule, himported, hexported, htick]
  by_cases hm : policy.maxMemoryPages < program.memory.minimum
  · rw [if_pos hm]
    have hfind : [program.memory].find? (fun m => decide (m.minimum > policy.maxMemoryPages)) =
      some program.memory := List.find?_cons_of_pos (decide_eq_true hm)
    rw [hfind]
    exact ⟨_, rfl, rfl⟩
  · rw [if_neg hm]
    have hfind : [program.memory].find? (fun m => decide (m.minimum > policy.maxMemoryPages)) =
      none := List.find?_cons_of_neg (by simpa using hm)
    rw [hfind]
    cases hb : policy.requireTickImport && !program.imports.contains .tick with
    | true => exact ⟨_, rfl, rfl⟩
    | false => rfl

theorem Program.invoke_mono {fuel fuel' locals : Nat} (hle : fuel ≤ fuel')
    (h : program.invoke around limit fuel code locals inst = some r) :
    program.invoke around limit fuel' code locals inst = some r := by
  obtain ⟨ended, hexec, he⟩ := Option.map_eq_some_iff.1 h
  exact Option.map_eq_some_iff.2 ⟨ended, Wasm.exec_mono hle hexec, he⟩

theorem Program.execution_mono {fuel fuel' : Nat} (hle : fuel ≤ fuel')
    (h : program.execution around backend policy kind growUs fuel = some guest) :
    program.execution around backend policy kind growUs fuel' = some guest := by
  obtain ⟨probed, hprobe, h⟩ := Option.bind_eq_some_iff.1 h
  obtain ⟨ended, hinvoke, he⟩ := Option.bind_eq_some_iff.1 h
  refine Option.bind_eq_some_iff.2 ⟨probed, ?_,
    Option.bind_eq_some_iff.2 ⟨ended, invoke_mono hle hinvoke, he⟩⟩
  rw [probe] at hprobe ⊢
  split
  · next hk =>
    rw [if_pos hk] at hprobe
    cases hg : program.growOnly with
    | none =>
      rw [hg] at hprobe
      exact hprobe
    | some code =>
      rw [hg] at hprobe
      obtain ⟨grown, hgrow, he⟩ := Option.bind_eq_some_iff.1 hprobe
      exact Option.bind_eq_some_iff.2 ⟨grown, invoke_mono hle hgrow, he⟩
  · next hk =>
    rw [if_neg hk] at hprobe
    exact hprobe

theorem RunsProgram.of_execution (hc : Compiles engine case backend program.module)
    (h : program.execution around backend policy case.kind clock.growUs fuel = some guest) :
    RunsProgram engine guest clock around case backend policy program := by
  refine ⟨hc, fun fuel' guest' h' => ?_⟩
  have hguest := Program.execution_mono (Nat.le_max_left fuel fuel') h
  have hguest' := Program.execution_mono (Nat.le_max_right fuel fuel') h'
  exact Option.some.inj (hguest.symm.trans hguest')

omit [HostArch] in
theorem Program.denial_onePage (hmin : program.memory.minimum = 1)
    (htick : program.imports.contains .tick = true) : program.denial policy =
      if policy.maxMemoryPages < 1 then some Abi.errTooLarge else none := by
  rw [denial, hmin, htick, Bool.not_true, Bool.and_false]
  rfl

theorem RunsProgram.started
    (h : RunsProgram engine guest clock around case backend policy program)
    (hkind : case.kind ≠ .staticAudit) (hd : program.denial policy = none) :
    Started engine case backend policy false := by
  have haudit := program.auditModule_denial policy
  rw [hd] at haudit
  obtain ⟨wasm, hwasm, hmodule⟩ := h.compiles
  exact ⟨wasm, program.module, hwasm, hmodule, fun hs => hkind hs.1, haudit⟩

theorem Program.completes
    (hrun : program.execution around backend policy kind growUs fuel = some guest)
    (hcode : guest.run.2 = .ok code) : guest.Completes := by
  obtain ⟨state, inst, hexecuted⟩ := program.execution_executed hrun
  have hfresh := hexecuted.probed.fresh
  refine ⟨?_, ?_, ?_, ?_⟩
  · rw [show guest.instantiate = .ok () from congrArg GuestExecution.instantiate hfresh]
    rfl
  · rw [show guest.memoryExport = .ok around.memory from
      congrArg GuestExecution.memoryExport hfresh]
    rfl
  · rw [show guest.runExport = .ok () from congrArg GuestExecution.runExport hfresh]
    rfl
  · rw [hcode]
    rfl

/-- The case comes out with the code of the audit's refusal or else with that of `run`. -/
theorem RunsProgram.verdict
    (h : RunsProgram engine guest clock around case backend policy program)
    (hkind : case.kind ≠ .staticAudit)
    (hrun : program.execution around backend policy case.kind clock.growUs fuel = some guest')
    (hcode : guest'.run.2 = .ok code) :
    (runCase engine guest clock case backend policy).passed = true ↔
      (program.denial policy).getD code = case.expectedCode := by
  cases hd : program.denial policy with
  | some denied =>
    have haudit := program.auditModule_denial policy
    have hs : ¬(case.kind = .staticAudit ∧ !false) := fun hs => hkind hs.1
    rw [hd] at haudit
    exact runCaseInner_denied guest clock case backend policy h.compiles
      (by rw [DeniedWith, if_neg hs]; exact haudit)
  | none =>
    obtain rfl := h.executes fuel guest' hrun
    rw [runCase, runCaseInner_started_passed guest clock case backend policy
      (h.started hkind hd), hcode, Except.ok.injEq]
    exact and_iff_right (Program.completes hrun hcode)

theorem Program.execution_of_runs {kind : CaseKind} (hkind : kind ≠ .growthProbe)
    (growUs : U128)
    (h : Wasm.Runs (program.environment around
      ((makeStore backend policy).limit program.memory)) program.run []
      (program.entry around policy) o frame) :
    ∃ fuel, program.execution around backend policy kind growUs fuel =
      some { program.instantiate around with
        run := (frame.host.calls, returned around o), finished := frame.host.store } := by
  obtain ⟨fuel, h⟩ := h
  refine ⟨fuel, ?_⟩
  have hinvoke : program.invoke around ((makeStore backend policy).limit program.memory) fuel
      program.run program.locals (program.entry around policy).host =
      some (returned around o, frame.host) := congrArg (Option.map _) h
  rw [execution, probe, if_neg hkind]
  exact congrArg (Option.bind · _) hinvoke

omit [HostArch] in
theorem HostImport.call_length {i : HostImport} {args : List UInt32} {call : GuestCall}
    (h : i.call args = some call) : args.length = i.params := by
  cases i with
  | acceptPacket | writeMarker =>
    match args, h with
    | [_, _, _], _ => rfl
  | readCap =>
    match args, h with
    | [_, _], _ => rfl
  | allocCap =>
    match args, h with
    | [_], _ => rfl
  | tick =>
    match args, h with
    | [], _ => rfl

omit [HostArch] in
theorem abiImports_idxOf {function : HostImport} (h : function ∈ abiImports) :
    abiImports[abiImports.idxOf function]? = some function := by
  revert h
  cases function <;> decide

theorem Program.entry_dataSize (h : program.memory.minimum = 1) :
    (around.memory.view (program.entry around policy).host.store).dataSize = 65536 := by
  have hlen : (around.memory.view (program.entry around policy).host.store).bytes.length =
    program.memory.minimum.toNat * 65536 := program.initialMemory_pages around
  rw [← UInt64.toNat_inj, LinearMemory.toNat_dataSize, hlen, h]
  rfl

theorem Program.entry_range {ptr : UInt32} {bytes : List UInt8}
    (h : program.data = [⟨ptr.toNat, bytes⟩])
    (hlen : len.toNat = bytes.length) :
    (around.memory.view (program.entry around policy).host.store).range ptr len = bytes := by
  have hview : around.memory.view (program.entry around policy).host.store =
    program.initialMemory := if_pos rfl
  have hbytes : program.initialMemory.bytes = overwrite
      (List.replicate (program.memory.minimum.toNat * 65536) 0) ⟨ptr.toNat, bytes⟩ := by
    change List.foldl overwrite _ program.data = _
    rw [h]
    rfl
  have hfits := program.data_fits ⟨ptr.toNat, bytes⟩ (h ▸ .head _)
  dsimp only at hfits
  rw [hview, LinearMemory.range, hbytes, slice, hlen, Nat.add_sub_cancel_left, overwrite,
    List.append_assoc, List.drop_left', List.take_left]
  rw [List.length_take, List.length_replicate]
  exact Nat.min_eq_left (Nat.le_trans (Nat.le_add_right _ _) hfits)

theorem singleCall_execution {function : HostImport} {args : List UInt32}
    {data : List DataSegment} (hdata) (call : GuestCall) (hmem : function ∈ abiImports)
    (hcall : function.call args = some call) (around : Surroundings) (policy : Policy)
    (backend : Backend) {kind : CaseKind} (hkind : kind ≠ .growthProbe) (growUs : U128) :
    ∃ fuel guest, (singleCall function args data hdata).execution around backend policy kind
        growUs fuel = some guest ∧
      guest.run.2 = .ok (call.code policy (around.memory.view
        ((singleCall function args data hdata).entry around policy).host.store)) := by
  have hi : abiImports[abiImports.idxOf function]? = some function := abiImports_idxOf hmem
  let entry := (singleCall function args data hdata).entry around policy
  let env := (singleCall function args data hdata).environment around
    ((makeStore backend policy).limit (singleCall function args data hdata).memory)
  let answer := call.perform entry.host.state entry.host.store (around.elapsedUs 0)
  have hlen : args.length = env.params (abiImports.idxOf function) := by
    change args.length = (abiImports[abiImports.idxOf function]?.map HostImport.params).getD 0
    rw [hi]
    exact HostImport.call_length hcall
  have hanswer : env.call (abiImports.idxOf function) args entry.host =
      some (answer.1.toUInt32, ⟨answer.2.1, answer.2.2, [⟨entry.host.store, call,
        around.elapsedUs 0⟩], 1⟩) := by
    change Instance.callImport around abiImports (abiImports.idxOf function) args _ = _
    rw [Instance.callImport, hi, Option.bind_eq_bind, Option.bind_some, hcall]
    rfl
  have hcode : answer.1 = call.code policy (around.memory.view entry.host.store) :=
    call.perform_code rfl rfl entry.host.store (around.elapsedUs 0)
  obtain ⟨fuel, hrun⟩ := Program.execution_of_runs hkind growUs
    (Wasm.Runs.call_consts hlen hanswer)
  refine ⟨fuel, _, hrun, ?_⟩
  change Except.ok answer.1.toUInt32.toInt32 = _
  rw [Int32.toInt32_toUInt32, hcode]

theorem singleCall_code {function : HostImport} {args : List UInt32} {data : List DataSegment}
    {hdata} (call : GuestCall) (hmem : function ∈ abiImports)
    (hcall : function.call args = some call) (hkind : case.kind = .runExport)
    (h : RunsProgram engine guest clock around case backend policy
      (singleCall function args data hdata)) :
    (runCase engine guest clock case backend policy).passed = true ↔
      (if policy.maxMemoryPages < 1 then Abi.errTooLarge else
        call.code policy (around.memory.view
          ((singleCall function args data hdata).entry around policy).host.store)) =
        case.expectedCode := by
  have hnotprobe : case.kind ≠ .growthProbe := by rw [hkind]; decide
  have hnotstatic : case.kind ≠ .staticAudit := by rw [hkind]; decide
  obtain ⟨fuel, guest', hrun, hcode⟩ :=
    singleCall_execution hdata call hmem hcall around policy backend hnotprobe clock.growUs
  rw [h.verdict hnotstatic hrun hcode, Program.denial_onePage rfl rfl]
  split <;> rfl

end

end

end WasmerSectest
