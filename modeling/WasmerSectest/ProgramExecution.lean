import WasmerSectest.GuestPrograms
import WasmerSectest.ImportFrames

namespace WasmerSectest
set_option autoImplicit true

/-- The memory has whole pages, so many. -/
def Memory.HasPages (memory : Memory) (store : Store) (n : Nat) : Prop :=
  (memory.view store).bytes.length = n * 65536

def Memory.Ascends (memory : Memory) (stores : List Store) : Prop :=
  stores.Pairwise fun store store' =>
    (memory.view store).bytes.length ≤ (memory.view store').bytes.length

section
variable {memory : Memory} {stores : List Store} {store store' : Store}

theorem Memory.Ascends.replace (h : memory.Ascends (stores ++ [store]))
    (hle : (memory.view store).bytes.length ≤ (memory.view store').bytes.length) :
    memory.Ascends (stores ++ [store']) := by
  obtain ⟨hstores, -, hlast⟩ := List.pairwise_append.1 h
  refine List.pairwise_append.2 ⟨hstores, List.pairwise_singleton _ _, ?_⟩
  intro before hbefore last hmem
  obtain rfl := List.mem_singleton.1 hmem
  exact Nat.le_trans (hlast before hbefore store (.head _)) hle

theorem Memory.Ascends.concat (h : memory.Ascends (stores ++ [store]))
    (hle : (memory.view store).bytes.length ≤ (memory.view store').bytes.length) :
    memory.Ascends (stores ++ [store] ++ [store']) := by
  refine List.pairwise_append.2 ⟨h, List.pairwise_singleton _ _, ?_⟩
  intro before hbefore last hmem
  rcases List.mem_append.1 hbefore with hbefore | hbefore
  · exact (List.pairwise_append.1 (h.replace hle)).2.2 before hbefore last hmem
  · obtain rfl := List.mem_singleton.1 hbefore
    obtain rfl := List.mem_singleton.1 hmem
    exact hle

end

section
variable [HostArch]

def Instance.stores (inst : Instance) : List Store := inst.calls.map HostCall.store ++ [inst.store]

/-- What holds of an instance that was entered in the given state with a memory of `lower`
pages: its calls, replayed, give its state, and its memory only grows. -/
structure Instance.Lawful (memory : Memory) (lower limit : Nat) (state : HostState)
    (inst : Instance) : Prop where
  replayed : Machine.final HostCall.step state inst.calls = inst.state
  pages : ∀ store ∈ inst.stores, ∃ n, memory.HasPages store n ∧ lower ≤ n ∧ n ≤ limit
  monotone : memory.Ascends inst.stores

section
variable {around : Surroundings} {program : Program} {limit lower : Nat} {state : HostState}
  {inst inst' : Instance} {memory : Memory}

theorem GuestCall.perform_length (call : GuestCall) (state : HostState) (store : Store)
    (elapsedUs : U128) (memory : Memory) :
    (memory.view (call.perform state store elapsedUs).2.2).bytes.length =
      (memory.view store).bytes.length := by
  cases call with
  | acceptPacket | readCap | allocCap | tick => rfl
  | writeMarker ptr len align =>
    obtain ⟨-, hwritten, hsame⟩ := hostWriteMarker_touches state store ptr len align elapsedUs
    change (memory.view (hostWriteMarker state store ptr len align elapsedUs).2.2).bytes.length
      = _
    by_cases hcode : (hostWriteMarker state store ptr len align elapsedUs).1 = Abi.ok
    · obtain ⟨m, -, hrange, hmarker⟩ := hwritten hcode
      have hfits := hrange.fits
      by_cases hm : memory = m
      · have hlen : hostWriteMarkerBytes.length = 4 := rfl
        rw [hm, hmarker.bytes_eq]
        simp only [List.length_append, List.length_take, List.length_drop, hlen]
        omega
      · rw [hmarker.other memory hm]
    · rw [hsame hcode]

theorem callImport_eq (h : inst.callImport around imports function args =
    some (result, inst')) :
    ∃ call, inst' =
      { state := (call.perform inst.state inst.store (around.elapsedUs inst.clock)).2.1
        store := (call.perform inst.state inst.store (around.elapsedUs inst.clock)).2.2
        calls := inst.calls ++ [⟨inst.store, call, around.elapsedUs inst.clock⟩]
        clock := inst.clock + 1 } := by
  rw [Instance.callImport] at h
  obtain ⟨i, -, h⟩ := Option.bind_eq_some_iff.1 h
  obtain ⟨call, -, h⟩ := Option.bind_eq_some_iff.1 h
  cases h
  exact ⟨call, rfl⟩

theorem Instance.Lawful.call (h : inst.Lawful memory lower limit state)
    (hcall : inst.callImport around imports function args = some (result, inst')) :
    inst'.Lawful memory lower limit state := by
  obtain ⟨call, he⟩ := callImport_eq hcall
  have hsize := call.perform_length inst.state inst.store (around.elapsedUs inst.clock) memory
  have hstores : inst'.stores = inst.stores ++
      [(call.perform inst.state inst.store (around.elapsedUs inst.clock)).2.2] := by
    rw [he, stores, List.map_append]
    rfl
  obtain ⟨n, hn, hbounds⟩ := h.pages inst.store (List.mem_append_right _ (.head _))
  apply Lawful.mk
  · rw [he, Machine.final_concat, h.replayed]
    rfl
  · rw [hstores]
    intro store hstore
    rcases List.mem_append.1 hstore with hstore | hstore
    · exact h.pages store hstore
    · obtain rfl := List.mem_singleton.1 hstore
      exact ⟨n, hsize.trans hn, hbounds⟩
  · rw [hstores]
    exact h.monotone.concat (Nat.le_of_eq hsize.symm)

theorem grow_eq (around : Surroundings) (limit : Nat) (delta : UInt32) (inst : Instance) :
    (∃ h, (around.memory.view inst.store).bytes.length + delta.toNat * 65536 ≤
        min limit wasmMaxPages * 65536 ∧
      (inst.grow around limit delta).2 = { inst with
        store := inst.store.set around.memory
          ((around.memory.view inst.store).extend delta.toNat h)
        clock := inst.clock + 1 }) ∨
    (inst.grow around limit delta).2 = { inst with clock := inst.clock + 1 } := by
  rw [Instance.grow]
  split
  · next h =>
    exact .inl ⟨Nat.le_trans h.1 (Nat.mul_le_mul_right 65536 (Nat.min_le_right _ _)), h.1, rfl⟩
  · exact .inr rfl

theorem Instance.Lawful.grow (h : inst.Lawful around.memory lower limit state)
    (delta : UInt32) : (inst.grow around limit delta).2.Lawful around.memory lower limit state := by
  obtain ⟨n, hn, hlower, hlimit⟩ := h.pages inst.store (List.mem_append_right _ (.head _))
  rcases grow_eq around limit delta inst with ⟨hfits, hle, he⟩ | he
  · have hview : around.memory.view (inst.store.set around.memory
        ((around.memory.view inst.store).extend delta.toNat hfits)) =
          (around.memory.view inst.store).extend delta.toNat hfits := if_pos rfl
    have hsize : ((around.memory.view inst.store).extend delta.toNat hfits).bytes.length =
        (around.memory.view inst.store).bytes.length + delta.toNat * 65536 := by
      rw [LinearMemory.extend, List.length_append, List.length_replicate]
    rw [he]
    refine ⟨h.replayed, ?_, ?_⟩
    · intro store hstore
      rcases List.mem_append.1 hstore with hstore | hstore
      · exact h.pages store (List.mem_append_left _ hstore)
      · obtain rfl := List.mem_singleton.1 hstore
        refine ⟨n + delta.toNat, ?_, by omega, ?_⟩
        · change (around.memory.view _).bytes.length = _
          rw [hview, hsize, hn]
          omega
        · rw [hn] at hle
          omega
    · apply h.monotone.replace
      change _ ≤ (around.memory.view (Store.set _ _ _)).bytes.length
      rw [hview, hsize]
      exact Nat.le_add_right _ _
  · rw [he]
    exact ⟨h.replayed, h.pages, h.monotone⟩

theorem invoke_lawful {locals : Nat} (hn : around.memory.HasPages inst.store n)
    (hlimit : n ≤ limit)
    (h : program.invoke around limit fuel code locals inst = some (result, inst')) :
    inst'.Lawful around.memory n limit inst.state := by
  obtain ⟨⟨o, frame⟩, hexec, he⟩ := Option.map_eq_some_iff.1 h
  cases he
  apply Wasm.exec_keeps _ _ hexec
  · apply Instance.Lawful.mk rfl
    · intro store hstore
      obtain rfl := List.mem_singleton.1 hstore
      exact ⟨n, hn, Nat.le_refl _, hlimit⟩
    · exact List.pairwise_singleton _ _
  · intro function args inst' result inst'' hcall hlawful
    exact hlawful.call hcall
  · intro delta inst' hlawful
    exact hlawful.grow delta

theorem Program.initialMemory_pages (program : Program) (around : Surroundings) :
    around.memory.HasPages (program.instantiate around).instantiated
      program.memory.minimum.toNat := by
  have hview : around.memory.view (program.instantiate around).instantiated =
    program.initialMemory := if_pos rfl
  rw [Memory.HasPages, hview]
  exact program.initial_length

omit [HostArch] in
theorem Program.minimum_le_limit (program : Program) (backend : Backend) (policy : Policy) :
    program.memory.minimum.toNat ≤ (makeStore backend policy).limit program.memory := by
  have hpages := program.pages_le
  have hmaximum := program.maximum_ge
  rw [limit_makeStore]
  cases hm : program.memory.maximum with
  | none => exact Nat.le_min.2 ⟨hpages, hpages⟩
  | some maximum =>
    rw [hm] at hmaximum
    exact Nat.le_min.2 ⟨UInt32.le_iff_toNat_le.1 (of_decide_eq_true hmaximum), hpages⟩

/-- The stores in which the host looks at the memory before `run`. -/
def GuestExecution.storesBefore (guest : GuestExecution) (kind : CaseKind) : List Store :=
  guest.instantiated ::
    if kind = .growthProbe then guest.growCalls.map (·.store) ++ [guest.grown] else []

/-- What the part before `run` leaves: a guest that differs from a fresh one by its growth
probe, and the host state `run` is entered with. -/
structure Program.Probed (program : Program) (around : Surroundings) (limit : Nat)
    (kind : CaseKind) (growUs : U128) (state state' : HostState) (guest : GuestExecution) :
    Prop where
  fresh : guest = { program.instantiate around with
    growOnly := guest.growOnly, grown := guest.grown }
  state_eq : state' =
    if kind = .growthProbe then runGrowthProbe guest state around.memory growUs else state
  pages : ∀ store ∈ guest.grown :: guest.storesBefore kind, ∃ n,
    around.memory.HasPages store n ∧ program.memory.minimum.toNat ≤ n ∧ n ≤ limit
  monotone : around.memory.Ascends (guest.storesBefore kind)
  le_grown : ∀ store ∈ guest.storesBefore kind,
    (around.memory.view store).bytes.length ≤ (around.memory.view guest.grown).bytes.length

theorem Program.probed_still (around : Surroundings) (hlimit : program.memory.minimum.toNat ≤ limit)
    (kind : CaseKind) (growUs : U128) (state : HostState) :
    program.Probed around limit kind growUs state
      (if kind = .growthProbe then
        runGrowthProbe (program.instantiate around) state around.memory growUs else state)
      (program.instantiate around) := by
  have hpages := program.initialMemory_pages around
  have hstores : ∀ store ∈ (program.instantiate around).storesBefore kind,
      store = (program.instantiate around).instantiated := by
    intro store hstore
    rw [GuestExecution.storesBefore] at hstore
    rcases List.mem_cons.1 hstore with he | hstore
    · exact he
    · split at hstore
      · exact List.mem_singleton.1 hstore
      · cases hstore
  refine ⟨rfl, rfl, ?_, ?_, ?_⟩
  · intro store hstore
    have he : store = (program.instantiate around).instantiated := by
      rcases List.mem_cons.1 hstore with he | hstore
      · exact he
      · exact hstores store hstore
    exact ⟨_, he ▸ hpages, Nat.le_refl _, hlimit⟩
  · apply List.pairwise_of_forall_mem_list
    intro store hstore store' hstore'
    rw [hstores store hstore, hstores store' hstore']
  · intro store hstore
    rw [hstores store hstore]
    rfl

theorem Program.probe_probed (hlimit : program.memory.minimum.toNat ≤ limit)
    {kind : CaseKind} {growUs : U128}
    (h : program.probe around limit fuel kind growUs state = some (guest, state', clock)) :
    program.Probed around limit kind growUs state state' guest := by
  have hpages := program.initialMemory_pages around
  rw [probe] at h
  by_cases hk : kind = .growthProbe
  case neg =>
    have hstill := program.probed_still around hlimit kind growUs state
    rw [if_neg hk] at h hstill
    cases h
    exact hstill
  subst hk
  rw [if_pos rfl] at h
  cases hg : program.growOnly with
  | none =>
    rw [hg] at h
    cases h
    exact program.probed_still around hlimit .growthProbe growUs state
  | some code =>
    rw [hg] at h
    obtain ⟨⟨result, inst⟩, hinvoke, he⟩ := Option.bind_eq_some_iff.1 h
    cases he
    have hlawful := invoke_lawful hpages hlimit hinvoke
    refine ⟨rfl, rfl, ?_, ?_, ?_⟩
    · intro store hstore
      rcases List.mem_cons.1 hstore with he | hstore
      · exact hlawful.pages store (he ▸ List.mem_append_right _ (.head _))
      · rcases List.mem_cons.1 hstore with he | hstore
        · exact ⟨_, he ▸ hpages, Nat.le_refl _, hlimit⟩
        · exact hlawful.pages store hstore
    · apply List.Pairwise.cons
      · intro store hstore
        obtain ⟨n, hn, hlower, -⟩ := hlawful.pages store hstore
        change (around.memory.view (program.instantiate around).instantiated).bytes.length ≤ _
        rw [hpages, hn]
        exact Nat.mul_le_mul_right 65536 hlower
      · exact hlawful.monotone
    · intro store hstore
      rcases List.mem_cons.1 hstore with he | hstore
      · obtain ⟨n, hn, hlower, -⟩ :=
          hlawful.pages inst.store (List.mem_append_right _ (.head _))
        change _ ≤ (around.memory.view inst.store).bytes.length
        rw [he, hn]
        exact Nat.le_trans (Nat.le_of_eq hpages) (Nat.mul_le_mul_right 65536 hlower)
      · rcases List.mem_append.1 hstore with hstore | hstore
        · exact (List.pairwise_append.1 hlawful.monotone).2.2 store hstore inst.store (.head _)
        · rw [List.mem_singleton.1 hstore]

/-- How an execution came about. -/
structure Program.Executed (program : Program) (around : Surroundings) (backend : Backend)
    (policy : Policy) (kind : CaseKind) (growUs : U128) (guest : GuestExecution)
    (state : HostState) (inst : Instance) : Prop where
  probed : program.Probed around ((makeStore backend policy).limit program.memory) kind growUs
    { HostState.new policy with memory := some around.memory } state
    { guest with run := ([], .error around.trapped), finished := guest.instantiated }
  invoked : ∃ fuel clock, program.invoke around ((makeStore backend policy).limit program.memory)
    fuel program.run program.locals ⟨state, guest.grown, [], clock⟩ = some (guest.run.2, inst)
  calls_eq : guest.run.1 = inst.calls
  finished_eq : guest.finished = inst.store

theorem Program.execution_executed
    (h : program.execution around backend policy kind growUs fuel = some guest) :
    ∃ state inst, program.Executed around backend policy kind growUs guest state inst := by
  obtain ⟨⟨guest₀, state, clock⟩, hprobe, h⟩ := Option.bind_eq_some_iff.1 h
  obtain ⟨⟨result, inst⟩, hinvoke, he⟩ := Option.bind_eq_some_iff.1 h
  cases he
  have hprobed := program.probe_probed (program.minimum_le_limit backend policy) hprobe
  have hfresh := hprobed.fresh
  refine ⟨state, inst, ?_, ⟨fuel, clock, hinvoke⟩, rfl, rfl⟩
  have he : { guest₀ with
      run := ([], Except.error around.trapped)
      finished := guest₀.instantiated } = guest₀ := by
    rw [hfresh]
    rfl
  exact he ▸ hprobed

omit [HostArch] in
theorem Program.linkable (program : Program) : program.module.Linkable := by
  intro i hi
  obtain ⟨j, -, rfl⟩ := List.mem_map.1 hi
  cases j <;> decide

omit [HostArch] in
theorem Program.memoryExport_module (program : Program) :
    program.module.memoryExport = some program.memory := by
  have himported : program.module.importedMemories = [] := by
    apply List.filterMap_eq_nil_iff.2
    intro i hi
    obtain ⟨j, -, rfl⟩ := List.mem_map.1 hi
    rfl
  change program.module.memories[0]? = _
  rw [Module.memories, himported]
  rfl

section
variable {backend : Backend} {policy : Policy} {kind : CaseKind} {growUs : U128}
  {guest : GuestExecution}

theorem Program.Executed.lawful
    (h : program.Executed around backend policy kind growUs guest state inst) :
    ∃ n, around.memory.HasPages guest.grown n ∧
      inst.Lawful around.memory n ((makeStore backend policy).limit program.memory) state := by
  obtain ⟨n, hn, -, hlimit⟩ := h.probed.pages _ (.head _)
  obtain ⟨fuel, clock, hinvoke⟩ := h.invoked
  exact ⟨n, hn, invoke_lawful hn hlimit hinvoke⟩

/-- An execution is one of the runs the memory limit is about. -/
theorem Program.Executed.runsIn
    (h : program.Executed around backend policy kind growUs guest state inst) :
    guest.RunsIn kind program.module (makeStore backend policy) program.memory
      around.memory := by
  obtain ⟨n, hn, hlawful⟩ := h.lawful
  obtain ⟨n', hn', hlower, -⟩ := h.probed.pages _ (.head _)
  have hfresh := h.probed.fresh
  have hstart : guest.start = [] := congrArg GuestExecution.start hfresh
  have hinst : guest.instantiate = .ok () := congrArg GuestExecution.instantiate hfresh
  have hmem : guest.memoryExport = .ok around.memory :=
    congrArg GuestExecution.memoryExport hfresh
  have hrun : guest.runExport = .ok () := congrArg GuestExecution.runExport hfresh
  have htimeline : guest.timeline kind = guest.storesBefore kind ++
      (inst.calls.map (·.store) ++ if guest.run.2.isOk then [inst.store] else []) := by
    rw [GuestExecution.timeline, hstart, hinst, hmem, hrun, h.calls_eq, h.finished_eq]
    rfl
  have hsublist : (inst.calls.map (·.store) ++
      if guest.run.2.isOk then [inst.store] else []).Sublist inst.stores := by
    apply List.Sublist.append (List.Sublist.refl _)
    split
    · exact List.Sublist.refl _
    · exact List.nil_sublist _
  refine ⟨program.linkable, program.memoryExport_module, ?_, ?_, ?_⟩
  · intro memory' he
    exact (Except.ok.inj (hmem.symm.trans he)).symm
  · intro store hstore
    rw [htimeline] at hstore
    rcases List.mem_append.1 hstore with hstore | hstore
    · exact h.probed.pages store (List.mem_cons_of_mem _ hstore)
    · obtain ⟨m, hm, hge, hle⟩ := hlawful.pages store (hsublist.subset hstore)
      have hsize : n = n' := Nat.eq_of_mul_eq_mul_right (by decide) (hn.symm.trans hn')
      exact ⟨m, hm, by omega, hle⟩
  · rw [htimeline]
    refine List.pairwise_append.2 ⟨h.probed.monotone, hlawful.monotone.sublist hsublist, ?_⟩
    intro before hbefore after hafter
    obtain ⟨m, hm, hge, -⟩ := hlawful.pages after (hsublist.subset hafter)
    have hle := h.probed.le_grown before hbefore
    change _ ≤ (around.memory.view guest.grown).bytes.length at hle
    rw [hm]
    rw [hn] at hle
    exact Nat.le_trans hle (Nat.mul_le_mul_right 65536 hge)

/-- The host state `run` is entered with: the new one, with what the growth probe records. -/
def GuestExecution.entryState (guest : GuestExecution) (policy : Policy) (memory : Memory)
    (kind : CaseKind) (growUs : U128) : HostState :=
  let state := { HostState.new policy with memory := some memory }
  if kind = .growthProbe then runGrowthProbe guest state memory growUs else state

theorem Program.Executed.state_eq
    (h : program.Executed around backend policy kind growUs guest state inst) :
    state = guest.entryState policy around.memory kind growUs := h.probed.state_eq

/-- The runner's replay of the calls arrives at the host state the guest itself met. -/
theorem Program.Executed.env_eq
    (h : program.Executed around backend policy kind growUs guest state inst)
    {clock : Timings} {case : GuestCase} (hkind : case.kind = kind) (hgrow : clock.growUs = growUs)
    (wasmBytes : Usize) :
    (runInstance guest clock case backend policy wasmBytes).env = some inst.state := by
  obtain ⟨n, -, hlawful⟩ := h.lawful
  have hfresh := h.probed.fresh
  have hstart : guest.start = [] := congrArg GuestExecution.start hfresh
  have hinst : guest.instantiate = .ok () := congrArg GuestExecution.instantiate hfresh
  have hmem : guest.memoryExport = .ok around.memory :=
    congrArg GuestExecution.memoryExport hfresh
  have hrun : guest.runExport = .ok () := congrArg GuestExecution.runExport hfresh
  have hfinal : Machine.final HostCall.step
      (if kind = .growthProbe then
        runGrowthProbe guest { HostState.new policy with memory := some around.memory }
          around.memory growUs
      else { HostState.new policy with memory := some around.memory }) inst.calls =
      inst.state := by
    have hreplayed := hlawful.replayed
    rwa [h.state_eq] at hreplayed
  rw [runInstance]
  simp only [hstart, hinst, hmem, hrun, h.calls_eq, hkind, hgrow, Machine.final, hfinal]
  cases guest.run.2 <;> rfl

/-- The recorded execution of a program is a run the checks on the memory are about, and the
runner that replays its calls ends in the host state the guest itself has left. -/
theorem execution_refines (clock : Timings) (case : GuestCase)
    (h : program.execution around backend policy case.kind clock.growUs fuel = some guest) :
    guest.RunsIn case.kind program.module (makeStore backend policy) program.memory
      around.memory ∧
    ∃ inst, (∃ fuel ticks, program.invoke around
        ((makeStore backend policy).limit program.memory) fuel program.run program.locals
        ⟨guest.entryState policy around.memory case.kind clock.growUs, guest.grown, [], ticks⟩ =
          some (guest.run.2, inst)) ∧
      guest.run.1 = inst.calls ∧ guest.finished = inst.store ∧
      ∀ wasmBytes, (runInstance guest clock case backend policy wasmBytes).env =
        some inst.state := by
  obtain ⟨state, inst, hexecuted⟩ := program.execution_executed h
  refine ⟨hexecuted.runsIn, inst, ?_, hexecuted.calls_eq, hexecuted.finished_eq, ?_⟩
  · rw [← hexecuted.state_eq]
    exact hexecuted.invoked
  · intro wasmBytes
    exact hexecuted.env_eq rfl rfl wasmBytes

end

end

def plainSurroundings : Surroundings where
  memory := ⟨0⟩
  store := fun _ => zeroPages 1 (by decide)
  elapsedUs := fun _ => 1
  allocates := fun _ => true
  dataPtr := fun _ _ => 0
  trapped := "unreachable"

end

def tickingProgram : Program where
  imports := [.tick]
  memory := ⟨1, none⟩
  run := [.plain (.call 0), .plain .drop, .plain (.call 0)]

theorem ticking_program_refines :
    letI := HostArch.x86_64
    let case := case "tick" "" Abi.ok .runExport "" "" "" ""
    ∃ guest, ∃ inst : Instance,
      tickingProgram.execution plainSurroundings .cranelift .default .runExport 1 10 =
        some guest ∧
      guest.RunsIn .runExport tickingProgram.module (makeStore .cranelift .default)
        tickingProgram.memory ⟨0⟩ ∧
      guest.run.1 = inst.calls ∧ inst.calls.map (·.call) = [.tick, .tick] ∧
      ∀ wasmBytes, (runInstance guest ⟨1, 1, 1, 1, 1⟩ case .cranelift .default wasmBytes).env =
        some inst.state := by
  let _ := HostArch.x86_64
  have hcalls : (tickingProgram.execution plainSurroundings .cranelift .default .runExport 1
      10).map (fun guest => guest.run.1.map (·.call)) = some [.tick, .tick] := rfl
  obtain ⟨guest, hrun, hticks⟩ := Option.map_eq_some_iff.1 hcalls
  obtain ⟨hruns, inst, -, hrecorded, -, henv⟩ := execution_refines ⟨1, 1, 1, 1, 1⟩
    (case "tick" "" Abi.ok .runExport "" "" "" "") hrun
  exact ⟨guest, inst, hrun, hruns, hrecorded, hrecorded ▸ hticks, henv⟩

end WasmerSectest
