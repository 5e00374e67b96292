import WasmerSectest.FailClosed
import WasmerSectest.RangeGates

namespace WasmerSectest
set_option autoImplicit true

def Module.ImportsTick (module : Module) : Prop :=
  ∃ i ∈ module.imports, i.type.isFunction = true ∧ i.module = "host" ∧ i.name = "tick"

def Module.ExposedWithin (module : Module) (policy : Policy) : Prop :=
  ∀ type, type ∈ module.importedMemories ∨ type ∈ module.exportedMemories →
    type.minimum ≤ policy.maxMemoryPages

/-- The memories of a module that it neither imports nor exports. -/
def Module.hiddenMemories (module : Module) : List MemoryType :=
  (module.definedMemories.zipIdx module.importedMemories.length).filterMap fun (type, index) =>
    if module.exports.any (·.target = .memory index) then none else some type

/-- The gates of an audit event tell the truth about the module. -/
structure AuditGatesTrue (module : Module) (policy : Policy) (gates : List Gate) : Prop where
  memory : Gate.pass "module.memory_min_pages" ∈ gates → module.ExposedWithin policy
  tick : Gate.fail "module.tick_import" ∈ gates → ¬module.ImportsTick

/-- What the audit can answer, with what it found out. -/
inductive AuditAnswer (module : Module) (policy : Policy) : Except AuditDenial Unit → Prop where
  | largeMemory (denial : AuditDenial) (hm : ¬module.ExposedWithin policy)
    (hg : denial.gates = [.fail "module.memory_min_pages"]) :
    AuditAnswer module policy (.error denial)
  | noTick (denial : AuditDenial) (hm : module.ExposedWithin policy)
    (hr : policy.requireTickImport = true) (ht : ¬module.ImportsTick)
    (hg : denial.gates = [.pass "module.memory_min_pages", .fail "module.tick_import"]) :
    AuditAnswer module policy (.error denial)
  | admitted (hm : module.ExposedWithin policy)
    (ht : policy.requireTickImport = true → module.ImportsTick) :
    AuditAnswer module policy (.ok ())

/-- The instance is created right after the state that its imports write to. -/
def Run.Instantiates [HostArch] (run : Run) : Prop := run.env.isSome = true

section
variable {module : Module} {policy : Policy}

theorem find_large_none {types : List MemoryType} :
    types.find? (·.minimum > policy.maxMemoryPages) = none ↔
      ∀ type ∈ types, type.minimum ≤ policy.maxMemoryPages := by
  simp [List.find?_eq_none]

theorem find_large_some {types : List MemoryType} {type : MemoryType}
    (h : types.find? (·.minimum > policy.maxMemoryPages) = some type) :
    type ∈ types ∧ ¬type.minimum ≤ policy.maxMemoryPages := by
  refine ⟨List.mem_of_find?_eq_some h, ?_⟩
  simpa using List.find?_some h

theorem importsTick_iff :
    module.imports.any (fun i => i.type.isFunction && i.module == "host" && i.name == "tick") =
      true ↔ module.ImportsTick := by
  simp [Module.ImportsTick, and_assoc]

theorem auditModule_answer (module : Module) (policy : Policy) :
    AuditAnswer module policy (auditModule module policy) := by
  rw [auditModule]
  cases himported : module.importedMemories.find? (·.minimum > policy.maxMemoryPages) with
  | some type =>
    obtain ⟨hmem, hlarge⟩ := find_large_some himported
    exact .largeMemory _ (fun h => hlarge (h type (.inl hmem))) rfl
  | none =>
    cases hexported : module.exportedMemories.find? (·.minimum > policy.maxMemoryPages) with
    | some type =>
      obtain ⟨hmem, hlarge⟩ := find_large_some hexported
      exact .largeMemory _ (fun h => hlarge (h type (.inr hmem))) rfl
    | none =>
      have hwithin : module.ExposedWithin policy := by
        rintro type (hmem | hmem)
        · exact find_large_none.1 himported type hmem
        · exact find_large_none.1 hexported type hmem
      dsimp only
      split
      · next hrefused =>
        rw [Bool.and_eq_true, Bool.not_eq_true', ← Bool.not_eq_true, importsTick_iff] at hrefused
        exact .noTick _ hwithin hrefused.1 hrefused.2 rfl
      · next hadmitted =>
        rw [Bool.and_eq_true, Bool.not_eq_true', ← Bool.not_eq_true, importsTick_iff] at hadmitted
        exact .admitted hwithin fun hr => not_not.1 fun ht => hadmitted ⟨hr, ht⟩

theorem auditModule_ok_iff : auditModule module policy = .ok () ↔
    module.ExposedWithin policy ∧
      (policy.requireTickImport = true → module.ImportsTick) := by
  have hanswer := auditModule_answer module policy
  generalize auditModule module policy = answer at hanswer
  cases hanswer with
  | largeMemory denial hm => exact iff_of_false (by simp) fun h => hm h.1
  | noTick denial hm hr ht => exact iff_of_false (by simp) fun h => ht (h.2 hr)
  | admitted hm ht => exact iff_of_true rfl ⟨hm, ht⟩

theorem AuditAnswer.gates_true {denial : AuditDenial}
    (h : AuditAnswer module policy (.error denial)) :
    AuditGatesTrue module policy denial.gates := by
  cases h with
  | largeMemory _ hm hg =>
    rw [hg]
    apply AuditGatesTrue.mk <;> simp
  | noTick _ hm hr ht hg => exact ⟨fun _ => hm, fun _ => ht⟩

theorem defined_cases {type : MemoryType} (h : type ∈ module.definedMemories) :
    type ∈ module.exportedMemories ∨ type ∈ module.hiddenMemories := by
  obtain ⟨i, hi, rfl⟩ := List.mem_iff_getElem.1 h
  by_cases hexport : module.exports.any
      (·.target = .memory (module.importedMemories.length + i)) = true
  · obtain ⟨e, he, htarget⟩ := List.any_eq_true.1 hexport
    apply Or.inl
    rw [Module.exportedMemories, List.mem_filterMap]
    refine ⟨e, he, ?_⟩
    rw [of_decide_eq_true htarget, Module.memories]
    simp [hi]
  · apply Or.inr
    rw [Module.hiddenMemories, List.mem_filterMap]
    refine ⟨(module.definedMemories[i], module.importedMemories.length + i), ?_, if_neg hexport⟩
    exact List.mk_add_mem_zipIdx_iff_getElem?.2 (List.getElem?_eq_getElem hi)

theorem memories_within_iff :
    (∀ type ∈ module.memories, type.minimum ≤ policy.maxMemoryPages) ↔
      module.ExposedWithin policy ∧
        ∀ type ∈ module.hiddenMemories, type.minimum ≤ policy.maxMemoryPages := by
  apply Iff.intro
  · intro h
    apply And.intro
    · rintro type (himported | hexported)
      · exact h type (List.mem_append_left _ himported)
      · obtain ⟨e, -, htype⟩ := List.mem_filterMap.1 hexported
        cases htarget : e.target with
        | memory index =>
          rw [htarget] at htype
          exact h type (List.mem_of_getElem? htype)
        | other =>
          rw [htarget] at htype
          cases htype
    · intro type hhidden
      obtain ⟨⟨type', index⟩, hmem, hsome⟩ := List.mem_filterMap.1 hhidden
      have hdefined := List.fst_mem_of_mem_zipIdx hmem
      dsimp only at hsome
      split at hsome
      · cases hsome
      · obtain rfl := Option.some.inj hsome
        exact h type' (List.mem_append_right _ hdefined)
  · rintro ⟨hexposed, hhidden⟩ type hmem
    rcases List.mem_append.1 hmem with himported | hdefined
    · exact hexposed type (.inl himported)
    · rcases defined_cases hdefined with hexported | hmem
      · exact hexposed type (.inr hexported)
      · exact hhidden type hmem

end

def Telemetry.Unaudited (t : Telemetry) : Prop :=
  ∀ event ∈ t.events, event.import ≠ "host.audit.module"

theorem Telemetry.Unaudited.push {t : Telemetry} {event : ImportEvent} (h : t.Unaudited)
    (hevent : event.import ≠ "host.audit.module") : (t.push event).Unaudited := by
  intro e he
  rcases List.mem_append.1 he with hold | hnew
  · exact h e hold
  · obtain rfl := List.mem_singleton.1 hnew
    exact hevent

theorem ImportEvent.Answers.not_audit {event : ImportEvent} {call : GuestCall} {code : Int32}
    (h : event.Answers call code) : event.import ≠ "host.audit.module" := by
  rw [h.import_eq]
  cases call <;> simp [GuestCall.import]

theorem hostTick_unaudited {state : HostState} (elapsedUs : U128)
    (h : state.telemetry.Unaudited) : (hostTick state elapsedUs).2.telemetry.Unaudited := by
  by_cases hfuel : state.fuelRemaining = 0
  · obtain ⟨event, hanswers, heq⟩ := hostTick_exhausted state elapsedUs hfuel
    rw [heq]
    exact h.push hanswers.not_audit
  · cases hrecorded : shouldRecordTick state.countTick.telemetry.ticksSeen Abi.ok with
    | true =>
      obtain ⟨event, hanswers, heq⟩ := hostTick_recorded state elapsedUs hfuel hrecorded
      rw [heq]
      exact h.push hanswers.not_audit
    | false =>
      rw [hostTick_silent state elapsedUs hfuel hrecorded]
      exact h

section
variable [HostArch]

theorem HostCall.step_unaudited {state : HostState} (c : HostCall)
    (h : state.telemetry.Unaudited) : (c.step state).2.telemetry.Unaudited := by
  by_cases htick : c.call = .tick
  · have hstep : (c.step state).2 = (hostTick state c.elapsedUs).2 := by
      rw [HostCall.step, htick]
      rfl
    rw [hstep]
    exact hostTick_unaudited c.elapsedUs h
  · obtain ⟨event, hanswers, heq⟩ := GuestCall.perform_record htick state c.store c.elapsedUs
    have hstep : (c.step state).2 = state.record event := heq
    rw [hstep]
    exact h.push hanswers.not_audit

theorem final_unaudited {state : HostState} (calls : List HostCall)
    (h : state.telemetry.Unaudited) :
    (Machine.final HostCall.step state calls).telemetry.Unaudited :=
  Machine.Reachable.invariant HostCall.step (I := fun state => state.telemetry.Unaudited)
    ⟨calls, rfl⟩ h fun _ c => c.step_unaudited

theorem runGrowthProbe_unaudited {state : HostState} (guest : GuestExecution)
    (memory : Memory) (growUs : U128) (h : state.telemetry.Unaudited) :
    (runGrowthProbe guest state memory growUs).telemetry.Unaudited := by
  rw [runGrowthProbe]
  cases guest.growOnly with
  | none => exact h.push (by simp)
  | some grow => exact (final_unaudited grow.1 h).push (by simp)

omit [HostArch] in
theorem new_unaudited (policy : Policy) : (HostState.new policy).telemetry.Unaudited := by
  intro event h
  cases h

section
variable (guest : GuestExecution) (clock : Timings) (case : GuestCase) (backend : Backend)
  (policy : Policy)

theorem runInstance_unaudited (wasmBytes : Usize) :
    (runInstance guest clock case backend policy wasmBytes).report.telemetry.Unaudited := by
  have herror (err : String) : (errorReport case backend err).telemetry.Unaudited := by
    intro event h
    cases h
  have hstart := final_unaudited guest.start (new_unaudited policy)
  have hends := runInstance_ends guest clock case backend policy wasmBytes
  generalize runInstance guest clock case backend policy wasmBytes = run at hends ⊢
  cases hends with
  | failed => exact herror _
  | completed memory =>
    apply final_unaudited
    split
    · exact runGrowthProbe_unaudited guest memory clock.growUs hstart
    · exact hstart

theorem runInstance_instantiates (wasmBytes : Usize) :
    (runInstance guest clock case backend policy wasmBytes).Instantiates := by
  have hends := runInstance_ends guest clock case backend policy wasmBytes
  generalize runInstance guest clock case backend policy wasmBytes = run at hends ⊢
  cases hends with
  | failed => rfl
  | completed => rfl

/-- The run gets to the instance exactly if neither the shortcut nor the audit stops it. -/
theorem runCaseInner_instantiates_iff {engine : Engine} {executeStaticFixture : Bool}
    {module : Module} (hmodule : Compiles engine case backend module) :
    (runCaseInner engine guest clock case backend policy executeStaticFixture).Instantiates ↔
      ¬(case.kind = .staticAudit ∧ executeStaticFixture = false) ∧
        auditModule module policy = .ok () := by
  have hfixture : (case.kind = .staticAudit ∧ executeStaticFixture = false) ↔
      case.kind = .staticAudit ∧ !executeStaticFixture := by
    rw [Bool.not_eq_true']
  rw [hfixture]
  apply Iff.intro
  · intro h
    by_contra hnot
    have hstarted : ¬Started engine case backend policy executeStaticFixture := by
      rintro ⟨wasm, module', hwasm, hmodule', hstatic, haudit⟩
      obtain rfl := hmodule.unique case backend ⟨wasm, hwasm, hmodule'⟩
      exact hnot ⟨hstatic, haudit⟩
    rw [Run.Instantiates, runCaseInner_not_started guest clock case backend policy hstarted] at h
    cases h
  · rintro ⟨hstatic, haudit⟩
    obtain ⟨wasm, hwasm, hmodule⟩ := hmodule
    obtain ⟨wasmBytes, heq⟩ := runCaseInner_started guest clock case backend policy
      ⟨wasm, module, hwasm, hmodule, hstatic, haudit⟩
    rw [heq]
    exact runInstance_instantiates guest clock case backend policy wasmBytes

/-- The gates in the audit's name are true except where the shortcut for static fixtures gives
its fixed gates to a module they do not fit. -/
theorem audit_gates_true_iff (engine : Engine) (module : Module)
    (hmodule : Compiles engine case backend module) :
    (∀ event ∈ (runCase engine guest clock case backend policy).telemetry.events,
        event.import = "host.audit.module" → AuditGatesTrue module policy event.gates) ↔
      (case.kind = .staticAudit → module.ExposedWithin policy ∧ ¬module.ImportsTick) := by
  obtain ⟨wasm, hwasm, hcompiled⟩ := hmodule
  rw [runCase, runCaseInner]
  by_cases hstatic : case.kind = .staticAudit
  · have hshortcut : case.kind = .staticAudit ∧ (!false) = true := ⟨hstatic, rfl⟩
    simp only [hwasm, hcompiled, if_pos hshortcut]
    apply Iff.intro
    · intro h _
      have htrue := h _ List.mem_cons_self rfl
      exact ⟨htrue.memory (by simp), htrue.tick (by simp)⟩
    · intro h event hevent _
      obtain rfl := List.mem_singleton.1 hevent
      exact ⟨fun _ => (h hstatic).1, fun _ => (h hstatic).2⟩
  · have hnot : ¬(case.kind = .staticAudit ∧ (!false) = true) := fun h => hstatic h.1
    apply iff_of_true _ fun h => absurd h hstatic
    simp only [hwasm, hcompiled, if_neg hnot]
    have hanswer := auditModule_answer module policy
    cases haudit : auditModule module policy with
    | error denial =>
      intro event hevent _
      rw [haudit] at hanswer
      obtain rfl := List.mem_singleton.1 hevent
      exact hanswer.gates_true
    | ok _ =>
      intro event hevent hname
      exact absurd hname (runInstance_unaudited guest clock case backend policy _ event hevent)

/-- The audit covers the memories of every module that is instantiated, but for those that a
module keeps to itself. -/
theorem audit_covers_memories_iff (engine : Engine) (executeStaticFixture : Bool)
    (module : Module) (hmodule : Compiles engine case backend module) :
    ((runCaseInner engine guest clock case backend policy executeStaticFixture).Instantiates →
        (∀ type ∈ module.memories, type.minimum ≤ policy.maxMemoryPages) ∧
          (policy.requireTickImport = true → module.ImportsTick)) ↔
      (¬(case.kind = .staticAudit ∧ executeStaticFixture = false) →
        module.ExposedWithin policy → (policy.requireTickImport = true → module.ImportsTick) →
          ∀ type ∈ module.hiddenMemories, type.minimum ≤ policy.maxMemoryPages) := by
  have hinstantiates :
      (runCaseInner engine guest clock case backend policy executeStaticFixture).Instantiates ↔
        ¬(case.kind = .staticAudit ∧ executeStaticFixture = false) ∧
          module.ExposedWithin policy ∧
            (policy.requireTickImport = true → module.ImportsTick) := by
    rw [runCaseInner_instantiates_iff guest clock case backend policy hmodule, auditModule_ok_iff]
  rw [hinstantiates, memories_within_iff]
  tauto

end

end

theorem metered_compiles (kind : CaseKind) (backend : Backend) :
    Compiles meteredEngine (okCase kind) backend meteredModule :=
  ⟨[0x00, 0x61, 0x73, 0x6d], rfl, rfl⟩

theorem metered_imports_tick : meteredModule.ImportsTick :=
  ⟨⟨"host", "tick", .function (.host 0)⟩, List.mem_cons_self, rfl, rfl, rfl⟩

theorem refused_memory_gates_true :
    letI := HostArch.x86_64
    let policy := { Policy.default with maxMemoryPages := 0 }
    let report := runCase meteredEngine trappingGuest ⟨1, 1, 1, 1, 1⟩ (okCase .runExport)
      .cranelift policy
    report.actualCode = some Abi.errTooLarge ∧
      ∀ event ∈ report.telemetry.events, event.import = "host.audit.module" →
        AuditGatesTrue meteredModule policy event.gates := by
  let _ := HostArch.x86_64
  refine ⟨rfl, ?_⟩
  apply (audit_gates_true_iff trappingGuest ⟨1, 1, 1, 1, 1⟩ (okCase .runExport) .cranelift
    { Policy.default with maxMemoryPages := 0 } meteredEngine meteredModule
    (metered_compiles _ _)).2
  intro h
  cases h

theorem static_fixture_gates_false :
    letI := HostArch.x86_64
    ¬∀ event ∈ (runCase meteredEngine trappingGuest ⟨1, 1, 1, 1, 1⟩ (okCase .staticAudit)
      .cranelift .default).telemetry.events,
      event.import = "host.audit.module" →
        AuditGatesTrue meteredModule .default event.gates := by
  let _ := HostArch.x86_64
  intro h
  have htrue := h _ List.mem_cons_self rfl
  exact htrue.tick (by simp) metered_imports_tick

def hidingModule (hidden : MemoryType) : Module where
  imports := [⟨"host", "tick", .function (.host 0)⟩]
  definedMemories := [hidden]
  exports := [⟨"run", .other⟩]

def hidingEngine (hidden : MemoryType) : Engine where
  parseStr := fun _ => .ok [0x00, 0x61, 0x73, 0x6d]
  compile := fun _ _ => .ok (hidingModule hidden)

def hidingGuest [HostArch] : GuestExecution :=
  { trappingGuest with memoryExport := .error "Missing export memory" }

theorem hidden_compiles (hidden : MemoryType) (kind : CaseKind) (backend : Backend) :
    Compiles (hidingEngine hidden) (okCase kind) backend (hidingModule hidden) :=
  ⟨[0x00, 0x61, 0x73, 0x6d], rfl, rfl⟩

theorem exported_memory_covered :
    letI := HostArch.x86_64
    let run := runCaseInner (hidingEngine ⟨16, none⟩) hidingGuest ⟨1, 1, 1, 1, 1⟩
      (okCase .runExport) .cranelift .default false
    let module := hidingModule ⟨16, none⟩
    module.hiddenMemories = [⟨16, none⟩] ∧ run.Instantiates ∧ (run.Instantiates →
      (∀ type ∈ module.memories, type.minimum ≤ Policy.default.maxMemoryPages) ∧
        (Policy.default.requireTickImport = true → module.ImportsTick)) := by
  let _ := HostArch.x86_64
  have hhidden : (hidingModule ⟨16, none⟩).hiddenMemories = [⟨16, none⟩] := by decide
  refine ⟨hhidden, rfl, ?_⟩
  apply (audit_covers_memories_iff hidingGuest ⟨1, 1, 1, 1, 1⟩ (okCase .runExport) .cranelift
    .default (hidingEngine ⟨16, none⟩) false (hidingModule ⟨16, none⟩)
    (hidden_compiles _ _ _)).2
  intro _ _ _ type h
  rw [hhidden] at h
  obtain rfl := List.mem_singleton.1 h
  decide

theorem hidden_memory_instantiated :
    letI := HostArch.x86_64
    ¬((runCaseInner (hidingEngine ⟨17, none⟩) hidingGuest ⟨1, 1, 1, 1, 1⟩ (okCase .runExport)
        .cranelift .default false).Instantiates →
      (∀ type ∈ (hidingModule ⟨17, none⟩).memories,
        type.minimum ≤ Policy.default.maxMemoryPages) ∧
      (Policy.default.requireTickImport = true → (hidingModule ⟨17, none⟩).ImportsTick)) := by
  let _ := HostArch.x86_64
  intro h
  have hwithin := (h rfl).1 ⟨17, none⟩ List.mem_cons_self
  exact absurd hwithin (by decide)

end WasmerSectest
