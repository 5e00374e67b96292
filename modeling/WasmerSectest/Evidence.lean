import WasmerSectest.FuelContract
import WasmerSectest.RunCase

namespace WasmerSectest
set_option autoImplicit true

/-- The runner itself logs the growth probe; every other event is a decision on a guest call. -/
def ImportEvent.decidesGuestCall (event : ImportEvent) : Bool :=
  event.import != "host.runner.grow_probe"

def Telemetry.decisions (t : Telemetry) : List ImportEvent :=
  t.events.filter ImportEvent.decidesGuestCall

/-- The report of a run carries every decision the host imports recorded, in order. -/
def EvidenceKept [HostArch] (run : Run) : Prop :=
  ∀ state, run.env = some state →
    state.telemetry.decisions.Sublist run.report.telemetry.events ∧
      run.report.telemetry.ticksSeen = state.telemetry.ticksSeen

def Telemetry.Silent (t : Telemetry) : Prop := t.decisions = [] ∧ t.ticksSeen = 0

theorem ImportEvent.Answers.decides (h : ImportEvent.Answers event call code) :
    event.decidesGuestCall = true := by
  rw [ImportEvent.decidesGuestCall, h.import_eq]
  cases call <;> rfl

theorem Telemetry.decisions_push (t : Telemetry) (h : event.decidesGuestCall = true) :
    (t.push event).decisions = t.decisions ++ [event] := by
  rw [decisions, push_events, List.filter_append, List.filter_singleton, h]
  rfl

theorem HostState.countTick_ticksSeen (state : HostState) :
    state.countTick.telemetry.ticksSeen ≠ 0 := by
  intro h
  have hs := toNat_saturatingAdd state.telemetry.ticksSeen 1
  change state.countTick.telemetry.ticksSeen.toNat = min (_ + 1) _ at hs
  rw [h] at hs
  change 0 = _ at hs
  omega

theorem hostTick_ticksSeen (state : HostState) (elapsedUs : U128) :
    (hostTick state elapsedUs).2.telemetry.ticksSeen =
      state.countTick.telemetry.ticksSeen := by
  by_cases hz : state.fuelRemaining = 0
  · obtain ⟨event, -, he⟩ := hostTick_exhausted state elapsedUs hz
    rw [he]
    rfl
  cases hr : shouldRecordTick state.countTick.telemetry.ticksSeen Abi.ok with
  | true =>
    obtain ⟨event, -, he⟩ := hostTick_recorded state elapsedUs hz hr
    rw [he]
    rfl
  | false =>
    rw [hostTick_silent state elapsedUs hz hr]
    rfl

section
variable [HostArch]

theorem HostCall.step_not_silent (state : HostState) (c : HostCall) :
    ¬(c.step state).2.telemetry.Silent := by
  intro ⟨hd, ht⟩
  by_cases hc : c.call = .tick
  · have hs : (c.step state).2 = (hostTick state c.elapsedUs).2 := by
      rw [HostCall.step, hc]
      rfl
    rw [hs, hostTick_ticksSeen] at ht
    exact state.countTick_ticksSeen ht
  · obtain ⟨event, ha, he⟩ := GuestCall.perform_record hc state c.store c.elapsedUs
    have hs : (c.step state).2 = state.record event := he
    rw [hs] at hd
    rw [HostState.record, Telemetry.decisions_push _ ha.decides] at hd
    exact absurd hd (List.append_ne_nil_of_right_ne_nil _ (List.cons_ne_nil _ _))

theorem final_silent_iff (state : HostState) (calls : List HostCall) :
    (Machine.final HostCall.step state calls).telemetry.Silent ↔
      state.telemetry.Silent ∧ calls = [] := by
  cases calls using List.reverseRecOn with
  | nil => exact (and_iff_left rfl).symm
  | append_singleton calls c =>
    rw [Machine.final_concat]
    apply iff_of_false (HostCall.step_not_silent _ c)
    intro h
    exact List.append_ne_nil_of_right_ne_nil _ (List.cons_ne_nil _ _) h.2

def GuestExecution.growCalls (guest : GuestExecution) : List HostCall :=
  match guest.growOnly with
  | some (calls, _) => calls
  | none => []

theorem runGrowthProbe_silent_iff (guest : GuestExecution) (state : HostState)
    (memory : Memory) (growUs : U128) :
    (runGrowthProbe guest state memory growUs).telemetry.Silent ↔
      state.telemetry.Silent ∧ guest.growCalls = [] := by
  have hprobe (s : HostState) (e : ImportEvent) (he : e.decidesGuestCall = false) :
      (s.record e).telemetry.Silent ↔ s.telemetry.Silent := by
    have hd : (s.record e).telemetry.decisions = s.telemetry.decisions := by
      rw [HostState.record, Telemetry.decisions, Telemetry.push_events, List.filter_append,
        List.filter_singleton, he]
      exact List.append_nil _
    rw [Telemetry.Silent, hd]
    rfl
  rw [runGrowthProbe, GuestExecution.growCalls]
  cases guest.growOnly with
  | none =>
    rw [hprobe _ _ rfl]
    exact (and_iff_left rfl).symm
  | some grow =>
    rw [hprobe _ _ rfl]
    exact final_silent_iff state grow.1

def GuestExecution.callsMade (guest : GuestExecution) (kind : CaseKind) : List HostCall :=
  guest.start ++
    if guest.instantiate.isOk && guest.memoryExport.isOk then
      (if kind = .growthProbe then guest.growCalls else []) ++
        if guest.runExport.isOk then guest.run.1 else []
    else []

/-- No exit is taken before `run` returns. -/
def GuestExecution.Completes (guest : GuestExecution) : Prop :=
  guest.instantiate.isOk ∧ guest.memoryExport.isOk ∧ guest.runExport.isOk ∧ guest.run.2.isOk

/-- The case passes every check that comes before its instance is created. -/
def Started (engine : Engine) (case : GuestCase) (backend : Backend) (policy : Policy)
    (executeStaticFixture : Bool) : Prop :=
  ∃ wasm module, case.source.wasmBytes engine.parseStr = .ok wasm ∧
    engine.compile backend wasm = .ok module ∧
    ¬(case.kind = .staticAudit ∧ !executeStaticFixture) ∧
    auditModule module policy = .ok ()

theorem evidenceKept_error_iff {state : HostState} {case : GuestCase} {backend : Backend}
    {hostError : String} :
    EvidenceKept ⟨some state, .error (errorReport case backend hostError)⟩ ↔
      state.telemetry.Silent := by
  apply Iff.intro
  · intro h
    obtain ⟨hs, ht⟩ := h state rfl
    exact ⟨List.sublist_nil.1 hs, ht.symm⟩
  · intro ⟨hd, ht⟩ s hs
    obtain rfl := Option.some.inj hs
    rw [hd, ht]
    exact ⟨List.nil_sublist _, rfl⟩

theorem evidenceKept_ok {state : HostState} {report : CaseReport}
    (h : report.telemetry = state.telemetry) : EvidenceKept ⟨some state, .ok report⟩ := by
  intro s hs
  obtain rfl := Option.some.inj hs
  change _ ∧ report.telemetry.ticksSeen = _
  rw [← h]
  exact ⟨List.filter_sublist, rfl⟩

theorem probe_silent_iff (guest : GuestExecution) (kind : CaseKind) (state : HostState)
    (memory : Memory) (growUs : U128) :
    (if kind = .growthProbe then runGrowthProbe guest state memory growUs
      else state).telemetry.Silent ↔
      state.telemetry.Silent ∧ (if kind = .growthProbe then guest.growCalls else []) = [] := by
  by_cases hk : kind = .growthProbe
  · rw [if_pos hk, if_pos hk]
    exact runGrowthProbe_silent_iff guest state memory growUs
  · rw [if_neg hk, if_neg hk]
    exact (and_iff_left rfl).symm

end

@[simp] theorem isOk_ok (a : α) : (Except.ok a : Except ε α).isOk = true := rfl

@[simp] theorem isOk_error (e : ε) : (Except.error e : Except ε α).isOk = false := rfl

theorem new_silent (policy : Policy) : (HostState.new policy).telemetry.Silent := ⟨rfl, rfl⟩

section
variable [HostArch] (guest : GuestExecution) (clock : Timings) (case : GuestCase)
  (backend : Backend) (policy : Policy) (wasmBytes : Usize)

def GuestExecution.lastState (memory : Memory) : HostState :=
  let state :=
    { Machine.final HostCall.step (.new policy) guest.start with memory := some memory }
  Machine.final HostCall.step
    (if case.kind = .growthProbe then runGrowthProbe guest state memory clock.growUs else state)
    guest.run.1

/-- The two ways an instance can end: one of its parts fails, or `run` returns a code. -/
inductive InstanceEnd : Run → Prop where
  | failed (state : HostState) (hostError : String) (hfails : ¬guest.Completes) :
    InstanceEnd ⟨some state, .error (errorReport case backend hostError)⟩
  | completed (memory : Memory) (code : Int32) (memoryBefore memoryAfter : MemorySnapshot)
    (hcompletes : guest.Completes) (hcode : guest.run.2 = .ok code) :
    InstanceEnd ⟨some (guest.lastState clock case policy memory), .ok { case.report backend with
      actualCode := some code
      compileUs := clock.compileUs
      instantiateUs := clock.instantiateUs
      runUs := clock.runUs
      wasmBytes, memoryBefore, memoryAfter
      telemetry := (guest.lastState clock case policy memory).telemetry }⟩

theorem runInstance_ends :
    InstanceEnd guest clock case backend policy wasmBytes
      (runInstance guest clock case backend policy wasmBytes) := by
  rw [runInstance]
  cases hinstantiate : guest.instantiate with
  | error err =>
    refine .failed _ _ ?_
    rw [GuestExecution.Completes, hinstantiate]
    exact fun h => Bool.false_ne_true h.1
  | ok _ =>
    cases hmemory : guest.memoryExport with
    | error err =>
      refine .failed _ _ ?_
      rw [GuestExecution.Completes, hmemory]
      exact fun h => Bool.false_ne_true h.2.1
    | ok memory =>
      cases hexport : guest.runExport with
      | error err =>
        refine .failed _ _ ?_
        rw [GuestExecution.Completes, hexport]
        exact fun h => Bool.false_ne_true h.2.2.1
      | ok _ =>
        cases hrun : guest.run.2 with
        | error err =>
          refine .failed _ _ ?_
          rw [GuestExecution.Completes, hrun]
          exact fun h => Bool.false_ne_true h.2.2.2
        | ok code =>
          refine .completed memory code _ _ ?_ hrun
          rw [GuestExecution.Completes, hinstantiate, hmemory, hexport, hrun]
          exact ⟨rfl, rfl, rfl, rfl⟩

theorem runInstance_kept_iff :
    EvidenceKept (runInstance guest clock case backend policy wasmBytes) ↔
      guest.Completes ∨ guest.callsMade case.kind = [] := by
  have hstart : (Machine.final HostCall.step (.new policy) guest.start).telemetry.Silent ↔
      guest.start = [] := by
    rw [final_silent_iff]
    exact and_iff_right (new_silent policy)
  rw [runInstance, GuestExecution.Completes, GuestExecution.callsMade]
  cases guest.instantiate with
  | error err => simp [evidenceKept_error_iff, hstart]
  | ok _ =>
    cases guest.memoryExport with
    | error err => simp [evidenceKept_error_iff, hstart]
    | ok memory =>
      cases guest.runExport with
      | error err => simp [evidenceKept_error_iff, probe_silent_iff, hstart]
      | ok _ =>
        obtain ⟨calls, result⟩ := guest.run
        cases result with
        | error err =>
          simp [evidenceKept_error_iff, final_silent_iff, probe_silent_iff, hstart, and_assoc]
        | ok code => exact iff_of_true (evidenceKept_ok rfl) (.inl ⟨rfl, rfl, rfl, rfl⟩)

theorem runCaseInner_started {engine : Engine} {executeStaticFixture : Bool}
    (h : Started engine case backend policy executeStaticFixture) :
    ∃ wasmBytes, runCaseInner engine guest clock case backend policy executeStaticFixture =
      runInstance guest clock case backend policy wasmBytes := by
  obtain ⟨wasm, module, hw, hm, hs, ha⟩ := h
  refine ⟨BitVec.ofNat _ wasm.length, ?_⟩
  simp only [runCaseInner, hw, hm, if_neg hs, ha]

theorem runCaseInner_not_started {engine : Engine} {executeStaticFixture : Bool}
    (h : ¬Started engine case backend policy executeStaticFixture) :
    (runCaseInner engine guest clock case backend policy executeStaticFixture).env = none := by
  rw [runCaseInner]
  cases hw : case.source.wasmBytes engine.parseStr with
  | error err => rfl
  | ok wasm =>
    cases hm : engine.compile backend wasm with
    | error err => simp only [hm]
    | ok module =>
      by_cases hs : case.kind = .staticAudit ∧ !executeStaticFixture
      · simp only [hm, if_pos hs]
      · cases ha : auditModule module policy with
        | error denial => simp only [hm, if_neg hs, ha]
        | ok _ => exact absurd ⟨wasm, module, hw, hm, hs, ha⟩ h

/-- A run keeps the evidence of its import calls iff none of its early exits loses any. -/
theorem evidence_kept_iff (engine : Engine) (executeStaticFixture : Bool) :
    EvidenceKept (runCaseInner engine guest clock case backend policy executeStaticFixture) ↔
      ¬Started engine case backend policy executeStaticFixture ∨ guest.Completes ∨
        guest.callsMade case.kind = [] := by
  by_cases h : Started engine case backend policy executeStaticFixture
  · obtain ⟨wasmBytes, he⟩ := runCaseInner_started guest clock case backend policy h
    rw [he, runInstance_kept_iff]
    exact ⟨.inr, fun h' => h'.resolve_left (not_not_intro h)⟩
  · have hn := runCaseInner_not_started guest clock case backend policy h
    apply iff_of_true _ (.inl h)
    intro state hs
    rw [hn] at hs
    cases hs

end

def meteredModule : Module where
  imports := [⟨"host", "tick", .function (.host 0)⟩, ⟨"host", "read_cap", .function (.host 2)⟩]
  definedMemories := [⟨1, none⟩]
  exports := [⟨"memory", .memory 0⟩, ⟨"run", .other⟩]

def meteredEngine : Engine where
  parseStr := fun _ => .ok [0x00, 0x61, 0x73, 0x6d]
  compile := fun _ _ => .ok meteredModule

def passwdPage : LinearMemory where
  bytes := [0x2f, 0x65, 0x74, 0x63, 0x2f, 0x70, 0x61, 0x73, 0x73, 0x77, 0x64] ++
    List.replicate 65525 0
  size_le := by rw [List.length_append, List.length_replicate]; decide

def trappingGuest [HostArch] : GuestExecution where
  start := []
  instantiate := .ok ()
  memoryExport := .ok ⟨0⟩
  instantiated := fun _ => passwdPage
  growOnly := none
  grown := fun _ => passwdPage
  runExport := .ok ()
  run := ([⟨fun _ => passwdPage, .readCap 0 11, 3⟩], .error "unreachable")
  finished := fun _ => passwdPage
  dataPtr := fun _ _ => 0

theorem trapping_guest_loses_evidence :
    letI := HostArch.x86_64
    ¬EvidenceKept (runCaseInner meteredEngine trappingGuest ⟨1, 1, 1, 1, 1⟩
      (case "trap" "" Abi.errCapability .runExport "capability" "high" "" "(module)")
      .cranelift .default false) := by
  let _ := HostArch.x86_64
  obtain ⟨wasmBytes, he⟩ := runCaseInner_started trappingGuest ⟨1, 1, 1, 1, 1⟩
    (case "trap" "" Abi.errCapability .runExport "capability" "high" "" "(module)")
    .cranelift .default
    (show Started meteredEngine _ _ _ false from ⟨_, _, rfl, rfl, by decide, rfl⟩)
  rw [he, runInstance_kept_iff]
  rintro (h | h)
  · exact absurd h.2.2.2 (by decide)
  · cases h

end WasmerSectest
