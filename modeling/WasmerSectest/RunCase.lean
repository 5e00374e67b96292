import WasmerSectest.Guests
import WasmerSectest.HostImports
import WasmerSectest.Lib.Machine

namespace WasmerSectest
set_option autoImplicit true

/-- The declared type of a memory, in pages. -/
structure MemoryType where
  minimum : UInt32
  maximum : Option UInt32
  deriving DecidableEq

inductive ValueType where
  | i32
  | i64
  | f32
  | f64
  | v128
  | reference
  deriving DecidableEq

structure FunctionType where
  params : List ValueType
  results : List ValueType
  deriving DecidableEq

inductive ImportType where
  | function (type : FunctionType)
  | memory (type : MemoryType)
  | other
  deriving DecidableEq

def ImportType.isFunction : ImportType → Bool
  | .function _ => true
  | .memory _ | .other => false

structure Import where
  module : String
  name : String
  type : ImportType
  deriving DecidableEq

/-- An exported memory is named by its index in the module's memories. -/
inductive ExportTarget where
  | memory (index : Nat)
  | other
  deriving DecidableEq

structure Export where
  name : String
  target : ExportTarget
  deriving DecidableEq

structure Module where
  imports : List Import
  definedMemories : List MemoryType
  exports : List Export
  deriving DecidableEq

def Module.importedMemories (module : Module) : List MemoryType :=
  module.imports.filterMap fun i =>
    match i.type with
    | .memory type => some type
    | _ => none

def Module.memories (module : Module) : List MemoryType :=
  module.importedMemories ++ module.definedMemories

def Module.exportedMemories (module : Module) : List MemoryType :=
  module.exports.filterMap fun e =>
    match e.target with
    | .memory index => module.memories[index]?
    | .other => none

structure AuditDenial where
  resultCode : Int32
  detail : String
  gates : List Gate
  deriving DecidableEq

def AuditDenial.memoryPages (direction : String) (requested : UInt32) (policy : Policy) :
    AuditDenial where
  resultCode := Abi.errTooLarge
  detail := s!"{direction} minimum memory {requested} pages exceeds policy " ++
    s!"max_memory_pages {policy.maxMemoryPages}"
  gates := [.fail "module.memory_min_pages"]

def auditModule (module : Module) (policy : Policy) : Except AuditDenial Unit :=
  match module.importedMemories.find? (·.minimum > policy.maxMemoryPages) with
  | some type => .error (.memoryPages "imported" type.minimum policy)
  | none =>
    match module.exportedMemories.find? (·.minimum > policy.maxMemoryPages) with
    | some type => .error (.memoryPages "exported" type.minimum policy)
    | none =>
      if policy.requireTickImport && !module.imports.any (fun i =>
          i.type.isFunction && i.module == "host" && i.name == "tick") then
        .error {
          resultCode := Abi.errBudget
          detail := "module does not import host.tick; refusing in-process run without CPU " ++
            "budget hook"
          gates := [.pass "module.memory_min_pages", .fail "module.tick_import"] }
      else .ok ()

/-- The type of a host function with the given number of `u32` parameters. -/
def FunctionType.host (params : Nat) : FunctionType where
  params := List.replicate params .i32
  results := [.i32]

/-- The import object. -/
def importObject : List Import :=
  [⟨"host", "accept_packet", .function (.host 3)⟩, ⟨"host", "read_cap", .function (.host 2)⟩,
    ⟨"host", "alloc_cap", .function (.host 1)⟩, ⟨"host", "write_marker", .function (.host 3)⟩,
    ⟨"host", "tick", .function (.host 0)⟩]

section
variable [HostArch]

structure CaseReport where
  name : String
  description : String
  category : String
  severity : String
  control : String
  stage : String
  ttp : String
  detection : String
  sourcePath : String
  backend : Backend
  expectedCode : Int32
  actualCode : Option Int32 := none
  hostError : Option String := none
  compileUs : U128 := 0
  instantiateUs : U128 := 0
  runUs : U128 := 0
  wasmBytes : Usize := 0
  memoryBefore : MemorySnapshot := {}
  memoryAfter : MemorySnapshot := {}
  telemetry : Telemetry := {}
  deriving DecidableEq

def CaseReport.passed (report : CaseReport) : Bool :=
  report.hostError.isNone && report.actualCode == some report.expectedCode

/-- The part of a report that every constructor copies from the case. -/
def GuestCase.report (case : GuestCase) (backend : Backend) : CaseReport where
  name := case.name
  description := case.description
  category := case.category
  severity := case.severity
  control := case.control
  stage := case.stage
  ttp := case.ttp
  detection := case.detection
  sourcePath := case.sourcePath
  backend := backend
  expectedCode := case.expectedCode

def errorReport (case : GuestCase) (backend : Backend) (hostError : String) : CaseReport :=
  { case.report backend with hostError := some hostError }

def auditDenialReport (case : GuestCase) (backend : Backend) (wasmBytes : Usize)
    (compileUs auditUs : U128) (denial : AuditDenial) : CaseReport :=
  { case.report backend with
    actualCode := some denial.resultCode
    compileUs, wasmBytes
    telemetry := {
      events := [{
        «import» := "host.audit.module", ptr := none, len := none, align := none,
        memorySize := none, resultCode := denial.resultCode, detail := denial.detail,
        elapsedUs := auditUs, gates := denial.gates }]
      ticksSeen := 0 } }

/-- The compiler behind the runner: the WAT parser and `Module::new`. -/
structure Engine where
  parseStr : String → Except String (List UInt8)
  compile : Backend → List UInt8 → Except String Module

/-- One import call of the guest: the memories it finds and the time the host takes. -/
structure HostCall where
  store : Store
  call : GuestCall
  elapsedUs : U128

def HostCall.step (state : HostState) (c : HostCall) : Int32 × HostState :=
  let (result, state, _) := c.call.perform state c.store c.elapsedUs
  (result, state)

/-- What an instance does while the host runs it: its import calls and how each part ends. -/
structure GuestExecution where
  start : List HostCall
  instantiate : Except String Unit
  memoryExport : Except String Memory
  instantiated : Store
  growOnly : Option (List HostCall × Except String Int32)
  grown : Store
  runExport : Except String Unit
  run : List HostCall × Except String Int32
  finished : Store
  dataPtr : Store → Memory → Usize

structure Timings where
  compileUs : U128
  auditUs : U128
  instantiateUs : U128
  growUs : U128
  runUs : U128

def snapshotMemory (guest : GuestExecution) (memory : Memory) (store : Store) :
    MemorySnapshot where
  pages := UInt32.ofNat ((memory.view store).bytes.length / 65536)
  bytes := (memory.view store).dataSize
  dataPtr := guest.dataPtr store memory

def runGrowthProbe (guest : GuestExecution) (state : HostState) (memory : Memory)
    (growUs : U128) : HostState :=
  let before := snapshotMemory guest memory guest.instantiated
  let (state, growRaw) :=
    match guest.growOnly with
    | some (calls, result) =>
      (Machine.final HostCall.step state calls, result.toOption.getD Abi.errInternal)
    | none => (state, Abi.errInternal)
  let after := snapshotMemory guest memory guest.grown
  let result := if growRaw ≥ 0 then Abi.ok else Abi.errInternal
  state.record {
    «import» := "host.runner.grow_probe", ptr := none, len := none, align := none,
    memorySize := some after.bytes, resultCode := result,
    detail := s!"pre-run grow_only raw_return={growRaw} pages {before.pages}->{after.pages} " ++
      s!"bytes {before.bytes}->{after.bytes}; old MemoryView intentionally dropped before call",
    elapsedUs := growUs, gates := [.pass "drop_stale_view", .pass "reacquire_view"] }

/-- The report of a run, with the host state the imports of this run wrote to, if any. -/
structure Run where
  env : Option HostState
  result : Except CaseReport CaseReport

/-- The part of `run_case_inner` after the audit: everything in which guest code can run. -/
def runInstance (guest : GuestExecution) (clock : Timings) (case : GuestCase)
    (backend : Backend) (policy : Policy) (wasmBytes : Usize) : Run :=
  let failed (state : HostState) (hostError : String) : Run :=
    ⟨some state, .error (errorReport case backend hostError)⟩
  let state := Machine.final HostCall.step (.new policy) guest.start
  match guest.instantiate with
  | .error err => failed state s!"Wasmer instantiate failed: {err}"
  | .ok () =>
    match guest.memoryExport with
    | .error err => failed state s!"missing memory export: {err}"
    | .ok memory =>
      let state := { state with memory := some memory }
      let memoryBefore := snapshotMemory guest memory guest.instantiated
      let state :=
        if case.kind = .growthProbe then runGrowthProbe guest state memory clock.growUs
        else state
      match guest.runExport with
      | .error err => failed state s!"missing run export: {err}"
      | .ok () =>
        let state := Machine.final HostCall.step state guest.run.1
        match guest.run.2 with
        | .error err => failed state s!"guest trapped during run: {err}"
        | .ok code =>
          ⟨some state, .ok { case.report backend with
            actualCode := some code
            compileUs := clock.compileUs
            instantiateUs := clock.instantiateUs
            runUs := clock.runUs
            wasmBytes, memoryBefore
            memoryAfter := snapshotMemory guest memory guest.finished
            telemetry := state.telemetry }⟩

def runCaseInner (engine : Engine) (guest : GuestExecution) (clock : Timings)
    (case : GuestCase) (backend : Backend) (policy : Policy) (executeStaticFixture : Bool) :
    Run :=
  match case.source.wasmBytes engine.parseStr with
  | .error err => ⟨none, .error (errorReport case backend err)⟩
  | .ok wasm =>
    match engine.compile backend wasm with
    | .error err =>
      ⟨none, .error (errorReport case backend s!"Wasmer compile failed: {err}")⟩
    | .ok module =>
      let wasmBytes := BitVec.ofNat _ wasm.length
      if case.kind = .staticAudit ∧ !executeStaticFixture then
        ⟨none, .ok (auditDenialReport case backend wasmBytes clock.compileUs 0 {
          resultCode := Abi.errTimeout
          detail := "static audit fixture is intentionally not executed in-process"
          gates := [.pass "module.memory_min_pages", .fail "module.tick_import",
            .pass "runner.no_execute"] })⟩
      else
        match auditModule module policy with
        | .error denial =>
          ⟨none, .ok (auditDenialReport case backend wasmBytes clock.compileUs clock.auditUs
            denial)⟩
        | .ok () => runInstance guest clock case backend policy wasmBytes

def Run.report (run : Run) : CaseReport :=
  match run.result with
  | .ok report => report
  | .error report => report

def runCase (engine : Engine) (guest : GuestExecution) (clock : Timings) (case : GuestCase)
    (backend : Backend) (policy : Policy) : CaseReport :=
  (runCaseInner engine guest clock case backend policy false).report

def runCaseExecutingStaticFixture (engine : Engine) (guest : GuestExecution)
    (clock : Timings) (case : GuestCase) (backend : Backend) (policy : Policy) : CaseReport :=
  (runCaseInner engine guest clock case backend policy true).report

end

end WasmerSectest
