import WasmerSectest.AsyncRunner
import WasmerSectest.Evidence
import WasmerSectest.WorkerProtocol
import WasmerSectest.WorkerSelection

namespace WasmerSectest
set_option autoImplicit true

/-- `ExitStatus::success`, read off the text a status is printed as. -/
def Output.success [HostArch] (output : Output) : Bool :=
  output.status == "exit status: 0" || output.status == "exit code: 0"

section
variable [HostArch]

def GuestExecution.GrowTraps (guest : GuestExecution) : Prop :=
  ∃ calls err, guest.growOnly = some (calls, .error err)

def Compiles (engine : Engine) (case : GuestCase) (backend : Backend) (module : Module) : Prop :=
  ∃ wasm, case.source.wasmBytes engine.parseStr = .ok wasm ∧
    engine.compile backend wasm = .ok module

/-- The audit refuses the module, or the fixture is only there to be refused. -/
def DeniedWith (case : GuestCase) (policy : Policy) (executeStaticFixture : Bool)
    (module : Module) (code : Int32) : Prop :=
  if case.kind = .staticAudit ∧ !executeStaticFixture then code = Abi.errTimeout
  else ∃ denial, auditModule module policy = .error denial ∧ denial.resultCode = code

def Poll.conclusive (timeoutMs : UInt64) : Poll → Bool
  | .running elapsedNs _ => timeoutMs.toNat * 1000000 ≤ elapsedNs
  | .exited .. | .failed _ => true

/-- What the supervisor concludes from the worker's output is that the case did not run. -/
def Output.unreadable (output : Output) : Prop :=
  match parseWorkerSummary (Utf8.fromUtf8Lossy output.stdout) with
  | none => True
  | some summary => summary.hostError ≠ none ∨ summary.actualCode = none

def Output.Returned (output : Output) (code : Int32) : Prop :=
  ∃ summary, parseWorkerSummary (Utf8.fromUtf8Lossy output.stdout) = some summary ∧
    summary.hostError = none ∧ summary.actualCode = some code

/-- The poll that ends the wait, if a worker was started at all. -/
def lastPoll (os : Os) (case : GuestCase) (backend : Backend) (policy : Policy)
    (options : SupervisorOptions) : Option (UInt32 × Option Poll) :=
  match os.currentExe with
  | .error _ => none
  | .ok exe =>
    match os.spawn exe (workerArgs case backend options) with
    | .error _ => none
    | .ok (pid, polls) => some (pid, polls.find? (·.conclusive policy.supervisorTimeoutMs))

section
variable (process : WorkerProcess)

/-- The process gets to an instance of its module. -/
def WorkerProcess.Starts : Prop :=
  Started process.engine process.run.case process.run.backend process.run.policy
    process.run.executeStaticFixture

def WorkerProcess.GrowTraps : Prop :=
  process.run.case.kind = .growthProbe ∧ process.guest.GrowTraps

/-- The run of the process does not complete, and was not stopped on purpose either. -/
def WorkerProcess.Fails : Prop :=
  (¬∃ module, Compiles process.engine process.run.case process.run.backend module) ∨
    process.Starts ∧ (¬process.guest.Completes ∨ process.GrowTraps)

def WorkerProcess.Returns (code : Int32) : Prop :=
  process.Starts ∧ process.guest.Completes ∧ process.guest.run.2 = .ok code ∧
    ¬process.GrowTraps

end

/-- How a case is run: in this process, in a supervised worker process (that gets to its own run
of the case or not), or in a blocking worker that panicked. -/
inductive RunMode where
  | inProcess (executeStaticFixture : Bool)
  | supervised (options : SupervisorOptions) (worker : Option WorkerProcess)
  | panicked (err : String)

/-- The worker runs what its command line asks for, and a report line that is read from its
output is the one of this run. -/
structure Hosted (os : Os) (case : GuestCase) (backend : Backend) (policy : Policy)
    (options : SupervisorOptions) (hosted : Option WorkerProcess) : Prop where
  asked : ∀ process, hosted = some process →
    ∃ world, worker world (workerArgs case backend options) = .ok (some process.run)
  line : ∀ pid elapsedUs output summary,
    lastPoll os case backend policy options = some (pid, some (.exited elapsedUs (.ok output))) →
    parseWorkerSummary (Utf8.fromUtf8Lossy output.stdout) = some summary →
    ∃ process, hosted = some process ∧ summary = process.report.summary

structure CaseRun where
  platform : Platform
  case : GuestCase
  backend : Backend
  policy : Policy
  mode : RunMode
  hosted : ∀ options worker, mode = .supervised options worker →
    Hosted platform.os case backend policy options worker

def CaseRun.inProcess (run : CaseRun) (executeStaticFixture : Bool) : WorkerProcess where
  engine := run.platform.engine
  guest := run.platform.guest
  clock := run.platform.clock
  run := ⟨run.case, run.backend, run.policy, executeStaticFixture⟩

def CaseRun.lastPoll (run : CaseRun) (options : SupervisorOptions) :
    Option (UInt32 × Option Poll) :=
  WasmerSectest.lastPoll run.platform.os run.case run.backend run.policy options

/-- The ways a wait can end without the case having run to its end. -/
inductive WaitFails (worker : Option WorkerProcess) : Poll → Prop where
  | wait (err : String) : WaitFails worker (.failed err)
  | output (elapsedUs : U128) (err : String) : WaitFails worker (.exited elapsedUs (.error err))
  | line (elapsedUs : U128) (h : output.unreadable) :
    WaitFails worker (.exited elapsedUs (.ok output))
  | status (elapsedUs : U128) (h : output.success = false) :
    WaitFails worker (.exited elapsedUs (.ok output))
  | run (elapsedUs : U128) (hw : worker = some process) (h : process.Fails) :
    WaitFails worker (.exited elapsedUs (.ok output))

def CaseRun.Fails (run : CaseRun) : Prop :=
  match run.mode with
  | .inProcess executeStaticFixture => (run.inProcess executeStaticFixture).Fails
  | .supervised options worker =>
    run.lastPoll options = none ∨
      ∃ pid poll, run.lastPoll options = some (pid, some poll) ∧ WaitFails worker poll
  | .panicked _ => True

/-- The worker is done, and has a line to say that the run returned the code. -/
def CaseRun.Printed (run : CaseRun) (options : SupervisorOptions) (output : Output)
    (code : Int32) : Prop :=
  ∃ pid elapsedUs, run.lastPoll options = some (pid, some (.exited elapsedUs (.ok output))) ∧
    output.Returned code

def CaseRun.Returns (run : CaseRun) (code : Int32) : Prop :=
  match run.mode with
  | .inProcess executeStaticFixture => (run.inProcess executeStaticFixture).Returns code
  | .supervised options worker =>
    ∃ output process, run.Printed options output code ∧ output.success = true ∧
      worker = some process ∧ process.Returns code
  | .panicked _ => False

/-- The report says that the run returned the code. -/
def CaseReport.Returned (report : CaseReport) (code : Int32) : Prop :=
  report.hostError = none ∧ report.actualCode = some code

theorem CaseReport.passed_iff {report : CaseReport} : report.passed = true ↔
    report.hostError = none ∧ report.actualCode = some report.expectedCode := by
  rw [passed, Bool.and_eq_true, Option.isNone_iff_eq_none, beq_iff_eq]

section
variable (guest : GuestExecution) (clock : Timings) (case : GuestCase) (backend : Backend)
  (policy : Policy)

theorem auditDenialReport_returned_iff (wasmBytes : Usize) (compileUs auditUs : U128)
    (denial : AuditDenial) (code : Int32) :
    (auditDenialReport case backend wasmBytes compileUs auditUs denial).Returned code ↔
      denial.resultCode = code := by
  change none = none ∧ some denial.resultCode = some code ↔ _
  rw [Option.some_inj]
  exact and_iff_right rfl

theorem runInstance_returned_iff (wasmBytes : Usize) (code : Int32) :
    (runInstance guest clock case backend policy wasmBytes).report.Returned code ↔
      guest.Completes ∧ guest.run.2 = .ok code := by
  have hends := runInstance_ends guest clock case backend policy wasmBytes
  generalize runInstance guest clock case backend policy wasmBytes = run at hends ⊢
  cases hends with
  | failed state hostError hfails =>
    apply iff_of_false
    · intro hreturned
      cases hreturned.1
    · intro h
      exact hfails h.1
  | completed memory actual memoryBefore memoryAfter hcompletes hcode =>
    rw [hcode]
    change none = none ∧ some actual = some code ↔ _ ∧ Except.ok actual = _
    rw [Option.some_inj, Except.ok.injEq]
    exact and_congr_left' (iff_of_true rfl hcompletes)

omit [HostArch] in
theorem Compiles.unique {engine : Engine} {module module' : Module}
    (h : Compiles engine case backend module) (h' : Compiles engine case backend module') :
    module = module' := by
  obtain ⟨wasm, hwasm, hmodule⟩ := h
  obtain ⟨wasm', hwasm', hmodule'⟩ := h'
  cases hwasm.symm.trans hwasm'
  exact Except.ok.inj (hmodule.symm.trans hmodule')

theorem runCaseInner_denied_returned {engine : Engine} {executeStaticFixture : Bool}
    {module : Module} {code : Int32} (hc : Compiles engine case backend module)
    (h : DeniedWith case policy executeStaticFixture module code) (code' : Int32) :
    (runCaseInner engine guest clock case backend policy executeStaticFixture).report.Returned
      code' ↔ code = code' := by
  obtain ⟨wasm, hwasm, hmodule⟩ := hc
  rw [runCaseInner]
  by_cases hs : case.kind = .staticAudit ∧ !executeStaticFixture
  · rw [DeniedWith, if_pos hs] at h
    simp only [hwasm, hmodule, if_pos hs]
    rw [h]
    exact auditDenialReport_returned_iff case backend _ _ _ _ code'
  · rw [DeniedWith, if_neg hs] at h
    obtain ⟨denial, haudit, rfl⟩ := h
    simp only [hwasm, hmodule, if_neg hs, haudit]
    exact auditDenialReport_returned_iff case backend _ _ _ _ code'

theorem runCaseInner_started_returned {engine : Engine} {executeStaticFixture : Bool}
    (h : Started engine case backend policy executeStaticFixture) (code : Int32) :
    (runCaseInner engine guest clock case backend policy executeStaticFixture).report.Returned
      code ↔ guest.Completes ∧ guest.run.2 = .ok code := by
  obtain ⟨wasmBytes, he⟩ := runCaseInner_started guest clock case backend policy h
  rw [he]
  exact runInstance_returned_iff guest clock case backend policy wasmBytes code

theorem runInstance_expectedCode (wasmBytes : Usize) :
    (runInstance guest clock case backend policy wasmBytes).report.expectedCode =
      case.expectedCode := by
  have hends := runInstance_ends guest clock case backend policy wasmBytes
  generalize runInstance guest clock case backend policy wasmBytes = run at hends ⊢
  cases hends with
  | failed => rfl
  | completed => rfl

theorem runCaseInner_expectedCode (engine : Engine) (executeStaticFixture : Bool) :
    (runCaseInner engine guest clock case backend policy
      executeStaticFixture).report.expectedCode = case.expectedCode := by
  rw [runCaseInner]
  cases case.source.wasmBytes engine.parseStr with
  | error err => rfl
  | ok wasm =>
    cases hmodule : engine.compile backend wasm with
    | error err =>
      simp only [hmodule]
      rfl
    | ok module =>
      by_cases hs : case.kind = .staticAudit ∧ !executeStaticFixture
      · simp only [hmodule, if_pos hs]
        rfl
      · simp only [hmodule, if_neg hs]
        cases auditModule module policy with
        | error denial => rfl
        | ok _ => exact runInstance_expectedCode guest clock case backend policy _

theorem runCaseInner_passed_iff (engine : Engine) (executeStaticFixture : Bool) :
    (runCaseInner engine guest clock case backend policy executeStaticFixture).report.passed =
      true ↔ (runCaseInner engine guest clock case backend policy
        executeStaticFixture).report.Returned case.expectedCode := by
  rw [CaseReport.passed_iff, runCaseInner_expectedCode, CaseReport.Returned]

theorem runCaseInner_denied {engine : Engine} {executeStaticFixture : Bool} {module : Module}
    {code : Int32} (hc : Compiles engine case backend module)
    (h : DeniedWith case policy executeStaticFixture module code) :
    (runCaseInner engine guest clock case backend policy executeStaticFixture).report.passed =
      true ↔ code = case.expectedCode := by
  rw [runCaseInner_passed_iff]
  exact runCaseInner_denied_returned guest clock case backend policy hc h case.expectedCode

theorem runCaseInner_started_passed {engine : Engine} {executeStaticFixture : Bool}
    (h : Started engine case backend policy executeStaticFixture) :
    (runCaseInner engine guest clock case backend policy executeStaticFixture).report.passed =
      true ↔ guest.Completes ∧ guest.run.2 = .ok case.expectedCode := by
  rw [runCaseInner_passed_iff]
  exact runCaseInner_started_returned guest clock case backend policy h case.expectedCode

theorem supervisedCompletionReport_passed_iff (output : Output) (elapsedUs : U128) :
    (supervisedCompletionReport case backend output elapsedUs).passed = true ↔
      output.Returned case.expectedCode := by
  rw [supervisedCompletionReport, Output.Returned]
  cases parseWorkerSummary (Utf8.fromUtf8Lossy output.stdout) with
  | none =>
    apply iff_of_false Bool.false_ne_true
    rintro ⟨summary, h, -⟩
    cases h
  | some summary =>
    rw [CaseReport.passed_iff]
    apply Iff.intro
    · intro h
      exact ⟨summary, rfl, h⟩
    · rintro ⟨summary', he, h⟩
      obtain rfl := Option.some.inj he
      exact h

def Poll.report (timeoutMs : UInt64) (pid : UInt32) : Poll → CaseReport
  | .exited elapsedUs (.ok output) => supervisedCompletionReport case backend output elapsedUs
  | .exited _ (.error err) =>
    supervisorErrorReport case backend s!"worker output collection failed: {err}"
  | .running _ killedUs => timeoutReport case backend timeoutMs pid killedUs
  | .failed err => supervisorErrorReport case backend s!"worker wait failed: {err}"

theorem superviseLoop_eq (timeoutMs : UInt64) (pid : UInt32) (polls : List Poll) :
    superviseLoop case backend timeoutMs pid polls =
      (polls.find? (·.conclusive timeoutMs)).map (Poll.report case backend timeoutMs pid) := by
  induction polls with
  | nil => rfl
  | cons poll polls ih =>
    cases poll with
    | exited elapsedUs output => cases output <;> rfl
    | failed err => rfl
    | running elapsedNs killedUs =>
      by_cases h : timeoutMs.toNat * 1000000 ≤ elapsedNs
      · have hc : (Poll.running elapsedNs killedUs).conclusive timeoutMs = true :=
          decide_eq_true h
        rw [superviseLoop, if_pos h, List.find?_cons_of_pos hc]
        rfl
      · have hc : ¬(Poll.running elapsedNs killedUs).conclusive timeoutMs = true :=
          fun hc => h (of_decide_eq_true hc)
        rw [superviseLoop, if_neg h, List.find?_cons_of_neg hc]
        exact ih

end

theorem Output.Returned.unique {output : Output} {code code' : Int32} (h : output.Returned code)
    (h' : output.Returned code') : code = code' := by
  obtain ⟨summary, hs, -, hcode⟩ := h
  obtain ⟨summary', hs', -, hcode'⟩ := h'
  cases hs.symm.trans hs'
  exact Option.some.inj (hcode.symm.trans hcode')

section
variable {process : WorkerProcess} {code : Int32}

theorem CaseReport.Returned.unique {report : CaseReport} {code' : Int32}
    (h : report.Returned code) (h' : report.Returned code') : code = code' :=
  Option.some.inj (h.2.symm.trans h'.2)

end

section
variable {run : CaseRun} {options : SupervisorOptions} {worker : Option WorkerProcess}
variable (hmode : run.mode = .supervised options worker)
include hmode

variable {pid : UInt32} {poll : Poll}

omit hmode in
theorem CaseRun.Printed.exited {output : Output} {code : Int32}
    (hprinted : run.Printed options output code)
    (h : run.lastPoll options = some (pid, some poll)) :
    (∃ elapsedUs, poll = .exited elapsedUs (.ok output)) ∧ output.Returned code := by
  obtain ⟨pid', elapsedUs, hpoll, hreturned⟩ := hprinted
  cases h.symm.trans hpoll
  exact ⟨⟨elapsedUs, rfl⟩, hreturned⟩

end

end

def okCase (kind : CaseKind) : GuestCase := case "ok" "" Abi.ok kind "memory" "high" "" "(module)"

section
variable [HostArch]

end

end WasmerSectest
