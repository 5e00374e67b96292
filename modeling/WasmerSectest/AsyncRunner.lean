import WasmerSectest.Lib.BoundedPool
import WasmerSectest.Supervisor

namespace WasmerSectest
set_option autoImplicit true

open BoundedPool (Event Pool)

def hardMaxInFlightCases : Nat := 64

/-- An error of the harness; a join error is kept as the text it prints. -/
inductive SectestError where
  | asyncJoin (err : String)
  | wasiSandbox (err : String)

def SectestError.toString : SectestError → String
  | .asyncJoin err => s!"async execution worker failed: {err}"
  | .wasiSandbox err => s!"WASI sandbox setup failed: {err}"

section
variable [HostArch]

/-- The index is a `usize`; a run that could overflow it could not hold its reports. -/
structure CaseTask where
  index : Nat
  case : GuestCase
  backend : Backend
  isolation : IsolationMode
  policy : Policy
  policyPath : Option String
  corpusDir : Option String
  allowUnmetered : Bool

/-- The number of tasks in flight, from the parallelism the system reports. -/
def maxInFlightCases (availableParallelism : Option Nat) : Nat :=
  let doubled := availableParallelism.map fun parallelism =>
    min (parallelism * 2) (2 ^ HostArch.usizeBits - 1)
  max 1 (min hardMaxInFlightCases (doubled.getD 1))

theorem maxInFlightCases_bounds (availableParallelism : Option Nat) :
    1 ≤ maxInFlightCases availableParallelism ∧
      maxInFlightCases availableParallelism ≤ hardMaxInFlightCases := by
  rw [maxInFlightCases]
  exact ⟨Nat.le_max_left _ _, Nat.max_le.2 ⟨by decide, Nat.min_le_left _ _⟩⟩

def asyncEvent («import» detail : String) (gates : List Gate) : ImportEvent where
  «import» := «import»
  ptr := none
  len := none
  align := none
  memorySize := none
  resultCode := Abi.errInternal
  detail := detail
  elapsedUs := 0
  gates := gates

def joinErrorReport (err : String) : Nat × CaseReport :=
  let err := (SectestError.asyncJoin err).toString
  (2 ^ HostArch.usizeBits - 1, {
    name := "async_join_error"
    description := "Tokio worker failed before a case report was produced"
    category := "runtime"
    severity := "high"
    control := "async execution boundary reports scheduler failures"
    stage := "runtime scheduling"
    ttp := "host-worker-failure"
    detection := "join error is converted into a structured report"
    sourcePath := ""
    backend := .cranelift
    expectedCode := Abi.errInternal
    actualCode := some Abi.errInternal
    hostError := some err
    telemetry := { events := [asyncEvent "host.async.join" err [.fail "async.join"]] } })

def asyncWorkerErrorReport (case : GuestCase) (backend : Backend) (err : String) : CaseReport :=
  { case.report backend with
    actualCode := some Abi.errInternal
    hostError := some s!"async worker failed: {err}"
    telemetry := {
      events := [asyncEvent "host.async.spawn_blocking" s!"spawn_blocking failed: {err}"
        [.fail "async.spawn_blocking"]] } }

def runCaseTaskBlocking (platform : Platform) (task : CaseTask) : Option CaseReport :=
  match task.isolation with
  | .inProcess =>
    some (runCase platform.engine platform.guest platform.clock task.case task.backend
      task.policy)
  | .process =>
    runCaseSupervised platform.os task.case task.backend task.policy
      ⟨task.policyPath, task.corpusDir, task.allowUnmetered⟩

/-- The blocking workers of a run. Each ends with the report of its case on the platform it
found, or panics, which leaves the text of a join error. -/
structure Workers where
  platform : Nat → Platform
  outcome : CaseTask → Except String CaseReport
  runs : ∀ task report, outcome task = .ok report →
    runCaseTaskBlocking (platform task.index) task = some report

def runCaseTask (workers : Workers) (task : CaseTask) : Nat × CaseReport :=
  match workers.outcome task with
  | .ok report => (task.index, report)
  | .error err =>
    (task.index,
      asyncWorkerErrorReport task.case task.backend (SectestError.asyncJoin err).toString)

def pushJoinedReport (reports : List (Nat × CaseReport))
    (joined : Except String (Nat × CaseReport)) : List (Nat × CaseReport) :=
  match joined with
  | .ok report => reports ++ [report]
  | .error err => reports ++ [joinErrorReport err]

def caseTask (config : Config) (policy : Policy) (index : Nat) (case : GuestCase) : CaseTask where
  index := index
  case := case
  backend := config.backend
  isolation := config.isolation
  policy := policy
  policyPath := config.policyPath
  corpusDir := config.corpusDir
  allowUnmetered := config.allowUnmetered

structure Collector where
  index : Nat
  tasks : Pool CaseTask
  reports : List (Nat × CaseReport)

section
variable (workers : Workers) (schedule : Nat → Nat) (maxInFlight : Nat) (config : Config)
  (policy : Policy)

def Collector.push (state : Collector) (task : CaseTask) (tasks : Pool CaseTask) : Collector :=
  { state with
    tasks := tasks
    reports := pushJoinedReport state.reports (.ok (runCaseTask workers task)) }

/-- The n-th join returns the task that the schedule picks. -/
def joinNextReport (state : Collector) : Collector :=
  match state.tasks.joinNext (schedule state.reports.length) with
  | some (task, tasks) => state.push workers task tasks
  | none => state

def spawnCase (state : Collector) (case : GuestCase) : Collector :=
  let state : Collector := {
    state with
    index := state.index + 1
    tasks := state.tasks.spawn (caseTask config policy state.index case) }
  if maxInFlight ≤ state.tasks.inFlight.length then joinNextReport workers schedule state
  else state

def spawnRounds (cases : List GuestCase) (state : Collector) : Nat → Collector
  | 0 => state
  | rounds + 1 =>
    spawnRounds cases (cases.foldl (spawnCase workers schedule maxInFlight config policy) state)
      rounds

def joinAll (state : Collector) : Collector :=
  match _h : state.tasks.joinNext (schedule state.reports.length) with
  | some (task, tasks) => joinAll (state.push workers task tasks)
  | none => state
termination_by state.tasks.inFlight.length
decreasing_by
  have hlength := Pool.joinNext_length _h
  change tasks.inFlight.length < _
  omega

/-- The reports of the concurrent runner, and the log of its tasks. -/
def collectReportsAsync (cases : List GuestCase) : List CaseReport × List (Event CaseTask) :=
  let state := joinAll workers schedule
    (spawnRounds workers schedule maxInFlight config policy cases ⟨0, .empty, []⟩
      config.repeat.toNat)
  ((state.reports.mergeSort fun a b => a.1 ≤ b.1).map Prod.snd, state.tasks.log)

end

end

end WasmerSectest
