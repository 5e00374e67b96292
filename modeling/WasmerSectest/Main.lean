import WasmerSectest.Corpus
import WasmerSectest.Supervisor

namespace WasmerSectest
set_option autoImplicit true

/-- What the program reads from outside: policy files, corpus directories, built-in guests. -/
structure World where
  readToString : String → Except String String
  corpusDir : String → CorpusDir
  includeStr : String → String

def chooseExternalCases (world : World) (dir : String) (selected : Option String) :
    Except Exit (List GuestCase) :=
  match loadCorpus dir (world.corpusDir dir) with
  | .error err => .error ⟨2, [s!"failed to load corpus: {err}"]⟩
  | .ok cases =>
    match selected with
    | none => .ok cases
    | some name =>
      match cases.find? (·.name == name) with
      | some case => .ok [case]
      | none =>
        .error ⟨2, [s!"unknown external corpus case '{name}'", "available cases:"]⟩

section
variable [HostArch]

def readPolicy (world : World) (policyPath : Option String) : Except Exit Policy :=
  match policyPath with
  | some path =>
    match Policy.fromFile world.readToString path with
    | .ok policy => .ok policy
    | .error err => .error ⟨2, [s!"failed to load policy: {err}"]⟩
  | none => .ok .default

/-- The command line's changes to the policy that was read. -/
def Config.adjustPolicy (config : Config) (policy : Policy) : Policy :=
  let policy := if config.allowUnmetered then { policy with requireTickImport := false }
    else policy
  let policy := match config.timeoutMs with
    | some timeoutMs => { policy with supervisorTimeoutMs := timeoutMs }
    | none => policy
  if config.workerExecuteStatic then { policy with requireTickImport := false } else policy

def loadPolicy (world : World) (config : Config) : Except Exit Policy :=
  (readPolicy world config.policyPath).map config.adjustPolicy

/-- The case `run_worker` runs. -/
def workerCase (world : World) (config : Config) (name : String) : Except Exit GuestCase :=
  match config.corpusDir with
  | some dir => do
    match ← chooseExternalCases world dir (some name) with
    | case :: _ => return case
    | [] => throw ⟨2, [s!"unknown worker case '{name}'"]⟩
  | none =>
    match findCase world.includeStr name with
    | some case => .ok case
    | none => .error ⟨2, [s!"unknown worker case '{name}'"]⟩

structure WorkerRun where
  case : GuestCase
  backend : Backend
  policy : Policy
  executeStaticFixture : Bool

/-- The program started as a worker, up to the point where it runs its case; `none` when the
arguments do not make it a worker. -/
def worker (world : World) (args : List String) : Except Exit (Option WorkerRun) := do
  let config ← Config.fromArgs args
  let policy ← loadPolicy world config
  match config.workerCase with
  | none => return none
  | some name =>
    let case ← workerCase world config name
    return some ⟨case, config.backend, policy, config.workerExecuteStatic⟩

def runWorker (engine : Engine) (guest : GuestExecution) (clock : Timings) (run : WorkerRun) :
    String :=
  let report :=
    if run.executeStaticFixture then
      runCaseExecutingStaticFixture engine guest clock run.case run.backend run.policy
    else runCase engine guest clock run.case run.backend run.policy
  encodeWorkerReport report

structure WorkerProcess where
  engine : Engine
  guest : GuestExecution
  clock : Timings
  run : WorkerRun

def WorkerProcess.report (worker : WorkerProcess) : CaseReport :=
  (runCaseInner worker.engine worker.guest worker.clock worker.run.case worker.run.backend
    worker.run.policy worker.run.executeStaticFixture).report

def WorkerProcess.line (worker : WorkerProcess) : String :=
  runWorker worker.engine worker.guest worker.clock worker.run

def selectCases (world : World) (config : Config) : Except Exit (List GuestCase) :=
  match config.corpusDir with
  | some dir => chooseExternalCases world dir config.case
  | none =>
    match config.case with
    | some name =>
      match findCase world.includeStr name with
      | some case => .ok [case]
      | none => .error ⟨2, [s!"unknown case '{name}'", "available cases:"]⟩
    | none => .ok (profileCases world.includeStr config.profile)

/-- The case lists the program runs, each with its backend and policy: the cases selected on
the command line, and those of the actions of the interactive menu. -/
inductive RunsList (world : World) (config : Config) (policy : Policy) :
    Backend → Policy → List GuestCase → Prop where
  | selected (h : selectCases world config = .ok cases) :
    RunsList world config policy config.backend policy cases
  | profile (profile : Profile) :
    RunsList world config policy config.backend policy (profileCases world.includeStr profile)
  | supervisorTimeout :
    RunsList world config policy config.backend { policy with supervisorTimeoutMs := 100 }
      (findCase world.includeStr "non_cooperative_loop").toList
  | singlepass :
    RunsList world config policy .singlepass policy (profileCases world.includeStr .all)
  | externalCorpus
    (h : loadCorpus "examples/external-corpus" (world.corpusDir "examples/external-corpus") =
      .ok cases) :
    RunsList world config policy config.backend policy cases
  | singleCase (case : GuestCase) (h : case ∈ allCases world.includeStr) :
    RunsList world config policy config.backend policy [case]

def Config.supervisorOptions (config : Config) : SupervisorOptions where
  policyPath := config.policyPath
  corpusDir := config.corpusDir
  allowUnmetered := config.allowUnmetered

def runSelectedCase (platform : Platform) (config : Config) (case : GuestCase)
    (policy : Policy) : Option CaseReport :=
  match config.isolation with
  | .inProcess =>
    some (runCase platform.engine platform.guest platform.clock case config.backend policy)
  | .process =>
    runCaseSupervised platform.os case config.backend policy config.supervisorOptions

def collectCases (platform : Nat → Platform) (config : Config) (policy : Policy)
    (reports : List CaseReport) : List GuestCase → Option (List CaseReport)
  | [] => some reports
  | case :: cases => do
    let report ← runSelectedCase (platform reports.length) config case policy
    collectCases platform config policy (reports ++ [report]) cases

def collectRounds (platform : Nat → Platform) (config : Config) (cases : List GuestCase)
    (policy : Policy) (reports : List CaseReport) : Nat → Option (List CaseReport)
  | 0 => some reports
  | rounds + 1 => do
    let reports ← collectCases platform config policy reports cases
    collectRounds platform config cases policy reports rounds

/-- The sequential runner; its runs find the given platforms around them. -/
def collectReports (platform : Nat → Platform) (config : Config) (cases : List GuestCase)
    (policy : Policy) : Option (List CaseReport) :=
  collectRounds platform config cases policy [] config.repeat.toNat

end

end WasmerSectest
