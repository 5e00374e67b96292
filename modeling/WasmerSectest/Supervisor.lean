import WasmerSectest.Lib.Escape
import WasmerSectest.Lib.Text
import WasmerSectest.RunCase

namespace WasmerSectest
set_option autoImplicit true

def workerPrefix : List Char := "WASMER_DEMO_WORKER_V1".toList

def maxDetailChars : Nat := 512

structure SupervisorOptions where
  policyPath : Option String
  corpusDir : Option String
  allowUnmetered : Bool

/-- The characters that may not stand in a field of the worker's report line. -/
def fieldCodec : Escape.Codec where
  mark := '\\'
  letter
    | '\\' => some '\\'
    | '\t' => some 't'
    | '\n' => some 'n'
    | '\r' => some 'r'
    | _ => none
  char
    | '\\' => some '\\'
    | 't' => some '\t'
    | 'n' => some '\n'
    | 'r' => some '\r'
    | _ => none
  letter_mark := by decide
  char_letter := by
    intro c l h
    split at h <;> cases h <;> rfl

def escapeField (value : String) : List Char := fieldCodec.escape value.toList

def unescapeField (value : List Char) : Option String :=
  (fieldCodec.unescape value).map String.ofList

def truncate (value : String) (maxChars : Nat) : String :=
  if value.toList.length ≤ maxChars then value
  else String.ofList (value.toList.take (maxChars - 3)) ++ "..."

def showNat (n : Nat) : List Char := Nat.toDigits 10 n

def showI32 (code : Int32) : List Char := (toString code.toInt).toList

def parseI32 (value : List Char) : Option Int32 :=
  (Decimal.parseSigned (2 ^ 31) value).map Int32.ofInt

def parseBits (width : Nat) (value : List Char) : Option (BitVec width) :=
  (Decimal.parseUnsigned (2 ^ width) value).map (BitVec.ofNat width)

section
variable [HostArch]

structure WorkerSummary where
  actualCode : Option Int32
  compileUs : U128
  instantiateUs : U128
  runUs : U128
  wasmBytes : Usize
  ticksSeen : UInt32
  eventsLogged : Usize
  lastImport : String
  lastResultCode : Int32
  lastDetail : String
  hostError : Option String

def workerFields (report : CaseReport) : List (List Char) :=
  let last := report.telemetry.events.getLast?
  let eventCount : Usize := BitVec.ofNat _ report.telemetry.events.length
  [workerPrefix,
    (report.actualCode.map showI32).getD [],
    showNat report.compileUs.toNat,
    showNat report.instantiateUs.toNat,
    showNat report.runUs.toNat,
    showNat report.wasmBytes.toNat,
    showNat report.telemetry.ticksSeen.toNat,
    showNat eventCount.toNat,
    escapeField ((last.map ImportEvent.import).getD ""),
    showI32 ((last.map ImportEvent.resultCode).getD Abi.errInternal),
    escapeField ((last.map ImportEvent.detail).getD ""),
    escapeField (report.hostError.getD "")]

def encodeWorkerReport (report : CaseReport) : String :=
  String.ofList (['\t'].intercalate (workerFields report))

def parseActualCode (raw : List Char) : Option (Option Int32) :=
  if raw = [] then some none else (parseI32 raw).map some

def parseHostError (raw : String) : Option String := if raw = "" then none else some raw

def parseWorkerFields : List (List Char) → Option WorkerSummary
  | magic :: actualRaw :: compileUs :: instantiateUs :: runUs :: wasmBytes :: ticksSeen ::
      eventsLogged :: lastImport :: lastResultCode :: lastDetail :: hostErrorRaw :: _ =>
    if magic ≠ workerPrefix then none
    else do
      let actualCode ← parseActualCode actualRaw
      let compileUs ← parseBits 128 compileUs
      let instantiateUs ← parseBits 128 instantiateUs
      let runUs ← parseBits 128 runUs
      let wasmBytes ← parseBits HostArch.usizeBits wasmBytes
      let ticksSeen ← parseBits 32 ticksSeen
      let eventsLogged ← parseBits HostArch.usizeBits eventsLogged
      let lastImport ← unescapeField lastImport
      let lastResultCode ← parseI32 lastResultCode
      let lastDetail ← unescapeField lastDetail
      let hostErrorRaw ← unescapeField hostErrorRaw
      return {
        actualCode, compileUs, instantiateUs, runUs, wasmBytes, ticksSeen := ⟨ticksSeen⟩,
        eventsLogged, lastImport, lastResultCode, lastDetail,
        hostError := parseHostError hostErrorRaw }
  | _ => none

def parseWorkerSummary (stdout : String) : Option WorkerSummary := do
  let line ← (Text.lines stdout.toList).find? (workerPrefix.isPrefixOf ·)
  parseWorkerFields (line.splitOn '\t')

/-- `std::process::Output`, with the status as it is printed. -/
structure Output where
  status : String
  stdout : List UInt8
  stderr : List UInt8

def supervisorEvent (resultCode : Int32) (detail : String) (elapsedUs : U128)
    (gates : List Gate) : ImportEvent where
  «import» := "host.supervisor.process"
  ptr := none
  len := none
  align := none
  memorySize := none
  resultCode := resultCode
  detail := detail
  elapsedUs := elapsedUs
  gates := gates

def supervisorErrorReport (case : GuestCase) (backend : Backend) (hostError : String) :
    CaseReport :=
  { case.report backend with
    actualCode := some Abi.errInternal
    hostError := some hostError
    telemetry := {
      events := [supervisorEvent Abi.errInternal hostError 0 [.fail "supervisor.error"]] } }

def supervisedCompletionReport (case : GuestCase) (backend : Backend) (output : Output)
    (elapsedUs : U128) : CaseReport :=
  let stdout := Utf8.fromUtf8Lossy output.stdout
  let stderr := Utf8.fromUtf8Lossy output.stderr
  match parseWorkerSummary stdout with
  | none =>
    supervisorErrorReport case backend <|
      s!"worker protocol missing status={output.status} " ++
      s!"stderr={truncate stderr maxDetailChars}"
  | some summary =>
    let result := summary.actualCode.getD Abi.errInternal
    let gates := [Gate.pass "supervisor.spawn", .pass "supervisor.timeout",
      .pass "supervisor.exit", .pass "supervisor.protocol"]
    let gates :=
      if summary.hostError.isSome || summary.actualCode.isNone then
        gates ++ [.fail "worker.host_error"]
      else gates
    let actual := (summary.actualCode.map codeName).getD "HOST_ERROR"
    let detail := s!"worker exited status={output.status} elapsed={elapsedUs.toNat}us " ++
      s!"child_actual={actual} child_events={summary.eventsLogged.toNat} " ++
      s!"child_ticks={summary.ticksSeen} child_boundary={summary.lastImport} " ++
      s!"child_result={codeName summary.lastResultCode} " ++
      s!"child_detail={truncate summary.lastDetail maxDetailChars}"
    { case.report backend with
      actualCode := summary.actualCode
      hostError := summary.hostError
      compileUs := summary.compileUs
      instantiateUs := summary.instantiateUs
      runUs := summary.runUs
      wasmBytes := summary.wasmBytes
      telemetry := {
        events := [supervisorEvent result detail elapsedUs gates]
        ticksSeen := summary.ticksSeen } }

def timeoutReport (case : GuestCase) (backend : Backend) (timeoutMs : UInt64) (pid : UInt32)
    (elapsedUs : U128) : CaseReport :=
  { case.report backend with
    actualCode := some Abi.errTimeout
    runUs := elapsedUs
    telemetry := {
      events := [supervisorEvent Abi.errTimeout
        s!"worker pid={pid} exceeded {timeoutMs}ms supervisor timeout and was killed" elapsedUs
        [.pass "supervisor.spawn", .fail "supervisor.timeout", .pass "supervisor.kill"]] } }

/-- What one `try_wait` of the supervisor finds; `running` carries the time since the start
in nanoseconds and, should the worker be killed now, the time its report will show. -/
inductive Poll where
  | exited (elapsedUs : U128) (output : Except String Output)
  | running (elapsedNs : Nat) (killedUs : U128)
  | failed (err : String)

/-- The wait loop over the polls made so far; no report while the worker may still run. -/
def superviseLoop (case : GuestCase) (backend : Backend) (timeoutMs : UInt64) (pid : UInt32) :
    List Poll → Option CaseReport
  | [] => none
  | .exited elapsedUs (.ok output) :: _ =>
    some (supervisedCompletionReport case backend output elapsedUs)
  | .exited _ (.error err) :: _ =>
    some (supervisorErrorReport case backend s!"worker output collection failed: {err}")
  | .running elapsedNs killedUs :: polls =>
    if timeoutMs.toNat * 1000000 ≤ elapsedNs then
      some (timeoutReport case backend timeoutMs pid killedUs)
    else superviseLoop case backend timeoutMs pid polls
  | .failed err :: _ =>
    some (supervisorErrorReport case backend s!"worker wait failed: {err}")

/-- The operating system behind the supervisor: `spawn` starts the program with arguments and
gives its process id and what each poll of it finds. -/
structure Os where
  currentExe : Except String String
  spawn : String → List String → Except String (UInt32 × List Poll)

/-- What a run of a case finds around it: the engine and the guest's behaviour in it, the
clocks, and the operating system. -/
structure Platform where
  engine : Engine
  guest : GuestExecution
  clock : Timings
  os : Os

end

/-- The command line of the worker that is to run a case. -/
def workerArgs (case : GuestCase) (backend : Backend) (options : SupervisorOptions) :
    List String :=
  ["--worker-case", case.name, "--backend", backend.name, "--no-color"] ++
    (options.policyPath.map fun path => ["--policy", path]).getD [] ++
    (options.corpusDir.map fun dir => ["--corpus", dir]).getD [] ++
    (if options.allowUnmetered then ["--allow-unmetered"] else []) ++
    if case.kind = .staticAudit then ["--allow-unmetered", "--worker-execute-static-audit"]
    else []

def runCaseSupervised [HostArch] (os : Os) (case : GuestCase) (backend : Backend)
    (policy : Policy) (options : SupervisorOptions) : Option CaseReport :=
  match os.currentExe with
  | .error err => some (supervisorErrorReport case backend s!"current_exe failed: {err}")
  | .ok exe =>
    match os.spawn exe (workerArgs case backend options) with
    | .error err => some (supervisorErrorReport case backend s!"worker spawn failed: {err}")
    | .ok (pid, polls) => superviseLoop case backend policy.supervisorTimeoutMs pid polls

end WasmerSectest
