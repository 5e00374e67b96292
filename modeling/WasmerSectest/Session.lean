import WasmerSectest.Config
import WasmerSectest.Report

namespace WasmerSectest
set_option autoImplicit true

/-- `total`, `passed` and `failed` count a slice, so they fit a `usize`. -/
structure SessionSummary where
  id : String
  createdUnixMs : U128
  label : String
  backend : String
  isolation : String
  total : Nat
  passed : Nat
  failed : Nat
  totalRuntimeUs : U128
  path : String
  deriving DecidableEq

namespace Session

variable [HostArch]

def makeSummary (id : String) (createdUnixMs : U128) (label : String) (config : Config)
    (reports : List CaseReport) (path : String) : SessionSummary :=
  let passed := (reports.filter CaseReport.passed).length
  { id := id
    createdUnixMs := createdUnixMs
    label := label
    backend := config.backend.name
    isolation := config.isolation.name
    total := reports.length
    passed := passed
    failed := reports.length - passed
    totalRuntimeUs :=
      (reports.map fun report => report.compileUs + report.instantiateUs + report.runUs).sum
    path := path }

omit [HostArch] in
def jsonEscape (value : String) : String := escapeChars value

omit [HostArch] in
def jsonOpt (value : Option String) : String :=
  (value.map fun value => s!"\"{jsonEscape value}\"").getD "null"

omit [HostArch] in
def renderGate (gate : Gate) : String :=
  s!"\x7b\"name\": \"{jsonEscape gate.name}\", \"passed\": {gate.passed}\x7d"

omit [HostArch] in
def renderEvent (event : ImportEvent) : String :=
  s!"\x7b\"import\": \"{jsonEscape event.import}\", \"decision\": \"{event.decision}\", " ++
  s!"\"result\": \"{codeName event.resultCode}\", \"detail\": \"{jsonEscape event.detail}\", " ++
  s!"\"elapsed_us\": {event.elapsedUs.toNat}, " ++
  s!"\"gates\": [" ++ ", ".intercalate (event.gates.map renderGate) ++ "]\x7d"

def renderHostError (hostError : Option String) : String :=
  match hostError with
  | some error => s!"      \"host_error\": \"{jsonEscape error}\",\n"
  | none => "      \"host_error\": null,\n"

def renderCaseJson (report : CaseReport) : String :=
  let actual := (report.actualCode.map codeName).getD "HOST_ERROR"
  "    \x7b\n" ++
  s!"      \"name\": \"{jsonEscape report.name}\",\n" ++
  s!"      \"category\": \"{jsonEscape report.category}\",\n" ++
  s!"      \"severity\": \"{jsonEscape report.severity}\",\n" ++
  s!"      \"stage\": \"{jsonEscape report.stage}\",\n" ++
  s!"      \"ttp\": \"{jsonEscape report.ttp}\",\n" ++
  s!"      \"description\": \"{jsonEscape report.description}\",\n" ++
  s!"      \"control\": \"{jsonEscape report.control}\",\n" ++
  s!"      \"detection\": \"{jsonEscape report.detection}\",\n" ++
  s!"      \"source_path\": \"{jsonEscape report.sourcePath}\",\n" ++
  s!"      \"expected\": \"{codeName report.expectedCode}\",\n" ++
  s!"      \"actual\": \"{actual}\",\n" ++
  s!"      \"passed\": {report.passed},\n" ++
  s!"      \"timing_us\": \x7b\"compile\": {report.compileUs.toNat}, " ++
  s!"\"instantiate\": {report.instantiateUs.toNat}, \"run\": {report.runUs.toNat}\x7d,\n" ++
  s!"      \"memory\": \x7b\"before_pages\": {report.memoryBefore.pages}, " ++
  s!"\"after_pages\": {report.memoryAfter.pages}, " ++
  s!"\"before_bytes\": {report.memoryBefore.bytes}, " ++
  s!"\"after_bytes\": {report.memoryAfter.bytes}\x7d,\n" ++
  renderHostError report.hostError ++
  "      \"events\": [" ++
  pushSeparated ", " renderEvent report.telemetry.events ++
  "]\n" ++
  "    \x7d"

/-- `commandVersion` tells what the tools answer to `--version`. -/
def renderSessionJson (commandVersion : String → List String → Option String)
    (summary : SessionSummary) (label : String) (config : Config) (policy : Policy)
    (reports : List CaseReport) : String :=
  let wasmerCli := (commandVersion "wasmer" ["--version"]).getD "unavailable"
  let rustc := (commandVersion "rustc" ["--version"]).getD "unavailable"
  "\x7b\n" ++
  "  \"tool\": \"wasmer-hostile-guest-security-harness\",\n" ++
  s!"  \"session\": \x7b\"id\": \"{jsonEscape summary.id}\", " ++
  s!"\"label\": \"{jsonEscape label}\", " ++
  s!"\"created_unix_ms\": {summary.createdUnixMs.toNat}\x7d,\n" ++
  s!"  \"runtime\": \x7b\"crate\": \"wasmer=6.1.0\", " ++
  s!"\"wasmer_cli\": \"{jsonEscape wasmerCli}\", \"rustc\": \"{jsonEscape rustc}\"\x7d,\n" ++
  s!"  \"execution\": \x7b\"backend\": \"{config.backend.name}\", " ++
  s!"\"isolation\": \"{config.isolation.name}\", \"profile\": \"{config.profile.name}\", " ++
  s!"\"repeat\": {config.repeat.toNat}, \"corpus_dir\": {jsonOpt config.corpusDir}, " ++
  s!"\"policy_path\": {jsonOpt config.policyPath}\x7d,\n" ++
  s!"  \"policy\": \x7b\"max_packet_len\": {policy.maxPacketLen}, " ++
  s!"\"max_cap_string_len\": {policy.maxCapStringLen}, \"max_alloc\": {policy.maxAlloc}, " ++
  s!"\"fuel\": {policy.initialFuel}, \"max_memory_pages\": {policy.maxMemoryPages}, " ++
  s!"\"require_tick_import\": {policy.requireTickImport}, " ++
  s!"\"supervisor_timeout_ms\": {policy.supervisorTimeoutMs}, \"allowed_paths\": [" ++
  ", ".intercalate (policy.allowedPaths.map fun path => s!"\"{jsonEscape path}\"") ++
  "]\x7d,\n" ++
  s!"  \"summary\": \x7b\"total\": {summary.total}, \"passed\": {summary.passed}, " ++
  s!"\"failed\": {summary.failed}, " ++
  s!"\"total_runtime_us\": {summary.totalRuntimeUs.toNat}\x7d,\n" ++
  "  \"cases\": [\n" ++
  pushSeparated ",\n" renderCaseJson reports ++
  "\n  ]\n" ++
  "\x7d\n"

end Session

end WasmerSectest
