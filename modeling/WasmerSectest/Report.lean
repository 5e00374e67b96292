import WasmerSectest.RunCase

namespace WasmerSectest
set_option autoImplicit true

def ImportEvent.decision (event : ImportEvent) : String :=
  if event.resultCode = Abi.ok then "ALLOW" else "DENY"

/-- `char::is_control`. -/
def isControl (c : Char) : Bool := c.toNat < 0x20 || (0x7f ≤ c.toNat && c.toNat < 0xa0)

/-- What the escaping functions of both renderers push for a character. -/
def escapeChar (c : Char) : String :=
  match c with
  | '"' => "\\\""
  | '\\' => "\\\\"
  | '\n' => "\\n"
  | '\r' => "\\r"
  | '\t' => "\\t"
  | c => if isControl c then s!"\\u{hexPad 4 c.toNat}" else c.toString

def escapeChars (value : String) : String :=
  value.toList.foldl (fun out c => out ++ escapeChar c) ""

/-- A loop that pushes a separator before every item but the first. -/
def pushSeparated (separator : String) (render : α → String) (items : List α) : String :=
  items.zipIdx.foldl
    (fun out (item, index) => (if index > 0 then out ++ separator else out) ++ render item) ""

namespace Report

def jsonEscape (value : String) : String := escapeChars value

def gatesPlain (gates : List Gate) : String :=
  ", ".intercalate (gates.map fun gate =>
    let status := if gate.passed then "ok" else "fail"
    s!"{gate.name}:{status}")

def passed [HostArch] (reports : List CaseReport) : Nat :=
  (reports.filter CaseReport.passed).length

def failed [HostArch] (reports : List CaseReport) : Nat := reports.length - passed reports

def actual [HostArch] (report : CaseReport) : String :=
  (report.actualCode.map codeName).getD "HOST_ERROR"

def renderJsonEvent (event : ImportEvent) : String :=
  s!"\x7b\"import\": \"{jsonEscape event.import}\", \"decision\": \"{event.decision}\", " ++
  s!"\"result\": \"{codeName event.resultCode}\", \"detail\": \"{jsonEscape event.detail}\", " ++
  s!"\"gates\": \"{jsonEscape (gatesPlain event.gates)}\"\x7d"

def renderJsonCase [HostArch] (report : CaseReport) : String :=
  "    \x7b\n" ++
  s!"      \"name\": \"{jsonEscape report.name}\",\n" ++
  s!"      \"category\": \"{jsonEscape report.category}\",\n" ++
  s!"      \"severity\": \"{jsonEscape report.severity}\",\n" ++
  s!"      \"stage\": \"{jsonEscape report.stage}\",\n" ++
  s!"      \"ttp\": \"{jsonEscape report.ttp}\",\n" ++
  s!"      \"description\": \"{jsonEscape report.description}\",\n" ++
  s!"      \"control\": \"{jsonEscape report.control}\",\n" ++
  s!"      \"detection\": \"{jsonEscape report.detection}\",\n" ++
  s!"      \"expected\": \"{codeName report.expectedCode}\",\n" ++
  s!"      \"actual\": \"{actual report}\",\n" ++
  s!"      \"passed\": {report.passed},\n" ++
  s!"      \"timing_us\": \x7b\"compile\": {report.compileUs.toNat}, " ++
  s!"\"instantiate\": {report.instantiateUs.toNat}, \"run\": {report.runUs.toNat}\x7d,\n" ++
  "      \"events\": [" ++
  pushSeparated ", " renderJsonEvent report.telemetry.events ++
  "]\n" ++
  "    \x7d"

def renderJsonReport [HostArch] (reports : List CaseReport) (policy : Policy) : String :=
  "\x7b\n" ++
  "  \"tool\": \"wasmer-hostile-guest-security-harness\",\n" ++
  "  \"runtime_crate\": \"wasmer=6.1.0\",\n" ++
  s!"  \"policy\": \x7b\"max_packet_len\": {policy.maxPacketLen}, " ++
  s!"\"max_cap_string_len\": {policy.maxCapStringLen}, \"max_alloc\": {policy.maxAlloc}, " ++
  s!"\"fuel\": {policy.initialFuel}, \"max_memory_pages\": {policy.maxMemoryPages}, " ++
  s!"\"require_tick_import\": {policy.requireTickImport}, " ++
  s!"\"supervisor_timeout_ms\": {policy.supervisorTimeoutMs}\x7d,\n" ++
  s!"  \"summary\": \x7b\"total\": {reports.length}, \"passed\": {passed reports}, " ++
  s!"\"failed\": {failed reports}\x7d,\n" ++
  "  \"cases\": [\n" ++
  pushSeparated ",\n" renderJsonCase reports ++
  "\n  ]\n" ++
  "\x7d\n"

/-- The name as it is, unlike everywhere else. -/
def sarifRuleId [HostArch] (report : CaseReport) : String := s!"wasmer-harness/{report.name}"

def sarifLevel [HostArch] (report : CaseReport) : String :=
  match report.severity with
  | "critical" | "high" => "error"
  | "medium" => "warning"
  | _ => "note"

def renderSarifRule [HostArch] (report : CaseReport) : String :=
  s!"            \x7b\"id\": \"{sarifRuleId report}\", \"name\": \"{jsonEscape report.name}\", " ++
  s!"\"shortDescription\": \x7b\"text\": \"{jsonEscape report.description}\"\x7d, " ++
  s!"\"fullDescription\": \x7b\"text\": \"{jsonEscape report.control}\"\x7d, " ++
  s!"\"properties\": \x7b\"category\": \"{jsonEscape report.category}\", " ++
  s!"\"severity\": \"{jsonEscape report.severity}\", " ++
  s!"\"stage\": \"{jsonEscape report.stage}\", \"ttp\": \"{jsonEscape report.ttp}\", " ++
  s!"\"expected\": \"{codeName report.expectedCode}\", " ++
  s!"\"control\": \"{jsonEscape report.control}\", " ++
  s!"\"detection\": \"{jsonEscape report.detection}\"\x7d\x7d"

/-- The detail of a result: the host error, else that of the last event. -/
def sarifDetail [HostArch] (report : CaseReport) : String :=
  (report.hostError.or (report.telemetry.events.getLast?.map ImportEvent.detail)).getD
    "no boundary telemetry captured"

def renderSarifResult [HostArch] (report : CaseReport) : String :=
  s!"        \x7b\"ruleId\": \"{sarifRuleId report}\", \"level\": \"{sarifLevel report}\", " ++
  s!"\"message\": \x7b\"text\": \"{jsonEscape report.name} expected " ++
  s!"{codeName report.expectedCode} but got {actual report}; " ++
  s!"{jsonEscape (sarifDetail report)}\"\x7d, " ++
  s!"\"locations\": [\x7b\"physicalLocation\": \x7b\"artifactLocation\": " ++
  s!"\x7b\"uri\": \"{jsonEscape report.sourcePath}\"\x7d, " ++
  s!"\"region\": \x7b\"startLine\": 1\x7d\x7d\x7d], " ++
  s!"\"properties\": \x7b\"category\": \"{jsonEscape report.category}\", " ++
  s!"\"severity\": \"{jsonEscape report.severity}\", " ++
  s!"\"stage\": \"{jsonEscape report.stage}\", \"ttp\": \"{jsonEscape report.ttp}\", " ++
  s!"\"expected\": \"{codeName report.expectedCode}\", \"actual\": \"{actual report}\", " ++
  s!"\"control\": \"{jsonEscape report.control}\", " ++
  s!"\"detection\": \"{jsonEscape report.detection}\"\x7d\x7d"

def sarifHeader : String :=
  "\x7b\n" ++
  "  \"$schema\": \"https://json.schemastore.org/sarif-2.1.0.json\",\n" ++
  "  \"version\": \"2.1.0\",\n" ++
  "  \"runs\": [\n" ++
  "    \x7b\n" ++
  "      \"tool\": \x7b\n" ++
  "        \"driver\": \x7b\n" ++
  "          \"name\": \"wasmer-hostile-guest-security-harness\",\n" ++
  "          \"informationUri\": \"https://github.com/wasmerio/wasmer\",\n" ++
  "          \"semanticVersion\": \"0.1.0\",\n" ++
  "          \"rules\": [\n"

def renderSarifInvocations [HostArch] (reports : List CaseReport) (policy : Policy) : String :=
  s!"      \"invocations\": [\x7b\"executionSuccessful\": {failed reports == 0}, " ++
  s!"\"properties\": \x7b\"totalCases\": {reports.length}, " ++
  s!"\"passedCases\": {passed reports}, \"failedCases\": {failed reports}, " ++
  s!"\"maxPacketLen\": {policy.maxPacketLen}, \"maxCapStringLen\": {policy.maxCapStringLen}, " ++
  s!"\"maxAlloc\": {policy.maxAlloc}, \"fuel\": {policy.initialFuel}, " ++
  s!"\"maxMemoryPages\": {policy.maxMemoryPages}, " ++
  s!"\"requireTickImport\": {policy.requireTickImport}, " ++
  s!"\"supervisorTimeoutMs\": {policy.supervisorTimeoutMs}\x7d\x7d],\n"

def renderSarifResults [HostArch] (failures : List CaseReport) : String :=
  "      \"results\": [" ++
  (if failures.isEmpty then "" else "\n") ++
  pushSeparated ",\n" renderSarifResult failures ++
  (if failures.isEmpty then "" else "\n      ") ++
  "]\n"

def renderSarifReport [HostArch] (reports : List CaseReport) (policy : Policy) : String :=
  sarifHeader ++
  pushSeparated ",\n" renderSarifRule reports ++
  "\n          ]\n" ++
  "        \x7d\n" ++
  "      \x7d,\n" ++
  renderSarifInvocations reports policy ++
  renderSarifResults (reports.filter fun report => !report.passed) ++
  "    \x7d\n" ++
  "  ]\n" ++
  "\x7d\n"

/-- The names that codes have in the reports. -/
def codeNames : List String :=
  ["OK", "ERR_BOUNDS", "ERR_ALIGN", "ERR_HEADER", "ERR_CAPABILITY", "ERR_ALLOC", "ERR_BUDGET",
    "ERR_INTERNAL", "ERR_TOO_LARGE", "ERR_UTF8", "ERR_TIMEOUT", "UNKNOWN"]

theorem codeName_mem (code : Int32) : codeName code ∈ codeNames := by
  unfold codeName
  repeat' split
  all_goals decide

theorem decision_mem (event : ImportEvent) : event.decision ∈ ["ALLOW", "DENY"] := by
  rw [ImportEvent.decision]
  split
  · exact List.mem_cons_self
  · exact List.mem_cons_of_mem _ List.mem_cons_self

theorem actual_mem [HostArch] (report : CaseReport) :
    actual report ∈ "HOST_ERROR" :: codeNames := by
  rw [actual]
  cases report.actualCode with
  | none => exact List.mem_cons_self
  | some code => exact List.mem_cons_of_mem _ (codeName_mem code)

end Report

end WasmerSectest
