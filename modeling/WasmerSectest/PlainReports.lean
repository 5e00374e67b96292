import WasmerSectest.Lib.Text
import WasmerSectest.Report

namespace WasmerSectest.Report
set_option autoImplicit true

/-- `{:<width}`: spaces up to a number of characters. -/
def padEnd (width : Nat) (text : String) : String :=
  text ++ String.ofList (List.replicate (width - text.toList.length) ' ')

def policyText (policy : Policy) : String :=
  s!"max_packet={policy.maxPacketLen} max_cap_string={policy.maxCapStringLen} " ++
  s!"max_alloc={policy.maxAlloc} fuel={policy.initialFuel} " ++
  s!"max_memory_pages={policy.maxMemoryPages} " ++
  s!"require_tick_import={policy.requireTickImport} " ++
  s!"supervisor_timeout_ms={policy.supervisorTimeoutMs}"

def result [HostArch] (report : CaseReport) : String :=
  if report.passed then "PASS" else "FAIL"

def textBoundary (event : ImportEvent) : String :=
  s!"  boundary: {event.import} => {event.decision} {codeName event.resultCode} " ++
  s!"gates={gatesPlain event.gates} evidence={event.detail}"

/-- The four lines before that of the last event. -/
def textCase [HostArch] (report : CaseReport) : String :=
  s!"[{result report}] {padEnd 22 report.name} {padEnd 10 report.category} " ++
  s!"{padEnd 8 report.severity} expected {padEnd 16 (codeName report.expectedCode)} " ++
  s!"got {padEnd 16 (actual report)} {report.description}\n" ++
  s!"  emulation: stage={report.stage} ttp={report.ttp}\n" ++
  s!"  control: {report.control}\n" ++
  s!"  detection: {report.detection}\n"

def renderTextCase [HostArch] (report : CaseReport) : String :=
  textCase report ++
  match report.telemetry.events.getLast? with
  | some event => textBoundary event ++ "\n"
  | none => ""

def textHeader [HostArch] (reports : List CaseReport) (policy : Policy) : String :=
  "Wasmer hostile-guest security harness\n" ++
  s!"runtime crate wasmer=6.1.0 | cases={reports.length} | policy {policyText policy}\n\n"

def textSummary [HostArch] (reports : List CaseReport) : String :=
  s!"\nsummary: {passed reports}/{reports.length} passed, {failed reports} failed\n"

def renderTextReport [HostArch] (reports : List CaseReport) (policy : Policy) : String :=
  textHeader reports policy ++
  String.join (reports.map renderTextCase) ++
  textSummary reports

def markdownHeader : String :=
  "| Case | Stage | TTP | Category | Severity | Expected | Actual | Result |"

def markdownDelimiter : String := "|---|---|---|---|---:|---|---|---|"

def markdownRow [HostArch] (report : CaseReport) : String :=
  s!"| `{report.name}` | {report.stage} | `{report.ttp}` | {report.category} " ++
  s!"| {report.severity} | `{codeName report.expectedCode}` | `{actual report}` " ++
  s!"| {result report} |"

def markdownBoundary (event : ImportEvent) : List String :=
  [s!"- Boundary: `{event.import}` => `{event.decision}` `{codeName event.resultCode}`",
    s!"- Gates: `{gatesPlain event.gates}`",
    s!"- Evidence: {event.detail}"]

/-- What the evidence of a case says before its last event. -/
def markdownCase [HostArch] (report : CaseReport) : String :=
  s!"### `{report.name}`\n\n" ++
  s!"- Attack: {report.description}\n" ++
  s!"- Stage: {report.stage}\n" ++
  s!"- TTP: `{report.ttp}`\n" ++
  s!"- Detection: {report.detection}\n" ++
  s!"- Control: {report.control}\n" ++
  s!"- Runtime: compile={report.compileUs.toNat}us " ++
  s!"instantiate={report.instantiateUs.toNat}us run={report.runUs.toNat}us\n"

def markdownEvidence [HostArch] (report : CaseReport) : String :=
  markdownCase report ++
  (match report.telemetry.events.getLast? with
  | some event => Text.unlines (markdownBoundary event)
  | none => "") ++
  "\n"

def markdownSummary [HostArch] (reports : List CaseReport) (policy : Policy) : List String :=
  ["# Wasmer Hostile-Guest Security Harness",
    "",
    "## Summary",
    "",
    "- Runtime crate: `wasmer=6.1.0`",
    s!"- Cases: `{reports.length}`",
    s!"- Passed: `{passed reports}`",
    s!"- Failed: `{failed reports}`",
    s!"- Policy: {policyText policy}",
    ""]

def markdownTable [HostArch] (reports : List CaseReport) : List String :=
  markdownHeader :: markdownDelimiter :: reports.map markdownRow

def renderMarkdownReport [HostArch] (reports : List CaseReport) (policy : Policy) : String :=
  Text.unlines (markdownSummary reports policy) ++
  Text.unlines ("## Cases" :: "" :: markdownTable reports) ++
  Text.unlines ["", "## Evidence", ""] ++
  String.join (reports.map markdownEvidence)

end WasmerSectest.Report
