import WasmerSectest.Lib.Json.Reader
import WasmerSectest.Lib.Json.Written
import WasmerSectest.Session

namespace WasmerSectest
set_option autoImplicit true

def hexDigits (n : Nat) : List Char :=
  List.replicate (4 - (Nat.toDigits 16 n).length) '0' ++ Nat.toDigits 16 n

theorem hexPad_toList (n : Nat) : (hexPad 4 n).toList = hexDigits n := by
  rw [hexPad, String.toList_ofList]
  rfl

/-- The escape of a control character is read back as that character. -/
theorem pieceChar_hexDigits : ∀ n < 0xa0,
    Json.pieceChar ('\\' :: 'u' :: hexDigits n) = some (Char.ofNat n) := by
  decide +kernel

theorem toNat_lt_of_isControl (h : isControl c = true) : c.toNat < 0xa0 := by
  simp only [isControl, Bool.or_eq_true, Bool.and_eq_true, decide_eq_true_eq] at h
  omega

theorem isUnescaped_of_not_isControl (hquote : c ≠ '"') (hslash : c ≠ '\\')
    (h : isControl c ≠ true) : Json.isUnescaped c = true := by
  have hle : 0x20 ≤ c.toNat := by
    simp only [isControl, ne_eq, Bool.or_eq_true, Bool.and_eq_true, decide_eq_true_eq,
      not_or] at h
    omega
  rw [Json.isUnescaped, Bool.and_eq_true, Bool.and_eq_true, bne_iff_ne, bne_iff_ne]
  exact ⟨⟨decide_eq_true hle, hquote⟩, hslash⟩

theorem pieceChar_escapeChar (c : Char) : Json.pieceChar (escapeChar c).toList = some c := by
  rw [escapeChar.eq_def]
  split
  case h_1 | h_2 | h_3 | h_4 | h_5 => rfl
  case h_6 hquote hslash _ _ _ =>
    by_cases hc : isControl c = true
    · have hpiece := pieceChar_hexDigits c.toNat (toNat_lt_of_isControl hc)
      rw [Char.ofNat_toNat, ← hexPad_toList] at hpiece
      rw [if_pos hc, String.toList_append]
      exact hpiece
    · rw [if_neg hc]
      have hsingle : c.toString.toList = [c] := String.toList_singleton c
      rw [hsingle]
      exact if_pos (isUnescaped_of_not_isControl hquote hslash hc)

theorem escapeChars_toList (value : String) :
    (escapeChars value).toList = value.toList.flatMap fun c => (escapeChar c).toList := by
  have hfold (cs : List Char) (out : String) :
      (cs.foldl (fun out c => out ++ escapeChar c) out).toList =
        out.toList ++ cs.flatMap fun c => (escapeChar c).toList := by
    induction cs generalizing out with
    | nil => exact (List.append_nil _).symm
    | cons c cs ih =>
      rw [List.foldl_cons, ih, String.toList_append, List.append_assoc]
      rfl
  exact hfold value.toList ""

theorem escapeChars_chars (value : String) :
    Json.Chars (escapeChars value).toList value.toList := by
  rw [escapeChars_toList]
  exact Json.chars_flatMap pieceChar_escapeChar value.toList

@[simps! value text]
def escaped (value : String) : Json.Written :=
  .quoted value (escapeChars value).toList (escapeChars_chars value)

@[simp] theorem toString_string (s : String) : toString s = s := rfl

@[simp] theorem toString_uInt32 (n : UInt32) : toString n = toString n.toNat := rfl

@[simp] theorem toString_uInt64 (n : UInt64) : toString n = toString n.toNat := rfl

theorem intercalate_cons (separator first : List α) (rest : List (List α)) :
    separator.intercalate (first :: rest) = first ++ rest.flatMap (separator ++ ·) := by
  induction rest generalizing first with
  | nil =>
    rw [List.intercalate_singleton, List.flatMap_nil, List.append_nil]
  | cons second rest ih =>
    rw [List.intercalate_cons_cons, ih, List.append_assoc, List.flatMap_cons, List.append_assoc]

theorem pushSeparated_toList (separator : String) (render : α → String) (items : List α) :
    (pushSeparated separator render items).toList =
      separator.toList.intercalate (items.map fun item => (render item).toList) := by
  let push (out : String) (entry : α × Nat) : String :=
    (if entry.2 > 0 then out ++ separator else out) ++ render entry.1
  -- After the first item the loop always pushes the separator.
  have hrest (items : List α) (n : Nat) (out : String) :
      ((items.zipIdx (n + 1)).foldl push out).toList =
        out.toList ++
          (items.map fun item => (render item).toList).flatMap (separator.toList ++ ·) := by
    induction items generalizing n out with
    | nil => exact (List.append_nil _).symm
    | cons item items ih =>
      have hpush : push out (item, n + 1) = out ++ separator ++ render item := rfl
      rw [List.zipIdx_cons, List.foldl_cons, ih, hpush, String.toList_append,
        String.toList_append, List.map_cons, List.flatMap_cons]
      simp only [List.append_assoc]
  cases items with
  | nil => rfl
  | cons first rest =>
    rw [List.map_cons, intercalate_cons]
    exact hrest rest 0 _

open Report (gatesPlain actual)

def policyMembers (policy : Policy) : List (String × Json) :=
  [("max_packet_len", .nat policy.maxPacketLen.toNat),
    ("max_cap_string_len", .nat policy.maxCapStringLen.toNat),
    ("max_alloc", .nat policy.maxAlloc.toNat),
    ("fuel", .nat policy.initialFuel.toNat),
    ("max_memory_pages", .nat policy.maxMemoryPages.toNat),
    ("require_tick_import", .bool policy.requireTickImport),
    ("supervisor_timeout_ms", .nat policy.supervisorTimeoutMs.toNat)]

section
variable [HostArch]

def textMembers (report : CaseReport) : List (String × Json) :=
  [("name", .str report.name),
    ("category", .str report.category),
    ("severity", .str report.severity),
    ("stage", .str report.stage),
    ("ttp", .str report.ttp),
    ("description", .str report.description),
    ("control", .str report.control),
    ("detection", .str report.detection)]

def outcomeMembers (report : CaseReport) : List (String × Json) :=
  [("expected", .str (codeName report.expectedCode)),
    ("actual", .str (actual report)),
    ("passed", .bool report.passed),
    ("timing_us", .obj
      [("compile", .nat report.compileUs.toNat),
        ("instantiate", .nat report.instantiateUs.toNat),
        ("run", .nat report.runUs.toNat)])]

/-- An event in the report; its gates are one string. -/
def eventJson (event : ImportEvent) : Json :=
  .obj
    [("import", .str event.import),
      ("decision", .str event.decision),
      ("result", .str (codeName event.resultCode)),
      ("detail", .str event.detail),
      ("gates", .str (gatesPlain event.gates))]

def caseJson (report : CaseReport) : Json :=
  .obj (textMembers report ++ outcomeMembers report ++
    [("events", .arr (report.telemetry.events.map eventJson))])

def reportJson (reports : List CaseReport) (policy : Policy) : Json :=
  .obj
    [("tool", .str "wasmer-hostile-guest-security-harness"),
      ("runtime_crate", .str "wasmer=6.1.0"),
      ("policy", .obj (policyMembers policy)),
      ("summary", .obj
        [("total", .nat reports.length),
          ("passed", .nat (Report.passed reports)),
          ("failed", .nat (Report.failed reports))]),
      ("cases", .arr (reports.map caseJson))]

def gateJson (gate : Gate) : Json := .obj [("name", .str gate.name), ("passed", .bool gate.passed)]

/-- An event in a session, with its time and its gates one by one. -/
def sessionEventJson (event : ImportEvent) : Json :=
  .obj
    [("import", .str event.import),
      ("decision", .str event.decision),
      ("result", .str (codeName event.resultCode)),
      ("detail", .str event.detail),
      ("elapsed_us", .nat event.elapsedUs.toNat),
      ("gates", .arr (event.gates.map gateJson))]

def sessionCaseJson (report : CaseReport) : Json :=
  .obj (textMembers report ++ [("source_path", .str report.sourcePath)] ++
    outcomeMembers report ++
    [("memory", .obj
        [("before_pages", .nat report.memoryBefore.pages.toNat),
          ("after_pages", .nat report.memoryAfter.pages.toNat),
          ("before_bytes", .nat report.memoryBefore.bytes.toNat),
          ("after_bytes", .nat report.memoryAfter.bytes.toNat)]),
      ("host_error", (report.hostError.map Json.str).getD .null),
      ("events", .arr (report.telemetry.events.map sessionEventJson))])

def sessionJson (commandVersion : String → List String → Option String)
    (summary : SessionSummary) (label : String) (config : Config) (policy : Policy)
    (reports : List CaseReport) : Json :=
  .obj
    [("tool", .str "wasmer-hostile-guest-security-harness"),
      ("session", .obj
        [("id", .str summary.id),
          ("label", .str label),
          ("created_unix_ms", .nat summary.createdUnixMs.toNat)]),
      ("runtime", .obj
        [("crate", .str "wasmer=6.1.0"),
          ("wasmer_cli", .str ((commandVersion "wasmer" ["--version"]).getD "unavailable")),
          ("rustc", .str ((commandVersion "rustc" ["--version"]).getD "unavailable"))]),
      ("execution", .obj
        [("backend", .str config.backend.name),
          ("isolation", .str config.isolation.name),
          ("profile", .str config.profile.name),
          ("repeat", .nat config.repeat.toNat),
          ("corpus_dir", (config.corpusDir.map Json.str).getD .null),
          ("policy_path", (config.policyPath.map Json.str).getD .null)]),
      ("policy", .obj (policyMembers policy ++
        [("allowed_paths", .arr (policy.allowedPaths.map Json.str))])),
      ("summary", .obj
        [("total", .nat summary.total),
          ("passed", .nat summary.passed),
          ("failed", .nat summary.failed),
          ("total_runtime_us", .nat summary.totalRuntimeUs.toNat)]),
      ("cases", .arr (reports.map sessionCaseJson))]

end

theorem decision_plain (event : ImportEvent) :
    event.decision.toList.all Json.isUnescaped = true := by
  have hwords : ∀ word ∈ ["ALLOW", "DENY"], word.toList.all Json.isUnescaped = true := by decide
  exact hwords _ (Report.decision_mem event)

theorem codeNames_plain :
    ∀ name ∈ Report.codeNames, name.toList.all Json.isUnescaped = true := by decide

theorem codeName_plain (code : Int32) : (codeName code).toList.all Json.isUnescaped = true :=
  codeNames_plain _ (Report.codeName_mem code)

theorem backend_plain (backend : Backend) :
    backend.name.toList.all Json.isUnescaped = true := by
  cases backend <;> decide

theorem isolation_plain (isolation : IsolationMode) :
    isolation.name.toList.all Json.isUnescaped = true := by
  cases isolation <;> decide

theorem profile_plain (profile : Profile) :
    profile.name.toList.all Json.isUnescaped = true := by
  cases profile <;> decide

section
variable [HostArch]

theorem actual_plain (report : CaseReport) :
    (actual report).toList.all Json.isUnescaped = true := by
  rcases List.mem_cons.1 (Report.actual_mem report) with heq | hname
  · rw [heq]
    decide
  · exact codeNames_plain _ hname

@[simps! value text]
def codeWritten (code : Int32) : Json.Written := .plain (codeName code) (codeName_plain code)

def optWritten (value : Option String) : Json.Written := (value.map escaped).getD .null

omit [HostArch] in
theorem optWritten_value (value : Option String) :
    (optWritten value).value = (value.map Json.str).getD .null := by
  cases value <;> rfl

@[simps opening between closing]
def documentSpacing : Json.Spacing where
  opening := "\n  "
  between := "\n  "
  closing := "\n"

@[simps opening between closing]
def entrySpacing : Json.Spacing where
  opening := "\n      "
  between := "\n      "
  closing := "\n    "

@[simps! value text]
def harnessName : Json.Written := .plain "wasmer-hostile-guest-security-harness"

@[simp] def toolField (written : Json.Written) : Json.Field := .mk "tool" written

@[simp] def idField (written : Json.Written) : Json.Field := .mk "id" written

@[simp] def fuelField (policy : Policy) : Json.Field := .mk "fuel" (.nat policy.initialFuel.toNat)

@[simp] def policyFields (policy : Policy) : List Json.Field :=
  [.mk "max_packet_len" (.nat policy.maxPacketLen.toNat),
    .mk "max_cap_string_len" (.nat policy.maxCapStringLen.toNat),
    .mk "max_alloc" (.nat policy.maxAlloc.toNat),
    fuelField policy,
    .mk "max_memory_pages" (.nat policy.maxMemoryPages.toNat),
    .mk "require_tick_import" (.bool policy.requireTickImport),
    .mk "supervisor_timeout_ms" (.nat policy.supervisorTimeoutMs.toNat)]

@[simp] def nameField (written : Json.Written) : Json.Field := .mk "name" written

@[simp] def classFields (report : CaseReport) : List Json.Field :=
  [.mk "category" (escaped report.category),
    .mk "severity" (escaped report.severity),
    .mk "stage" (escaped report.stage),
    .mk "ttp" (escaped report.ttp)]

@[simp] def controlFields (report : CaseReport) : List Json.Field :=
  [.mk "control" (escaped report.control), .mk "detection" (escaped report.detection)]

@[simp] def textFields (report : CaseReport) : List Json.Field :=
  nameField (escaped report.name) :: (classFields report ++
    .mk "description" (escaped report.description) :: controlFields report)

@[simp] def expectedField (report : CaseReport) : Json.Field :=
  .mk "expected" (codeWritten report.expectedCode)

@[simp] def actualField (report : CaseReport) : Json.Field :=
  .mk "actual" (.plain (actual report) (actual_plain report))

@[simp] def outcomeFields (report : CaseReport) : List Json.Field :=
  [expectedField report,
    actualField report,
    .mk "passed" (.bool report.passed),
    .mk "timing_us" (.obj .spaced
      [.mk "compile" (.nat report.compileUs.toNat),
        .mk "instantiate" (.nat report.instantiateUs.toNat),
        .mk "run" (.nat report.runUs.toNat)])]

def eventWritten (event : ImportEvent) : Json.Written :=
  .obj .spaced
    [.mk "import" (escaped event.import),
      .mk "decision" (.plain event.decision (decision_plain event)),
      .mk "result" (codeWritten event.resultCode),
      .mk "detail" (escaped event.detail),
      .mk "gates" (escaped (gatesPlain event.gates))]

def caseWritten (report : CaseReport) : Json.Written :=
  .obj entrySpacing (textFields report ++ outcomeFields report ++
      [.mk "events" (.arr .spaced eventWritten report.telemetry.events)])

def reportWritten (reports : List CaseReport) (policy : Policy) : Json.Written :=
  .obj documentSpacing
    [toolField harnessName,
      .mk "runtime_crate" (.plain "wasmer=6.1.0"),
      .mk "policy" (.obj .spaced (policyFields policy)),
      .mk "summary" (.obj .spaced
        [.mk "total" (.nat reports.length),
          .mk "passed" (.nat (Report.passed reports)),
          .mk "failed" (.nat (Report.failed reports))]),
      .mk "cases" (.arr { opening := "\n", between := "\n", closing := "\n  " }
        (fun report => (caseWritten report).indented "    ") reports)]

def gateWritten (gate : Gate) : Json.Written :=
  .obj .spaced [nameField (escaped gate.name), .mk "passed" (.bool gate.passed)]

def sessionEventWritten (event : ImportEvent) : Json.Written :=
  .obj .spaced
    [.mk "import" (escaped event.import),
      .mk "decision" (.plain event.decision (decision_plain event)),
      .mk "result" (codeWritten event.resultCode),
      .mk "detail" (escaped event.detail),
      .mk "elapsed_us" (.nat event.elapsedUs.toNat),
      .mk "gates" (.arr .spaced gateWritten event.gates)]

def sessionCaseWritten (report : CaseReport) : Json.Written :=
  .obj entrySpacing (textFields report ++ [.mk "source_path" (escaped report.sourcePath)] ++
      outcomeFields report ++
      [.mk "memory" (.obj .spaced
          [.mk "before_pages" (.nat report.memoryBefore.pages.toNat),
            .mk "after_pages" (.nat report.memoryAfter.pages.toNat),
            .mk "before_bytes" (.nat report.memoryBefore.bytes.toNat),
            .mk "after_bytes" (.nat report.memoryAfter.bytes.toNat)]),
        .mk "host_error" (optWritten report.hostError),
        .mk "events" (.arr .spaced sessionEventWritten report.telemetry.events)])

def sessionWritten (commandVersion : String → List String → Option String)
    (summary : SessionSummary) (label : String) (config : Config) (policy : Policy)
    (reports : List CaseReport) : Json.Written :=
  .obj documentSpacing
    [toolField harnessName,
      .mk "session" (.obj .spaced
        [idField (escaped summary.id),
          .mk "label" (escaped label),
          .mk "created_unix_ms" (.nat summary.createdUnixMs.toNat)]),
      .mk "runtime" (.obj .spaced
        [.mk "crate" (.plain "wasmer=6.1.0"),
          .mk "wasmer_cli"
            (escaped ((commandVersion "wasmer" ["--version"]).getD "unavailable")),
          .mk "rustc" (escaped ((commandVersion "rustc" ["--version"]).getD "unavailable"))]),
      .mk "execution" (.obj .spaced
        [.mk "backend" (.plain config.backend.name (backend_plain config.backend)),
          .mk "isolation" (.plain config.isolation.name (isolation_plain config.isolation)),
          .mk "profile" (.plain config.profile.name (profile_plain config.profile)),
          .mk "repeat" (.nat config.repeat.toNat),
          .mk "corpus_dir" (optWritten config.corpusDir),
          .mk "policy_path" (optWritten config.policyPath)]),
      .mk "policy" (.obj .spaced (policyFields policy ++
        [.mk "allowed_paths" (.arr .spaced escaped policy.allowedPaths)])),
      .mk "summary" (.obj .spaced
        [.mk "total" (.nat summary.total),
          .mk "passed" (.nat summary.passed),
          .mk "failed" (.nat summary.failed),
          .mk "total_runtime_us" (.nat summary.totalRuntimeUs.toNat)]),
      .mk "cases" (.arr { opening := "\n", between := "\n", closing := "\n  " }
        (fun report => (sessionCaseWritten report).indented "    ") reports)]

omit [HostArch] in
theorem renderJsonEvent_toList (event : ImportEvent) :
    (Report.renderJsonEvent event).toList = (eventWritten event).text := by
  delta Report.renderJsonEvent Report.jsonEscape
  simp [eventWritten, -String.reduceToList]
  repeat rw [String.toList_ofList]
  simp only [List.cons_append, List.nil_append]

theorem renderJsonCase_toList (report : CaseReport) :
    (Report.renderJsonCase report).toList = ((caseWritten report).indented "    ").text := by
  delta Report.renderJsonCase Report.jsonEscape
  simp [caseWritten, pushSeparated_toList, renderJsonEvent_toList,
    -String.reduceToList]
  repeat rw [String.toList_ofList]
  simp only [List.cons_append, List.nil_append]

theorem renderJsonReport_toList (reports : List CaseReport) (policy : Policy) :
    (Report.renderJsonReport reports policy).toList =
      ((reportWritten reports policy).text ++ ['\n']) := by
  delta Report.renderJsonReport Report.jsonEscape
  simp [reportWritten, pushSeparated_toList, renderJsonCase_toList,
    -String.reduceToList]
  repeat rw [String.toList_ofList]
  simp only [List.cons_append, List.nil_append]

omit [HostArch] in
theorem jsonOpt_toList (value : Option String) :
    (Session.jsonOpt value).toList = (optWritten value).text := by
  cases value with
  | none => rfl
  | some value =>
    change (s!"\"{escapeChars value}\"").toList = (escaped value).text
    simp

omit [HostArch] in
theorem renderGate_toList (gate : Gate) :
    (Session.renderGate gate).toList = (gateWritten gate).text := by
  delta Session.renderGate Session.jsonEscape
  simp [gateWritten, -String.reduceToList]
  repeat rw [String.toList_ofList]
  simp only [List.cons_append, List.nil_append]

omit [HostArch] in
theorem renderEvent_toList (event : ImportEvent) :
    (Session.renderEvent event).toList = (sessionEventWritten event).text := by
  delta Session.renderEvent Session.jsonEscape
  simp [sessionEventWritten, String.toList_intercalate, renderGate_toList, Function.comp_def,
    -String.reduceToList]
  repeat rw [String.toList_ofList]
  simp only [List.cons_append, List.nil_append]

omit [HostArch] in
theorem renderHostError_toList (hostError : Option String) :
    (Session.renderHostError hostError).toList =
      "      \"host_error\": ".toList ++ ((optWritten hostError).text ++ [',', '\n']) := by
  cases hostError with
  | none => rfl
  | some error =>
    change (s!"      \"host_error\": \"{escapeChars error}\",\n").toList =
      "      \"host_error\": ".toList ++ ((escaped error).text ++ [',', '\n'])
    simp

set_option maxRecDepth 4096 in
theorem renderCaseJson_toList (report : CaseReport) :
    (Session.renderCaseJson report).toList = ((sessionCaseWritten report).indented "    ").text := by
  delta Session.renderCaseJson Session.jsonEscape
  simp [sessionCaseWritten, pushSeparated_toList, renderEvent_toList,
    renderHostError_toList, actual, -String.reduceToList]
  repeat rw [String.toList_ofList]
  simp only [List.cons_append, List.nil_append]

set_option maxRecDepth 4096 in
theorem renderSessionJson_toList (commandVersion : String → List String → Option String)
    (summary : SessionSummary) (label : String) (config : Config) (policy : Policy)
    (reports : List CaseReport) :
    (Session.renderSessionJson commandVersion summary label config policy reports).toList =
      ((sessionWritten commandVersion summary label config policy reports).text ++ ['\n']) := by
  delta Session.renderSessionJson Session.jsonEscape
  simp [sessionWritten, pushSeparated_toList, renderCaseJson_toList, jsonOpt_toList,
    String.toList_intercalate, Function.comp_def, -String.reduceToList]
  repeat rw [String.toList_ofList]
  simp only [List.cons_append, List.nil_append]

theorem sessionCaseWritten_value (report : CaseReport) :
    (sessionCaseWritten report).value = sessionCaseJson report := by
  simp only [sessionCaseJson, ← optWritten_value]
  rfl

theorem sessionWritten_value (commandVersion : String → List String → Option String)
    (summary : SessionSummary) (label : String) (config : Config) (policy : Policy)
    (reports : List CaseReport) :
    (sessionWritten commandVersion summary label config policy reports).value =
      sessionJson commandVersion summary label config policy reports := by
  have hcase : sessionCaseJson = fun report => (sessionCaseWritten report).value :=
    (funext sessionCaseWritten_value).symm
  simp only [sessionJson, ← optWritten_value, hcase]
  rfl

theorem report_document (reports : List CaseReport) (policy : Policy) :
    Json.Document (Report.renderJsonReport reports policy) (reportJson reports policy) := by
  have hspace : Json.IsWhitespace ['\n'] := by decide
  exact (reportWritten reports policy).document hspace (renderJsonReport_toList reports policy)

theorem session_document (commandVersion : String → List String → Option String)
    (summary : SessionSummary) (label : String) (config : Config) (policy : Policy)
    (reports : List CaseReport) :
    Json.Document (Session.renderSessionJson commandVersion summary label config policy reports)
      (sessionJson commandVersion summary label config policy reports) := by
  have hspace : Json.IsWhitespace ['\n'] := by decide
  rw [← sessionWritten_value]
  exact (sessionWritten commandVersion summary label config policy reports).document hspace
    (renderSessionJson_toList ..)

theorem passed_add_failed (reports : List CaseReport) :
    Report.passed reports + Report.failed reports = reports.length :=
  Nat.add_sub_cancel' (List.length_filter_le CaseReport.passed reports)

/-- Both documents are well formed and say what was reported, no less and nothing else. -/
theorem json_evidence_lossless (reports : List CaseReport) (policy : Policy) (config : Config)
    (label : String) :
    (∀ value, Json.Document (Report.renderJsonReport reports policy) value ↔
      value = reportJson reports policy) ∧
    Report.passed reports + Report.failed reports = reports.length ∧
    ∀ (commandVersion : String → List String → Option String) (id : String)
      (createdUnixMs : U128) (path : String),
      let summary := Session.makeSummary id createdUnixMs label config reports path
      (∀ value,
        Json.Document
            (Session.renderSessionJson commandVersion summary label config policy reports)
            value ↔
          value = sessionJson commandVersion summary label config policy reports) ∧
        summary.total = reports.length ∧ summary.passed + summary.failed = summary.total := by
  have hdocument {text : String} {spec : Json} (h : Json.Document text spec) (value : Json) :
      Json.Document text value ↔ value = spec :=
    ⟨fun hv => hv.unique h, fun he => he ▸ h⟩
  refine ⟨hdocument (report_document reports policy), passed_add_failed reports, ?_⟩
  intro commandVersion id createdUnixMs path
  exact ⟨hdocument (session_document ..), rfl, passed_add_failed reports⟩

end

end WasmerSectest
