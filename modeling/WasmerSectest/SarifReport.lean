import Mathlib
import WasmerSectest.JsonEvidence

namespace WasmerSectest
set_option autoImplicit true

open Report (actual sarifRuleId sarifLevel sarifDetail)

section
variable [HostArch]

/-- The name holds no quote, no backslash and no character below the space. -/
def PlainName (report : CaseReport) : Prop := ∀ c ∈ report.name.toList, Json.isUnescaped c = true

def classMembers (report : CaseReport) : List (String × Json) :=
  [("category", .str report.category),
    ("severity", .str report.severity),
    ("stage", .str report.stage),
    ("ttp", .str report.ttp),
    ("expected", .str (codeName report.expectedCode))]

def ruleJson (id : CaseReport → String) (report : CaseReport) : Json :=
  .obj
    [("id", .str (id report)),
      ("name", .str report.name),
      ("shortDescription", .obj [("text", .str report.description)]),
      ("fullDescription", .obj [("text", .str report.control)]),
      ("properties", .obj (classMembers report ++
        [("control", .str report.control), ("detection", .str report.detection)]))]

def resultMessage (report : CaseReport) : String :=
  s!"{report.name} expected {codeName report.expectedCode} but got {actual report}; " ++
    sarifDetail report

def resultJson (id : CaseReport → String) (report : CaseReport) : Json :=
  .obj
    [("ruleId", .str (id report)),
      ("level", .str (sarifLevel report)),
      ("message", .obj [("text", .str (resultMessage report))]),
      ("locations", .arr
        [.obj [("physicalLocation", .obj
          [("artifactLocation", .obj [("uri", .str report.sourcePath)]),
            ("region", .obj [("startLine", .nat 1)])])]]),
      ("properties", .obj (classMembers report ++
        [("actual", .str (actual report)),
          ("control", .str report.control),
          ("detection", .str report.detection)]))]

def failures (reports : List CaseReport) : List CaseReport :=
  reports.filter fun report => !report.passed

def runJson (id : CaseReport → String) (reports : List CaseReport) (policy : Policy) : Json :=
  .obj
    [("tool", .obj
        [("driver", .obj
          [("name", .str "wasmer-hostile-guest-security-harness"),
            ("informationUri", .str "https://github.com/wasmerio/wasmer"),
            ("semanticVersion", .str "0.1.0"),
            ("rules", .arr (reports.map (ruleJson id)))])]),
      ("invocations", .arr
        [.obj
          [("executionSuccessful", .bool (Report.failed reports == 0)),
            ("properties", .obj
              [("totalCases", .nat reports.length),
                ("passedCases", .nat (Report.passed reports)),
                ("failedCases", .nat (Report.failed reports)),
                ("maxPacketLen", .nat policy.maxPacketLen.toNat),
                ("maxCapStringLen", .nat policy.maxCapStringLen.toNat),
                ("maxAlloc", .nat policy.maxAlloc.toNat),
                ("fuel", .nat policy.initialFuel.toNat),
                ("maxMemoryPages", .nat policy.maxMemoryPages.toNat),
                ("requireTickImport", .bool policy.requireTickImport),
                ("supervisorTimeoutMs", .nat policy.supervisorTimeoutMs.toNat)])]]),
      ("results", .arr ((failures reports).map (resultJson id)))]

/-- The document of the reports, under the given ids for their rules. -/
def sarifJson (id : CaseReport → String) (reports : List CaseReport) (policy : Policy) : Json :=
  .obj
    [("$schema", .str "https://json.schemastore.org/sarif-2.1.0.json"),
      ("version", .str "2.1.0"),
      ("runs", .arr [runJson id reports policy])]

theorem level_plain (report : CaseReport) :
    (sarifLevel report).toList.all Json.isUnescaped = true := by
  rw [sarifLevel]
  split <;> decide

theorem ruleId_toList (report : CaseReport) :
    (sarifRuleId report).toList = "wasmer-harness/".toList ++ report.name.toList :=
  String.toList_append

/-- The name stands for a string where it is put between quotes as it is. -/
def Readable (report : CaseReport) : Prop := (Json.decode report.name.toList).isSome = true

/-- The id that is read back for the rule of a report. -/
def spelledId (report : CaseReport) : String :=
  "wasmer-harness/" ++ (Json.decode report.name.toList).getD ""

theorem ruleId_chars {report : CaseReport} (h : Readable report) :
    Json.Chars (sarifRuleId report).toList (spelledId report).toList := by
  obtain ⟨name, hname⟩ := Option.isSome_iff_exists.1 h
  rw [ruleId_toList, spelledId, hname, String.toList_append]
  exact (Json.chars_self (List.all_eq_true.1 (by decide))).append (Json.decode_eq_some_iff.1 hname)

def ruleIdWritten (report : CaseReport) : Json.Written :=
  if h : (Json.decode report.name.toList).isSome = true then
    .quoted (spelledId report) (sarifRuleId report).toList (ruleId_chars h)
  else .null

theorem ruleIdWritten_of_readable {report : CaseReport} (h : Readable report) :
    ruleIdWritten report = .quoted (spelledId report) (sarifRuleId report).toList (ruleId_chars h) :=
  dif_pos h

theorem PlainName.decode {report : CaseReport} (h : PlainName report) :
    Json.decode report.name.toList = some report.name :=
  Json.decode_eq_some_iff.2 (Json.chars_self h)

theorem PlainName.readable {report : CaseReport} (h : PlainName report) : Readable report := by
  rw [Readable, h.decode]
  rfl

theorem PlainName.spelledId {report : CaseReport} (h : PlainName report) :
    spelledId report = "wasmer-harness/" ++ report.name := by
  rw [WasmerSectest.spelledId, h.decode]
  rfl

theorem resultMessage_chars (report : CaseReport) :
    Json.Chars
      ((escapeChars report.name).toList ++ " expected ".toList ++
        (codeName report.expectedCode).toList ++ " but got ".toList ++
        (actual report).toList ++ "; ".toList ++ (escapeChars (sarifDetail report)).toList)
      (resultMessage report).toList := by
  have hmessage : (resultMessage report).toList =
      report.name.toList ++ " expected ".toList ++ (codeName report.expectedCode).toList ++
        " but got ".toList ++ (actual report).toList ++ "; ".toList ++
        (sarifDetail report).toList := by
    simp only [resultMessage, toString_string, String.toList_append, List.append_assoc]
  have hplain {s : String} (h : s.toList.all Json.isUnescaped = true) :
      Json.Chars s.toList s.toList :=
    Json.chars_self (List.all_eq_true.1 h)
  rw [hmessage]
  exact (((((escapeChars_chars report.name).append (hplain (by decide))).append
    (hplain (codeName_plain _))).append (hplain (by decide))).append
    (hplain (actual_plain report))).append (hplain (by decide)) |>.append
    (escapeChars_chars (sarifDetail report))

def messageWritten (report : CaseReport) : Json.Written :=
  .quoted (resultMessage report) _ (resultMessage_chars report)

def ruleWritten (report : CaseReport) : Json.Written :=
  .obj .spaced
    [idField (ruleIdWritten report),
      nameField (escaped report.name),
      .mk "shortDescription" (.obj .tight [.mk "text" (escaped report.description)]),
      .mk "fullDescription" (.obj .tight [.mk "text" (escaped report.control)]),
      .mk "properties" (.obj .spaced (classFields report ++
        expectedField report :: controlFields report))]

def resultWritten (report : CaseReport) : Json.Written :=
  .obj .spaced
    [.mk "ruleId" (ruleIdWritten report),
      .mk "level" (.plain (sarifLevel report) (level_plain report)),
      .mk "message" (.obj .tight [.mk "text" (messageWritten report)]),
      .mk "locations" (.arr .tight (fun report =>
        .obj .tight [.mk "physicalLocation" (.obj .spaced
          [.mk "artifactLocation" (.obj .tight [.mk "uri" (escaped report.sourcePath)]),
            .mk "region" (.obj .tight [.mk "startLine" (.nat 1)])])]) [report]),
      .mk "properties" (.obj .spaced (classFields report ++
        expectedField report :: actualField report :: controlFields report))]

def resultSpacing (reports : List CaseReport) : Json.Spacing :=
  if reports.isEmpty then .tight
  else { opening := "\n", between := "\n", closing := "\n      " }

def rulesWritten (reports : List CaseReport) : Json.Written :=
  .arr { opening := "\n", between := "\n", closing := "\n          " }
    (fun report => (ruleWritten report).indented "            ") reports

def invocationsWritten (reports : List CaseReport) (policy : Policy) : Json.Written :=
  .arr .tight (fun policy => .obj .spaced
    [.mk "executionSuccessful" (.bool (Report.failed reports == 0)),
      .mk "properties" (.obj .spaced
        [.mk "totalCases" (.nat reports.length),
          .mk "passedCases" (.nat (Report.passed reports)),
          .mk "failedCases" (.nat (Report.failed reports)),
          .mk "maxPacketLen" (.nat policy.maxPacketLen.toNat),
          .mk "maxCapStringLen" (.nat policy.maxCapStringLen.toNat),
          .mk "maxAlloc" (.nat policy.maxAlloc.toNat),
          fuelField policy,
          .mk "maxMemoryPages" (.nat policy.maxMemoryPages.toNat),
          .mk "requireTickImport" (.bool policy.requireTickImport),
          .mk "supervisorTimeoutMs" (.nat policy.supervisorTimeoutMs.toNat)])]) [policy]

def resultsWritten (reports : List CaseReport) : Json.Written :=
  .arr (resultSpacing reports) (fun report => (resultWritten report).indented "        ") reports

def runWritten (reports : List CaseReport) (policy : Policy) : Json.Written :=
  .obj entrySpacing
    [toolField (.obj { opening := "\n        ", closing := "\n      " }
        [.mk "driver" (.obj
          { opening := "\n          ", between := "\n          ", closing := "\n        " }
          [nameField harnessName,
            .mk "informationUri" (.plain "https://github.com/wasmerio/wasmer"),
            .mk "semanticVersion" (.plain "0.1.0"),
            .mk "rules" (rulesWritten reports)])]),
      .mk "invocations" (invocationsWritten reports policy),
      .mk "results" (resultsWritten (failures reports))]

def sarifWritten (reports : List CaseReport) (policy : Policy) : Json.Written :=
  .obj documentSpacing
    [.mk "$schema" (.plain "https://json.schemastore.org/sarif-2.1.0.json"),
      .mk "version" (.plain "2.1.0"),
      .mk "runs" (.arr { opening := "\n    ", closing := "\n  " } (runWritten reports) [policy])]

theorem renderSarifRule_toList {report : CaseReport} (h : Readable report) :
    (Report.renderSarifRule report).toList =
      ((ruleWritten report).indented "            ").text := by
  delta Report.renderSarifRule Report.jsonEscape
  simp [ruleWritten, ruleIdWritten_of_readable h, -String.reduceToList]
  repeat rw [String.toList_ofList]
  simp only [List.cons_append, List.nil_append]

set_option maxRecDepth 4096 in
theorem renderSarifResult_toList {report : CaseReport} (h : Readable report) :
    (Report.renderSarifResult report).toList =
      ((resultWritten report).indented "        ").text := by
  have hone : Nat.toDigits 10 1 = ['1'] := rfl
  delta Report.renderSarifResult Report.jsonEscape
  simp [resultWritten, messageWritten, ruleIdWritten_of_readable h, hone,
    -String.reduceToList]
  repeat rw [String.toList_ofList]
  simp only [List.cons_append, List.nil_append]

theorem renderSarifInvocations_toList (reports : List CaseReport) (policy : Policy) :
    (Report.renderSarifInvocations reports policy).toList =
      "      \"invocations\": ".toList ++
        ((invocationsWritten reports policy).text ++ [',', '\n']) := by
  delta Report.renderSarifInvocations
  simp [invocationsWritten, -String.reduceToList]
  repeat rw [String.toList_ofList]
  simp only [List.cons_append, List.nil_append]

/-- White space stands around the results only where there is one. -/
theorem renderSarifResults_toList (reports : List CaseReport)
    (h : ∀ report ∈ reports, Readable report) :
    (Report.renderSarifResults reports).toList =
      "      \"results\": ".toList ++ ((resultsWritten reports).text ++ ['\n']) := by
  have htexts := List.map_congr_left fun report hr => renderSarifResult_toList (h report hr)
  delta Report.renderSarifResults
  cases reports with
  | nil =>
    simp [resultsWritten, resultSpacing, pushSeparated_toList]
  | cons first rest =>
    simp only [String.toList_append, pushSeparated_toList, htexts, resultsWritten, resultSpacing,
      Json.Written.arr_text, Json.Written.indented_text, Json.Spacing.surround,
      List.isEmpty_cons, Bool.false_eq_true, if_false, List.append_assoc]
    repeat rw [String.toList_ofList]
    simp only [List.cons_append, List.nil_append, List.append_assoc]

set_option maxRecDepth 8192 in
theorem renderSarifReport_toList (reports : List CaseReport) (policy : Policy)
    (h : ∀ report ∈ reports, Readable report) :
    (Report.renderSarifReport reports policy).toList =
      ((sarifWritten reports policy).text ++ ['\n']) := by
  have hrules := List.map_congr_left fun report hr => renderSarifRule_toList (h report hr)
  have hresults := renderSarifResults_toList (failures reports) fun report hr =>
    h report (List.mem_of_mem_filter hr)
  change (Report.sarifHeader ++ _ ++ _ ++ _ ++ _ ++ _ ++
    Report.renderSarifResults (failures reports) ++ _ ++ _ ++ _).toList = _
  delta Report.sarifHeader
  simp only [String.toList_append, hresults, renderSarifInvocations_toList]
  simp [sarifWritten, runWritten, rulesWritten, pushSeparated_toList, hrules, -String.reduceToList]
  repeat rw [String.toList_ofList]
  simp only [List.cons_append, List.nil_append]

/-- The document describes every report by a rule, and every failed report by a result under
the id of its rule; and its counts add up. -/
def SarifDescribes (reports : List CaseReport) (document : Json) : Prop :=
  ∃ run rules results invocation counts, document.get? "runs" = some (.arr [run]) ∧
    ((run.get? "tool").bind (·.get? "driver")).bind (·.get? "rules") = some (.arr rules) ∧
    run.get? "results" = some (.arr results) ∧
    run.get? "invocations" = some (.arr [invocation]) ∧
    invocation.get? "properties" = some counts ∧
    List.Forall₂ (fun report rule =>
      rule.get? "id" = some (.str ("wasmer-harness/" ++ report.name))) reports rules ∧
    List.Forall₂ (fun report result =>
      result.get? "ruleId" = some (.str ("wasmer-harness/" ++ report.name)))
      (failures reports) results ∧
    ∃ total passed failed : Nat, counts.get? "totalCases" = some (.nat total) ∧
      counts.get? "passedCases" = some (.nat passed) ∧
      counts.get? "failedCases" = some (.nat failed) ∧
      total = reports.length ∧ passed + failed = total

theorem ruleWritten_value {report : CaseReport} (h : Readable report) :
    (ruleWritten report).value = ruleJson spelledId report := by
  rw [ruleWritten, ruleIdWritten_of_readable h]
  rfl

theorem resultWritten_value {report : CaseReport} (h : Readable report) :
    (resultWritten report).value = resultJson spelledId report := by
  rw [resultWritten, ruleIdWritten_of_readable h]
  rfl

theorem sarifWritten_value {reports : List CaseReport} (policy : Policy)
    (h : ∀ report ∈ reports, Readable report) :
    (sarifWritten reports policy).value = sarifJson spelledId reports policy := by
  have hrules : reports.map (fun report => (ruleWritten report).value) =
      reports.map (ruleJson spelledId) :=
    List.map_congr_left fun report hr => ruleWritten_value (h report hr)
  have hresults : (failures reports).map (fun report => (resultWritten report).value) =
      (failures reports).map (resultJson spelledId) :=
    List.map_congr_left fun report hr => resultWritten_value (h report (List.mem_of_mem_filter hr))
  rw [sarifJson, runJson, ← hrules, ← hresults]
  rfl

theorem sarif_document {reports : List CaseReport} (policy : Policy)
    (h : ∀ report ∈ reports, Readable report) :
    Json.Document (Report.renderSarifReport reports policy)
      (sarifJson spelledId reports policy) := by
  have hspace : Json.IsWhitespace ['\n'] := by decide
  rw [← sarifWritten_value policy h]
  exact (sarifWritten reports policy).document hspace (renderSarifReport_toList reports policy h)

theorem sarif_describes (reports : List CaseReport) (policy : Policy)
    (h : ∀ report ∈ reports, PlainName report) :
    SarifDescribes reports (sarifJson spelledId reports policy) := by
  refine ⟨runJson spelledId reports policy, _, _, _, _, rfl, rfl, rfl, rfl, rfl, ?_, ?_,
    reports.length, Report.passed reports, Report.failed reports, rfl, rfl, rfl, rfl,
    passed_add_failed reports⟩
  · rw [List.forall₂_map_right_iff, List.forall₂_same]
    intro report hr
    rw [← (h report hr).spelledId]
    rfl
  · rw [List.forall₂_map_right_iff, List.forall₂_same]
    intro report hr
    rw [← (h report (List.mem_of_mem_filter hr)).spelledId]
    rfl

/-- Where a document stands when its rules begin. -/
def rulesStack : List Json.Frame :=
  [.member
      [("name", .str "wasmer-hostile-guest-security-harness"),
        ("informationUri", .str "https://github.com/wasmerio/wasmer"),
        ("semanticVersion", .str "0.1.0")]
      "rules",
    .member [] "driver", .member [] "tool", .element [],
    .member
      [("$schema", .str "https://json.schemastore.org/sarif-2.1.0.json"),
        ("version", .str "2.1.0")]
      "runs"]

open Json.State (read)

set_option maxRecDepth 8192 in
omit [HostArch] in
theorem read_header (text : List Char) :
    read (.value []) (Report.sarifHeader.toList ++ text) =
      read (.value (.element [] :: rulesStack)) text := by
  delta Report.sarifHeader rulesStack
  simp only [String.toList_append, List.append_assoc, -String.reduceToList, -String.reduceAppend]
  repeat rw [String.toList_ofList]
  rfl

def ruleStart : String := "            \x7b\"id\": \"wasmer-harness/"

theorem rule_starts (report : CaseReport) (text : List Char) :
    ∃ rest, (Report.renderSarifRule report).toList ++ text =
      ruleStart.toList ++ (report.name.toList ++ '"' :: ',' :: ' ' :: '"' :: 'n' :: rest) := by
  delta Report.renderSarifRule Report.sarifRuleId ruleStart
  simp only [String.toList_append, toString_string, List.append_assoc, -String.reduceToList]
  repeat rw [String.toList_ofList]
  exact ⟨_, rfl⟩

omit [HostArch] in
theorem read_ruleStart (stack : List Json.Frame) (text : List Char) :
    read (.value stack) (ruleStart.toList ++ text) =
      read (.string (.member [] "id" :: stack) .value "wasmer-harness/".toList []) text := by
  delta ruleStart
  repeat rw [String.toList_ofList]
  rfl

omit [HostArch] in
/-- A string that starts with a name ends with it, at the next quote but one after a backslash, or
before the end of the name. -/
theorem spelled_cases {name body cs rest tail : List Char} (h : Json.Chars body cs)
    (he : name ++ '"' :: ',' :: ' ' :: '"' :: rest = body ++ '"' :: tail) :
    body = name ∨ (body = name ++ ['"', ',', ' '] ∧ tail = rest) ∨
      ∃ rem, name = body ++ '"' :: rem ∧ tail = rem ++ '"' :: ',' :: ' ' :: '"' :: rest := by
  rcases List.append_eq_append_iff.1 he with ⟨mid, rfl, hmid⟩ | ⟨mid, rfl, hmid⟩
  · have hsplit : (name ++ mid) ++ '"' :: tail = (name ++ ['"', ',', ' ']) ++ '"' :: rest := by
      rw [← he, List.append_assoc]
      rfl
    have hle := h.length_le_of_quote hsplit (by simp)
    rw [List.length_append, List.length_append] at hle
    match mid with
    | [] => exact .inl (List.append_nil name)
    | [a] | [a, b] => simp at hmid
    | [a, b, c] =>
      simp only [List.cons_append, List.nil_append, List.cons.injEq] at hmid
      obtain ⟨rfl, rfl, rfl, -, rfl⟩ := hmid
      exact .inr (.inl ⟨rfl, rfl⟩)
    | a :: b :: c :: d :: mid =>
      simp only [List.length_cons, List.length_nil] at hle
      omega
  · cases mid with
    | nil => exact .inl (List.append_nil body).symm
    | cons c mid =>
      obtain ⟨rfl, rfl⟩ := List.cons.inj hmid
      exact .inr (.inr ⟨mid, rfl, rfl⟩)

omit [HostArch] in
theorem plain_of_spelled {name body rest tail : List Char} (h : Json.Chars body name)
    (he : name ++ '"' :: ',' :: ' ' :: '"' :: rest = body ++ '"' :: tail) :
    ∀ c ∈ name, Json.isUnescaped c = true := by
  rcases spelled_cases h he with rfl | ⟨rfl, -⟩ | ⟨rem, hname, -⟩
  · exact h.unescaped (Nat.le_refl _)
  · obtain ⟨init, cs₁, cs₂, hname, hsplit, hchars⟩ := h.quote rfl
    obtain rfl := hchars.of_no_backslash (by decide)
    -- The name would end both with the backslash and with the text after the quote.
    have hlast := congrArg List.getLast? (hname.symm.trans hsplit)
    rw [List.getLast?_concat, List.getLast?_append_cons] at hlast
    cases hlast
  · have hle := h.length_le
    have hlen := congrArg List.length hname
    rw [List.length_append, List.length_cons] at hlen
    omega

/-- The id of a rule is read up to the first quote that ends a string. -/
theorem ruleId_read {report : CaseReport} {done : List Json} {document : Json} {text : List Char}
    (h : read (.value (.element done :: rulesStack))
      ((Report.renderSarifRule report).toList ++ text) = some document) :
    ∃ body cs tail rest,
      report.name.toList ++ '"' :: ',' :: ' ' :: '"' :: 'n' :: rest = body ++ '"' :: tail ∧
      Json.Chars body cs ∧
      read (.after (.member [] "id" :: .element done :: rulesStack)
        (.str (.ofList ("wasmer-harness/".toList ++ cs)))) tail = some document := by
  obtain ⟨rest, htext⟩ := rule_starts report text
  rw [htext, read_ruleStart] at h
  obtain ⟨body, cs, tail, hbody, hchars, hend⟩ := Json.State.read_string_end h
  exact ⟨body, cs, tail, rest, hbody, hchars, hend⟩

/-- The rule that stands where the reader is has what is said of the rules in this place. -/
theorem rule_of_fills {holds : CaseReport → Json → Prop} {report : CaseReport}
    {before later : List CaseReport} {done rules : List Json} {rule run document : Json}
    (hfills : Json.State.Fills (.element done :: rulesStack) rule document)
    (hlen : done.length = before.length) (hruns : document.get? "runs" = some (.arr [run]))
    (hrules : ((run.get? "tool").bind (·.get? "driver")).bind (·.get? "rules") =
      some (.arr rules))
    (hall : List.Forall₂ holds (before ++ report :: later) rules) : holds report rule := by
  obtain ⟨rulesRest, driverRest, toolRest, runRest, runsRest, documentRest, rfl⟩ := hfills
  obtain ⟨rfl, -⟩ := List.cons.inj (Json.arr.inj (Option.some.inj hruns))
  obtain rfl := Json.arr.inj (Option.some.inj hrules)
  have hdrop := List.forall₂_drop_append _ _ _ hall
  rw [hlen, List.drop_left] at hdrop
  exact (List.forall₂_cons.1 hdrop).1

theorem plainName_of_read {report : CaseReport} {before later : List CaseReport}
    {done : List Json} {document : Json} {text : List Char}
    (h : read (.value (.element done :: rulesStack))
      ((Report.renderSarifRule report).toList ++ text) = some document)
    (hlen : done.length = before.length)
    (hdescribes : SarifDescribes (before ++ report :: later) document) : PlainName report := by
  obtain ⟨body, cs, tail, rest, hbody, hchars, hend⟩ := ruleId_read h
  obtain ⟨ruleRest, hfills⟩ := Json.State.opens_read hend
  obtain ⟨run, rules, results, invocation, counts, hruns, hrules, -, -, -, hids, -⟩ := hdescribes
  have hrule := rule_of_fills hfills hlen hruns hrules hids
  have hcs : cs = report.name.toList := by
    have hlist := congrArg String.toList (Json.str.inj (Option.some.inj hrule))
    rw [String.toList_ofList, String.toList_append] at hlist
    exact List.append_cancel_left hlist
  rw [hcs] at hchars
  exact plain_of_spelled hchars hbody

omit [HostArch] in
theorem read_written (written : Json.Written) (stack : List Json.Frame) {text : List Char}
    (h : Json.State.Stops text) :
    read (.value stack) (written.text ++ text) = read (.after stack written.value) text :=
  Json.State.spells_read written.spells stack text h

omit [HostArch] in
theorem read_separator (done : List Json) (stack : List Json.Frame) (rule : Json)
    (text : List Char) :
    read (.after (.element done :: stack) rule) (",\n".toList ++ text) =
      read (.value (.element (done ++ [rule]) :: stack)) text := by
  rfl

/-- The rules are read one after the other, as long as each of them can be read. -/
theorem forall_of_read {holds : CaseReport → Prop} {all : List CaseReport} {document : Json}
    (hreadable : ∀ report, holds report → Readable report)
    (hrule : ∀ before report later done text, all = before ++ report :: later →
      done.length = before.length →
      read (.value (.element done :: rulesStack))
        ((Report.renderSarifRule report).toList ++ text) = some document → holds report)
    {first : CaseReport} {before rest : List CaseReport} {done : List Json} {text : List Char}
    (hall : all = before ++ first :: rest) (hlen : done.length = before.length)
    (h : read (.value (.element done :: rulesStack))
      (",\n".toList.intercalate ((first :: rest).map fun report =>
        (Report.renderSarifRule report).toList) ++ text) = some document) :
    ∀ report ∈ first :: rest, holds report := by
  induction rest generalizing first before done with
  | nil =>
    intro report hr
    obtain rfl := List.mem_singleton.1 hr
    rw [List.map_singleton, List.intercalate_singleton] at h
    exact hrule _ _ _ _ _ hall hlen h
  | cons second rest ih =>
    rw [List.map_cons, List.map_cons, List.intercalate_cons_cons, List.append_assoc,
      List.append_assoc] at h
    have hfirst : holds first := hrule _ _ _ _ _ hall hlen h
    have hstops (text : List Char) : Json.State.Stops (",\n".toList ++ text) :=
      Json.State.stops_delimiter rfl ('\n' :: text)
    rw [renderSarifRule_toList (hreadable first hfirst), read_written _ _ (hstops _),
      read_separator] at h
    have hlens : (done ++ [((ruleWritten first).indented "            ").value]).length =
        (before ++ [first]).length := by
      rw [List.length_append, List.length_append, hlen]
      rfl
    have hnext : all = before ++ [first] ++ second :: rest := by rwa [List.append_assoc]
    exact List.forall_mem_cons.2 ⟨hfirst, ih hnext hlens h⟩

theorem report_starts (reports : List CaseReport) (policy : Policy) :
    ∃ text, (Report.renderSarifReport reports policy).toList =
      Report.sarifHeader.toList ++ (",\n".toList.intercalate (reports.map fun report =>
        (Report.renderSarifRule report).toList) ++ text) := by
  rw [← pushSeparated_toList]
  change ∃ text, (Report.sarifHeader ++ _ ++ _ ++ _ ++ _ ++ _ ++ _ ++ _ ++ _ ++ _).toList = _
  simp only [String.toList_append, List.append_assoc, -String.reduceToList]
  exact ⟨_, rfl⟩

/-- What is found of a rule where the reader is at its start is true of all the reports. -/
theorem forall_of_document {holds : CaseReport → Prop} {reports : List CaseReport}
    {policy : Policy} {document : Json}
    (hdocument : Json.Document (Report.renderSarifReport reports policy) document)
    (hreadable : ∀ report, holds report → Readable report)
    (hrule : ∀ before report later done text, reports = before ++ report :: later →
      done.length = before.length →
      read (.value (.element done :: rulesStack))
        ((Report.renderSarifRule report).toList ++ text) = some document → holds report) :
    ∀ report ∈ reports, holds report := by
  cases reports with
  | nil => exact nofun
  | cons first rest =>
    obtain ⟨text, htext⟩ := report_starts (first :: rest) policy
    have hread := hdocument.read
    rw [htext, read_header] at hread
    have hall : first :: rest = [] ++ first :: rest := rfl
    exact forall_of_read hreadable hrule hall rfl hread

theorem plainName_iff {report : CaseReport} :
    PlainName report ↔ ∀ c ∈ report.name.toList, c ≠ '"' ∧ c ≠ '\\' ∧ 0x20 ≤ c.toNat := by
  refine forall₂_congr fun c _ => ?_
  rw [Json.isUnescaped, Bool.and_eq_true, Bool.and_eq_true, bne_iff_ne, bne_iff_ne,
    decide_eq_true_eq, and_assoc, and_comm, and_assoc]

/-- Only reports with plain names can be read back. -/
theorem plainNames_of_sarif {reports : List CaseReport} {policy : Policy} {document : Json}
    (hdocument : Json.Document (Report.renderSarifReport reports policy) document)
    (hdescribes : SarifDescribes reports document) : ∀ report ∈ reports, PlainName report := by
  have hreadable (report : CaseReport) (h : PlainName report) : Readable report := h.readable
  apply forall_of_document hdocument hreadable
  intro before report later done text hall hlen hread
  rw [hall] at hdescribes
  exact plainName_of_read hread hlen hdescribes

/-- The SARIF report is a document that describes the reports exactly where their names need no
escapes, since the ids of the rules are written without any. -/
theorem sarif_well_formed_iff (reports : List CaseReport) (policy : Policy) :
    (∃ document, Json.Document (Report.renderSarifReport reports policy) document ∧
      SarifDescribes reports document) ↔
    ∀ report ∈ reports, ∀ c ∈ report.name.toList, c ≠ '"' ∧ c ≠ '\\' ∧ 0x20 ≤ c.toNat := by
  rw [← forall₂_congr fun report _ => plainName_iff]
  apply Iff.intro
  · rintro ⟨document, hdocument, hdescribes⟩
    exact plainNames_of_sarif hdocument hdescribes
  · intro h
    exact ⟨_, sarif_document policy fun report hr => (h report hr).readable,
      sarif_describes reports policy h⟩

end

def quotedReport [HostArch] : CaseReport where
  name := "good\"packet"
  description := ""
  category := "external"
  severity := "medium"
  control := ""
  stage := ""
  ttp := ""
  detection := ""
  sourcePath := "corpus/good.wat"
  backend := .cranelift
  expectedCode := Abi.ok

theorem quoted_name_not_well_formed :
    letI := HostArch.x86_64
    ¬∃ document, Json.Document (Report.renderSarifReport [quotedReport] .default) document ∧
      SarifDescribes [quotedReport] document := by
  let _ := HostArch.x86_64
  rintro ⟨document, hdocument, hdescribes⟩
  have hplain : PlainName quotedReport :=
    plainNames_of_sarif hdocument hdescribes quotedReport List.mem_cons_self
  have hquote : Json.isUnescaped '"' = true := hplain '"' (by decide)
  exact absurd hquote (by decide)

end WasmerSectest
