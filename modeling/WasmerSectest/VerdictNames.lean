import WasmerSectest.CorpusLoading
import WasmerSectest.Evidence
import WasmerSectest.JsonEvidence

namespace WasmerSectest
set_option autoImplicit true

/-- The codes that have a name of their own. -/
def Abi.named : List Int32 :=
  [ok, errBounds, errAlign, errHeader, errCapability, errAlloc, errBudget, errInternal,
    errTooLarge, errUtf8, errTimeout]

theorem parseCodeName_named : ∀ code ∈ Abi.named, parseCodeName (codeName code) = some code := by
  simp only [Abi.named, List.forall_mem_cons, List.not_mem_nil, false_imp_iff, implies_true,
    and_true]
  exact ⟨rfl, rfl, rfl, rfl, rfl, rfl, rfl, rfl, rfl, rfl, rfl⟩

theorem codeName_unnamed (h : code ∉ Abi.named) : codeName code = "UNKNOWN" := by
  simp only [Abi.named, List.mem_cons, List.not_mem_nil, or_false, not_or] at h
  obtain ⟨h₁, h₂, h₃, h₄, h₅, h₆, h₇, h₈, h₉, h₁₀, h₁₁⟩ := h
  rw [codeName, if_neg h₁, if_neg h₂, if_neg h₃, if_neg h₄, if_neg h₅, if_neg h₆, if_neg h₇,
    if_neg h₈, if_neg h₉, if_neg h₁₀, if_neg h₁₁]

/-- A name is read back as its code, and the common name of all the others as none. -/
theorem parseCodeName_codeName (code : Int32) :
    parseCodeName (codeName code) = if code ∈ Abi.named then some code else none := by
  by_cases h : code ∈ Abi.named
  · rw [if_pos h]
    exact parseCodeName_named code h
  · rw [if_neg h, codeName_unnamed h]
    rfl

theorem codeName_eq_iff (code code' : Int32) :
    codeName code = codeName code' ↔ code = code' ∨ code ∉ Abi.named ∧ code' ∉ Abi.named := by
  apply Iff.intro
  · intro heq
    have hparse := congrArg parseCodeName heq
    rw [parseCodeName_codeName, parseCodeName_codeName] at hparse
    by_cases h : code ∈ Abi.named
    · by_cases h' : code' ∈ Abi.named
      · rw [if_pos h, if_pos h', Option.some_inj] at hparse
        exact .inl hparse
      · rw [if_pos h, if_neg h'] at hparse
        cases hparse
    · by_cases h' : code' ∈ Abi.named
      · rw [if_neg h, if_pos h'] at hparse
        cases hparse
      · exact .inr ⟨h, h'⟩
  · intro h
    rcases h with rfl | ⟨h, h'⟩
    · rfl
    · rw [codeName_unnamed h, codeName_unnamed h']

theorem codeName_ne_hostError (code : Int32) : codeName code ≠ "HOST_ERROR" := by
  intro heq
  by_cases h : code ∈ Abi.named
  · have hparse := parseCodeName_named code h
    have hnone : parseCodeName "HOST_ERROR" = none := rfl
    rw [heq, hnone] at hparse
    cases hparse
  · rw [codeName_unnamed h] at heq
    revert heq
    decide

/-- What a case object says: the two codes, by name, and whether the case passed. -/
structure CaseVerdict where
  expected : String
  actual : String
  passed : Bool
  deriving DecidableEq

def CaseVerdict.read (object : Json) : Option CaseVerdict := do
  let expected ← (← object.get? "expected").str?
  let actual ← (← object.get? "actual").str?
  let passed ← (← object.get? "passed").bool?
  return { expected, actual, passed }

/-- The verdicts of all the cases of a document. -/
def CaseVerdict.readAll (document : Json) : Option (List CaseVerdict) :=
  match document.get? "cases" with
  | some (.arr cases) => cases.mapM CaseVerdict.read
  | _ => none

section
variable [HostArch]

def CaseReport.verdict (report : CaseReport) : CaseVerdict where
  expected := codeName report.expectedCode
  actual := Report.actual report
  passed := report.passed

/-- The case ended with another code than the expected one, and neither has a name. -/
def CaseReport.Nameless (report : CaseReport) : Prop :=
  ∃ code, report.actualCode = some code ∧ code ≠ report.expectedCode ∧
    code ∉ Abi.named ∧ report.expectedCode ∉ Abi.named

theorem read_caseJson (report : CaseReport) : CaseVerdict.read (caseJson report) = some report.verdict :=
  rfl

theorem readAll_reportJson (reports : List CaseReport) (policy : Policy) :
    CaseVerdict.readAll (reportJson reports policy) = some (reports.map CaseReport.verdict) := by
  change (reports.map caseJson).mapM CaseVerdict.read = _
  induction reports with
  | nil => rfl
  | cons report reports ih =>
    rw [List.map_cons, List.mapM_cons, read_caseJson, ih]
    rfl

theorem names_equal_iff (report : CaseReport) :
    report.verdict.expected = report.verdict.actual ↔
      report.actualCode = some report.expectedCode ∨ report.Nameless := by
  change codeName report.expectedCode = Report.actual report ↔ _
  rw [Report.actual, CaseReport.Nameless]
  cases report.actualCode with
  | none =>
    apply iff_of_false (codeName_ne_hostError _)
    intro h
    rcases h with h | ⟨code, h, _⟩
    · cases h
    · cases h
  | some code =>
    rw [Option.map_some, Option.getD_some, codeName_eq_iff, Option.some_inj]
    constructor
    · intro h
      by_cases heq : code = report.expectedCode
      · exact .inl heq
      · obtain ⟨hexpected, hcode⟩ := h.resolve_left (Ne.symm heq)
        exact .inr ⟨code, rfl, heq, hcode, hexpected⟩
    · intro h
      rcases h with heq | ⟨code', hcode, _, hnamed, hexpected⟩
      · exact .inl heq.symm
      · obtain rfl := Option.some.inj hcode
        exact .inr ⟨hexpected, hnamed⟩

/-- A verdict shows the codes of its report by name and agrees with these names, but for two
codes without a name. -/
structure VerdictShown (report : CaseReport) (verdict : CaseVerdict) : Prop where
  expected_eq : verdict.expected = codeName report.expectedCode
  actual_eq : ∀ code, report.actualCode = some code → verdict.actual = codeName code
  equal_of_passed : verdict.passed = true → verdict.expected = verdict.actual
  agrees_iff : (verdict.passed = true ↔ verdict.expected = verdict.actual) ↔ ¬report.Nameless
  of_nameless : report.Nameless → verdict = ⟨"UNKNOWN", "UNKNOWN", false⟩

theorem verdict_shown {report : CaseReport} (h : report.hostError = none) :
    VerdictShown report report.verdict := by
  have hpassed : report.verdict.passed = true ↔ report.actualCode = some report.expectedCode := by
    change (report.hostError.isNone && report.actualCode == some report.expectedCode) = true ↔ _
    rw [h, Option.isNone_none, Bool.true_and, beq_iff_eq]
  have hactual : ∀ code, report.actualCode = some code → report.verdict.actual = codeName code := by
    intro code hcode
    change (report.actualCode.map codeName).getD "HOST_ERROR" = _
    rw [hcode]
    rfl
  apply VerdictShown.mk rfl hactual
  · intro hp
    exact (names_equal_iff report).2 (.inl (hpassed.1 hp))
  · rw [hpassed, names_equal_iff]
    constructor
    · intro hiff hnameless
      obtain ⟨code, hcode, hne, hnamed⟩ := hnameless
      have hactual := hiff.2 (.inr ⟨code, hcode, hne, hnamed⟩)
      rw [hcode] at hactual
      exact hne (Option.some.inj hactual)
    · intro hnot
      exact ⟨.inl, fun h => h.resolve_right hnot⟩
  · rintro ⟨code, hcode, hne, hnamed, hexpected⟩
    have hfailed : report.verdict.passed = false := by
      rw [← Bool.not_eq_true, hpassed, hcode, Option.some_inj]
      exact hne
    change CaseVerdict.mk (codeName report.expectedCode) report.verdict.actual
      report.verdict.passed = _
    rw [codeName_unnamed hexpected, hactual code hcode, codeName_unnamed hnamed, hfailed]

/-- The report is a document whose verdicts show the codes by name and agree with these names,
but for codes without one. -/
theorem rendered_verdicts (reports : List CaseReport) (policy : Policy) :
    (∃ document verdicts,
      (∀ value, Json.Document (Report.renderJsonReport reports policy) value ↔
        value = document) ∧
      CaseVerdict.readAll document = some verdicts ∧
      List.Forall₂ (fun report verdict => report.hostError = none → VerdictShown report verdict)
        reports verdicts) ∧
    (∀ code code', codeName code = codeName code' ↔
      code = code' ∨ code ∉ Abi.named ∧ code' ∉ Abi.named) ∧
    (∀ code, code ∉ Abi.named → codeName code = "UNKNOWN") ∧
    ∀ code, parseCodeName (codeName code) = if code ∈ Abi.named then some code else none := by
  have hdocument := report_document reports policy
  refine ⟨⟨reportJson reports policy, reports.map CaseReport.verdict, ?_,
    readAll_reportJson reports policy, ?_⟩, codeName_eq_iff, fun _ => codeName_unnamed,
    parseCodeName_codeName⟩
  · intro value
    exact ⟨fun h => h.unique hdocument, fun h => h ▸ hdocument⟩
  · rw [List.forall₂_map_right_iff, List.forall₂_same]
    intro report _ h
    exact verdict_shown h

end

def returningGuest [HostArch] (code : Int32) : GuestExecution :=
  { trappingGuest with run := ([], .ok code) }

theorem nameless_codes_look_equal :
    letI := HostArch.x86_64
    ∃ case report document,
      loadCorpus "corpus"
          (oneGuestCorpus "[[case]]\nfile = \"a.wasm\"\nexpected = 42\n") = .ok [case] ∧
        report = runCase meteredEngine (returningGuest 43) ⟨1, 1, 1, 1, 1⟩ case .cranelift
          .default ∧
        report.hostError = none ∧
        Json.Document (Report.renderJsonReport [report] .default) document ∧
        CaseVerdict.readAll document = some [⟨"UNKNOWN", "UNKNOWN", false⟩] ∧
        parseCodeName (codeName 42) = none := by
  let _ := HostArch.x86_64
  have hmanifest : parseManifest "[[case]]\nfile = \"a.wasm\"\nexpected = 42\n" =
      .ok [{ file := "a.wasm", expectedCode := some 42 }] := rfl
  obtain ⟨case, hload, hcase⟩ := loadCorpus_oneGuest hmanifest rfl
  obtain rfl := Except.ok.inj hcase
  exact ⟨_, _, _, hload, rfl, rfl, report_document _ _, rfl, rfl⟩

end WasmerSectest
