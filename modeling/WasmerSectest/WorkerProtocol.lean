import WasmerSectest.Supervisor

namespace WasmerSectest
set_option autoImplicit true

/-- The characters that separate fields and lines. -/
def Separator (c : Char) : Prop := c = '\t' ∨ c = '\n' ∨ c = '\r'

theorem parseI32_showI32 (code : Int32) : parseI32 (showI32 code) = some code := by
  have hlo : -((2 ^ 31 : Nat) : Int) ≤ code.toInt := code.le_toInt
  have hhi : code.toInt < (2 ^ 31 : Nat) := code.toInt_lt
  rw [parseI32, showI32, Decimal.parseSigned_toString _ hlo hhi, Option.map_some,
    Int32.ofInt_toInt]

theorem parseBits_showNat (x : BitVec w) : parseBits w (showNat x.toNat) = some x := by
  rw [parseBits, showNat, Decimal.parseUnsigned_toDigits x.isLt, Option.map_some,
    BitVec.ofNat_toNat, BitVec.setWidth_eq]

theorem unescapeField_escapeField (value : String) :
    unescapeField (escapeField value) = some value := by
  rw [unescapeField, escapeField, Escape.Codec.unescape_escape, Option.map_some,
    String.ofList_toList]

theorem parseActualCode_showI32 (actual : Option Int32) :
    parseActualCode ((actual.map showI32).getD []) = some actual := by
  cases actual with
  | none => rfl
  | some code =>
    have hne : showI32 code ≠ [] := by
      intro h
      have hp := parseI32_showI32 code
      rw [h] at hp
      cases hp
    rw [Option.map_some, Option.getD_some, parseActualCode, if_neg hne, parseI32_showI32,
      Option.map_some]

theorem parseHostError_getD (hostError : Option String) (h : hostError ≠ some "") :
    parseHostError (hostError.getD "") = hostError := by
  cases hostError with
  | none => rfl
  | some err => exact if_neg fun he => h (congrArg some he)

theorem escapeField_separator (hc : Separator c) (value : String) : c ∉ escapeField value := by
  apply Escape.Codec.not_mem_escape
  all_goals rcases hc with h | h | h <;> subst h <;> decide

theorem digit_separator (hc : Separator c) : ¬c.isDigit = true := by
  rcases hc with h | h | h <;> subst h <;> decide

theorem showNat_separator (hc : Separator c) (n : Nat) : c ∉ showNat n :=
  fun h => digit_separator hc (Decimal.mem_toDigits h)

theorem showI32_separator (hc : Separator c) (code : Int32) : c ∉ showI32 code := by
  intro h
  rcases Decimal.mem_toString _ h with hm | hd
  · subst hm
    exact absurd hc (by unfold Separator; decide)
  · exact digit_separator hc hd

theorem workerPrefix_separator (hc : Separator c) : c ∉ workerPrefix := by
  rcases hc with h | h | h <;> subst h <;> decide

theorem mem_intercalate {sep : List α} {ls : List (List α)} (h : x ∈ sep.intercalate ls) :
    x ∈ sep ∨ ∃ l ∈ ls, x ∈ l := by
  induction ls with
  | nil => cases h
  | cons l ls ih =>
    cases ls with
    | nil =>
      rw [List.intercalate_singleton] at h
      exact .inr ⟨l, List.mem_cons_self, h⟩
    | cons l' ls =>
      rw [List.intercalate_cons_cons, List.mem_append, List.mem_append] at h
      rcases h with (h | h) | h
      · exact .inr ⟨l, List.mem_cons_self, h⟩
      · exact .inl h
      · rcases ih h with h | ⟨m, hm, h⟩
        · exact .inl h
        · exact .inr ⟨m, List.mem_cons_of_mem _ hm, h⟩

section
variable [HostArch]

theorem workerFields_separator (hc : Separator c) (report : CaseReport) :
    ∀ field ∈ workerFields report, c ∉ field := by
  have hactual : c ∉ (report.actualCode.map showI32).getD [] := by
    cases report.actualCode with
    | none => exact List.not_mem_nil
    | some code => exact showI32_separator hc code
  rw [workerFields]
  simp only [List.forall_mem_cons]
  exact ⟨workerPrefix_separator hc, hactual, showNat_separator hc _, showNat_separator hc _,
    showNat_separator hc _, showNat_separator hc _, showNat_separator hc _,
    showNat_separator hc _, escapeField_separator hc _, showI32_separator hc _,
    escapeField_separator hc _, escapeField_separator hc _, nofun⟩

/-- What the supervisor can know of a report. -/
def CaseReport.summary (report : CaseReport) : WorkerSummary where
  actualCode := report.actualCode
  compileUs := report.compileUs
  instantiateUs := report.instantiateUs
  runUs := report.runUs
  wasmBytes := report.wasmBytes
  ticksSeen := report.telemetry.ticksSeen
  eventsLogged := BitVec.ofNat _ report.telemetry.events.length
  lastImport := (report.telemetry.events.getLast?.map ImportEvent.import).getD ""
  lastResultCode :=
    (report.telemetry.events.getLast?.map ImportEvent.resultCode).getD Abi.errInternal
  lastDetail := (report.telemetry.events.getLast?.map ImportEvent.detail).getD ""
  hostError := report.hostError

theorem parseWorkerFields_workerFields (report : CaseReport)
    (h : report.hostError ≠ some "") :
    parseWorkerFields (workerFields report) = some report.summary := by
  have hticks : parseBits 32 (showNat report.telemetry.ticksSeen.toNat) =
      some report.telemetry.ticksSeen.toBitVec :=
    parseBits_showNat report.telemetry.ticksSeen.toBitVec
  simp only [parseWorkerFields, workerFields, parseActualCode_showI32, parseBits_showNat,
    hticks, parseI32_showI32, unescapeField_escapeField, Option.bind_eq_bind,
    Option.bind_some, parseHostError_getD _ h, ne_eq, not_true_eq_false, if_false]
  rfl

theorem splitOn_encodeWorkerReport (report : CaseReport) :
    (encodeWorkerReport report).toList.splitOn '\t' = workerFields report := by
  rw [encodeWorkerReport, String.toList_ofList]
  exact List.splitOn_intercalate _ (workerFields_separator (.inl rfl) report)
    (List.cons_ne_nil _ _)

theorem encodeWorkerReport_separator (hc : c = '\n' ∨ c = '\r') (report : CaseReport) :
    c ∉ (encodeWorkerReport report).toList := by
  rw [encodeWorkerReport, String.toList_ofList]
  intro h
  rcases mem_intercalate h with h | ⟨field, hf, h⟩
  · rw [List.mem_singleton] at h
    rcases hc with hc | hc <;> exact absurd (hc.symm.trans h) (by decide)
  · exact workerFields_separator (.inr hc) report field hf h

theorem workerPrefix_isPrefixOf (report : CaseReport) :
    workerPrefix.isPrefixOf (encodeWorkerReport report).toList = true := by
  rw [encodeWorkerReport, String.toList_ofList, List.isPrefixOf_iff_prefix, workerFields,
    List.intercalate_cons_cons, List.append_assoc]
  exact List.prefix_append _ _

/-- Text before the report line that the supervisor skips: whole lines, none a report. -/
structure Preamble (text : String) : Prop where
  complete : Text.Complete '\n' text.toList
  no_report : ∀ line ∈ Text.lines text.toList, ¬workerPrefix <+: line

theorem parseWorkerSummary_encodeWorkerReport (report : CaseReport)
    (h : report.hostError ≠ some "") (hb : Preamble before) (after : String) :
    parseWorkerSummary (before ++ encodeWorkerReport report ++ "\n" ++ after) =
      some report.summary := by
  have hlines := Text.lines_append hb.complete
    (encodeWorkerReport_separator (.inl rfl) report)
    (encodeWorkerReport_separator (.inr rfl) report) after.toList
  have htext : (before ++ encodeWorkerReport report ++ "\n" ++ after).toList =
      before.toList ++ ((encodeWorkerReport report).toList ++ '\n' :: after.toList) := by
    simp only [String.toList_append, List.append_assoc]
    rfl
  have hskip : (Text.lines before.toList).find? (workerPrefix.isPrefixOf ·) = none := by
    rw [List.find?_eq_none]
    intro line hl hp
    exact hb.no_report line hl (List.isPrefixOf_iff_prefix.1 hp)
  rw [parseWorkerSummary, htext, hlines, List.find?_append, hskip, Option.none_or,
    List.find?_cons_of_pos (workerPrefix_isPrefixOf report)]
  change parseWorkerFields ((encodeWorkerReport report).toList.splitOn '\t') = _
  rw [splitOn_encodeWorkerReport, parseWorkerFields_workerFields report h]

theorem supervisedCompletionReport_of_summary {s : WorkerSummary} {output : Output}
    (h : parseWorkerSummary (Utf8.fromUtf8Lossy output.stdout) = some s) (case : GuestCase)
    (backend : Backend) (elapsedUs : U128) :
    let supervised := supervisedCompletionReport case backend output elapsedUs
    supervised.actualCode = s.actualCode ∧ supervised.hostError = s.hostError ∧
      supervised.telemetry.ticksSeen = s.ticksSeen ∧
      supervised.expectedCode = case.expectedCode := by
  intro supervised
  have he : supervised = supervisedCompletionReport case backend output elapsedUs := rfl
  rw [supervisedCompletionReport, h] at he
  rw [he]
  exact ⟨rfl, rfl, rfl, rfl⟩

/-- What a worker prints is what the supervisor reads, and the verdict survives the trip. -/
theorem worker_protocol_round_trip (r : CaseReport) (before after : String)
    (h : r.hostError ≠ some "") (hb : Preamble before) :
    let stdout := before ++ encodeWorkerReport r ++ "\n" ++ after
    let last := r.telemetry.events.getLast?
    (∃ s, parseWorkerSummary stdout = some s ∧ s.actualCode = r.actualCode ∧
      s.compileUs = r.compileUs ∧ s.instantiateUs = r.instantiateUs ∧ s.runUs = r.runUs ∧
      s.wasmBytes = r.wasmBytes ∧ s.ticksSeen = r.telemetry.ticksSeen ∧
      s.hostError = r.hostError ∧
      s.eventsLogged = BitVec.ofNat _ r.telemetry.events.length ∧
      (r.telemetry.events.length < 2 ^ HostArch.usizeBits →
        s.eventsLogged.toNat = r.telemetry.events.length) ∧
      s.lastImport = (last.map ImportEvent.import).getD "" ∧
      s.lastResultCode = (last.map ImportEvent.resultCode).getD Abi.errInternal ∧
      s.lastDetail = (last.map ImportEvent.detail).getD "") ∧
    ∀ (case : GuestCase) (backend : Backend) (output : Output) (elapsedUs : U128),
      output.stdout = Utf8.bytes stdout → case.expectedCode = r.expectedCode →
        let supervised := supervisedCompletionReport case backend output elapsedUs
        supervised.actualCode = r.actualCode ∧ supervised.hostError = r.hostError ∧
          supervised.telemetry.ticksSeen = r.telemetry.ticksSeen ∧
          supervised.passed = r.passed := by
  have hp := parseWorkerSummary_encodeWorkerReport r h hb after
  refine ⟨⟨r.summary, hp, rfl, rfl, rfl, rfl, rfl, rfl, rfl, rfl, ?_, rfl, rfl, rfl⟩, ?_⟩
  · intro hl
    exact (BitVec.toNat_ofNat _ _).trans (Nat.mod_eq_of_lt hl)
  · intro case backend output elapsedUs hout hcase
    have hs : parseWorkerSummary (Utf8.fromUtf8Lossy output.stdout) = some r.summary := by
      rw [hout, Utf8.fromUtf8Lossy_bytes, hp]
    obtain ⟨ha, he, ht, hx⟩ :=
      supervisedCompletionReport_of_summary hs case backend elapsedUs
    refine ⟨ha, he, ht, ?_⟩
    rw [CaseReport.passed, CaseReport.passed, ha, he, hx, hcase]
    rfl

end

def deniedReport [HostArch] : CaseReport :=
  { (case "traversal" "" Abi.errCapability .runExport "capability" "high" "" "").report
      .singlepass with
    actualCode := some Abi.errCapability
    compileUs := 1200
    wasmBytes := 64
    telemetry := {
      events := [{
        «import» := "host.read_cap", ptr := some 0, len := some 4, align := some 1,
        memorySize := some 65536, resultCode := Abi.errCapability,
        detail := "denied\tC:\\tmp\r\n", elapsedUs := 3, gates := [.fail "capability"] }]
      ticksSeen := 2 } }

theorem denied_report_round_trip :
    letI := HostArch.x86_64
    ∃ s, parseWorkerSummary ("starting\n" ++ encodeWorkerReport deniedReport ++ "\n" ++ "") =
      some s ∧ s.lastDetail = "denied\tC:\\tmp\r\n" := by
  let _ := HostArch.x86_64
  have hb : Preamble "starting\n" := ⟨.inr rfl, by decide⟩
  obtain ⟨⟨s, hs, -, -, -, -, -, -, -, -, -, -, -, hd⟩, -⟩ :=
    worker_protocol_round_trip deniedReport "starting\n" "" (by decide) hb
  exact ⟨s, hs, hd⟩

end WasmerSectest
