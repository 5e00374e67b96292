import WasmerSectest.AsyncCollection
import WasmerSectest.Evidence
import WasmerSectest.SarifReport

namespace WasmerSectest
set_option autoImplicit true

section
variable [HostArch]

theorem runInstance_name (guest : GuestExecution) (clock : Timings) (case : GuestCase)
    (backend : Backend) (policy : Policy) (wasmBytes : Usize) :
    (runInstance guest clock case backend policy wasmBytes).report.name = case.name := by
  have hends := runInstance_ends guest clock case backend policy wasmBytes
  generalize runInstance guest clock case backend policy wasmBytes = run at hends ⊢
  cases hends with
  | failed => rfl
  | completed => rfl

theorem runCase_name (engine : Engine) (guest : GuestExecution) (clock : Timings)
    (case : GuestCase) (backend : Backend) (policy : Policy) :
    (runCase engine guest clock case backend policy).name = case.name := by
  rw [runCase, runCaseInner]
  split
  · rfl
  · split
    · rfl
    · split
      · rfl
      · split
        · rfl
        · exact runInstance_name guest clock case backend policy _

theorem supervisedCompletionReport_name (case : GuestCase) (backend : Backend) (output : Output)
    (elapsedUs : U128) :
    (supervisedCompletionReport case backend output elapsedUs).name = case.name := by
  simp only [supervisedCompletionReport]
  split <;> rfl

theorem superviseLoop_name {case : GuestCase} {backend : Backend} {timeoutMs : UInt64}
    {pid : UInt32} {polls : List Poll}
    (h : superviseLoop case backend timeoutMs pid polls = some report) :
    report.name = case.name := by
  induction polls with
  | nil => cases h
  | cons poll polls ih =>
    cases poll with
    | exited elapsedUs output =>
      cases output with
      | error err =>
        cases h
        rfl
      | ok output =>
        cases h
        exact supervisedCompletionReport_name case backend output elapsedUs
    | running elapsedNs killedUs =>
      rw [superviseLoop] at h
      split at h
      · cases h
        rfl
      · exact ih h
    | failed err =>
      cases h
      rfl

theorem runCaseSupervised_name {os : Os} {case : GuestCase} {backend : Backend} {policy : Policy}
    {options : SupervisorOptions}
    (h : runCaseSupervised os case backend policy options = some report) :
    report.name = case.name := by
  rw [runCaseSupervised] at h
  split at h
  · cases h
    rfl
  · split at h
    · cases h
      rfl
    · exact superviseLoop_name h

theorem runCaseTaskBlocking_name {platform : Platform} {task : CaseTask}
    (h : runCaseTaskBlocking platform task = some report) : report.name = task.case.name := by
  rw [runCaseTaskBlocking] at h
  split at h
  · cases h
    exact runCase_name _ _ _ _ _ _
  · exact runCaseSupervised_name h

theorem runCaseTask_name (workers : Workers) (task : CaseTask) :
    (runCaseTask workers task).2.name = task.case.name := by
  cases houtcome : workers.outcome task with
  | ok report =>
    rw [runCaseTask_ok houtcome]
    exact runCaseTaskBlocking_name (workers.runs task report houtcome)
  | error err =>
    rw [runCaseTask_error houtcome]
    rfl

/-- The names of the cases a run goes through, once for every repetition. -/
def namesOfRun (config : Config) (cases : List GuestCase) : List String :=
  (List.replicate config.repeat.toNat cases).flatten.map GuestCase.name

theorem numbered_case (config : Config) (policy : Policy) (start : Nat) (cases : List GuestCase) :
    (numbered config policy start cases).map CaseTask.case = cases := by
  rw [numbered, List.map_map]
  exact List.zipIdx_map_fst start cases

theorem collectReportsAsync_names (workers : Workers) (schedule : Nat → Nat) {maxInFlight : Nat}
    (h : 1 ≤ maxInFlight) (config : Config) (policy : Policy) (cases : List GuestCase) :
    (collectReportsAsync workers schedule maxInFlight config policy cases).1.map CaseReport.name =
      namesOfRun config cases := by
  have hreports := (collectReportsAsync_spec workers schedule config policy h cases).1
  rw [hreports, List.map_map]
  have hnames : (CaseReport.name ∘ fun task => (runCaseTask workers task).2) =
      GuestCase.name ∘ CaseTask.case := funext fun task => runCaseTask_name workers task
  rw [hnames, ← List.map_map, allTasks, numbered_case, namesOfRun]

theorem runSelectedCase_name {platform : Platform} {config : Config} {case : GuestCase}
    {policy : Policy} (h : runSelectedCase platform config case policy = some report) :
    report.name = case.name := by
  rw [runSelectedCase] at h
  split at h
  · cases h
    exact runCase_name _ _ _ _ _ _
  · exact runCaseSupervised_name h

theorem collectCases_names {platform : Nat → Platform} {config : Config} {policy : Policy}
    {reports reports' : List CaseReport} {cases : List GuestCase}
    (h : collectCases platform config policy reports cases = some reports') :
    reports'.map CaseReport.name = reports.map CaseReport.name ++ cases.map GuestCase.name := by
  induction cases generalizing reports with
  | nil =>
    cases h
    exact (List.append_nil _).symm
  | cons case cases ih =>
    rw [collectCases] at h
    obtain ⟨report, hreport, hrest⟩ := Option.bind_eq_some_iff.1 h
    rw [ih hrest, List.map_append, List.map_singleton, runSelectedCase_name hreport,
      List.append_assoc]
    rfl

theorem collectReports_names {platform : Nat → Platform} {config : Config} {policy : Policy}
    {reports : List CaseReport} {cases : List GuestCase}
    (h : collectReports platform config cases policy = some reports) :
    reports.map CaseReport.name = namesOfRun config cases := by
  have hrounds : ∀ (rounds : Nat) (before after : List CaseReport),
      collectRounds platform config cases policy before rounds = some after →
      after.map CaseReport.name = before.map CaseReport.name ++
        (List.replicate rounds cases).flatten.map GuestCase.name := by
    intro rounds
    induction rounds with
    | zero =>
      intro before after h
      cases h
      exact (List.append_nil _).symm
    | succ rounds ih =>
      intro before after h
      rw [collectRounds] at h
      obtain ⟨next, hcases, hrest⟩ := Option.bind_eq_some_iff.1 h
      rw [ih next after hrest, collectCases_names hcases, List.replicate_succ, List.flatten_cons,
        List.map_append, List.append_assoc]
  exact hrounds _ [] reports h

/-- The rules of a document have ids of their own, and every result names one of them. -/
def DocumentRulesUnique (document : Json) : Prop :=
  ∃ run rules results ids used, document.get? "runs" = some (.arr [run]) ∧
    ((run.get? "tool").bind (·.get? "driver")).bind (·.get? "rules") = some (.arr rules) ∧
    run.get? "results" = some (.arr results) ∧
    List.Forall₂ (fun id rule => rule.get? "id" = some (.str id)) ids rules ∧
    List.Forall₂ (fun id result => result.get? "ruleId" = some (.str id)) used results ∧
    ids.Nodup ∧ ∀ id ∈ used, ids.count id = 1

theorem documentRulesUnique_iff (id : CaseReport → String) (reports : List CaseReport)
    (policy : Policy) :
    DocumentRulesUnique (sarifJson id reports policy) ↔ (reports.map id).Nodup := by
  constructor
  · rintro ⟨run, rules, results, ids, used, hruns, hrules, -, hids, -, hnodup, -⟩
    obtain ⟨rfl, -⟩ := List.cons.inj (Json.arr.inj (Option.some.inj hruns))
    obtain rfl := Json.arr.inj (Option.some.inj hrules)
    rw [List.forall₂_map_right_iff] at hids
    have heq : List.Forall₂ (fun name report => name = id report) ids reports :=
      hids.imp fun name report h => (Json.str.inj (Option.some.inj h)).symm
    rw [← List.forall₂_map_right_iff, List.forall₂_eq_eq_eq] at heq
    rwa [← heq]
  · intro h
    refine ⟨runJson id reports policy, _, _, reports.map id, (failures reports).map id, rfl, rfl,
      rfl, ?_, ?_, h, ?_⟩
    · rw [List.forall₂_map_left_iff, List.forall₂_map_right_iff, List.forall₂_same]
      intro report _
      rfl
    · rw [List.forall₂_map_left_iff, List.forall₂_map_right_iff, List.forall₂_same]
      intro report _
      rfl
    · intro name hname
      obtain ⟨report, hreport, rfl⟩ := List.mem_map.1 hname
      exact List.count_eq_one_of_mem h (List.mem_map_of_mem (List.mem_of_mem_filter hreport))

/-- The printed report is a document whose rules are unique. -/
def PrintsUniqueRules (reports : List CaseReport) (policy : Policy) : Prop :=
  ∃ document, Json.Document (Report.renderSarifReport reports policy) document ∧
    DocumentRulesUnique document

/-- The printed report is the document of the reports, with one rule for each of them, under ids
that make the rules unique. -/
def RulesUnique (reports : List CaseReport) (policy : Policy) : Prop :=
  ∃ id, Json.Document (Report.renderSarifReport reports policy) (sarifJson id reports policy) ∧
    DocumentRulesUnique (sarifJson id reports policy)

theorem RulesUnique.prints {reports : List CaseReport} {policy : Policy}
    (h : RulesUnique reports policy) : PrintsUniqueRules reports policy := by
  obtain ⟨id, hdocument, hunique⟩ := h
  exact ⟨_, hdocument, hunique⟩

/-- The rules of a document start with an id and the name of their report. -/
def NamesRules (reports : List CaseReport) (document : Json) : Prop :=
  ∃ run rules, document.get? "runs" = some (.arr [run]) ∧
    ((run.get? "tool").bind (·.get? "driver")).bind (·.get? "rules") = some (.arr rules) ∧
    List.Forall₂ (fun report rule => ∃ id members,
      rule = .obj (("id", id) :: ("name", .str report.name) :: members)) reports rules

theorem sarifJson_namesRules (id : CaseReport → String) (reports : List CaseReport)
    (policy : Policy) : NamesRules reports (sarifJson id reports policy) := by
  refine ⟨runJson id reports policy, _, rfl, rfl, ?_⟩
  rw [List.forall₂_map_right_iff, List.forall₂_same]
  intro report _
  exact ⟨_, _, rfl⟩

omit [HostArch] in
theorem not_quote_of_blank {w : List Char} (hw : Json.IsWhitespace w) : '"' ∉ w :=
  fun h => absurd (hw '"' h) (by decide)

omit [HostArch] in
theorem next_str_short {rem rest w₁ w₂ w₃ w₄ key body post cs : List Char}
    (hw₁ : Json.IsWhitespace w₁) (hw₂ : Json.IsWhitespace w₂) (hw₃ : Json.IsWhitespace w₃)
    (hw₄ : Json.IsWhitespace w₄) (hkey : Json.Chars key "name".toList) (hbody : Json.Chars body cs)
    (he : w₁ ++ ',' :: (w₂ ++ '"' :: (key ++ '"' :: (w₃ ++ ':' :: (w₄ ++ '"' ::
      (body ++ '"' :: post))))) = rem ++ '"' :: ',' :: ' ' :: '"' :: rest) :
    body.length ≤ rem.length := by
  have hstart : '"' ∉ w₁ ++ ',' :: w₂ := by
    simp [not_quote_of_blank hw₁, not_quote_of_blank hw₂]
  have hcolon : '"' ∉ w₃ ++ ':' :: w₄ := by
    simp [not_quote_of_blank hw₃, not_quote_of_blank hw₄]
  have hname : '"' ∉ key := hkey.no_quote (by decide)
  -- the quote that opens the key
  have he₁ : (w₁ ++ ',' :: w₂) ++ '"' :: (key ++ '"' :: (w₃ ++ ':' :: (w₄ ++ '"' ::
      (body ++ '"' :: post)))) = rem ++ '"' :: ',' :: ' ' :: '"' :: rest := by
    rw [← he]
    simp
  rcases Json.append_cons_cases hstart he₁ with ⟨-, he₂⟩ | ⟨rem₁, rfl, he₂⟩
  · have hcut : key ++ '"' :: (w₃ ++ ':' :: (w₄ ++ '"' :: (body ++ '"' :: post))) =
        [',', ' '] ++ '"' :: rest := he₂
    rcases Json.append_cons_cases hname hcut with ⟨hkey', -⟩ | ⟨mid, hmid, -⟩
    · rw [← hkey'] at hkey
      exact absurd (hkey.of_no_backslash (by decide)) (by decide)
    · have hmem : '"' ∈ [',', ' '] := hmid ▸ List.mem_append_right _ List.mem_cons_self
      exact absurd hmem (by decide)
  -- the quote that closes it
  rcases Json.append_cons_cases hname he₂ with ⟨-, he₃⟩ | ⟨rem₂, rfl, he₃⟩
  · cases w₃ with
    | nil => cases (List.cons.inj he₃).1
    | cons c w₃ =>
      obtain ⟨rfl, -⟩ := List.cons.inj he₃
      exact absurd (hw₃ ',' List.mem_cons_self) (by decide)
  -- the quote that opens the value
  have he₄ : (w₃ ++ ':' :: w₄) ++ '"' :: (body ++ '"' :: post) =
      rem₂ ++ '"' :: ',' :: ' ' :: '"' :: rest := by
    rw [← he₃]
    simp
  rcases Json.append_cons_cases hcolon he₄ with ⟨rfl, he₅⟩ | ⟨rem₃, rfl, he₅⟩
  · have he₆ : body ++ '"' :: post = [',', ' '] ++ '"' :: rest := he₅
    have hle := hbody.length_le_of_quote he₆ (by decide)
    simp only [List.length_append, List.length_cons, List.length_nil] at hle ⊢
    omega
  · have he₆ : body ++ '"' :: post = (rem₃ ++ ['"', ',', ' ']) ++ '"' :: rest := by
      rw [he₅]
      simp
    have hle := hbody.length_le_of_quote he₆ (by simp)
    simp only [List.length_append, List.length_cons, List.length_nil] at hle ⊢
    omega

open Json.State (read)

/-- The name of a report can be read if its rule has been, unless the name holds a quote and the
rule does not hold the name. -/
theorem readable_of_read {report : CaseReport} {before later : List CaseReport}
    {done : List Json} {document : Json} {text : List Char}
    (h : read (.value (.element done :: rulesStack))
      ((Report.renderSarifRule report).toList ++ text) = some document)
    (hlen : done.length = before.length)
    (hname : '"' ∉ report.name.toList ∨ NamesRules (before ++ report :: later) document) :
    Readable report := by
  obtain ⟨body, cs, tail, rest, hbody, hchars, hend⟩ := ruleId_read h
  rcases spelled_cases hchars hbody with rfl | ⟨-, rfl⟩ | ⟨rem, hsplit, rfl⟩
  · rw [← String.toList_ofList (l := cs)] at hchars
    rw [Readable, Json.decode_eq_some_iff.2 hchars]
    rfl
  · cases hend
  · rcases hname with hno | ⟨run, rules, hruns, hrules, hall⟩
    · exact absurd (hsplit ▸ List.mem_append_right _ List.mem_cons_self) hno
    · obtain ⟨ruleRest, hfills⟩ := Json.State.opens_read hend
      obtain ⟨id, members, hrule⟩ := rule_of_fills hfills hlen hruns hrules hall
      obtain ⟨-, rfl⟩ := List.cons.inj (Json.obj.inj hrule)
      -- the name after the id would have to fit into the rest of the name
      obtain ⟨w₁, w₂, w₃, w₄, key, value, post, hw₁, hw₂, hw₃, hw₄, he, hkey, hvalue⟩ :=
        Json.State.read_next_str hend hfills
      have hshort := next_str_short hw₁ hw₂ hw₃ hw₄ hkey hvalue he.symm
      have hlong := hvalue.length_le
      have hlen := congrArg List.length hsplit
      rw [List.length_append, List.length_cons] at hlen
      omega

/-- All the names can be read, and no two of them as one string. -/
def DistinctNames (names : List String) : Prop :=
  (∀ name ∈ names, (Json.decode name.toList).isSome = true) ∧
    (names.map fun name => Json.decode name.toList).Nodup

theorem spelledId_inj {report report' : CaseReport} (h : Readable report)
    (h' : Readable report') : spelledId report = spelledId report' ↔
      Json.decode report.name.toList = Json.decode report'.name.toList := by
  obtain ⟨name, hname⟩ := Option.isSome_iff_exists.1 h
  obtain ⟨name', hname'⟩ := Option.isSome_iff_exists.1 h'
  rw [spelledId, spelledId, hname, hname', Option.some_inj, ← String.toList_inj,
    String.toList_append, String.toList_append, List.append_cancel_left_eq, String.toList_inj]
  rfl

theorem spelledIds_nodup_iff {reports : List CaseReport} :
    (∀ report ∈ reports, Readable report) ∧ (reports.map spelledId).Nodup ↔
      DistinctNames (reports.map CaseReport.name) := by
  rw [DistinctNames, List.forall_mem_map, List.map_map]
  apply and_congr_right
  intro h
  rw [List.Nodup, List.Nodup, List.pairwise_map, List.pairwise_map]
  apply List.Pairwise.iff_of_mem
  intro report report' hmem hmem'
  exact not_congr (spelledId_inj (h report hmem) (h report' hmem'))

/-- A document with unique rules has been printed for distinct names, unless a name holds a quote
and the rules do not hold the names. -/
theorem distinctNames_of_document {reports : List CaseReport} {policy : Policy} {document : Json}
    (hdocument : Json.Document (Report.renderSarifReport reports policy) document)
    (hunique : DocumentRulesUnique document)
    (hnames : (∀ report ∈ reports, '"' ∉ report.name.toList) ∨ NamesRules reports document) :
    DistinctNames (reports.map CaseReport.name) := by
  have hreadable : ∀ report ∈ reports, Readable report := by
    have hself (report : CaseReport) (h : Readable report) : Readable report := h
    apply forall_of_document hdocument hself
    intro before report later done text hall hlen hread
    have hname : '"' ∉ report.name.toList ∨ NamesRules (before ++ report :: later) document := by
      rw [← hall]
      apply hnames.imp_left
      intro hno
      exact hno report (hall ▸ List.mem_append_right _ List.mem_cons_self)
    exact readable_of_read hread hlen hname
  obtain rfl := hdocument.unique (sarif_document policy hreadable)
  exact spelledIds_nodup_iff.1 ⟨hreadable, (documentRulesUnique_iff _ _ _).1 hunique⟩

theorem rulesUnique_of_distinctNames {reports : List CaseReport} (policy : Policy)
    (h : DistinctNames (reports.map CaseReport.name)) : RulesUnique reports policy := by
  obtain ⟨hreadable, hnodup⟩ := spelledIds_nodup_iff.2 h
  exact ⟨spelledId, sarif_document policy hreadable, (documentRulesUnique_iff _ _ _).2 hnodup⟩

theorem rulesUnique_iff (reports : List CaseReport) (policy : Policy) :
    RulesUnique reports policy ↔ DistinctNames (reports.map CaseReport.name) := by
  constructor
  · rintro ⟨id, hdocument, hunique⟩
    exact distinctNames_of_document hdocument hunique (.inr (sarifJson_namesRules id reports policy))
  · exact rulesUnique_of_distinctNames policy

/-- Without quotes in the names there is nothing else that the text could be a document of. -/
theorem printsUniqueRules_iff {reports : List CaseReport} {policy : Policy}
    (hno : ∀ name ∈ reports.map CaseReport.name, '"' ∉ name.toList) :
    PrintsUniqueRules reports policy ↔ DistinctNames (reports.map CaseReport.name) := by
  rw [List.forall_mem_map] at hno
  constructor
  · rintro ⟨document, hdocument, hunique⟩
    exact distinctNames_of_document hdocument hunique (.inl hno)
  · intro h
    exact (rulesUnique_of_distinctNames policy h).prints

/-- Every case is run once, if there are any, and no two have a name that is read as one. -/
def DistinctRun (config : Config) (cases : List GuestCase) : Prop :=
  cases = [] ∨ config.repeat.toNat = 0 ∨
    config.repeat.toNat = 1 ∧ DistinctNames (cases.map GuestCase.name)

omit [HostArch] in
theorem distinctNames_replicate (n : Nat) (names : List String) :
    DistinctNames (List.replicate n names).flatten ↔
      names = [] ∨ n = 0 ∨ n = 1 ∧ DistinctNames names := by
  rcases n with _ | _ | n
  · exact iff_of_true ⟨nofun, List.nodup_nil⟩ (.inr (.inl rfl))
  · rw [List.replicate_one, List.flatten_singleton]
    constructor
    · intro h
      exact .inr (.inr ⟨rfl, h⟩)
    · intro h
      rcases h with rfl | h | ⟨-, h⟩
      · exact ⟨nofun, List.nodup_nil⟩
      · cases h
      · exact h
  · constructor
    · rintro ⟨-, h⟩
      cases names with
      | nil => exact .inl rfl
      | cons name names =>
        rw [List.replicate_succ, List.replicate_succ, List.flatten_cons, List.flatten_cons,
          List.map_append, List.map_append] at h
        have hdisjoint := List.disjoint_of_nodup_append h
        exact absurd (List.mem_append_left _ List.mem_cons_self) (hdisjoint List.mem_cons_self)
    · intro h
      rcases h with rfl | h | ⟨h, -⟩
      · rw [List.flatten_replicate_nil]
        exact ⟨nofun, List.nodup_nil⟩
      · cases h
      · exact absurd h (by omega)

theorem namesOfRun_distinct_iff (config : Config) (cases : List GuestCase) :
    DistinctNames (namesOfRun config cases) ↔ DistinctRun config cases := by
  rw [namesOfRun, List.map_flatten, List.map_replicate, distinctNames_replicate, DistinctRun,
    List.map_eq_nil_iff]

theorem namesOfRun_mem {config : Config} {cases : List GuestCase}
    (h : ∀ case ∈ cases, '"' ∉ case.name.toList) :
    ∀ name ∈ namesOfRun config cases, '"' ∉ name.toList := by
  rw [namesOfRun, List.forall_mem_map]
  intro case hcase
  obtain ⟨round, hround, hmem⟩ := List.mem_flatten.1 hcase
  obtain rfl := List.eq_of_mem_replicate hround
  exact h case hmem

/-- What the cases decide about the rules of the reports: whether the text is the document of the
reports with unique rules, and where no name holds a quote, whether it is any document that has
unique rules. -/
def RulesUniqueExactly (config : Config) (cases : List GuestCase) (reports : List CaseReport)
    (policy : Policy) : Prop :=
  (RulesUnique reports policy ↔ DistinctRun config cases) ∧
    (DistinctRun config cases → PrintsUniqueRules reports policy) ∧
    ((∀ case ∈ cases, '"' ∉ case.name.toList) → PrintsUniqueRules reports policy →
      DistinctRun config cases)

theorem rulesUniqueExactly {config : Config} {cases : List GuestCase} {reports : List CaseReport}
    (policy : Policy) (h : reports.map CaseReport.name = namesOfRun config cases) :
    RulesUniqueExactly config cases reports policy := by
  have hunique : RulesUnique reports policy ↔ DistinctRun config cases := by
    rw [rulesUnique_iff, h, namesOfRun_distinct_iff]
  refine ⟨hunique, fun hrun => (hunique.2 hrun).prints, ?_⟩
  intro hno hprints
  rw [printsUniqueRules_iff (h ▸ namesOfRun_mem hno), h] at hprints
  exact (namesOfRun_distinct_iff config cases).1 hprints

/-- The rules are unique exactly in a run without repetitions over cases whose names can be read
and are distinct then, whichever runner made the reports. -/
theorem sarif_rules_unique_iff (workers : Workers) (schedule : Nat → Nat)
    (availableParallelism : Option Nat) (config : Config) (policy : Policy)
    (cases : List GuestCase) :
    RulesUniqueExactly config cases (collectReportsAsync workers schedule
      (maxInFlightCases availableParallelism) config policy cases).1 policy ∧
    ∀ platform reports, collectReports platform config cases policy = some reports →
      RulesUniqueExactly config cases reports policy := by
  constructor
  · exact rulesUniqueExactly policy (collectReportsAsync_names workers schedule
      (maxInFlightCases_bounds availableParallelism).1 config policy cases)
  · intro platform reports h
    exact rulesUniqueExactly policy (collectReports_names h)

end

def escapedNames : List GuestCase :=
  [case "aA" "" Abi.ok .runExport "external" "info" "" "",
    case "a\\u0041" "" Abi.ok .runExport "external" "info" "" ""]

theorem repeated_run_duplicates_rules :
    letI := HostArch.x86_64
    ¬PrintsUniqueRules (collectReportsAsync panickingWorkers id 1 { «repeat» := 2 } .default
      (profileCases id .all)).1 .default ∧
    (escapedNames.map GuestCase.name).Nodup ∧
    ¬PrintsUniqueRules (collectReportsAsync panickingWorkers id 1 { «repeat» := 1 } .default
      escapedNames).1 .default := by
  let _ := HostArch.x86_64
  have hexactly (config : Config) (cases : List GuestCase) :=
    (rulesUniqueExactly .default (collectReportsAsync_names panickingWorkers id (Nat.le_refl 1)
      config .default cases)).2.2
  refine ⟨?_, by decide, ?_⟩
  · intro h
    have hno : ∀ name ∈ (profileCases id .all).map GuestCase.name, '"' ∉ name.toList := by decide
    rcases hexactly _ _ (fun case hcase => hno _ (List.mem_map_of_mem hcase)) h with
      h | h | ⟨h, -⟩
    · cases h
    · cases h
    · cases h
  · intro h
    rcases hexactly _ _ (by decide) h with h | h | ⟨-, -, h⟩
    · cases h
    · cases h
    · exact absurd h (by decide)

end WasmerSectest
