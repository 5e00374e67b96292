import WasmerSectest.Lib.Alphabet
import WasmerSectest.Lib.Markdown
import WasmerSectest.VerdictNames
import WasmerSectest.PlainReports

namespace WasmerSectest
set_option autoImplicit true

open Alphabet (Over over_append)
open Markdown (CellText OneLine padded writeRow rowCells)

def columns : List String :=
  ["Case", "Stage", "TTP", "Category", "Severity", "Expected", "Actual", "Result"]

def paddedCells (texts : List String) : List (List Char) := texts.map fun text => padded text.toList

def rowText (texts : List String) : String := String.ofList (writeRow (texts.map String.toList))

section
variable [HostArch]

/-- The texts of a report under the columns. -/
def CaseReport.cells (report : CaseReport) : List String :=
  ["`" ++ report.name ++ "`", report.stage, "`" ++ report.ttp ++ "`", report.category,
    report.severity, "`" ++ codeName report.expectedCode ++ "`",
    "`" ++ Report.actual report ++ "`", Report.result report]

/-- The texts of a report that a manifest can choose freely. -/
def CaseReport.freeTexts (report : CaseReport) : List String :=
  [report.name, report.stage, report.ttp, report.category, report.severity]

/-- A row has the eight texts of a report, and passes it just when it passed. -/
structure RowShows (report : CaseReport) (row : List (List Char)) : Prop where
  length_eq : row.length = columns.length
  cells : row = paddedCells report.cells
  passes_iff : row.getLast? = some (padded "PASS".toList) ↔ report.passed = true

/-- A table has the columns, and one row for each report, in order. -/
structure ShowsVerdicts (reports : List CaseReport) (table : Markdown.Table) : Prop where
  header : table.header = paddedCells columns
  rows : List.Forall₂ RowShows reports table.rows

def casesTable (report : String) : Option Markdown.Table :=
  Markdown.tableUnder "## Cases".toList report.toList

theorem rowShows_cells (report : CaseReport) : RowShows report (paddedCells report.cells) := by
  refine ⟨rfl, rfl, ?_⟩
  change some (padded (Report.result report).toList) = some (padded "PASS".toList) ↔ _
  rw [Report.result]
  split
  case isTrue h => exact iff_of_true rfl h
  case isFalse h => exact iff_of_false (by decide) h

end

def plain (c : Char) : Bool := c ≠ '\n' && c ≠ '\r' && c ≠ '|'

theorem plain_numeral : Alphabet.Numeral plain := by decide

theorem not_mem_of_plain {text : String} (h : Over plain text) {c : Char} (hc : plain c = false) :
    c ∉ text.toList := by
  intro hmem
  rw [h c hmem] at hc
  cases hc

theorem oneLine_of_plain {text : String} (h : Over plain text) : OneLine text.toList :=
  ⟨not_mem_of_plain h rfl, not_mem_of_plain h rfl⟩

theorem cellText_of_plain {text : String} (h : Over plain text) : CellText text.toList :=
  ⟨oneLine_of_plain h, fun hin => not_mem_of_plain h rfl hin.mem⟩

theorem toList_quoted (text : String) : ("`" ++ text ++ "`").toList = '`' :: (text.toList ++ ['`']) := by
  rw [String.toList_append, String.toList_append]
  rfl

theorem cellText_quoted_iff (text : String) :
    CellText ("`" ++ text ++ "`").toList ↔ CellText text.toList := by
  rw [toList_quoted]
  exact Markdown.cellText_wrapped_iff rfl rfl

theorem plain_codeNames : ∀ name ∈ "HOST_ERROR" :: Report.codeNames, Over plain name := by decide

theorem plain_codeName (code : Int32) : Over plain (codeName code) :=
  plain_codeNames _ (List.mem_cons_of_mem _ (Report.codeName_mem code))

theorem plain_policyText (policy : Policy) : Over plain (Report.policyText policy) := by
  have hbool : Over plain (toString policy.requireTickImport) := by
    cases policy.requireTickImport with
    | true => decide
    | false => decide
  unfold Report.policyText
  simp only [over_append, plain_numeral.uint32, plain_numeral.uint64, hbool, and_true]
  decide

section
variable [HostArch]

theorem plain_actual (report : CaseReport) : Over plain (Report.actual report) :=
  plain_codeNames _ (Report.actual_mem report)

theorem plain_result (report : CaseReport) : Over plain (Report.result report) := by
  rw [Report.result]
  split
  · decide
  · decide

theorem markdownRow_eq (report : CaseReport) :
    Report.markdownRow report = rowText report.cells := by
  apply String.toList_injective
  unfold Report.markdownRow
  simp [CaseReport.cells, rowText, writeRow, padded]

/-- The other three texts of a row fit a cell whatever the report is. -/
theorem cellText_cells_iff (report : CaseReport) :
    (∀ text ∈ report.cells, CellText text.toList) ↔
      ∀ text ∈ report.freeTexts, CellText text.toList := by
  have hexpected := cellText_of_plain (plain_codeName report.expectedCode)
  have hactual := cellText_of_plain (plain_actual report)
  have hresult := cellText_of_plain (plain_result report)
  simp only [CaseReport.cells, CaseReport.freeTexts, List.forall_mem_cons, List.not_mem_nil,
    false_imp_iff, implies_true, and_true, cellText_quoted_iff, hexpected, hactual, hresult]

theorem plain_markdownSummary (reports : List CaseReport) (policy : Policy) :
    ∀ line ∈ Report.markdownSummary reports policy, Over plain line := by
  have hpolicy : Over plain (toString (Report.policyText policy)) := plain_policyText policy
  simp only [Report.markdownSummary, List.forall_mem_cons, List.not_mem_nil, false_imp_iff,
    implies_true, over_append, plain_numeral.nat, hpolicy, and_true]
  decide

theorem heading_not_mem_summary (reports : List CaseReport) (policy : Policy) :
    "## Cases".toList ∉ (Report.markdownSummary reports policy).map String.toList := by
  simp [Report.markdownSummary]

section
variable {reports : List CaseReport} {rows : List (List String)}
  (h : ∀ texts ∈ rows, ∀ text ∈ texts, CellText text.toList)
  (hrows : Text.unlines (reports.map Report.markdownRow) = Text.unlines (rows.map rowText))
include h hrows

theorem lines_renderMarkdownReport (policy : Policy) :
    ∃ after, Markdown.lines (Report.renderMarkdownReport reports policy).toList =
      (Report.markdownSummary reports policy).map String.toList ++ "## Cases".toList :: [] ::
        Report.markdownHeader.toList :: Report.markdownDelimiter.toList ::
          ((rows.map fun texts => writeRow (texts.map String.toList)) ++ [] :: after) := by
  have hsummary : ∀ line ∈ Report.markdownSummary reports policy, OneLine line.toList :=
    fun line hline => oneLine_of_plain (plain_markdownSummary reports policy line hline)
  have hheader : OneLine Report.markdownHeader.toList := ⟨by decide, by decide⟩
  have hdelimiter : OneLine Report.markdownDelimiter.toList := ⟨by decide, by decide⟩
  have htable : ∀ line ∈ "## Cases" :: "" :: Report.markdownHeader :: Report.markdownDelimiter ::
      rows.map rowText, OneLine line.toList := by
    simp only [List.forall_mem_cons]
    refine ⟨oneLine_of_plain (by decide), oneLine_of_plain (by decide), hheader, hdelimiter, ?_⟩
    intro line hline
    obtain ⟨texts, htexts, rfl⟩ := List.mem_map.1 hline
    rw [rowText, String.toList_ofList]
    apply Markdown.oneLine_writeRow
    intro cell hcell
    obtain ⟨text, htext, rfl⟩ := List.mem_map.1 hcell
    exact h texts htexts text htext
  have hevidence : ∀ line ∈ ["", "## Evidence", ""], OneLine line.toList := by
    simp only [List.forall_mem_cons, List.not_mem_nil, false_imp_iff, implies_true, and_true]
    exact ⟨oneLine_of_plain (by decide), oneLine_of_plain (by decide),
      oneLine_of_plain (by decide)⟩
  have hwritten : Text.unlines ("## Cases" :: "" :: Report.markdownTable reports) =
      Text.unlines ("## Cases" :: "" :: Report.markdownHeader :: Report.markdownDelimiter ::
        rows.map rowText) := by
    rw [Text.unlines, Text.unlines] at hrows
    simp only [Text.unlines, Report.markdownTable, List.map_cons, String.join_cons, hrows]
  have htexts : (rows.map rowText).map String.toList =
      rows.map fun texts => writeRow (texts.map String.toList) := by
    rw [List.map_map]
    exact List.map_congr_left fun texts _ => String.toList_ofList
  refine ⟨["## Evidence".toList, []] ++
    Markdown.lines (String.join (reports.map Report.markdownEvidence)).toList, ?_⟩
  rw [Report.renderMarkdownReport, hwritten]
  simp only [String.toList_append, List.append_assoc]
  rw [Markdown.lines_unlines hsummary, Markdown.lines_unlines htable,
    Markdown.lines_unlines hevidence, ← htexts]
  rfl

theorem casesTable_of_rows (policy : Policy) :
    casesTable (Report.renderMarkdownReport reports policy) =
      some ⟨paddedCells columns, rows.map paddedCells⟩ := by
  obtain ⟨after, hlines⟩ := lines_renderMarkdownReport h hrows policy
  have hheads : Markdown.heads Report.markdownHeader.toList Report.markdownDelimiter.toList = true := by
    decide +kernel
  have hheader : Markdown.isBlank Report.markdownHeader.toList = false := by decide +kernel
  have hcolumns : rowCells Report.markdownHeader.toList = paddedCells columns := by decide +kernel
  have hblank : ∀ row ∈ rows.map fun texts => writeRow (texts.map String.toList),
      Markdown.isBlank row = false := by
    intro row hrow
    obtain ⟨texts, _, rfl⟩ := List.mem_map.1 hrow
    rfl
  have hcells : ∀ texts ∈ rows, rowCells (writeRow (texts.map String.toList)) = paddedCells texts := by
    intro texts htexts
    rw [Markdown.rowCells_writeRow, List.map_map]
    · rfl
    · intro cell hcell
      obtain ⟨text, htext, rfl⟩ := List.mem_map.1 hcell
      exact (h texts htexts text htext).no_delimiter
  rw [casesTable, Markdown.tableUnder_of_lines hlines (heading_not_mem_summary reports policy)
    hheader hheads hblank, hcolumns, List.map_map, ← List.map_congr_left hcells]
  rfl

end

omit [HostArch] in
theorem cellText_of_shown {report : String} {table : Markdown.Table}
    (h : casesTable report = some table) {row : List (List Char)} (hrow : row ∈ table.rows)
    {texts : List String} (hcells : row = paddedCells texts) :
    ∀ text ∈ texts, CellText text.toList := by
  intro text htext
  apply (Markdown.cellText_wrapped_iff (c := ' ') (d := ' ') rfl rfl).1
  apply Markdown.tableUnder_cell h hrow
  rw [hcells]
  exact List.mem_map_of_mem htext

theorem freeTexts_fit {reports : List CaseReport} {policy : Policy} {table : Markdown.Table}
    (h : casesTable (Report.renderMarkdownReport reports policy) = some table)
    (hshows : ShowsVerdicts reports table) :
    ∀ report ∈ reports, ∀ text ∈ report.freeTexts, CellText text.toList := by
  intro report hreport
  obtain ⟨i, hi, rfl⟩ := List.getElem_of_mem hreport
  have hshown := hshows.rows.get hi (hshows.rows.length_eq ▸ hi)
  exact (cellText_cells_iff _).1 (cellText_of_shown h (List.get_mem _ _) hshown.cells)

/-- The table shows the verdicts just when every free text of every report fits its cell. -/
theorem verdict_table_iff (reports : List CaseReport) (policy : Policy) :
    (∃ table, casesTable (Report.renderMarkdownReport reports policy) = some table ∧
        ShowsVerdicts reports table) ↔
      ∀ report ∈ reports, ∀ text ∈ report.freeTexts, CellText text.toList := by
  constructor
  · intro hshown
    obtain ⟨table, htable, hshows⟩ := hshown
    exact freeTexts_fit htable hshows
  · intro hfit
    have hcells : ∀ texts ∈ reports.map CaseReport.cells, ∀ text ∈ texts, CellText text.toList := by
      intro texts htexts
      obtain ⟨report, hreport, rfl⟩ := List.mem_map.1 htexts
      exact (cellText_cells_iff report).2 (hfit report hreport)
    have hrows : reports.map Report.markdownRow = (reports.map CaseReport.cells).map rowText := by
      rw [List.map_map]
      exact List.map_congr_left fun report _ => markdownRow_eq report
    refine ⟨_, casesTable_of_rows hcells (congrArg Text.unlines hrows) policy, rfl, ?_⟩
    rw [List.map_map, List.forall₂_map_right_iff, List.forall₂_same]
    exact fun report _ => rowShows_cells report

end

def forgedRows : List (List String) :=
  [["`x`", "s", "`t`", "c", "low", "`OK`", "`OK`", "PASS"],
    ["`y`", "external corpus validation", "`external-host-import-abuse`", "external", "info",
      "`OK`", "`UNKNOWN`", "FAIL"]]

theorem name_forges_verdict :
    letI := HostArch.x86_64
    ∃ case report table,
      loadCorpus "corpus" (oneGuestCorpus
          "[[case]]\nfile = \"a.wasm\"\nname = \"x` | s | `t` | c | low | `OK` | `OK` | PASS |\\n| `y\"\n") =
        .ok [case] ∧
      report = runCase meteredEngine (returningGuest 43) ⟨1, 1, 1, 1, 1⟩ case .cranelift
        .default ∧
      report.passed = false ∧
      casesTable (Report.renderMarkdownReport [report] .default) = some table ∧
      table.rows = forgedRows.map paddedCells ∧
      ¬ShowsVerdicts [report] table := by
  let _ := HostArch.x86_64
  have hmanifest : parseManifest
      "[[case]]\nfile = \"a.wasm\"\nname = \"x` | s | `t` | c | low | `OK` | `OK` | PASS |\\n| `y\"\n" =
      .ok [{ file := "a.wasm",
             name := some "x` | s | `t` | c | low | `OK` | `OK` | PASS |\n| `y" }] := rfl
  obtain ⟨case, hload, hcase⟩ := loadCorpus_oneGuest hmanifest rfl
  obtain rfl := Except.ok.inj hcase
  have hplain : ∀ texts ∈ forgedRows, ∀ text ∈ texts, Over plain text := by decide
  have hfit : ∀ texts ∈ forgedRows, ∀ text ∈ texts, CellText text.toList :=
    fun texts htexts text htext => cellText_of_plain (hplain texts htexts text htext)
  refine ⟨_, _, _, hload, rfl, rfl, casesTable_of_rows hfit ?_ _, rfl, ?_⟩
  · decide +kernel
  · intro hshows
    cases hshows.rows.length_eq

end WasmerSectest
