import WasmerSectest.JsonEvidence
import WasmerSectest.SessionStore
import WasmerSectest.WorkerProtocol

namespace WasmerSectest
set_option autoImplicit true

theorem cleanTsv_separator (hc : Separator c) (value : String) : c ∉ (cleanTsv value).toList := by
  rw [cleanTsv, String.toList_ofList, List.mem_map]
  rintro ⟨d, -, hd⟩
  split at hd
  case isTrue =>
    subst hd
    rcases hc with h | h | h <;> cases h
  case isFalse hn =>
    subst hd
    exact hn hc

theorem cleanTsv_of_no_separator {value : String} (h : ∀ c ∈ value.toList, ¬Separator c) :
    cleanTsv value = value := by
  have hmap : value.toList.map (fun c => if c = '\t' ∨ c = '\n' ∨ c = '\r' then ' ' else c) =
      value.toList := by
    conv_rhs => rw [← List.map_id value.toList]
    exact List.map_congr_left fun c hc => if_neg (h c hc)
  rw [cleanTsv, hmap, String.ofList_toList]

def indexFields (summary : SessionSummary) : List (List Char) :=
  [summary.id.toList, showNat summary.createdUnixMs.toNat, (cleanTsv summary.label).toList,
    summary.backend.toList, summary.isolation.toList, showNat summary.total,
    showNat summary.passed, showNat summary.failed, showNat summary.totalRuntimeUs.toNat,
    (cleanTsv summary.path).toList]

theorem indexLine_toList (summary : SessionSummary) :
    (indexLine summary).toList = ['\t'].intercalate (indexFields summary) := by
  have hnat (n : Nat) : (toString n).toList = showNat n := Nat.toList_repr
  delta indexLine
  simp only [indexFields, List.intercalate_cons_cons, List.intercalate_singleton,
    String.toList_append, toString_string, hnat, List.append_assoc]
  rfl

/-- What the index keeps of a summary. -/
def SessionSummary.indexed (summary : SessionSummary) : SessionSummary where
  id := summary.id
  createdUnixMs := summary.createdUnixMs
  label := cleanTsv summary.label
  backend := summary.backend
  isolation := summary.isolation
  total := summary.total
  passed := summary.passed
  failed := summary.failed
  totalRuntimeUs := summary.totalRuntimeUs
  path := cleanTsv summary.path

section
variable [HostArch]

/-- A summary that the program can make: the texts it does not clean need it not, and its counts
fit a `usize`. -/
structure SessionSummary.Recordable (summary : SessionSummary) : Prop where
  id : ∀ c ∈ summary.id.toList, ¬Separator c
  backend : ∀ c ∈ summary.backend.toList, ¬Separator c
  isolation : ∀ c ∈ summary.isolation.toList, ¬Separator c
  total : summary.total < 2 ^ HostArch.usizeBits
  passed : summary.passed ≤ summary.total
  failed : summary.failed ≤ summary.total

theorem indexFields_separator {summary : SessionSummary} (h : summary.Recordable)
    (hc : Separator c) : ∀ field ∈ indexFields summary, c ∉ field := by
  rw [indexFields]
  simp only [List.forall_mem_cons]
  exact ⟨fun hm => h.id c hm hc, showNat_separator hc _, cleanTsv_separator hc _,
    fun hm => h.backend c hm hc, fun hm => h.isolation c hm hc, showNat_separator hc _,
    showNat_separator hc _, showNat_separator hc _, showNat_separator hc _,
    cleanTsv_separator hc _, nofun⟩

theorem parseIndexLine_indexLine {summary : SessionSummary} (h : summary.Recordable) :
    parseIndexLine (indexLine summary).toList = some summary.indexed := by
  have hsize {n : Nat} (hn : n ≤ summary.total) : parseUsize (showNat n) = some n :=
    Decimal.parseUnsigned_toDigits (Nat.lt_of_le_of_lt hn h.total)
  rw [parseIndexLine, indexLine_toList,
    List.splitOn_intercalate _ (indexFields_separator h (.inl rfl)) (List.cons_ne_nil _ _)]
  simp only [indexFields, parseBits_showNat, hsize (Nat.le_refl _), hsize h.passed,
    hsize h.failed, Option.bind_eq_bind, Option.bind_some, String.ofList_toList]
  rfl

theorem indexLine_separator {summary : SessionSummary} (h : summary.Recordable)
    (hc : c = '\n' ∨ c = '\r') : c ∉ (indexLine summary).toList := by
  rw [indexLine_toList]
  intro hm
  rcases mem_intercalate hm with hm | ⟨field, hf, hm⟩
  · rw [List.mem_singleton] at hm
    rcases hc with hc | hc <;> exact absurd (hc.symm.trans hm) (by decide)
  · exact indexFields_separator h (.inr hc) field hf hm

def indexText (summaries : List SessionSummary) : String :=
  String.ofList (summaries.flatMap fun summary => (indexLine summary).toList ++ ['\n'])

theorem parse_indexText (summaries : List SessionSummary)
    (h : ∀ summary ∈ summaries, summary.Recordable) :
    (Text.lines (indexText summaries).toList).filterMap parseIndexLine =
      summaries.map SessionSummary.indexed := by
  rw [indexText, String.toList_ofList]
  induction summaries with
  | nil => rfl
  | cons summary summaries ih =>
    obtain ⟨hsummary, hrest⟩ := List.forall_mem_cons.1 h
    have hempty : Text.Complete '\n' [] := .inl rfl
    have hlines := Text.lines_append hempty (indexLine_separator hsummary (.inl rfl))
      (indexLine_separator hsummary (.inr rfl))
      (summaries.flatMap fun summary => (indexLine summary).toList ++ ['\n'])
    rw [List.flatMap_cons, List.append_assoc, List.singleton_append]
    rw [List.nil_append] at hlines
    rw [hlines, List.filterMap_append, List.filterMap_cons_some
      (parseIndexLine_indexLine hsummary), ih hrest]
    rfl

end

end WasmerSectest
