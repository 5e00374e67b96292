import WasmerSectest.FuelContract
import WasmerSectest.Report

namespace WasmerSectest
set_option autoImplicit true

/-- `Iterator::sum` over `u32` values, from a total so far: `none` is a plain addition that
overflows. -/
def sumU32 (total : UInt32) (values : List UInt32) : Option UInt32 := values.foldlM checkedAdd total

variable [HostArch]

/-- The totals of the line that `print_summary_report` prints first. -/
structure SummaryTotals where
  totalCompileUs : U128
  totalInstantiateUs : U128
  totalRunUs : U128
  totalImports : Usize
  totalTicks : Option UInt32

def summaryTotals (reports : List CaseReport) : SummaryTotals where
  totalCompileUs := (reports.map CaseReport.compileUs).sum
  totalInstantiateUs := (reports.map CaseReport.instantiateUs).sum
  totalRunUs := (reports.map CaseReport.runUs).sum
  totalImports :=
    (reports.map fun report => BitVec.ofNat _ report.telemetry.events.length).sum
  totalTicks := sumU32 0 (reports.map fun report => report.telemetry.ticksSeen)

structure Rollup where
  totalEvents : Usize := 0
  allows : Usize := 0
  denies : Usize := 0
  ticks : UInt32 := 0
  compileUs : U128 := 0
  instantiateUs : U128 := 0
  runUs : U128 := 0

def Rollup.add (rollup : Rollup) (report : CaseReport) : Rollup where
  totalEvents := rollup.totalEvents + BitVec.ofNat _ report.telemetry.events.length
  denies := rollup.denies +
    BitVec.ofNat _ (report.telemetry.events.filter fun event => event.resultCode != Abi.ok).length
  allows := rollup.allows +
    BitVec.ofNat _ (report.telemetry.events.filter fun event => event.resultCode == Abi.ok).length
  ticks := saturatingAdd rollup.ticks report.telemetry.ticksSeen
  compileUs := rollup.compileUs + report.compileUs
  instantiateUs := rollup.instantiateUs + report.instantiateUs
  runUs := rollup.runUs + report.runUs

def rollup (reports : List CaseReport) : Rollup := reports.foldl Rollup.add {}

def ticksOf (reports : List CaseReport) : Nat :=
  (reports.map fun report => report.telemetry.ticksSeen.toNat).sum

/-- The summary has a total of the ticks, and it is that of the rollup. -/
def TickTotalsAgree (reports : List CaseReport) : Prop :=
  (summaryTotals reports).totalTicks = some (rollup reports).ticks

omit [HostArch] in
theorem checkedAdd_eq_some_iff {a b total : UInt32} :
    checkedAdd a b = some total ↔ total.toNat = a.toNat + b.toNat := by
  rw [checkedAdd]
  by_cases h : a.toNat + b.toNat < 2 ^ 32
  · rw [if_pos h, Option.some_inj, ← UInt32.toNat_inj, UInt32.toNat_add, Nat.mod_eq_of_lt h]
    exact eq_comm
  · rw [if_neg h]
    constructor
    · intro he
      cases he
    · intro he
      have := total.toNat_lt
      omega

omit [HostArch] in
theorem sumU32_eq_some_iff {values : List UInt32} {start total : UInt32} :
    sumU32 start values = some total ↔
      total.toNat = start.toNat + (values.map UInt32.toNat).sum := by
  induction values generalizing start with
  | nil =>
    rw [sumU32, List.foldlM_nil, List.map_nil, List.sum_nil, Nat.add_zero]
    exact Option.some_inj.trans (eq_comm.trans UInt32.toNat_inj.symm)
  | cons value values ih =>
    rw [sumU32, List.foldlM_cons, List.map_cons, List.sum_cons, ← Nat.add_assoc]
    cases hc : checkedAdd start value with
    | none =>
      constructor
      · intro he
        cases he
      · intro he
        have hn : checkedAdd start value ≠ some (start + value) := by simp [hc]
        have hlt := total.toNat_lt
        exfalso
        apply hn
        rw [checkedAdd_eq_some_iff, UInt32.toNat_add, Nat.mod_eq_of_lt]
        omega
    | some next =>
      rw [← checkedAdd_eq_some_iff.1 hc]
      exact ih

theorem foldl_add_ticks (start : Rollup) (reports : List CaseReport) :
    (reports.foldl Rollup.add start).ticks.toNat =
      min (start.ticks.toNat + ticksOf reports) (2 ^ 32 - 1) := by
  induction reports generalizing start with
  | nil =>
    have h := start.ticks.toNat_lt
    rw [List.foldl_nil, ticksOf, List.map_nil, List.sum_nil]
    omega
  | cons report reports ih =>
    have h : (start.add report).ticks.toNat =
        min (start.ticks.toNat + report.telemetry.ticksSeen.toNat) (2 ^ 32 - 1) :=
      toNat_saturatingAdd start.ticks report.telemetry.ticksSeen
    rw [List.foldl_cons, ih, h]
    simp only [ticksOf, List.map_cons, List.sum_cons]
    omega

theorem rollup_ticks (reports : List CaseReport) :
    (rollup reports).ticks.toNat = min (ticksOf reports) (2 ^ 32 - 1) := by
  have h := foldl_add_ticks {} reports
  rw [show ({} : Rollup).ticks.toNat = 0 from rfl, Nat.zero_add] at h
  exact h

theorem totalTicks_eq_some_iff {reports : List CaseReport} {total : UInt32} :
    (summaryTotals reports).totalTicks = some total ↔ total.toNat = ticksOf reports := by
  have h := @sumU32_eq_some_iff (reports.map fun report => report.telemetry.ticksSeen) 0 total
  rw [List.map_map, show (0 : UInt32).toNat = 0 from rfl, Nat.zero_add] at h
  exact h

/-- The two totals of the ticks agree exactly as long as they fit in 32 bits. -/
theorem tick_totals_agree_iff (reports : List CaseReport) :
    TickTotalsAgree reports ↔ ticksOf reports < 2 ^ 32 := by
  rw [TickTotalsAgree, totalTicks_eq_some_iff, rollup_ticks]
  omega

def fullCounterReport : CaseReport where
  name := "spinner"
  description := ""
  category := "external"
  severity := "info"
  control := ""
  stage := ""
  ttp := ""
  detection := ""
  sourcePath := "corpus/spinner.wat"
  backend := .singlepass
  expectedCode := Abi.ok
  telemetry := { ticksSeen := UInt32.ofNat (2 ^ 32 - 1) }

omit [HostArch] in
theorem two_full_counters_overflow :
    letI := HostArch.x86_64
    (summaryTotals [fullCounterReport, fullCounterReport]).totalTicks = none ∧
      (rollup [fullCounterReport, fullCounterReport]).ticks.toNat = 2 ^ 32 - 1 ∧
      ¬TickTotalsAgree [fullCounterReport, fullCounterReport] := by
  let _ := HostArch.x86_64
  have ht : ticksOf [fullCounterReport, fullCounterReport] = 2 * (2 ^ 32 - 1) := by decide
  have hs : (summaryTotals [fullCounterReport, fullCounterReport]).totalTicks = none := by
    apply Option.eq_none_iff_forall_ne_some.2
    intro total he
    have hlt := total.toNat_lt
    rw [totalTicks_eq_some_iff, ht] at he
    omega
  have hr : (rollup [fullCounterReport, fullCounterReport]).ticks.toNat = 2 ^ 32 - 1 := by
    rw [rollup_ticks, ht]
    rfl
  refine ⟨hs, hr, ?_⟩
  intro ha
  rw [TickTotalsAgree, hs] at ha
  cases ha

end WasmerSectest
