import WasmerSectest.GuestTermination
import WasmerSectest.ReportLine
import WasmerSectest.WorkerSelection

namespace WasmerSectest
set_option autoImplicit true

open BuiltinGuests

theorem Policy.exercises_congr {p q : Policy} (h : p.SameForRunner q) (name : String) :
    p.Exercises name ↔ q.Exercises name := by
  unfold Exercises
  rw [h.maxMemoryPages, h.maxPacketLen, h.maxCapStringLen, h.maxAlloc, h.initialFuel,
    h.allowedPaths]

theorem GuestCase.policy_exercises (case : GuestCase) (policy : Policy) (name : String) :
    (case.policy policy).Exercises name ↔ policy.Exercises name := by
  rw [GuestCase.policy]
  split
  · rfl
  · rfl

section
variable [HostArch]

/-- The run of a worker comes to an end: its case is refused, or its guest gives back a code. -/
def WorkerProcess.Ends (worker : WorkerProcess) (program : Program) (around : Surroundings) :
    Prop :=
  (worker.run.case.kind = .staticAudit ∧ worker.run.executeStaticFixture = false) ∨
    (program.denial worker.run.policy).isSome = true ∨
      program.Returns around worker.run.backend worker.run.policy worker.run.case.kind
        worker.clock.growUs

def WorkerProcess.Runs (worker : WorkerProcess) (program : Program) (around : Surroundings) :
    Prop :=
  RunsProgram worker.engine worker.guest worker.clock around worker.run.case worker.run.backend
    worker.run.policy program

/-- The first poll that ends the wait finds the worker done, the line among what it wrote. -/
def FoundDone (timeoutMs : UInt64) (line : String) (polls : List Poll) : Prop :=
  ∃ elapsedUs output before after,
    polls.find? (·.conclusive timeoutMs) = some (.exited elapsedUs (.ok output)) ∧
      output.stdout = Utf8.bytes (before ++ line ++ "\n" ++ after) ∧ Preamble before

/-- The first poll that ends the wait finds the worker still running. -/
def FoundRunning (timeoutMs : UInt64) (polls : List Poll) : Prop :=
  ∃ elapsedNs killedUs,
    polls.find? (·.conclusive timeoutMs) = some (.running elapsedNs killedUs)

/-- The operating system starts the program itself for the arguments. If these make it a worker,
it runs the guest, and is done before its time is up exactly if its run ever ends. -/
def Os.HostsWorker (os : Os) (world : World) (args : List String) (timeoutMs : UInt64)
    (program : Program) : Prop :=
  ∃ exe pid polls, os.currentExe = .ok exe ∧ os.spawn exe args = .ok (pid, polls) ∧
    ∀ run, worker world args = .ok (some run) →
      ∃ process : WorkerProcess, ∃ around, process.run = run ∧ process.Runs program around ∧
        (process.Ends program around → FoundDone timeoutMs process.line polls) ∧
        (¬process.Ends program around → FoundRunning timeoutMs polls)

/-- What it takes for a built-in case to come out as it expects. The guest that never ends is
run by a worker only, which refuses it if it may not have a page. -/
def Policy.ExercisesIn (policy : Policy) (isolation : IsolationMode) (case : GuestCase) : Prop :=
  policy.Exercises case.name ∧
    (isolation = .process ∧ case.kind = .staticAudit → 1 ≤ policy.maxMemoryPages)

section
variable {process : WorkerProcess} {program : Program} {around : Surroundings}

theorem WorkerProcess.report_ended (h : process.Runs program around)
    (hends : process.Ends program around) : process.report.hostError = none ∧
      process.report.expectedCode = process.run.case.expectedCode := by
  obtain ⟨wasm, hwasm, hmodule⟩ := h.compiles
  rw [report, runCaseInner]
  simp only [hwasm, hmodule]
  by_cases hs : process.run.case.kind = .staticAudit ∧
      (!process.run.executeStaticFixture) = true
  · rw [if_pos hs]
    exact ⟨rfl, rfl⟩
  rw [if_neg hs]
  have haudit := program.auditModule_denial process.run.policy
  cases hd : program.denial process.run.policy with
  | some code =>
    rw [hd] at haudit
    obtain ⟨denial, haudit, -⟩ := haudit
    rw [haudit]
    exact ⟨rfl, rfl⟩
  | none =>
    rw [hd] at haudit
    rw [haudit]
    rcases hends with hrefused | hdenied | ⟨fuel, guest, code, hexecuted, hcode⟩
    · exact absurd ⟨hrefused.1, by rw [hrefused.2]; rfl⟩ hs
    · rw [hd] at hdenied
      cases hdenied
    · obtain rfl := h.executes fuel guest hexecuted
      have hcompletes := Program.completes hexecuted hcode
      have hruns := runInstance_ends process.guest process.clock process.run.case
        process.run.backend process.run.policy (BitVec.ofNat _ wasm.length)
      generalize runInstance process.guest process.clock process.run.case process.run.backend
        process.run.policy (BitVec.ofNat _ wasm.length) = run at hruns ⊢
      cases hruns with
      | failed state hostError hfails => exact absurd hcompletes hfails
      | completed => exact ⟨rfl, rfl⟩

end

section
variable {os : Os} {case : GuestCase} {backend : Backend} {policy : Policy}
  {options : SupervisorOptions} {exe : String} {pid : UInt32} {polls : List Poll}

theorem runCaseSupervised_spawned (hexe : os.currentExe = .ok exe)
    (hspawn : os.spawn exe (workerArgs case backend options) = .ok (pid, polls)) :
    runCaseSupervised os case backend policy options =
      (polls.find? (·.conclusive policy.supervisorTimeoutMs)).map
        (Poll.report case backend policy.supervisorTimeoutMs pid) := by
  rw [runCaseSupervised, hexe]
  simp only [hspawn]
  exact superviseLoop_eq case backend _ pid polls

theorem supervised_done {process : WorkerProcess} (hexe : os.currentExe = .ok exe)
    (hspawn : os.spawn exe (workerArgs case backend options) = .ok (pid, polls))
    (hfound : FoundDone policy.supervisorTimeoutMs process.line polls)
    (hnone : process.report.hostError = none)
    (hexpected : process.report.expectedCode = case.expectedCode) :
    ∃ report, runCaseSupervised os case backend policy options = some report ∧
      (report.passed = true ↔ process.report.passed = true) := by
  obtain ⟨elapsedUs, output, before, after, hfind, hstdout, hb⟩ := hfound
  have hsummary : parseWorkerSummary (Utf8.fromUtf8Lossy output.stdout) =
      some process.report.summary := by
    rw [hstdout, Utf8.fromUtf8Lossy_bytes, process.line_eq]
    exact parseWorkerSummary_encodeWorkerReport process.report (by rw [hnone]; nofun) hb after
  refine ⟨supervisedCompletionReport case backend output elapsedUs, ?_, ?_⟩
  · rw [runCaseSupervised_spawned hexe hspawn, hfind]
    rfl
  · rw [supervisedCompletionReport_passed_iff, CaseReport.passed_iff, hexpected,
      Output.Returned, hsummary]
    apply Iff.intro
    · rintro ⟨summary, he, h⟩
      obtain rfl := Option.some.inj he
      exact h
    · intro h
      exact ⟨_, rfl, h⟩

theorem supervised_killed (hexe : os.currentExe = .ok exe)
    (hspawn : os.spawn exe (workerArgs case backend options) = .ok (pid, polls))
    (hfound : FoundRunning policy.supervisorTimeoutMs polls) :
    ∃ report, runCaseSupervised os case backend policy options = some report ∧
      (report.passed = true ↔ case.expectedCode = Abi.errTimeout) := by
  obtain ⟨elapsedNs, killedUs, hfind⟩ := hfound
  refine ⟨timeoutReport case backend policy.supervisorTimeoutMs pid killedUs, ?_, ?_⟩
  · rw [runCaseSupervised_spawned hexe hspawn, hfind]
    rfl
  · rw [CaseReport.passed_iff]
    change none = none ∧ some Abi.errTimeout = some case.expectedCode ↔ _
    rw [Option.some_inj, eq_comm (a := Abi.errTimeout)]
    exact and_iff_right rfl

end

section
variable {world : World} {config : Config} {policy : Policy} {case : GuestCase}
  {program : Program} {os : Os}

theorem args_paths {args : List OsArg}
    (hargs : Config.fromArgs (args.map Subtype.val) = .ok config) :
    PathsSatisfy (fun path => isFlag path = false ∧ NulFree path) config := by
  have hval (value : String) (h : value ∈ args.map Subtype.val ∧ isFlag value = false) :
      isFlag value = false ∧ NulFree value := by
    obtain ⟨arg, -, rfl⟩ := List.mem_map.1 h.1
    exact ⟨h.2, arg.2⟩
  have hpaths := fromArgs_paths _ config hargs
  exact ⟨fun path h => hval path (hpaths.policy path h),
    fun dir h => hval dir (hpaths.corpus dir h)⟩

theorem builtin_worker (backend : Backend) (hp : loadPolicy world config = .ok policy)
    (hs : config.workerExecuteStatic = false)
    (hpaths : PathsSatisfy (fun path => isFlag path = false ∧ NulFree path) config)
    (hdir : config.corpusDir = none) (hcase : case ∈ allCases world.includeStr) :
    ∃ policy', worker world (workerArgs case backend config.supervisorOptions) =
        .ok (some ⟨case, backend, policy', case.kind = .staticAudit⟩) ∧
      policy'.SameForRunner (case.policy policy) := by
  obtain ⟨policy', hp', hsame⟩ := loadPolicy_worker hp hs case backend
  have hfirst : FirstOfName (searchedCases world config.corpusDir) case := by
    rw [hdir, searchedCases]
    exact firstOfName_of_nodup (allCases_nodup _) hcase
  have hfound : workerCase world (workerConfig case backend config.supervisorOptions) case.name =
    .ok case := workerCase_ok_iff.2 hfirst
  refine ⟨policy', ?_, hsame⟩
  rw [worker_eq backend (allCases_passable hcase).1 (fun path h => (hpaths.policy path h).1)
    (fun dir h => (hpaths.corpus dir h).1) hp', hfound]
  rfl

omit [HostArch] in
theorem nonCooperativeLoop_denial (h : policy.requireTickImport = false) :
    nonCooperativeLoop.denial policy =
      if policy.maxMemoryPages < 1 then some Abi.errTooLarge else none := by
  rw [Program.denial, h, Bool.false_and]
  rfl

theorem spinning_worker {process : WorkerProcess} {around : Surroundings}
    (hstatic : process.run.executeStaticFixture = true)
    (htick : process.run.policy.requireTickImport = false)
    (hruns : process.Runs nonCooperativeLoop around)
    (hexpected : process.run.case.expectedCode = Abi.errTimeout) :
    if process.run.policy.maxMemoryPages < 1 then
      process.Ends nonCooperativeLoop around ∧ ¬process.report.passed = true
    else ¬process.Ends nonCooperativeLoop around := by
  have hdenial := nonCooperativeLoop_denial htick
  split
  case isTrue hpages =>
    rw [if_pos hpages] at hdenial
    refine ⟨.inr (.inl (by rw [hdenial]; rfl)), ?_⟩
    have hrun : ¬(process.run.case.kind = .staticAudit ∧
        (!process.run.executeStaticFixture) = true) := by
      rw [hstatic]
      exact fun h => Bool.false_ne_true h.2
    have haudit := nonCooperativeLoop.auditModule_denial process.run.policy
    rw [hdenial] at haudit
    rw [WorkerProcess.report, runCaseInner_denied process.guest process.clock process.run.case
      process.run.backend process.run.policy hruns.compiles
      (by rw [DeniedWith, if_neg hrun]; exact haudit), hexpected]
    decide
  case isFalse hpages =>
    rw [if_neg hpages] at hdenial
    rintro (⟨-, hrefused⟩ | hdenied | hreturns)
    · rw [hstatic] at hrefused
      cases hrefused
    · rw [hdenial] at hdenied
      cases hdenied
    · exact nonCooperativeLoop_not_returns hreturns

/-- Under a supervisor a built-in case comes out as it expects exactly under the policies that
let it, with the worker's own reading of the command line and of the policy file. -/
theorem supervised_passed_iff (backend : Backend) (hp : loadPolicy world config = .ok policy)
    (hs : config.workerExecuteStatic = false)
    (hpaths : PathsSatisfy (fun path => isFlag path = false ∧ NulFree path) config)
    (hdir : config.corpusDir = none) (hcase : case ∈ allCases world.includeStr)
    (hprogram : builtinGuest case.name = some program)
    (hos : os.HostsWorker world (workerArgs case backend config.supervisorOptions)
      policy.supervisorTimeoutMs program) :
    ∃ report, runCaseSupervised os case backend policy config.supervisorOptions = some report ∧
      (report.passed = true ↔ policy.ExercisesIn .process case) := by
  obtain ⟨exe, pid, polls, hexe, hspawn, hworker⟩ := hos
  obtain ⟨policy', hrun, hsame⟩ := builtin_worker backend hp hs hpaths hdir hcase
  obtain ⟨process, around, hprocess, hruns, hdone, hrunning⟩ := hworker _ hrun
  have hcase' : process.run.case = case := congrArg WorkerRun.case hprocess
  have hpolicy : process.run.policy = policy' := congrArg WorkerRun.policy hprocess
  have hstatic : process.run.executeStaticFixture = decide (case.kind = .staticAudit) :=
    congrArg WorkerRun.executeStaticFixture hprocess
  have hfinished (hends : process.Ends program around) :
      ∃ report, runCaseSupervised os case backend policy config.supervisorOptions =
        some report ∧ (report.passed = true ↔ process.report.passed = true) := by
    obtain ⟨hnone, hexpected⟩ := process.report_ended hruns hends
    rw [hcase'] at hexpected
    exact supervised_done hexe hspawn (hdone hends) hnone hexpected
  by_cases hkind : case.kind = .staticAudit
  · obtain ⟨hexpected, hname⟩ := builtin_static world.includeStr hcase hkind
    have hneeds : policy.ExercisesIn .process case ↔ 1 ≤ policy.maxMemoryPages := by
      rw [Policy.ExercisesIn, hname]
      exact ⟨fun h => h.2 ⟨rfl, hkind⟩, fun h => ⟨trivial, fun _ => h⟩⟩
    rw [hname] at hprogram
    obtain rfl : nonCooperativeLoop = program := Option.some.inj hprogram
    have htick : process.run.policy.requireTickImport = false := by
      rw [hpolicy, hsame.requireTickImport, GuestCase.policy, if_pos hkind]
    have hpages : process.run.policy.maxMemoryPages = policy.maxMemoryPages := by
      rw [hpolicy, hsame.maxMemoryPages, GuestCase.policy, if_pos hkind]
    have hspinning := spinning_worker (by rw [hstatic, decide_eq_true hkind]) htick hruns
      (hcase' ▸ hexpected)
    rw [hpages] at hspinning
    rw [hneeds, ← UInt32.not_lt]
    split at hspinning
    case isTrue hrefused =>
      obtain ⟨report, hreport, hpassed⟩ := hfinished hspinning.1
      exact ⟨report, hreport, iff_of_false (fun h => hspinning.2 (hpassed.1 h)) fun h => h hrefused⟩
    case isFalse hallowed =>
      obtain ⟨report, hreport, hpassed⟩ := supervised_killed hexe hspawn (hrunning hspinning)
      exact ⟨report, hreport, iff_of_true (hpassed.2 hexpected) hallowed⟩
  · have hends : process.Ends program around := by
      refine .inr (.inr ?_)
      rw [hcase']
      exact builtin_returns world.includeStr hcase hkind hprogram
    have hline : process.report.passed = true ↔ process.run.policy.Exercises case.name := by
      have hmode : process.run.executeStaticFixture = false := by
        rw [hstatic, decide_eq_false hkind]
      rw [WorkerProcess.report, hmode]
      rw [← hcase'] at hcase hprogram ⊢
      exact builtinGuest_passed_iff world.includeStr hcase hprogram hruns
    have hneeds : policy.ExercisesIn .process case ↔ policy.Exercises case.name :=
      and_iff_left fun h => absurd h.2 hkind
    obtain ⟨report, hreport, hpassed⟩ := hfinished hends
    refine ⟨report, hreport, ?_⟩
    rw [hpassed, hline, hpolicy, Policy.exercises_congr hsame, GuestCase.policy_exercises, hneeds]

/-- A built-in case comes out of a supervised worker as it comes out of a run in this process,
but for the guest that never ends, which a worker does not pass without a page. -/
theorem isolation_keeps_verdict {args : List OsArg} {engine : Engine} {guest : GuestExecution}
    {clock : Timings} {around : Surroundings}
    (hargs : Config.fromArgs (args.map Subtype.val) = .ok config)
    (hs : config.workerExecuteStatic = false) (hp : loadPolicy world config = .ok policy)
    (hdir : config.corpusDir = none) (hcase : case ∈ allCases world.includeStr)
    (hprogram : builtinGuest case.name = some program) (backend : Backend)
    (hruns : RunsProgram engine guest clock around case backend policy program)
    (hos : os.HostsWorker world (workerArgs case backend config.supervisorOptions)
      policy.supervisorTimeoutMs program) :
    ∃ report, runCaseSupervised os case backend policy config.supervisorOptions = some report ∧
      (report.passed = true ↔ (runCase engine guest clock case backend policy).passed = true ∧
        (case.kind = .staticAudit → 1 ≤ policy.maxMemoryPages)) := by
  obtain ⟨report, hreport, hpassed⟩ :=
    supervised_passed_iff backend hp hs (args_paths hargs) hdir hcase hprogram hos
  refine ⟨report, hreport, ?_⟩
  rw [hpassed, builtinGuest_passed_iff world.includeStr hcase hprogram hruns, Policy.ExercisesIn,
    eq_self_iff_true, true_and]

end

end

/-- An operating system on which a process it has started is always found running, in the end
after two seconds. -/
def patientOs : Os where
  currentExe := .ok "wasmer-demo"
  spawn := fun _ _ => .ok (7, [.running 1000000 1000, .running 2000000000 2000000])

theorem spinning_case_isolated :
    letI := HostArch.x86_64
    ∃ case ∈ allCases id, case.name = "non_cooperative_loop" ∧ ∃ report,
      runCaseSupervised patientOs case .cranelift .default ⟨none, none, false⟩ = some report ∧
        report.passed = true := by
  let _ := HostArch.x86_64
  let world : World :=
    ⟨fun path => .error path, fun _ => ⟨false, none, .unreadable "not found"⟩, id⟩
  let case := (allCases id).get ⟨22, by decide⟩
  have hcase : case ∈ allCases world.includeStr := List.get_mem _ _
  have hargs : Config.fromArgs (([⟨"--isolate", by unfold NulFree; decide⟩,
      ⟨"process", by unfold NulFree; decide⟩] : List OsArg).map Subtype.val) =
      .ok { isolation := .process } := rfl
  let guest := nonCooperativeLoop.instantiate plainSurroundings
  have hruns (policy : Policy) : RunsProgram (programEngine nonCooperativeLoop) guest
      ⟨1, 1, 1, 1, 1⟩ plainSurroundings case .cranelift policy nonCooperativeLoop := by
    refine ⟨⟨_, rfl, rfl⟩, ?_⟩
    intro fuel guest' hexecuted
    rw [nonCooperativeLoop_diverges] at hexecuted
    cases hexecuted
  have hfound : FoundRunning Policy.default.supervisorTimeoutMs
      [.running 1000000 1000, .running 2000000000 2000000] := by
    refine ⟨2000000000, 2000000, ?_⟩
    rw [List.find?_cons_of_neg (by decide), List.find?_cons_of_pos (by decide)]
  have hos : patientOs.HostsWorker world (workerArgs case .cranelift ⟨none, none, false⟩)
      Policy.default.supervisorTimeoutMs nonCooperativeLoop := by
    refine ⟨_, _, _, rfl, rfl, ?_⟩
    intro run hrun
    obtain ⟨policy', hworker, hsame⟩ := @builtin_worker _ world { isolation := .process }
      .default case .cranelift rfl rfl ⟨nofun, nofun⟩ rfl hcase
    obtain rfl := Option.some.inj (Except.ok.inj (hworker.symm.trans hrun))
    let process : WorkerProcess := ⟨programEngine nonCooperativeLoop, guest, ⟨1, 1, 1, 1, 1⟩,
      ⟨case, .cranelift, policy', case.kind = .staticAudit⟩⟩
    have hspinning := @spinning_worker _ process plainSurroundings rfl
      hsame.requireTickImport (hruns policy') rfl
    have hpages : process.run.policy.maxMemoryPages = 16 := hsame.maxMemoryPages
    rw [hpages, if_neg (by decide)] at hspinning
    exact ⟨process, plainSurroundings, rfl, hruns policy', fun hends => absurd hends hspinning,
      fun _ => hfound⟩
  obtain ⟨report, hreport, hpassed⟩ := isolation_keeps_verdict hargs rfl rfl rfl hcase rfl
    .cranelift (hruns .default) hos
  exact ⟨case, hcase, rfl, report, hreport,
    hpassed.2 ⟨staticAudit_passed rfl rfl (hruns .default).compiles, fun _ => by decide⟩⟩

end WasmerSectest
