import WasmerSectest.AsyncRunner
import WasmerSectest.Main

namespace WasmerSectest
set_option autoImplicit true

open BoundedPool (Event Pool Within spawned joined)

theorem getElem?_replicate_flatten {α : Type} (xs : List α) (n k : Nat) :
    (List.replicate n xs).flatten[k]? =
      if k < n * xs.length then xs[k % xs.length]? else none := by
  induction n generalizing k with
  | zero => rw [Nat.zero_mul, if_neg (Nat.not_lt_zero k)]; rfl
  | succ n ih =>
    rw [List.replicate_succ, List.flatten_cons]
    have hmul : (n + 1) * xs.length = n * xs.length + xs.length := Nat.succ_mul n xs.length
    by_cases hk : k < xs.length
    · rw [List.getElem?_append_left hk, Nat.mod_eq_of_lt hk, if_pos (by omega)]
    · have hle : xs.length ≤ k := Nat.not_lt.1 hk
      rw [List.getElem?_append_right hle, ih, ← Nat.mod_eq_sub_mod hle]
      by_cases hlt : k < (n + 1) * xs.length
      · rw [if_pos hlt, if_pos (by omega)]
      · rw [if_neg hlt, if_neg (by omega)]

section
variable [HostArch]

/-- The tasks for a list of cases, numbered from the given index on. -/
def numbered (config : Config) (policy : Policy) (start : Nat) (cases : List GuestCase) :
    List CaseTask :=
  (cases.zipIdx start).map fun (case, index) => caseTask config policy index case

def allTasks (config : Config) (policy : Policy) (cases : List GuestCase) : List CaseTask :=
  numbered config policy 0 (List.replicate config.repeat.toNat cases).flatten

section
variable {config : Config} {policy : Policy}

theorem numbered_append (start : Nat) (cases cases' : List GuestCase) :
    numbered config policy start (cases ++ cases') =
      numbered config policy start cases ++
        numbered config policy (start + cases.length) cases' := by
  rw [numbered, List.zipIdx_append, List.map_append]
  rfl

@[simp] theorem numbered_length (start : Nat) (cases : List GuestCase) :
    (numbered config policy start cases).length = cases.length := by
  rw [numbered, List.length_map, List.length_zipIdx]

theorem numbered_index (start : Nat) (cases : List GuestCase) :
    (numbered config policy start cases).map CaseTask.index =
      List.range' start cases.length := by
  rw [numbered, List.map_map, ← List.zipIdx_map_snd start cases]
  rfl

theorem allTasks_index (cases : List GuestCase) :
    (allTasks config policy cases).Pairwise fun a b => a.index < b.index := by
  have hindex : (allTasks config policy cases).map CaseTask.index = List.range' 0 _ :=
    numbered_index 0 _
  have hlt : ((allTasks config policy cases).map CaseTask.index).Pairwise (· < ·) := by
    rw [hindex]
    exact List.pairwise_lt_range'
  exact List.pairwise_map.1 hlt

theorem allTasks_getElem? (cases : List GuestCase) (k : Nat) :
    (allTasks config policy cases)[k]? =
      if k < config.repeat.toNat * cases.length then
        cases[k % cases.length]?.map (caseTask config policy k)
      else none := by
  rw [allTasks, numbered, List.getElem?_map, List.getElem?_zipIdx, getElem?_replicate_flatten]
  split
  · rw [Option.map_map, Nat.zero_add]
    rfl
  · rfl

end

section
variable {workers : Workers} (schedule : Nat → Nat) {maxInFlight : Nat} (config : Config)
  (policy : Policy) {tasks : List CaseTask} {state : Collector}

/-- What holds while the reports are collected: which tasks were spawned, and that every task
joined has left its report. -/
structure Collecting (workers : Workers) (maxInFlight : Nat) (tasks : List CaseTask)
    (state : Collector) : Prop where
  index_eq : state.index = tasks.length
  spawned_eq : spawned state.tasks.log = tasks
  reports_eq : state.reports = (joined state.tasks.log).map (runCaseTask workers)
  within : Within maxInFlight state.tasks.log

theorem runCaseTask_index (workers : Workers) (task : CaseTask) :
    (runCaseTask workers task).1 = task.index := by
  rw [runCaseTask]
  cases workers.outcome task <;> rfl

theorem Collecting.push (h : Collecting workers maxInFlight tasks state) {task : CaseTask}
    {pool : Pool CaseTask} {choice : Nat}
    (hj : state.tasks.joinNext choice = some (task, pool)) :
    Collecting workers maxInFlight tasks (state.push workers task pool) := by
  have hlog := Pool.joinNext_log hj
  refine ⟨h.index_eq, ?_, ?_, h.within.joinNext hj⟩
  · change spawned pool.log = tasks
    rw [hlog, BoundedPool.spawned_append, h.spawned_eq]
    exact List.append_nil tasks
  · change state.reports ++ [runCaseTask workers task] = (joined pool.log).map _
    rw [hlog, BoundedPool.joined_append, List.map_append, h.reports_eq]
    rfl

theorem collecting_joinNextReport (h : Collecting workers maxInFlight tasks state) :
    Collecting workers maxInFlight tasks (joinNextReport workers schedule state) := by
  rw [joinNextReport]
  split
  · exact h.push ‹_›
  · exact h

theorem joinNextReport_room (h : state.tasks.inFlight.length ≤ maxInFlight)
    (hpos : 1 ≤ maxInFlight) :
    (joinNextReport workers schedule state).tasks.inFlight.length < maxInFlight := by
  rw [joinNextReport]
  split
  · have hlength := Pool.joinNext_length ‹_›
    exact Nat.le_trans (Nat.le_of_eq hlength) h
  · have hnil := (Pool.joinNext_eq_none_iff _ _).1 ‹_›
    rw [hnil]
    exact hpos

theorem collecting_spawnCase (h : Collecting workers maxInFlight tasks state)
    (hroom : state.tasks.inFlight.length < maxInFlight) (case : GuestCase) :
    Collecting workers maxInFlight (tasks ++ numbered config policy tasks.length [case])
      (spawnCase workers schedule maxInFlight config policy state case) ∧
    (spawnCase workers schedule maxInFlight config policy state case).tasks.inFlight.length <
      maxInFlight := by
  have hspawn : Collecting workers maxInFlight
      (tasks ++ numbered config policy tasks.length [case])
      { state with
        index := state.index + 1
        tasks := state.tasks.spawn (caseTask config policy state.index case) } := by
    refine ⟨?_, ?_, ?_, h.within.spawn hroom⟩
    · rw [List.length_append, ← h.index_eq]
      rfl
    · change spawned (state.tasks.log ++ [_]) = _
      rw [BoundedPool.spawned_append, h.spawned_eq, ← h.index_eq]
      rfl
    · change state.reports = (joined (state.tasks.log ++ [_])).map _
      rw [BoundedPool.joined_append, h.reports_eq]
      exact congrArg _ (List.append_nil _).symm
  have hlength := state.tasks.spawn_length (caseTask config policy state.index case)
  rw [spawnCase]
  split
  · refine ⟨collecting_joinNextReport schedule hspawn, joinNextReport_room schedule ?_ (by omega)⟩
    change (state.tasks.spawn _).inFlight.length ≤ _
    omega
  · exact ⟨hspawn, Nat.not_le.1 ‹_›⟩

theorem collecting_spawnCases (h : Collecting workers maxInFlight tasks state)
    (hroom : state.tasks.inFlight.length < maxInFlight) (cases : List GuestCase) :
    Collecting workers maxInFlight (tasks ++ numbered config policy tasks.length cases)
      (cases.foldl (spawnCase workers schedule maxInFlight config policy) state) ∧
    (cases.foldl (spawnCase workers schedule maxInFlight config policy)
      state).tasks.inFlight.length < maxInFlight := by
  induction cases generalizing tasks state with
  | nil =>
    refine ⟨?_, hroom⟩
    have hnil : numbered config policy tasks.length [] = [] := rfl
    rw [hnil, List.append_nil]
    exact h
  | cons case cases ih =>
    obtain ⟨hone, hroom'⟩ := collecting_spawnCase schedule config policy h hroom case
    have hsplit : numbered config policy tasks.length (case :: cases) =
        numbered config policy tasks.length [case] ++
          numbered config policy (tasks.length + 1) cases :=
      numbered_append tasks.length [case] cases
    have hrest := ih hone hroom'
    rw [List.length_append, numbered_length, List.append_assoc] at hrest
    rw [hsplit]
    exact hrest

theorem collecting_spawnRounds (h : Collecting workers maxInFlight tasks state)
    (hroom : state.tasks.inFlight.length < maxInFlight) (cases : List GuestCase)
    (rounds : Nat) :
    Collecting workers maxInFlight
      (tasks ++ numbered config policy tasks.length (List.replicate rounds cases).flatten)
      (spawnRounds workers schedule maxInFlight config policy cases state rounds) := by
  induction rounds generalizing tasks state with
  | zero =>
    have hnil : numbered config policy tasks.length (List.replicate 0 cases).flatten = [] := rfl
    rw [hnil, List.append_nil]
    exact h
  | succ rounds ih =>
    obtain ⟨hone, hroom'⟩ := collecting_spawnCases schedule config policy h hroom cases
    have hrest := ih hone hroom'
    rw [List.length_append, numbered_length, List.append_assoc, ← numbered_append] at hrest
    exact hrest

theorem collecting_joinAll (h : Collecting workers maxInFlight tasks state) :
    Collecting workers maxInFlight tasks (joinAll workers schedule state) ∧
      (joinAll workers schedule state).tasks.inFlight = [] := by
  fun_induction joinAll workers schedule state with
  | case1 state task pool hj ih => exact ih (h.push hj)
  | case2 state hj => exact ⟨h, (Pool.joinNext_eq_none_iff _ _).1 hj⟩

/-- What the concurrent runner returns, whatever the schedule. -/
theorem collectReportsAsync_spec (workers : Workers) (schedule : Nat → Nat) {maxInFlight : Nat}
    (config : Config) (policy : Policy) (h : 1 ≤ maxInFlight) (cases : List GuestCase) :
    let run := collectReportsAsync workers schedule maxInFlight config policy cases
    run.1 = (allTasks config policy cases).map (fun task => (runCaseTask workers task).2) ∧
      spawned run.2 = allTasks config policy cases ∧
      (joined run.2).Perm (spawned run.2) ∧ Within maxInFlight run.2 := by
  intro run
  have hstart : Collecting workers maxInFlight [] ⟨0, .empty, []⟩ :=
    ⟨rfl, rfl, rfl, BoundedPool.within_nil maxInFlight⟩
  obtain ⟨hend, hnone⟩ := collecting_joinAll schedule
    (collecting_spawnRounds schedule config policy hstart h cases config.repeat.toNat)
  have hspawned : spawned run.2 = allTasks config policy cases := hend.spawned_eq
  have hperm : (joined run.2).Perm (spawned run.2) := by
    have hbalanced := (joinAll workers schedule (spawnRounds workers schedule maxInFlight
      config policy cases ⟨0, .empty, []⟩ config.repeat.toNat)).tasks.balanced
    rw [hnone] at hbalanced
    exact hbalanced
  refine ⟨?_, hspawned, hperm, hend.within⟩
  have hsorted : ((allTasks config policy cases).map (runCaseTask workers)).Pairwise
      fun a b => a.1 < b.1 := by
    apply List.pairwise_map.2
    apply (allTasks_index cases).imp
    intro a b hab
    rw [runCaseTask_index, runCaseTask_index]
    exact hab
  have hshuffled : ((joined run.2).map (runCaseTask workers)).Perm
      ((allTasks config policy cases).map (runCaseTask workers)) :=
    (hspawned ▸ hperm).map _
  have hmerge := BoundedPool.mergeSort_of_perm Prod.fst hshuffled hsorted
  change (List.mergeSort (joinAll _ _ _).reports _).map Prod.snd = _
  rw [hend.reports_eq]
  exact (congrArg (List.map Prod.snd) hmerge).trans List.map_map

theorem allTasks_nodup (cases : List GuestCase) : (allTasks config policy cases).Nodup := by
  apply (allTasks_index cases).imp
  intro a b hab heq
  exact Nat.lt_irrefl _ (heq ▸ hab)

/-- A report without the times that were measured. -/
def CaseReport.untimed (report : CaseReport) : CaseReport :=
  { report with
    compileUs := 0
    instantiateUs := 0
    runUs := 0
    telemetry := { report.telemetry with
      events := report.telemetry.events.map fun event => { event with elapsedUs := 0 } } }

end

section
variable {platform : Nat → Platform} {config : Config} {policy : Policy}
  {expected : CaseTask → CaseReport}

def Gives (platform : Nat → Platform) (expected : CaseTask → CaseReport) (task : CaseTask) :
    Prop :=
  ∃ report, runCaseTaskBlocking (platform task.index) task = some report ∧
    report.untimed = (expected task).untimed

theorem collectCases_gives (reports : List CaseReport) (cases : List GuestCase)
    (h : ∀ task ∈ numbered config policy reports.length cases, Gives platform expected task) :
    ∃ reports', collectCases platform config policy reports cases = some (reports ++ reports') ∧
      reports'.map CaseReport.untimed =
        (numbered config policy reports.length cases).map fun task => (expected task).untimed := by
  induction cases generalizing reports with
  | nil => exact ⟨[], congrArg some (List.append_nil reports).symm, rfl⟩
  | cons case cases ih =>
    have hsplit : numbered config policy reports.length (case :: cases) =
        caseTask config policy reports.length case ::
          numbered config policy (reports.length + 1) cases := rfl
    rw [hsplit] at h ⊢
    obtain ⟨report, hrun, huntimed⟩ := h _ List.mem_cons_self
    have hlength : (reports ++ [report]).length = reports.length + 1 := List.length_append
    obtain ⟨reports', hcases, hmap⟩ := ih (reports ++ [report])
      (fun task ht => h task (List.mem_cons_of_mem _ (hlength ▸ ht)))
    refine ⟨report :: reports', ?_, ?_⟩
    · have hselected : runSelectedCase (platform reports.length) config case policy =
          some report := hrun
      rw [collectCases, hselected]
      change collectCases platform config policy (reports ++ [report]) cases = _
      rw [hcases, List.append_assoc]
      rfl
    · rw [List.map_cons, List.map_cons, huntimed, hmap, hlength]

theorem collectRounds_gives (reports : List CaseReport) (cases : List GuestCase) (rounds : Nat)
    (h : ∀ task ∈ numbered config policy reports.length (List.replicate rounds cases).flatten,
      Gives platform expected task) :
    ∃ reports', collectRounds platform config cases policy reports rounds =
        some (reports ++ reports') ∧
      reports'.map CaseReport.untimed =
        (numbered config policy reports.length (List.replicate rounds cases).flatten).map
          fun task => (expected task).untimed := by
  induction rounds generalizing reports with
  | zero => exact ⟨[], congrArg some (List.append_nil reports).symm, rfl⟩
  | succ rounds ih =>
    have hsplit : numbered config policy reports.length
        (List.replicate (rounds + 1) cases).flatten =
        numbered config policy reports.length cases ++
          numbered config policy (reports.length + cases.length)
            (List.replicate rounds cases).flatten := numbered_append _ cases _
    rw [hsplit] at h ⊢
    have hnow : ∀ task ∈ numbered config policy reports.length cases,
        Gives platform expected task := fun task ht => h task (List.mem_append_left _ ht)
    obtain ⟨first, hfirst, hmap⟩ := collectCases_gives reports cases hnow
    have hlength : (reports ++ first).length = reports.length + cases.length := by
      have hcount := congrArg List.length hmap
      rw [List.length_map, List.length_map, numbered_length] at hcount
      rw [List.length_append, hcount]
    obtain ⟨rest, hrest, hmap'⟩ := ih (reports ++ first)
      (fun task ht => h task (List.mem_append_right _ (hlength ▸ ht)))
    refine ⟨first ++ rest, ?_, ?_⟩
    · rw [collectRounds, hfirst]
      change collectRounds platform config cases policy (reports ++ first) rounds = _
      rw [hrest, List.append_assoc]
    · rw [List.map_append, List.map_append, hmap, hmap', hlength]

end

/-- Running a case on either side gives the same report up to timing. -/
def SameUpToTiming (platform platform' : Nat → Platform) : Prop :=
  ∀ index task, (runCaseTaskBlocking (platform index) task).map CaseReport.untimed =
    (runCaseTaskBlocking (platform' index) task).map CaseReport.untimed

section
variable {workers : Workers} {config : Config} {policy : Policy}

theorem runCaseTask_ok {task : CaseTask} {report : CaseReport}
    (h : workers.outcome task = .ok report) : runCaseTask workers task = (task.index, report) := by
  rw [runCaseTask, h]

theorem runCaseTask_error {task : CaseTask} {err : String}
    (h : workers.outcome task = .error err) :
    runCaseTask workers task = (task.index, asyncWorkerErrorReport task.case task.backend
      (SectestError.asyncJoin err).toString) := by
  rw [runCaseTask, h]

theorem collectReports_untimed {platform : Nat → Platform} {cases : List GuestCase}
    (hok : ∀ task ∈ allTasks config policy cases, ∃ report, workers.outcome task = .ok report)
    (hsame : SameUpToTiming workers.platform platform) :
    ∃ reports, collectReports platform config cases policy = some reports ∧
      reports.map CaseReport.untimed =
        (allTasks config policy cases).map fun task => (runCaseTask workers task).2.untimed := by
  refine collectRounds_gives [] cases config.repeat.toNat fun task ht => ?_
  obtain ⟨report, hreport⟩ := hok task ht
  have hmap := hsame task.index task
  rw [workers.runs task report hreport] at hmap
  obtain ⟨report', hrun, huntimed⟩ := Option.map_eq_some_iff.1 hmap.symm
  refine ⟨report', hrun, huntimed.trans ?_⟩
  change _ = (runCaseTask workers task).2.untimed
  rw [runCaseTask_ok hreport]

end

/-- The concurrent runner gives the reports of the sequential one, in its order. -/
theorem concurrent_runner_exact (workers : Workers) (schedule : Nat → Nat) {maxInFlight : Nat}
    (config : Config) (policy : Policy) (cases : List GuestCase) (h : 1 ≤ maxInFlight) :
    let total := config.repeat.toNat * cases.length
    let (reports, log) := collectReportsAsync workers schedule maxInFlight config policy cases
    reports.length = total ∧
    (∀ k < total, ∃ case, cases[k % cases.length]? = some case ∧
      match workers.outcome (caseTask config policy k case) with
      | .ok report => reports[k]? = some report ∧
        runSelectedCase (workers.platform k) config case policy = some report
      | .error err => reports[k]? = some (asyncWorkerErrorReport case config.backend
        (SectestError.asyncJoin err).toString)) ∧
    ((∀ task ∈ spawned log, ∃ report, workers.outcome task = .ok report) →
      ∀ platform, SameUpToTiming workers.platform platform →
        ∃ reports', collectReports platform config cases policy = some reports' ∧
          reports'.map CaseReport.untimed = reports.map CaseReport.untimed) ∧
    Within maxInFlight log ∧
    (spawned log).length = total ∧ (spawned log).Nodup ∧ (joined log).Perm (spawned log) := by
  have hspec := collectReportsAsync_spec workers schedule config policy h cases
  generalize collectReportsAsync workers schedule maxInFlight config policy cases = run at hspec ⊢
  obtain ⟨reports, log⟩ := run
  obtain ⟨hreports, hspawned, hperm, hwithin⟩ := hspec
  change reports = _ at hreports
  change spawned log = _ at hspawned
  intro total
  have hlength : (allTasks config policy cases).length = total := by
    rw [allTasks, numbered_length, List.length_flatten, List.map_replicate,
      List.sum_replicate_nat]
  refine ⟨?_, ?_, ?_, hwithin, ?_, ?_, hperm⟩
  · rw [hreports, List.length_map, hlength]
  · intro k hk
    have hn : 0 < cases.length := Nat.pos_of_mul_pos_left (Nat.zero_lt_of_lt hk)
    obtain ⟨case, hcase⟩ : ∃ case, cases[k % cases.length]? = some case :=
      ⟨_, List.getElem?_eq_getElem (Nat.mod_lt k hn)⟩
    refine ⟨case, hcase, ?_⟩
    have hreport : reports[k]? =
        some (runCaseTask workers (caseTask config policy k case)).2 := by
      rw [hreports, List.getElem?_map, allTasks_getElem?, if_pos hk, hcase]
      rfl
    split
    · have hrun := workers.runs _ _ ‹_›
      rw [runCaseTask_ok ‹_›] at hreport
      exact ⟨hreport, hrun⟩
    · rw [runCaseTask_error ‹_›] at hreport
      exact hreport
  · intro hok platform hsame
    rw [hspawned] at hok
    obtain ⟨reports', hrun, hmap⟩ := collectReports_untimed hok hsame
    refine ⟨reports', hrun, ?_⟩
    rw [hmap, hreports, List.map_map]
    rfl
  · rw [hspawned, hlength]
  · rw [hspawned]
    exact allTasks_nodup config policy cases

end

def barePlatform [HostArch] : Platform where
  engine := ⟨fun _ => .error "no parser", fun _ _ => .error "no compiler"⟩
  guest := {
    start := []
    instantiate := .error "no instance"
    memoryExport := .error "no instance"
    instantiated := fun _ => ⟨[], Nat.zero_le _⟩
    growOnly := none
    grown := fun _ => ⟨[], Nat.zero_le _⟩
    runExport := .error "no instance"
    run := ([], .error "no instance")
    finished := fun _ => ⟨[], Nat.zero_le _⟩
    dataPtr := fun _ _ => 0 }
  clock := ⟨0, 0, 0, 0, 0⟩
  os := ⟨.error "no program", fun _ _ => .error "no program"⟩

def panickingWorkers [HostArch] : Workers where
  platform := fun _ => barePlatform
  outcome := fun task =>
    if task.index % 2 = 1 then .error s!"task {task.index} panicked"
    else
      match runCaseTaskBlocking barePlatform task with
      | some report => .ok report
      | none => .error "cancelled"
  runs := by
    intro task report h
    split at h
    · cases h
    · split at h
      · cases h
        exact ‹_›
      · cases h

theorem panicking_workers_reported :
    letI := HostArch.x86_64
    (collectReportsAsync panickingWorkers (fun n => n * n) 2 { «repeat» := 3 } .default
      (campaignCases id)).1.length = 48 := by
  let _ := HostArch.x86_64
  have h := concurrent_runner_exact panickingWorkers (fun n => n * n) { «repeat» := 3 } .default
    (campaignCases id) (show 1 ≤ 2 by decide)
  exact h.1

end WasmerSectest
