import WasmerSectest.Lib.Returns
import WasmerSectest.Main

namespace WasmerSectest
set_option autoImplicit true

theorem requireValue_returns (rest : List String) (flag : String) :
    Returns (fun value => value ∈ rest ∧ isFlag value = false) (requireValue rest flag) := by
  intro value h
  cases rest with
  | nil => cases h
  | cons head rest =>
    rw [requireValue] at h
    split at h
    · cases h
    · cases h
      exact ⟨List.mem_cons_self, Bool.not_eq_true _ ▸ ‹_›⟩

section
variable [HostArch]

/-- The paths a command line gives to a configuration have the property. -/
structure PathsSatisfy (Q : String → Prop) (config : Config) : Prop where
  policy : ∀ path, config.policyPath = some path → Q path
  corpus : ∀ dir, config.corpusDir = some dir → Q dir

theorem applyArg_paths {Q : String → Prop} {config : Config} {rest : List String}
    (h : PathsSatisfy Q config) (hrest : ∀ value ∈ rest, isFlag value = false → Q value)
    (arg : String) :
    Returns (fun r : Config × Bool => PathsSatisfy Q r.1) (config.applyArg arg rest) := by
  have hvalue (flag : String) : Returns Q (requireValue rest flag) := fun value hv =>
    let ⟨hm, hf⟩ := requireValue_returns rest flag value hv
    hrest value hm hf
  unfold Config.applyArg
  split
  -- the directory of `--corpus` and the file of `--policy`; no other argument touches a path
  case h_5 =>
    refine .bind (hvalue _) ?_
    intro dir hdir
    exact .pure ⟨h.policy, fun _ hd => Option.some.inj hd ▸ hdir⟩
  case h_8 =>
    refine .bind (hvalue _) ?_
    intro path hpath
    exact .pure ⟨fun _ hp => Option.some.inj hp ▸ hpath, h.corpus⟩
  all_goals
    first
    | exact .pure ⟨h.policy, h.corpus⟩
    | exact .throw _
    | exact .bind (.any _) fun _ _ => .pure ⟨h.policy, h.corpus⟩
    | exact .bind (.any _) fun _ _ => .bind (.any _) fun _ _ => .pure ⟨h.policy, h.corpus⟩
    | refine .bind (.any _) fun _ _ => ?_
      split <;> first | exact .pure ⟨h.policy, h.corpus⟩ | exact .throw _

theorem applyArgs_paths {Q : String → Prop} {config : Config} {args : List String}
    (h : PathsSatisfy Q config) (hargs : ∀ value ∈ args, isFlag value = false → Q value)
    (skip : Bool) : Returns (PathsSatisfy Q) (config.applyArgs skip args) := by
  induction args generalizing config skip with
  | nil => exact .pure h
  | cons arg rest ih =>
    have hrest : ∀ value ∈ rest, isFlag value = false → Q value :=
      fun value hv => hargs value (List.mem_cons_of_mem _ hv)
    cases skip with
    | true => exact ih h hrest false
    | false => exact .bind (applyArg_paths h hrest arg) fun r hr => ih hr hrest r.2

theorem fromArgs_paths (args : List String) :
    Returns (PathsSatisfy fun value => value ∈ args ∧ isFlag value = false)
      (Config.fromArgs args) :=
  applyArgs_paths ⟨nofun, nofun⟩ (fun _ hm hf => ⟨hm, hf⟩) false

theorem applyArgs_value {config config' : Config} {arg value : String} {rest : List String}
    (h : config.applyArg arg (value :: rest) = .ok (config', true)) :
    config.applyArgs false (arg :: value :: rest) = config'.applyArgs false rest := by
  rw [Config.applyArgs, if_neg (by decide), h]
  change config'.applyArgs true (value :: rest) = _
  rw [Config.applyArgs, if_pos rfl]

theorem applyArgs_switch {config config' : Config} {arg : String} {rest : List String}
    (h : config.applyArg arg rest = .ok (config', false)) :
    config.applyArgs false (arg :: rest) = config'.applyArgs false rest := by
  rw [Config.applyArgs, if_neg (by decide), h]
  rfl

section
variable (config : Config) (rest : List String)

theorem applyArg_workerCase (h : isFlag name = false) :
    config.applyArg "--worker-case" (name :: rest) =
      .ok ({ config with workerCase := some name }, true) := by
  change (requireValue (name :: rest) "--worker-case" >>= fun v => pure (_, true)) = _
  rw [requireValue, h]
  rfl

theorem applyArg_backend (backend : Backend) :
    config.applyArg "--backend" (backend.name :: rest) =
      .ok ({ config with backend := backend }, true) := by
  cases backend <;> rfl

theorem applyArg_noColor :
    config.applyArg "--no-color" rest = .ok ({ config with noColor := true }, false) := rfl

theorem applyArg_policy (h : isFlag path = false) :
    config.applyArg "--policy" (path :: rest) =
      .ok ({ config with policyPath := some path }, true) := by
  change (requireValue (path :: rest) "--policy" >>= fun v => pure (_, true)) = _
  rw [requireValue, h]
  rfl

theorem applyArg_corpus (h : isFlag dir = false) :
    config.applyArg "--corpus" (dir :: rest) =
      .ok ({ config with corpusDir := some dir }, true) := by
  change (requireValue (dir :: rest) "--corpus" >>= fun v => pure (_, true)) = _
  rw [requireValue, h]
  rfl

end

/-- What the worker's command line says. -/
def workerConfig (case : GuestCase) (backend : Backend) (options : SupervisorOptions) :
    Config where
  workerCase := some case.name
  backend := backend
  noColor := true
  policyPath := options.policyPath
  corpusDir := options.corpusDir
  allowUnmetered := options.allowUnmetered || case.kind = .staticAudit
  workerExecuteStatic := case.kind = .staticAudit

section
variable {config : Config} {rest : List String}

theorem applyArgs_policy {policyPath : Option String} (h : config.policyPath = none)
    (hpath : ∀ path, policyPath = some path → isFlag path = false) :
    config.applyArgs false ((policyPath.map fun path => ["--policy", path]).getD [] ++ rest) =
      { config with policyPath := policyPath }.applyArgs false rest := by
  cases policyPath with
  | none =>
    have he : { config with policyPath := none } = config := by rw [← h]
    rw [he]
    rfl
  | some path => exact applyArgs_value (applyArg_policy config rest (hpath path rfl))

theorem applyArgs_corpus {corpusDir : Option String} (h : config.corpusDir = none)
    (hdir : ∀ dir, corpusDir = some dir → isFlag dir = false) :
    config.applyArgs false ((corpusDir.map fun dir => ["--corpus", dir]).getD [] ++ rest) =
      { config with corpusDir := corpusDir }.applyArgs false rest := by
  cases corpusDir with
  | none =>
    have he : { config with corpusDir := none } = config := by rw [← h]
    rw [he]
    rfl
  | some dir => exact applyArgs_value (applyArg_corpus config rest (hdir dir rfl))

theorem applyArgs_unmetered (allowUnmetered : Bool) (h : config.allowUnmetered = false) :
    config.applyArgs false ((if allowUnmetered then ["--allow-unmetered"] else []) ++ rest) =
      { config with allowUnmetered := allowUnmetered }.applyArgs false rest := by
  cases allowUnmetered with
  | false =>
    have he : { config with allowUnmetered := false } = config := by rw [← h]
    rw [he]
    rfl
  | true => exact applyArgs_switch rfl

theorem applyArgs_static (kind : CaseKind) (h : config.workerExecuteStatic = false) :
    config.applyArgs false (if kind = .staticAudit then
      ["--allow-unmetered", "--worker-execute-static-audit"] else []) =
      .ok { config with
        allowUnmetered := config.allowUnmetered || kind = .staticAudit
        workerExecuteStatic := kind = .staticAudit } := by
  obtain rfl | hk := eq_or_ne kind .staticAudit
  · rw [if_pos rfl, applyArgs_switch rfl, applyArgs_switch rfl, Config.applyArgs,
      Bool.or_eq_true_iff.2 (.inr (decide_eq_true rfl))]
    rfl
  · have he : { config with workerExecuteStatic := false } = config := by rw [← h]
    rw [if_neg hk, Config.applyArgs, decide_eq_false hk, Bool.or_false]
    exact congrArg Except.ok he.symm

end

theorem fromArgs_workerArgs {case : GuestCase} {options : SupervisorOptions}
    (backend : Backend) (hname : isFlag case.name = false)
    (hpolicy : ∀ path, options.policyPath = some path → isFlag path = false)
    (hcorpus : ∀ dir, options.corpusDir = some dir → isFlag dir = false) :
    Config.fromArgs (workerArgs case backend options) =
      .ok (workerConfig case backend options) := by
  rw [Config.fromArgs, workerArgs]
  simp only [List.cons_append, List.nil_append, List.append_assoc]
  rw [applyArgs_value (applyArg_workerCase _ _ hname), applyArgs_value (applyArg_backend _ _ _),
    applyArgs_switch (applyArg_noColor _ _),
    applyArgs_policy rfl hpolicy, applyArgs_corpus rfl hcorpus, applyArgs_unmetered _ rfl,
    applyArgs_static _ rfl]
  rfl

theorem fromArgs_workerArgs_flag {case : GuestCase} (backend : Backend)
    (options : SupervisorOptions) (hname : isFlag case.name = true) :
    Config.fromArgs (workerArgs case backend options) =
      .error ⟨2, ["--worker-case requires a value"]⟩ := by
  rw [Config.fromArgs, workerArgs]
  simp only [List.cons_append, List.nil_append, List.append_assoc]
  rw [Config.applyArgs, if_neg (by decide)]
  change ((requireValue _ "--worker-case" >>= fun v => pure _) >>= _) = _
  rw [requireValue, hname]
  rfl

end

/-- A text the operating system can pass as an argument: it holds no NUL. -/
def NulFree (text : String) : Prop := '\x00' ∉ text.toList

abbrev OsArg := { text : String // NulFree text }

theorem nulFree_flag_value {flag : String} {value : Option String} (hflag : NulFree flag)
    (hvalue : ∀ v, value = some v → NulFree v) :
    ∀ arg ∈ (value.map fun v => [flag, v]).getD [], NulFree arg := by
  cases value with
  | none => exact nofun
  | some v => exact List.forall_mem_cons.2 ⟨hflag, List.forall_mem_singleton.2 (hvalue v rfl)⟩

theorem workerArgs_nulFree {options : SupervisorOptions} (case : GuestCase) (backend : Backend)
    (hpolicy : ∀ path, options.policyPath = some path → NulFree path)
    (hcorpus : ∀ dir, options.corpusDir = some dir → NulFree dir) :
    (∀ arg ∈ workerArgs case backend options, NulFree arg) ↔ NulFree case.name := by
  have hliteral : NulFree "--worker-case" ∧ NulFree "--backend" ∧ NulFree "--no-color" ∧
      NulFree "--policy" ∧ NulFree "--corpus" ∧ NulFree "--allow-unmetered" ∧
      NulFree "--worker-execute-static-audit" := by
    unfold NulFree
    decide
  obtain ⟨hw, hb, hn, hp, hc, hu, hx⟩ := hliteral
  have hbackend : NulFree backend.name := by
    unfold NulFree
    cases backend <;> decide
  simp only [workerArgs, List.forall_mem_append, List.forall_mem_cons]
  apply Iff.intro
  · intro h
    exact h.1.1.1.1.2.1
  · intro hname
    refine ⟨⟨⟨⟨⟨hw, hname, hb, hbackend, hn, nofun⟩, nulFree_flag_value hp hpolicy⟩,
      nulFree_flag_value hc hcorpus⟩, ?_⟩, ?_⟩
    · split
      · exact List.forall_mem_singleton.2 hu
      · exact nofun
    · split
      · exact List.forall_mem_cons.2 ⟨hu, List.forall_mem_singleton.2 hx⟩
      · exact nofun

/-- Two policies agree in every field the runner reads. -/
structure Policy.SameForRunner (p q : Policy) : Prop where
  maxPacketLen : p.maxPacketLen = q.maxPacketLen
  maxCapStringLen : p.maxCapStringLen = q.maxCapStringLen
  maxAlloc : p.maxAlloc = q.maxAlloc
  initialFuel : p.initialFuel = q.initialFuel
  maxMemoryPages : p.maxMemoryPages = q.maxMemoryPages
  requireTickImport : p.requireTickImport = q.requireTickImport
  allowedPaths : p.allowedPaths = q.allowedPaths

theorem Policy.SameForRunner.trans {p q r : Policy} (h : p.SameForRunner q)
    (h' : q.SameForRunner r) : p.SameForRunner r :=
  ⟨h.1.trans h'.1, h.2.trans h'.2, h.3.trans h'.3, h.4.trans h'.4, h.5.trans h'.5,
    h.6.trans h'.6, h.7.trans h'.7⟩

theorem Policy.SameForRunner.symm {p q : Policy} (h : p.SameForRunner q) : q.SameForRunner p :=
  ⟨h.1.symm, h.2.symm, h.3.symm, h.4.symm, h.5.symm, h.6.symm, h.7.symm⟩

/-- The policy a case is to be run under: a static fixture runs without the tick import. -/
def GuestCase.policy (case : GuestCase) (policy : Policy) : Policy :=
  if case.kind = .staticAudit then { policy with requireTickImport := false } else policy

/-- A worker given this command line can be spawned and runs the case it was asked to run. -/
def RunsAsked [HostArch] (world : World) (options : SupervisorOptions) (backend : Backend)
    (policy : Policy) (case : GuestCase) : Prop :=
  (∀ arg ∈ workerArgs case backend options, NulFree arg) ∧
    ∃ run, worker world (workerArgs case backend options) = .ok (some run) ∧
      run.case = case ∧ run.backend = backend ∧ run.policy.SameForRunner (case.policy policy)

/-- The cases among which a name is looked up. -/
def searchedCases (world : World) (corpusDir : Option String) : List GuestCase :=
  match corpusDir with
  | some dir => (loadCorpus dir (world.corpusDir dir)).toOption.getD []
  | none => allCases world.includeStr

/-- The case stands in the list, and no case of its name before it. -/
def FirstOfName (cases : List GuestCase) (case : GuestCase) : Prop :=
  ∃ before after, cases = before ++ case :: after ∧ ∀ c ∈ before, c.name ≠ case.name

theorem find_name_iff {cases : List GuestCase} {case : GuestCase} :
    cases.find? (·.name == case.name) = some case ↔ FirstOfName cases case := by
  rw [List.find?_eq_some_iff_append]
  apply Iff.intro
  · rintro ⟨-, before, after, heq, hbefore⟩
    exact ⟨before, after, heq, fun c hc => by simpa using hbefore c hc⟩
  · rintro ⟨before, after, heq, hbefore⟩
    exact ⟨beq_self_eq_true _, before, after, heq, fun c hc => by simpa using hbefore c hc⟩

theorem firstOfName_of_nodup {cases : List GuestCase} {case : GuestCase}
    (hnodup : (cases.map GuestCase.name).Nodup) (hmem : case ∈ cases) :
    FirstOfName cases case := by
  obtain ⟨before, after, rfl⟩ := List.append_of_mem hmem
  rw [List.map_append, List.nodup_append] at hnodup
  exact ⟨before, after, rfl, fun c hc =>
    hnodup.2.2 _ (List.mem_map_of_mem hc) _ (List.mem_map_of_mem List.mem_cons_self)⟩

theorem allCases_names (includeStr : String → String) :
    (allCases includeStr).map GuestCase.name = (allCases id).map GuestCase.name := rfl

theorem allCases_nodup (includeStr : String → String) :
    ((allCases includeStr).map GuestCase.name).Nodup := by
  rw [allCases_names]
  decide

theorem allCases_passable {case : GuestCase} {includeStr : String → String}
    (h : case ∈ allCases includeStr) : isFlag case.name = false ∧ NulFree case.name := by
  have hall : ∀ name ∈ (allCases id).map GuestCase.name,
      isFlag name = false ∧ '\x00' ∉ name.toList := by decide
  exact hall _ (allCases_names includeStr ▸ List.mem_map_of_mem h)

section
variable [HostArch] {world : World} {config : Config} {policy : Policy}

theorem workerCase_ok_iff {case : GuestCase} :
    workerCase world config case.name = .ok case ↔
      FirstOfName (searchedCases world config.corpusDir) case := by
  have hinj (c : GuestCase) : (Except.ok c : Except Exit GuestCase) = .ok case ↔
      some c = some case := by rw [Except.ok.injEq, Option.some.injEq]
  rw [← find_name_iff]
  unfold workerCase searchedCases
  cases config.corpusDir with
  | none =>
    change _ ↔ findCase world.includeStr case.name = some case
    simp only
    cases findCase world.includeStr case.name with
    | none =>
      apply iff_of_false
      · intro h
        cases h
      · intro h
        cases h
    | some c => exact hinj c
  | some dir =>
    simp only [chooseExternalCases]
    cases loadCorpus dir (world.corpusDir dir) with
    | error err =>
      apply iff_of_false
      · intro h
        cases h
      · intro h
        cases h
    | ok cases =>
      change _ ↔ cases.find? (·.name == case.name) = some case
      simp only
      cases cases.find? (·.name == case.name) with
      | none =>
        apply iff_of_false
        · intro h
          cases h
        · intro h
          cases h
      | some c => exact hinj c

/-- The command line only ever touches the tick requirement and the timeout. -/
theorem adjustPolicy_eq (config : Config) (base : Policy) :
    config.adjustPolicy base = { base with
      requireTickImport :=
        base.requireTickImport && !(config.allowUnmetered || config.workerExecuteStatic)
      supervisorTimeoutMs := config.timeoutMs.getD base.supervisorTimeoutMs } := by
  obtain ⟨_, _, _, _, _, requireTickImport, _, _⟩ := base
  rw [Config.adjustPolicy]
  cases config.allowUnmetered <;> cases config.workerExecuteStatic <;>
    cases config.timeoutMs <;> cases requireTickImport <;> rfl

theorem loadPolicy_worker (hp : loadPolicy world config = .ok policy)
    (hs : config.workerExecuteStatic = false) (case : GuestCase) (backend : Backend) :
    ∃ policy', loadPolicy world (workerConfig case backend config.supervisorOptions) =
        .ok policy' ∧ policy'.SameForRunner (case.policy policy) := by
  rw [loadPolicy] at hp ⊢
  change ∃ policy', (readPolicy world config.policyPath).map _ = _ ∧ _
  cases hr : readPolicy world config.policyPath with
  | error e => rw [hr] at hp; cases hp
  | ok base =>
    rw [hr] at hp
    obtain rfl := Except.ok.inj hp
    refine ⟨_, rfl, ?_⟩
    rw [GuestCase.policy, adjustPolicy_eq, adjustPolicy_eq, hs, Bool.or_false]
    by_cases hk : case.kind = .staticAudit
    · rw [if_pos hk]
      refine ⟨rfl, rfl, rfl, rfl, rfl, ?_, rfl⟩
      simp only [workerConfig, hk, decide_true, Bool.or_true, Bool.not_true, Bool.and_false]
    · rw [if_neg hk]
      refine ⟨rfl, rfl, rfl, rfl, rfl, ?_, rfl⟩
      simp only [workerConfig, hk, decide_false, Bool.or_false]
      rfl

theorem worker_flag {case : GuestCase} (backend : Backend) (options : SupervisorOptions)
    (h : isFlag case.name = true) :
    worker world (workerArgs case backend options) =
      .error ⟨2, ["--worker-case requires a value"]⟩ := by
  rw [worker, fromArgs_workerArgs_flag backend options h]
  rfl

theorem worker_eq {case : GuestCase} {options : SupervisorOptions} {policy' : Policy}
    (backend : Backend) (hname : isFlag case.name = false)
    (hpolicy : ∀ path, options.policyPath = some path → isFlag path = false)
    (hcorpus : ∀ dir, options.corpusDir = some dir → isFlag dir = false)
    (hp : loadPolicy world (workerConfig case backend options) = .ok policy') :
    worker world (workerArgs case backend options) =
      (workerCase world (workerConfig case backend options) case.name).map fun c =>
        some ⟨c, backend, policy', case.kind = .staticAudit⟩ := by
  rw [worker, fromArgs_workerArgs backend hname hpolicy hcorpus]
  change (loadPolicy world (workerConfig case backend options) >>= _) = _
  rw [hp]
  change (workerCase world (workerConfig case backend options) case.name >>= _) = _
  cases workerCase world (workerConfig case backend options) case.name <;> rfl

theorem runsAsked_iff (hp : loadPolicy world config = .ok policy)
    (hs : config.workerExecuteStatic = false)
    (hpaths : PathsSatisfy (fun path => isFlag path = false ∧ NulFree path) config)
    (backend : Backend) (case : GuestCase) :
    RunsAsked world config.supervisorOptions backend policy case ↔
      isFlag case.name = false ∧ NulFree case.name ∧
        FirstOfName (searchedCases world config.corpusDir) case := by
  have hnul : (∀ arg ∈ workerArgs case backend config.supervisorOptions, NulFree arg) ↔
      NulFree case.name :=
    workerArgs_nulFree case backend (fun path h => (hpaths.policy path h).2)
      fun dir h => (hpaths.corpus dir h).2
  obtain ⟨policy', hp', hsame⟩ := loadPolicy_worker hp hs case backend
  have heq (hname : isFlag case.name = false) := worker_eq backend hname
    (fun path h => (hpaths.policy path h).1) (fun dir h => (hpaths.corpus dir h).1) hp'
  apply Iff.intro
  · rintro ⟨hargs, run, hrun, hcase, -, -⟩
    have hname : isFlag case.name = false := by
      refine Bool.not_eq_true _ ▸ fun hname => ?_
      rw [worker_flag backend _ hname] at hrun
      cases hrun
    rw [heq hname] at hrun
    refine ⟨hname, hnul.1 hargs, ?_⟩
    cases hw : workerCase world (workerConfig case backend config.supervisorOptions)
        case.name with
    | error e => rw [hw] at hrun; cases hrun
    | ok c =>
      rw [hw] at hrun
      cases hrun
      obtain rfl : c = case := hcase
      exact workerCase_ok_iff.1 hw
  · rintro ⟨hname, hfree, hfirst⟩
    have hw : workerCase world (workerConfig case backend config.supervisorOptions)
        case.name = .ok case := workerCase_ok_iff.2 hfirst
    rw [hw] at heq
    exact ⟨hnul.2 hfree, _, heq hname, rfl, rfl, hsame⟩

theorem RunsList.sameForRunner {backend : Backend} {policy' : Policy} {cases : List GuestCase}
    (h : RunsList world config policy backend policy' cases) (case : GuestCase) :
    (case.policy policy).SameForRunner (case.policy policy') := by
  unfold GuestCase.policy
  cases h <;> split <;> exact ⟨rfl, rfl, rfl, rfl, rfl, rfl, rfl⟩

theorem RunsAsked.congr {options : SupervisorOptions} {backend : Backend} {case : GuestCase}
    {p q : Policy} (h : (case.policy p).SameForRunner (case.policy q)) :
    RunsAsked world options backend p case ↔ RunsAsked world options backend q case := by
  apply Iff.intro
  · rintro ⟨hargs, run, hrun, hcase, hbackend, hsame⟩
    exact ⟨hargs, run, hrun, hcase, hbackend, hsame.trans h⟩
  · rintro ⟨hargs, run, hrun, hcase, hbackend, hsame⟩
    exact ⟨hargs, run, hrun, hcase, hbackend, hsame.trans h.symm⟩

/-- Where no two cases searched share a name, every one of them runs as asked. -/
theorem searched_case_runs {case : GuestCase} (hp : loadPolicy world config = .ok policy)
    (hs : config.workerExecuteStatic = false)
    (hpaths : PathsSatisfy (fun path => isFlag path = false ∧ NulFree path) config)
    (hnodup : ((searchedCases world config.corpusDir).map GuestCase.name).Nodup)
    (hmem : case ∈ searchedCases world config.corpusDir)
    (hname : isFlag case.name = false) (hfree : NulFree case.name) (backend : Backend) :
    RunsAsked world config.supervisorOptions backend policy case :=
  (runsAsked_iff hp hs hpaths backend case).2 ⟨hname, hfree, firstOfName_of_nodup hnodup hmem⟩

/-- Without a corpus directory every built-in case runs as asked. -/
theorem builtin_case_runs {case : GuestCase} (hp : loadPolicy world config = .ok policy)
    (hs : config.workerExecuteStatic = false)
    (hpaths : PathsSatisfy (fun path => isFlag path = false ∧ NulFree path) config)
    (hdir : config.corpusDir = none) (hmem : case ∈ allCases world.includeStr)
    (backend : Backend) : RunsAsked world config.supervisorOptions backend policy case := by
  have hsearched : searchedCases world config.corpusDir = allCases world.includeStr := by
    rw [hdir, searchedCases]
  obtain ⟨hname, hfree⟩ := allCases_passable hmem
  exact searched_case_runs hp hs hpaths (hsearched ▸ allCases_nodup _) (hsearched ▸ hmem)
    hname hfree backend

/-- Whatever list a case comes from, its worker runs it as asked exactly when the name can be
passed as an argument and finds that case first. -/
theorem supervised_case_runs_iff {args : List OsArg} {backend : Backend} {policy' : Policy}
    {cases : List GuestCase} (hargs : Config.fromArgs (args.map Subtype.val) = .ok config)
    (hs : config.workerExecuteStatic = false) (hp : loadPolicy world config = .ok policy)
    (hl : RunsList world config policy backend policy' cases) :
    ∀ case ∈ cases, RunsAsked world config.supervisorOptions backend policy' case ↔
      isFlag case.name = false ∧ NulFree case.name ∧
        FirstOfName (searchedCases world config.corpusDir) case := by
  intro case _
  have hval (value : String) (h : value ∈ args.map Subtype.val ∧ isFlag value = false) :
      isFlag value = false ∧ NulFree value := by
    obtain ⟨arg, -, rfl⟩ := List.mem_map.1 h.1
    exact ⟨h.2, arg.2⟩
  have hpaths := fromArgs_paths _ config hargs
  rw [← RunsAsked.congr (hl.sameForRunner case)]
  exact runsAsked_iff hp hs
    ⟨fun path h => hval path (hpaths.policy path h), fun dir h => hval dir (hpaths.corpus dir h)⟩
    backend case

end

theorem supervised_good_packet_runs :
    letI := HostArch.x86_64
    let world : World :=
      ⟨fun path => .error path, fun _ => ⟨false, none, .unreadable "not found"⟩, id⟩
    ∀ case ∈ (profileCases id .all).head?, RunsAsked world ⟨none, none, false⟩ .cranelift
      .default case := by
  let := HostArch.x86_64
  intro world case hcase
  obtain rfl := Option.some.inj hcase
  have hargs : Config.fromArgs (([⟨"--isolate", by unfold NulFree; decide⟩,
      ⟨"process", by unfold NulFree; decide⟩] : List OsArg).map Subtype.val) =
      .ok { isolation := .process } := rfl
  have hfirst : FirstOfName (searchedCases world none) _ := ⟨[], _, rfl, nofun⟩
  exact (supervised_case_runs_iff hargs rfl rfl (@RunsList.profile _ world _ _ .all) _
    List.mem_cons_self).2 ⟨by decide, by unfold NulFree; decide, hfirst⟩

theorem loadCorpus_single {dir : String} {file : GuestFile} {root : Node}
    (h : collectNode dir [] root = .ok [file]) :
    loadCorpus dir ⟨true, none, root⟩ =
      (loadCase dir file (relativeKey file.names) none).map fun case => [case] := by
  rw [loadCorpus, h]
  change (loadCases dir [] (List.mergeSort [file] _) >>= _) = _
  rw [List.mergeSort_singleton]
  change ((loadCase dir file (relativeKey file.names) none >>= _) >>= _) = _
  cases loadCase dir file (relativeKey file.names) none <;> rfl

/-- The name of a file of the example corpus. -/
def externalGood : OsStr := "external_good.wat".toList.map fun c => UInt8.ofNat c.toNat

theorem external_corpus_case_not_run :
    letI := HostArch.x86_64
    let world : World :=
      ⟨fun path => .error path,
        fun _ => ⟨true, none, .dir [(externalGood, .file (.bytes []))]⟩, id⟩
    ∃ config cases case,
      Config.fromArgs ["--menu", "--isolate", "process"] = .ok config ∧
      RunsList world config .default .cranelift .default cases ∧ case ∈ cases ∧
      ¬ RunsAsked world config.supervisorOptions .cranelift .default case := by
  let := HostArch.x86_64
  intro world
  have hfile : collectNode "examples/external-corpus" []
      (.dir [(externalGood, .file (.bytes []))]) = .ok [⟨[externalGood], .bytes []⟩] := by rfl
  have hcase : loadCase "examples/external-corpus" ⟨[externalGood], .bytes []⟩
      (relativeKey [externalGood]) none = .ok {
        name := "external_good"
        description := "external corpus module external_good.wat"
        expectedCode := Abi.ok
        kind := .runExport
        category := "external"
        severity := "info"
        control := "observe external guest under configured host policy"
        stage := "external corpus validation"
        ttp := "external-host-import-abuse"
        detection := "external guest telemetry records configured boundary decisions"
        sourcePath := "examples/external-corpus/external_good.wat"
        source := .wat "" } := by rfl
  have hload : loadCorpus "examples/external-corpus" (world.corpusDir "") = .ok [_] :=
    (loadCorpus_single hfile).trans (congrArg _ hcase)
  refine ⟨_, _, _, rfl, .externalCorpus hload, List.mem_cons_self, ?_⟩
  rintro ⟨-, run, hrun, -⟩
  have herr : worker world ["--worker-case", "external_good", "--backend", "cranelift",
      "--no-color"] = .error ⟨2, ["unknown worker case 'external_good'"]⟩ := rfl
  cases herr.symm.trans hrun

end WasmerSectest
