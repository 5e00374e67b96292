import WasmerSectest.Evidence

namespace WasmerSectest
set_option autoImplicit true

/-- What the tunables of a store say about the size of a memory, in pages. -/
structure Tunables where
  maxPages : Option Nat

/-- `make_store`, of which only the tunables matter here; the policy is not looked at. -/
def makeStore (backend : Backend) (_policy : Policy) : Tunables :=
  match backend with
  | .cranelift => ⟨none⟩
  | .singlepass => ⟨none⟩

def wasmMaxPages : Nat := 65536

/-- How far a guest may grow a memory of a store. -/
def Tunables.limit (tunables : Tunables) (type : MemoryType) : Nat :=
  min ((type.maximum.map UInt32.toNat).getD wasmMaxPages) (tunables.maxPages.getD wasmMaxPages)

/-- The type of the memory that `get_memory("memory")` finds. -/
def Module.memoryExport (module : Module) : Option MemoryType :=
  match module.exports.find? (·.name == "memory") with
  | some ⟨_, .memory index⟩ => module.memories[index]?
  | _ => none

section
variable [HostArch]

/-- The stores in which the host looks at the guest's memory, in the order in which it does:
at every import call, and for every snapshot. -/
def GuestExecution.timeline (guest : GuestExecution) (kind : CaseKind) : List Store :=
  guest.start.map (·.store) ++
    if guest.instantiate.isOk && guest.memoryExport.isOk then
      guest.instantiated ::
        ((if kind = .growthProbe then guest.growCalls.map (·.store) ++ [guest.grown] else []) ++
          if guest.runExport.isOk then
            guest.run.1.map (·.store) ++ if guest.run.2.isOk then [guest.finished] else []
          else [])
    else []

end

/-- What the engine lets a guest do to a memory: it has whole pages, starts with the declared
minimum, never shrinks and never passes the limit of the store. -/
structure Grows (tunables : Tunables) (type : MemoryType) (memory : Memory)
    (timeline : List Store) : Prop where
  pages : ∀ store ∈ timeline, ∃ n, (memory.view store).bytes.length = n * 65536 ∧
    type.minimum.toNat ≤ n ∧ n ≤ tunables.limit type
  monotone : timeline.Pairwise fun store store' =>
    (memory.view store).bytes.length ≤ (memory.view store').bytes.length

/-- Every import of the module is in the import object; no other module is instantiated. -/
def Module.Linkable (module : Module) : Prop := ∀ i ∈ module.imports, i ∈ importObject

/-- A run of a guest in an instance of the module. -/
structure GuestExecution.RunsIn [HostArch] (guest : GuestExecution) (kind : CaseKind)
    (module : Module) (tunables : Tunables) (type : MemoryType) (memory : Memory) : Prop where
  linked : module.Linkable
  declared : module.memoryExport = some type
  exported : ∀ memory', guest.memoryExport = .ok memory' → memory' = memory
  grows : Grows tunables type memory (guest.timeline kind)

/-- The memory stays within the policy wherever the host looks at it. -/
def WithinPolicy [HostArch] (policy : Policy) (memory : Memory) (guest : GuestExecution)
    (kind : CaseKind) : Prop :=
  ∀ store ∈ guest.timeline kind,
    (memory.view store).bytes.length ≤ policy.maxMemoryPages.toNat * 65536

def zeroPages (n : Nat) (h : n ≤ wasmMaxPages) : LinearMemory where
  bytes := List.replicate (n * 65536) 0
  size_le := by
    rw [List.length_replicate]
    exact Nat.mul_le_mul_right 65536 h

theorem zeroPages_length (n : Nat) (h : n ≤ wasmMaxPages) :
    (zeroPages n h).bytes.length = n * 65536 := List.length_replicate

def Store.const (view : LinearMemory) : Store := fun _ => view

/-- A guest that grows its memory in its start function and has no `run` export. -/
def startGuest [HostArch] (grown : LinearMemory) : GuestExecution where
  start := []
  instantiate := .ok ()
  memoryExport := .ok ⟨0⟩
  instantiated := .const grown
  growOnly := none
  grown := .const grown
  runExport := .error "Missing export run"
  run := ([], .error "Missing export run")
  finished := .const grown
  dataPtr := fun _ _ => 0

/-- A guest that grows its memory in `run` and then calls the host. -/
def growingGuest [HostArch] (initial grown : LinearMemory) : GuestExecution :=
  { startGuest grown with
    instantiated := .const initial
    grown := .const initial
    runExport := .ok ()
    run := ([⟨.const grown, .tick, 1⟩], .ok 0) }

theorem limit_makeStore (backend : Backend) (policy : Policy) (type : MemoryType) :
    (makeStore backend policy).limit type =
      min ((type.maximum.map UInt32.toNat).getD wasmMaxPages) wasmMaxPages := by
  cases backend <;> rfl

section
variable [HostArch] {module : Module} {policy : Policy} {tunables : Tunables}
  {type : MemoryType}

theorem startGuest_runsIn (hlinked : module.Linkable) (hexport : module.memoryExport = some type)
    (hmin : type.minimum.toNat ≤ n) (hlimit : n ≤ tunables.limit type) (hn : n ≤ wasmMaxPages) :
    (startGuest (zeroPages n hn)).RunsIn .runExport module tunables type ⟨0⟩ := by
  apply GuestExecution.RunsIn.mk hlinked hexport
  · intro memory h
    exact (Except.ok.inj h).symm
  · apply Grows.mk
    · intro store hstore
      obtain rfl := List.mem_singleton.1 hstore
      exact ⟨n, zeroPages_length n hn, hmin, hlimit⟩
    · exact List.pairwise_singleton _ _

theorem growingGuest_timeline (initial grown : LinearMemory) :
    (growingGuest initial grown).timeline .runExport =
      [.const initial, .const grown, .const grown] := rfl

theorem growingGuest_runsIn (hlinked : module.Linkable) (hexport : module.memoryExport = some type)
    (hmin : type.minimum.toNat ≤ m) (hle : m ≤ n) (hlimit : n ≤ tunables.limit type)
    (hm : m ≤ wasmMaxPages) (hn : n ≤ wasmMaxPages) :
    (growingGuest (zeroPages m hm) (zeroPages n hn)).RunsIn .runExport module tunables type
      ⟨0⟩ := by
  have hgrow : (zeroPages m hm).bytes.length ≤ (zeroPages n hn).bytes.length := by
    rw [zeroPages_length, zeroPages_length]
    exact Nat.mul_le_mul_right 65536 hle
  apply GuestExecution.RunsIn.mk hlinked hexport
  · intro memory h
    exact (Except.ok.inj h).symm
  · rw [growingGuest_timeline]
    apply Grows.mk
    · intro store hstore
      simp only [List.mem_cons, List.not_mem_nil, or_false] at hstore
      rcases hstore with rfl | rfl | rfl
      · exact ⟨m, zeroPages_length m hm, hmin, Nat.le_trans hle hlimit⟩
      · exact ⟨n, zeroPages_length n hn, Nat.le_trans hmin hle, hlimit⟩
      · exact ⟨n, zeroPages_length n hn, Nat.le_trans hmin hle, hlimit⟩
    · apply List.Pairwise.cons
      · intro store hstore
        simp only [List.mem_cons, List.not_mem_nil, or_false, or_self] at hstore
        subst hstore
        exact hgrow
      · apply List.Pairwise.cons
        · intro store hstore
          obtain rfl := List.mem_singleton.1 hstore
          exact Nat.le_refl _
        · exact List.pairwise_singleton _ _

omit [HostArch] in
theorem Module.memoryExport_mem (h : module.memoryExport = some type) :
    type ∈ module.exportedMemories := by
  rw [memoryExport] at h
  split at h
  · next name index hfind =>
    exact List.mem_filterMap.2 ⟨_, List.mem_of_find?_eq_some hfind, h⟩
  · cases h

omit [HostArch] in
theorem audited_minimum (h : auditModule module policy = .ok ())
    (hexport : module.memoryExport = some type) :
    type.minimum.toNat ≤ policy.maxMemoryPages.toNat := by
  rw [auditModule] at h
  split at h
  · cases h
  · split at h
    · cases h
    · next hnone =>
      have hle := List.find?_eq_none.1 hnone type (Module.memoryExport_mem hexport)
      exact Nat.not_lt.1 fun hlt => hle (decide_eq_true (UInt32.lt_iff_toNat_lt.2 hlt))

theorem withinPolicy_of_limit {guest : GuestExecution} {kind : CaseKind} {memory : Memory}
    (h : guest.RunsIn kind module tunables type memory)
    (hlimit : tunables.limit type ≤ policy.maxMemoryPages.toNat) :
    WithinPolicy policy memory guest kind := by
  intro store hstore
  obtain ⟨n, hsize, -, hn⟩ := h.grows.pages store hstore
  rw [hsize]
  exact Nat.mul_le_mul_right 65536 (Nat.le_trans hn hlimit)

omit [HostArch] in
/-- The limit of the store is within the policy exactly where the policy is as wide as Wasm
or the module itself declares a maximum that is within it. -/
theorem limit_le_policy_iff (backend : Backend) (policy : Policy) (type : MemoryType) :
    (makeStore backend policy).limit type ≤ policy.maxMemoryPages.toNat ↔
      wasmMaxPages ≤ policy.maxMemoryPages.toNat ∨
        ∃ maximum, type.maximum = some maximum ∧ maximum ≤ policy.maxMemoryPages := by
  rw [limit_makeStore]
  cases type.maximum with
  | none =>
    change min wasmMaxPages wasmMaxPages ≤ _ ↔ _
    rw [Nat.min_self]
    exact (or_iff_left (by rintro ⟨maximum, h, -⟩; cases h)).symm
  | some maximum =>
    change min maximum.toNat wasmMaxPages ≤ _ ↔ _
    have hmin : min maximum.toNat wasmMaxPages ≤ policy.maxMemoryPages.toNat ↔
        wasmMaxPages ≤ policy.maxMemoryPages.toNat ∨
          maximum.toNat ≤ policy.maxMemoryPages.toNat := by omega
    rw [hmin]
    apply or_congr_right
    apply Iff.intro
    · intro h
      exact ⟨maximum, rfl, UInt32.le_iff_toNat_le.2 h⟩
    · rintro ⟨maximum', he, h⟩
      obtain rfl := Option.some.inj he
      exact UInt32.le_iff_toNat_le.1 h

/-- Whatever an audited guest does, its memory stays within the policy: exactly where the
module never runs, the policy is as wide as Wasm itself or the module declares a maximum that is
within it. -/
theorem memory_limit_kept_iff (backend : Backend)
    (haudit : auditModule module policy = .ok ()) :
    (∀ (guest : GuestExecution) kind type memory,
      guest.RunsIn kind module (makeStore backend policy) type memory →
        WithinPolicy policy memory guest kind) ↔
      (module.Linkable → ∀ type, module.memoryExport = some type →
        wasmMaxPages ≤ policy.maxMemoryPages.toNat ∨
          ∃ maximum, type.maximum = some maximum ∧ maximum ≤ policy.maxMemoryPages) := by
  apply Iff.intro
  · intro h hlinked type hexport
    by_contra hnot
    rw [← limit_le_policy_iff backend, Nat.not_le] at hnot
    have hmin := audited_minimum haudit hexport
    have hwasm : (makeStore backend policy).limit type ≤ wasmMaxPages := by
      rw [limit_makeStore]
      exact Nat.min_le_right _ _
    -- a start function that grows the memory as far as the store lets it
    have hruns := startGuest_runsIn hlinked hexport (Nat.le_trans hmin (Nat.le_of_lt hnot))
      (Nat.le_refl _) hwasm
    have hwithin := h _ _ _ _ hruns (.const (zeroPages _ hwasm)) (.head _)
    change (zeroPages _ hwasm).bytes.length ≤ _ at hwithin
    rw [zeroPages_length] at hwithin
    exact absurd (Nat.le_of_mul_le_mul_right hwithin (by decide)) (Nat.not_le.2 hnot)
  · intro h guest kind type memory hruns
    exact withinPolicy_of_limit hruns
      ((limit_le_policy_iff backend policy type).2 (h hruns.linked type hruns.declared))

end

def onePageModule (maximum : Option UInt32) : Module where
  imports := [⟨"host", "tick", .function (.host 0)⟩]
  definedMemories := [⟨1, maximum⟩]
  exports := [⟨"memory", .memory 0⟩, ⟨"run", .other⟩]

theorem onePageModule_linkable (maximum : Option UInt32) : (onePageModule maximum).Linkable := by
  intro i hi
  obtain rfl := List.mem_singleton.1 hi
  decide

theorem declared_maximum_kept :
    letI := HostArch.x86_64
    auditModule (onePageModule (some 16)) .default = .ok () ∧
      ∀ (guest : GuestExecution) kind type memory,
        guest.RunsIn kind (onePageModule (some 16)) (makeStore .cranelift .default) type memory →
          WithinPolicy .default memory guest kind := by
  let _ := HostArch.x86_64
  refine ⟨by decide, (memory_limit_kept_iff .cranelift (by decide)).2 ?_⟩
  intro _ type hexport
  obtain rfl := Option.some.inj hexport
  exact .inr ⟨16, rfl, by decide⟩

theorem undeclared_maximum_passed :
    letI := HostArch.x86_64
    auditModule (onePageModule none) .default = .ok () ∧
      ∃ (guest : GuestExecution) (kind : _) (type : _) (memory : _),
        guest.RunsIn kind (onePageModule none) (makeStore .cranelift .default) type memory ∧
          ¬WithinPolicy .default memory guest kind := by
  let _ := HostArch.x86_64
  have hexport : (onePageModule none).memoryExport = some ⟨1, none⟩ := rfl
  have hlimit : 17 ≤ (makeStore .cranelift .default).limit ⟨1, none⟩ := by decide
  have hruns := growingGuest_runsIn (m := 1) (onePageModule_linkable none) hexport (by decide)
    (by decide) hlimit (by decide) (by decide)
  refine ⟨by decide, _, _, _, _, hruns, ?_⟩
  intro h
  have hwithin := h (.const (zeroPages 17 (by decide))) (.tail _ (.head _))
  change (zeroPages 17 (by decide)).bytes.length ≤ 16 * 65536 at hwithin
  rw [zeroPages_length] at hwithin
  exact absurd hwithin (by decide)

end WasmerSectest
