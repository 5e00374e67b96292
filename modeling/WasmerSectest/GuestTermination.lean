import WasmerSectest.BuiltinVerdicts

namespace WasmerSectest
set_option autoImplicit true

open BuiltinGuests

section
variable [HostArch]

/-- An instance of the program comes to the end of `run` and gives back a code. -/
def Program.Returns (program : Program) (around : Surroundings) (backend : Backend)
    (policy : Policy) (kind : CaseKind) (growUs : U128) : Prop :=
  ∃ fuel guest code,
    program.execution around backend policy kind growUs fuel = some guest ∧
      guest.run.2 = .ok code

variable {around : Surroundings} {backend : Backend} {policy : Policy} {kind : CaseKind}
  {growUs : U128}

theorem singleCall_returns {function : HostImport} {args : List UInt32}
    {data : List DataSegment} {hdata} (call : GuestCall) (hmem : function ∈ abiImports)
    (hcall : function.call args = some call) (hkind : kind ≠ .growthProbe) :
    (singleCall function args data hdata).Returns around backend policy kind growUs := by
  obtain ⟨fuel, guest, hrun, hcode⟩ :=
    singleCall_execution hdata call hmem hcall around policy backend hkind growUs
  exact ⟨fuel, guest, _, hrun, hcode⟩

theorem acceptPacket_returns {ptr len align : UInt32} {data : List DataSegment} {hdata} :
    (singleCall .acceptPacket [ptr, len, align] data hdata).Returns around backend policy
      .runExport growUs :=
  singleCall_returns (.acceptPacket ptr len align) (by decide) rfl (by decide)

theorem readCap_returns {ptr len : UInt32} {data : List DataSegment} {hdata} :
    (singleCall .readCap [ptr, len] data hdata).Returns around backend policy .runExport
      growUs :=
  singleCall_returns (.readCap ptr len) (by decide) rfl (by decide)

theorem excessiveMemory_runs (around : Surroundings) (policy : Policy) (limit : Nat) :
    Wasm.Runs (excessiveMemory.environment around limit) excessiveMemory.run []
      (excessiveMemory.entry around policy) (.next [0])
      (excessiveMemory.entry around policy) :=
  ⟨2, rfl⟩

/-- Every built-in guest that is run gives back a code, whatever the policy, the growth the
system allows and the times it takes. -/
theorem builtin_returns (includeStr : String → String) {case : GuestCase}
    (hcase : case ∈ allCases includeStr) (hkind : case.kind ≠ .staticAudit)
    {program : Program} (hprogram : builtinGuest case.name = some program) :
    program.Returns around backend policy case.kind growUs := by
  have hrun : CaseKind.runExport ≠ .growthProbe := by decide
  simp only [allCases, List.mem_cons, List.not_mem_nil, or_false] at hcase
  rcases hcase with rfl | rfl | rfl | rfl | rfl | rfl | rfl | rfl | rfl | rfl | rfl | rfl | rfl |
    rfl | rfl | rfl | rfl | rfl | rfl | rfl | rfl | rfl | rfl | rfl | rfl
  · obtain rfl : goodPacket = program := Option.some.inj hprogram
    exact acceptPacket_returns
  · obtain rfl : boundaryValidPacket = program := Option.some.inj hprogram
    exact acceptPacket_returns
  · obtain rfl : unalignedPacket = program := Option.some.inj hprogram
    exact acceptPacket_returns
  · obtain rfl : invalidAlignParam = program := Option.some.inj hprogram
    exact acceptPacket_returns
  · obtain rfl : ptrLenOverflow = program := Option.some.inj hprogram
    exact acceptPacket_returns
  · obtain rfl : BuiltinGuests.outOfBounds = program := Option.some.inj hprogram
    exact acceptPacket_returns
  · obtain rfl : badMagic = program := Option.some.inj hprogram
    exact acceptPacket_returns
  · obtain rfl : badVersion = program := Option.some.inj hprogram
    exact acceptPacket_returns
  · obtain rfl : bodyLenMismatch = program := Option.some.inj hprogram
    exact acceptPacket_returns
  · obtain rfl : checksumMismatch = program := Option.some.inj hprogram
    exact acceptPacket_returns
  · obtain rfl : packetTooLarge = program := Option.some.inj hprogram
    exact acceptPacket_returns
  · obtain rfl : truncatedHeader = program := Option.some.inj hprogram
    exact acceptPacket_returns
  · obtain rfl : zeroLengthPacket = program := Option.some.inj hprogram
    exact acceptPacket_returns
  · obtain rfl : capabilityEscape = program := Option.some.inj hprogram
    exact readCap_returns
  · obtain rfl : pathTraversal = program := Option.some.inj hprogram
    exact readCap_returns
  · obtain rfl : capabilityAllowed = program := Option.some.inj hprogram
    exact readCap_returns
  · obtain rfl : nullByteCapability = program := Option.some.inj hprogram
    exact readCap_returns
  · obtain rfl : invalidUtf8Path = program := Option.some.inj hprogram
    exact readCap_returns
  · obtain rfl : capStringTooLarge = program := Option.some.inj hprogram
    exact readCap_returns
  · obtain rfl : excessiveAlloc = program := Option.some.inj hprogram
    exact singleCall_returns (.allocCap 1073741824) (by decide) rfl hrun
  · obtain rfl : cpuMeteredLoop = program := Option.some.inj hprogram
    obtain ⟨fuel, guest, hexecuted, he⟩ := meteredLoop_execution around policy backend hrun growUs
    exact ⟨fuel, guest, _, hexecuted, congrArg Prod.snd he⟩
  · obtain rfl : excessiveMemory = program := Option.some.inj hprogram
    obtain ⟨fuel, hexecuted⟩ := Program.execution_of_runs hrun growUs
      (excessiveMemory_runs around policy _)
    exact ⟨fuel, _, _, hexecuted, rfl⟩
  · exact absurd rfl hkind
  · obtain rfl : memoryGrowProbe = program := Option.some.inj hprogram
    obtain ⟨fuel, guest, hexecuted, he⟩ := growProbe_execution around policy backend growUs
    exact ⟨fuel, guest, _, hexecuted, he⟩
  · obtain rfl : zeroCopyWriteProbe = program := Option.some.inj hprogram
    obtain ⟨frame, hruns⟩ := markerProbe_runs around policy
      ((makeStore backend policy).limit zeroCopyWriteProbe.memory)
    obtain ⟨fuel, hexecuted⟩ := Program.execution_of_runs hrun growUs hruns
    exact ⟨fuel, _, _, hexecuted, rfl⟩

omit [HostArch] in
theorem builtin_static (includeStr : String → String) {case : GuestCase}
    (hcase : case ∈ allCases includeStr) (hkind : case.kind = .staticAudit) :
    case.expectedCode = Abi.errTimeout ∧ case.name = "non_cooperative_loop" := by
  have hmap : (allCases includeStr).map (fun c => (c.name, c.kind, c.expectedCode)) =
    (allCases fun _ => "").map fun c => (c.name, c.kind, c.expectedCode) := rfl
  have hmem := List.mem_map_of_mem (f := fun c => (c.name, c.kind, c.expectedCode)) hcase
  have hall : ∀ row ∈ (allCases fun _ => "").map (fun c => (c.name, c.kind, c.expectedCode)),
      row.2.1 = .staticAudit → row.2.2 = Abi.errTimeout ∧ row.1 = "non_cooperative_loop" := by
    decide
  rw [hmap] at hmem
  exact hall _ hmem hkind

theorem nonCooperativeLoop_not_returns :
    ¬nonCooperativeLoop.Returns around backend policy kind growUs := by
  rintro ⟨fuel, guest, code, hexecuted, -⟩
  rw [nonCooperativeLoop_diverges] at hexecuted
  cases hexecuted

/-- Whatever the policy, the backend, the growth the system allows and the times it takes, a
built-in guest gives back a code exactly if its case lets it run in-process; the other one
never comes to an end. -/
theorem builtin_returns_iff (includeStr : String → String) {case : GuestCase}
    (hcase : case ∈ allCases includeStr) {program : Program}
    (hprogram : builtinGuest case.name = some program) (around : Surroundings)
    (backend : Backend) (policy : Policy) (growUs : U128) :
    program.Returns around backend policy case.kind growUs ↔ case.kind ≠ .staticAudit := by
  refine ⟨?_, fun hkind => builtin_returns includeStr hcase hkind hprogram⟩
  intro hreturns hkind
  obtain ⟨-, hname⟩ := builtin_static includeStr hcase hkind
  rw [hname] at hprogram
  obtain rfl : nonCooperativeLoop = program := Option.some.inj hprogram
  exact nonCooperativeLoop_not_returns hreturns

end

theorem metered_case_returns :
    letI := HostArch.x86_64
    ∃ case ∈ allCases id, case.name = "cpu_metered_loop" ∧
      cpuMeteredLoop.Returns plainSurroundings .cranelift .default case.kind 1 := by
  let _ := HostArch.x86_64
  refine ⟨(allCases id).get ⟨20, by decide⟩, List.get_mem _ _, rfl, ?_⟩
  exact (builtin_returns_iff id (List.get_mem _ _) rfl plainSurroundings .cranelift .default 1).2
    (by decide)

end WasmerSectest
