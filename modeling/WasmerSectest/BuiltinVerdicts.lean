import WasmerSectest.AuditGates
import WasmerSectest.GuestLoops
import WasmerSectest.GuestProbes

namespace WasmerSectest
set_option autoImplicit true

open BuiltinGuests

/-- What a policy must be like for a built-in guest to come out as its case expects. -/
def Policy.Exercises (policy : Policy) (name : String) : Prop :=
  match name with
  | "good_packet" | "boundary_valid_packet" | "bad_magic" | "bad_version" | "body_len_mismatch"
  | "checksum_mismatch" | "memory_grow_probe" =>
    1 ≤ policy.maxMemoryPages ∧ 21 ≤ policy.maxPacketLen
  | "unaligned_packet" => 1 ≤ policy.maxMemoryPages ∧ 20 ≤ policy.maxPacketLen
  | "ptr_len_overflow" | "out_of_bounds" =>
    1 ≤ policy.maxMemoryPages ∧ 64 ≤ policy.maxPacketLen
  | "truncated_header" => 1 ≤ policy.maxMemoryPages ∧ 8 ≤ policy.maxPacketLen
  | "invalid_align_param" | "zero_length_packet" | "zero_copy_write_probe" =>
    1 ≤ policy.maxMemoryPages
  -- a refused module has the same code as a refused length
  | "packet_too_large" => 1 ≤ policy.maxMemoryPages → policy.maxPacketLen < 8192
  | "cap_string_too_large" => 1 ≤ policy.maxMemoryPages → policy.maxCapStringLen < 300
  | "capability_escape" => 1 ≤ policy.maxMemoryPages ∧ 11 ≤ policy.maxCapStringLen ∧
    "/etc/passwd" ∉ policy.allowedPaths
  | "path_traversal" => 1 ≤ policy.maxMemoryPages ∧ 22 ≤ policy.maxCapStringLen ∧
    "/sandbox/../etc/passwd" ∉ policy.allowedPaths
  | "null_byte_capability" => 1 ≤ policy.maxMemoryPages ∧ 38 ≤ policy.maxCapStringLen ∧
    "/sandbox/allowed.txt\x00/../../etc/passwd" ∉ policy.allowedPaths
  | "capability_allowed" => 1 ≤ policy.maxMemoryPages ∧ 20 ≤ policy.maxCapStringLen ∧
    "/sandbox/allowed.txt" ∈ policy.allowedPaths
  | "invalid_utf8_path" => 1 ≤ policy.maxMemoryPages ∧ 3 ≤ policy.maxCapStringLen
  | "excessive_alloc" => 1 ≤ policy.maxMemoryPages ∧ policy.maxAlloc < 1073741824
  | "cpu_metered_loop" => 1 ≤ policy.maxMemoryPages ∧ policy.initialFuel < 1000000
  | "excessive_memory" => policy.maxMemoryPages < 100
  | _ => True

instance (policy : Policy) (name : String) : Decidable (policy.Exercises name) := by
  unfold Policy.Exercises
  split <;> infer_instance

theorem gated_iff {len maxLen : UInt32} (pages : UInt32) {code : Int32} (hc : code ≠ Abi.errTooLarge) :
    (if pages < 1 then Abi.errTooLarge else if len > maxLen then Abi.errTooLarge else code) =
      code ↔ 1 ≤ pages ∧ len ≤ maxLen := by
  rw [← UInt32.not_lt, ← UInt32.not_lt]
  by_cases hp : pages < 1
  · rw [if_pos hp]
    exact iff_of_false hc.symm fun h => h.1 hp
  · rw [if_neg hp]
    by_cases hl : len > maxLen
    · rw [if_pos hl]
      exact iff_of_false hc.symm fun h => h.2 hl
    · rw [if_neg hl]
      exact iff_of_true rfl ⟨hp, hl⟩

section
variable [HostArch] {engine : Engine} {guest : GuestExecution} {clock : Timings}
  {around : Surroundings} {case : GuestCase} {backend : Backend} {policy : Policy}

section
variable {ptr len : UInt32} {data : List DataSegment} {bytes : List UInt8}
  {hdata : ∀ segment ∈ data, segment.offset + segment.bytes.length ≤ 65536}

/-- A guest that asks the packet import about a range, whatever is wrong with it. -/
theorem packetCall_passed_iff (expected : Int32) (hkind : case.kind = .runExport)
    (hexpected : case.expectedCode = expected) (hc : expected ≠ Abi.errTooLarge)
    (h : RunsProgram engine guest clock around case backend policy
      (singleCall .acceptPacket [ptr, len, 8] data hdata))
    (hcode : rangeCode ptr len 8 len 65536 (packetCode ((around.memory.view
      ((singleCall .acceptPacket [ptr, len, 8] data hdata).entry around policy).host.store).range
        ptr len)) = expected) :
    (runCase engine guest clock case backend policy).passed = true ↔
      1 ≤ policy.maxMemoryPages ∧ len ≤ policy.maxPacketLen := by
  have hpassed := singleCall_code (.acceptPacket ptr len 8) (by decide) rfl hkind h
  rw [GuestCall.code, Program.entry_dataSize rfl, rangeCode_maxLen (by decide), hcode,
    hexpected] at hpassed
  exact hpassed.trans (gated_iff _ hc)

theorem packetGuest_passed_iff {hdata} (expected : Int32) (hkind : case.kind = .runExport)
    (hexpected : case.expectedCode = expected) (hc : expected ≠ Abi.errTooLarge)
    (h : RunsProgram engine guest clock around case backend policy
      (singleCall .acceptPacket [ptr, len, 8] [⟨ptr.toNat, bytes⟩] hdata))
    (hlen : len.toNat = bytes.length)
    (hcode : rangeCode ptr len 8 len 65536 (packetCode bytes) = expected) :
    (runCase engine guest clock case backend policy).passed = true ↔
      1 ≤ policy.maxMemoryPages ∧ len ≤ policy.maxPacketLen := by
  apply packetCall_passed_iff expected hkind hexpected hc h
  rw [Program.entry_range rfl hlen, hcode]

theorem capabilityGuest_passed_iff {hdata} (hkind : case.kind = .runExport)
    (h : RunsProgram engine guest clock around case backend policy
      (singleCall .readCap [ptr, len] [⟨ptr.toNat, bytes⟩] hdata))
    (hlen : len.toNat = bytes.length) (hcode : ∀ judge, rangeCode ptr len 1 len 65536 judge = judge) :
    (runCase engine guest clock case backend policy).passed = true ↔
      (if policy.maxMemoryPages < 1 then Abi.errTooLarge
        else if len > policy.maxCapStringLen then Abi.errTooLarge
        else capabilityCode policy bytes) = case.expectedCode := by
  have hpassed := singleCall_code (.readCap ptr len) (by decide) rfl hkind h
  rwa [GuestCall.code, Program.entry_dataSize rfl, Program.entry_range rfl hlen,
    rangeCode_maxLen (by decide), hcode] at hpassed

end

omit [HostArch] in
theorem packetCode_ne (bytes : List UInt8) : packetCode bytes ≠ Abi.errTooLarge := by
  have hc := parsePacket_check bytes
  rw [packetCode]
  generalize parsePacket bytes = answer at hc
  cases hc with
  | rejected hcode =>
    dsimp only
    rw [hcode]
    decide
  | accepted => exact (by decide : Abi.ok ≠ Abi.errTooLarge)

omit [HostArch] in
theorem capabilityCode_ne (policy : Policy) (bytes : List UInt8) :
    capabilityCode policy bytes ≠ Abi.errTooLarge := by
  rw [capabilityCode]
  cases Utf8.fromUtf8 bytes with
  | none => exact (by decide : Abi.errUtf8 ≠ Abi.errTooLarge)
  | some path =>
    dsimp only
    split <;> decide

omit [HostArch] in
theorem capabilityCode_bytes (policy : Policy) (path : String) :
    capabilityCode policy (Utf8.bytes path) =
      if path ∈ policy.allowedPaths then Abi.ok else Abi.errCapability := by
  rw [capabilityCode, Utf8.fromUtf8_eq_some_iff.2 rfl]

theorem deniedGuest_passed_iff {ptr len : UInt32} {path : String} {hdata}
    (hkind : case.kind = .runExport) (hexpected : case.expectedCode = Abi.errCapability)
    (h : RunsProgram engine guest clock around case backend policy
      (singleCall .readCap [ptr, len] [⟨ptr.toNat, Utf8.bytes path⟩] hdata))
    (hlen : len.toNat = (Utf8.bytes path).length)
    (hcode : ∀ judge, rangeCode ptr len 1 len 65536 judge = judge) :
    (runCase engine guest clock case backend policy).passed = true ↔
      1 ≤ policy.maxMemoryPages ∧ len ≤ policy.maxCapStringLen ∧ path ∉ policy.allowedPaths := by
  rw [capabilityGuest_passed_iff hkind h hlen hcode, capabilityCode_bytes, hexpected]
  by_cases hpath : path ∈ policy.allowedPaths
  · rw [if_pos hpath]
    refine iff_of_false ?_ fun h => h.2.2 hpath
    split
    · decide
    · split <;> decide
  · rw [if_neg hpath, gated_iff _ (by decide), iff_true_intro hpath, and_true]

theorem allowedGuest_passed_iff {ptr len : UInt32} {path : String} {hdata}
    (hkind : case.kind = .runExport) (hexpected : case.expectedCode = Abi.ok)
    (h : RunsProgram engine guest clock around case backend policy
      (singleCall .readCap [ptr, len] [⟨ptr.toNat, Utf8.bytes path⟩] hdata))
    (hlen : len.toNat = (Utf8.bytes path).length)
    (hcode : ∀ judge, rangeCode ptr len 1 len 65536 judge = judge) :
    (runCase engine guest clock case backend policy).passed = true ↔
      1 ≤ policy.maxMemoryPages ∧ len ≤ policy.maxCapStringLen ∧ path ∈ policy.allowedPaths := by
  rw [capabilityGuest_passed_iff hkind h hlen hcode, capabilityCode_bytes, hexpected]
  by_cases hpath : path ∈ policy.allowedPaths
  · rw [if_pos hpath, gated_iff _ (by decide), iff_true_intro hpath, and_true]
  · rw [if_neg hpath]
    refine iff_of_false ?_ fun h => hpath h.2.2
    split
    · decide
    · split <;> decide

omit [HostArch] in
theorem tooLarge_iff {pages len maxLen : UInt32} {code : Int32} (hc : code ≠ Abi.errTooLarge) :
    (if pages < 1 then Abi.errTooLarge else if len > maxLen then Abi.errTooLarge else code) =
      Abi.errTooLarge ↔ (1 ≤ pages → maxLen < len) := by
  rw [← UInt32.not_lt]
  by_cases hp : pages < 1
  · rw [if_pos hp]
    exact iff_of_true rfl fun h => absurd hp h
  · rw [if_neg hp]
    by_cases hl : len > maxLen
    · rw [if_pos hl]
      exact iff_of_true rfl fun _ => hl
    · rw [if_neg hl]
      exact iff_of_false hc fun h => hl (h hp)

omit [HostArch] in
theorem pages_iff (pages : UInt32) {code : Int32} (hc : code ≠ Abi.errTooLarge) :
    (if pages < 1 then Abi.errTooLarge else code) = code ↔ 1 ≤ pages := by
  rw [← UInt32.not_lt]
  by_cases hp : pages < 1
  · rw [if_pos hp]
    exact iff_of_false hc.symm (not_not_intro hp)
  · rw [if_neg hp]
    exact iff_of_true rfl hp

theorem packetTooLarge_passed_iff (hkind : case.kind = .runExport)
    (hexpected : case.expectedCode = Abi.errTooLarge)
    (h : RunsProgram engine guest clock around case backend policy packetTooLarge) :
    (runCase engine guest clock case backend policy).passed = true ↔
      (1 ≤ policy.maxMemoryPages → policy.maxPacketLen < 8192) := by
  have hpassed := singleCall_code (.acceptPacket 64 8192 8) (by decide) rfl hkind h
  have hcode (judge : Int32) : rangeCode 64 8192 8 8192 65536 judge = judge := rfl
  rw [GuestCall.code, Program.entry_dataSize rfl, rangeCode_maxLen (by decide), hcode,
    hexpected] at hpassed
  exact hpassed.trans (tooLarge_iff (packetCode_ne _))

theorem capStringTooLarge_passed_iff (hkind : case.kind = .runExport)
    (hexpected : case.expectedCode = Abi.errTooLarge)
    (h : RunsProgram engine guest clock around case backend policy capStringTooLarge) :
    (runCase engine guest clock case backend policy).passed = true ↔
      (1 ≤ policy.maxMemoryPages → policy.maxCapStringLen < 300) := by
  have hpassed := singleCall_code (.readCap 0 300) (by decide) rfl hkind h
  have hcode (judge : Int32) : rangeCode 0 300 1 300 65536 judge = judge := rfl
  rw [GuestCall.code, Program.entry_dataSize rfl, rangeCode_maxLen (by decide), hcode,
    hexpected] at hpassed
  exact hpassed.trans (tooLarge_iff (capabilityCode_ne policy _))

theorem excessiveAlloc_passed_iff (hkind : case.kind = .runExport)
    (hexpected : case.expectedCode = Abi.errAlloc)
    (h : RunsProgram engine guest clock around case backend policy excessiveAlloc) :
    (runCase engine guest clock case backend policy).passed = true ↔
      1 ≤ policy.maxMemoryPages ∧ policy.maxAlloc < 1073741824 := by
  have hpassed := singleCall_code (.allocCap 1073741824) (by decide) rfl hkind h
  rw [GuestCall.code, hexpected] at hpassed
  refine hpassed.trans ?_
  by_cases ha : (1073741824 : UInt32) > policy.maxAlloc
  · rw [if_pos ha, pages_iff _ (by decide)]
    exact (and_iff_left ha).symm
  · rw [if_neg ha]
    refine iff_of_false ?_ fun h => ha h.2
    split <;> decide

theorem cpuMeteredLoop_passed_iff (hkind : case.kind = .runExport)
    (hexpected : case.expectedCode = Abi.errBudget)
    (h : RunsProgram engine guest clock around case backend policy cpuMeteredLoop) :
    (runCase engine guest clock case backend policy).passed = true ↔
      1 ≤ policy.maxMemoryPages ∧ policy.initialFuel < 1000000 := by
  have hnotprobe : case.kind ≠ .growthProbe := by rw [hkind]; decide
  have hnotstatic : case.kind ≠ .staticAudit := by rw [hkind]; decide
  obtain ⟨fuel, guest', hrun, he⟩ :=
    meteredLoop_execution around policy backend hnotprobe clock.growUs
  have hlt : policy.initialFuel < 1000000 ↔ policy.initialFuel.toNat < 1000000 :=
    UInt32.lt_iff_toNat_lt
  rw [h.verdict hnotstatic hrun (congrArg Prod.snd he), cpuMeteredLoop.denial_onePage rfl rfl,
    hexpected, hlt, meteredCode, ← UInt32.not_lt]
  by_cases hp : policy.maxMemoryPages < 1
  · rw [if_pos hp]
    exact iff_of_false (by decide : Abi.errTooLarge ≠ Abi.errBudget) fun h => h.1 hp
  · rw [if_neg hp]
    by_cases hf : policy.initialFuel.toNat < 1000000
    · rw [if_pos hf]
      exact iff_of_true rfl ⟨hp, hf⟩
    · rw [if_neg hf]
      exact iff_of_false (by decide) fun h => hf h.2

theorem excessiveMemory_passed_iff (hkind : case.kind = .runExport)
    (hexpected : case.expectedCode = Abi.errTooLarge)
    (h : RunsProgram engine guest clock around case backend policy excessiveMemory) :
    (runCase engine guest clock case backend policy).passed = true ↔
      policy.maxMemoryPages < 100 := by
  have hnotprobe : case.kind ≠ .growthProbe := by rw [hkind]; decide
  have hnotstatic : case.kind ≠ .staticAudit := by rw [hkind]; decide
  have hruns : Wasm.Runs (excessiveMemory.environment around
      ((makeStore backend policy).limit excessiveMemory.memory)) excessiveMemory.run []
      (excessiveMemory.entry around policy) (.next [0]) (excessiveMemory.entry around policy) :=
    ⟨2, rfl⟩
  obtain ⟨fuel, hrun⟩ := Program.execution_of_runs hnotprobe clock.growUs hruns
  rw [h.verdict hnotstatic hrun rfl, hexpected, Program.denial]
  by_cases hp : policy.maxMemoryPages < 100
  · rw [if_pos (show policy.maxMemoryPages < excessiveMemory.memory.minimum from hp)]
    exact iff_of_true rfl hp
  · rw [if_neg (show ¬policy.maxMemoryPages < excessiveMemory.memory.minimum from hp)]
    refine iff_of_false ?_ hp
    split
    · exact (by decide : Abi.errBudget ≠ Abi.errTooLarge)
    · exact (by decide : (0 : Int32) ≠ Abi.errTooLarge)

theorem staticAudit_passed {module : Module} (hkind : case.kind = .staticAudit)
    (hexpected : case.expectedCode = Abi.errTimeout) (h : Compiles engine case backend module) :
    (runCase engine guest clock case backend policy).passed = true := by
  refine (runCaseInner_denied guest clock case backend policy h ?_).2 hexpected.symm
  rw [DeniedWith, if_pos ⟨hkind, rfl⟩]

theorem memoryGrowProbe_passed_iff (hkind : case.kind = .growthProbe)
    (hexpected : case.expectedCode = Abi.ok)
    (h : RunsProgram engine guest clock around case backend policy memoryGrowProbe) :
    (runCase engine guest clock case backend policy).passed = true ↔
      1 ≤ policy.maxMemoryPages ∧ 21 ≤ policy.maxPacketLen := by
  have hnotstatic : case.kind ≠ .staticAudit := by rw [hkind]; decide
  obtain ⟨fuel, guest', hrun, he⟩ :=
    growProbe_execution around policy backend clock.growUs
  rw [h.verdict hnotstatic (hkind ▸ hrun) he, memoryGrowProbe.denial_onePage rfl rfl, hexpected,
    ← gated_iff policy.maxMemoryPages (by decide : Abi.ok ≠ Abi.errTooLarge)]
  split <;> rfl

theorem zeroCopyWriteProbe_passed_iff (hkind : case.kind = .runExport)
    (hexpected : case.expectedCode = Abi.ok)
    (h : RunsProgram engine guest clock around case backend policy zeroCopyWriteProbe) :
    (runCase engine guest clock case backend policy).passed = true ↔
      1 ≤ policy.maxMemoryPages := by
  have hnotprobe : case.kind ≠ .growthProbe := by rw [hkind]; decide
  have hnotstatic : case.kind ≠ .staticAudit := by rw [hkind]; decide
  obtain ⟨frame, hruns⟩ := markerProbe_runs around policy
    ((makeStore backend policy).limit zeroCopyWriteProbe.memory)
  obtain ⟨fuel, hrun⟩ := Program.execution_of_runs hnotprobe clock.growUs hruns
  rw [h.verdict hnotstatic hrun rfl, zeroCopyWriteProbe.denial_onePage rfl rfl, hexpected,
    ← pages_iff policy.maxMemoryPages (by decide : Abi.ok ≠ Abi.errTooLarge)]
  split <;> rfl

theorem builtinGuest_passed_iff (includeStr : String → String) (hcase : case ∈ allCases includeStr)
    {program : Program} (hprogram : builtinGuest case.name = some program)
    (h : RunsProgram engine guest clock around case backend policy program) :
    (runCase engine guest clock case backend policy).passed = true ↔
      policy.Exercises case.name := by
  simp only [allCases, List.mem_cons, List.not_mem_nil, or_false] at hcase
  rcases hcase with rfl | rfl | rfl | rfl | rfl | rfl | rfl | rfl | rfl | rfl | rfl | rfl | rfl |
    rfl | rfl | rfl | rfl | rfl | rfl | rfl | rfl | rfl | rfl | rfl | rfl
  · obtain rfl : goodPacket = program := Option.some.inj hprogram
    exact packetGuest_passed_iff Abi.ok rfl rfl (by decide) h rfl (by decide)
  · obtain rfl : boundaryValidPacket = program := Option.some.inj hprogram
    exact packetGuest_passed_iff Abi.ok rfl rfl (by decide) h rfl (by decide)
  · obtain rfl : unalignedPacket = program := Option.some.inj hprogram
    exact packetCall_passed_iff Abi.errAlign rfl rfl (by decide) h rfl
  · obtain rfl : invalidAlignParam = program := Option.some.inj hprogram
    have hpassed := singleCall_code (.acceptPacket 64 21 3) (by decide) rfl rfl h
    exact hpassed.trans (pages_iff _ (by decide : Abi.errAlign ≠ Abi.errTooLarge))
  · obtain rfl : ptrLenOverflow = program := Option.some.inj hprogram
    exact packetCall_passed_iff Abi.errBounds rfl rfl (by decide) h rfl
  · obtain rfl : BuiltinGuests.outOfBounds = program := Option.some.inj hprogram
    exact packetCall_passed_iff Abi.errBounds rfl rfl (by decide) h rfl
  · obtain rfl : badMagic = program := Option.some.inj hprogram
    exact packetGuest_passed_iff Abi.errHeader rfl rfl (by decide) h rfl (by decide)
  · obtain rfl : badVersion = program := Option.some.inj hprogram
    exact packetGuest_passed_iff Abi.errHeader rfl rfl (by decide) h rfl (by decide)
  · obtain rfl : bodyLenMismatch = program := Option.some.inj hprogram
    exact packetGuest_passed_iff Abi.errHeader rfl rfl (by decide) h rfl (by decide)
  · obtain rfl : checksumMismatch = program := Option.some.inj hprogram
    exact packetGuest_passed_iff Abi.errHeader rfl rfl (by decide) h rfl (by decide)
  · obtain rfl : packetTooLarge = program := Option.some.inj hprogram
    exact packetTooLarge_passed_iff rfl rfl h
  · obtain rfl : truncatedHeader = program := Option.some.inj hprogram
    exact packetGuest_passed_iff Abi.errHeader rfl rfl (by decide) h rfl (by decide)
  · obtain rfl : zeroLengthPacket = program := Option.some.inj hprogram
    refine (packetCall_passed_iff Abi.errHeader rfl rfl (by decide) h rfl).trans (and_iff_left ?_)
    exact UInt32.zero_le
  · obtain rfl : capabilityEscape = program := Option.some.inj hprogram
    exact deniedGuest_passed_iff rfl rfl h rfl fun _ => rfl
  · obtain rfl : pathTraversal = program := Option.some.inj hprogram
    exact deniedGuest_passed_iff rfl rfl h rfl fun _ => rfl
  · obtain rfl : capabilityAllowed = program := Option.some.inj hprogram
    exact allowedGuest_passed_iff rfl rfl h rfl fun _ => rfl
  · obtain rfl : nullByteCapability = program := Option.some.inj hprogram
    exact deniedGuest_passed_iff rfl rfl h rfl fun _ => rfl
  · obtain rfl : invalidUtf8Path = program := Option.some.inj hprogram
    refine (capabilityGuest_passed_iff rfl h rfl fun _ => rfl).trans ?_
    exact gated_iff _ (by decide : Abi.errUtf8 ≠ Abi.errTooLarge)
  · obtain rfl : capStringTooLarge = program := Option.some.inj hprogram
    exact capStringTooLarge_passed_iff rfl rfl h
  · obtain rfl : excessiveAlloc = program := Option.some.inj hprogram
    exact excessiveAlloc_passed_iff rfl rfl h
  · obtain rfl : cpuMeteredLoop = program := Option.some.inj hprogram
    exact cpuMeteredLoop_passed_iff rfl rfl h
  · obtain rfl : excessiveMemory = program := Option.some.inj hprogram
    exact excessiveMemory_passed_iff rfl rfl h
  · exact iff_of_true (staticAudit_passed rfl rfl h.compiles) trivial
  · obtain rfl : memoryGrowProbe = program := Option.some.inj hprogram
    exact memoryGrowProbe_passed_iff rfl rfl h
  · obtain rfl : zeroCopyWriteProbe = program := Option.some.inj hprogram
    exact zeroCopyWriteProbe_passed_iff rfl rfl h

omit [HostArch] in
theorem default_exercises (includeStr : String → String) :
    ∀ case ∈ allCases includeStr, Policy.default.Exercises case.name := by
  intro case hcase
  have hname : case.name ∈ (allCases includeStr).map GuestCase.name :=
    List.mem_map_of_mem hcase
  have hall : ∀ name ∈ (allCases fun _ => "").map GuestCase.name,
    Policy.default.Exercises name := by decide
  exact hall case.name hname

/-- A built-in case comes out as it expects exactly under the policies that let it, and the
default policy lets every one. -/
theorem builtin_verdicts (includeStr : String → String) (hcase : case ∈ allCases includeStr)
    {program : Program} (hprogram : builtinGuest case.name = some program)
    (h : RunsProgram engine guest clock around case backend policy program) :
    ((runCase engine guest clock case backend policy).passed = true ↔
      policy.Exercises case.name) ∧ Policy.default.Exercises case.name :=
  ⟨builtinGuest_passed_iff includeStr hcase hprogram h, default_exercises includeStr case hcase⟩

end

theorem metered_case_runs [HostArch] {case : GuestCase} (hkind : case.kind = .runExport)
    (hsource : case.source = .wat wat) :
    ∃ guest, RunsProgram (programEngine cpuMeteredLoop) guest ⟨1, 1, 1, 1, 1⟩ plainSurroundings
      case .cranelift .default cpuMeteredLoop := by
  obtain ⟨fuel, guest, hrun, -⟩ := meteredLoop_execution plainSurroundings .default .cranelift
    (hkind ▸ by decide : case.kind ≠ .growthProbe) 1
  have hcompiles : Compiles (programEngine cpuMeteredLoop) case .cranelift
      cpuMeteredLoop.module := ⟨_, by rw [hsource]; rfl, rfl⟩
  exact ⟨guest, .of_execution hcompiles hrun⟩

theorem metered_case_passes :
    letI := HostArch.x86_64
    ∃ case ∈ allCases id, case.name = "cpu_metered_loop" ∧ ∃ guest,
      (runCase (programEngine cpuMeteredLoop) guest ⟨1, 1, 1, 1, 1⟩ case .cranelift
        .default).passed = true := by
  let _ := HostArch.x86_64
  obtain ⟨case, hcase, hname, hkind, wat, hsource⟩ : ∃ case ∈ allCases id,
      case.name = "cpu_metered_loop" ∧ case.kind = .runExport ∧ ∃ wat, case.source = .wat wat :=
    ⟨(allCases id).get ⟨20, by decide⟩, List.get_mem _ _, rfl, rfl, _, rfl⟩
  obtain ⟨guest, hruns⟩ := metered_case_runs hkind hsource
  have hprogram : builtinGuest case.name = some cpuMeteredLoop := by rw [hname]; rfl
  have hverdicts := builtin_verdicts id hcase hprogram hruns
  exact ⟨case, hcase, hname, guest, hverdicts.1.2 hverdicts.2⟩

section
variable [HostArch] {engine : Engine} {case : GuestCase} {backend : Backend}

def Poll.isRunning : Poll → Bool
  | .running .. => true
  | .exited .. | .failed _ => false

/-- The endless guest would never return from an in-process run, and no such run gets to an
instance of it; a worker that runs it instead, and so never exits, is killed. Its case passes
either way. -/
theorem endless_guest_contained (hkind : case.kind = .staticAudit)
    (hexpected : case.expectedCode = Abi.errTimeout)
    (hcompiles : Compiles engine case backend nonCooperativeLoop.module) :
    (∀ around backend policy kind growUs fuel,
      nonCooperativeLoop.execution around backend policy kind growUs fuel = none) ∧
    (∀ guest clock policy,
      ¬(runCaseInner engine guest clock case backend policy false).Instantiates ∧
        (runCase engine guest clock case backend policy).passed = true) ∧
    ∀ timeoutMs pid (polls : List Poll), (∀ poll ∈ polls, poll.isRunning = true) →
      ((∃ report, superviseLoop case backend timeoutMs pid polls = some report ∧
        report.passed = true) ↔ ∃ poll ∈ polls, poll.conclusive timeoutMs = true) := by
  refine ⟨?_, ?_, ?_⟩
  · intro around backend policy kind growUs fuel
    exact nonCooperativeLoop_diverges backend kind growUs fuel
  · intro guest clock policy
    refine ⟨?_, staticAudit_passed hkind hexpected hcompiles⟩
    rw [runCaseInner_instantiates_iff guest clock case backend policy hcompiles]
    exact fun h => h.1 ⟨hkind, rfl⟩
  · intro timeoutMs pid polls hrunning
    rw [superviseLoop_eq]
    apply Iff.intro
    · rintro ⟨report, hfind, -⟩
      obtain ⟨poll, hpoll, -⟩ := Option.map_eq_some_iff.1 hfind
      exact ⟨poll, List.mem_of_find?_eq_some hpoll, List.find?_some hpoll⟩
    · rintro ⟨poll, hmem, hlate⟩
      obtain ⟨killed, hfind⟩ := Option.isSome_iff_exists.1
        (List.find?_isSome.2 ⟨poll, hmem, hlate⟩)
      refine ⟨killed.report case backend timeoutMs pid, by rw [hfind]; rfl, ?_⟩
      have hkilled := hrunning killed (List.mem_of_find?_eq_some hfind)
      cases killed with
      | running elapsedNs killedUs =>
        rw [CaseReport.passed_iff]
        exact ⟨rfl, congrArg some hexpected.symm⟩
      | exited | failed => cases hkilled

end

theorem endless_case_contained :
    letI := HostArch.x86_64
    ∃ case ∈ allCases id, case.name = "non_cooperative_loop" ∧
      (∀ policy fuel, nonCooperativeLoop.execution plainSurroundings .cranelift policy case.kind 1
        fuel = none) ∧
      (∀ guest clock policy,
        ¬(runCaseInner (programEngine nonCooperativeLoop) guest clock case .cranelift policy
            false).Instantiates ∧
          (runCase (programEngine nonCooperativeLoop) guest clock case .cranelift policy).passed =
            true) ∧
      ∃ report, superviseLoop case .cranelift 100 7 [.running 5000 9, .running 100000000 12] =
        some report ∧ report.passed = true := by
  let _ := HostArch.x86_64
  let case := (allCases id).get ⟨22, by decide⟩
  have hcompiles : Compiles (programEngine nonCooperativeLoop) case .cranelift
      nonCooperativeLoop.module := ⟨_, rfl, rfl⟩
  obtain ⟨hdiverges, hinProcess, hsupervised⟩ := endless_guest_contained rfl rfl hcompiles
  refine ⟨case, List.get_mem _ _, rfl, ?_, hinProcess, ?_⟩
  · intro policy fuel
    exact hdiverges plainSurroundings .cranelift policy _ 1 fuel
  · apply (hsupervised 100 7 [.running 5000 9, .running 100000000 12] ?_).2
    · exact ⟨_, List.mem_cons_of_mem _ List.mem_cons_self, by decide⟩
    · simp only [List.forall_mem_cons, List.not_mem_nil, false_imp_iff, implies_true, and_true]
      exact ⟨rfl, rfl⟩

end WasmerSectest
