import WasmerSectest.Evidence
import WasmerSectest.ImportVerdicts
import WasmerSectest.Lib.TextLength
import WasmerSectest.Main

namespace WasmerSectest
set_option autoImplicit true

theorem length_hexPad_le (h : n < 16 ^ (k + 1)) (hwidth : width ≤ k + 1) :
    (hexPad width n).toList.length ≤ k + 1 := by
  have hdigits := TextLength.length_toDigits_le (by decide : 1 < 16) h
  rw [hexPad, String.toList_ofList, List.length_append, List.length_replicate]
  omega

theorem length_hex8_le (n : UInt32) : (hex8 n).toList.length ≤ 8 :=
  length_hexPad_le (lt_of_lt_of_le n.toNat_lt (by decide)) (by decide)

theorem length_hex4_le (n : UInt16) : (hex4 n).toList.length ≤ 4 :=
  length_hexPad_le (lt_of_lt_of_le n.toNat_lt (by decide)) (by decide)

theorem length_escapeDefault (c : Char) : (escapeDefault c).length ≤ 12 := by
  have hdigits : (Nat.toDigits 16 c.toNat).length ≤ 8 :=
    TextLength.length_toDigits_le (by decide) (lt_of_lt_of_le c.val.toNat_lt (by decide))
  rw [escapeDefault]
  split_ifs
  all_goals
    simp only [List.length_append, List.length_cons, List.length_nil]
    omega

theorem length_escapeGuestString (path : String) :
    (escapeGuestString path).toList.length ≤ 12 * path.toList.length := by
  rw [escapeGuestString, String.toList_ofList]
  induction path.toList with
  | nil => exact Nat.le_refl _
  | cons c cs ih =>
    have hc := length_escapeDefault c
    rw [List.flatMap_cons, List.length_append, List.length_cons]
    omega

/-- How much of the text of an error depends on the length of something. -/
def AbiError.variableLength : AbiError → Nat
  | .memoryRead err => err.toList.length
  | .packetTooShort len | .packetLengthMismatch _ len => (toString len).toList.length
  | .capabilityDenied path => (escapeGuestString path).toList.length
  | _ => 0

theorem AbiError.length_display_le (err : AbiError) :
    err.display.toList.length ≤ 128 + err.variableLength := by
  have hheader : (toString Abi.packetHeaderLen).toList.length ≤ 2 :=
    TextLength.length_nat_le (by decide)
  cases err
  all_goals
    unfold display variableLength
    simp only [TextLength.toString_self, String.toList_append, List.length_append,
      String.reduceToList, List.length_cons, List.length_nil]
    grind [TextLength.length_uint16_le, TextLength.length_uint32_le,
      TextLength.length_uint64_le, length_hex8_le, length_hex4_le]

theorem RangeCheck.variableLength (h : RangeCheck ptr len align maxLen size (.error err)) :
    err.variableLength = 0 := by
  cases h with
  | invalidAlignment => rfl
  | tooLarge => rfl
  | misaligned => rfl
  | overflow => rfl
  | outOfBounds => rfl

theorem parsePacket_variableLength (h : parsePacket bytes = .error err)
    (hsize : bytes.length ≤ 2 ^ 32) : err.variableLength ≤ 10 := by
  have hlen (n : Nat) (hn : n ≤ bytes.length) : (toString n).toList.length ≤ 10 :=
    TextLength.length_nat_le (by omega)
  simp only [parsePacket, bind, Except.bind, throw, throwThe, MonadExceptOf.throw, pure,
    Except.pure] at h
  repeat' split at h
  all_goals cases h
  all_goals
    first
    | exact Nat.zero_le _
    | exact hlen _ (Nat.le_refl _)
    | exact hlen _ (List.length_drop ▸ Nat.sub_le _ _)

/-- The longest detail: a path as long as a guest can name one, every character of it escaped. -/
def maxEventDetail : Nat := 256 + 12 * 2 ^ 32

structure ImportEvent.Measured (event : ImportEvent) : Prop where
  import_le : event.import.toList.length ≤ 32
  detail_le : event.detail.toList.length ≤ maxEventDetail

theorem ImportEvent.Measured.of_short {event : ImportEvent} (name : String)
    (himport : event.import = name) (hname : name.toList.length ≤ 32)
    (hdetail : event.detail.toList.length ≤ 256) : event.Measured :=
  ⟨himport ▸ hname, hdetail.trans (Nat.le_add_right _ _)⟩

theorem rejected_length (before : String) (err : AbiError)
    (hbefore : before.toList.length ≤ 64) (herr : err.variableLength ≤ 10) :
    (before ++ err.display).toList.length ≤ 256 := by
  have hdisplay := err.length_display_le
  rw [String.toList_append, List.length_append]
  omega

section
variable {memory : Option Memory} {store : Store} {ptr len align maxLen : UInt32}
  {gate : String} {judge : GuestBytes → Outcome} {access : Except GuestAccessErr Outcome}

theorem AccessAnswer.rule {P : Outcome → Prop}
    (h : AccessAnswer memory store ptr len align maxLen gate judge access)
    (hrefused : ∀ (err : AbiError) (size : Option UInt64) (gates : List Gate),
      err.variableLength ≤ 10 → P (err.code, size, gates, "range rejected: " ++ err.display))
    (hlent : ∀ m, memory = some m →
      ValidRange ptr len align maxLen (m.view store).bytes.length →
        P (judge ((m.view store).lend ptr len gate))) : P (rangeOutcome access) := by
  cases h with
  | unmapped => exact hrefused .missingMemory _ _ (Nat.zero_le _)
  | refused m hm err hcheck =>
    apply hrefused err
    rw [hcheck.variableLength]
    exact Nat.zero_le _
  | lent m hm hvalid => exact hlent m hm hvalid

theorem validatePacketFromGuest_length (guest : GuestBytes) (h : guest.bytes.length ≤ 2 ^ 32) :
    (validatePacketFromGuest guest).2.2.2.toList.length ≤ 256 := by
  rw [validatePacketFromGuest]
  cases hparsed : parsePacket guest.bytes with
  | error err =>
    exact rejected_length "packet rejected: " err (by decide)
      (parsePacket_variableLength hparsed h)
  | ok packet =>
    simp only [TextLength.toString_self, String.toList_append, List.length_append,
      String.reduceToList, List.length_cons, List.length_nil]
    grind [TextLength.length_uint16_le, TextLength.length_uint32_le, length_hex8_le,
      length_hex4_le]

theorem validateCapabilityFromGuest_length (policy : Policy) (guest : GuestBytes)
    (h : guest.bytes.length ≤ 2 ^ 32) :
    (validateCapabilityFromGuest policy guest).2.2.2.toList.length ≤ maxEventDetail := by
  rw [validateCapabilityFromGuest]
  cases hdecoded : Utf8.fromUtf8 guest.bytes with
  | none =>
    exact (rejected_length "string rejected: " .invalidUtf8 (by decide) (Nat.zero_le _)).trans
      (Nat.le_add_right _ _)
  | some path =>
    have hpath : path.toList.length ≤ 2 ^ 32 := by
      rw [Utf8.fromUtf8_eq_some_iff.1 hdecoded] at h
      exact (TextLength.length_le_length_bytes path).trans h
    cases hallowed : policy.isPathAllowed path with
    | true =>
      simp only [hallowed, if_true, maxEventDetail]
      simp only [TextLength.toString_self, String.toList_append, List.length_append,
        String.reduceToList, List.length_cons, List.length_nil]
      grind [length_hex8_le]
    | false =>
      have hdisplay := (AbiError.capabilityDenied path).length_display_le
      have hescape := length_escapeGuestString path
      have hprefix : "path rejected: ".toList.length = 15 := by decide
      change _ ≤ 128 + (escapeGuestString path).toList.length at hdisplay
      simp only [hallowed]
      change ("path rejected: " ++ (AbiError.capabilityDenied path).display).toList.length ≤
        256 + 12 * 2 ^ 32
      rw [String.toList_append, List.length_append]
      omega

theorem writeMarkerToGuest_length (guest : GuestBytes) (h : guest.bytes.length ≤ 2 ^ 32) :
    (writeMarkerToGuest guest).1.2.2.2.toList.length ≤ 256 := by
  have hlen : (toString guest.bytes.length).toList.length ≤ 10 :=
    TextLength.length_nat_le (by omega)
  have hmarker : (toString hostWriteMarkerBytes.length).toList.length ≤ 1 :=
    TextLength.length_nat_le (by decide)
  rw [writeMarkerToGuest]
  split
  all_goals
    simp only [TextLength.toString_self, String.toList_append, List.length_append,
      String.reduceToList, List.length_cons, List.length_nil]
    grind [length_hex8_le]

theorem lend_length {m : Memory}
    (h : ValidRange ptr len align maxLen (m.view store).bytes.length) (gate : String) :
    ((m.view store).lend ptr len gate).bytes.length = len.toNat :=
  LinearMemory.range_length h.in_bounds

end

section
variable [HostArch]

theorem hostAcceptPacket_measured (state : HostState) (store : Store) (ptr len align : UInt32)
    (elapsedUs : U128) :
    ∃ event : ImportEvent, event.Measured ∧
      (hostAcceptPacket state store ptr len align elapsedUs).2 = state.record event := by
  refine ⟨_, .of_short "host.accept_packet" rfl ?_ ?_, rfl⟩
  · decide
  · apply (withGuestBytes_answer state.memory store ptr len align state.policy.maxPacketLen
      validatePacketFromGuest).rule (P := fun outcome => outcome.2.2.2.toList.length ≤ 256)
    · intro err _ _ hvar
      exact rejected_length "range rejected: " err (by decide) hvar
    · intro m _ hvalid
      apply validatePacketFromGuest_length
      rw [lend_length hvalid]
      exact len.toNat_lt.le

theorem hostWriteMarker_measured (state : HostState) (store : Store) (ptr len align : UInt32)
    (elapsedUs : U128) :
    ∃ event : ImportEvent, event.Measured ∧
      (hostWriteMarker state store ptr len align elapsedUs).2.1 = state.record event := by
  refine ⟨_, .of_short "host.write_marker" rfl ?_ ?_, rfl⟩
  · decide
  · apply (withGuestBytesMut_answer state.memory store ptr len align
      (UInt32.ofNat hostWriteMarkerBytes.length) writeMarkerToGuest).rule
        (P := fun outcome => outcome.2.2.2.toList.length ≤ 256)
    · intro err _ _ hvar
      exact rejected_length "range rejected: " err (by decide) hvar
    · intro m _ hvalid
      apply writeMarkerToGuest_length
      rw [lend_length hvalid]
      exact len.toNat_lt.le

omit [HostArch] in
theorem hostAllocCap_measured (state : HostState) (requested : UInt32) (elapsedUs : U128) :
    ∃ event : ImportEvent, event.Measured ∧
      (hostAllocCap state requested elapsedUs).2 = state.record event := by
  refine ⟨_, .of_short "host.alloc_cap" rfl ?_ ?_, rfl⟩
  · decide
  · change (if requested > state.policy.maxAlloc then _ else _ : Int32 × List Gate × String).2.2.toList.length ≤ 256
    split
    · exact rejected_length "allocation rejected before Vec reserve: " _ (by decide)
        (Nat.zero_le _)
    · simp only [TextLength.toString_self, String.toList_append, List.length_append,
        String.reduceToList, List.length_cons, List.length_nil]
      grind [TextLength.length_uint32_le]

/-- The capability import writes the path into the event, whether it is granted or denied. -/
theorem hostReadCap_measured (state : HostState) (store : Store) (ptr len : UInt32)
    (elapsedUs : U128) :
    ∃ event : ImportEvent, event.Measured ∧
      (hostReadCap state store ptr len elapsedUs).2 = state.record event := by
  refine ⟨_, ⟨?_, ?_⟩, rfl⟩
  · change "host.read_cap".toList.length ≤ 32
    decide
  · apply (withGuestBytes_answer state.memory store ptr len 1 state.policy.maxCapStringLen
      (validateCapabilityFromGuest state.policy)).rule
        (P := fun outcome => outcome.2.2.2.toList.length ≤ maxEventDetail)
    · intro err _ _ hvar
      exact (rejected_length "range rejected: " err (by decide) hvar).trans (Nat.le_add_right _ _)
    · intro m _ hvalid
      apply validateCapabilityFromGuest_length
      rw [lend_length hvalid]
      exact len.toNat_lt.le

def Telemetry.Measured (telemetry : Telemetry) : Prop :=
  ∀ event ∈ telemetry.events, event.Measured

omit [HostArch] in
theorem HostState.record_measured {state : HostState} {event : ImportEvent}
    (h : state.telemetry.Measured) (hevent : event.Measured) :
    (state.record event).telemetry.Measured := by
  intro event' hmem
  rcases List.mem_append.1 hmem with hmem | hmem
  · exact h event' hmem
  · rw [List.mem_singleton.1 hmem]
    exact hevent

omit [HostArch] in
theorem hostTick_measured {state : HostState} (elapsedUs : U128)
    (h : state.telemetry.Measured) : (hostTick state elapsedUs).2.telemetry.Measured := by
  have hcount : state.countTick.telemetry.Measured := h
  have hevent (event : ImportEvent) (himport : event.import = "host.tick")
      (hdetail : event.detail.toList.length ≤ 256) : event.Measured :=
    .of_short "host.tick" himport (by decide) hdetail
  by_cases hfuel : state.countTick.fuelRemaining = 0
  · simp only [hostTick, hfuel, if_pos]
    apply HostState.record_measured hcount
    apply hevent _ rfl
    simp only [TextLength.toString_self, String.toList_append, List.length_append,
      String.reduceToList, List.length_cons, List.length_nil]
    grind [TextLength.length_uint32_le]
  · simp only [hostTick, hfuel, if_false]
    split
    · apply HostState.record_measured hcount
      apply hevent _ rfl
      simp only [TextLength.toString_self, String.toList_append, List.length_append,
        String.reduceToList, List.length_cons, List.length_nil]
      grind [TextLength.length_uint32_le]
    · exact hcount

theorem HostCall.step_measured {state : HostState} (c : HostCall)
    (h : state.telemetry.Measured) : (c.step state).2.telemetry.Measured := by
  rw [HostCall.step]
  cases c.call with
  | acceptPacket ptr len align =>
    obtain ⟨event, hevent, heq⟩ :=
      hostAcceptPacket_measured state c.store ptr len align c.elapsedUs
    change (hostAcceptPacket state c.store ptr len align c.elapsedUs).2.telemetry.Measured
    rw [heq]
    exact HostState.record_measured h hevent
  | readCap ptr len =>
    obtain ⟨event, hevent, heq⟩ := hostReadCap_measured state c.store ptr len c.elapsedUs
    change (hostReadCap state c.store ptr len c.elapsedUs).2.telemetry.Measured
    rw [heq]
    exact HostState.record_measured h hevent
  | allocCap requested =>
    obtain ⟨event, hevent, heq⟩ := hostAllocCap_measured state requested c.elapsedUs
    change (hostAllocCap state requested c.elapsedUs).2.telemetry.Measured
    rw [heq]
    exact HostState.record_measured h hevent
  | writeMarker ptr len align =>
    obtain ⟨event, hevent, heq⟩ :=
      hostWriteMarker_measured state c.store ptr len align c.elapsedUs
    change (hostWriteMarker state c.store ptr len align c.elapsedUs).2.1.telemetry.Measured
    rw [heq]
    exact HostState.record_measured h hevent
  | tick => exact hostTick_measured c.elapsedUs h

theorem final_measured {state : HostState} (calls : List HostCall)
    (h : state.telemetry.Measured) :
    (Machine.final HostCall.step state calls).telemetry.Measured :=
  Machine.Reachable.invariant HostCall.step (I := fun state => state.telemetry.Measured)
    ⟨calls, rfl⟩ h fun _ c => HostCall.step_measured c

theorem runGrowthProbe_measured {state : HostState} (guest : GuestExecution) (memory : Memory)
    (growUs : U128) (h : state.telemetry.Measured) :
    (runGrowthProbe guest state memory growUs).telemetry.Measured := by
  have hevent (event : ImportEvent) (himport : event.import = "host.runner.grow_probe")
      (hdetail : event.detail.toList.length ≤ 256) : event.Measured :=
    .of_short "host.runner.grow_probe" himport (by decide) hdetail
  have hdetail (raw : Int32) (before after : MemorySnapshot) :
      (s!"pre-run grow_only raw_return={raw} pages {before.pages}->{after.pages} " ++
        s!"bytes {before.bytes}->{after.bytes}; old MemoryView intentionally dropped before call"
        ).toList.length ≤ 256 := by
    simp only [TextLength.toString_self, String.toList_append, List.length_append,
      String.reduceToList, List.length_cons, List.length_nil]
    grind [TextLength.length_int32_le, TextLength.length_uint32_le, TextLength.length_uint64_le]
  rw [runGrowthProbe]
  cases guest.growOnly with
  | none =>
    apply HostState.record_measured h
    exact hevent _ rfl (hdetail _ _ _)
  | some grow =>
    apply HostState.record_measured (final_measured grow.1 h)
    exact hevent _ rfl (hdetail _ _ _)

omit [HostArch] in
theorem new_measured (policy : Policy) : (HostState.new policy).telemetry.Measured := by
  intro event h
  cases h

/-- The text of the engine's error that ends the instance, if one does. -/
def GuestExecution.errorText (guest : GuestExecution) : String :=
  match guest.instantiate with
  | .error err => err
  | .ok () =>
    match guest.memoryExport with
    | .error err => err
    | .ok _ =>
      match guest.runExport with
      | .error err => err
      | .ok () =>
        match guest.run.2 with
        | .error err => err
        | .ok _ => ""

/-- How a run can end, with the text of the error that ends it. -/
inductive RunEnd (case : GuestCase) (backend : Backend) : String → CaseReport → Prop where
  | failed (before err : String) (hbefore : before.toList.length ≤ 32) :
    RunEnd case backend err (errorReport case backend (before ++ err))
  | completed (hnone : report.hostError = none) (h : report.telemetry.Measured) :
    RunEnd case backend "" report

/-- The same for a whole run: the error is one of the parser, the compiler or the instance. -/
def WorkerRun.errorText (engine : Engine) (guest : GuestExecution) (run : WorkerRun) : String :=
  match run.case.source.wasmBytes engine.parseStr with
  | .error err => err
  | .ok wasm =>
    match engine.compile run.backend wasm with
    | .error err => err
    | .ok module =>
      if run.case.kind = .staticAudit ∧ !run.executeStaticFixture then ""
      else
        match auditModule module run.policy with
        | .error _ => ""
        | .ok () => guest.errorText

theorem runInstance_end (guest : GuestExecution) (clock : Timings) (case : GuestCase)
    (backend : Backend) (policy : Policy) (wasmBytes : Usize) :
    RunEnd case backend guest.errorText
      (runInstance guest clock case backend policy wasmBytes).report := by
  have hstart := final_measured guest.start (new_measured policy)
  rw [runInstance, GuestExecution.errorText]
  cases guest.instantiate with
  | error err => exact .failed "Wasmer instantiate failed: " err (by decide)
  | ok _ =>
    cases guest.memoryExport with
    | error err => exact .failed "missing memory export: " err (by decide)
    | ok memory =>
      cases guest.runExport with
      | error err => exact .failed "missing run export: " err (by decide)
      | ok _ =>
        cases guest.run.2 with
        | error err => exact .failed "guest trapped during run: " err (by decide)
        | ok code =>
          apply RunEnd.completed rfl
          apply final_measured guest.run.1
          split
          · exact runGrowthProbe_measured guest memory clock.growUs hstart
          · exact hstart

theorem auditDenialReport_measured (case : GuestCase) (backend : Backend) (wasmBytes : Usize)
    (compileUs auditUs : U128) (denial : AuditDenial)
    (hdetail : denial.detail.toList.length ≤ 256) :
    (auditDenialReport case backend wasmBytes compileUs auditUs denial).telemetry.Measured := by
  intro event h
  rw [List.mem_singleton.1 h]
  exact .of_short "host.audit.module" rfl (by decide) hdetail

omit [HostArch] in
theorem AuditDenial.memoryPages_length (direction : String) (requested : UInt32)
    (policy : Policy) (h : direction.toList.length ≤ 8) :
    (memoryPages direction requested policy).detail.toList.length ≤ 256 := by
  simp only [memoryPages, TextLength.toString_self, String.toList_append, List.length_append,
    String.reduceToList, List.length_cons, List.length_nil]
  grind [TextLength.length_uint32_le]

omit [HostArch] in
theorem auditModule_length {module : Module} {policy : Policy} {denial : AuditDenial}
    (h : auditModule module policy = .error denial) : denial.detail.toList.length ≤ 256 := by
  rw [auditModule] at h
  split at h
  · obtain rfl := Except.error.inj h
    exact AuditDenial.memoryPages_length "imported" _ policy (by decide)
  · split at h
    · obtain rfl := Except.error.inj h
      exact AuditDenial.memoryPages_length "exported" _ policy (by decide)
    · split at h
      · obtain rfl := Except.error.inj h
        decide
      · cases h

theorem runCaseInner_end (engine : Engine) (guest : GuestExecution) (clock : Timings)
    (run : WorkerRun) :
    RunEnd run.case run.backend (run.errorText engine guest)
      (runCaseInner engine guest clock run.case run.backend run.policy
        run.executeStaticFixture).report := by
  rw [runCaseInner, WorkerRun.errorText]
  cases run.case.source.wasmBytes engine.parseStr with
  | error err =>
    have h : RunEnd run.case run.backend err (errorReport run.case run.backend ("" ++ err)) :=
      .failed "" err (by decide)
    rwa [String.empty_append] at h
  | ok wasm =>
    simp only
    cases engine.compile run.backend wasm with
    | error err => exact .failed "Wasmer compile failed: " err (by decide)
    | ok module =>
      simp only
      split
      · apply RunEnd.completed rfl
        apply auditDenialReport_measured
        decide
      · cases haudit : auditModule module run.policy with
        | error denial =>
          apply RunEnd.completed rfl
          exact auditDenialReport_measured _ _ _ _ _ denial (auditModule_length haudit)
        | ok _ => exact runInstance_end guest clock run.case run.backend run.policy _

/-- What the texts in the line of a report make of its length. -/
def CaseReport.textLength (report : CaseReport) : Nat :=
  let last := report.telemetry.events.getLast?
  ((last.map ImportEvent.detail).getD "").toList.length +
    (report.hostError.getD "").toList.length

theorem length_showUsize_le (n : Usize) : (showNat n.toNat).length ≤ HostArch.usizeBits := by
  have hbits : 0 < HostArch.usizeBits := Nat.lt_of_lt_of_le (by decide) HostArch.usizeBits_ge
  apply (Nat.length_toDigits_le_iff (by decide) hbits).2
  exact Nat.lt_of_lt_of_le n.isLt (Nat.pow_le_pow_left (by decide) _)

omit [HostArch] in
theorem length_showU128_le (n : U128) : (showNat n.toNat).length ≤ 39 :=
  TextLength.length_toDigits_le (by decide) (Nat.lt_of_lt_of_le n.isLt (by decide))

omit [HostArch] in
theorem length_escapeField (value : String) :
    value.toList.length ≤ (escapeField value).length ∧
      (escapeField value).length ≤ 2 * value.toList.length :=
  ⟨fieldCodec.le_length_escape _, fieldCodec.length_escape_le _⟩

theorem length_encodeWorkerReport (report : CaseReport)
    (himport : ∀ event ∈ report.telemetry.events, event.import.toList.length ≤ 32) :
    report.textLength ≤ (encodeWorkerReport report).toList.length ∧
      (encodeWorkerReport report).toList.length ≤
        512 + 2 * HostArch.usizeBits + 2 * report.textLength := by
  have hmagic : workerPrefix.length = 21 := by decide
  have hactual : ((report.actualCode.map showI32).getD []).length ≤ 11 := by
    cases report.actualCode with
    | none => exact Nat.zero_le _
    | some code => exact TextLength.length_int32_le code
  have hcompile := length_showU128_le report.compileUs
  have hinstantiate := length_showU128_le report.instantiateUs
  have hrun := length_showU128_le report.runUs
  have hwasm := length_showUsize_le report.wasmBytes
  have hticks : (showNat report.telemetry.ticksSeen.toNat).length ≤ 10 :=
    TextLength.length_toDigits_le (by decide)
      (Nat.lt_of_lt_of_le report.telemetry.ticksSeen.toNat_lt (by decide))
  have hcount := length_showUsize_le (BitVec.ofNat _ report.telemetry.events.length)
  have hname : (escapeField ((report.telemetry.events.getLast?.map ImportEvent.import).getD
      "")).length ≤ 64 := by
    apply (length_escapeField _).2.trans
    cases hlast : report.telemetry.events.getLast? with
    | none => decide
    | some event => exact Nat.mul_le_mul_left 2 (himport event (List.mem_of_getLast? hlast))
  have hcode := TextLength.length_int32_le
    ((report.telemetry.events.getLast?.map ImportEvent.resultCode).getD Abi.errInternal)
  have hdetail := length_escapeField
    ((report.telemetry.events.getLast?.map ImportEvent.detail).getD "")
  have herror := length_escapeField (report.hostError.getD "")
  rw [encodeWorkerReport, String.toList_ofList, TextLength.length_intercalate]
  simp only [workerFields, List.map_cons, List.map_nil, List.sum_cons, List.sum_nil,
    List.length_cons, List.length_nil, CaseReport.textLength]
  change (showI32 _).length ≤ 11 at hcode
  omega

theorem RunEnd.imports {case : GuestCase} {backend : Backend} {err : String}
    {report : CaseReport} (h : RunEnd case backend err report) :
    ∀ event ∈ report.telemetry.events, event.import.toList.length ≤ 32 := by
  cases h with
  | failed =>
    intro event hevent
    cases hevent
  | completed hnone hmeasured =>
    intro event hevent
    exact (hmeasured event hevent).import_le

/-- The texts of a report are the engine's error, up to one detail and a few words. -/
theorem RunEnd.textLength {case : GuestCase} {backend : Backend} {err : String}
    {report : CaseReport} (h : RunEnd case backend err report) :
    err.utf8ByteSize ≤ 4 * report.textLength ∧
      report.textLength ≤ maxEventDetail + err.utf8ByteSize := by
  have hlow : err.utf8ByteSize ≤ 4 * err.toList.length := TextLength.length_bytes_le err
  have hhigh : err.toList.length ≤ err.utf8ByteSize := TextLength.length_le_length_bytes err
  have hwords : 256 ≤ maxEventDetail := Nat.le_add_right _ _
  cases h with
  | failed before err hbefore =>
    change err.utf8ByteSize ≤ 4 * (0 + (before ++ err).toList.length) ∧
      0 + (before ++ err).toList.length ≤ maxEventDetail + err.utf8ByteSize
    rw [String.toList_append, List.length_append]
    omega
  | completed hnone hmeasured =>
    refine ⟨Nat.zero_le _, ?_⟩
    rw [CaseReport.textLength, hnone]
    cases hlast : report.telemetry.events.getLast? with
    | none => exact Nat.zero_le _
    | some event => exact (hmeasured event (List.mem_of_getLast? hlast)).detail_le

namespace WorkerProcess

variable (worker : WorkerProcess)

theorem line_eq : worker.line = encodeWorkerReport worker.report := by
  rw [line, runWorker, report]
  cases worker.run.executeStaticFixture with
  | false => rfl
  | true => rfl

def errorText : String := worker.run.errorText worker.engine worker.guest

theorem line_length :
    worker.errorText.utf8ByteSize ≤ 4 * worker.line.utf8ByteSize ∧
      worker.line.utf8ByteSize ≤ 2048 + 8 * HostArch.usizeBits + 8 * maxEventDetail +
        8 * worker.errorText.utf8ByteSize := by
  have hend := runCaseInner_end worker.engine worker.guest worker.clock worker.run
  obtain ⟨hlow, hhigh⟩ := hend.textLength
  obtain ⟨hline, hline'⟩ := length_encodeWorkerReport worker.report hend.imports
  change worker.errorText.utf8ByteSize ≤ 4 * worker.report.textLength at hlow
  change worker.report.textLength ≤ maxEventDetail + worker.errorText.utf8ByteSize at hhigh
  rw [← line_eq] at hline hline'
  have hbytes : worker.line.utf8ByteSize ≤ 4 * worker.line.toList.length :=
    TextLength.length_bytes_le worker.line
  have hchars : worker.line.toList.length ≤ worker.line.utf8ByteSize :=
    TextLength.length_le_length_bytes worker.line
  omega

end WorkerProcess

/-- Among some workers the lines are bounded just when the errors of the engine are. -/
theorem report_line_bounded_iff (workers : Set WorkerProcess) :
    (∃ bound, ∀ worker ∈ workers, worker.line.utf8ByteSize ≤ bound) ↔
      ∃ bound, ∀ worker ∈ workers, worker.errorText.utf8ByteSize ≤ bound := by
  constructor
  · intro h
    obtain ⟨bound, hbound⟩ := h
    refine ⟨4 * bound, ?_⟩
    intro worker hworker
    exact worker.line_length.1.trans (Nat.mul_le_mul_left 4 (hbound worker hworker))
  · intro h
    obtain ⟨bound, hbound⟩ := h
    refine ⟨2048 + 8 * HostArch.usizeBits + 8 * maxEventDetail + 8 * bound, ?_⟩
    intro worker hworker
    apply worker.line_length.2.trans
    exact Nat.add_le_add_left (Nat.mul_le_mul_left 8 (hbound worker hworker)) _

end

/-- The parser's error about a text on one line that is no module: it quotes the line. -/
def quotingParser (text : String) : Except String (List UInt8) :=
  .error ("expected `(`\n     --> <anon>:1:1\n      |\n    1 | " ++ text ++ "\n      | ^")

def longLine (length : Nat) : String := String.ofList (List.replicate length 'a')

def longLineWorker [HostArch] (length : Nat) : WorkerProcess where
  engine := ⟨quotingParser, fun _ _ => .ok meteredModule⟩
  guest := trappingGuest
  clock := ⟨1, 1, 1, 1, 1⟩
  run :=
    { case := case "long_line" "" Abi.ok .runExport "abi" "info" "" (longLine length)
      backend := .cranelift
      policy := .default
      executeStaticFixture := false }

theorem length_longLineWorker [HostArch] (length : Nat) :
    length ≤ (longLineWorker length).errorText.utf8ByteSize := by
  have hline : (longLine length).toList.length = length := by
    rw [longLine, String.toList_ofList, List.length_replicate]
  have herror : (longLineWorker length).errorText =
      "WAT parse failed: " ++ ("expected `(`\n     --> <anon>:1:1\n      |\n    1 | " ++
        longLine length ++ "\n      | ^") := rfl
  have hbytes : (longLine length).toList.length ≤ (longLine length).utf8ByteSize :=
    TextLength.length_le_length_bytes _
  rw [herror]
  simp only [String.utf8ByteSize_append]
  omega

theorem long_source_lines_unbounded :
    letI := HostArch.x86_64
    ¬∃ bound, ∀ worker : WorkerProcess, worker.line.utf8ByteSize ≤ bound := by
  let _ := HostArch.x86_64
  intro h
  obtain ⟨bound, hbound⟩ := h
  have hworker := (longLineWorker (4 * bound + 1)).line_length.1
  have hlength := length_longLineWorker (4 * bound + 1)
  have hline := hbound (longLineWorker (4 * bound + 1))
  omega

end WasmerSectest
