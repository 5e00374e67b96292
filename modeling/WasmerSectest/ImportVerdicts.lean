import WasmerSectest.FuelContract
import WasmerSectest.ImportDecisions
import WasmerSectest.PacketIntegrity
import WasmerSectest.RangeGates

namespace WasmerSectest
set_option autoImplicit true

/-- The checks of an import in the order of its gates, each with whether it passes. -/
abbrev Checks := List (String × Bool)

def Checks.passed (checks : Checks) : List String := (checks.takeWhile Prod.snd).map Prod.fst

def rangeChecks (ptr len align maxLen : UInt32) (size : Nat) : Checks :=
  [("max_len", decide (len.toNat ≤ maxLen.toNat)),
    ("alignment", decide (SupportedAlign align ∧ align.toNat ∣ ptr.toNat)),
    ("checked_add", decide (ptr.toNat + len.toNat < 2 ^ 32)),
    ("bounds", decide (ptr.toNat + len.toNat ≤ size))]

/-- The checks of an import that reads or writes the guest's memory. -/
def memoryChecks (memory : Option Memory) (store : Store) (ptr len align maxLen : UInt32)
    (judge : List UInt8 → Checks) : Checks :=
  match memory with
  | none => [("memory.export", false)]
  | some m =>
    rangeChecks ptr len align maxLen (m.view store).bytes.length ++
      judge ((m.view store).range ptr len)

def packetChecks (bytes : List UInt8) : Checks :=
  [("memory.read", true), ("packet.header", decide (HeaderFits bytes)),
    ("packet.checksum", decide (SumFits bytes))]

def capabilityChecks (policy : Policy) (bytes : List UInt8) : Checks :=
  [("memory.read", true), ("utf8", (Utf8.fromUtf8 bytes).isSome),
    ("capability", (Utf8.fromUtf8 bytes).any policy.isPathAllowed)]

def markerChecks (bytes : List UInt8) : Checks :=
  [("memory.write", true), ("marker.write", decide (bytes.length = hostWriteMarkerBytes.length))]

def GuestCall.checks (call : GuestCall) (state : HostState) (store : Store) : Checks :=
  match call with
  | .acceptPacket ptr len align =>
    memoryChecks state.memory store ptr len align state.policy.maxPacketLen packetChecks
  | .readCap ptr len =>
    memoryChecks state.memory store ptr len 1 state.policy.maxCapStringLen
      (capabilityChecks state.policy)
  | .allocCap requested => [("alloc.cap", decide (requested ≤ state.policy.maxAlloc))]
  | .writeMarker ptr len align => memoryChecks state.memory store ptr len align 4 markerChecks
  | .tick => [("fuel", decide (state.fuelRemaining ≠ 0))]

/-- A gate and a code that belong to the same check. -/
def SameCheck (gate : String) (code : Int32) : Prop :=
  (∃ err : AbiError, err.gate = gate ∧ err.code = code) ∨
    gate = "marker.len" ∧ code = Abi.errHeader

/-- Code, verdict and gates of an event agree with each other. -/
structure VerdictConsistent (checks : Checks) (returned : Int32) (event : ImportEvent) :
    Prop where
  code_eq : event.resultCode = returned
  ok_iff : event.resultCode = Abi.ok ↔ ∀ gate ∈ event.gates, gate.passed = true
  refused : event.resultCode ≠ Abi.ok →
    ∃ (names : List String) (failed : String),
      event.gates = names.map Gate.pass ++ [.fail failed] ∧
        SameCheck failed event.resultCode ∧ names.Sublist (checks.map Prod.fst) ∧ names.Nodup

/-- They agree with the checks made as well: the gates before a failed one are those passed. -/
structure VerdictAgrees (checks : Checks) (returned : Int32) (event : ImportEvent) : Prop
    extends VerdictConsistent checks returned event where
  passed : event.resultCode ≠ Abi.ok →
    ∃ failed, event.gates = checks.passed.map Gate.pass ++ [.fail failed]

/-- The calls whose gates are not the checks that passed: the length was not looked at before
the alignment was refused, or the header was before the checksum. -/
def GuestCall.Misreported (call : GuestCall) (state : HostState) (store : Store) : Prop :=
  ∃ m, state.memory = some m ∧
    match call with
    | .acceptPacket ptr len align =>
      (¬SupportedAlign align ∧ state.policy.maxPacketLen.toNat < len.toNat) ∨
        (ValidRange ptr len align state.policy.maxPacketLen (m.view store).bytes.length ∧
          HeaderFits ((m.view store).range ptr len) ∧ ¬SumFits ((m.view store).range ptr len))
    | .writeMarker _ len align => ¬SupportedAlign align ∧ 4 < len.toNat
    | .readCap .. | .allocCap _ | .tick => False

/-- What an import can decide, given its checks and whether it misreports them. -/
inductive Decision (checks : Checks) (misreported : Prop) : Int32 → List Gate → Prop where
  | granted (hm : ¬misreported) (names : List String) :
    Decision checks misreported Abi.ok (names.map Gate.pass)
  | refused (hm : ¬misreported) (names : List String) (failed : String) (code : Int32)
    (hpassed : checks.passed = names) (hn : names.Nodup) (hc : code ≠ Abi.ok)
    (hs : SameCheck failed code) :
    Decision checks misreported code (names.map Gate.pass ++ [.fail failed])
  | misreported (hm : misreported) (names : List String) (failed : String) (code : Int32)
    (hpassed : checks.passed.length ≠ names.length)
    (horder : names.Sublist (checks.map Prod.fst)) (hn : names.Nodup) (hc : code ≠ Abi.ok)
    (hs : SameCheck failed code) :
    Decision checks misreported code (names.map Gate.pass ++ [.fail failed])

theorem all_pass (names : List String) :
    ∀ gate ∈ names.map Gate.pass, gate.passed = true := by
  intro gate h
  obtain ⟨name, -, rfl⟩ := List.mem_map.1 h
  rfl

theorem not_all_pass (names : List String) (failed : String) :
    ¬∀ gate ∈ names.map Gate.pass ++ [Gate.fail failed], gate.passed = true := by
  intro h
  cases h (.fail failed) (List.mem_append_right _ List.mem_cons_self)

theorem passed_sublist (checks : Checks) :
    checks.passed.Sublist (checks.map Prod.fst) :=
  (List.takeWhile_sublist _).map _

theorem VerdictConsistent.of_refused {checks : Checks} {event : ImportEvent}
    {names : List String} {failed : String} {returned : Int32}
    (hcode : event.resultCode = returned)
    (hgates : event.gates = names.map Gate.pass ++ [.fail failed]) (hc : returned ≠ Abi.ok)
    (hs : SameCheck failed returned) (horder : names.Sublist (checks.map Prod.fst))
    (hn : names.Nodup) : VerdictConsistent checks returned event := by
  apply VerdictConsistent.mk hcode
  · rw [hgates, hcode]
    exact iff_of_false hc (not_all_pass names failed)
  · intro _
    rw [hcode]
    exact ⟨names, failed, hgates, hs, horder, hn⟩

theorem Decision.consistent {checks : Checks} {misreported : Prop} {returned : Int32}
    {gates : List Gate} {event : ImportEvent} (h : Decision checks misreported returned gates)
    (hcode : event.resultCode = returned) (hgates : event.gates = gates) :
    VerdictConsistent checks returned event := by
  cases h with
  | granted hm names =>
    apply VerdictConsistent.mk hcode
    · rw [hgates]
      exact iff_of_true hcode (all_pass names)
    · intro hc
      exact absurd hcode hc
  | refused hm names failed _ hpassed hn hc hs =>
    exact .of_refused hcode hgates hc hs (hpassed ▸ passed_sublist checks) hn
  | misreported hm names failed _ hpassed horder hn hc hs =>
    exact .of_refused hcode hgates hc hs horder hn

theorem Decision.verdict_iff {checks : Checks} {misreported : Prop} {returned : Int32}
    {gates : List Gate} {event : ImportEvent} (h : Decision checks misreported returned gates)
    (hcode : event.resultCode = returned) (hgates : event.gates = gates) :
    VerdictAgrees checks returned event ↔ ¬misreported := by
  have hconsistent := h.consistent hcode hgates
  cases h with
  | granted hm names => exact iff_of_true ⟨hconsistent, fun hc => absurd hcode hc⟩ hm
  | refused hm names failed _ hpassed =>
    apply iff_of_true _ hm
    refine ⟨hconsistent, ?_⟩
    intro _
    exact ⟨failed, hpassed ▸ hgates⟩
  | misreported hm names failed _ hpassed _ _ hc =>
    apply iff_of_false _ (not_not_intro hm)
    intro h
    obtain ⟨failed', heq⟩ := h.passed (hcode ▸ hc)
    have hlen := congrArg List.length (hgates.symm.trans heq)
    rw [List.length_append, List.length_append, List.length_map, List.length_map] at hlen
    exact hpassed (Nat.add_right_cancel hlen).symm

theorem AbiError.code_ne_ok (err : AbiError) : err.code ≠ Abi.ok := by
  cases err <;> simp only [code] <;> decide

theorem sameCheck_error (err : AbiError) : SameCheck err.gate err.code := .inl ⟨err, rfl, rfl⟩

section
variable {checks : Checks} {misreported : Prop}

theorem Decision.error (err : AbiError) (hm : ¬misreported) (names : List String)
    (hpassed : checks.passed = names) (hn : names.Nodup) :
    Decision checks misreported err.code (names.map Gate.pass ++ [.fail err.gate]) :=
  .refused hm names err.gate err.code hpassed hn err.code_ne_ok (sameCheck_error err)

theorem Decision.misreported_error (err : AbiError) (hm : misreported) (names : List String)
    (hpassed : checks.passed.length ≠ names.length)
    (horder : names.Sublist (checks.map Prod.fst)) (hn : names.Nodup) :
    Decision checks misreported err.code (names.map Gate.pass ++ [.fail err.gate]) :=
  .misreported hm names err.gate err.code hpassed horder hn err.code_ne_ok (sameCheck_error err)

end

section
variable {ptr len align maxLen : UInt32} {size : UInt64} {misreported : Prop}

theorem rangeChecks_passed {size : Nat} (h : ValidRange ptr len align maxLen size)
    (rest : Checks) : Checks.passed (rangeChecks ptr len align maxLen size ++ rest) =
      ["max_len", "alignment", "checked_add", "bounds"] ++ rest.passed := by
  simp [-Nat.reducePow, Checks.passed, rangeChecks, h.len_le, h.align_supported, h.align_dvd,
    h.no_wrap, h.in_bounds]

theorem RangeCheck.not_valid (h : RangeCheck ptr len align maxLen size (.error err)) :
    ¬ValidRange ptr len align maxLen size.toNat := by
  intro hvalid
  cases h with
  | invalidAlignment ha => exact ha hvalid.align_supported
  | tooLarge ha hl => exact Nat.not_le.2 hl hvalid.len_le
  | misaligned ha hl hd => exact hd hvalid.align_dvd
  | overflow ha hl hd hw => exact Nat.not_lt.2 hw hvalid.no_wrap
  | outOfBounds ha hl hd hw hb => exact Nat.not_le.2 hb hvalid.in_bounds

theorem range_decision (err : AbiError) (rest : Checks)
    (h : RangeCheck ptr len align maxLen size (.error err))
    (hm : misreported ↔ ¬SupportedAlign align ∧ maxLen.toNat < len.toNat) :
    Decision (rangeChecks ptr len align maxLen size.toNat ++ rest) misreported err.code
      (refusedGates err) := by
  cases h with
  | invalidAlignment ha =>
    by_cases hl : len.toNat ≤ maxLen.toNat
    · have hnot : ¬misreported := fun h => Nat.not_lt.2 hl (hm.1 h).2
      apply Decision.error (.invalidAlignment align) hnot ["max_len"]
      · simp [Checks.passed, rangeChecks, hl, ha]
      · exact List.nodup_singleton _
    · apply Decision.misreported_error (.invalidAlignment align)
        (hm.2 ⟨ha, Nat.not_le.1 hl⟩) ["max_len"]
      · simp [Checks.passed, rangeChecks, hl]
      · simp [rangeChecks]
      · exact List.nodup_singleton _
  | tooLarge ha hl =>
    apply Decision.error (.tooLarge len maxLen) (fun h => (hm.1 h).1 ha) []
    · simp [Checks.passed, rangeChecks, hl]
    · exact List.nodup_nil
  | misaligned ha hl hd =>
    apply Decision.error (.misaligned ptr align) (fun h => (hm.1 h).1 ha) ["max_len"]
    · simp [Checks.passed, rangeChecks, hl, hd]
    · exact List.nodup_singleton _
  | overflow ha hl hd hw =>
    apply Decision.error (.ptrLenOverflow ptr len) (fun h => (hm.1 h).1 ha)
      ["max_len", "alignment"]
    · simp [-Nat.reducePow, Checks.passed, rangeChecks, ha, hl, hd, hw]
    · simp
  | outOfBounds ha hl hd hw hb =>
    apply Decision.error (.outOfBounds ptr len (ptr + len) size) (fun h => (hm.1 h).1 ha)
      ["max_len", "alignment", "checked_add"]
    · simp [-Nat.reducePow, Checks.passed, rangeChecks, ha, hl, hd, hw, hb]
    · simp

end

/-- Everything an access to the guest's memory can give. -/
inductive AccessAnswer (memory : Option Memory) (store : Store) (ptr len align maxLen : UInt32)
    (gate : String) (judge : GuestBytes → Outcome) : Except GuestAccessErr Outcome → Prop where
  | unmapped (h : memory = none) :
    AccessAnswer memory store ptr len align maxLen gate judge
      (.error (.missingMemory, none, [.fail "memory.export"]))
  | refused (m : Memory) (hm : memory = some m) (err : AbiError)
    (hc : RangeCheck ptr len align maxLen (m.view store).dataSize (.error err)) :
    AccessAnswer memory store ptr len align maxLen gate judge
      (.error (err, some (m.view store).dataSize, refusedGates err))
  | lent (m : Memory) (hm : memory = some m)
    (hv : ValidRange ptr len align maxLen (m.view store).bytes.length) :
    AccessAnswer memory store ptr len align maxLen gate judge
      (.ok (judge ((m.view store).lend ptr len gate)))

section
variable [HostArch] (memory : Option Memory) (store : Store) (ptr len align maxLen : UInt32)

theorem withGuestBytes_answer (read : GuestBytes → Outcome) :
    AccessAnswer memory store ptr len align maxLen "memory.read" read
      (withGuestBytes memory store ptr len align maxLen read) := by
  cases memory with
  | none => exact .unmapped rfl
  | some m =>
    by_cases hvalid : ValidRange ptr len align maxLen (m.view store).bytes.length
    · rw [withGuestBytes_valid hvalid]
      exact .lent m rfl hvalid
    · obtain ⟨err, hcheck, hrange⟩ :=
        validateRange_refused ((m.view store).toNat_dataSize ▸ hvalid)
      rw [withGuestBytes_refused hrange]
      exact .refused m rfl err hcheck

theorem withGuestBytesMut_answer (write : (guest : GuestBytes) → Outcome × Written guest) :
    AccessAnswer memory store ptr len align maxLen "memory.write" (fun guest => (write guest).1)
      (withGuestBytesMut memory store ptr len align maxLen write).1 := by
  cases memory with
  | none => exact .unmapped rfl
  | some m =>
    by_cases hvalid : ValidRange ptr len align maxLen (m.view store).bytes.length
    · rw [withGuestBytesMut_valid hvalid]
      exact .lent m rfl hvalid
    · obtain ⟨err, hcheck, hrange⟩ :=
        validateRange_refused ((m.view store).toNat_dataSize ▸ hvalid)
      rw [withGuestBytesMut_refused hrange]
      exact .refused m rfl err hcheck

end

section
variable {memory : Option Memory} {store : Store} {ptr len align maxLen : UInt32} {gate : String}
  {judge : GuestBytes → Outcome} {access : Except GuestAccessErr Outcome} {misreported : Prop}

theorem AccessAnswer.decision
    (h : AccessAnswer memory store ptr len align maxLen gate judge access)
    (checks : List UInt8 → Checks)
    (hmemory : misreported → ∃ m, memory = some m)
    (hrefused : ∀ m, memory = some m →
      ¬ValidRange ptr len align maxLen (m.view store).bytes.length →
        (misreported ↔ ¬SupportedAlign align ∧ maxLen.toNat < len.toNat))
    (hlent : ∀ m, memory = some m →
      ValidRange ptr len align maxLen (m.view store).bytes.length →
        Decision (rangeChecks ptr len align maxLen (m.view store).bytes.length ++
            checks ((m.view store).range ptr len)) misreported
          (judge ((m.view store).lend ptr len gate)).1
          (judge ((m.view store).lend ptr len gate)).2.2.1) :
    Decision (memoryChecks memory store ptr len align maxLen checks) misreported
      (rangeOutcome access).1 (rangeOutcome access).2.2.1 := by
  cases h with
  | unmapped hnone =>
    have hnot : ¬misreported := by
      intro hm
      obtain ⟨m, hsome⟩ := hmemory hm
      cases hnone.symm.trans hsome
    rw [hnone]
    exact Decision.error .missingMemory hnot [] rfl List.nodup_nil
  | refused m hm err hcheck =>
    have hinvalid : ¬ValidRange ptr len align maxLen (m.view store).bytes.length := by
      rw [← (m.view store).toNat_dataSize]
      exact hcheck.not_valid
    have hdecision := range_decision err (checks ((m.view store).range ptr len)) hcheck
      (hrefused m hm hinvalid)
    rw [(m.view store).toNat_dataSize] at hdecision
    rw [hm]
    exact hdecision
  | lent m hm hvalid =>
    rw [hm]
    exact hlent m hm hvalid

end

def lentChecks (gate : String) : List String :=
  ["max_len", "alignment", "checked_add", "bounds", gate]

section
variable (guest : GuestBytes) {before : Checks} {misreported : Prop}
  (hbefore : ∀ rest : Checks, Checks.passed (before ++ rest) =
    ["max_len", "alignment", "checked_add", "bounds"] ++ rest.passed)
include hbefore

theorem packet_decision (hgates : guest.gates = (lentChecks "memory.read").map Gate.pass)
    (hm : misreported ↔ HeaderFits guest.bytes ∧ ¬SumFits guest.bytes) :
    Decision (before ++ packetChecks guest.bytes) misreported (validatePacketFromGuest guest).1
      (validatePacketFromGuest guest).2.2.1 := by
  have hpassed := hbefore (packetChecks guest.bytes)
  have hverdict := parsePacket_verdict guest.bytes
  rw [validatePacketFromGuest, hgates]
  generalize parsePacket guest.bytes = answer at hverdict
  cases hverdict with
  | @header err hn _ =>
    apply Decision.error err (fun h => hn (hm.1 h).1) (lentChecks "memory.read")
    · rw [hpassed]
      simp [Checks.passed, packetChecks, hn, lentChecks]
    · simp [lentChecks]
  | checksum hheader hs expected actual =>
    have hheaderPassed : Checks.passed (before ++ packetChecks guest.bytes) =
        lentChecks "memory.read" ++ ["packet.header"] := by
      rw [hpassed]
      simp [Checks.passed, packetChecks, hheader, hs, lentChecks]
    apply Decision.misreported_error (.badChecksum expected actual) (hm.2 ⟨hheader, hs⟩)
      (lentChecks "memory.read")
    · rw [hheaderPassed]
      simp [lentChecks]
    · apply List.Sublist.trans _ (passed_sublist _)
      rw [hheaderPassed]
      exact List.sublist_append_left _ _
    · simp [lentChecks]
  | accepted hheader hs =>
    exact Decision.granted (fun h => (hm.1 h).2 hs)
      (lentChecks "memory.read" ++ ["packet.header", "packet.checksum"])

theorem capability_decision (policy : Policy)
    (hgates : guest.gates = (lentChecks "memory.read").map Gate.pass) (hm : ¬misreported) :
    Decision (before ++ capabilityChecks policy guest.bytes) misreported
      (validateCapabilityFromGuest policy guest).1
      (validateCapabilityFromGuest policy guest).2.2.1 := by
  have hpassed := hbefore (capabilityChecks policy guest.bytes)
  rw [validateCapabilityFromGuest, hgates]
  cases hdecoded : Utf8.fromUtf8 guest.bytes with
  | none =>
    apply Decision.error .invalidUtf8 hm (lentChecks "memory.read")
    · rw [hpassed]
      simp [Checks.passed, capabilityChecks, hdecoded, lentChecks]
    · simp [lentChecks]
  | some path =>
    cases hallowed : policy.isPathAllowed path with
    | true =>
      simp only [hallowed]
      exact Decision.granted hm (lentChecks "memory.read" ++ ["utf8", "capability"])
    | false =>
      simp only [hallowed]
      apply Decision.error (.capabilityDenied path) hm (lentChecks "memory.read" ++ ["utf8"])
      · rw [hpassed]
        simp [Checks.passed, capabilityChecks, hdecoded, hallowed, lentChecks]
      · simp [lentChecks]

theorem marker_decision (hgates : guest.gates = (lentChecks "memory.write").map Gate.pass)
    (hm : ¬misreported) :
    Decision (before ++ markerChecks guest.bytes) misreported (writeMarkerToGuest guest).1.1
      (writeMarkerToGuest guest).1.2.2.1 := by
  have hpassed := hbefore (markerChecks guest.bytes)
  rw [writeMarkerToGuest, hgates]
  by_cases hlen : guest.bytes.length = hostWriteMarkerBytes.length
  · rw [dif_pos hlen]
    exact Decision.granted hm (lentChecks "memory.write" ++ ["marker.write"])
  · rw [dif_neg hlen]
    apply Decision.refused hm (lentChecks "memory.write") "marker.len"
    · rw [hpassed]
      simp [Checks.passed, markerChecks, hlen, lentChecks]
    · simp [lentChecks]
    · exact show Abi.errHeader ≠ Abi.ok by decide
    · exact .inr ⟨rfl, rfl⟩

end

theorem readCap_not_misreported {ptr len : UInt32} {state : HostState} {store : Store} :
    ¬(GuestCall.readCap ptr len).Misreported state store := by
  rintro ⟨m, -, h⟩
  exact h

section
variable [HostArch] {state : HostState} {store : Store} {m : Memory} {ptr len align : UInt32}

theorem acceptPacket_decision (store : Store) (ptr len align : UInt32) :
    let call := GuestCall.acceptPacket ptr len align
    let outcome := rangeOutcome (withGuestBytes state.memory store ptr len align
      state.policy.maxPacketLen validatePacketFromGuest)
    Decision (call.checks state store) (call.Misreported state store) outcome.1
      outcome.2.2.1 := by
  have hmisreported {m : Memory} (hm : state.memory = some m) :
      (GuestCall.acceptPacket ptr len align).Misreported state store ↔
        (¬SupportedAlign align ∧ state.policy.maxPacketLen.toNat < len.toNat) ∨
          (ValidRange ptr len align state.policy.maxPacketLen (m.view store).bytes.length ∧
            HeaderFits ((m.view store).range ptr len) ∧
              ¬SumFits ((m.view store).range ptr len)) := by
    simp [GuestCall.Misreported, hm]
  apply (withGuestBytes_answer state.memory store ptr len align state.policy.maxPacketLen
    validatePacketFromGuest).decision packetChecks
  · rintro ⟨m, hm, -⟩
    exact ⟨m, hm⟩
  · intro m hm hinvalid
    rw [hmisreported hm]
    exact or_iff_left fun h => hinvalid h.1
  · intro m hm hvalid
    apply packet_decision ((m.view store).lend ptr len "memory.read") (rangeChecks_passed hvalid)
      rfl
    rw [hmisreported hm, and_iff_right hvalid]
    exact or_iff_right fun h => h.1 hvalid.align_supported

theorem readCap_decision (store : Store) (ptr len : UInt32) :
    let call := GuestCall.readCap ptr len
    let outcome := rangeOutcome (withGuestBytes state.memory store ptr len 1
      state.policy.maxCapStringLen (validateCapabilityFromGuest state.policy))
    Decision (call.checks state store) (call.Misreported state store) outcome.1
      outcome.2.2.1 := by
  apply (withGuestBytes_answer state.memory store ptr len 1 state.policy.maxCapStringLen
    (validateCapabilityFromGuest state.policy)).decision (capabilityChecks state.policy)
  · intro h
    exact absurd h readCap_not_misreported
  · intro m hm hinvalid
    exact iff_of_false readCap_not_misreported fun h => h.1 (.inl rfl)
  · intro m hm hvalid
    exact capability_decision ((m.view store).lend ptr len "memory.read")
      (rangeChecks_passed hvalid) state.policy rfl readCap_not_misreported

theorem writeMarker_decision (store : Store) (ptr len align : UInt32) :
    let call := GuestCall.writeMarker ptr len align
    let outcome := rangeOutcome
      (withGuestBytesMut state.memory store ptr len align 4 writeMarkerToGuest).1
    Decision (call.checks state store) (call.Misreported state store) outcome.1
      outcome.2.2.1 := by
  have hmisreported {m : Memory} (hm : state.memory = some m) :
      (GuestCall.writeMarker ptr len align).Misreported state store ↔
        ¬SupportedAlign align ∧ 4 < len.toNat := by
    simp [GuestCall.Misreported, hm]
  apply (withGuestBytesMut_answer state.memory store ptr len align 4
    writeMarkerToGuest).decision markerChecks
  · rintro ⟨m, hm, -⟩
    exact ⟨m, hm⟩
  · intro m hm hinvalid
    exact hmisreported hm
  · intro m hm hvalid
    apply marker_decision ((m.view store).lend ptr len "memory.write") (rangeChecks_passed hvalid)
      rfl
    rw [hmisreported hm]
    intro h
    exact h.1 hvalid.align_supported

end

/-- The event carries the code that is returned, and gates that the call can decide on. -/
structure Performed (call : GuestCall) (state : HostState) (store : Store) (returned : Int32)
    (event : ImportEvent) : Prop where
  code_eq : event.resultCode = returned
  decision : Decision (call.checks state store) (call.Misreported state store) returned
    event.gates

section
variable {state : HostState} {store : Store} {elapsedUs : U128} {event : ImportEvent}

theorem recorded_eq {events : List ImportEvent} {event event' : ImportEvent}
    (h : events ++ [event] = events ++ [event']) : event = event' :=
  List.singleton_inj.1 (List.append_cancel_left h)

theorem hostAllocCap_performed {requested : UInt32}
    (h : (hostAllocCap state requested elapsedUs).2.telemetry.events =
      state.telemetry.events ++ [event]) :
    Performed (.allocCap requested) state store (hostAllocCap state requested elapsedUs).1
      event := by
  have hclear : ¬(GuestCall.allocCap requested).Misreported state store := by
    rintro ⟨m, -, h⟩
    exact h
  rw [hostAllocCap] at h ⊢
  by_cases hlarge : requested > state.policy.maxAlloc
  · simp only [if_pos hlarge] at h ⊢
    obtain rfl := recorded_eq h
    refine ⟨rfl, ?_⟩
    apply Decision.error (.allocationTooLarge requested state.policy.maxAlloc) hclear []
    · simp [Checks.passed, GuestCall.checks, hlarge]
    · exact List.nodup_nil
  · simp only [if_neg hlarge] at h ⊢
    obtain rfl := recorded_eq h
    exact ⟨rfl, .granted hclear ["alloc.cap"]⟩

theorem hostTick_performed
    (h : (hostTick state elapsedUs).2.telemetry.events = state.telemetry.events ++ [event]) :
    Performed .tick state store (hostTick state elapsedUs).1 event := by
  have hclear : ¬GuestCall.tick.Misreported state store := by
    rintro ⟨m, -, h⟩
    exact h
  by_cases hfuel : state.fuelRemaining = 0
  · have hcounted : state.countTick.fuelRemaining = 0 := hfuel
    have hlogged : shouldRecordTick state.countTick.telemetry.ticksSeen
        AbiError.budgetExhausted.code = true := rfl
    simp only [hostTick, hcounted, hlogged, if_true] at h ⊢
    obtain rfl := recorded_eq h
    refine ⟨rfl, ?_⟩
    apply Decision.error .budgetExhausted hclear []
    · simp [Checks.passed, GuestCall.checks, hfuel]
    · exact List.nodup_nil
  · cases hlogged : shouldRecordTick state.countTick.telemetry.ticksSeen Abi.ok with
    | true =>
      have hcounted : ¬state.countTick.fuelRemaining = 0 := hfuel
      simp only [hostTick, hcounted, if_false, hlogged, if_true] at h ⊢
      obtain rfl := recorded_eq h
      exact ⟨rfl, .granted hclear ["fuel"]⟩
    | false =>
      rw [hostTick_silent state elapsedUs hfuel hlogged] at h
      have hsilent : state.telemetry.events = state.telemetry.events ++ [event] := h
      cases List.self_eq_append_right.1 hsilent

end

section
variable [HostArch]

theorem perform_performed (call : GuestCall) (state : HostState) (store : Store)
    (elapsedUs : U128) (event : ImportEvent)
    (h : (call.perform state store elapsedUs).2.1.telemetry.events =
      state.telemetry.events ++ [event]) :
    Performed call state store (call.perform state store elapsedUs).1 event := by
  cases call with
  | acceptPacket ptr len align =>
    obtain rfl := recorded_eq h
    exact ⟨rfl, acceptPacket_decision store ptr len align⟩
  | readCap ptr len =>
    obtain rfl := recorded_eq h
    exact ⟨rfl, readCap_decision store ptr len⟩
  | allocCap requested => exact hostAllocCap_performed h
  | writeMarker ptr len align =>
    obtain rfl := recorded_eq h
    exact ⟨rfl, writeMarker_decision store ptr len align⟩
  | tick => exact hostTick_performed h

/-- Code, verdict and gates of every recorded event agree with each other. -/
theorem import_verdict_consistent (call : GuestCall) (state : HostState) (store : Store)
    (elapsedUs : U128) (event : ImportEvent)
    (h : (call.perform state store elapsedUs).2.1.telemetry.events =
      state.telemetry.events ++ [event]) :
    VerdictConsistent (call.checks state store) (call.perform state store elapsedUs).1 event := by
  have hperformed := perform_performed call state store elapsedUs event h
  exact hperformed.decision.consistent hperformed.code_eq rfl

/-- They agree with the checks as well, except where they skip a check or claim one. -/
theorem import_verdicts_agree_iff (call : GuestCall) (state : HostState) (store : Store)
    (elapsedUs : U128) (event : ImportEvent)
    (h : (call.perform state store elapsedUs).2.1.telemetry.events =
      state.telemetry.events ++ [event]) :
    VerdictAgrees (call.checks state store) (call.perform state store elapsedUs).1 event ↔
      ¬call.Misreported state store := by
  have hperformed := perform_performed call state store elapsedUs event h
  exact hperformed.decision.verdict_iff hperformed.code_eq rfl

end

def corruptMemory : LinearMemory where
  bytes := helloPacket.set 20 0x21
  size_le := by decide

theorem corrupt_memory_misreported :
    (GuestCall.acceptPacket 0 21 1).Misreported
      { HostState.new .default with memory := some ⟨0⟩ } fun _ => corruptMemory := by
  have hheader : HeaderFits (corruptMemory.range 0 21) := by decide
  have hsum : ¬SumFits (corruptMemory.range 0 21) := by decide
  have hvalid : ValidRange 0 21 1 4096 21 :=
    ⟨.inl rfl, by decide, by decide, by decide, by decide⟩
  exact ⟨⟨0⟩, rfl, .inr ⟨hvalid, hheader, hsum⟩⟩

theorem large_allocation_verdict :
    letI := HostArch.x86_64
    let out := (GuestCall.allocCap 70000).perform (.new .default) (fun _ => corruptMemory) 1
    ∃ event, out.2.1.telemetry.events = [event] ∧
      VerdictAgrees ((GuestCall.allocCap 70000).checks (.new .default) fun _ => corruptMemory)
        out.1 event := by
  let _ := HostArch.x86_64
  refine ⟨_, rfl, ?_⟩
  apply (import_verdicts_agree_iff (.allocCap 70000) (.new .default) (fun _ => corruptMemory) 1
    _ rfl).2
  rintro ⟨m, -, h⟩
  exact h

theorem corrupt_packet_skips_header :
    letI := HostArch.x86_64
    let state := { HostState.new .default with memory := some ⟨0⟩ }
    let call := GuestCall.acceptPacket 0 21 1
    let out := call.perform state (fun _ => corruptMemory) 1
    ∃ event, out.2.1.telemetry.events = [event] ∧
      ¬VerdictAgrees (call.checks state fun _ => corruptMemory) out.1 event := by
  let _ := HostArch.x86_64
  refine ⟨_, rfl, ?_⟩
  have hperformed := perform_performed (.acceptPacket 0 21 1)
    { HostState.new .default with memory := some ⟨0⟩ } (fun _ => corruptMemory) 1 _ rfl
  rw [hperformed.decision.verdict_iff hperformed.code_eq rfl]
  exact not_not_intro corrupt_memory_misreported

end WasmerSectest
