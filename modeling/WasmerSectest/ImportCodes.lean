import WasmerSectest.FuelContract
import WasmerSectest.ImportDecisions

namespace WasmerSectest
set_option autoImplicit true

/-- The code of an access to a memory of the given size, where `judge` is the code for the
bytes of a range that is accepted. -/
def rangeCode (ptr len align maxLen : UInt32) (size : UInt64) (judge : Int32) : Int32 :=
  match checkedGuestRange ptr len align size maxLen with
  | .ok _ => judge
  | .error err => err.code

def packetCode (bytes : List UInt8) : Int32 :=
  match parsePacket bytes with
  | .ok _ => Abi.ok
  | .error err => err.code

def capabilityCode (policy : Policy) (bytes : List UInt8) : Int32 :=
  match Utf8.fromUtf8 bytes with
  | some path => if path ∈ policy.allowedPaths then Abi.ok else Abi.errCapability
  | none => Abi.errUtf8

/-- The code an import gives to a guest that has all its fuel, given its memory. -/
def GuestCall.code (policy : Policy) (view : LinearMemory) : GuestCall → Int32
  | .acceptPacket ptr len align =>
    rangeCode ptr len align policy.maxPacketLen view.dataSize (packetCode (view.range ptr len))
  | .readCap ptr len =>
    rangeCode ptr len 1 policy.maxCapStringLen view.dataSize
      (capabilityCode policy (view.range ptr len))
  | .allocCap requested => if requested > policy.maxAlloc then Abi.errAlloc else Abi.ok
  | .writeMarker ptr len align =>
    rangeCode ptr len align 4 view.dataSize
      (if (view.range ptr len).length = 4 then Abi.ok else Abi.errHeader)
  | .tick => if policy.initialFuel = 0 then Abi.errBudget else Abi.ok

theorem rangeCode_judged (h : ValidRange ptr len align maxLen size.toNat) (judge : Int32) :
    rangeCode ptr len align maxLen size judge = judge := by
  rw [rangeCode, checkedGuestRange_valid h]

theorem rangeCode_maxLen (ha : SupportedAlign align) (ptr len maxLen : UInt32) (size : UInt64)
    (judge : Int32) : rangeCode ptr len align maxLen size judge =
      if len > maxLen then Abi.errTooLarge else rangeCode ptr len align len size judge := by
  have hsupported : align = 1 ∨ align = 2 ∨ align = 4 ∨ align = 8 ∨ align = 16 := ha
  have hself : ¬len > len := UInt32.lt_irrefl len
  by_cases hl : len > maxLen
  · rw [rangeCode, checkedGuestRange, if_neg (not_not_intro hsupported), if_pos hl, if_pos hl]
    rfl
  · rw [rangeCode, rangeCode, checkedGuestRange, checkedGuestRange, if_neg hl, if_neg hl,
      if_neg hself]

theorem rangeCode_refused (h : ¬ValidRange ptr len align maxLen size.toNat) (judge : Int32) :
    ∃ e, validateRange ptr len align size maxLen = .error e ∧
      rangeCode ptr len align maxLen size judge = e.1.code := by
  obtain ⟨err, -, he⟩ := validateRange_refused h
  refine ⟨_, he, ?_⟩
  rw [validateRange] at he
  cases hc : checkedGuestRange ptr len align size maxLen with
  | ok range =>
    rw [hc] at he
    cases he
  | error err' =>
    rw [hc] at he
    rw [rangeCode, hc, ← congrArg Prod.fst (Except.error.inj he)]

theorem validatePacketFromGuest_code (guest : GuestBytes) :
    (validatePacketFromGuest guest).1 = packetCode guest.bytes := by
  rw [validatePacketFromGuest, packetCode]
  cases parsePacket guest.bytes <;> rfl

theorem validateCapabilityFromGuest_code (policy : Policy) (guest : GuestBytes) :
    (validateCapabilityFromGuest policy guest).1 = capabilityCode policy guest.bytes := by
  rw [validateCapabilityFromGuest, capabilityCode]
  cases Utf8.fromUtf8 guest.bytes with
  | none => rfl
  | some path =>
    dsimp only
    by_cases ha : path ∈ policy.allowedPaths
    · rw [if_pos ((policy.isPathAllowed_iff path).2 ha), if_pos ha]
    · rw [if_neg (mt (policy.isPathAllowed_iff path).1 ha), if_neg ha]
      rfl

theorem writeMarkerToGuest_code (guest : GuestBytes) : (writeMarkerToGuest guest).1.1 =
    if guest.bytes.length = 4 then Abi.ok else Abi.errHeader := by
  have hlen : hostWriteMarkerBytes.length = 4 := rfl
  rw [writeMarkerToGuest]
  by_cases hl : guest.bytes.length = 4
  · rw [dif_pos (hlen ▸ hl), if_pos hl]
  · rw [dif_neg (hlen ▸ hl), if_neg hl]

section
variable [HostArch]

theorem withGuestBytes_code (m : Memory) (store : Store) (ptr len align maxLen : UInt32)
    (read : GuestBytes → Outcome) :
    (rangeOutcome (withGuestBytes (some m) store ptr len align maxLen read)).1 =
      rangeCode ptr len align maxLen (m.view store).dataSize
        (read ((m.view store).lend ptr len "memory.read")).1 := by
  by_cases hv : ValidRange ptr len align maxLen (m.view store).dataSize.toNat
  · rw [rangeCode_judged hv, withGuestBytes_valid ((m.view store).toNat_dataSize ▸ hv)]
    rfl
  · obtain ⟨e, he, hcode⟩ :=
      rangeCode_refused hv (read ((m.view store).lend ptr len "memory.read")).1
    rw [withGuestBytes_refused he, hcode]
    rfl

theorem writeMarker_code (m : Memory) (store : Store) (ptr len align : UInt32) :
    (rangeOutcome (withGuestBytesMut (some m) store ptr len align 4 writeMarkerToGuest).1).1 =
      rangeCode ptr len align 4 (m.view store).dataSize
        (if ((m.view store).range ptr len).length = 4 then Abi.ok else Abi.errHeader) := by
  by_cases hv : ValidRange ptr len align 4 (m.view store).dataSize.toNat
  · rw [rangeCode_judged hv, withGuestBytesMut_valid ((m.view store).toNat_dataSize ▸ hv)]
    exact writeMarkerToGuest_code ((m.view store).lend ptr len "memory.write")
  · obtain ⟨e, he, hcode⟩ := rangeCode_refused hv
      (if ((m.view store).range ptr len).length = 4 then Abi.ok else Abi.errHeader)
    rw [withGuestBytesMut_refused he, hcode]
    rfl

/-- A guest that has not used fuel is answered from the policy and its memory alone. -/
theorem GuestCall.perform_code (call : GuestCall) {state : HostState} {m : Memory}
    (hm : state.memory = some m) (hfuel : state.fuelRemaining = state.policy.initialFuel)
    (store : Store) (elapsedUs : U128) :
    (call.perform state store elapsedUs).1 = call.code state.policy (m.view store) := by
  cases call with
  | acceptPacket ptr len align =>
    change (rangeOutcome (withGuestBytes state.memory _ _ _ _ _ _)).1 = _
    rw [hm, withGuestBytes_code, validatePacketFromGuest_code]
    rfl
  | readCap ptr len =>
    change (rangeOutcome (withGuestBytes state.memory _ _ _ _ _ _)).1 = _
    rw [hm, withGuestBytes_code, validateCapabilityFromGuest_code]
    rfl
  | allocCap requested =>
    change (hostAllocCap _ requested elapsedUs).1 = _
    rw [hostAllocCap, code]
    by_cases hr : requested > state.policy.maxAlloc
    · rw [if_pos hr, if_pos hr]
      rfl
    · rw [if_neg hr, if_neg hr]
  | writeMarker ptr len align =>
    have haccess : ((writeMarker ptr len align).perform state store elapsedUs).1 =
      (rangeOutcome (withGuestBytesMut state.memory store ptr len align 4
        writeMarkerToGuest).1).1 := rfl
    rw [haccess, hm]
    exact writeMarker_code m store ptr len align
  | tick =>
    change (hostTick _ elapsedUs).1 = _
    rw [code, ← hfuel]
    by_cases hf : state.fuelRemaining = 0
    · obtain ⟨event, -, he⟩ := hostTick_exhausted state elapsedUs hf
      rw [if_pos hf, he]
    · rw [if_neg hf]
      cases hr : shouldRecordTick state.countTick.telemetry.ticksSeen Abi.ok with
      | true =>
        obtain ⟨event, -, he⟩ := hostTick_recorded state elapsedUs hf hr
        rw [he]
      | false => rw [hostTick_silent state elapsedUs hf hr]

end

end WasmerSectest
