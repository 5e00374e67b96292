import WasmerSectest.Memory
import WasmerSectest.Policy
import WasmerSectest.Lib.Utf8

namespace WasmerSectest
set_option autoImplicit true

def hostWriteMarkerBytes : List UInt8 := [0x57, 0x53, 0x45, 0x43]

structure HostState where
  memory : Option Memory
  policy : Policy
  telemetry : Telemetry
  fuelRemaining : UInt32

def HostState.new (policy : Policy) : HostState where
  memory := none
  policy := policy
  telemetry := {}
  fuelRemaining := policy.initialFuel

def HostState.record (state : HostState) (event : ImportEvent) : HostState :=
  { state with telemetry := state.telemetry.push event }

/-- What a validator decides: code, memory size, gates and detail of the event to come. -/
abbrev Outcome := Int32 × Option UInt64 × List Gate × String

def rangeOutcome : Except GuestAccessErr Outcome → Outcome
  | .ok outcome => outcome
  | .error (err, memorySize, gates) => (err.code, memorySize, gates, s!"range rejected: {err}")

def validatePacketFromGuest (guest : GuestBytes) : Outcome :=
  match parsePacket guest.bytes with
  | .ok packet =>
    (Abi.ok, some guest.memorySize,
      guest.gates ++ [.pass "packet.header", .pass "packet.checksum"],
      s!"packet ptr=0x{hex8 guest.range.ptr} end=0x{hex8 guest.range.end} " ++
        s!"version={packet.version} flags=0x{hex4 packet.flags} " ++
        s!"body_len={packet.bodyLen} checksum=0x{hex8 packet.checksum}")
  | .error err =>
    (err.code, some guest.memorySize, guest.gates ++ [.fail err.gate],
      s!"packet rejected: {err}")

def validateCapabilityFromGuest (policy : Policy) (guest : GuestBytes) : Outcome :=
  match Utf8.fromUtf8 guest.bytes with
  | some path =>
    if policy.isPathAllowed path then
      (Abi.ok, some guest.memorySize, guest.gates ++ [.pass "utf8", .pass "capability"],
        s!"path capability allowed ptr=0x{hex8 guest.range.ptr} " ++
          s!"end=0x{hex8 guest.range.end} path={path}")
    else
      let err := AbiError.capabilityDenied path
      (err.code, some guest.memorySize, guest.gates ++ [.pass "utf8", .fail err.gate],
        s!"path rejected: {err}")
  | none =>
    let err := AbiError.invalidUtf8
    (err.code, some guest.memorySize, guest.gates ++ [.fail err.gate],
      s!"string rejected: {err}")

def writeMarkerToGuest (guest : GuestBytes) : Outcome × Written guest :=
  if h : guest.bytes.length = hostWriteMarkerBytes.length then
    ((Abi.ok, some guest.memorySize, guest.gates ++ [.pass "marker.write"],
      s!"marker written directly into guest memory ptr=0x{hex8 guest.range.ptr} " ++
        s!"end=0x{hex8 guest.range.end}"), ⟨hostWriteMarkerBytes, h.symm⟩)
  else
    ((Abi.errHeader, some guest.memorySize, guest.gates ++ [.fail "marker.len"],
      s!"marker write rejected: len={guest.bytes.length} " ++
        s!"required={hostWriteMarkerBytes.length}"), ⟨guest.bytes, rfl⟩)

def saturatingAdd (a b : UInt32) : UInt32 := (checkedAdd a b).getD (UInt32.ofNat (2 ^ 32 - 1))

def shouldRecordTick (tick : UInt32) (result : Int32) : Bool :=
  result != Abi.ok || tick ≤ 5 || tick % 64 == 0

section
variable [HostArch]

def hostAcceptPacket (state : HostState) (store : Store) (ptr len align : UInt32)
    (elapsedUs : U128) : Int32 × HostState :=
  let (result, memorySize, gates, detail) := rangeOutcome
    (withGuestBytes state.memory store ptr len align state.policy.maxPacketLen
      validatePacketFromGuest)
  (result, state.record {
    «import» := "host.accept_packet", ptr := some ptr, len := some len, align := some align,
    memorySize, resultCode := result, detail, elapsedUs, gates })

def hostReadCap (state : HostState) (store : Store) (ptr len : UInt32) (elapsedUs : U128) :
    Int32 × HostState :=
  let (result, memorySize, gates, detail) := rangeOutcome
    (withGuestBytes state.memory store ptr len 1 state.policy.maxCapStringLen
      (validateCapabilityFromGuest state.policy))
  (result, state.record {
    «import» := "host.read_cap", ptr := some ptr, len := some len, align := some 1,
    memorySize, resultCode := result, detail, elapsedUs, gates })

def hostWriteMarker (state : HostState) (store : Store) (ptr len align : UInt32)
    (elapsedUs : U128) : Int32 × HostState × Store :=
  let (access, store) := withGuestBytesMut state.memory store ptr len align
    (UInt32.ofNat hostWriteMarkerBytes.length) writeMarkerToGuest
  let (result, memorySize, gates, detail) := rangeOutcome access
  (result, state.record {
    «import» := "host.write_marker", ptr := some ptr, len := some len, align := some align,
    memorySize, resultCode := result, detail, elapsedUs, gates }, store)

end

def hostAllocCap (state : HostState) (requested : UInt32) (elapsedUs : U128) :
    Int32 × HostState :=
  let (result, gates, detail) :=
    if requested > state.policy.maxAlloc then
      let err := AbiError.allocationTooLarge requested state.policy.maxAlloc
      (err.code, [Gate.fail err.gate], s!"allocation rejected before Vec reserve: {err}")
    else
      (Abi.ok, [Gate.pass "alloc.cap"],
        s!"allocation request {requested} within cap {state.policy.maxAlloc}")
  (result, state.record {
    «import» := "host.alloc_cap", ptr := none, len := some requested, align := none,
    memorySize := none, resultCode := result, detail, elapsedUs, gates })

def HostState.countTick (state : HostState) : HostState :=
  { state with telemetry :=
      { state.telemetry with ticksSeen := saturatingAdd state.telemetry.ticksSeen 1 } }

def hostTick (state : HostState) (elapsedUs : U128) : Int32 × HostState :=
  let state := state.countTick
  let ticksSeen := state.telemetry.ticksSeen
  let (result, gates, detail, state) :=
    if state.fuelRemaining = 0 then
      let err := AbiError.budgetExhausted
      (err.code, [Gate.fail err.gate], s!"fuel exhausted after {ticksSeen} guest ticks", state)
    else
      let state := { state with fuelRemaining := state.fuelRemaining - 1 }
      (Abi.ok, [Gate.pass "fuel"],
        s!"fuel tick={ticksSeen} remaining={state.fuelRemaining}", state)
  if shouldRecordTick ticksSeen result then
    (result, state.record {
      «import» := "host.tick", ptr := none, len := none, align := none, memorySize := none,
      resultCode := result, detail, elapsedUs, gates })
  else (result, state)

/-- The host imports a guest can call, with their arguments. -/
inductive GuestCall where
  | acceptPacket (ptr len align : UInt32)
  | readCap (ptr len : UInt32)
  | allocCap (requested : UInt32)
  | writeMarker (ptr len align : UInt32)
  | tick
  deriving DecidableEq

def GuestCall.import : GuestCall → String
  | .acceptPacket .. => "host.accept_packet"
  | .readCap .. => "host.read_cap"
  | .allocCap .. => "host.alloc_cap"
  | .writeMarker .. => "host.write_marker"
  | .tick => "host.tick"

/-- The import object: which host function answers a call. -/
def GuestCall.perform [HostArch] (call : GuestCall) (state : HostState) (store : Store)
    (elapsedUs : U128) : Int32 × HostState × Store :=
  match call with
  | .acceptPacket ptr len align =>
    let (result, state) := hostAcceptPacket state store ptr len align elapsedUs
    (result, state, store)
  | .readCap ptr len =>
    let (result, state) := hostReadCap state store ptr len elapsedUs
    (result, state, store)
  | .allocCap requested =>
    let (result, state) := hostAllocCap state requested elapsedUs
    (result, state, store)
  | .writeMarker ptr len align => hostWriteMarker state store ptr len align elapsedUs
  | .tick =>
    let (result, state) := hostTick state elapsedUs
    (result, state, store)

end WasmerSectest
