import WasmerSectest.Lib.Decimal
import WasmerSectest.Lib.LittleEndian
import WasmerSectest.Telemetry

namespace WasmerSectest
set_option autoImplicit true

namespace Abi

def ok : Int32 := 0
def errBounds : Int32 := -1
def errAlign : Int32 := -2
def errHeader : Int32 := -3
def errCapability : Int32 := -4
def errAlloc : Int32 := -5
def errBudget : Int32 := -6
def errInternal : Int32 := -7
def errTooLarge : Int32 := -8
def errUtf8 : Int32 := -9
def errTimeout : Int32 := -10

def packetMagic : UInt32 := 0x54475357
def packetHeaderLen : Nat := 16

end Abi

inductive AbiError where
  | missingMemory
  | invalidAlignment (align : UInt32)
  | misaligned (ptr align : UInt32)
  | ptrLenOverflow (ptr len : UInt32)
  | outOfBounds (ptr len stop : UInt32) (memorySize : UInt64)
  | tooLarge (len max : UInt32)
  | memoryRead (err : String)
  | packetTooShort (len : Nat)
  | badMagic (magic : UInt32)
  | badVersion (version : UInt16)
  | packetLengthMismatch (declared : UInt32) (actual : Nat)
  | badChecksum (expected actual : UInt32)
  | invalidUtf8
  | capabilityDenied (path : String)
  | allocationTooLarge (requested max : UInt32)
  | budgetExhausted
  deriving DecidableEq

def AbiError.code : AbiError → Int32
  | .outOfBounds .. | .ptrLenOverflow .. => Abi.errBounds
  | .invalidAlignment _ | .misaligned .. => Abi.errAlign
  | .packetTooShort _ | .badMagic _ | .badVersion _ | .packetLengthMismatch ..
  | .badChecksum .. => Abi.errHeader
  | .capabilityDenied _ => Abi.errCapability
  | .allocationTooLarge .. => Abi.errAlloc
  | .budgetExhausted => Abi.errBudget
  | .tooLarge .. => Abi.errTooLarge
  | .invalidUtf8 => Abi.errUtf8
  | .missingMemory | .memoryRead _ => Abi.errInternal

def AbiError.gate : AbiError → String
  | .missingMemory => "memory.export"
  | .invalidAlignment _ | .misaligned .. => "alignment"
  | .ptrLenOverflow .. => "checked_add"
  | .outOfBounds .. => "bounds"
  | .tooLarge .. => "max_len"
  | .memoryRead _ => "memory.read"
  | .packetTooShort _ | .badMagic _ | .badVersion _ | .packetLengthMismatch .. =>
    "packet.header"
  | .badChecksum .. => "packet.checksum"
  | .invalidUtf8 => "utf8"
  | .capabilityDenied _ => "capability"
  | .allocationTooLarge .. => "alloc.cap"
  | .budgetExhausted => "fuel"

/-- Lower-case hexadecimal, padded with zeros to the given width. -/
def hexPad (width n : Nat) : String :=
  let digits := Nat.toDigits 16 n
  String.ofList (List.replicate (width - digits.length) '0' ++ digits)

def hex8 (n : UInt32) : String := hexPad 8 n.toNat

def hex4 (n : UInt16) : String := hexPad 4 n.toNat

/-- `char::escape_default`: printable ASCII stands for itself. -/
def escapeDefault (c : Char) : List Char :=
  if c = '\t' then ['\\', 't']
  else if c = '\r' then ['\\', 'r']
  else if c = '\n' then ['\\', 'n']
  else if c = '\'' ∨ c = '"' ∨ c = '\\' then ['\\', c]
  else if 0x20 ≤ c.toNat ∧ c.toNat ≤ 0x7e then [c]
  else ['\\', 'u', '\x7b'] ++ Nat.toDigits 16 c.toNat ++ ['\x7d']

def escapeGuestString (value : String) : String :=
  String.ofList (value.toList.flatMap escapeDefault)

def AbiError.display : AbiError → String
  | .missingMemory => "guest did not export linear memory"
  | .invalidAlignment align => s!"invalid alignment {align}"
  | .misaligned ptr align => s!"ptr 0x{hex8 ptr} is not aligned to {align}"
  | .ptrLenOverflow ptr len => s!"ptr + len overflow: 0x{hex8 ptr} + {len}"
  | .outOfBounds ptr len stop memorySize =>
    s!"range [0x{hex8 ptr}, 0x{hex8 stop}) len={len} exceeds memory_size={memorySize}"
  | .tooLarge len max => s!"len {len} exceeds policy max {max}"
  | .memoryRead err => s!"memory read failed: {err}"
  | .packetTooShort len => s!"packet len {len} smaller than {Abi.packetHeaderLen}-byte header"
  | .badMagic magic => s!"bad packet magic 0x{hex8 magic}"
  | .badVersion version => s!"unsupported packet version {version}"
  | .packetLengthMismatch declared actual =>
    s!"packet body_len declared {declared}, actual payload bytes {actual}"
  | .badChecksum expected actual =>
    s!"bad checksum expected 0x{hex8 expected}, actual 0x{hex8 actual}"
  | .invalidUtf8 => "guest bytes are not valid UTF-8"
  | .capabilityDenied path => s!"capability denied for {escapeGuestString path}"
  | .allocationTooLarge requested max => s!"allocation request {requested} exceeds cap {max}"
  | .budgetExhausted => "guest fuel budget exhausted"

instance : ToString AbiError := ⟨AbiError.display⟩

structure GuestRange where
  ptr : UInt32
  len : UInt32
  «end» : UInt32
  offset : UInt64
  deriving DecidableEq

def checkedAdd (a b : UInt32) : Option UInt32 :=
  if a.toNat + b.toNat < 2 ^ 32 then some (a + b) else none

def checkedGuestRange (ptr len align : UInt32) (memorySize : UInt64) (maxLen : UInt32) :
    Except AbiError GuestRange :=
  if ¬(align = 1 ∨ align = 2 ∨ align = 4 ∨ align = 8 ∨ align = 16) then
    .error (.invalidAlignment align)
  else if len > maxLen then .error (.tooLarge len maxLen)
  else if align > 1 ∧ ptr % align ≠ 0 then .error (.misaligned ptr align)
  else
    match checkedAdd ptr len with
    | none => .error (.ptrLenOverflow ptr len)
    | some stop =>
      if stop.toUInt64 > memorySize then .error (.outOfBounds ptr len stop memorySize)
      else .ok ⟨ptr, len, stop, ptr.toUInt64⟩

structure Packet where
  version : UInt16
  flags : UInt16
  bodyLen : UInt32
  checksum : UInt32
  deriving DecidableEq

/-- `u16::from_le_bytes` on a slice, which must be exactly two bytes long. -/
def u16FromLeBytes (bytes : List UInt8) : Option UInt16 :=
  if bytes.length = 2 then some (UInt16.ofNat (LittleEndian.decode bytes)) else none

/-- `u32::from_le_bytes` on a slice, which must be exactly four bytes long. -/
def u32FromLeBytes (bytes : List UInt8) : Option UInt32 :=
  if bytes.length = 4 then some (UInt32.ofNat (LittleEndian.decode bytes)) else none

def slice (bytes : List UInt8) (start stop : Nat) : List UInt8 :=
  (bytes.drop start).take (stop - start)

def checksum32 (bytes : List UInt8) : UInt32 :=
  bytes.foldl (fun acc byte => acc + byte.toUInt32) 0

def parsePacket (bytes : List UInt8) : Except AbiError Packet := do
  if bytes.length < Abi.packetHeaderLen then
    throw (.packetTooShort bytes.length)
  let short := AbiError.packetTooShort bytes.length
  let some magic := u32FromLeBytes (slice bytes 0 4) | throw short
  if magic ≠ Abi.packetMagic then
    throw (.badMagic magic)
  let some version := u16FromLeBytes (slice bytes 4 6) | throw short
  if version ≠ 1 then
    throw (.badVersion version)
  let some flags := u16FromLeBytes (slice bytes 6 8) | throw short
  let some bodyLen := u32FromLeBytes (slice bytes 8 12) | throw short
  let some checksum := u32FromLeBytes (slice bytes 12 16) | throw short
  let body := bytes.drop Abi.packetHeaderLen
  if body.length ≠ bodyLen.toNat then
    throw (.packetLengthMismatch bodyLen body.length)
  let actual := checksum32 body
  if checksum ≠ actual then
    throw (.badChecksum checksum actual)
  pure ⟨version, flags, bodyLen, checksum⟩

def codeName (code : Int32) : String :=
  if code = Abi.ok then "OK"
  else if code = Abi.errBounds then "ERR_BOUNDS"
  else if code = Abi.errAlign then "ERR_ALIGN"
  else if code = Abi.errHeader then "ERR_HEADER"
  else if code = Abi.errCapability then "ERR_CAPABILITY"
  else if code = Abi.errAlloc then "ERR_ALLOC"
  else if code = Abi.errBudget then "ERR_BUDGET"
  else if code = Abi.errInternal then "ERR_INTERNAL"
  else if code = Abi.errTooLarge then "ERR_TOO_LARGE"
  else if code = Abi.errUtf8 then "ERR_UTF8"
  else if code = Abi.errTimeout then "ERR_TIMEOUT"
  else "UNKNOWN"

def parseCodeName (value : String) : Option Int32 :=
  match value with
  | "OK" => some Abi.ok
  | "ERR_BOUNDS" => some Abi.errBounds
  | "ERR_ALIGN" => some Abi.errAlign
  | "ERR_HEADER" => some Abi.errHeader
  | "ERR_CAPABILITY" => some Abi.errCapability
  | "ERR_ALLOC" => some Abi.errAlloc
  | "ERR_BUDGET" => some Abi.errBudget
  | "ERR_INTERNAL" => some Abi.errInternal
  | "ERR_TOO_LARGE" => some Abi.errTooLarge
  | "ERR_UTF8" => some Abi.errUtf8
  | "ERR_TIMEOUT" => some Abi.errTimeout
  | _ => (Decimal.parseSigned (2 ^ 31) value.toList).map Int32.ofInt

end WasmerSectest
