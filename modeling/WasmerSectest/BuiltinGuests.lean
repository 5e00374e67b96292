import WasmerSectest.FailClosed
import WasmerSectest.ProgramExecution

namespace WasmerSectest
set_option autoImplicit true

open Wasm (Instr Plain)

/-- The imports that all guests but three declare, in this order. -/
def abiImports : List HostImport := [.acceptPacket, .readCap, .allocCap, .tick]

def singleCall (function : HostImport) (args : List UInt32) (data : List DataSegment)
    (h : ∀ segment ∈ data, segment.offset + segment.bytes.length ≤ 65536 := by decide) :
    Program where
  imports := abiImports
  memory := ⟨1, some 2⟩
  data := data
  run := args.map (fun value => .plain (.i32Const value)) ++
    [.plain (.call (abiImports.idxOf function))]
  data_fits := h

/-- The packet most guests carry, with its magic, version, body length and checksum. -/
def packetData (magic : List UInt8) (version bodyLen checksum : UInt8) : List UInt8 :=
  magic ++ [version, 0, 2, 0, bodyLen, 0, 0, 0, checksum, 1, 0, 0] ++ Utf8.bytes "HELLO"

def wireMagic : List UInt8 := [0x57, 0x53, 0x47, 0x54]

namespace BuiltinGuests

def goodPacket : Program := singleCall .acceptPacket [64, 21, 8] [⟨64, packetData wireMagic 1 5 0x74⟩]

def boundaryValidPacket : Program :=
  singleCall .acceptPacket [65504, 21, 8] [⟨65504, packetData wireMagic 1 5 0x74⟩]

def unalignedPacket : Program := singleCall .acceptPacket [65, 20, 8] [⟨64, packetData wireMagic 1 5 0x74⟩]

def invalidAlignParam : Program := singleCall .acceptPacket [64, 21, 3] [⟨64, packetData wireMagic 1 5 0x74⟩]

def ptrLenOverflow : Program := singleCall .acceptPacket [-16, 64, 8] []

def outOfBounds : Program := singleCall .acceptPacket [65520, 64, 8] []

def badMagic : Program :=
  singleCall .acceptPacket [128, 21, 8] [⟨128, packetData (Utf8.bytes "FAIL") 1 5 0x74⟩]

def badVersion : Program :=
  singleCall .acceptPacket [160, 21, 8] [⟨160, packetData wireMagic 2 5 0x74⟩]

def bodyLenMismatch : Program :=
  singleCall .acceptPacket [192, 21, 8] [⟨192, packetData wireMagic 1 8 0x74⟩]

def checksumMismatch : Program :=
  singleCall .acceptPacket [224, 21, 8] [⟨224, packetData wireMagic 1 5 0x75⟩]

def packetTooLarge : Program := singleCall .acceptPacket [64, 8192, 8] []

def truncatedHeader : Program :=
  singleCall .acceptPacket [256, 8, 8] [⟨256, wireMagic ++ [1, 0, 2, 0]⟩]

def zeroLengthPacket : Program := singleCall .acceptPacket [64, 0, 8] []

def capabilityEscape : Program :=
  singleCall .readCap [256, 11] [⟨256, Utf8.bytes "/etc/passwd"⟩]

def pathTraversal : Program :=
  singleCall .readCap [448, 22] [⟨448, Utf8.bytes "/sandbox/../etc/passwd"⟩]

def capabilityAllowed : Program :=
  singleCall .readCap [320, 20] [⟨320, Utf8.bytes "/sandbox/allowed.txt"⟩]

def nullByteCapability : Program :=
  singleCall .readCap [512, 38]
    [⟨512, Utf8.bytes "/sandbox/allowed.txt\x00/../../etc/passwd"⟩]

def invalidUtf8Path : Program := singleCall .readCap [384, 3] [⟨384, [0xff, 0xfe, 0xfd]⟩]

def capStringTooLarge : Program := singleCall .readCap [0, 300] []

def excessiveAlloc : Program := singleCall .allocCap [1073741824] []

def meteredRound : List Instr := [
  .plain (.call 3), .plain (.i32Const 0), .plain .i32LtS,
  .ite 0 [.plain (.i32Const (-6)), .return] [],
  .plain (.localGet 0), .plain (.i32Const 1), .plain .i32Add, .plain (.localTee 0),
  .plain (.i32Const 1000000), .plain .i32LtS, .brIf 0]

def cpuMeteredLoop : Program where
  imports := abiImports
  memory := ⟨1, some 2⟩
  locals := 1
  run := [.loop meteredRound, .plain (.i32Const 0)]

def excessiveMemory : Program where
  imports := []
  memory := ⟨100, some 200⟩
  run := [.plain (.i32Const 0)]

def nonCooperativeLoop : Program where
  imports := []
  memory := ⟨1, some 1⟩
  run := [.loop [.br 0], .plain (.i32Const 0)]

def memoryGrowProbe : Program where
  imports := abiImports
  memory := ⟨1, some 4⟩
  data := [⟨64, packetData wireMagic 1 5 0x74⟩]
  growOnly := some [.plain (.i32Const 1), .plain .memoryGrow]
  run := [
    .plain (.i32Const 1), .plain .memoryGrow, .plain .drop,
    .plain (.i32Const 64), .plain (.i32Const 21), .plain (.i32Const 8), .plain (.call 0)]
  data_fits := List.forall_mem_singleton.2 (by decide)

/-- A byte of the marker read back, and whether all were right so far in local 1. -/
def markerByte (address value : UInt32) : List Instr := [
  .plain (.i32Const address), .plain .i32Load8U, .plain (.i32Const value), .plain .i32Eq,
  .plain (.localGet 1), .plain .i32And, .plain (.localSet 1)]

def zeroCopyWriteProbe : Program where
  imports := [.writeMarker, .tick]
  memory := ⟨1, some 2⟩
  locals := 2
  run := [
    .plain (.i32Const 128), .plain (.i32Const 4), .plain (.i32Const 4), .plain (.call 0),
    .plain (.localSet 0), .plain (.localGet 0), .plain (.i32Const 0), .plain .i32Ne,
    .ite 1 [.plain (.localGet 0)]
      ([.plain (.i32Const 1), .plain (.localSet 1)] ++ markerByte 128 87 ++
        markerByte 129 83 ++ markerByte 130 69 ++ markerByte 131 67 ++
        [.plain (.localGet 1), .ite 1 [.plain (.i32Const 0)] [.plain (.i32Const (-7))]])]

end BuiltinGuests

open BuiltinGuests

/-- The guest file behind a built-in case. -/
def builtinGuest (name : String) : Option Program :=
  match name with
  | "good_packet" => some goodPacket
  | "boundary_valid_packet" => some boundaryValidPacket
  | "unaligned_packet" => some unalignedPacket
  | "invalid_align_param" => some invalidAlignParam
  | "ptr_len_overflow" => some ptrLenOverflow
  | "out_of_bounds" => some outOfBounds
  | "bad_magic" => some badMagic
  | "bad_version" => some badVersion
  | "body_len_mismatch" => some bodyLenMismatch
  | "checksum_mismatch" => some checksumMismatch
  | "packet_too_large" => some packetTooLarge
  | "truncated_header" => some truncatedHeader
  | "zero_length_packet" => some zeroLengthPacket
  | "capability_escape" => some capabilityEscape
  | "path_traversal" => some pathTraversal
  | "capability_allowed" => some capabilityAllowed
  | "null_byte_capability" => some nullByteCapability
  | "invalid_utf8_path" => some invalidUtf8Path
  | "cap_string_too_large" => some capStringTooLarge
  | "excessive_alloc" => some excessiveAlloc
  | "cpu_metered_loop" => some cpuMeteredLoop
  | "excessive_memory" => some excessiveMemory
  | "non_cooperative_loop" => some nonCooperativeLoop
  | "memory_grow_probe" => some memoryGrowProbe
  | "zero_copy_write_probe" => some zeroCopyWriteProbe
  | _ => none

end WasmerSectest
