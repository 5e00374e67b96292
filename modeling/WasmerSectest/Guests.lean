import WasmerSectest.Abi
import WasmerSectest.Config

namespace WasmerSectest
set_option autoImplicit true

inductive CaseKind where
  | runExport
  | growthProbe
  | staticAudit
  deriving DecidableEq

inductive GuestSource where
  | wat (text : String)
  | wasm (bytes : List UInt8)
  deriving DecidableEq

/-- `GuestSource::wasm_bytes`, over the WAT parser `wat::parse_str`. -/
def GuestSource.wasmBytes (parseStr : String → Except String (List UInt8)) :
    GuestSource → Except String (List UInt8)
  | .wat text =>
    match parseStr text with
    | .ok bytes => .ok bytes
    | .error err => .error s!"WAT parse failed: {err}"
  | .wasm bytes => .ok bytes

structure GuestCase where
  name : String
  description : String
  expectedCode : Int32
  kind : CaseKind
  category : String
  severity : String
  control : String
  stage : String
  ttp : String
  detection : String
  sourcePath : String
  source : GuestSource
  deriving DecidableEq

structure ThreatIntel where
  stage : String
  ttp : String
  detection : String

def defaultThreatIntel (category : String) : ThreatIntel :=
  match category with
  | "abi" =>
    ⟨"abi probing", "guest-host-contract-abuse",
    "ABI gates reject malformed import arguments before host work"⟩
  | "capability" =>
    ⟨"capability escalation", "host-capability-abuse",
    "capability policy denies ungranted host-side authority"⟩
  | "resource" =>
    ⟨"resource pressure", "sandbox-resource-exhaustion",
    "resource gates deny CPU, memory, or allocation abuse"⟩
  | "memory" =>
    ⟨"memory-boundary probing", "guest-pointer-confusion",
    "memory gates deny unsafe linear-memory access"⟩
  | _ =>
    ⟨"host-boundary validation", "host-import-abuse",
    "host import telemetry records the boundary decision"⟩

def threatIntel (name category : String) : ThreatIntel :=
  match name with
  | "good_packet" | "boundary_valid_packet" | "capability_allowed" =>
    ⟨"baseline", "positive-control",
    "valid traffic proves controls are precise, not blanket-deny"⟩
  | "bad_version" =>
    ⟨"supply-chain validation", "abi-contract-drift",
    "unsupported guest ABI version is denied before payload parsing"⟩
  | "bad_magic" | "truncated_header" | "zero_length_packet" =>
    ⟨"payload validation", "malformed-abi-message",
    "fixed packet header gates reject malformed guest-controlled ranges"⟩
  | "body_len_mismatch" | "checksum_mismatch" =>
    ⟨"payload integrity", "schema-confusion",
    "nested packet length and checksum gates catch forged payload metadata"⟩
  | "unaligned_packet" | "invalid_align_param" =>
    ⟨"abi probing", "misaligned-host-read",
    "alignment gates reject invalid structured reads before memory access"⟩
  | "ptr_len_overflow" | "out_of_bounds" =>
    ⟨"memory-boundary probing", "guest-pointer-confusion",
    "checked arithmetic and MemoryView bounds gates deny unsafe ranges"⟩
  | "memory_grow_probe" =>
    ⟨"runtime state mutation", "linear-memory-growth",
    "telemetry records memory growth and fresh MemoryView reacquisition"⟩
  | "zero_copy_write_probe" =>
    ⟨"host-boundary validation", "guest-pointer-output-buffer",
    "host writes are scoped to validated MemoryView ranges and logged as direct memory writes"⟩
  | "capability_escape" | "path_traversal" | "null_byte_capability" =>
    ⟨"capability escalation", "host-capability-abuse",
    "exact allow-list capability checks deny path escape attempts"⟩
  | "invalid_utf8_path" =>
    ⟨"capability escalation", "string-decoder-confusion",
    "fallible UTF-8 decoding runs before capability policy decisions"⟩
  | "cap_string_too_large" =>
    ⟨"capability escalation", "oversized-string-copy",
    "string length cap denies copy before host allocation"⟩
  | "excessive_alloc" =>
    ⟨"resource pressure", "host-allocation-pressure",
    "allocation cap denies request before Vec reserve"⟩
  | "cpu_metered_loop" =>
    ⟨"resource pressure", "cooperative-cpu-exhaustion",
    "host.tick fuel records guest progress and denies after budget exhaustion"⟩
  | "non_cooperative_loop" =>
    ⟨"containment validation", "unmetered-cpu-loop",
    "static audit blocks in-process execution; supervisor can enforce timeout"⟩
  | "excessive_memory" =>
    ⟨"containment validation", "memory-declaration-abuse",
    "module audit rejects over-large memory before instantiation"⟩
  | _ => defaultThreatIntel category

def case (name description : String) (expectedCode : Int32) (kind : CaseKind)
    (category severity control wat : String) : GuestCase :=
  let intel := threatIntel name category
  { name, description, expectedCode, kind, category, severity, control,
    stage := intel.stage, ttp := intel.ttp, detection := intel.detection,
    sourcePath := s!"guests/{name}.wat", source := .wat wat }

section
variable (includeStr : String → String)

/-- The built-in cases; `includeStr` is the text of the guest file compiled into the program. -/
def allCases : List GuestCase :=
  [
    case "good_packet" "valid repr(C)-style packet, aligned ptr, checked checksum" Abi.ok
      .runExport "abi" "info" "positive control: valid packet crosses the boundary"
      (includeStr "../guests/good_packet.wat"),
    case "boundary_valid_packet" "valid packet placed near the end of linear memory" Abi.ok
      .runExport "memory" "info"
      "positive control: near-boundary reads are allowed only when fully in-bounds"
      (includeStr "../guests/boundary_valid_packet.wat"),
    case "unaligned_packet" "guest passes ptr+1 with align=8" Abi.errAlign .runExport "abi"
      "high" "reject misaligned structured ABI reads before touching memory"
      (includeStr "../guests/unaligned_packet.wat"),
    case "invalid_align_param" "guest passes unsupported alignment value align=3" Abi.errAlign
      .runExport "abi" "medium"
      "reject invalid ABI contracts rather than normalizing them silently"
      (includeStr "../guests/invalid_align_param.wat"),
    case "ptr_len_overflow" "ptr + len wraps 32-bit linear-memory address space" Abi.errBounds
      .runExport "memory" "critical" "use checked_add for every guest-controlled pointer range"
      (includeStr "../guests/ptr_len_overflow.wat"),
    case "out_of_bounds" "range fits u32 but exceeds current linear memory" Abi.errBounds
      .runExport "memory" "critical" "compare checked end offset against current MemoryView size"
      (includeStr "../guests/out_of_bounds.wat"),
    case "bad_magic" "aligned and in-bounds packet with invalid ABI magic" Abi.errHeader
      .runExport "abi" "medium" "validate fixed header magic before interpreting payload"
      (includeStr "../guests/bad_magic.wat"),
    case "bad_version" "valid magic with unsupported ABI version" Abi.errHeader .runExport "abi"
      "medium" "version explicit ABI formats and reject unsupported contracts"
      (includeStr "../guests/bad_version.wat"),
    case "body_len_mismatch" "packet declares a body length that does not match payload bytes"
      Abi.errHeader .runExport "abi" "high"
      "validate nested lengths after the outer range has passed"
      (includeStr "../guests/body_len_mismatch.wat"),
    case "checksum_mismatch" "packet body length is valid but checksum does not match"
      Abi.errHeader .runExport "integrity" "medium"
      "validate integrity fields after parsing little-endian layout"
      (includeStr "../guests/checksum_mismatch.wat"),
    case "packet_too_large" "guest asks host to copy more bytes than ABI policy allows"
      Abi.errTooLarge .runExport "resource" "high"
      "cap host-side copies before allocating buffers"
      (includeStr "../guests/packet_too_large.wat"),
    case "truncated_header" "guest points at too few bytes for the fixed ABI header"
      Abi.errHeader .runExport "abi" "medium"
      "minimum fixed-header length is checked before field reads"
      (includeStr "../guests/truncated_header.wat"),
    case "zero_length_packet" "guest passes an empty range to a structured packet import"
      Abi.errHeader .runExport "abi" "medium"
      "zero-length ranges cannot bypass minimum header validation"
      (includeStr "../guests/zero_length_packet.wat"),
    case "capability_escape" "guest asks host import for /etc/passwd without a capability"
      Abi.errCapability .runExport "capability" "critical"
      "default deny: no host path access without explicit allow-list"
      (includeStr "../guests/capability_escape.wat"),
    case "path_traversal" "guest tries a traversal-looking sandbox path" Abi.errCapability
      .runExport "capability" "high"
      "capability strings are exact grants, not path-prefix guesses"
      (includeStr "../guests/path_traversal.wat"),
    case "capability_allowed" "same import path shape, but with explicit allow-list capability"
      Abi.ok .runExport "capability" "info" "positive control: only the granted path is accepted"
      (includeStr "../guests/capability_allowed.wat"),
    case "null_byte_capability" "guest embeds a NUL byte after an allowed-looking path prefix"
      Abi.errCapability .runExport "capability" "high"
      "treat strings as length-delimited UTF-8, never C-string prefixes"
      (includeStr "../guests/null_byte_capability.wat"),
    case "invalid_utf8_path" "guest sends non-UTF8 bytes into a string ABI" Abi.errUtf8
      .runExport "capability" "medium"
      "decode guest strings as fallible UTF-8 before policy decisions"
      (includeStr "../guests/invalid_utf8_path.wat"),
    case "cap_string_too_large" "guest passes an oversized string length to a capability import"
      Abi.errTooLarge .runExport "resource" "high"
      "cap string lengths before copying guest memory"
      (includeStr "../guests/cap_string_too_large.wat"),
    case "excessive_alloc" "guest tries to force a large host allocation through an import"
      Abi.errAlloc .runExport "resource" "high"
      "apply allocation caps before Vec reserve or host-side allocation"
      (includeStr "../guests/excessive_alloc.wat"),
    case "cpu_metered_loop"
      "guest burns host fuel via tick import and gets stopped deterministically" Abi.errBudget
      .runExport "resource" "high"
      "budget guest-driven host imports; using Singlepass for JIT-bomb protection"
      (includeStr "../guests/cpu_metered_loop.wat"),
    case "excessive_memory" "guest requests more memory pages than policy allows"
      Abi.errTooLarge .runExport "resource" "high"
      "reject over-large memories during static module audit before instantiation"
      (includeStr "../guests/excessive_memory.wat"),
    case "non_cooperative_loop" "guest has an infinite loop and no cooperative tick import"
      Abi.errTimeout .staticAudit "resource" "high"
      "reject unmetered modules before an in-process run can hang the host"
      (includeStr "../guests/non_cooperative_loop.wat"),
    case "memory_grow_probe" "guest grows memory; host telemetry reacquires a fresh MemoryView"
      Abi.ok .growthProbe "memory" "high"
      "drop stale MemoryView state and reacquire views after guest calls"
      (includeStr "../guests/memory_grow_probe.wat"),
    case "zero_copy_write_probe" "host writes a marker directly into guest linear memory" Abi.ok
      .runExport "memory" "info"
      "positive control: host writes through a validated guest pointer without an intermediate buffer"
      (includeStr "../guests/zero_copy_write_probe.wat")
  ]

def findCase (name : String) : Option GuestCase :=
  (allCases includeStr).find? (·.name == name)

def interviewCases : List GuestCase :=
  ["good_packet", "ptr_len_overflow", "invalid_align_param", "out_of_bounds",
   "body_len_mismatch", "checksum_mismatch", "capability_escape", "capability_allowed",
   "null_byte_capability", "excessive_alloc", "cpu_metered_loop", "non_cooperative_loop",
   "excessive_memory", "zero_length_packet", "memory_grow_probe", "zero_copy_write_probe"].filterMap
    (findCase includeStr)

def campaignCases : List GuestCase :=
  ["good_packet", "bad_version", "body_len_mismatch", "checksum_mismatch", "ptr_len_overflow",
   "out_of_bounds", "capability_escape", "path_traversal", "null_byte_capability",
   "cap_string_too_large", "excessive_alloc", "cpu_metered_loop", "non_cooperative_loop",
   "excessive_memory", "memory_grow_probe", "zero_copy_write_probe"].filterMap
    (findCase includeStr)

def casesByCategory (categories : List String) : List GuestCase :=
  (allCases includeStr).filter (categories.contains ·.category)

def profileCases : Profile → List GuestCase
  | .all => allCases includeStr
  | .interview => interviewCases includeStr
  | .campaign => campaignCases includeStr
  | .abi => casesByCategory includeStr ["abi", "integrity"]
  | .capability => casesByCategory includeStr ["capability"]
  | .resource => casesByCategory includeStr ["resource"]
  | .memory => casesByCategory includeStr ["memory"]

end

end WasmerSectest
