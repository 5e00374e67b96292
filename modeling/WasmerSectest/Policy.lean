import WasmerSectest.Lib.Decimal
import WasmerSectest.Lib.Text

namespace WasmerSectest
set_option autoImplicit true

structure Policy where
  maxPacketLen : UInt32
  maxCapStringLen : UInt32
  maxAlloc : UInt32
  initialFuel : UInt32
  maxMemoryPages : UInt32
  requireTickImport : Bool
  supervisorTimeoutMs : UInt64
  allowedPaths : List String
  deriving DecidableEq

namespace Policy

def default : Policy where
  maxPacketLen := 4096
  maxCapStringLen := 256
  maxAlloc := 64 * 1024
  initialFuel := 256
  maxMemoryPages := 16
  requireTickImport := true
  supervisorTimeoutMs := 250
  allowedPaths := ["/sandbox/allowed.txt"]

def isPathAllowed (policy : Policy) (path : String) : Bool :=
  policy.allowedPaths.any (· == path)

theorem isPathAllowed_iff (policy : Policy) (path : String) :
    policy.isPathAllowed path = true ↔ path ∈ policy.allowedPaths := by
  rw [isPathAllowed, List.any_eq_true]
  apply Iff.intro
  · intro ⟨allowed, hm, he⟩
    exact eq_of_beq he ▸ hm
  · intro hm
    exact ⟨path, hm, beq_self_eq_true path⟩

def parseU32 (value : List Char) (lineNumber : Nat) (key : String) : Except String UInt32 :=
  match Decimal.parseUnsigned (2 ^ 32) value with
  | some n => .ok (UInt32.ofNat n)
  | none =>
    .error s!"line {lineNumber}: invalid {key}: {Decimal.unsignedError (2 ^ 32) value}"

def parseU64 (value : List Char) (lineNumber : Nat) (key : String) : Except String UInt64 :=
  match Decimal.parseUnsigned (2 ^ 64) value with
  | some n => .ok (UInt64.ofNat n)
  | none =>
    .error s!"line {lineNumber}: invalid {key}: {Decimal.unsignedError (2 ^ 64) value}"

def parseBool (value : List Char) (lineNumber : Nat) (key : String) : Except String Bool :=
  if value = "true".toList then .ok true
  else if value = "false".toList then .ok false
  else .error s!"line {lineNumber}: invalid {key}: expected true or false"

def skipWsAndCommas (chars : List Char) : List Char :=
  chars.dropWhile fun ch => Text.isWhitespace ch || ch = ','

def skipWs (chars : List Char) : List Char := chars.dropWhile Text.isWhitespace

/-- The rest of a quoted string: what it decodes to, and the characters after it. -/
def readQuoted (lineNumber : Nat) : List Char → Except String (List Char × List Char)
  | [] => .error s!"line {lineNumber}: unterminated string"
  | '"' :: chars => .ok ([], chars)
  | '\\' :: [] => .error s!"line {lineNumber}: trailing escape in string"
  | '\\' :: escaped :: chars => do
    let ch ← match escaped with
      | '"' => pure '"'
      | '\\' => pure '\\'
      | 'n' => pure '\n'
      | 'r' => pure '\r'
      | 't' => pure '\t'
      | other => throw s!"line {lineNumber}: unsupported escape \\{other}"
    let (path, rest) ← readQuoted lineNumber chars
    return (ch :: path, rest)
  | ch :: chars => do
    let (path, rest) ← readQuoted lineNumber chars
    return (ch :: path, rest)

/-- The entries of the array; each takes at least its two quotes, so the fuel suffices. -/
def parseEntries (lineNumber : Nat) : Nat → List Char → Except String (List String)
  | 0, _ => .ok []
  | fuel + 1, chars =>
    match skipWsAndCommas chars with
    | [] => .ok []
    | '"' :: chars => do
      let (path, rest) ← readQuoted lineNumber chars
      match skipWs rest with
      | [] => return [String.ofList path]
      | ',' :: rest =>
        let paths ← parseEntries lineNumber fuel (',' :: rest)
        return String.ofList path :: paths
      | _ => throw s!"line {lineNumber}: expected comma after allowed path"
    | _ => .error s!"line {lineNumber}: allowed_paths entries must be quoted strings"

def parseStringArray (value : List Char) (lineNumber : Nat) : Except String (List String) :=
  let value := Text.trim value
  if value.head? ≠ some '[' ∨ value.getLast? ≠ some ']' then
    .error s!"line {lineNumber}: allowed_paths must be a string array"
  else
    let inner := value.tail.dropLast
    parseEntries lineNumber inner.length inner

/-- One `key = value` line. -/
def applyKey (policy : Policy) (lineNumber : Nat) (key : String) (value : List Char) :
    Except String Policy := do
  match key with
  | "max_packet_len" => return { policy with maxPacketLen := ← parseU32 value lineNumber key }
  | "max_cap_string_len" =>
    return { policy with maxCapStringLen := ← parseU32 value lineNumber key }
  | "max_alloc" => return { policy with maxAlloc := ← parseU32 value lineNumber key }
  | "initial_fuel" => return { policy with initialFuel := ← parseU32 value lineNumber key }
  | "max_memory_pages" =>
    return { policy with maxMemoryPages := ← parseU32 value lineNumber key }
  | "require_tick_import" =>
    return { policy with requireTickImport := ← parseBool value lineNumber key }
  | "supervisor_timeout_ms" =>
    return { policy with supervisorTimeoutMs := ← parseU64 value lineNumber key }
  | "allowed_paths" =>
    return { policy with allowedPaths := ← parseStringArray value lineNumber }
  | other => throw s!"line {lineNumber}: unsupported key '{other}'"

def applyLine (policy : Policy) (lineNumber : Nat) (rawLine : List Char) :
    Except String Policy :=
  let line := Text.trim (rawLine.takeWhile (· ≠ '#'))
  if line = [] then .ok policy
  else
    match Text.splitOnce '=' line with
    | none => .error s!"line {lineNumber}: expected key = value"
    | some (key, value) =>
      policy.applyKey lineNumber (String.ofList (Text.trim key)) (Text.trim value)

def applyLines (policy : Policy) : Nat → List (List Char) → Except String Policy
  | _, [] => .ok policy
  | lineNumber, rawLine :: rawLines => do
    let policy ← policy.applyLine lineNumber rawLine
    applyLines policy (lineNumber + 1) rawLines

def parse (contents : String) : Except String Policy := do
  let policy ← default.applyLines 1 (Text.lines contents.toList)
  if policy.allowedPaths = [] then
    throw "allowed_paths must contain at least one exact capability"
  return policy

/-- `Policy::from_file`, over `fs::read_to_string`. -/
def fromFile (readToString : String → Except String String) (path : String) :
    Except String Policy := do
  match readToString path with
  | .error err => throw s!"failed to read {path}: {err}"
  | .ok contents =>
    match parse contents with
    | .error err => throw s!"{path}: {err}"
    | .ok policy => return policy

end Policy

end WasmerSectest
