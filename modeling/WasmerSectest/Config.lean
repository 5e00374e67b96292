import WasmerSectest.Lib.Decimal
import WasmerSectest.Telemetry

namespace WasmerSectest
set_option autoImplicit true

inductive Backend where
  | cranelift
  | singlepass
  deriving DecidableEq

def Backend.name : Backend → String
  | .cranelift => "cranelift"
  | .singlepass => "singlepass"

inductive IsolationMode where
  | inProcess
  | process
  deriving DecidableEq

def IsolationMode.parse (value : String) : Option IsolationMode :=
  match value with
  | "none" | "in-process" | "inprocess" => some .inProcess
  | "process" | "supervisor" => some .process
  | _ => none

def IsolationMode.name : IsolationMode → String
  | .inProcess => "in-process"
  | .process => "process"

inductive Profile where
  | all
  | interview
  | campaign
  | abi
  | capability
  | resource
  | memory
  deriving DecidableEq

def Profile.parse (value : String) : Option Profile :=
  match value with
  | "all" => some .all
  | "interview" => some .interview
  | "campaign" | "adversary" | "apt" => some .campaign
  | "abi" => some .abi
  | "capability" | "capabilities" | "caps" => some .capability
  | "resource" | "resources" | "dos" => some .resource
  | "memory" => some .memory
  | _ => none

def Profile.name : Profile → String
  | .all => "all"
  | .interview => "interview"
  | .campaign => "campaign"
  | .abi => "abi"
  | .capability => "capability"
  | .resource => "resource"
  | .memory => "memory"

inductive OutputFormat where
  | text
  | json
  | markdown
  | sarif
  deriving DecidableEq

def OutputFormat.parse (value : String) : Option OutputFormat :=
  match value with
  | "text" => some .text
  | "json" => some .json
  | "markdown" | "md" => some .markdown
  | "sarif" => some .sarif
  | _ => none

/-- The process ends here, with a status and what it wrote to stderr. -/
structure Exit where
  status : Nat
  stderr : List String
  deriving DecidableEq

section
variable [HostArch]

structure Config where
  case : Option String := none
  corpusDir : Option String := none
  emitWasmDir : Option String := none
  interview : Bool := false
  list : Bool := false
  menu : Bool := false
  noColor : Bool := false
  outputFormat : OutputFormat := .text
  policyPath : Option String := none
  allowUnmetered : Bool := false
  isolation : IsolationMode := .inProcess
  profile : Profile := .all
  reportPath : Option String := none
  summaryOnly : Bool := false
  timeoutMs : Option UInt64 := none
  tui : Bool := false
  tuiDelayMs : UInt64 := 120
  «repeat» : Usize := 1
  backend : Backend := .cranelift
  workerCase : Option String := none
  workerExecuteStatic : Bool := false

def isFlag (value : String) : Bool := "--".toList.isPrefixOf value.toList

/-- The value after a flag; `rest` is what follows the flag on the command line. -/
def requireValue (rest : List String) (flag : String) : Except Exit String :=
  match rest with
  | [] => .error ⟨2, [s!"{flag} requires a value"]⟩
  | value :: _ =>
    if isFlag value then .error ⟨2, [s!"{flag} requires a value"]⟩ else .ok value

def parsePositiveUsize (value flag : String) : Except Exit Usize :=
  match Decimal.parseUnsigned (2 ^ HostArch.usizeBits) value.toList with
  | some parsed =>
    if parsed > 0 then .ok (BitVec.ofNat _ parsed)
    else .error ⟨2, [s!"{flag} requires a positive integer"]⟩
  | none => .error ⟨2, [s!"{flag} requires a positive integer"]⟩

def parsePositiveU64 (value flag : String) : Except Exit UInt64 :=
  match Decimal.parseUnsigned (2 ^ 64) value.toList with
  | some parsed =>
    if parsed > 0 then .ok (UInt64.ofNat parsed)
    else .error ⟨2, [s!"{flag} requires a positive integer"]⟩
  | none => .error ⟨2, [s!"{flag} requires a positive integer"]⟩

/-- One argument, and whether it used up the one after it. -/
def Config.applyArg (config : Config) (arg : String) (rest : List String) :
    Except Exit (Config × Bool) := do
  match arg with
  | "--case" | "--scenario" => return ({ config with case := ← requireValue rest arg }, true)
  | "--profile" =>
    let value ← requireValue rest "--profile"
    match Profile.parse value with
    | none =>
      throw ⟨2, [s!"Unsupported profile '{value}'. Use all, interview, campaign, abi, " ++
        "capability, resource, memory."]⟩
    | some profile =>
      let interview := if profile = .interview then true else config.interview
      return ({ config with profile, interview }, true)
  | "--emit-wasm-dir" =>
    return ({ config with emitWasmDir := ← requireValue rest "--emit-wasm-dir" }, true)
  | "--corpus" => return ({ config with corpusDir := ← requireValue rest "--corpus" }, true)
  | "--format" =>
    let value ← requireValue rest "--format"
    match OutputFormat.parse value with
    | none =>
      throw ⟨2, [s!"Unsupported format '{value}'. Use text, json, markdown, sarif."]⟩
    | some outputFormat =>
      let noColor := if outputFormat ≠ .text then true else config.noColor
      return ({ config with outputFormat, noColor }, true)
  | "--report" => return ({ config with reportPath := ← requireValue rest "--report" }, true)
  | "--policy" => return ({ config with policyPath := ← requireValue rest "--policy" }, true)
  | "--allow-unmetered" => return ({ config with allowUnmetered := true }, false)
  | "--isolate" =>
    let value ← requireValue rest "--isolate"
    match IsolationMode.parse value with
    | none => throw ⟨2, [s!"Unsupported isolation mode '{value}'. Use none or process."]⟩
    | some isolation => return ({ config with isolation }, true)
  | "--timeout-ms" =>
    let value ← requireValue rest "--timeout-ms"
    return ({ config with timeoutMs := ← parsePositiveU64 value "--timeout-ms" }, true)
  | "--backend" =>
    let value ← requireValue rest "--backend"
    match value with
    | "cranelift" => return ({ config with backend := .cranelift }, true)
    | "singlepass" => return ({ config with backend := .singlepass }, true)
    | other => throw ⟨2, [s!"Unsupported backend '{other}'. Use cranelift or singlepass."]⟩
  | "--repeat" =>
    let value ← requireValue rest "--repeat"
    return ({ config with «repeat» := ← parsePositiveUsize value "--repeat" }, true)
  | "--tui" | "--live" => return ({ config with tui := true }, false)
  | "--tui-delay-ms" =>
    let value ← requireValue rest "--tui-delay-ms"
    match (Decimal.parseUnsigned (2 ^ 64) value.toList).filter (· ≤ 2000) with
    | some delay => return ({ config with tuiDelayMs := UInt64.ofNat delay }, true)
    | none => throw ⟨2, ["--tui-delay-ms requires an integer from 0 to 2000"]⟩
  | "--stress" =>
    let value ← requireValue rest "--stress"
    let n ← parsePositiveUsize value "--stress"
    return ({ config with «repeat» := n, summaryOnly := true }, true)
  | "--list" => return ({ config with list := true }, false)
  | "--all" => return ({ config with case := none, profile := .all }, false)
  | "--interview" => return ({ config with interview := true, profile := .interview }, false)
  | "--campaign" | "--adversary" =>
    return ({ config with interview := true, profile := .campaign }, false)
  | "--menu" => return ({ config with menu := true }, false)
  | "--no-color" => return ({ config with noColor := true }, false)
  | "--summary-only" => return ({ config with summaryOnly := true }, false)
  | "--worker-case" =>
    return ({ config with workerCase := ← requireValue rest "--worker-case" }, true)
  | "--worker-execute-static-audit" =>
    return ({ config with workerExecuteStatic := true }, false)
  | "--help" | "-h" => throw ⟨0, []⟩
  | other => throw ⟨2, [s!"unknown argument '{other}'", "use --help for usage"]⟩

/-- The loop over the arguments; `skip` tells that the next one was taken as a value. -/
def Config.applyArgs (config : Config) (skip : Bool) : List String → Except Exit Config
  | [] => .ok config
  | arg :: rest =>
    if skip then applyArgs config false rest
    else do
      let (config, taken) ← config.applyArg arg rest
      applyArgs config taken rest

/-- `Config::from_args`, over the arguments that follow the program's name. -/
def Config.fromArgs (args : List String) : Except Exit Config := Config.applyArgs {} false args

end

end WasmerSectest
