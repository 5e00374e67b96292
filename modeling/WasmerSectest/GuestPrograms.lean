import WasmerSectest.Lib.Wasm
import WasmerSectest.MemoryLimit

namespace WasmerSectest
set_option autoImplicit true

open Wasm (Instr)

/-- The functions a guest can import from `host`. -/
inductive HostImport where
  | acceptPacket
  | readCap
  | allocCap
  | writeMarker
  | tick
  deriving DecidableEq

def HostImport.name : HostImport → String
  | .acceptPacket => "accept_packet"
  | .readCap => "read_cap"
  | .allocCap => "alloc_cap"
  | .writeMarker => "write_marker"
  | .tick => "tick"

def HostImport.params : HostImport → Nat
  | .acceptPacket => 3
  | .readCap => 2
  | .allocCap => 1
  | .writeMarker => 3
  | .tick => 0

def HostImport.call : HostImport → List UInt32 → Option GuestCall
  | .acceptPacket, [ptr, len, align] => some (.acceptPacket ptr len align)
  | .readCap, [ptr, len] => some (.readCap ptr len)
  | .allocCap, [requested] => some (.allocCap requested)
  | .writeMarker, [ptr, len, align] => some (.writeMarker ptr len align)
  | .tick, [] => some .tick
  | _, _ => none

/-- An active data segment. -/
structure DataSegment where
  offset : Nat
  bytes : List UInt8
  deriving DecidableEq

def overwrite (bytes : List UInt8) (segment : DataSegment) : List UInt8 :=
  bytes.take segment.offset ++ segment.bytes ++
    bytes.drop (segment.offset + segment.bytes.length)

/-- The text of a guest: it imports from `host`, defines and exports one memory, and exports
`run` and perhaps `grow_only`. -/
structure Program where
  imports : List HostImport
  memory : MemoryType
  data : List DataSegment := []
  growOnly : Option (List Instr) := none
  locals : Nat := 0
  run : List Instr
  pages_le : memory.minimum.toNat ≤ wasmMaxPages := by decide
  maximum_ge : memory.maximum.all (memory.minimum ≤ ·) = true := by decide
  data_fits : ∀ segment ∈ data,
    segment.offset + segment.bytes.length ≤ memory.minimum.toNat * 65536 := by decide

/-- The program as the audit sees it. -/
def Program.module (program : Program) : Module where
  imports := program.imports.map fun i => ⟨"host", i.name, .function (.host i.params)⟩
  definedMemories := [program.memory]
  exports := ⟨"memory", .memory 0⟩ ::
    (program.growOnly.toList.map fun _ => ⟨"grow_only", .other⟩) ++ [⟨"run", .other⟩]

theorem overwrite_length {bytes : List UInt8} {segment : DataSegment}
    (h : segment.offset + segment.bytes.length ≤ bytes.length) :
    (overwrite bytes segment).length = bytes.length := by
  rw [overwrite, List.length_append, List.length_append, List.length_take, List.length_drop]
  omega

theorem foldl_overwrite_length {data : List DataSegment} (bytes : List UInt8)
    (h : ∀ segment ∈ data, segment.offset + segment.bytes.length ≤ bytes.length) :
    (data.foldl overwrite bytes).length = bytes.length := by
  induction data generalizing bytes with
  | nil => rfl
  | cons segment data ih =>
    have hl := overwrite_length (h segment (List.mem_cons_self ..))
    rw [List.foldl_cons, ih, hl]
    intro segment' hs
    rw [hl]
    exact h segment' (List.mem_cons_of_mem _ hs)

theorem Program.initial_length (program : Program) :
    (program.data.foldl overwrite
      (List.replicate (program.memory.minimum.toNat * 65536) 0)).length =
      program.memory.minimum.toNat * 65536 := by
  rw [foldl_overwrite_length, List.length_replicate]
  rw [List.length_replicate]
  exact program.data_fits

def Program.initialMemory (program : Program) : LinearMemory where
  bytes := program.data.foldl overwrite
    (List.replicate (program.memory.minimum.toNat * 65536) 0)
  size_le := by
    rw [program.initial_length]
    exact Nat.mul_le_mul_right 65536 program.pages_le

def LinearMemory.extend (view : LinearMemory) (pages : Nat)
    (h : view.bytes.length + pages * 65536 ≤ 2 ^ 32) : LinearMemory where
  bytes := view.bytes ++ List.replicate (pages * 65536) 0
  size_le := by
    rw [List.length_append, List.length_replicate]
    exact h

section
variable [HostArch]

/-- What a program does not determine: where its memory is and what the other memories hold,
the time the host takes and whether the system has the pages, for each call and growth in the
order in which they come, and how the runtime words a trap. -/
structure Surroundings where
  memory : Memory
  store : Store
  elapsedUs : Nat → U128
  allocates : Nat → Bool
  dataPtr : Store → Memory → Usize
  trapped : String

/-- A running instance, with the calls it has made. -/
structure Instance where
  state : HostState
  store : Store
  calls : List HostCall
  clock : Nat

def Instance.callImport (around : Surroundings) (imports : List HostImport) (function : Nat)
    (args : List UInt32) (inst : Instance) : Option (UInt32 × Instance) := do
  let i ← imports[function]?
  let call ← i.call args
  let elapsedUs := around.elapsedUs inst.clock
  let (result, state, store) := call.perform inst.state inst.store elapsedUs
  return (result.toUInt32,
    { state, store, calls := inst.calls ++ [⟨inst.store, call, elapsedUs⟩]
      clock := inst.clock + 1 })

def Instance.load (around : Surroundings) (address : UInt32) (inst : Instance) :
    Option UInt8 :=
  (around.memory.view inst.store).bytes[address.toNat]?

/-- `memory.grow`: the old size in pages, or -1. -/
def Instance.grow (around : Surroundings) (limit : Nat) (delta : UInt32) (inst : Instance) :
    UInt32 × Instance :=
  let view := around.memory.view inst.store
  if h : view.bytes.length + delta.toNat * 65536 ≤ min limit wasmMaxPages * 65536 ∧
      around.allocates inst.clock then
    (UInt32.ofNat (view.bytes.length / 65536),
      { inst with
        store := inst.store.set around.memory (view.extend delta.toNat
          (Nat.le_trans h.1 (Nat.mul_le_mul_right 65536 (Nat.min_le_right _ _))))
        clock := inst.clock + 1 })
  else (UInt32.ofNat (2 ^ 32 - 1), { inst with clock := inst.clock + 1 })

def Program.environment (program : Program) (around : Surroundings) (limit : Nat) :
    Wasm.Environment Instance where
  params function := (program.imports[function]?.map HostImport.params).getD 0
  call := Instance.callImport around program.imports
  load := Instance.load around
  grow := Instance.grow around limit

def returned (around : Surroundings) : Wasm.Outcome → Except String Int32
  | .next (value :: _) | .return (value :: _) | .branch 0 (value :: _) => .ok value.toInt32
  | _ => .error around.trapped

/-- A guest nothing of which has run yet. -/
def Program.instantiate (program : Program) (around : Surroundings) : GuestExecution :=
  let store := around.store.set around.memory program.initialMemory
  { start := []
    instantiate := .ok ()
    memoryExport := .ok around.memory
    instantiated := store
    growOnly := none
    grown := store
    runExport := .ok ()
    run := ([], .error around.trapped)
    finished := store
    dataPtr := around.dataPtr }

/-- The call of an exported function, as far as the fuel lasts. -/
def Program.invoke (program : Program) (around : Surroundings) (limit : Nat) (fuel : Nat)
    (code : List Instr) (locals : Nat) (inst : Instance) :
    Option (Except String Int32 × Instance) :=
  (Wasm.exec (program.environment around limit) fuel code []
    ⟨List.replicate locals 0, { inst with calls := [] }⟩).map fun (o, frame) =>
      (returned around o, frame.host)

/-- The part of an execution that comes before `run`. -/
def Program.probe (program : Program) (around : Surroundings) (limit : Nat) (fuel : Nat)
    (kind : CaseKind) (growUs : U128) (state : HostState) :
    Option (GuestExecution × HostState × Nat) :=
  let guest := program.instantiate around
  if kind = .growthProbe then
    match program.growOnly with
    | some code => do
      let (result, inst) ←
        program.invoke around limit fuel code 0 ⟨state, guest.instantiated, [], 0⟩
      let guest : GuestExecution :=
        { guest with growOnly := some (inst.calls, result), grown := inst.store }
      return (guest, runGrowthProbe guest state around.memory growUs, inst.clock)
    | none => some (guest, runGrowthProbe guest state around.memory growUs, 0)
  else some (guest, state, 0)

/-- What an instance of the program does, if it comes to an end within the fuel. -/
def Program.execution (program : Program) (around : Surroundings) (backend : Backend)
    (policy : Policy) (kind : CaseKind) (growUs : U128) (fuel : Nat) :
    Option GuestExecution := do
  let limit := (makeStore backend policy).limit program.memory
  let (guest, state, clock) ← program.probe around limit fuel kind growUs
    { HostState.new policy with memory := some around.memory }
  let (result, inst) ← program.invoke around limit fuel program.run program.locals
    ⟨state, guest.grown, [], clock⟩
  return { guest with run := (inst.calls, result), finished := inst.store }

end

end WasmerSectest
