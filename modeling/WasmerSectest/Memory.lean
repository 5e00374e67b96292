import WasmerSectest.Abi

namespace WasmerSectest
set_option autoImplicit true

/-- The contents of a linear memory; 32-bit Wasm addresses at most `2 ^ 32` bytes. -/
structure LinearMemory where
  bytes : List UInt8
  size_le : bytes.length ≤ 2 ^ 32

/-- `wasmer::Memory`: a handle to one of the memories of a store. -/
structure Memory where
  index : Nat
  deriving DecidableEq

/-- The store holds the current contents of every memory. -/
def Store := Memory → LinearMemory

/-- `MemoryView`: the contents behind a handle at the time of the call. -/
def Memory.view (memory : Memory) (store : Store) : LinearMemory := store memory

def LinearMemory.dataSize (view : LinearMemory) : UInt64 := UInt64.ofNat view.bytes.length

theorem LinearMemory.toNat_dataSize (view : LinearMemory) :
    view.dataSize.toNat = view.bytes.length := by
  have h := view.size_le
  exact UInt64.toNat_ofNat_of_lt' (Nat.lt_of_le_of_lt h (by decide))

/-- The error, the size of the memory if there is one, and the gates passed so far. -/
abbrev GuestAccessErr := AbiError × Option UInt64 × List Gate

/-- `GuestBytes` and `GuestBytesMut`: what the callback of a checked access receives. -/
structure GuestBytes where
  bytes : List UInt8
  range : GuestRange
  memorySize : UInt64
  gates : List Gate
  deriving DecidableEq

def validateRange (ptr len align : UInt32) (memorySize : UInt64) (maxLen : UInt32) :
    Except GuestAccessErr (GuestRange × List Gate) :=
  match checkedGuestRange ptr len align memorySize maxLen with
  | .ok range =>
    .ok (range, [.pass "max_len", .pass "alignment", .pass "checked_add", .pass "bounds"])
  | .error err =>
    let failedGate := err.gate
    let gates := if failedGate ≠ "max_len" then [Gate.pass "max_len"] else []
    let gates :=
      if failedGate ∉ ["alignment", "max_len"] then gates ++ [.pass "alignment"] else gates
    let gates :=
      if failedGate ∉ ["checked_add", "alignment", "max_len"] then
        gates ++ [.pass "checked_add"]
      else gates
    .error (err, some memorySize, gates ++ [.fail failedGate])

/-- `usize::try_from` on a value of some unsigned type. -/
def usizeTryFrom [HostArch] (n : Nat) : Option Usize :=
  if n < 2 ^ HostArch.usizeBits then some (BitVec.ofNat _ n) else none

def rangeIndices [HostArch] (range : GuestRange) : Except GuestAccessErr (Usize × Usize) := do
  let some start := usizeTryFrom range.offset.toNat
    | throw (.memoryRead "guest range offset does not fit host usize", none,
        [.fail "memory.index"])
  let some stop := usizeTryFrom range.end.toNat
    | throw (.memoryRead "guest range end does not fit host usize", none,
        [.fail "memory.index"])
  return (start, stop)

def getRange (data : List UInt8) (start stop : Nat) : Option (List UInt8) :=
  if start ≤ stop ∧ stop ≤ data.length then some (slice data start stop) else none

def withGuestBytes [HostArch] (memory : Option Memory) (store : Store)
    (ptr len align maxLen : UInt32) (read : GuestBytes → R) : Except GuestAccessErr R := do
  let some memory := memory
    | throw (.missingMemory, none, [.fail "memory.export"])
  let view := memory.view store
  let memorySize := view.dataSize
  let (range, gates) ← validateRange ptr len align memorySize maxLen
  let (start, stop) ← rangeIndices range
  let some bytes := getRange view.bytes start.toNat stop.toNat
    | let err := AbiError.memoryRead "validated range could not index MemoryView"
      throw (err, some memorySize, gates ++ [.fail err.gate])
  return read ⟨bytes, range, memorySize, gates ++ [.pass "memory.read"]⟩

/-- The memory after a slice of it was overwritten in place. -/
def LinearMemory.write (view : LinearMemory) (start : Nat) (bytes : List UInt8)
    (h : start + bytes.length ≤ view.bytes.length) : LinearMemory where
  bytes := view.bytes.take start ++ bytes ++ view.bytes.drop (start + bytes.length)
  size_le := by
    have hs := view.size_le
    simp only [List.length_append, List.length_take, List.length_drop]
    omega

def Store.set (store : Store) (memory : Memory) (view : LinearMemory) : Store :=
  fun m => if m = memory then view else store m

theorem getRange_length (h : getRange data start stop = some bytes) :
    start + bytes.length ≤ data.length := by
  rw [getRange] at h
  split at h
  · have he := Option.some.inj h
    subst he
    simp only [slice, List.length_take, List.length_drop]
    omega
  · cases h

/-- The new contents of a slice that was lent for writing: its length cannot change. -/
abbrev Written (guest : GuestBytes) := { bytes : List UInt8 // bytes.length = guest.bytes.length }

def withGuestBytesMut [HostArch] (memory : Option Memory) (store : Store)
    (ptr len align maxLen : UInt32) (write : (guest : GuestBytes) → R × Written guest) :
    Except GuestAccessErr R × Store :=
  match memory with
  | none => (.error (.missingMemory, none, [.fail "memory.export"]), store)
  | some memory =>
    let view := memory.view store
    let memorySize := view.dataSize
    match validateRange ptr len align memorySize maxLen with
    | .error e => (.error e, store)
    | .ok (range, gates) =>
      match rangeIndices range with
      | .error e => (.error e, store)
      | .ok (start, stop) =>
        match h : getRange view.bytes start.toNat stop.toNat with
        | none =>
          let err := AbiError.memoryRead
            "validated range could not mutably index MemoryView"
          (.error (err, some memorySize, gates ++ [.fail err.gate]), store)
        | some bytes =>
          let (result, written) :=
            write ⟨bytes, range, memorySize, gates ++ [.pass "memory.write"]⟩
          let view' := view.write start.toNat written.1 (by
            rw [written.2]
            exact getRange_length h)
          (.ok result, store.set memory view')

end WasmerSectest
