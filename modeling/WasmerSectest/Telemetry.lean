import Mathlib

namespace WasmerSectest
set_option autoImplicit true

/-- Rust's `u128`, the type of every duration in microseconds. -/
abbrev U128 := BitVec 128

/-- The pointer width of the host: every `usize` conversion depends on it. -/
class HostArch where
  usizeBits : Nat
  usizeBits_ge : 32 ≤ usizeBits

abbrev HostArch.x86_64 : HostArch := ⟨64, by decide⟩

/-- Rust's `usize` on the host. -/
abbrev Usize [HostArch] := BitVec HostArch.usizeBits

structure Gate where
  name : String
  passed : Bool
  deriving DecidableEq, Repr

def Gate.pass (name : String) : Gate := ⟨name, true⟩

def Gate.fail (name : String) : Gate := ⟨name, false⟩

structure ImportEvent where
  «import» : String
  ptr : Option UInt32
  len : Option UInt32
  align : Option UInt32
  memorySize : Option UInt64
  resultCode : Int32
  detail : String
  elapsedUs : U128
  gates : List Gate
  deriving DecidableEq

structure Telemetry where
  events : List ImportEvent := []
  ticksSeen : UInt32 := 0
  deriving DecidableEq

def Telemetry.push (t : Telemetry) (event : ImportEvent) : Telemetry :=
  { t with events := t.events ++ [event] }

@[simp] theorem Telemetry.push_events (t : Telemetry) (event : ImportEvent) :
    (t.push event).events = t.events ++ [event] := rfl

structure MemorySnapshot [HostArch] where
  pages : UInt32 := 0
  bytes : UInt64 := 0
  dataPtr : Usize := 0
  deriving DecidableEq

end WasmerSectest
