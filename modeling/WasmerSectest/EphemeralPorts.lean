import WasmerSectest.Lib.RoundRobin
import WasmerSectest.NetworkLog

namespace WasmerSectest
set_option autoImplicit true

def NetworkHoneypot.ephemeralPort (net : NetworkHoneypot) : UInt32 :=
  ephemeralPortBase + net.nextEphemeral % ephemeralPortSpan

theorem toNat_ephemeralPort (net : NetworkHoneypot) :
    net.ephemeralPort.toNat =
      ephemeralPortBase.toNat + net.nextEphemeral.toNat % ephemeralPortSpan.toNat := by
  have hbase : ephemeralPortBase.toNat = 49152 := rfl
  have hspan : ephemeralPortSpan.toNat = 16384 := rfl
  rw [NetworkHoneypot.ephemeralPort, UInt32.toNat_add, UInt32.toNat_mod, hbase, hspan]
  omega

theorem toUInt16_ephemeralPort (net : NetworkHoneypot) :
    net.ephemeralPort.toUInt16.toNat = net.ephemeralPort.toNat := by
  have hbase : ephemeralPortBase.toNat = 49152 := rfl
  have hspan : ephemeralPortSpan.toNat = 16384 := rfl
  have hport := toNat_ephemeralPort net
  rw [hbase, hspan] at hport
  rw [UInt32.toNat_toUInt16]
  omega

theorem connectTcp_ephemeral (net : NetworkHoneypot) {addr : SocketAddr} (h : addr.port = 0)
    (peer : SocketAddr) :
    (net.connectTcp addr peer).1.localAddr.port = net.ephemeralPort.toUInt16 ∧
      (net.connectTcp addr peer).2.nextEphemeral = net.nextEphemeral + 1 := by
  rw [NetworkHoneypot.connectTcp, NetworkHoneypot.nextLocalAddr]
  simp only [if_pos h, NetworkHoneypot.ephemeralPort, and_self]

theorem connectTcp_explicit (net : NetworkHoneypot) {addr : SocketAddr} (h : addr.port ≠ 0)
    (peer : SocketAddr) :
    (net.connectTcp addr peer).1.localAddr.port = addr.port ∧
      (net.connectTcp addr peer).2.nextEphemeral = net.nextEphemeral := by
  rw [NetworkHoneypot.connectTcp, NetworkHoneypot.nextLocalAddr]
  simp only [if_neg h, and_self]

def NetworkWorld.allocates (world : NetworkWorld) : NetworkMove → Option UInt16
  | .connect addr peer =>
    if addr.port = 0 then some (world.net.connectTcp addr peer).1.localAddr.port else none
  | _ => none

def NetworkWorld.allocated (world : NetworkWorld) : List NetworkMove → List UInt16
  | [] => []
  | move :: moves => (world.allocates move).toList ++ (world.step move).2.allocated moves

inductive AllocationOutcome (world : NetworkWorld) : Option UInt16 → NetworkWorld → Prop where
  | none (next : NetworkWorld) (hsame : next.net.nextEphemeral = world.net.nextEphemeral) :
    AllocationOutcome world none next
  | port (next : NetworkWorld) (hnext : next.net.nextEphemeral = world.net.nextEphemeral + 1) :
    AllocationOutcome world (some world.net.ephemeralPort.toUInt16) next

theorem NetworkWorld.step_allocates (world : NetworkWorld) (move : NetworkMove) :
    AllocationOutcome world (world.allocates move) (world.step move).2 := by
  cases move with
  | resolve host port => exact .none _ rfl
  | connect addr peer =>
    rw [allocates]
    by_cases hport : addr.port = 0
    · obtain ⟨hgiven, hnext⟩ := connectTcp_ephemeral world.net hport peer
      rw [if_pos hport, hgiven]
      exact .port _ hnext
    · rw [if_neg hport]
      exact .none _ (connectTcp_explicit world.net hport peer).2
  | call index call =>
    refine .none _ ?_
    change (world.beginCall index call).net.nextEphemeral = _
    rw [beginCall]
    split
    · split
      · rfl
      · rfl
    · rfl
  | advanceResolve index first =>
    refine .none _ ?_
    change (world.advanceResolve index first).2.net.nextEphemeral = _
    rw [advanceResolve]
    split
    · rfl
    · rfl
    · rfl
  | advanceSocket index =>
    refine .none _ ?_
    change (world.advanceSocket index).2.net.nextEphemeral = _
    rw [advanceSocket]
    split
    · split
      · rfl
      · rfl
    · rfl

/-- The ports go round the span, whatever else happens between the allocations and however often
the counter wraps around. -/
theorem allocated_toNat (world : NetworkWorld) (moves : List NetworkMove) :
    (world.allocated moves).map UInt16.toNat =
      (RoundRobin.slots ephemeralPortSpan.toNat world.net.nextEphemeral.toNat
        (world.allocated moves).length).map (ephemeralPortBase.toNat + ·) := by
  induction moves generalizing world with
  | nil => rfl
  | cons move moves ih =>
    have houtcome := world.step_allocates move
    have hrest := ih (world.step move).2
    rw [NetworkWorld.allocated]
    generalize world.allocates move = port at houtcome ⊢
    generalize (world.step move).2 = next at houtcome hrest ⊢
    cases houtcome with
    | none _ hsame =>
      rw [hsame] at hrest
      exact hrest
    | port _ hnext =>
      have hdvd : ephemeralPortSpan.toNat ∣ 2 ^ 32 := by decide
      have hcount : next.net.nextEphemeral.toNat =
          (world.net.nextEphemeral.toNat + 1) % 2 ^ 32 := by
        rw [hnext, UInt32.toNat_add]
        rfl
      rw [hcount, RoundRobin.slots_wrap hdvd] at hrest
      rw [Option.toList_some, List.singleton_append, List.map_cons, List.length_cons,
        RoundRobin.slots_succ, List.map_cons, toUInt16_ephemeralPort, toNat_ephemeralPort, hrest]

/-- Ports come from the span and none comes again before all the others had their turn. -/
structure PortsLaw (world : NetworkWorld) (moves : List NetworkMove) : Prop where
  in_range : ∀ port ∈ world.allocated moves, 49152 ≤ port.toNat ∧ port.toNat ≤ 65535
  distinct : ∀ k, (((world.allocated moves).drop k).take 16384).Nodup
  untruncated : ∀ net : NetworkHoneypot, net.ephemeralPort.toUInt16.toNat = net.ephemeralPort.toNat
  explicit : ∀ (net : NetworkHoneypot) (addr peer : SocketAddr), addr.port ≠ 0 →
    (net.connectTcp addr peer).1.localAddr.port = addr.port ∧
      (net.connectTcp addr peer).2.nextEphemeral = net.nextEphemeral

theorem ephemeral_ports (world : NetworkWorld) (moves : List NetworkMove) :
    PortsLaw world moves := by
  have hports := allocated_toNat world moves
  have hspan : ephemeralPortSpan.toNat = 16384 := rfl
  have hbase : ephemeralPortBase.toNat = 49152 := rfl
  refine ⟨?_, ?_, toUInt16_ephemeralPort, fun net addr peer h => connectTcp_explicit net h peer⟩
  · intro port hport
    have hmem := List.mem_map_of_mem (f := UInt16.toNat) hport
    rw [hports, List.mem_map] at hmem
    obtain ⟨slot, hslot, heq⟩ := hmem
    have hlt := RoundRobin.slot_lt (by decide) hslot
    omega
  · intro k
    have hround := (RoundRobin.nodup_round ephemeralPortSpan.toNat world.net.nextEphemeral.toNat
      (world.allocated moves).length k).map (add_right_injective ephemeralPortBase.toNat)
    rw [List.map_take, List.map_drop, ← hports, ← List.map_drop, ← List.map_take] at hround
    exact hround.of_map

end WasmerSectest
