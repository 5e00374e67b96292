import WasmerSectest.DomainAttribution

namespace WasmerSectest
set_option autoImplicit true

/-- A call of `resolve`; `first` says which keys come first in the map when it stores its two
addresses. -/
structure ResolveCall where
  host : String
  port : Option UInt16
  first : Nat × Nat

namespace NetworkHoneypot

def rememberFirst (net : NetworkHoneypot) (call : ResolveCall) : NetworkHoneypot :=
  net.rememberHost (deterministicHoneypotIps call.host).1 call.host call.first.1

/-- One whole call, with the addresses it returns. -/
def resolve (net : NetworkHoneypot) (call : ResolveCall) : List IpAddr × NetworkHoneypot :=
  let addresses := deterministicHoneypotIps call.host
  let net := net.rememberFirst call
  let net := net.rememberHost addresses.2 call.host call.first.2
  let net := net.record {
    target := ⟨addresses.1, call.port.getD 0⟩
    domain := some call.host
    operation := .resolveIntercepted
    payload := []
    mockedResponseBytes := 0 }
  ([addresses.1, addresses.2], net)

end NetworkHoneypot

/-- A call that nothing comes between does to the shared state what it does on its own. -/
theorem resolve_undisturbed (world : NetworkWorld) (call : ResolveCall) (last : Nat) :
    let index := world.resolving.length
    Machine.final NetworkWorld.step world
        [.resolve call.host call.port, .advanceResolve index call.first.1,
          .advanceResolve index call.first.2, .advanceResolve index last] =
      { world with
        net := (world.net.resolve call).2
        resolving := world.resolving ++ [[]] } := by
  simp [Machine.final, NetworkWorld.step, NetworkWorld.advanceResolve, resolveActions,
    NetworkHoneypot.resolve, NetworkHoneypot.rememberFirst]

/-- What a call stores: its host, under each address that it returns. -/
def storedBy (entry : ResolveCall × List IpAddr) : List (IpAddr × String) :=
  entry.2.map fun ip => (ip, entry.1.host)

theorem withMockResponse_remembers (mockResponse : List UInt8) :
    Remembers [] (.withMockResponse mockResponse) := by
  refine ⟨List.nodup_nil, ?_, fun _ => rfl⟩
  intro entry hentry
  cases hentry

theorem Remembers.rememberFirst {net : NetworkHoneypot} (h : Remembers writes net)
    (call : ResolveCall) :
    Remembers (writes ++ [((deterministicHoneypotIps call.host).1, call.host)])
      (net.rememberFirst call) :=
  h.rememberHost (.inl rfl) call.first.1

theorem Remembers.resolve {net : NetworkHoneypot} (h : Remembers writes net)
    (call : ResolveCall) :
    Remembers (writes ++ storedBy (call, (net.resolve call).1)) (net.resolve call).2 := by
  have haddress : AddressOf call.host (deterministicHoneypotIps call.host).2 := .inr rfl
  have hsecond := (h.rememberFirst call).rememberHost haddress call.first.2
  rw [List.append_assoc] at hsecond
  exact ⟨hsecond.nodup, hsecond.addresses, hsecond.domain⟩

/-- After any calls the map holds what they stored, one after the other. -/
theorem resolves_remember (mockResponse : List UInt8) (calls : List ResolveCall) :
    Remembers
      ((Machine.trace NetworkHoneypot.resolve (.withMockResponse mockResponse) calls).flatMap
        storedBy)
      (Machine.final NetworkHoneypot.resolve (.withMockResponse mockResponse) calls) := by
  apply Machine.trace_induction NetworkHoneypot.resolve
    (J := fun trace net => Remembers (trace.flatMap storedBy) net)
  · exact withMockResponse_remembers mockResponse
  · intro trace net call h
    rw [List.flatMap_append, List.flatMap_singleton]
    exact h.resolve call

theorem last_storedBy {entry : ResolveCall × List IpAddr} (h : ip ∈ entry.2) :
    LastWriter.last (storedBy entry) ip = some entry.1.host := by
  apply LastWriter.last_eq_of_forall
  · exact List.mem_map_of_mem h
  · intro host hhost
    obtain ⟨ip', _, heq⟩ := List.mem_map.1 hhost
    exact (congrArg Prod.snd heq).symm

theorem not_stored {after : List (ResolveCall × List IpAddr)} (h : ∀ later ∈ after, ip ∉ later.2) :
    ∀ entry ∈ after.flatMap storedBy, entry.1 ≠ ip := by
  intro entry hentry heq
  obtain ⟨later, hlater, hmem⟩ := List.mem_flatMap.1 hentry
  obtain ⟨ip', hip, rfl⟩ := List.mem_map.1 hmem
  exact h later hlater (heq ▸ hip)

/-- Whenever a call stores an address there is room for it, and an address stands for the host of
the last call that returned it. -/
theorem resolver_map_last_writer (mockResponse : List UInt8) (calls : List ResolveCall) :
    let start := NetworkHoneypot.withMockResponse mockResponse
    let net := Machine.final NetworkHoneypot.resolve start calls
    (net.resolvedHosts.length < resolvedHostCapacity ∧
      ∀ call, (net.rememberFirst call).resolvedHosts.length < resolvedHostCapacity) ∧
    ∀ before entry after ip,
      Machine.trace NetworkHoneypot.resolve start calls = before ++ entry :: after →
      ip ∈ entry.2 → (∀ later ∈ after, ip ∉ later.2) →
      net.domainFor ip = some entry.1.host := by
  intro start net
  have hremembers := resolves_remember mockResponse calls
  refine ⟨⟨hremembers.length_lt, fun call => (hremembers.rememberFirst call).length_lt⟩, ?_⟩
  intro before entry after ip htrace hip hlater
  have hmem : (ip, entry.1.host) ∈ storedBy entry := List.mem_map_of_mem hip
  have hdomain := hremembers.domain ip
  rw [htrace, List.flatMap_append, List.flatMap_cons, ← List.append_assoc,
    LastWriter.last_append_of_forall_ne _ (not_stored hlater),
    LastWriter.last_append_of_mem _ hmem, last_storedBy hip] at hdomain
  exact hdomain

end WasmerSectest
