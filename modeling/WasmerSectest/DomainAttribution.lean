import WasmerSectest.Lib.LastWriter
import WasmerSectest.NetworkLog

namespace WasmerSectest
set_option autoImplicit true

/-- The address is one of those that `resolve` returns for the host. -/
def AddressOf (host : String) (ip : IpAddr) : Prop :=
  ip = (deterministicHoneypotIps host).1 ∨ ip = (deterministicHoneypotIps host).2

def NetworkWorld.stores (world : NetworkWorld) : NetworkMove → Option (IpAddr × String)
  | .advanceResolve index _ =>
    match world.resolving[index]? with
    | some (.remember ip host :: _) => some (ip, host)
    | _ => none
  | _ => none

/-- Everything that the `resolve` calls of a run store, in order. -/
def NetworkWorld.stored (world : NetworkWorld) : List NetworkMove → List (IpAddr × String)
  | [] => []
  | move :: moves => (world.stores move).toList ++ (world.step move).2.stored moves

/-- The `resolve` call that begins between the two parts of the run has done all its actions by
the end of it. -/
def ResolveReturned (start : NetworkWorld) (before : List NetworkMove) (host : String)
    (port : Option UInt16) (between : List NetworkMove) : Prop :=
  (Machine.final NetworkWorld.step start (before ++ .resolve host port :: between)).resolving[
    (Machine.final NetworkWorld.step start before).resolving.length]? = some []

/-- All that a move can do to the map of resolved hosts and to the `resolve` calls. -/
inductive HostsOutcome (world : NetworkWorld) :
    Option (IpAddr × String) → NetworkWorld → Prop where
  | other (next : NetworkWorld) (hhosts : next.net.resolvedHosts = world.net.resolvedHosts)
    (hresolving : next.resolving = world.resolving) : HostsOutcome world none next
  | resolve (host : String) (port : Option UInt16) :
    HostsOutcome world none
      { world with resolving := world.resolving ++ [resolveActions host port] }
  | remember (index first : Nat) (ip : IpAddr) (host : String) (actions : List NetworkAction)
    (hi : world.resolving[index]? = some (.remember ip host :: actions)) :
    HostsOutcome world (some (ip, host))
      { world with
        net := world.net.rememberHost ip host first
        resolving := world.resolving.set index actions }
  | record (index : Nat) (event : NetworkHoneypotEvent) (actions : List NetworkAction)
    (hi : world.resolving[index]? = some (.record event :: actions)) :
    HostsOutcome world none
      { world with
        net := world.net.record event
        resolving := world.resolving.set index actions }

theorem connectTcp_resolvedHosts (net : NetworkHoneypot) (addr peer : SocketAddr) :
    (net.connectTcp addr peer).2.resolvedHosts = net.resolvedHosts := by
  obtain ⟨nextEphemeral, hnext⟩ := nextLocalAddr_frame net addr peer
  change (net.nextLocalAddr addr peer).2.resolvedHosts = net.resolvedHosts
  rw [hnext]

theorem beginCall_frame (world : NetworkWorld) (index : Nat) (call : SocketCall) :
    (world.beginCall index call).net = world.net ∧
      (world.beginCall index call).resolving = world.resolving := by
  rw [NetworkWorld.beginCall]
  split
  · split
    · exact ⟨rfl, rfl⟩
    · exact ⟨rfl, rfl⟩
  · exact ⟨rfl, rfl⟩

theorem advanceSocket_frame (world : NetworkWorld) (index : Nat) :
    (world.advanceSocket index).2.net.resolvedHosts = world.net.resolvedHosts ∧
      (world.advanceSocket index).2.resolving = world.resolving := by
  rw [NetworkWorld.advanceSocket]
  split
  · split
    · exact ⟨rfl, rfl⟩
    · exact ⟨rfl, rfl⟩
  · exact ⟨rfl, rfl⟩

theorem NetworkWorld.step_hosts (world : NetworkWorld) (move : NetworkMove) :
    HostsOutcome world (world.stores move) (world.step move).2 := by
  cases move with
  | resolve host port => exact .resolve host port
  | connect addr peer =>
    exact .other _ (connectTcp_resolvedHosts world.net addr peer) rfl
  | call index call =>
    obtain ⟨hnet, hresolving⟩ := beginCall_frame world index call
    exact .other _ (congrArg _ hnet) hresolving
  | advanceSocket index =>
    obtain ⟨hhosts, hresolving⟩ := advanceSocket_frame world index
    exact .other _ hhosts hresolving
  | advanceResolve index first =>
    rw [stores, step, advanceResolve]
    cases hi : world.resolving[index]? with
    | none => exact .other world rfl rfl
    | some actions =>
      cases actions with
      | nil => exact .other world rfl rfl
      | cons action actions =>
        cases action with
        | remember ip host => exact .remember index first ip host actions hi
        | record event => exact .record index event actions hi

def syntheticIps (hash : UInt8) : List IpAddr :=
  [.v4 (0xcb007100#32 + BitVec.ofNat 32 (10 + hash % 200).toNat),
    .v6 (0x20010db8000000000000000000000001#128 + BitVec.ofNat 128 (hash.toNat * 2 ^ 80))]

theorem AddressOf.mem_syntheticIps (h : AddressOf host ip) :
    ip ∈ syntheticIps (hostHash host) := by
  rcases h with rfl | rfl
  · exact List.mem_cons_self
  · exact List.mem_cons_of_mem _ List.mem_cons_self

theorem resolvedHosts_length_lt {hosts : List (IpAddr × String)}
    (hnodup : (hosts.map Prod.fst).Nodup) (h : ∀ entry ∈ hosts, AddressOf entry.2 entry.1) :
    hosts.length < resolvedHostCapacity := by
  let ips := (List.range 256).flatMap fun n => syntheticIps (UInt8.ofNat n)
  have hlength : ips.length = 512 := by
    have htwo (n : Nat) : (syntheticIps (UInt8.ofNat n)).length = 2 := rfl
    rw [List.length_flatMap]
    simp only [htwo, List.map_const', List.sum_replicate, List.length_range, smul_eq_mul,
      Nat.reduceMul]
  have hsubset : hosts.map Prod.fst ⊆ ips := by
    intro ip hip
    obtain ⟨entry, hentry, rfl⟩ := List.mem_map.1 hip
    rw [List.mem_flatMap]
    refine ⟨(hostHash entry.2).toNat, List.mem_range.2 (hostHash entry.2).toNat_lt, ?_⟩
    rw [UInt8.ofNat_toNat]
    exact (h entry hentry).mem_syntheticIps
  have hle := (List.subperm_of_subset hnodup hsubset).length_le
  rw [List.length_map, hlength] at hle
  exact Nat.lt_of_le_of_lt hle (by decide)

theorem rememberHost_resolvedHosts {net : NetworkHoneypot}
    (h : net.resolvedHosts.length < resolvedHostCapacity) (ip : IpAddr) (host : String)
    (first : Nat) :
    (net.rememberHost ip host first).resolvedHosts =
      LastWriter.insert net.resolvedHosts ip host := by
  rw [NetworkHoneypot.rememberHost]
  simp only [if_neg (Nat.not_le.2 h)]
  rfl

/-- The map holds what was stored last under each address, and there is room left in it. -/
structure Remembers (writes : List (IpAddr × String)) (net : NetworkHoneypot) : Prop where
  nodup : (net.resolvedHosts.map Prod.fst).Nodup
  addresses : ∀ entry ∈ net.resolvedHosts, AddressOf entry.2 entry.1
  domain : ∀ ip, net.domainFor ip = LastWriter.last writes ip

theorem Remembers.length_lt {net : NetworkHoneypot} (h : Remembers writes net) :
    net.resolvedHosts.length < resolvedHostCapacity :=
  resolvedHosts_length_lt h.nodup h.addresses

theorem Remembers.rememberHost {net : NetworkHoneypot} (h : Remembers writes net)
    (haddress : AddressOf host ip) (first : Nat) :
    Remembers (writes ++ [(ip, host)]) (net.rememberHost ip host first) := by
  have hinsert := rememberHost_resolvedHosts h.length_lt ip host first
  refine ⟨?_, ?_, ?_⟩
  · rw [hinsert]
    exact LastWriter.nodup_insert h.nodup ip host
  · rw [hinsert, LastWriter.insert]
    intro entry hentry
    rcases List.mem_append.1 hentry with hold | hnew
    · exact h.addresses entry (List.mem_of_mem_filter hold)
    · rw [List.mem_singleton.1 hnew]
      exact haddress
  · intro ip'
    have hlookup : (net.rememberHost ip host first).domainFor ip' =
        LastWriter.lookup (LastWriter.insert net.resolvedHosts ip host) ip' := by
      rw [← hinsert]
      rfl
    rw [hlookup, LastWriter.lookup_insert, LastWriter.last_concat, ← h.domain ip']
    rfl

theorem remember_addressOf {port : Option UInt16}
    (h : .remember ip host' ∈ resolveActions host port) : host' = host ∧ AddressOf host ip := by
  simp only [resolveActions, List.mem_cons, List.not_mem_nil, or_false, NetworkAction.remember.injEq,
    reduceCtorEq] at h
  rcases h with ⟨rfl, rfl⟩ | ⟨rfl, rfl⟩
  · exact ⟨rfl, .inl rfl⟩
  · exact ⟨rfl, .inr rfl⟩

theorem addressOf_remember (h : AddressOf host ip) (port : Option UInt16) :
    .remember ip host ∈ resolveActions host port := by
  rcases h with rfl | rfl
  · exact List.mem_cons_self
  · exact List.mem_cons_of_mem _ List.mem_cons_self

/-- The map answers with what was stored last, and nothing is ever evicted from it. -/
structure HostsLaw (writes : List (IpAddr × String)) (world : NetworkWorld) : Prop where
  nodup : (world.net.resolvedHosts.map Prod.fst).Nodup
  addresses : ∀ entry ∈ world.net.resolvedHosts, AddressOf entry.2 entry.1
  pending : ∀ actions ∈ world.resolving, ∀ ip host, .remember ip host ∈ actions →
    AddressOf host ip
  domain : ∀ ip, world.net.domainFor ip = LastWriter.last writes ip

theorem HostsLaw.advance {writes : List (IpAddr × String)} {world : NetworkWorld} {index : Nat}
    {action : NetworkAction} {actions : List NetworkAction} (h : HostsLaw writes world)
    (hi : world.resolving[index]? = some (action :: actions)) :
    ∀ found ∈ world.resolving.set index actions, ∀ ip host, .remember ip host ∈ found →
      AddressOf host ip := by
  intro found hfound ip host hmem
  rcases List.mem_or_eq_of_mem_set hfound with hold | rfl
  · exact h.pending found hold ip host hmem
  · exact h.pending _ (List.mem_of_getElem? hi) ip host (List.mem_cons_of_mem _ hmem)

theorem HostsLaw.step {writes : List (IpAddr × String)} {world : NetworkWorld}
    (h : HostsLaw writes world) (move : NetworkMove) :
    HostsLaw (writes ++ (world.stores move).toList) (world.step move).2 := by
  have houtcome := world.step_hosts move
  generalize world.stores move = written at houtcome
  generalize (world.step move).2 = next at houtcome
  cases houtcome with
  | other _ hhosts hresolving =>
    rw [Option.toList_none, List.append_nil]
    refine ⟨hhosts ▸ h.nodup, hhosts ▸ h.addresses, hresolving ▸ h.pending, ?_⟩
    intro ip
    rw [← h.domain ip, NetworkHoneypot.domainFor, hhosts]
    rfl
  | resolve host port =>
    rw [Option.toList_none, List.append_nil]
    refine ⟨h.nodup, h.addresses, ?_, h.domain⟩
    intro actions hactions ip host' hmem
    rcases List.mem_append.1 hactions with hold | hnew
    · exact h.pending actions hold ip host' hmem
    · rw [List.mem_singleton.1 hnew] at hmem
      obtain ⟨rfl, haddress⟩ := remember_addressOf hmem
      exact haddress
  | record index event actions hi =>
    rw [Option.toList_none, List.append_nil]
    exact ⟨h.nodup, h.addresses, h.advance hi, h.domain⟩
  | remember index first ip host actions hi =>
    have haddress := h.pending _ (List.mem_of_getElem? hi) ip host List.mem_cons_self
    have hnet : Remembers writes world.net := ⟨h.nodup, h.addresses, h.domain⟩
    have hremembered := hnet.rememberHost haddress first
    rw [Option.toList_some]
    exact ⟨hremembered.nodup, hremembered.addresses, h.advance hi, hremembered.domain⟩

theorem HostsLaw.run {writes : List (IpAddr × String)} {world : NetworkWorld}
    (h : HostsLaw writes world) (moves : List NetworkMove) :
    HostsLaw (writes ++ world.stored moves) (Machine.final NetworkWorld.step world moves) := by
  induction moves generalizing writes world with
  | nil => exact (List.append_nil writes).symm ▸ h
  | cons move moves ih =>
    rw [NetworkWorld.stored, ← List.append_assoc]
    exact ih (h.step move)

theorem start_hosts (mockResponse : List UInt8) : HostsLaw [] (.start mockResponse) := by
  refine ⟨List.nodup_nil, ?_, ?_, fun _ => rfl⟩
  · intro entry hentry
    cases hentry
  · intro actions hactions
    cases hactions

theorem NetworkWorld.stored_append (world : NetworkWorld) (moves moves' : List NetworkMove) :
    world.stored (moves ++ moves') =
      world.stored moves ++ (Machine.final NetworkWorld.step world moves).stored moves' := by
  induction moves generalizing world with
  | nil => rfl
  | cons move moves ih =>
    rw [List.cons_append, stored, stored, ih, List.append_assoc]
    rfl

/-- A `resolve` call for the host has stored each of its addresses, or still has to. -/
def Resolving (writes : List (IpAddr × String)) (index : Nat) (host : String)
    (world : NetworkWorld) : Prop :=
  ∃ actions, world.resolving[index]? = some actions ∧
    ∀ ip, AddressOf host ip → (ip, host) ∈ writes ∨ .remember ip host ∈ actions

theorem Resolving.set {writes writes' : List (IpAddr × String)} {index i : Nat} {host : String}
    {world : NetworkWorld} {action : NetworkAction} {actions : List NetworkAction}
    (h : Resolving writes index host world)
    (hi : world.resolving[i]? = some (action :: actions))
    (hkeep : ∀ entry ∈ writes, entry ∈ writes')
    (haction : ∀ ip, action = .remember ip host → (ip, host) ∈ writes') :
    ∃ found, (world.resolving.set i actions)[index]? = some found ∧
      ∀ ip, AddressOf host ip → (ip, host) ∈ writes' ∨ .remember ip host ∈ found := by
  obtain ⟨found, hfound, hall⟩ := h
  by_cases hij : index = i
  · subst hij
    obtain rfl := Option.some.inj (hfound.symm.trans hi)
    refine ⟨actions, List.getElem?_set_self (List.getElem?_eq_some_iff.1 hi).1, ?_⟩
    intro ip hip
    rcases hall ip hip with hold | hmem
    · exact .inl (hkeep _ hold)
    · rcases List.mem_cons.1 hmem with heq | hlater
      · exact .inl (haction ip heq.symm)
      · exact .inr hlater
  · refine ⟨found, (List.getElem?_set_ne (Ne.symm hij)).trans hfound, ?_⟩
    intro ip hip
    exact (hall ip hip).imp_left (hkeep _)

theorem Resolving.step {writes : List (IpAddr × String)} {index : Nat} {host : String}
    {world : NetworkWorld} (h : Resolving writes index host world) (move : NetworkMove) :
    Resolving (writes ++ (world.stores move).toList) index host (world.step move).2 := by
  have houtcome := world.step_hosts move
  generalize world.stores move = written at houtcome
  generalize (world.step move).2 = next at houtcome
  have hkeep : ∀ entry ∈ writes, entry ∈ writes ++ written.toList := by
    intro entry hentry
    exact List.mem_append_left _ hentry
  cases houtcome with
  | other _ hhosts hresolving =>
    obtain ⟨actions, hactions, hall⟩ := h
    refine ⟨actions, hresolving ▸ hactions, ?_⟩
    intro ip hip
    exact (hall ip hip).imp_left (hkeep _)
  | resolve host' port =>
    obtain ⟨actions, hactions, hall⟩ := h
    have hlt := (List.getElem?_eq_some_iff.1 hactions).1
    refine ⟨actions, (List.getElem?_append_left hlt).trans hactions, ?_⟩
    intro ip hip
    exact (hall ip hip).imp_left (hkeep _)
  | record i event actions hi =>
    apply h.set hi hkeep
    intro ip heq
    cases heq
  | remember i first ip host' actions hi =>
    apply h.set hi hkeep
    intro ip' heq
    cases heq
    exact List.mem_append_right _ List.mem_cons_self

theorem Resolving.run {writes : List (IpAddr × String)} {index : Nat} {host : String}
    {world : NetworkWorld} (h : Resolving writes index host world) (moves : List NetworkMove) :
    Resolving (writes ++ world.stored moves) index host
      (Machine.final NetworkWorld.step world moves) := by
  induction moves generalizing writes world with
  | nil => exact (List.append_nil writes).symm ▸ h
  | cons move moves ih =>
    rw [NetworkWorld.stored, ← List.append_assoc]
    exact ih (h.step move)

theorem ResolveReturned.stored {start : NetworkWorld} {before between : List NetworkMove}
    {host : String} {port : Option UInt16} {ip : IpAddr}
    (h : ResolveReturned start before host port between) (hip : AddressOf host ip) :
    (ip, host) ∈ start.stored (before ++ .resolve host port :: between) := by
  rw [ResolveReturned, Machine.final_append] at h
  rw [NetworkWorld.stored_append]
  generalize Machine.final NetworkWorld.step start before = world at h
  have hbegun : Resolving [] world.resolving.length host
      (world.step (.resolve host port)).2 := by
    refine ⟨resolveActions host port, List.getElem?_concat_length, ?_⟩
    intro ip hip
    exact .inr (addressOf_remember hip port)
  obtain ⟨actions, hactions, hall⟩ := hbegun.run between
  obtain rfl : actions = [] := Option.some.inj (hactions.symm.trans h)
  apply List.mem_append_right
  exact (hall ip hip).resolve_right List.not_mem_nil

theorem causedBy_domain (mockResponse : List UInt8) (earlier later : List NetworkMove)
    (addr peer : SocketAddr) :
    let world := Machine.final NetworkWorld.step (.start mockResponse) earlier
    ∀ event ∈ causedBy (networkHistory (Machine.trace NetworkWorld.step (.start mockResponse)
        (earlier ++ .connect addr peer :: later))) (.socket world.sockets.length),
      event.domain = world.net.domainFor peer.ip := by
  intro world event hevent
  have hearlier := (start_invariant mockResponse).run earlier
  have hwhole := (start_invariant mockResponse).run (earlier ++ .connect addr peer :: later)
  rw [List.nil_append] at hwhole
  obtain ⟨opened, hopened, -, hdomain⟩ :=
    (connect_keeps world addr peer).run (hearlier.step (.connect addr peer)) later
  rw [Machine.final_append] at hwhole
  have hlaw := hwhole.lawful _ opened hopened
  rw [← hdomain]
  exact (hlaw.stamped event (List.mem_append_left _ hevent)).2

theorem connect_recorded (mockResponse : List UInt8) (earlier : List NetworkMove)
    (addr peer : SocketAddr) :
    let world := Machine.final NetworkWorld.step (.start mockResponse) earlier
    ∃ later, ∃ event ∈ causedBy (networkHistory (Machine.trace NetworkWorld.step
        (.start mockResponse) (earlier ++ .connect addr peer :: later)))
        (.socket world.sockets.length),
      event.operation = .connectIntercepted := by
  intro world
  let event : NetworkHoneypotEvent :=
    ⟨peer, (world.net.connectTcp addr peer).1.socket.domain, .connectIntercepted, [], 0⟩
  have hpending : (world.net.connectTcp addr peer).1.pending = [event] := rfl
  have hadvance : ((world.step (.connect addr peer)).2.advanceSocket world.sockets.length).1 =
      some (.socket world.sockets.length, event) := by
    have hopened : (world.step (.connect addr peer)).2.sockets[world.sockets.length]? =
        some (world.net.connectTcp addr peer).1 := List.getElem?_concat_length
    rw [NetworkWorld.advanceSocket, hopened]
    simp only [hpending]
  refine ⟨[.advanceSocket world.sockets.length], event, ?_, rfl⟩
  have hmem : (Cause.socket world.sockets.length, event) ∈ networkHistory
      (Machine.trace NetworkWorld.step world
        [.connect addr peer, .advanceSocket world.sockets.length]) := by
    rw [networkHistory, List.mem_filterMap]
    refine ⟨(.advanceSocket world.sockets.length, some (.socket world.sockets.length, event)),
      ?_, rfl⟩
    rw [← hadvance]
    exact List.mem_cons_of_mem _ List.mem_cons_self
  rw [Machine.trace_append, networkHistory, List.filterMap_append, causedBy, List.mem_map]
  refine ⟨(.socket world.sockets.length, event), ?_, rfl⟩
  rw [List.mem_filter]
  exact ⟨List.mem_append_right _ hmem, decide_eq_true rfl⟩

/-- In every interleaving, a connection to an address that `resolve` returned for a host is
attributed to this host exactly when the host was stored again after each other host that was
stored under the address. -/
theorem domain_attributed_iff (mockResponse : List UInt8) (before : List NetworkMove)
    (host : String) (port : Option UInt16) (between : List NetworkMove) (addr peer : SocketAddr)
    (hreturned : ResolveReturned (.start mockResponse) before host port between)
    (hip : AddressOf host peer.ip) :
    let earlier := before ++ .resolve host port :: between
    let world := Machine.final NetworkWorld.step (.start mockResponse) earlier
    (∀ later, ∀ event ∈ causedBy (networkHistory (Machine.trace NetworkWorld.step
        (.start mockResponse) (earlier ++ .connect addr peer :: later)))
        (.socket world.sockets.length), event.domain = some host) ↔
      LastWriter.Restored (NetworkWorld.stored (.start mockResponse) earlier) peer.ip host := by
  intro earlier world
  have hlaw := (start_hosts mockResponse).run earlier
  rw [List.nil_append] at hlaw
  rw [← LastWriter.last_eq_iff _ (hreturned.stored hip), ← hlaw.domain peer.ip]
  apply Iff.intro
  · intro h
    obtain ⟨later, event, hevent, -⟩ := connect_recorded mockResponse earlier addr peer
    rw [← h later event hevent]
    exact (causedBy_domain mockResponse earlier later addr peer event hevent).symm
  · intro h later event hevent
    rw [← h]
    exact causedBy_domain mockResponse earlier later addr peer event hevent

def resolveMoves (index : Nat) : List NetworkMove := List.replicate 3 (.advanceResolve index 0)

theorem restored_host_attributed :
    let before := .resolve "ii.io" none :: resolveMoves 0
    let earlier := before ++ .resolve "aa.io" none :: resolveMoves 1
    let addr : SocketAddr := ⟨.v4 0, 0⟩
    let peer : SocketAddr := ⟨(deterministicHoneypotIps "aa.io").1, 80⟩
    ResolveReturned (.start []) before "aa.io" none (resolveMoves 1) ∧
      ∀ later, ∀ event ∈ causedBy (networkHistory (Machine.trace NetworkWorld.step (.start [])
        (earlier ++ .connect addr peer :: later))) (.socket 0), event.domain = some "aa.io" := by
  intro before earlier addr peer
  have hreturned : ResolveReturned (.start []) before "aa.io" none (resolveMoves 1) := rfl
  refine ⟨hreturned, (domain_attributed_iff [] before "aa.io" none (resolveMoves 1) addr peer
    hreturned (.inl rfl)).2 ?_⟩
  rw [← LastWriter.last_eq_iff _ (hreturned.stored (.inl rfl))]
  decide

theorem colliding_host_takes_over :
    let between := resolveMoves 0 ++ .resolve "ii.io" none :: resolveMoves 1
    let earlier := .resolve "aa.io" none :: between
    let addr : SocketAddr := ⟨.v4 0, 0⟩
    let peer : SocketAddr := ⟨(deterministicHoneypotIps "aa.io").1, 80⟩
    ResolveReturned (.start []) [] "aa.io" none between ∧ AddressOf "aa.io" peer.ip ∧
      causedBy (networkHistory (Machine.trace NetworkWorld.step (.start [])
        (earlier ++ [.connect addr peer, .advanceSocket 0]))) (.socket 0) =
        [⟨peer, some "ii.io", .connectIntercepted, [], 0⟩] ∧
      ¬∀ later, ∀ event ∈ causedBy (networkHistory (Machine.trace NetworkWorld.step (.start [])
        (earlier ++ .connect addr peer :: later))) (.socket 0), event.domain = some "aa.io" := by
  intro between earlier addr peer
  have hcaused : causedBy (networkHistory (Machine.trace NetworkWorld.step (.start [])
      (earlier ++ [.connect addr peer, .advanceSocket 0]))) (.socket 0) =
      [⟨peer, some "ii.io", .connectIntercepted, [], 0⟩] := by decide
  refine ⟨rfl, .inl rfl, hcaused, ?_⟩
  intro hall
  have hevent := hall [.advanceSocket 0] ⟨peer, some "ii.io", .connectIntercepted, [], 0⟩
  rw [hcaused] at hevent
  exact absurd (hevent List.mem_cons_self) (by decide)

end WasmerSectest
