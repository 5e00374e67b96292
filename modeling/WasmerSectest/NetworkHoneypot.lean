import WasmerSectest.HoneypotLog
import WasmerSectest.HoneypotSocket
import WasmerSectest.Lib.Utf8

namespace WasmerSectest
set_option autoImplicit true

def resolvedHostCapacity : Nat := 1024
def ephemeralPortBase : UInt32 := 49152
def ephemeralPortSpan : UInt32 := 16384

def hostHash (host : String) : UInt8 :=
  (Utf8.bytes host).foldl (fun acc byte => acc * 31 + byte) 0

/-- `203.0.113.x` and `2001:db8:x::1`. -/
def deterministicHoneypotIps (host : String) : IpAddr × IpAddr :=
  let hash := hostHash host
  (.v4 (0xcb007100#32 + BitVec.ofNat 32 (10 + hash % 200).toNat),
    .v6 (0x20010db8000000000000000000000001#128 + BitVec.ofNat 128 (hash.toNat * 2 ^ 80)))

def IpAddr.isUnspecified : IpAddr → Bool
  | .v4 bits => bits == 0
  | .v6 bits => bits == 0

def unspecifiedFor : IpAddr → IpAddr
  | .v4 _ => .v4 0
  | .v6 _ => .v6 0

/-- The state that every clone shares; `resolvedHosts` lists a hash map in the order in which
its keys happen to come. -/
structure NetworkHoneypot where
  events : List NetworkHoneypotEvent := []
  resolvedHosts : List (IpAddr × String) := []
  mockResponse : List UInt8
  nextEphemeral : UInt32 := 0

namespace NetworkHoneypot

def withMockResponse (mockResponse : List UInt8) : NetworkHoneypot where
  mockResponse := mockResponse

def record (net : NetworkHoneypot) (event : NetworkHoneypotEvent) : NetworkHoneypot :=
  { net with events := recordEvent honeypotEventCapacity net.events event }

/-- The key that comes first in the map is at no fixed place in the list. -/
def rememberHost (net : NetworkHoneypot) (ip : IpAddr) (host : String) (first : Nat) :
    NetworkHoneypot :=
  let hosts :=
    if resolvedHostCapacity ≤ net.resolvedHosts.length then
      net.resolvedHosts.eraseIdx (first % net.resolvedHosts.length)
    else net.resolvedHosts
  { net with resolvedHosts := hosts.filter (·.1 ≠ ip) ++ [(ip, host)] }

def domainFor (net : NetworkHoneypot) (ip : IpAddr) : Option String :=
  (net.resolvedHosts.find? (·.1 = ip)).map Prod.snd

def nextLocalAddr (net : NetworkHoneypot) (requested peer : SocketAddr) :
    SocketAddr × NetworkHoneypot :=
  let ip := if requested.ip.isUnspecified then unspecifiedFor peer.ip else requested.ip
  if requested.port = 0 then
    let offset := net.nextEphemeral % ephemeralPortSpan
    (⟨ip, (ephemeralPortBase + offset).toUInt16⟩,
      { net with nextEphemeral := net.nextEphemeral + 1 })
  else (⟨ip, requested.port⟩, net)

end NetworkHoneypot

/-- What a call still has to do to the shared state; each item takes the lock once. -/
inductive NetworkAction where
  | remember (ip : IpAddr) (host : String)
  | record (event : NetworkHoneypotEvent)
  deriving DecidableEq

def resolveActions (host : String) (port : Option UInt16) : List NetworkAction :=
  let addresses := deterministicHoneypotIps host
  [.remember addresses.1 host, .remember addresses.2 host,
    .record {
      target := ⟨addresses.1, port.getD 0⟩
      domain := some host
      operation := .resolveIntercepted
      payload := []
      mockedResponseBytes := 0 }]

def SocketEffect.recorded : SocketEffect → Option NetworkHoneypotEvent
  | .record event => some event
  | .pushInterest .. => none

/-- A socket with the events that the call running on it still has to record. -/
structure OpenSocket where
  localAddr : SocketAddr
  socket : HoneypotTcpSocket
  pending : List NetworkHoneypotEvent

/-- The socket of `connect_tcp`, which records the connection before it is handed out. -/
def NetworkHoneypot.connectTcp (net : NetworkHoneypot) (addr peer : SocketAddr) :
    OpenSocket × NetworkHoneypot :=
  let (localAddr, net) := net.nextLocalAddr addr peer
  let domain := net.domainFor peer.ip
  ({ localAddr
     socket := .new peer domain net.mockResponse
     pending := [{
      target := peer
      domain := domain
      operation := .connectIntercepted
      payload := []
      mockedResponseBytes := 0 }] }, net)

/-- A honeypot with all its sockets and the `resolve` calls in progress. -/
structure NetworkWorld where
  net : NetworkHoneypot
  sockets : List OpenSocket := []
  resolving : List (List NetworkAction) := []

/-- The moves of an interleaving: a call begins, or one that has begun takes the lock for its
next action. A socket is lent to one call at a time. -/
inductive NetworkMove where
  | resolve (host : String) (port : Option UInt16)
  | connect (addr peer : SocketAddr)
  | call (socket : Nat) (call : SocketCall)
  | advanceResolve (index : Nat) (first : Nat)
  | advanceSocket (socket : Nat)

inductive Cause where
  | resolve
  | socket (index : Nat)
  deriving DecidableEq

namespace NetworkWorld

def beginCall (world : NetworkWorld) (index : Nat) (call : SocketCall) : NetworkWorld :=
  match world.sockets[index]? with
  | some opened =>
    if opened.pending.isEmpty then
      let out := call.step opened.socket
      let opened : OpenSocket :=
        { opened with socket := out.2, pending := out.1.2.filterMap SocketEffect.recorded }
      { world with sockets := world.sockets.set index opened }
    else world
  | none => world

def advanceSocket (world : NetworkWorld) (index : Nat) :
    Option (Cause × NetworkHoneypotEvent) × NetworkWorld :=
  match world.sockets[index]? with
  | some opened =>
    match opened.pending with
    | event :: pending =>
      (some (.socket index, event),
        { world with
          net := world.net.record event
          sockets := world.sockets.set index { opened with pending } })
    | [] => (none, world)
  | none => (none, world)

def advanceResolve (world : NetworkWorld) (index first : Nat) :
    Option (Cause × NetworkHoneypotEvent) × NetworkWorld :=
  match world.resolving[index]? with
  | some (.remember ip host :: actions) =>
    (none, { world with
      net := world.net.rememberHost ip host first
      resolving := world.resolving.set index actions })
  | some (.record event :: actions) =>
    (some (.resolve, event), { world with
      net := world.net.record event
      resolving := world.resolving.set index actions })
  | _ => (none, world)

/-- One move, with the event it records, if any. -/
def step (world : NetworkWorld) (move : NetworkMove) :
    Option (Cause × NetworkHoneypotEvent) × NetworkWorld :=
  match move with
  | .resolve host port =>
    (none, { world with resolving := world.resolving ++ [resolveActions host port] })
  | .connect addr peer =>
    let (opened, net) := world.net.connectTcp addr peer
    (none, { world with net := net, sockets := world.sockets ++ [opened] })
  | .call index call => (none, world.beginCall index call)
  | .advanceResolve index first => world.advanceResolve index first
  | .advanceSocket index => world.advanceSocket index

end NetworkWorld

/-- Everything a move can do. -/
inductive NetworkOutcome (world : NetworkWorld) :
    NetworkMove → Option (Cause × NetworkHoneypotEvent) × NetworkWorld → Prop where
  | idle (move : NetworkMove) : NetworkOutcome world move (none, world)
  | resolve (host : String) (port : Option UInt16) :
    NetworkOutcome world (.resolve host port)
      (none, { world with resolving := world.resolving ++ [resolveActions host port] })
  | connect (addr peer : SocketAddr) :
    NetworkOutcome world (.connect addr peer)
      (none, { world with
        net := (world.net.connectTcp addr peer).2
        sockets := world.sockets ++ [(world.net.connectTcp addr peer).1] })
  | call (index : Nat) (call : SocketCall) (opened : OpenSocket)
    (hi : world.sockets[index]? = some opened) (hp : opened.pending = []) :
    NetworkOutcome world (.call index call)
      (none, { world with
        sockets := world.sockets.set index { opened with
          socket := (call.step opened.socket).2
          pending := (call.step opened.socket).1.2.filterMap SocketEffect.recorded } })
  | remember (index first : Nat) (ip : IpAddr) (host : String) (actions : List NetworkAction) :
    NetworkOutcome world (.advanceResolve index first)
      (none, { world with
        net := world.net.rememberHost ip host first
        resolving := world.resolving.set index actions })
  | recordResolve (index first : Nat) (event : NetworkHoneypotEvent)
    (actions : List NetworkAction) :
    NetworkOutcome world (.advanceResolve index first)
      (some (.resolve, event), { world with
        net := world.net.record event
        resolving := world.resolving.set index actions })
  | recordSocket (index : Nat) (opened : OpenSocket) (event : NetworkHoneypotEvent)
    (pending : List NetworkHoneypotEvent) (hi : world.sockets[index]? = some opened)
    (hp : opened.pending = event :: pending) :
    NetworkOutcome world (.advanceSocket index)
      (some (.socket index, event), { world with
        net := world.net.record event
        sockets := world.sockets.set index { opened with pending } })

theorem NetworkWorld.step_outcome (world : NetworkWorld) (move : NetworkMove) :
    NetworkOutcome world move (world.step move) := by
  cases move with
  | resolve host port => exact .resolve host port
  | connect addr peer => exact .connect addr peer
  | call index call =>
    rw [step, beginCall]
    cases hi : world.sockets[index]? with
    | none => exact .idle _
    | some opened =>
      cases hp : opened.pending with
      | nil =>
        simp only [hp]
        exact .call index call opened hi hp
      | cons event pending =>
        simp only [hp]
        exact .idle _
  | advanceResolve index first =>
    rw [step, advanceResolve]
    split
    · exact .remember ..
    · exact .recordResolve ..
    · exact .idle _
  | advanceSocket index =>
    rw [step, advanceSocket]
    cases hi : world.sockets[index]? with
    | none => exact .idle _
    | some opened =>
      cases hp : opened.pending with
      | nil =>
        simp only [hp]
        exact .idle _
      | cons event pending =>
        simp only [hp]
        exact .recordSocket index opened event pending hi hp

end WasmerSectest
