import WasmerSectest.HoneypotFileSystem
import WasmerSectest.NetworkHoneypot

namespace WasmerSectest
set_option autoImplicit true

def recordedEvents (effects : List SocketEffect) : List NetworkHoneypotEvent :=
  effects.filterMap SocketEffect.recorded

/-- Each record of a payload comes with one of the mock response, when the response is readied. -/
def HoneypotTcpSocket.Consistent (socket : HoneypotTcpSocket) : Prop :=
  socket.payloadLogged = socket.responseReady ∧ socket.mockLogged = socket.responseReady

def NetworkHoneypotEvent.Of (peer : SocketAddr) (domain : Option String)
    (event : NetworkHoneypotEvent) : Prop :=
  event.target = peer ∧ event.domain = domain

/-- What one call adds to the log. -/
structure LogsOnce (socket next : HoneypotTcpSocket) (events : List NetworkHoneypotEvent) :
    Prop where
  peerAddr : next.peerAddr = socket.peerAddr
  domain : next.domain = socket.domain
  consistent : next.Consistent
  ready : socket.responseReady = true → next.responseReady = true
  operations : events.map (·.operation) =
    if socket.responseReady = next.responseReady then []
    else [.payloadCaptured, .mockResponseInjected]
  stamped : ∀ event ∈ events, event.Of socket.peerAddr socket.domain

namespace HoneypotTcpSocket

variable {socket : HoneypotTcpSocket}

theorem recordedEvents_pushInterest (interest : InterestType) :
    recordedEvents (socket.pushInterest interest) = [] := by
  rw [pushInterest]
  cases socket.handler <;> rfl

theorem recordedEvents_append (effects effects' : List SocketEffect) :
    recordedEvents (effects ++ effects') = recordedEvents effects ++ recordedEvents effects' :=
  List.filterMap_append

theorem recordedEvents_record (hc : socket.Consistent) (hr : socket.responseReady = false) :
    recordedEvents socket.recordPayloadAndPrepareResponse.2 =
      [⟨socket.peerAddr, socket.domain, .payloadCaptured, socket.request, 0⟩,
        ⟨socket.peerAddr, socket.domain, .mockResponseInjected, [], socket.response.length⟩] := by
  rw [recordPayloadAndPrepareResponse]
  simp only [recordedEvents_append, recordedEvents_pushInterest, hc.1.trans hr, hc.2.trans hr]
  rfl

theorem logsOnce_quiet {next : HoneypotTcpSocket} {effects : List SocketEffect}
    (hc : socket.Consistent) (hpeer : next.peerAddr = socket.peerAddr)
    (hdomain : next.domain = socket.domain) (hpayload : next.payloadLogged = socket.payloadLogged)
    (hmock : next.mockLogged = socket.mockLogged)
    (hready : next.responseReady = socket.responseReady) (hnone : recordedEvents effects = []) :
    LogsOnce socket next (recordedEvents effects) := by
  apply LogsOnce.mk hpeer hdomain
  · exact ⟨(hpayload.trans hc.1).trans hready.symm, (hmock.trans hc.2).trans hready.symm⟩
  · exact hready.trans
  · rw [hnone, if_pos hready.symm]
    rfl
  · rw [hnone]
    exact nofun

theorem logsOnce_record (hc : socket.Consistent) (hr : socket.responseReady = false) :
    LogsOnce socket socket.recordPayloadAndPrepareResponse.1
      (recordedEvents socket.recordPayloadAndPrepareResponse.2) := by
  refine ⟨rfl, rfl, ⟨rfl, rfl⟩, fun _ => rfl, ?_, ?_⟩
  · have hne : ¬socket.responseReady =
        socket.recordPayloadAndPrepareResponse.1.responseReady := by
      rw [hr]
      exact Bool.false_ne_true
    rw [recordedEvents_record hc hr, if_neg hne]
    rfl
  · intro event h
    rw [recordedEvents_record hc hr, List.mem_cons, List.mem_singleton] at h
    rcases h with rfl | rfl <;> exact ⟨rfl, rfl⟩

theorem readResponse_quiet (bufLen : Nat) (peek : Bool) :
    (socket.readResponse bufLen peek).2.1.peerAddr = socket.peerAddr ∧
      (socket.readResponse bufLen peek).2.1.domain = socket.domain ∧
      (socket.readResponse bufLen peek).2.1.mockLogged = socket.mockLogged ∧
      recordedEvents (socket.readResponse bufLen peek).2.2 = [] := by
  rw [readResponse]
  simp only
  split
  · exact ⟨rfl, rfl, rfl, recordedEvents_pushInterest .closed⟩
  · exact ⟨rfl, rfl, rfl, rfl⟩

theorem logsOnce_readResponse (hc : socket.Consistent) (bufLen : Nat) (peek : Bool) :
    LogsOnce socket (socket.readResponse bufLen peek).2.1
      (recordedEvents (socket.readResponse bufLen peek).2.2) := by
  obtain ⟨hpeer, hdomain, hmock, hnone⟩ := socket.readResponse_quiet bufLen peek
  obtain ⟨-, hpayload, hready⟩ := socket.readResponse_frame bufLen peek
  exact logsOnce_quiet hc hpeer hdomain hpayload hmock hready hnone

end HoneypotTcpSocket

open HoneypotTcpSocket

theorem step_logsOnce {socket : HoneypotTcpSocket} (hc : socket.Consistent)
    (call : SocketCall) :
    LogsOnce socket (call.step socket).2 (recordedEvents (call.step socket).1.2) := by
  have houtcome := call.step_outcome socket
  generalize call.step socket = out at houtcome
  cases houtcome with
  | sendClosed | flushIdle | recvWouldBlock | pollRead | pollWrite | setHandler
  | removeHandler | setSendBufSize | sendPending =>
    exact logsOnce_quiet hc rfl rfl rfl rfl rfl rfl
  | close | shutdown =>
    exact logsOnce_quiet hc rfl rfl rfl rfl rfl (recordedEvents_pushInterest .closed)
  | sendComplete data _ hr =>
    have h : LogsOnce (socket.extendRequest data) _ _ := logsOnce_record hc hr
    exact ⟨h.peerAddr, h.domain, h.consistent, h.ready, h.operations, h.stamped⟩
  | flushRecord he hr => exact logsOnce_record hc hr
  | recvReady bufLen peek => exact logsOnce_readResponse hc bufLen peek
  | recvRecord bufLen peek hr he =>
    have h := logsOnce_record hc hr
    obtain ⟨hpeer, hdomain, hmock, hnone⟩ :=
      socket.recordPayloadAndPrepareResponse.1.readResponse_quiet bufLen peek
    obtain ⟨-, hpayload, hready⟩ :=
      socket.recordPayloadAndPrepareResponse.1.readResponse_frame bufLen peek
    rw [recordedEvents_append, hnone, List.append_nil]
    refine ⟨hpeer, hdomain, ⟨hpayload.trans hready.symm, hmock.trans hready.symm⟩,
      fun _ => hready, ?_, ?_⟩
    · rw [hready]
      exact h.operations
    · exact h.stamped

abbrev NetworkHistory := List (Cause × NetworkHoneypotEvent)

def causedBy (history : NetworkHistory) (cause : Cause) : List NetworkHoneypotEvent :=
  (history.filter (·.1 = cause)).map Prod.snd

/-- Everything recorded in a run. -/
def networkHistory (trace : List (NetworkMove × Option (Cause × NetworkHoneypotEvent))) :
    NetworkHistory :=
  trace.filterMap Prod.snd

/-- A socket has recorded, or is about to record, its connection and at most one request. -/
structure SocketLaw (caused : List NetworkHoneypotEvent) (opened : OpenSocket) : Prop where
  consistent : opened.socket.Consistent
  operations : (caused ++ opened.pending).map (·.operation) =
    .connectIntercepted ::
      if opened.socket.responseReady then [.payloadCaptured, .mockResponseInjected] else []
  stamped : ∀ event ∈ caused ++ opened.pending,
    event.Of opened.socket.peerAddr opened.socket.domain

structure NetworkInvariant (history : NetworkHistory) (world : NetworkWorld) : Prop where
  logged : world.net.events =
    BoundedLog.last honeypotEventCapacity (history.map Prod.snd)
  known : ∀ i, world.sockets.length ≤ i → causedBy history (.socket i) = []
  lawful : ∀ i opened, world.sockets[i]? = some opened →
    SocketLaw (causedBy history (.socket i)) opened

section
variable {history : NetworkHistory}

theorem causedBy_concat_self (cause : Cause) (event : NetworkHoneypotEvent) :
    causedBy (history ++ [(cause, event)]) cause = causedBy history cause ++ [event] := by
  simp [causedBy]

theorem causedBy_concat_of_ne {cause other : Cause} (h : other ≠ cause)
    (event : NetworkHoneypotEvent) :
    causedBy (history ++ [(other, event)]) cause = causedBy history cause := by
  simp [causedBy, h]

theorem logged_concat {net : NetworkHoneypot}
    (h : net.events = BoundedLog.last honeypotEventCapacity (history.map Prod.snd))
    (cause : Cause) (event : NetworkHoneypotEvent) :
    (net.record event).events =
      BoundedLog.last honeypotEventCapacity ((history ++ [(cause, event)]).map Prod.snd) := by
  have hpos : 0 < honeypotEventCapacity := by decide
  rw [NetworkHoneypot.record, h, List.map_append]
  exact foldl_recordEvent hpos _ [event]

theorem SocketLaw.call {opened : OpenSocket} {caused : List NetworkHoneypotEvent}
    (h : SocketLaw caused opened) (hidle : opened.pending = []) (call : SocketCall) :
    SocketLaw caused { opened with
      socket := (call.step opened.socket).2
      pending := recordedEvents (call.step opened.socket).1.2 } := by
  have hlogs := step_logsOnce h.consistent call
  have hops := h.operations
  have hstamped := h.stamped
  rw [hidle, List.append_nil] at hops hstamped
  refine ⟨hlogs.consistent, ?_, ?_⟩
  · rw [List.map_append, hops, hlogs.operations]
    cases hr : opened.socket.responseReady with
    | true =>
      rw [hlogs.ready hr]
      rfl
    | false =>
      cases (call.step opened.socket).2.responseReady <;> rfl
  · intro event he
    rw [hlogs.peerAddr, hlogs.domain]
    rcases List.mem_append.1 he with he | he
    · exact hstamped event he
    · exact hlogs.stamped event he

theorem SocketLaw.advance {opened : OpenSocket} {caused pending : List NetworkHoneypotEvent}
    {event : NetworkHoneypotEvent} (h : SocketLaw caused opened)
    (hpending : opened.pending = event :: pending) :
    SocketLaw (caused ++ [event]) { opened with pending } := by
  have heq : caused ++ [event] ++ pending = caused ++ opened.pending := by
    rw [hpending, List.append_assoc]
    rfl
  refine ⟨h.consistent, ?_, ?_⟩
  · rw [heq]
    exact h.operations
  · rw [heq]
    exact h.stamped

theorem NetworkInvariant.lawful_set {world : NetworkWorld} {next : OpenSocket}
    {history' : NetworkHistory} {i : Nat} (h : NetworkInvariant history world)
    (hother : ∀ j, j ≠ i → causedBy history' (.socket j) = causedBy history (.socket j))
    (hnext : SocketLaw (causedBy history' (.socket i)) next) :
    ∀ j found, (world.sockets.set i next)[j]? = some found →
      SocketLaw (causedBy history' (.socket j)) found := by
  intro j found hj
  by_cases hij : j = i
  · subst hij
    rw [List.getElem?_set_self'] at hj
    obtain ⟨-, -, rfl⟩ := Option.map_eq_some_iff.1 hj
    exact hnext
  · rw [List.getElem?_set_ne (Ne.symm hij)] at hj
    rw [hother j hij]
    exact h.lawful j found hj

theorem NetworkInvariant.append {world : NetworkWorld} {opened : OpenSocket}
    (h : NetworkInvariant history world) (hnew : SocketLaw [] opened) :
    ∀ j found, (world.sockets ++ [opened])[j]? = some found →
      SocketLaw (causedBy history (.socket j)) found := by
  intro j found hj
  by_cases hlt : j < world.sockets.length
  · rw [List.getElem?_append_left hlt] at hj
    exact h.lawful j found hj
  · have hle := Nat.le_of_not_lt hlt
    rw [List.getElem?_append_right hle] at hj
    obtain rfl := List.mem_singleton.1 (List.mem_of_getElem? hj)
    rw [h.known j hle]
    exact hnew

theorem connectTcp_lawful (net : NetworkHoneypot) (addr peer : SocketAddr) :
    SocketLaw [] (net.connectTcp addr peer).1 := by
  refine ⟨⟨rfl, rfl⟩, rfl, ?_⟩
  intro event he
  obtain rfl := List.mem_singleton.1 he
  exact ⟨rfl, rfl⟩

theorem nextLocalAddr_frame (net : NetworkHoneypot) (requested peer : SocketAddr) :
    ∃ nextEphemeral,
      (net.nextLocalAddr requested peer).2 = { net with nextEphemeral } := by
  rw [NetworkHoneypot.nextLocalAddr]
  simp only
  split
  · exact ⟨_, rfl⟩
  · exact ⟨_, rfl⟩

theorem connectTcp_events (net : NetworkHoneypot) (addr peer : SocketAddr) :
    (net.connectTcp addr peer).2.events = net.events := by
  obtain ⟨nextEphemeral, hnext⟩ := nextLocalAddr_frame net addr peer
  change (net.nextLocalAddr addr peer).2.events = net.events
  rw [hnext]

theorem connectTcp_domain (net : NetworkHoneypot) (addr peer : SocketAddr) :
    (net.connectTcp addr peer).1.socket.domain = net.domainFor peer.ip := by
  obtain ⟨nextEphemeral, hnext⟩ := nextLocalAddr_frame net addr peer
  change (net.nextLocalAddr addr peer).2.domainFor peer.ip = net.domainFor peer.ip
  rw [hnext]
  rfl

theorem NetworkInvariant.step {world : NetworkWorld} (h : NetworkInvariant history world)
    (move : NetworkMove) :
    NetworkInvariant (history ++ (world.step move).1.toList) (world.step move).2 := by
  have houtcome := world.step_outcome move
  generalize world.step move = out at houtcome
  cases houtcome with
  | idle | resolve =>
    rw [Option.toList_none, List.append_nil]
    exact ⟨h.logged, h.known, h.lawful⟩
  | remember =>
    rw [Option.toList_none, List.append_nil]
    exact ⟨h.logged, h.known, h.lawful⟩
  | connect addr peer =>
    rw [Option.toList_none, List.append_nil]
    refine ⟨?_, ?_, h.append (connectTcp_lawful world.net addr peer)⟩
    · rw [connectTcp_events]
      exact h.logged
    · intro j hj
      rw [List.length_append] at hj
      exact h.known j (Nat.le_of_add_right_le hj)
  | call i call opened hi hp =>
    rw [Option.toList_none, List.append_nil]
    refine ⟨h.logged, ?_, ?_⟩
    · intro j hj
      rw [List.length_set] at hj
      exact h.known j hj
    · exact h.lawful_set (fun _ _ => rfl) ((h.lawful i opened hi).call hp call)
  | recordResolve i first event actions =>
    have hkeep (j : Nat) : causedBy (history ++ [(.resolve, event)]) (.socket j) =
        causedBy history (.socket j) :=
      causedBy_concat_of_ne Cause.noConfusion event
    refine ⟨logged_concat h.logged .resolve event, ?_, ?_⟩
    · intro j hj
      exact (hkeep j).trans (h.known j hj)
    · intro j found hj
      rw [Option.toList_some, hkeep j]
      exact h.lawful j found hj
  | recordSocket i opened event pending hi hp =>
    have hkeep (j : Nat) (hij : j ≠ i) :
        causedBy (history ++ [(.socket i, event)]) (.socket j) =
          causedBy history (.socket j) :=
      causedBy_concat_of_ne (fun he => hij (Cause.socket.inj he).symm) event
    refine ⟨logged_concat h.logged (.socket i) event, ?_, ?_⟩
    · intro j hj
      rw [List.length_set] at hj
      have hlt : i < world.sockets.length := (List.getElem?_eq_some_iff.1 hi).1
      exact (hkeep j (Nat.ne_of_gt (Nat.lt_of_lt_of_le hlt hj))).trans (h.known j hj)
    · apply h.lawful_set hkeep
      rw [causedBy_concat_self]
      exact (h.lawful i opened hi).advance hp

end

/-- A socket belongs to a connection and to the domain known when it was made. -/
def Keeps (peer : SocketAddr) (domain : Option String) (index : Nat) (world : NetworkWorld) :
    Prop :=
  ∃ opened, world.sockets[index]? = some opened ∧ opened.socket.peerAddr = peer ∧
    opened.socket.domain = domain

theorem connect_keeps (world : NetworkWorld) (addr peer : SocketAddr) :
    Keeps peer (world.net.domainFor peer.ip) world.sockets.length
      (world.step (.connect addr peer)).2 := by
  refine ⟨(world.net.connectTcp addr peer).1, List.getElem?_concat_length, rfl, ?_⟩
  exact connectTcp_domain world.net addr peer

theorem Keeps.set {peer : SocketAddr} {domain : Option String} {index i : Nat}
    {world : NetworkWorld} {opened next : OpenSocket} (h : Keeps peer domain index world)
    (hi : world.sockets[i]? = some opened)
    (hpeer : next.socket.peerAddr = opened.socket.peerAddr)
    (hdomain : next.socket.domain = opened.socket.domain) :
    ∃ found, (world.sockets.set i next)[index]? = some found ∧
      found.socket.peerAddr = peer ∧ found.socket.domain = domain := by
  obtain ⟨found, hfound, hp, hd⟩ := h
  by_cases hij : index = i
  · subst hij
    obtain rfl := Option.some.inj (hfound.symm.trans hi)
    have hlt := (List.getElem?_eq_some_iff.1 hfound).1
    exact ⟨next, List.getElem?_set_self hlt, hpeer.trans hp, hdomain.trans hd⟩
  · exact ⟨found, (List.getElem?_set_ne (Ne.symm hij)).trans hfound, hp, hd⟩

theorem Keeps.step {history : NetworkHistory} {peer : SocketAddr} {domain : Option String}
    {index : Nat} {world : NetworkWorld} (hinv : NetworkInvariant history world)
    (h : Keeps peer domain index world) (move : NetworkMove) :
    Keeps peer domain index (world.step move).2 := by
  have houtcome := world.step_outcome move
  generalize world.step move = out at houtcome
  cases houtcome with
  | idle | resolve | remember | recordResolve => exact h
  | connect addr peer' =>
    obtain ⟨found, hfound, hp, hd⟩ := h
    have hlt := (List.getElem?_eq_some_iff.1 hfound).1
    exact ⟨found, (List.getElem?_append_left hlt).trans hfound, hp, hd⟩
  | call i call opened hi _ =>
    have hlogs := step_logsOnce (hinv.lawful i opened hi).consistent call
    exact h.set hi hlogs.peerAddr hlogs.domain
  | recordSocket i opened event pending hi _ => exact h.set hi rfl rfl

theorem networkHistory_concat
    (tr : List (NetworkMove × Option (Cause × NetworkHoneypotEvent))) (move : NetworkMove)
    (recorded : Option (Cause × NetworkHoneypotEvent)) :
    networkHistory (tr ++ [(move, recorded)]) = networkHistory tr ++ recorded.toList := by
  rw [networkHistory, List.filterMap_append]
  cases recorded <;> rfl

theorem NetworkInvariant.run {history : NetworkHistory} {world : NetworkWorld}
    (h : NetworkInvariant history world) (moves : List NetworkMove) :
    NetworkInvariant
      (history ++ networkHistory (Machine.trace NetworkWorld.step world moves))
      (Machine.final NetworkWorld.step world moves) := by
  apply Machine.trace_induction NetworkWorld.step
    (J := fun tr world => NetworkInvariant (history ++ networkHistory tr) world)
  · exact (List.append_nil history).symm ▸ h
  · intro tr world move ih
    rw [networkHistory_concat, ← List.append_assoc]
    exact ih.step move

theorem Keeps.run {history : NetworkHistory} {peer : SocketAddr} {domain : Option String}
    {index : Nat} {world : NetworkWorld} (hinv : NetworkInvariant history world)
    (h : Keeps peer domain index world) (moves : List NetworkMove) :
    Keeps peer domain index (Machine.final NetworkWorld.step world moves) := by
  induction moves generalizing history world with
  | nil => exact h
  | cons move moves ih => exact ih (hinv.step move) (h.step hinv move)

def NetworkWorld.start (mockResponse : List UInt8) : NetworkWorld where
  net := .withMockResponse mockResponse

theorem start_invariant (mockResponse : List UInt8) :
    NetworkInvariant [] (.start mockResponse) :=
  ⟨rfl, fun _ _ => rfl, nofun⟩

theorem SocketLaw.prefix_ops {caused : List NetworkHoneypotEvent} {opened : OpenSocket}
    (h : SocketLaw caused opened) :
    caused.map (·.operation) <+:
      [.connectIntercepted, .payloadCaptured, .mockResponseInjected] := by
  have hops := h.operations
  rw [List.map_append] at hops
  have hpre : caused.map (·.operation) <+: .connectIntercepted ::
      if opened.socket.responseReady then [.payloadCaptured, .mockResponseInjected] else [] :=
    ⟨_, hops⟩
  apply hpre.trans
  cases opened.socket.responseReady with
  | true => exact List.prefix_rfl
  | false => exact ⟨[.payloadCaptured, .mockResponseInjected], rfl⟩

theorem SocketLaw.mock_iff {caused : List NetworkHoneypotEvent} {opened : OpenSocket}
    (h : SocketLaw caused opened) (hidle : opened.pending = []) :
    .mockResponseInjected ∈ caused.map (·.operation) ↔ opened.socket.responseReady = true := by
  have hops := h.operations
  rw [hidle, List.append_nil] at hops
  rw [hops]
  cases opened.socket.responseReady <;> decide

section
variable {ρ ω φ α : Type}

theorem guarded_events (fs : HoneypotFileSystem ρ) (decoy : Option Decoy)
    (call : ρ → Except FsError α × ρ) :
    (fs.guarded decoy call).2.events =
      (fs.guarded decoy call).1.2.foldl (recordEvent honeypotEventCapacity) fs.events := by
  cases decoy <;> rfl

theorem openFile_events (fileSystem : RootFileSystem ρ ω φ) (fs : HoneypotFileSystem ρ)
    (path : Path) (conf : OpenOptionsConfig) :
    (fs.openFile fileSystem path conf).2.events =
      (fs.openFile fileSystem path conf).1.2.foldl (recordEvent honeypotEventCapacity)
        fs.events := by
  rw [HoneypotFileSystem.openFile]
  cases decoyFor path <;> rfl

/-- A call records its events one after the other and changes the log in no other way. -/
theorem fileSystem_step_events (fileSystem : RootFileSystem ρ ω φ) (fs : HoneypotFileSystem ρ)
    (call : FsCall φ) :
    (fs.step fileSystem call).2.events =
      (fs.step fileSystem call).1.2.foldl (recordEvent honeypotEventCapacity) fs.events := by
  cases call with
  | readlink | readDir | createDir | metadata | symlinkMetadata | mount => rfl
  | removeDir path => exact guarded_events fs (decoyFor path) _
  | rename source target => exact guarded_events fs ((decoyFor source).or (decoyFor target)) _
  | removeFile path => exact guarded_events fs (decoyFor path) _
  | openFile path conf => exact openFile_events fileSystem fs path conf

/-- Everything recorded in a run of the file system. -/
def decoyHistory (trace : List (FsCall φ × FsReply ω × List HoneypotEvent)) :
    List HoneypotEvent :=
  trace.flatMap fun entry => entry.2.2

theorem fileSystem_logged (fileSystem : RootFileSystem ρ ω φ) (root : ρ)
    (calls : List (FsCall φ)) :
    (Machine.final (HoneypotFileSystem.step fileSystem) ⟨root, []⟩ calls).events =
      BoundedLog.last honeypotEventCapacity
        (decoyHistory (Machine.trace (HoneypotFileSystem.step fileSystem) ⟨root, []⟩ calls)) := by
  have hpos : 0 < honeypotEventCapacity := by decide
  apply Machine.trace_induction (HoneypotFileSystem.step fileSystem)
    (J := fun tr fs => fs.events = BoundedLog.last honeypotEventCapacity (decoyHistory tr))
  · exact (BoundedLog.last_of_length_le (Nat.zero_le _)).symm
  · intro tr fs call ih
    rw [fileSystem_step_events, ih, foldl_recordEvent hpos]
    simp only [decoyHistory, List.flatMap_append, List.flatMap_singleton]

end

/-- Both logs hold the last events recorded, and each socket records its connection, then its
payload and the response to it, at most once. -/
theorem event_logs_lawful :
    (∀ (mockResponse : List UInt8) (moves : List NetworkMove),
      let history := networkHistory
        (Machine.trace NetworkWorld.step (.start mockResponse) moves)
      let world := Machine.final NetworkWorld.step (.start mockResponse) moves
      world.net.events = BoundedLog.last 1024 (history.map Prod.snd) ∧
        ∀ index opened, world.sockets[index]? = some opened →
          let caused := causedBy history (.socket index)
          caused.map (·.operation) <+:
              [.connectIntercepted, .payloadCaptured, .mockResponseInjected] ∧
            (∀ event ∈ caused, event.Of opened.socket.peerAddr opened.socket.domain) ∧
            (opened.pending = [] → (.mockResponseInjected ∈ caused.map (·.operation) ↔
              opened.socket.responseReady = true))) ∧
    (∀ (mockResponse : List UInt8) (earlier : List NetworkMove) (addr peer : SocketAddr)
      (later : List NetworkMove),
      let world := Machine.final NetworkWorld.step (.start mockResponse) earlier
      Keeps peer (world.net.domainFor peer.ip) world.sockets.length
        (Machine.final NetworkWorld.step (.start mockResponse)
          (earlier ++ .connect addr peer :: later))) ∧
    ∀ (ρ ω φ : Type) (fileSystem : RootFileSystem ρ ω φ) (root : ρ) (calls : List (FsCall φ)),
      (Machine.final (HoneypotFileSystem.step fileSystem) ⟨root, []⟩ calls).events =
        BoundedLog.last 1024
          (decoyHistory
            (Machine.trace (HoneypotFileSystem.step fileSystem) ⟨root, []⟩ calls)) := by
  refine ⟨?_, ?_, ?_⟩
  · intro mockResponse moves
    have hinv := (start_invariant mockResponse).run moves
    rw [List.nil_append] at hinv
    refine ⟨hinv.logged, ?_⟩
    intro index opened ho
    have hlaw := hinv.lawful index opened ho
    exact ⟨hlaw.prefix_ops, fun event he => hlaw.stamped event (List.mem_append_left _ he),
      hlaw.mock_iff⟩
  · intro mockResponse earlier addr peer later
    rw [Machine.final_append]
    have hinv := (start_invariant mockResponse).run earlier
    generalize Machine.final NetworkWorld.step (.start mockResponse) earlier = world at hinv
    exact (connect_keeps world addr peer).run (hinv.step (.connect addr peer)) later
  · intro ρ ω φ fileSystem root calls
    exact fileSystem_logged fileSystem root calls

end WasmerSectest
