import WasmerSectest.FetchStreams
import WasmerSectest.ResolverMap
import WasmerSectest.SocketStream

namespace WasmerSectest
set_option autoImplicit true

/-- The addresses that `resolve` stores for the guest, their bytes in network order. -/
def WasiAddr.ofIp : IpAddr → WasiAddr
  | .v4 bits => ⟨1, #v[.ofNat (bits.toNat / 2 ^ 24), .ofNat (bits.toNat / 2 ^ 16),
      .ofNat (bits.toNat / 2 ^ 8), .ofNat bits.toNat, 0, 0, 0, 0, 0, 0, 0, 0, 0, 0, 0, 0]⟩
  | .v6 bits => ⟨2, Vector.ofFn fun index : Fin 16 =>
      .ofNat (bits.toNat / 2 ^ (8 * (15 - index.val)))⟩

/-- The peer that `sock_connect` reads from the memory of the guest, if it is one of IPv4. -/
def WasiAddrPort.inet4? (addr : WasiAddrPort) : Option SocketAddr :=
  if addr.tag = 1 then
    some {
      ip := .v4 (BitVec.ofNat 32 (addr.octs[2].toNat * 2 ^ 24 + addr.octs[3].toNat * 2 ^ 16 +
        addr.octs[4].toNat * 2 ^ 8 + addr.octs[5].toNat))
      port := .ofNat (addr.octs[0].toNat + 256 * addr.octs[1].toNat) }
  else none

theorem inet4?_peerAddr (bits : BitVec 32) (port : UInt16) :
    (WasiNetworkFetch.peerAddr port (WasiAddr.ofIp (.v4 bits))).inet4? =
      some ⟨.v4 bits, port⟩ := by
  have hbits := bits.isLt
  have hport := port.toNat_lt
  have htag : (WasiNetworkFetch.peerAddr port (WasiAddr.ofIp (.v4 bits))).tag = 1 := rfl
  rw [WasiAddrPort.inet4?, if_pos htag]
  congr 2
  · congr 1
    apply BitVec.eq_of_toNat_eq
    simp [WasiNetworkFetch.peerAddr, WasiAddr.ofIp]
    omega
  · apply UInt16.toNat.inj
    simp [WasiNetworkFetch.peerAddr]
    omega

/-- The honeypot, with a socket that a guest holds of it. -/
abbrev GuestSocket := NetworkHoneypot × HoneypotTcpSocket

/-- A call on the socket, with what it records. -/
def GuestSocket.perform (view : GuestSocket) (call : SocketCall) : SocketReply × GuestSocket :=
  let out := call.step view.2
  (out.1.1, (recordedEvents out.1.2).foldl .record view.1, out.2)

def SocketCall.isQuiet : SocketCall → Bool
  | .pollReadReady _ | .pollWriteReady _ | .setHandler _ | .removeHandler
  | .setSendBufSize _ => true
  | .trySend _ | .tryFlush | .tryRecv .. | .close | .shutdown => false

/-- A runtime whose networking is the honeypot. It hands the calls of the guest on, and sends
and receives in pieces of any size. -/
structure HoneypotRuntime (σ : Type) extends Wasix σ where
  net : σ → NetworkHoneypot
  unconnected : σ → UInt32 → Prop
  socket : σ → UInt32 → Option HoneypotTcpSocket
  resolves : ∀ state host port naddrs, ∃ first,
    let reply := resolve state (Utf8.bytes host) port naddrs
    let out := (net state).resolve ⟨host, some port, first⟩
    reply.errno = 0 ∧ reply.value.val = (out.1.take naddrs).map WasiAddr.ofIp ∧
      net reply.state = out.2
  opens : ∀ state,
    let reply := sockOpen state 1 1 6
    reply.errno = 0 ∧ unconnected reply.state reply.value ∧ net reply.state = net state
  connects : ∀ state sock peer target, unconnected state sock → peer.inet4? = some target →
    ∃ requested,
      let reply := sockConnect state sock peer
      let out := (net state).connectTcp requested target
      reply.errno = 0 ∧ socket reply.state sock = some out.1.socket ∧
        net reply.state = out.1.pending.foldl .record out.2
  sends : ∀ state sock data opened, socket state sock = some opened → opened.closed = false →
    data ≠ [] → ∃ quiet, (∀ call ∈ quiet, call.isQuiet = true) ∧
      let reply := sockSend state sock data
      let view := Machine.final GuestSocket.perform (net state, opened)
        (quiet ++ [.trySend (data.take reply.value.val)])
      reply.errno = 0 ∧ reply.value.val ≠ 0 ∧ socket reply.state sock = some view.2 ∧
        net reply.state = view.1
  receives : ∀ state sock bufLen opened, socket state sock = some opened →
    opened.responseReady = true → 0 < bufLen →
    ∃ quiet part, (∀ call ∈ quiet, call.isQuiet = true) ∧ 0 < part ∧
      let reply := sockRecv state sock bufLen
      let waited := Machine.final GuestSocket.perform (net state, opened) quiet
      let view := (GuestSocket.perform waited (.tryRecv part false)).2
      (waited.2.tryRecv part false).1 = .ok reply.value.val ∧ reply.errno = 0 ∧
        socket reply.state sock = some view.2 ∧ net reply.state = view.1

theorem perform_quiet (view : GuestSocket) {call : SocketCall} (h : call.isQuiet = true) :
    ∃ handler sendBufSize, (GuestSocket.perform view call).2 =
      (view.1, { view.2 with handler, sendBufSize }) := by
  obtain ⟨net, opened⟩ := view
  have houtcome := call.step_outcome opened
  rw [GuestSocket.perform]
  generalize call.step opened = out at houtcome
  cases houtcome with
  | pollRead | pollWrite | setHandler | removeHandler | setSendBufSize => exact ⟨_, _, rfl⟩
  | _ => cases h

/-- Waiting for a socket changes nothing but how it is waited for. -/
theorem final_quiet (view : GuestSocket) {quiet : List SocketCall}
    (h : ∀ call ∈ quiet, call.isQuiet = true) :
    ∃ handler sendBufSize, Machine.final GuestSocket.perform view quiet =
      (view.1, { view.2 with handler, sendBufSize }) := by
  induction quiet generalizing view with
  | nil => exact ⟨_, _, rfl⟩
  | cons call quiet ih =>
    obtain ⟨handler, sendBufSize, hcall⟩ := perform_quiet view (h call List.mem_cons_self)
    rw [Machine.final, hcall]
    obtain ⟨handler', sendBufSize', hrest⟩ := ih (view.1, { view.2 with handler, sendBufSize })
      fun call hcall => h call (List.mem_cons_of_mem _ hcall)
    exact ⟨handler', sendBufSize', hrest⟩

theorem foldl_record_events (net : NetworkHoneypot) (events : List NetworkHoneypotEvent) :
    (events.foldl .record net).events =
      events.foldl (recordEvent honeypotEventCapacity) net.events := by
  induction events generalizing net with
  | nil => rfl
  | cons event events ih => exact ih _

open WasiNetworkFetch

set_option maxRecDepth 2000 in
theorem request_ends : ¬EndsHeaders (request.take 79) ∧ RequestComplete request := by
  decide

theorem request_length : request.length = 80 := by
  decide

/-- The request is complete when all of it has been sent, and not before. -/
theorem requestComplete_iff {sent : List UInt8} (h : sent <+: request) :
    RequestComplete sent ↔ sent = request := by
  apply Iff.intro
  · intro hcomplete
    by_contra hne
    have hshort : sent.length < 80 := by
      rw [← request_length]
      exact Nat.lt_of_le_of_ne h.length_le fun hlength => hne (h.eq_of_length hlength)
    have hpart : sent <+: request.take 79 := by
      apply List.prefix_of_prefix_length_le h (List.take_prefix _ _)
      rw [List.length_take, request_length]
      omega
    rcases hcomplete with hends | hlong
    · exact request_ends.1 (hends.mono ((List.take_prefix _ _).trans hpart))
    · rw [maxCapturedRequestBytes] at hlong
      omega
  · rintro rfl
    exact request_ends.2

def fetchEvent (operation : NetworkHoneypotOperation) (payload : List UInt8)
    (mockedResponseBytes : Nat) : NetworkHoneypotEvent where
  target := ⟨(deterministicHoneypotIps host).1, port⟩
  domain := some host
  operation := operation
  payload := payload
  mockedResponseBytes := mockedResponseBytes

/-- What a request leaves in the log when it has been sent. -/
def answerEvents (response : List UInt8) : List NetworkHoneypotEvent :=
  [fetchEvent .payloadCaptured request 0, fetchEvent .mockResponseInjected [] response.length]

/-- Everything that a fetch leaves in the log. -/
def fetchEvents (response : List UInt8) : List NetworkHoneypotEvent :=
  fetchEvent .resolveIntercepted [] 0 :: fetchEvent .connectIntercepted [] 0 ::
    answerEvents response

/-- A connection on which the given part of the request has been sent. -/
structure Sending (response : List UInt8) (events : List NetworkHoneypotEvent)
    (sent : List UInt8) (view : GuestSocket) : Prop where
  captures : Captures sent view.2
  peerAddr : view.2.peerAddr = ⟨(deterministicHoneypotIps host).1, port⟩
  domain : view.2.domain = some host
  response_eq : view.2.response = response
  unread : view.2.responseOffset = 0
  events_eq : view.1.events =
    (if sent = request then answerEvents response else []).foldl
      (recordEvent honeypotEventCapacity) events

/-- A connection on which the given part of the response is still to be read. -/
structure Receiving (events : List NetworkHoneypotEvent) (unread : List UInt8)
    (view : GuestSocket) : Prop where
  ready : view.2.responseReady = true
  unread_eq : view.2.response.drop view.2.responseOffset = unread
  events_eq : view.1.events = events

section
variable {response sent unread : List UInt8} {events : List NetworkHoneypotEvent}
variable {view : GuestSocket}

theorem Sending.final_quiet (h : Sending response events sent view) {quiet : List SocketCall}
    (hquiet : ∀ call ∈ quiet, call.isQuiet = true) :
    Sending response events sent (Machine.final GuestSocket.perform view quiet) := by
  obtain ⟨handler, sendBufSize, hfinal⟩ := WasmerSectest.final_quiet view hquiet
  have hc := h.captures
  rw [hfinal]
  exact ⟨⟨hc.request_eq, hc.ready_iff, hc.opened, hc.consistent⟩, h.peerAddr, h.domain,
    h.response_eq, h.unread, h.events_eq⟩

theorem Receiving.final_quiet (h : Receiving events unread view) {quiet : List SocketCall}
    (hquiet : ∀ call ∈ quiet, call.isQuiet = true) :
    Receiving events unread (Machine.final GuestSocket.perform view quiet) := by
  obtain ⟨handler, sendBufSize, hfinal⟩ := WasmerSectest.final_quiet view hquiet
  rw [hfinal]
  exact ⟨h.ready, h.unread_eq, h.events_eq⟩

theorem Sending.send (h : Sending response events sent view) {data : List UInt8}
    (hne : data ≠ []) (hpart : sent ++ data <+: request) :
    Sending response events (sent ++ data) (view.perform (.trySend data)).2 := by
  have hc := h.captures
  have hold : sent ≠ request := by
    rintro rfl
    have hlength := hpart.length_le
    have hpos := List.length_pos_of_ne_nil hne
    rw [List.length_append] at hlength
    omega
  have hbefore := (List.prefix_append sent data).trans hpart
  have hready : view.2.responseReady = false :=
    Bool.eq_false_iff.2 fun hr => hold ((requestComplete_iff hbefore).1 (hc.ready_iff.1 hr))
  have hevents := h.events_eq
  rw [if_neg hold, List.foldl_nil] at hevents
  have hnext := (hc.send data).1
  rw [GuestSocket.perform]
  by_cases hcomplete : RequestComplete (sent ++ data)
  · have hwhole := (requestComplete_iff hpart).1 hcomplete
    have hstep : (SocketCall.trySend data).step view.2 =
        ((.sent (.ok data.length),
          (view.2.extendRequest data).recordPayloadAndPrepareResponse.2),
          (view.2.extendRequest data).recordPayloadAndPrepareResponse.1) := by
      rw [SocketCall.step,
        HoneypotTcpSocket.trySend_complete hc.opened hready ((hc.complete_iff data).2 hcomplete)]
    have hrequest : (view.2.extendRequest data).request = request := by
      rw [hc.extendRequest, hwhole, List.take_of_length_le]
      rw [request_length]
      decide
    have hrecorded : recordedEvents
        (view.2.extendRequest data).recordPayloadAndPrepareResponse.2 = answerEvents response := by
      rw [@HoneypotTcpSocket.recordedEvents_record (view.2.extendRequest data) hc.consistent hready,
        hrequest]
      change [(⟨view.2.peerAddr, view.2.domain, _, _, _⟩ : NetworkHoneypotEvent),
        ⟨view.2.peerAddr, view.2.domain, _, _, view.2.response.length⟩] = _
      rw [h.peerAddr, h.domain, h.response_eq]
      rfl
    rw [hstep] at hnext ⊢
    refine ⟨hnext, h.peerAddr, h.domain, h.response_eq, h.unread, ?_⟩
    rw [if_pos hwhole]
    dsimp only
    rw [foldl_record_events, hrecorded, hevents]
  · have hshort : sent ++ data ≠ request :=
      fun hwhole => hcomplete ((requestComplete_iff hpart).2 hwhole)
    have hpending := Bool.eq_false_iff.2 fun hd => hcomplete ((hc.complete_iff data).1 hd)
    have hstep : (SocketCall.trySend data).step view.2 =
        ((.sent (.ok data.length), []), view.2.extendRequest data) := by
      rw [SocketCall.step, HoneypotTcpSocket.trySend_pending hc.opened (.inr hpending)]
    rw [hstep] at hnext ⊢
    refine ⟨hnext, h.peerAddr, h.domain, h.response_eq, h.unread, ?_⟩
    rw [if_neg hshort]
    exact hevents

theorem Sending.receiving (h : Sending response events request view) :
    Receiving ((answerEvents response).foldl (recordEvent honeypotEventCapacity) events) response
      view where
  ready := h.captures.ready_iff.2 request_ends.2
  unread_eq := by rw [h.response_eq, h.unread, List.drop_zero]
  events_eq := by rw [h.events_eq, if_pos rfl]

theorem Receiving.recv (h : Receiving events unread view) {part : Nat} {bytes : List UInt8}
    (hpart : 0 < part) (hbytes : (view.2.tryRecv part false).1 = .ok bytes) :
    (bytes = [] → unread = []) ∧ ∃ rest, unread = bytes ++ rest ∧
      Receiving events rest (view.perform (.tryRecv part false)).2 := by
  have hstep : (SocketCall.tryRecv part false).step view.2 =
      ((.received (.ok (view.2.readResponse part false).1),
        (view.2.readResponse part false).2.2), (view.2.readResponse part false).2.1) := by
    rw [SocketCall.step, HoneypotTcpSocket.tryRecv_ready part false h.ready]
  rw [HoneypotTcpSocket.tryRecv_ready part false h.ready] at hbytes
  obtain rfl := Except.ok.inj hbytes
  obtain ⟨-, -, -, hquiet⟩ := view.2.readResponse_quiet part false
  obtain ⟨-, -, hready⟩ := view.2.readResponse_frame part false
  have htaken : (view.2.readResponse part false).1 = unread.take part := by
    rw [HoneypotTcpSocket.readResponse_fst, h.unread_eq]
  refine ⟨?_, unread.drop part, ?_, ?_⟩
  · intro hnil
    rw [htaken, List.take_eq_nil_iff] at hnil
    exact hnil.resolve_left (Nat.ne_of_gt hpart)
  · rw [htaken, List.take_append_drop]
  · rw [GuestSocket.perform, hstep]
    refine ⟨hready.trans h.ready, ?_, ?_⟩
    · dsimp only
      rw [HoneypotTcpSocket.readResponse_response, HoneypotTcpSocket.readResponse_offset,
        ← List.drop_drop, h.unread_eq, htaken]
      change unread.drop (unread.take part).length = _
      rw [List.length_take, List.drop_eq_drop_iff]
      omega
    · dsimp only
      rw [hquiet]
      exact h.events_eq

end

section
variable (runtime : HoneypotRuntime σ) {state : σ} {sock : UInt32} {opened : HoneypotTcpSocket}
variable {events : List NetworkHoneypotEvent}

/-- The socket of the guest is a connection in the given state. -/
def HoneypotRuntime.Holds (sock : UInt32) (live : GuestSocket → Prop) (state : σ) : Prop :=
  ∃ opened, runtime.socket state sock = some opened ∧ live (runtime.net state, opened)

theorem HoneypotRuntime.send_step {response sent data : List UInt8}
    (h : runtime.Holds sock (Sending response events sent) state) (hne : data ≠ [])
    (hpart : sent ++ data <+: request) :
    let reply := runtime.sockSend state sock data
    reply.errno = 0 ∧ reply.value.val ≠ 0 ∧
      runtime.Holds sock (Sending response events (sent ++ data.take reply.value.val))
        reply.state := by
  intro reply
  obtain ⟨opened, hsocket, hsending⟩ := h
  obtain ⟨quiet, hquiet, herrno, hsent, hnext, hnet⟩ :=
    runtime.sends state sock data opened hsocket hsending.captures.opened hne
  have htake : data.take reply.value.val ≠ [] := by
    rw [ne_eq, List.take_eq_nil_iff, not_or]
    exact ⟨hsent, hne⟩
  have hprefix : sent ++ data.take reply.value.val <+: request :=
    ((List.prefix_append_right_inj sent).2 (List.take_prefix _ _)).trans hpart
  refine ⟨herrno, hsent, _, hnext, ?_⟩
  rw [hnet, Machine.final_concat]
  exact (hsending.final_quiet hquiet).send htake hprefix

theorem HoneypotRuntime.sendAll_request {response : List UInt8}
    (h : runtime.Holds sock (Sending response events []) state) :
    ∃ last, sendAll runtime.toWasix state sock request = (.ok (), last) ∧
      runtime.Holds sock (Sending response events request) last := by
  let live (sent : List UInt8) := runtime.Holds sock (Sending response events sent)
  have hlive : ∀ sent data state, sent ++ data = request → data ≠ [] → live sent state →
      (runtime.sockSend state sock data).errno = 0 →
      live (sent ++ data.take (runtime.sockSend state sock data).value.val)
        (runtime.sockSend state sock data).state := by
    intro sent data state htotal hne h _
    exact (runtime.send_step h hne (htotal ▸ List.prefix_refl _)).2.2
  rcases sendAll_outcome live hlive (List.nil_append request) h with
    hdone | ⟨n, before, hn, hbefore, hstalls, -⟩
  · exact hdone
  · rw [List.nil_append] at hbefore
    have hrest : request.drop n ≠ [] := by
      rw [ne_eq, List.drop_eq_nil_iff]
      omega
    have hpart : request.take n ++ request.drop n <+: request := by
      rw [List.take_append_drop]
    obtain ⟨herrno, hsent, -⟩ := runtime.send_step hbefore hrest hpart
    exact absurd hstalls (not_or.2 ⟨not_not.2 herrno, hsent⟩)

theorem HoneypotRuntime.givesOut :
    GivesOut runtime.toWasix sock fun unread => runtime.Holds sock (Receiving events unread) := by
  rintro unread state ⟨opened, hsocket, hreceiving⟩
  obtain ⟨quiet, part, hquiet, hpart, hbytes, herrno, hnext, hnet⟩ :=
    runtime.receives state sock 1024 opened hsocket hreceiving.ready (by decide)
  obtain ⟨hend, rest, hrest, hafter⟩ := (hreceiving.final_quiet hquiet).recv hpart hbytes
  refine ⟨herrno, hend, rest, hrest, _, hnext, ?_⟩
  rw [hnet]
  exact hafter

theorem HoneypotRuntime.fetch_text {response : HttpResponse} {text : String}
    (htext : response.bytes = Utf8.bytes text) (hsize : response.bytes.length ≤ 64 * 1024 + 1)
    (h : runtime.Holds sock (Sending response.bytes events []) state) :
    ∃ last, fetch runtime.toWasix state sock = (.ok text, last) ∧
      (runtime.net last).events = (answerEvents response.bytes).foldl
        (recordEvent honeypotEventCapacity) events := by
  obtain ⟨sentState, hsend, opened, hsocket, hsent⟩ := runtime.sendAll_request h
  rcases recvHttpResponse_outcome runtime.givesOut response ⟨opened, hsocket, hsent.receiving⟩ with
    ⟨last, hrecv, ⟨opened', -, hlast⟩, -⟩ | ⟨-, -, hlong⟩
  · refine ⟨last, ?_, hlast.events_eq⟩
    rw [fetch, hsend]
    simp only [hrecv, Utf8.fromUtf8_eq_some_iff.2 htext]
  · omega

theorem connectTcp_view (net : NetworkHoneypot) (requested target : SocketAddr) :
    let out := net.connectTcp requested target
    out.1.socket = .new target (net.domainFor target.ip) net.mockResponse ∧
      (out.1.pending.foldl .record out.2).events = recordEvent honeypotEventCapacity net.events
        ⟨target, net.domainFor target.ip, .connectIntercepted, [], 0⟩ := by
  obtain ⟨nextEphemeral, hlocal⟩ := nextLocalAddr_frame net requested target
  have hconnect : net.connectTcp requested target =
      ({ localAddr := (net.nextLocalAddr requested target).1
         socket := .new target ((net.nextLocalAddr requested target).2.domainFor target.ip)
           (net.nextLocalAddr requested target).2.mockResponse
         pending := [⟨target, (net.nextLocalAddr requested target).2.domainFor target.ip,
           .connectIntercepted, [], 0⟩] }, (net.nextLocalAddr requested target).2) := rfl
  rw [hconnect, hlocal]
  exact ⟨rfl, rfl⟩

/-- The resolver answers with the address that the guest then connects to. -/
theorem HoneypotRuntime.resolveHost_honeypot (state : σ) :
    ∃ first last, resolveHost runtime.toWasix state host port =
        (.ok (peerAddr port (.ofIp (deterministicHoneypotIps host).1)), last) ∧
      runtime.net last = ((runtime.net state).resolve ⟨host, some port, first⟩).2 := by
  obtain ⟨first, herrno, haddrs, hnet⟩ := runtime.resolves state host port 4
  refine ⟨first, _, ?_, hnet⟩
  rw [resolveHost]
  simp only [herrno, ensureSuccess_ok, haddrs]
  rfl

theorem HoneypotRuntime.connect_honeypot
    (hdomain : (runtime.net state).domainFor (deterministicHoneypotIps host).1 = some host)
    (hunconnected : runtime.unconnected state sock) :
    ∃ last, connect runtime.toWasix state sock
        (peerAddr port (.ofIp (deterministicHoneypotIps host).1)) = (.ok (), last) ∧
      runtime.Holds sock (Sending (runtime.net state).mockResponse
        (recordEvent honeypotEventCapacity (runtime.net state).events
          (fetchEvent .connectIntercepted [] 0)) []) last := by
  have hpeer : (peerAddr port (.ofIp (deterministicHoneypotIps host).1)).inet4? =
      some ⟨(deterministicHoneypotIps host).1, port⟩ := inet4?_peerAddr _ port
  obtain ⟨requested, herrno, hsocket, hnet⟩ := runtime.connects state sock _ _ hunconnected hpeer
  obtain ⟨hopened, hevents⟩ := connectTcp_view (runtime.net state) requested
    ⟨(deterministicHoneypotIps host).1, port⟩
  refine ⟨_, ?_, _, hsocket, ?_⟩
  · rw [connect]
    simp only [herrno, ensureSuccess_ok]
  · rw [hnet, hopened]
    refine ⟨new_captures _ _ _, rfl, hdomain, rfl, rfl, ?_⟩
    rw [hevents, hdomain, if_neg (by decide), List.foldl_nil]
    rfl

theorem resolve_view {net : NetworkHoneypot} {writes : List (IpAddr × String)}
    (hhosts : Remembers writes net) (first : Nat × Nat) :
    let next := (net.resolve ⟨host, some port, first⟩).2
    next.domainFor (deterministicHoneypotIps host).1 = some host ∧
      next.mockResponse = net.mockResponse ∧
      next.events = recordEvent honeypotEventCapacity net.events
        (fetchEvent .resolveIntercepted [] 0) := by
  refine ⟨?_, rfl, rfl⟩
  have hdomain := (hhosts.resolve ⟨host, some port, first⟩).domain (deterministicHoneypotIps host).1
  have hmem : (deterministicHoneypotIps host).1 ∈ (net.resolve ⟨host, some port, first⟩).1 :=
    List.mem_cons_self
  have hstored : ((deterministicHoneypotIps host).1, host) ∈
      storedBy (⟨host, some port, first⟩, (net.resolve ⟨host, some port, first⟩).1) :=
    List.mem_map_of_mem hmem
  rw [hdomain, LastWriter.last_append_of_mem _ hstored]
  exact last_storedBy hmem

/-- What the guest sees of the whole sandbox is the mocked response, and what the sandbox sees of
the guest is in the log: the name it looked up, the connection and the request. -/
theorem mocked_fetch {writes : List (IpAddr × String)} {response : HttpResponse} {text : String}
    (htext : response.bytes = Utf8.bytes text) (hsize : response.bytes.length ≤ 64 * 1024 + 1)
    (hhosts : Remembers writes (runtime.net state))
    (hmock : (runtime.net state).mockResponse = response.bytes) :
    let out := main runtime.toWasix state
    out.1 = ⟨0, s!"{text}\n", ""⟩ ∧ (runtime.net out.2).events = (fetchEvents response.bytes).foldl
      (recordEvent honeypotEventCapacity) (runtime.net state).events := by
  obtain ⟨first, resolved, hresolve, hresolved⟩ := runtime.resolveHost_honeypot state
  obtain ⟨hdomain, hresponse, hevents⟩ := resolve_view hhosts first
  obtain ⟨herrno, hunconnected, hopened⟩ := runtime.opens resolved
  have hopen : openTcpSocket runtime.toWasix resolved =
      (.ok (runtime.sockOpen resolved 1 1 6).value, (runtime.sockOpen resolved 1 1 6).state) := by
    rw [openTcpSocket]
    change ((ensureSuccess "sock_open" (runtime.sockOpen resolved 1 1 6).errno).map _, _) = _
    rw [herrno]
    rfl
  rw [hresolved] at hopened
  rw [← hopened] at hdomain hresponse hevents
  obtain ⟨connected, hconnect, hholds⟩ := runtime.connect_honeypot hdomain hunconnected
  rw [hresponse, hmock, hevents] at hholds
  obtain ⟨last, hfetch, hlast⟩ := runtime.fetch_text htext hsize hholds
  have hrun : run runtime.toWasix state = (.ok text, last) := by
    rw [run, hresolve]
    simp only [hopen, hconnect, hfetch]
  rw [main, hrun, fetchEvents, List.foldl_cons, List.foldl_cons]
  exact ⟨rfl, hlast⟩

end

/-- The honeypot with the one socket that its guest holds of it. -/
structure HoneypotGuest where
  net : NetworkHoneypot
  socket : Option HoneypotTcpSocket := none

theorem length_tryRecv_one {socket : HoneypotTcpSocket} {bytes : List UInt8}
    (h : (socket.tryRecv 1 false).1 = .ok bytes) : bytes.length ≤ 1 := by
  obtain ⟨-, ready, -, -, rfl, -⟩ := tryRecv_ok h
  rw [HoneypotTcpSocket.readResponse_fst]
  exact List.length_take_le _ _

def promptWasix : Wasix HoneypotGuest where
  resolve state host port naddrs :=
    match Utf8.fromUtf8 host with
    | some host =>
      let out := state.net.resolve ⟨host, some port, (0, 0)⟩
      ⟨0, ⟨(out.1.take naddrs).map .ofIp, by rw [List.length_map]; exact List.length_take_le _ _⟩,
        { state with net := out.2 }⟩
    | none => ⟨28, ⟨[], naddrs.zero_le⟩, state⟩
  sockOpen state _ _ _ := ⟨0, 3, { state with socket := none }⟩
  sockConnect state _ peer :=
    match peer.inet4? with
    | some target =>
      let out := state.net.connectTcp ⟨.v4 0, 0⟩ target
      ⟨0, (), ⟨out.1.pending.foldl .record out.2, some out.1.socket⟩⟩
    | none => ⟨5, (), state⟩
  sockSend state _ data :=
    match state.socket with
    | some opened =>
      let view := (GuestSocket.perform (state.net, opened) (.trySend (data.take 1))).2
      ⟨if opened.closed then 15 else 0, ⟨(data.take 1).length, length_take_one_le data⟩,
        ⟨view.1, some view.2⟩⟩
    | none => ⟨53, ⟨0, data.length.zero_le⟩, state⟩
  sockRecv state _ bufLen :=
    match state.socket with
    | some opened =>
      let view := (GuestSocket.perform (state.net, opened) (.tryRecv 1 false)).2
      match (opened.tryRecv 1 false).1 with
      | .ok bytes => ⟨0, ⟨bytes.take bufLen, List.length_take_le _ _⟩, ⟨view.1, some view.2⟩⟩
      | .error _ => ⟨6, ⟨[], bufLen.zero_le⟩, ⟨view.1, some view.2⟩⟩
    | none => ⟨53, ⟨[], bufLen.zero_le⟩, state⟩

def promptRuntime : HoneypotRuntime HoneypotGuest where
  toWasix := promptWasix
  net := HoneypotGuest.net
  unconnected state _ := state.socket = none
  socket state _ := state.socket
  resolves state host port naddrs := by
    refine ⟨(0, 0), ?_⟩
    simp [promptWasix, Utf8.fromUtf8_eq_some_iff.2 (rfl : Utf8.bytes host = _)]
  opens state := ⟨rfl, rfl, rfl⟩
  connects state sock peer target _ hpeer := by
    refine ⟨⟨.v4 0, 0⟩, ?_⟩
    simp [promptWasix, hpeer]
  sends state sock data opened hsocket hopen hne := by
    refine ⟨[], List.forall_mem_nil _, ?_⟩
    have htake : data.take (min 1 data.length) = data.take 1 := by
      rw [List.take_eq_take_iff]
      omega
    simp [promptWasix, hsocket, hopen, hne, htake, Machine.final]
  receives state sock bufLen opened hsocket hready hpos := by
    have hrecv := HoneypotTcpSocket.tryRecv_ready 1 false hready
    have hone := length_tryRecv_one (congrArg Prod.fst hrecv)
    refine ⟨[], 1, List.forall_mem_nil _, Nat.one_pos, ?_⟩
    have htake := List.take_of_length_le (hone.trans hpos)
    simp [promptWasix, hsocket, hrecv, htake, Machine.final]

def NetworkHoneypot.new : NetworkHoneypot := .withMockResponse defaultMockHttpResponse

theorem default_fetch : ∃ text, Utf8.bytes text = defaultMockHttpResponse ∧
    let out := main promptRuntime.toWasix ⟨.new, none⟩
    out.1 = ⟨0, s!"{text}\n", ""⟩ ∧
      (promptRuntime.net out.2).events = fetchEvents defaultMockHttpResponse := by
  obtain ⟨text, htext⟩ := defaultMockHttpResponse_text
  have hsize : defaultResponse.bytes.length ≤ 64 * 1024 + 1 := by
    rw [defaultResponse.length_bytes]
    decide
  have hhosts : Remembers [] (promptRuntime.net ⟨.new, none⟩) := withMockResponse_remembers _
  have hmock : (promptRuntime.net ⟨.new, none⟩).mockResponse = defaultResponse.bytes :=
    defaultResponse_bytes.symm
  obtain ⟨hexit, hevents⟩ :=
    mocked_fetch promptRuntime (defaultResponse_bytes.trans htext.symm) hsize hhosts hmock
  have hlog := foldl_recordEvent (by decide : 0 < honeypotEventCapacity) []
    (fetchEvents defaultMockHttpResponse)
  rw [List.nil_append, BoundedLog.last_of_length_le (by decide),
    BoundedLog.last_of_length_le (Nat.le_of_ble_eq_true rfl)] at hlog
  rw [defaultResponse_bytes] at hevents
  exact ⟨text, htext, hexit, hevents.trans hlog⟩

end WasmerSectest
