import WasmerSectest.HoneypotSocket
import WasmerSectest.Lib.PrefixBuffer

namespace WasmerSectest
set_option autoImplicit true

namespace HoneypotTcpSocket

theorem extendRequest_request {socket : HoneypotTcpSocket} (data : List UInt8)
    (h : socket.request.length ≤ maxCapturedRequestBytes) :
    (socket.extendRequest data).request =
      PrefixBuffer.extend maxCapturedRequestBytes socket.request data := by
  rw [extendRequest, PrefixBuffer.extend_eq_append data h, Nat.min_comm, ← List.take_take]
  exact congrArg _ (List.take_of_length_le (List.length_take_le' _ _))

end HoneypotTcpSocket

/-- The payload that an effect adds to the captured evidence. -/
def SocketEffect.capturedPayload : SocketEffect → List UInt8
  | .record event => if event.operation = .payloadCaptured then event.payload else []
  | .pushInterest _ _ => []

/-- The data of a `try_send` that returned `Ok`. -/
def SocketCall.accepted : SocketCall → SocketReply → List UInt8
  | .trySend data, .sent (.ok _) => data
  | _, _ => []

def capturedPayloads (effects : List SocketEffect) : List UInt8 :=
  effects.flatMap SocketEffect.capturedPayload

abbrev SocketTrace := List (SocketCall × SocketReply × List SocketEffect)

def SocketTrace.sent (tr : SocketTrace) : List UInt8 :=
  tr.flatMap fun (call, reply, _) => call.accepted reply

def SocketTrace.captured (tr : SocketTrace) : List UInt8 :=
  tr.flatMap fun (_, _, effects) => capturedPayloads effects

/-- The call sends a byte on an open socket. -/
def SendsByte (socket : HoneypotTcpSocket) : SocketCall → Prop
  | .trySend data => socket.closed = false ∧ data ≠ []
  | _ => False

/-- The call sends a byte within the capture limit after the payload was recorded. -/
def SendsLateByte (socket : HoneypotTcpSocket) (call : SocketCall) : Prop :=
  SendsByte socket call ∧ socket.payloadLogged = true ∧
    socket.request.length < maxCapturedRequestBytes

/-- The call is one of those on which a request is recorded: it completes the request, or it
flushes or receives when there is one. -/
def Triggers (socket : HoneypotTcpSocket) : SocketCall → Prop
  | .trySend data => socket.closed = false ∧
    HoneypotTcpSocket.isRequestComplete (socket.extendRequest data).request = true
  | .tryFlush | .tryRecv _ _ => socket.request ≠ []
  | _ => False

/-- What a call can do to the evidence. -/
inductive Recorded (socket : HoneypotTcpSocket) (call : SocketCall)
    (next : HoneypotTcpSocket) (captured : List UInt8) : Prop where
  | nothing (h : socket.payloadLogged = true ∨ ¬Triggers socket call)
    (hlogged : next.payloadLogged = socket.payloadLogged) (hcaptured : captured = [])
  | request (h : socket.payloadLogged = false) (ht : Triggers socket call)
    (hlogged : next.payloadLogged = true) (hcaptured : captured = next.request)

section
variable (socket : HoneypotTcpSocket)

theorem capturedPayloads_append (effects effects' : List SocketEffect) :
    capturedPayloads (effects ++ effects') =
      capturedPayloads effects ++ capturedPayloads effects' :=
  List.flatMap_append

theorem capturedPayloads_pushInterest (interest : InterestType) :
    capturedPayloads (socket.pushInterest interest) = [] := by
  rw [HoneypotTcpSocket.pushInterest]
  cases socket.handler <;> rfl

theorem capturedPayloads_record :
    capturedPayloads socket.recordPayloadAndPrepareResponse.2 =
      if socket.payloadLogged then [] else socket.request := by
  rw [HoneypotTcpSocket.recordPayloadAndPrepareResponse]
  simp only [capturedPayloads_append, capturedPayloads_pushInterest]
  cases socket.payloadLogged <;> cases socket.mockLogged <;>
    simp [capturedPayloads, HoneypotTcpSocket.event, SocketEffect.capturedPayload]

theorem capturedPayloads_readResponse (bufLen : Nat) (peek : Bool) :
    capturedPayloads (socket.readResponse bufLen peek).2.2 = [] := by
  rw [HoneypotTcpSocket.readResponse]
  simp only
  split
  · exact capturedPayloads_pushInterest socket .closed
  · rfl

end

/-- What one call does to the request and to the evidence. -/
structure StepRecords (socket : HoneypotTcpSocket) (call : SocketCall)
    (out : (SocketReply × List SocketEffect) × HoneypotTcpSocket) : Prop where
  request_eq : out.2.request =
    PrefixBuffer.extend maxCapturedRequestBytes socket.request (call.accepted out.1.1)
  ready_eq : out.2.payloadLogged = out.2.responseReady
  recorded : Recorded socket call out.2 (capturedPayloads out.1.2)

section
variable {socket : HoneypotTcpSocket}
  (hlength : socket.request.length ≤ maxCapturedRequestBytes)
  (hready : socket.payloadLogged = socket.responseReady)
include hlength hready

theorem step_records (call : SocketCall) : StepRecords socket call (call.step socket) := by
  have hquiet := (PrefixBuffer.extend_nil hlength).symm
  have houtcome := call.step_outcome socket
  generalize call.step socket = out at houtcome
  cases houtcome with
  | sendClosed data hc =>
    have hnot : ¬Triggers socket (.trySend data) := fun h => Bool.noConfusion (h.1.symm.trans hc)
    exact ⟨hquiet, hready, .nothing (.inr hnot) rfl rfl⟩
  | sendPending data hc hp =>
    refine ⟨socket.extendRequest_request data hlength, hready, .nothing ?_ rfl rfl⟩
    rcases hp with hr | hd
    · exact .inl (hready.trans hr)
    · exact .inr fun h => Bool.noConfusion (h.2.symm.trans hd)
  | sendComplete data hc hr hd =>
    have hlogged := hready.trans hr
    refine ⟨socket.extendRequest_request data hlength, rfl, .request hlogged ⟨hc, hd⟩ rfl ?_⟩
    rw [capturedPayloads_record]
    change (if socket.payloadLogged = true then [] else _) = _
    rw [hlogged]
    rfl
  | flushIdle hi =>
    refine ⟨hquiet, hready, .nothing ?_ rfl rfl⟩
    rcases hi with he | hr
    · exact .inr fun h => h he
    · exact .inl (hready.trans hr)
  | flushRecord he hr =>
    have hlogged := hready.trans hr
    refine ⟨hquiet, rfl, .request hlogged he rfl ?_⟩
    rw [capturedPayloads_record, hlogged]
    rfl
  | recvReady bufLen peek hr =>
    obtain ⟨hsame, hlogged, hready'⟩ := socket.readResponse_frame bufLen peek
    refine ⟨hsame.trans hquiet, hlogged.trans (hready.trans hready'.symm), ?_⟩
    exact .nothing (.inl (hready.trans hr)) hlogged
      (capturedPayloads_readResponse socket bufLen peek)
  | recvWouldBlock bufLen peek hr he =>
    exact ⟨hquiet, hready, .nothing (.inr fun h => h he) rfl rfl⟩
  | recvRecord bufLen peek hr he =>
    have hlogged := hready.trans hr
    obtain ⟨hsame, hlogged', hready'⟩ :=
      socket.recordPayloadAndPrepareResponse.1.readResponse_frame bufLen peek
    have hall : capturedPayloads (socket.recordPayloadAndPrepareResponse.2 ++
        (socket.recordPayloadAndPrepareResponse.1.readResponse bufLen peek).2.2) =
        socket.request := by
      rw [capturedPayloads_append, capturedPayloads_record, hlogged,
        capturedPayloads_readResponse, List.append_nil]
      rfl
    exact ⟨hsame.trans hquiet, hlogged'.trans hready'.symm,
      .request hlogged he hlogged' (hall.trans hsame.symm)⟩
  | close | shutdown =>
    exact ⟨hquiet, hready, .nothing (.inr id) rfl (capturedPayloads_pushInterest _ _)⟩
  | pollRead | pollWrite | setHandler | removeHandler | setSendBufSize =>
    exact ⟨hquiet, hready, .nothing (.inr id) rfl rfl⟩

end

/-- What holds after every run from the given socket. -/
structure EvidenceInvariant (start : HoneypotTcpSocket) (calls : List SocketCall)
    (tr : SocketTrace) (socket : HoneypotTcpSocket) : Prop where
  ready_eq : socket.payloadLogged = socket.responseReady
  request_eq : socket.request = tr.sent.take maxCapturedRequestBytes
  sends_iff : Machine.Sometime SocketCall.step SendsByte start calls ↔ tr.sent ≠ []
  triggers_iff : Machine.Sometime SocketCall.step Triggers start calls ↔
    socket.payloadLogged = true
  before : socket.payloadLogged = false → tr.captured = [] ∧
    Machine.Always SocketCall.step (fun s call => ¬SendsLateByte s call) start calls
  after : socket.payloadLogged = true → tr.captured <+: socket.request ∧
    (tr.captured = socket.request ↔
      Machine.Always SocketCall.step (fun s call => ¬SendsLateByte s call) start calls)

theorem sent_concat (tr : SocketTrace) (call : SocketCall) (reply : SocketReply)
    (effects : List SocketEffect) :
    SocketTrace.sent (tr ++ [(call, reply, effects)]) = tr.sent ++ call.accepted reply := by
  rw [SocketTrace.sent, List.flatMap_append, List.flatMap_singleton]
  rfl

theorem captured_concat (tr : SocketTrace) (call : SocketCall) (reply : SocketReply)
    (effects : List SocketEffect) :
    SocketTrace.captured (tr ++ [(call, reply, effects)]) =
      tr.captured ++ capturedPayloads effects := by
  rw [SocketTrace.captured, List.flatMap_append, List.flatMap_singleton]
  rfl

theorem sendsByte_iff (socket : HoneypotTcpSocket) (call : SocketCall) :
    SendsByte socket call ↔ call.accepted (call.step socket).1.1 ≠ [] := by
  cases call with
  | trySend data =>
    cases hc : socket.closed with
    | true =>
      have hreply : ((SocketCall.trySend data).step socket).1.1 =
          .sent (.error .connectionReset) := by
        rw [SocketCall.step, HoneypotTcpSocket.trySend_closed data hc]
      rw [hreply]
      apply iff_of_false
      · intro h
        cases hc.symm.trans h.1
      · intro h
        exact h rfl
    | false =>
      have hreply : ((SocketCall.trySend data).step socket).1.1 = .sent (.ok data.length) := by
        rw [← HoneypotTcpSocket.trySend_accepted data hc]
        rfl
      rw [hreply]
      exact and_iff_right hc
  | _ => exact ⟨False.elim, fun h => h rfl⟩

section
variable {start socket : HoneypotTcpSocket} {calls : List SocketCall} {tr : SocketTrace}

theorem EvidenceInvariant.length_le (h : EvidenceInvariant start calls tr socket) :
    socket.request.length ≤ maxCapturedRequestBytes := by
  rw [h.request_eq]
  exact List.length_take_le _ _

theorem EvidenceInvariant.step_records (h : EvidenceInvariant start calls tr socket)
    (call : SocketCall) : StepRecords socket call (call.step socket) :=
  WasmerSectest.step_records h.length_le h.ready_eq call

/-- A byte that is sent too late is one that makes the request grow past what was recorded. -/
theorem EvidenceInvariant.request_same_iff (h : EvidenceInvariant start calls tr socket)
    (hlogged : socket.payloadLogged = true) (call : SocketCall) :
    socket.request = (call.step socket).2.request ↔ ¬SendsLateByte socket call := by
  rw [(h.step_records call).request_eq, PrefixBuffer.eq_extend_iff _ h.length_le, SendsLateByte,
    sendsByte_iff]
  apply Iff.intro
  · rintro (hnil | hfull) ⟨hsends, -, hroom⟩
    · exact hsends hnil
    · omega
  · intro hnot
    by_contra hboth
    rw [not_or] at hboth
    exact hnot ⟨hboth.1, hlogged, Nat.not_le.1 hboth.2⟩

theorem EvidenceInvariant.concat (h : EvidenceInvariant start calls tr socket)
    (hfinal : Machine.final SocketCall.step start calls = socket) (call : SocketCall) :
    EvidenceInvariant start (calls ++ [call]) (tr ++ [(call, (call.step socket).1)])
      (call.step socket).2 := by
  have hs := h.step_records call
  have hrequest : (call.step socket).2.request =
      (SocketTrace.sent (tr ++ [(call, (call.step socket).1)])).take
        maxCapturedRequestBytes := by
    rw [hs.request_eq, h.request_eq, PrefixBuffer.extend_take]
    exact congrArg _ (sent_concat _ _ _ _).symm
  have hsends : Machine.Sometime SocketCall.step SendsByte start (calls ++ [call]) ↔
      SocketTrace.sent (tr ++ [(call, (call.step socket).1)]) ≠ [] := by
    rw [Machine.sometime_concat, hfinal, h.sends_iff, sendsByte_iff, ← not_and_or,
      ← List.append_eq_nil_iff]
    exact not_congr (iff_of_eq (congrArg (· = []) (sent_concat _ _ _ _).symm))
  have hcaptured : SocketTrace.captured (tr ++ [(call, (call.step socket).1)]) =
      tr.captured ++ capturedPayloads (call.step socket).1.2 := captured_concat _ _ _ _
  cases hs.recorded with
  | nothing hn hlogged hnone =>
    rw [hnone, List.append_nil] at hcaptured
    refine ⟨hs.ready_eq, hrequest, hsends, ?_, ?_, ?_⟩
    · rw [Machine.sometime_concat, hfinal, h.triggers_iff, hlogged]
      apply Iff.intro
      · rintro (hold | ht)
        · exact hold
        · exact hn.resolve_right (not_not_intro ht)
      · intro hold
        exact .inl hold
    · intro hnew
      obtain ⟨hnil, halways⟩ := h.before (hlogged.symm.trans hnew)
      rw [hcaptured, Machine.always_concat, hfinal]
      refine ⟨hnil, halways, ?_⟩
      intro hlate
      cases hlate.2.1.symm.trans (hlogged.symm.trans hnew)
    · intro hnew
      have hold := hlogged.symm.trans hnew
      obtain ⟨hcaptures, hiff⟩ := h.after hold
      have hgrows : socket.request <+: (call.step socket).2.request := by
        rw [hs.request_eq]
        exact PrefixBuffer.prefix_extend _ h.length_le
      rw [hcaptured, Machine.always_concat, hfinal, ← hiff, ← h.request_same_iff hold call]
      refine ⟨hcaptures.trans hgrows, ?_⟩
      apply Iff.intro
      · intro heq
        -- the request lies between what was captured and its own extension
        have hsame : socket.request = (call.step socket).2.request :=
          hgrows.eq_of_length_le (heq ▸ hcaptures.length_le)
        exact ⟨heq.trans hsame.symm, hsame⟩
      · intro heq
        exact heq.1.trans heq.2
  | request hl ht hlogged hall =>
    obtain ⟨hnil, halways⟩ := h.before hl
    rw [hnil, List.nil_append, hall] at hcaptured
    refine ⟨hs.ready_eq, hrequest, hsends, ?_, ?_, ?_⟩
    · rw [Machine.sometime_concat, hfinal]
      exact iff_of_true (.inr ht) hlogged
    · intro hnew
      cases hnew.symm.trans hlogged
    · intro _
      have hlate : ¬SendsLateByte socket call := by
        intro hlate
        cases hlate.2.1.symm.trans hl
      rw [hcaptured, Machine.always_concat, hfinal]
      exact ⟨List.prefix_refl _, iff_of_true rfl ⟨halways, hlate⟩⟩

end

theorem evidenceInvariant (peerAddr : SocketAddr) (domain : Option String)
    (response : List UInt8) (calls : List SocketCall) :
    EvidenceInvariant (.new peerAddr domain response) calls
      (Machine.trace SocketCall.step (.new peerAddr domain response) calls)
      (Machine.final SocketCall.step (.new peerAddr domain response) calls) := by
  induction calls using List.reverseRecOn with
  | nil =>
    exact ⟨rfl, rfl, ⟨False.elim, fun h => h rfl⟩, ⟨False.elim, nofun⟩,
      fun _ => ⟨rfl, trivial⟩, nofun⟩
  | append_singleton calls call ih =>
    rw [Machine.trace_concat, Machine.final_concat]
    exact ih.concat rfl call

/-- The evidence is complete exactly when the request was recorded at all, once a byte was
sent, and no byte came after that. -/
theorem captured_evidence_complete_iff (peerAddr : SocketAddr) (domain : Option String)
    (response : List UInt8) (calls : List SocketCall) :
    let start := HoneypotTcpSocket.new peerAddr domain response
    let tr : SocketTrace := Machine.trace SocketCall.step start calls
    tr.captured = tr.sent.take maxCapturedRequestBytes ↔
      Machine.Always SocketCall.step (fun s call => ¬SendsLateByte s call) start calls ∧
      (Machine.Sometime SocketCall.step SendsByte start calls →
        Machine.Sometime SocketCall.step Triggers start calls) := by
  intro start tr
  have h := evidenceInvariant peerAddr domain response calls
  rw [h.sends_iff, h.triggers_iff, ← h.request_eq]
  cases hl : (Machine.final SocketCall.step start calls).payloadLogged with
  | true =>
    rw [(h.after hl).2]
    exact (and_iff_left fun _ => rfl).symm
  | false =>
    obtain ⟨hnil, halways⟩ := h.before hl
    have hpos : maxCapturedRequestBytes ≠ 0 := by decide
    rw [hnil, eq_comm, h.request_eq, List.take_eq_nil_iff]
    apply Iff.intro
    · intro hsent
      refine ⟨halways, ?_⟩
      intro hne
      exact absurd (hsent.resolve_left hpos) hne
    · intro hboth
      by_contra hne
      cases hboth.2 fun hsent => hne (.inr hsent)

theorem unflushed_and_late_bytes_lost :
    let start := HoneypotTcpSocket.new ⟨.v4 0xcb007101#32, 80⟩ none [0x6f, 0x6b]
    ∀ calls ∈ [[.trySend [0x47, 0x45, 0x54], .close],
        [.trySend [0x47, 0x0d, 0x0a, 0x0d, 0x0a], .trySend [0x78], .close]],
      (Machine.final SocketCall.step start calls).closed = true ∧
      SocketTrace.captured (Machine.trace SocketCall.step start calls) ≠
        (SocketTrace.sent (Machine.trace SocketCall.step start calls)).take
          maxCapturedRequestBytes := by
  decide

end WasmerSectest
