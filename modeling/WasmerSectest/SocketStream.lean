import WasmerSectest.SocketEvidence
import WasmerSectest.SocketReadiness

namespace WasmerSectest
set_option autoImplicit true

/-- The bytes that a `try_recv` took out of the response: those it returned, unless it peeked. -/
def SocketCall.delivered : SocketCall → SocketReply → List UInt8
  | .tryRecv _ false, .received (.ok bytes) => bytes
  | _, _ => []

def SocketTrace.delivered (tr : SocketTrace) : List UInt8 :=
  tr.flatMap fun (call, reply, _) => call.delivered reply

/-- A byte of a request has reached the socket. -/
def HoneypotTcpSocket.Asked (socket : HoneypotTcpSocket) : Prop :=
  socket.request ≠ [] ∨ socket.responseReady = true

/-- What one call does to the response stream. -/
structure StepStreams (socket : HoneypotTcpSocket) (call : SocketCall)
    (out : (SocketReply × List SocketEffect) × HoneypotTcpSocket) : Prop where
  response_eq : out.2.response = socket.response
  offset_eq : out.2.responseOffset = socket.responseOffset + (call.delivered out.1.1).length
  delivered : call.delivered out.1.1 <+: socket.response.drop socket.responseOffset
  asked : out.2.Asked → socket.Asked ∨ call.accepted out.1.1 ≠ []
  closed : socket.closed = true → out.2.closed = true

namespace HoneypotTcpSocket

section
variable (socket : HoneypotTcpSocket) (bufLen : Nat) (peek : Bool)

theorem readResponse_fst : (socket.readResponse bufLen peek).1 =
    (socket.response.drop socket.responseOffset).take bufLen := by
  rw [readResponse]
  cases hd : socket.response.drop socket.responseOffset with
  | nil => exact List.take_nil.symm
  | cons byte remaining =>
    change (byte :: remaining).take (min _ bufLen) = _
    rw [← List.take_take, List.take_of_length_le (List.length_take_le' _ _)]

theorem readResponse_response :
    (socket.readResponse bufLen peek).2.1.response = socket.response := by
  rw [readResponse]
  simp only
  split <;> rfl

theorem readResponse_offset : (socket.readResponse bufLen peek).2.1.responseOffset =
    socket.responseOffset + if peek then 0 else (socket.readResponse bufLen peek).1.length := by
  rw [readResponse_length, ← List.length_drop, readResponse]
  cases hd : socket.response.drop socket.responseOffset with
  | nil => cases peek <;> simp [close]
  | cons byte remaining => cases peek <;> rfl

theorem readResponse_closed (hc : socket.closed = true) :
    (socket.readResponse bufLen peek).2.1.closed = true := by
  rw [readResponse]
  simp only
  split
  · rfl
  · exact hc

theorem readResponse_nil (hroom : 0 < bufLen) (h : (socket.readResponse bufLen peek).1 = []) :
    socket.response.length ≤ socket.responseOffset ∧
      (socket.readResponse bufLen peek).2.1.closed = true := by
  rw [readResponse_fst, List.take_eq_nil_iff] at h
  have hend := h.resolve_left (Nat.ne_of_gt hroom)
  rw [readResponse, hend]
  exact ⟨List.drop_eq_nil_iff.1 hend, rfl⟩

end

end HoneypotTcpSocket

open HoneypotTcpSocket

theorem StepStreams.quiet {socket : HoneypotTcpSocket} {call : SocketCall}
    {out : (SocketReply × List SocketEffect) × HoneypotTcpSocket}
    (hresponse : out.2.response = socket.response)
    (hoffset : out.2.responseOffset = socket.responseOffset)
    (hnone : call.delivered out.1.1 = [])
    (hasked : out.2.Asked → socket.Asked ∨ call.accepted out.1.1 ≠ [])
    (hclosed : socket.closed = true → out.2.closed = true) : StepStreams socket call out := by
  refine ⟨hresponse, ?_, ?_, hasked, hclosed⟩
  · rw [hnone]
    exact hoffset
  · rw [hnone]
    exact List.nil_prefix

section
variable (socket : HoneypotTcpSocket)

theorem streams_readResponse {ready : HoneypotTcpSocket} (bufLen : Nat) (peek : Bool)
    (effects : List SocketEffect) (hresponse : ready.response = socket.response)
    (hoffset : ready.responseOffset = socket.responseOffset) (hasked : socket.Asked)
    (hclosed : socket.closed = true → ready.closed = true) :
    StepStreams socket (.tryRecv bufLen peek)
      ((.received (.ok (ready.readResponse bufLen peek).1),
        effects ++ (ready.readResponse bufLen peek).2.2),
        (ready.readResponse bufLen peek).2.1) := by
  apply StepStreams.mk
  · exact (readResponse_response ready bufLen peek).trans hresponse
  · change (ready.readResponse bufLen peek).2.1.responseOffset = _
    rw [readResponse_offset, hoffset]
    cases peek <;> rfl
  · cases peek with
    | true => exact List.nil_prefix
    | false =>
      change (ready.readResponse bufLen false).1 <+: _
      rw [readResponse_fst, hresponse, hoffset]
      exact List.take_prefix _ _
  · intro _
    exact .inl hasked
  · intro hc
    exact readResponse_closed ready bufLen peek (hclosed hc)

theorem asked_extendRequest (data : List UInt8) (h : (socket.extendRequest data).Asked) :
    socket.Asked ∨ data ≠ [] := by
  rcases h with h | h
  · by_cases hd : data = []
    · rw [extendRequest, hd, List.take_nil, List.append_nil] at h
      exact .inl (.inl h)
    · exact .inr hd
  · exact .inl (.inr h)

theorem step_streams (call : SocketCall) : StepStreams socket call (call.step socket) := by
  have houtcome := call.step_outcome socket
  generalize call.step socket = out at houtcome
  cases houtcome with
  | sendPending data hc =>
    have hopen : ∀ {p : Prop}, socket.closed = true → p := fun h => by cases hc.symm.trans h
    exact StepStreams.quiet rfl rfl rfl (asked_extendRequest socket data) hopen
  | sendComplete data hc hr hcomplete =>
    have hopen : ∀ {p : Prop}, socket.closed = true → p := fun h => by cases hc.symm.trans h
    have hrequest : (socket.extendRequest data).request ≠ [] := by
      intro hnil
      rw [hnil] at hcomplete
      cases hcomplete
    exact StepStreams.quiet rfl rfl rfl
      (fun _ => asked_extendRequest socket data (.inl hrequest)) hopen
  | flushRecord he => exact StepStreams.quiet rfl rfl rfl (fun _ => .inl (.inl he)) id
  | recvReady bufLen peek hr =>
    exact streams_readResponse socket bufLen peek [] rfl rfl (.inr hr) id
  | recvWouldBlock bufLen peek =>
    have hnone : (SocketCall.tryRecv bufLen peek).delivered
        (.received (.error .wouldBlock)) = [] := by cases peek <;> rfl
    exact StepStreams.quiet rfl rfl hnone .inl id
  | recvRecord bufLen peek hr he =>
    exact streams_readResponse socket bufLen peek _ rfl rfl (.inl he) id
  | close | shutdown => exact StepStreams.quiet rfl rfl rfl .inl fun _ => rfl
  | sendClosed | flushIdle | pollRead | pollWrite | setHandler | removeHandler
  | setSendBufSize => exact StepStreams.quiet rfl rfl rfl .inl id

end

/-- What holds of the stream after every run. -/
structure StreamInvariant (response : List UInt8) (tr : SocketTrace)
    (socket : HoneypotTcpSocket) : Prop where
  response_eq : socket.response = response
  offset_le : socket.responseOffset ≤ response.length
  delivered_eq : tr.delivered = response.take socket.responseOffset
  asked : socket.Asked → tr.sent ≠ []

theorem delivered_concat (tr : SocketTrace) (call : SocketCall) (reply : SocketReply)
    (effects : List SocketEffect) :
    SocketTrace.delivered (tr ++ [(call, reply, effects)]) =
      tr.delivered ++ call.delivered reply := by
  rw [SocketTrace.delivered, List.flatMap_append, List.flatMap_singleton]
  rfl

theorem StreamInvariant.concat {response : List UInt8} {tr : SocketTrace}
    {socket : HoneypotTcpSocket} (h : StreamInvariant response tr socket) (call : SocketCall) :
    StreamInvariant response (tr ++ [(call, (call.step socket).1)]) (call.step socket).2 := by
  have hs := step_streams socket call
  have hpart := hs.delivered
  rw [h.response_eq] at hpart
  apply StreamInvariant.mk
  · exact hs.response_eq.trans h.response_eq
  · have hroom := hpart.length_le
    rw [List.length_drop] at hroom
    have hbound := h.offset_le
    rw [hs.offset_eq]
    omega
  · have hconcat : SocketTrace.delivered (tr ++ [(call, (call.step socket).1)]) =
        tr.delivered ++ call.delivered (call.step socket).1.1 := delivered_concat _ _ _ _
    rw [hconcat, h.delivered_eq, hs.offset_eq, List.take_add,
      ← List.prefix_iff_eq_take.1 hpart]
  · intro hasked
    have hconcat : SocketTrace.sent (tr ++ [(call, (call.step socket).1)]) =
        tr.sent ++ call.accepted (call.step socket).1.1 := sent_concat _ _ _ _
    rw [hconcat]
    rcases hs.asked hasked with hold | hnew
    · exact List.append_ne_nil_of_left_ne_nil (h.asked hold) _
    · exact List.append_ne_nil_of_right_ne_nil _ hnew

theorem stream_invariant (peerAddr : SocketAddr) (domain : Option String)
    (response : List UInt8) (calls : List SocketCall) :
    StreamInvariant response (Machine.trace SocketCall.step (.new peerAddr domain response) calls)
      (Machine.final SocketCall.step (.new peerAddr domain response) calls) := by
  apply Machine.trace_induction SocketCall.step (J := StreamInvariant response)
  · exact ⟨rfl, Nat.zero_le _, rfl, fun h => absurd h (by rintro (h | h) <;> simp [new] at h)⟩
  · intro tr socket call h
    exact h.concat call

/-- The response as a stream, seen at any moment of any run: what was read so far, what a
read would give now, and what can follow. -/
structure StreamDelivered (response : List UInt8) (tr : SocketTrace)
    (socket : HoneypotTcpSocket) : Prop where
  offset_le : socket.responseOffset ≤ response.length
  offset_mono : ∀ later,
    socket.responseOffset ≤ (Machine.final SocketCall.step socket later).responseOffset
  delivered_eq : tr.delivered = response.take socket.responseOffset
  peeked : ∀ bufLen bytes, (socket.tryRecv bufLen true).1 = .ok bytes →
    bytes <+: response.drop socket.responseOffset
  exhausted : ∀ bufLen peek, 0 < bufLen → (socket.tryRecv bufLen peek).1 = .ok [] →
    tr.delivered = response ∧ (socket.tryRecv bufLen peek).2.1.closed = true
  asked_first : ∀ bufLen peek bytes, (socket.tryRecv bufLen peek).1 = .ok bytes →
    tr.sent ≠ []
  closed_stays : socket.closed = true → ∀ later,
    (Machine.final SocketCall.step socket later).closed = true
  refused : socket.closed = true → ∀ later data,
    ((Machine.final SocketCall.step socket later).trySend data).1 =
        .error .connectionReset ∧
      ((Machine.final SocketCall.step socket later).trySend data).2.1.request =
        (Machine.final SocketCall.step socket later).request

section
variable {socket : HoneypotTcpSocket}

theorem final_offset_mono (socket : HoneypotTcpSocket) (later : List SocketCall) :
    socket.responseOffset ≤ (Machine.final SocketCall.step socket later).responseOffset := by
  apply Machine.Reachable.invariant SocketCall.step
    (I := fun s => socket.responseOffset ≤ s.responseOffset) ⟨later, rfl⟩ (Nat.le_refl _)
  intro s call h
  rw [(step_streams s call).offset_eq]
  exact Nat.le_trans h (Nat.le_add_right _ _)

theorem final_closed (hc : socket.closed = true) (later : List SocketCall) :
    (Machine.final SocketCall.step socket later).closed = true := by
  apply Machine.Reachable.invariant SocketCall.step (I := fun s => s.closed = true)
    ⟨later, rfl⟩ hc
  intro s call h
  exact (step_streams s call).closed h

/-- A successful read is one from a response that the request has made ready. -/
theorem tryRecv_ok {bufLen : Nat} {peek : Bool} {bytes : List UInt8}
    (h : (socket.tryRecv bufLen peek).1 = .ok bytes) :
    socket.Asked ∧ ∃ ready : HoneypotTcpSocket, ready.response = socket.response ∧
      ready.responseOffset = socket.responseOffset ∧
      bytes = (ready.readResponse bufLen peek).1 ∧
      (socket.tryRecv bufLen peek).2.1 = (ready.readResponse bufLen peek).2.1 := by
  cases hr : socket.responseReady with
  | true =>
    rw [tryRecv_ready bufLen peek hr] at h ⊢
    exact ⟨.inr hr, socket, rfl, rfl, (Except.ok.inj h).symm, rfl⟩
  | false =>
    by_cases he : socket.request = []
    · rw [tryRecv_wouldBlock bufLen peek hr he] at h
      cases h
    · rw [tryRecv_record bufLen peek hr he] at h ⊢
      exact ⟨.inl he, socket.recordPayloadAndPrepareResponse.1, rfl, rfl,
        (Except.ok.inj h).symm, rfl⟩

end

/-- The mock response is delivered as a stream, whatever is done to the socket. -/
theorem response_stream_delivered (peerAddr : SocketAddr) (domain : Option String)
    (response : List UInt8) (calls : List SocketCall) :
    StreamDelivered response
      (Machine.trace SocketCall.step (.new peerAddr domain response) calls)
      (Machine.final SocketCall.step (.new peerAddr domain response) calls) := by
  have h := stream_invariant peerAddr domain response calls
  apply StreamDelivered.mk
  · exact h.offset_le
  · exact final_offset_mono _
  · exact h.delivered_eq
  · intro bufLen bytes hrecv
    obtain ⟨-, ready, hresponse, hoffset, hbytes, -⟩ := tryRecv_ok hrecv
    rw [hbytes, readResponse_fst, hresponse, hoffset, h.response_eq]
    exact List.take_prefix _ _
  · intro bufLen peek hroom hrecv
    obtain ⟨-, ready, hresponse, hoffset, hbytes, hsocket⟩ := tryRecv_ok hrecv
    obtain ⟨hend, hclosed⟩ := readResponse_nil ready bufLen peek hroom hbytes.symm
    rw [hresponse, hoffset, h.response_eq] at hend
    rw [h.delivered_eq, hsocket]
    exact ⟨List.take_of_length_le hend, hclosed⟩
  · intro bufLen peek bytes hrecv
    exact h.asked (tryRecv_ok hrecv).1
  · exact final_closed
  · intro hc later data
    rw [trySend_closed data (final_closed hc later)]
    exact ⟨rfl, rfl⟩

end WasmerSectest
