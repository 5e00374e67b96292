import WasmerSectest.HoneypotSocket

namespace WasmerSectest
set_option autoImplicit true

/-- What the polls say about a socket is what the calls on it would do. -/
structure ReadinessAgrees (socket : HoneypotTcpSocket) : Prop where
  pending : ∀ waker bufLen peek, 0 < bufLen → ((socket.pollReadReady waker).1 = none ↔
    (socket.tryRecv bufLen peek).1 = .error .wouldBlock)
  readable : ∀ waker n bufLen peek, 0 < bufLen → (socket.pollReadReady waker).1 = some (.ok n) →
    ∃ bytes, (socket.tryRecv bufLen peek).1 = .ok bytes ∧ bytes.length = min n bufLen
  writable : ∀ waker data, (∃ err, (socket.pollWriteReady waker).1 = some (.error err)) ↔
    ∃ err, (socket.trySend data).1 = .error err

namespace HoneypotTcpSocket

variable {socket : HoneypotTcpSocket}

theorem pollReadReady_ready (waker : InterestHandler) (hr : socket.responseReady = true) :
    (socket.pollReadReady waker).1 =
      some (.ok (socket.response.length - socket.responseOffset)) := by
  have hr' : (socket.setHandler waker).responseReady = true := hr
  rw [pollReadReady, if_pos hr']
  rfl

theorem pollReadReady_closed (waker : InterestHandler) (hr : socket.responseReady = false)
    (hc : socket.closed = true) : (socket.pollReadReady waker).1 = some (.ok 0) := by
  have hr' : ¬(socket.setHandler waker).responseReady = true := Bool.eq_false_iff.1 hr
  have hc' : (socket.setHandler waker).closed = true := hc
  rw [pollReadReady, if_neg hr', if_pos hc']

theorem pollReadReady_pending (waker : InterestHandler) (hr : socket.responseReady = false)
    (hc : socket.closed = false) : (socket.pollReadReady waker).1 = none := by
  have hr' : ¬(socket.setHandler waker).responseReady = true := Bool.eq_false_iff.1 hr
  have hc' : ¬(socket.setHandler waker).closed = true := Bool.eq_false_iff.1 hc
  rw [pollReadReady, if_neg hr', if_neg hc']

theorem readResponse_length (bufLen : Nat) (peek : Bool) :
    (socket.readResponse bufLen peek).1.length =
      min (socket.response.length - socket.responseOffset) bufLen := by
  rw [readResponse, ← List.length_drop]
  cases hd : socket.response.drop socket.responseOffset with
  | nil => exact (Nat.zero_min bufLen).symm
  | cons byte remaining =>
    change ((byte :: remaining).take (min (byte :: remaining).length bufLen)).length = _
    rw [List.length_take]
    omega

theorem pollWriteReady_agrees (waker : InterestHandler) (data : List UInt8) :
    (∃ err, (socket.pollWriteReady waker).1 = some (.error err)) ↔
      ∃ err, (socket.trySend data).1 = .error err := by
  cases hc : socket.closed with
  | true =>
    have hc' : (socket.setHandler waker).closed = true := hc
    rw [pollWriteReady, if_pos hc', trySend_closed data hc]
    exact iff_of_true ⟨_, rfl⟩ ⟨_, rfl⟩
  | false =>
    have hc' : ¬(socket.setHandler waker).closed = true := Bool.eq_false_iff.1 hc
    rw [pollWriteReady, if_neg hc', trySend_accepted data hc]
    apply iff_of_false
    · rintro ⟨err, h⟩
      cases h
    · rintro ⟨err, h⟩
      cases h

end HoneypotTcpSocket

open HoneypotTcpSocket

section
variable {socket : HoneypotTcpSocket}

theorem readinessAgrees_ready (hr : socket.responseReady = true) : ReadinessAgrees socket := by
  refine ⟨?_, ?_, pollWriteReady_agrees⟩
  · intro waker bufLen peek _
    rw [pollReadReady_ready waker hr, tryRecv_ready bufLen peek hr]
    exact ⟨nofun, nofun⟩
  · intro waker n bufLen peek _ h
    rw [pollReadReady_ready waker hr] at h
    cases h
    rw [tryRecv_ready bufLen peek hr]
    exact ⟨_, rfl, readResponse_length bufLen peek⟩

theorem readinessAgrees_idle (hr : socket.responseReady = false) (he : socket.request = []) :
    ReadinessAgrees socket ↔ socket.closed = false := by
  cases hc : socket.closed with
  | true =>
    apply iff_of_false _ nofun
    intro h
    obtain ⟨bytes, hrecv, -⟩ := h.readable ⟨0⟩ 0 1 false Nat.one_pos
      (pollReadReady_closed ⟨0⟩ hr hc)
    rw [tryRecv_wouldBlock 1 false hr he] at hrecv
    cases hrecv
  | false =>
    apply iff_of_true _ rfl
    refine ⟨?_, ?_, pollWriteReady_agrees⟩
    · intro waker bufLen peek _
      rw [pollReadReady_pending waker hr hc, tryRecv_wouldBlock bufLen peek hr he]
      exact iff_of_true rfl rfl
    · intro waker n bufLen peek _ h
      rw [pollReadReady_pending waker hr hc] at h
      cases h

theorem readinessAgrees_halfSent (hr : socket.responseReady = false) (he : socket.request ≠ [])
    (ho : socket.responseOffset = 0) :
    ReadinessAgrees socket ↔ socket.closed = true ∧ socket.response = [] := by
  have hlength (bufLen : Nat) (peek : Bool) :
      (socket.recordPayloadAndPrepareResponse.1.readResponse bufLen peek).1.length =
        min socket.response.length bufLen := by
    rw [readResponse_length]
    change min (socket.response.length - socket.responseOffset) bufLen = _
    rw [ho, Nat.sub_zero]
  cases hc : socket.closed with
  | false =>
    apply iff_of_false _ nofun
    intro h
    have hblock := (h.pending ⟨0⟩ 1 false Nat.one_pos).1 (pollReadReady_pending ⟨0⟩ hr hc)
    rw [tryRecv_record 1 false hr he] at hblock
    cases hblock
  | true =>
    apply Iff.intro
    · intro h
      obtain ⟨bytes, hrecv, hbytes⟩ := h.readable ⟨0⟩ 0 1 false Nat.one_pos
        (pollReadReady_closed ⟨0⟩ hr hc)
      rw [tryRecv_record 1 false hr he] at hrecv
      cases hrecv
      rw [hlength] at hbytes
      exact ⟨rfl, List.eq_nil_of_length_eq_zero (by omega)⟩
    · rintro ⟨-, hnil⟩
      refine ⟨?_, ?_, pollWriteReady_agrees⟩
      · intro waker bufLen peek _
        rw [pollReadReady_closed waker hr hc, tryRecv_record bufLen peek hr he]
        exact ⟨nofun, nofun⟩
      · intro waker n bufLen peek _ h
        rw [pollReadReady_closed waker hr hc] at h
        cases h
        rw [tryRecv_record bufLen peek hr he]
        exact ⟨_, rfl, by rw [hlength, hnil]; rfl⟩

end

/-- Nothing of the response is read before it is ready. -/
def UnreadUntilReady (socket : HoneypotTcpSocket) : Prop :=
  socket.responseReady = false → socket.responseOffset = 0

theorem unreadUntilReady_step (socket : HoneypotTcpSocket) (call : SocketCall)
    (h : UnreadUntilReady socket) : UnreadUntilReady (call.step socket).2 := by
  have houtcome := call.step_outcome socket
  generalize call.step socket = out at houtcome
  cases houtcome with
  | sendComplete | flushRecord => exact nofun
  | recvReady bufLen peek hr =>
    have hready := (socket.readResponse_frame bufLen peek).2.2
    exact fun hf => Bool.noConfusion (hf.symm.trans (hready.trans hr))
  | recvRecord bufLen peek =>
    have hready := (socket.recordPayloadAndPrepareResponse.1.readResponse_frame bufLen peek).2.2
    exact fun hf => Bool.noConfusion (hf.symm.trans hready)
  | sendClosed | sendPending | flushIdle | recvWouldBlock | close | shutdown | pollRead
  | pollWrite | setHandler | removeHandler | setSendBufSize => exact h

/-- In a reachable state the polls agree with the calls exactly when the response is ready,
or an open socket has no request, or a closed one has a request and an empty response. -/
theorem readiness_agrees_iff {peerAddr : SocketAddr} {domain : Option String}
    {response : List UInt8} {socket : HoneypotTcpSocket}
    (h : Machine.Reachable SocketCall.step (.new peerAddr domain response) socket) :
    ReadinessAgrees socket ↔ socket.responseReady = true ∨
      socket.closed = false ∧ socket.request = [] ∨
      socket.closed = true ∧ socket.request ≠ [] ∧ socket.response = [] := by
  have hunread : UnreadUntilReady socket :=
    h.invariant SocketCall.step (fun _ => rfl) unreadUntilReady_step
  cases hr : socket.responseReady with
  | true => exact iff_of_true (readinessAgrees_ready hr) (.inl rfl)
  | false =>
    by_cases he : socket.request = []
    · rw [readinessAgrees_idle hr he]
      apply Iff.intro
      · intro hc
        exact .inr (.inl ⟨hc, he⟩)
      · rintro (hready | hidle | hclosed)
        · cases hready
        · exact hidle.1
        · exact absurd he hclosed.2.1
    · rw [readinessAgrees_halfSent hr he (hunread hr)]
      apply Iff.intro
      · intro hc
        exact .inr (.inr ⟨hc.1, he, hc.2⟩)
      · rintro (hready | hidle | hclosed)
        · cases hready
        · exact absurd hidle.2 he
        · exact ⟨hclosed.1, hclosed.2.2⟩

theorem flushed_socket_agrees :
    ReadinessAgrees (Machine.final SocketCall.step (.new ⟨.v4 0xcb007101#32, 80⟩ none [0x6f])
      [.trySend [0x47], .tryFlush]) :=
  (readiness_agrees_iff ⟨_, rfl⟩).2 (.inl rfl)

theorem closed_and_partial_sockets_disagree :
    let start := HoneypotTcpSocket.new ⟨.v4 0xcb007101#32, 80⟩ none [0x6f]
    ∀ calls ∈ [[.close], [.trySend [0x47]], [.trySend [0x47], .shutdown]],
      ¬ReadinessAgrees (Machine.final SocketCall.step start calls) := by
  intro start calls hcalls hagrees
  simp only [List.mem_cons, List.not_mem_nil, or_false] at hcalls
  rcases hcalls with rfl | rfl | rfl
  · obtain ⟨bytes, hrecv, -⟩ := hagrees.readable ⟨0⟩ 0 1 false Nat.one_pos rfl
    cases hrecv
  · cases (hagrees.pending ⟨0⟩ 1 false Nat.one_pos).1 rfl
  · obtain ⟨bytes, hrecv, hlength⟩ := hagrees.readable ⟨0⟩ 0 1 false Nat.one_pos rfl
    cases hrecv
    cases hlength

end WasmerSectest
