import WasmerSectest.NetworkLog

namespace WasmerSectest
set_option autoImplicit true

namespace HoneypotTcpSocket

section
variable {socket : HoneypotTcpSocket}

theorem readResponse_end (bufLen : Nat) (peek : Bool)
    (h : socket.response.drop socket.responseOffset = []) :
    socket.readResponse bufLen peek = ([], socket.close) := by
  rw [readResponse, h]
  rfl

theorem readResponse_peek (bufLen : Nat)
    (h : socket.response.drop socket.responseOffset ≠ []) :
    (socket.readResponse bufLen true).2 = (socket, []) := by
  rw [readResponse, List.isEmpty_eq_false_iff.2 h]
  rfl

theorem readResponse_same (bufLen : Nat) :
    (socket.readResponse bufLen true).1 = (socket.readResponse bufLen false).1 := by
  rw [readResponse, readResponse]
  cases (socket.response.drop socket.responseOffset).isEmpty <;> rfl

theorem readResponse_peeked (m n : Nat) :
    ((socket.readResponse m true).2.1.readResponse n false).1 =
        (socket.readResponse n false).1 ∧
      ((socket.readResponse m true).2.1.readResponse n false).2.1 =
        (socket.readResponse n false).2.1 := by
  by_cases h : socket.response.drop socket.responseOffset = []
  · have hclosed : socket.close.1.response.drop socket.close.1.responseOffset = [] := h
    rw [readResponse_end m true h, readResponse_end n false h, readResponse_end n false hclosed]
    exact ⟨rfl, rfl⟩
  · rw [readResponse_peek m h]
    exact ⟨rfl, rfl⟩

theorem tryRecv_peeked (m n : Nat) (hr : socket.responseReady = true) :
    ∃ effects, recordedEvents effects = [] ∧
      (socket.readResponse m true).2.1.tryRecv n false =
        (.ok (socket.readResponse n false).1, (socket.readResponse n false).2.1, effects) := by
  obtain ⟨-, -, hready⟩ := socket.readResponse_frame m true
  obtain ⟨hbytes, hsocket⟩ := @readResponse_peeked socket m n
  rw [tryRecv_ready n false (hready.trans hr), ← hbytes, ← hsocket]
  exact ⟨_, (readResponse_quiet n false).2.2.2, rfl⟩

/-- Either there is nothing to receive, or every receive reads from one response that is ready
by then. -/
theorem tryRecv_cases (socket : HoneypotTcpSocket) :
    (∀ bufLen peek, socket.tryRecv bufLen peek = (.error .wouldBlock, socket, [])) ∨
      ∃ (ready : HoneypotTcpSocket) (prepared : List SocketEffect),
        ready.responseReady = true ∧ ∀ bufLen peek, socket.tryRecv bufLen peek =
          (.ok (ready.readResponse bufLen peek).1, (ready.readResponse bufLen peek).2.1,
            prepared ++ (ready.readResponse bufLen peek).2.2) := by
  cases hr : socket.responseReady with
  | true =>
    apply Or.inr
    exact ⟨socket, [], hr, fun bufLen peek => tryRecv_ready bufLen peek hr⟩
  | false =>
    by_cases he : socket.request = []
    · exact .inl fun bufLen peek => tryRecv_wouldBlock bufLen peek hr he
    · apply Or.inr
      exact ⟨_, _, rfl, fun bufLen peek => tryRecv_record bufLen peek hr he⟩

end

end HoneypotTcpSocket

open HoneypotTcpSocket

/-- The read gives and leaves the same with the peek before it as without. -/
structure PeekHidden (peeked after direct : Except NetworkError (List UInt8) ×
    HoneypotTcpSocket × List SocketEffect) : Prop where
  result_eq : after.1 = direct.1
  socket_eq : after.2.1 = direct.2.1
  events_eq : recordedEvents peeked.2.2 ++ recordedEvents after.2.2 =
    recordedEvents direct.2.2

/-- A peek before a read shows in nothing that the read does or leaves behind. -/
theorem peek_unobservable (socket : HoneypotTcpSocket) (m n : Nat) :
    let peeked := socket.tryRecv m true
    let after := peeked.2.1.tryRecv n false
    PeekHidden peeked after (socket.tryRecv n false) ∧ (m = n → peeked.1 = after.1) := by
  intro peeked after
  rcases tryRecv_cases socket with hblocked | ⟨ready, prepared, hr, hrecv⟩
  · have hpeeked : peeked = (.error .wouldBlock, socket, []) := hblocked m true
    have hafter : after = (.error .wouldBlock, socket, []) := by
      change peeked.2.1.tryRecv n false = _
      rw [hpeeked]
      exact hblocked n false
    rw [hpeeked, hafter, hblocked n false]
    exact ⟨⟨rfl, rfl, rfl⟩, fun _ => rfl⟩
  · obtain ⟨effects, hquiet, hread⟩ := tryRecv_peeked m n hr
    have hpeeked : peeked = (.ok (ready.readResponse m true).1, (ready.readResponse m true).2.1,
        prepared ++ (ready.readResponse m true).2.2) := hrecv m true
    have hafter : after = (.ok (ready.readResponse n false).1,
        (ready.readResponse n false).2.1, effects) := by
      change peeked.2.1.tryRecv n false = _
      rw [hpeeked]
      exact hread
    rw [hpeeked, hafter, hrecv n false]
    apply And.intro
    · refine ⟨rfl, rfl, ?_⟩
      simp only [recordedEvents_append, (readResponse_quiet _ _).2.2.2, hquiet, List.append_nil]
    · rintro rfl
      exact congrArg Except.ok (readResponse_same m)

end WasmerSectest
