import WasmerSectest.NetworkLog
import WasmerSectest.SocketEvidence

namespace WasmerSectest
set_option autoImplicit true

/-- The bytes hold the end of the headers of a request: `CR LF CR LF` or `LF LF`. -/
def EndsHeaders (bytes : List UInt8) : Prop :=
  [0x0d, 0x0a, 0x0d, 0x0a] <:+: bytes ∨ [0x0a, 0x0a] <:+: bytes

instance (bytes : List UInt8) : Decidable (EndsHeaders bytes) :=
  inferInstanceAs (Decidable (_ ∨ _))

/-- What was sent makes a request complete, as far as it is captured. -/
def RequestComplete (sent : List UInt8) : Prop :=
  EndsHeaders (sent.take maxCapturedRequestBytes) ∨ maxCapturedRequestBytes ≤ sent.length

instance (sent : List UInt8) : Decidable (RequestComplete sent) :=
  inferInstanceAs (Decidable (_ ∨ _))

/-- The payloads among the events that a call records. -/
def recordedPayloads (effects : List SocketEffect) : List (List UInt8) :=
  (recordedEvents effects).filterMap fun event =>
    if event.operation = .payloadCaptured then some event.payload else none

theorem hasWindow_iff_infix (window payload : List UInt8) :
    hasWindow window payload = true ↔ window <:+: payload := by
  induction payload with
  | nil => rw [hasWindow, List.isEmpty_iff, List.infix_nil]
  | cons byte payload ih =>
    rw [hasWindow, Bool.or_eq_true, List.isPrefixOf_iff_prefix, ih, List.infix_cons_iff]

theorem hasCompleteHttpHeaders_iff (payload : List UInt8) :
    hasCompleteHttpHeaders payload = true ↔ EndsHeaders payload := by
  rw [hasCompleteHttpHeaders, Bool.or_eq_true, hasWindow_iff_infix, hasWindow_iff_infix]
  rfl

theorem EndsHeaders.mono {bytes bytes' : List UInt8} (hpre : bytes <+: bytes')
    (h : EndsHeaders bytes) : EndsHeaders bytes' := by
  rcases h with h | h
  · exact .inl (h.trans hpre.isInfix)
  · exact .inr (h.trans hpre.isInfix)

theorem RequestComplete.mono {sent sent' : List UInt8} (hpre : sent <+: sent')
    (h : RequestComplete sent) : RequestComplete sent' := by
  rcases h with h | h
  · exact .inl (h.mono (hpre.take _))
  · exact .inr (Nat.le_trans h hpre.length_le)

theorem isRequestComplete_take (sent : List UInt8) :
    HoneypotTcpSocket.isRequestComplete (sent.take maxCapturedRequestBytes) = true ↔
      RequestComplete sent := by
  have hlimit : maxCapturedRequestBytes ≤ (sent.take maxCapturedRequestBytes).length ↔
      maxCapturedRequestBytes ≤ sent.length := by
    rw [List.length_take]
    omega
  have hnonempty (h : RequestComplete sent) : sent.take maxCapturedRequestBytes ≠ [] := by
    intro hnil
    rcases h with h | h
    · rw [hnil] at h
      exact absurd h (by decide)
    · rw [← hlimit, hnil] at h
      exact absurd h (by decide)
  rw [HoneypotTcpSocket.isRequestComplete, Bool.and_eq_true, Bool.or_eq_true, decide_eq_true_iff,
    hlimit, hasCompleteHttpHeaders_iff, Bool.not_eq_true', List.isEmpty_eq_false_iff]
  exact and_iff_right_of_imp hnonempty

/-- A socket to which nothing but the given bytes was sent. -/
structure Captures (sent : List UInt8) (socket : HoneypotTcpSocket) : Prop where
  request_eq : socket.request = sent.take maxCapturedRequestBytes
  ready_iff : socket.responseReady = true ↔ RequestComplete sent
  opened : socket.closed = false
  consistent : socket.Consistent

theorem recordedPayloads_record {socket : HoneypotTcpSocket} (hc : socket.Consistent)
    (hr : socket.responseReady = false) :
    recordedPayloads socket.recordPayloadAndPrepareResponse.2 = [socket.request] := by
  rw [recordedPayloads, HoneypotTcpSocket.recordedEvents_record hc hr]
  rfl

section
variable {sent : List UInt8} {socket : HoneypotTcpSocket} (h : Captures sent socket)
include h

theorem Captures.extendRequest (data : List UInt8) :
    (socket.extendRequest data).request = (sent ++ data).take maxCapturedRequestBytes := by
  have hlen : socket.request.length ≤ maxCapturedRequestBytes := by
    rw [h.request_eq]
    exact List.length_take_le _ _
  rw [HoneypotTcpSocket.extendRequest_request data hlen, h.request_eq, PrefixBuffer.extend_take]

theorem Captures.complete_iff (data : List UInt8) :
    HoneypotTcpSocket.isRequestComplete (socket.extendRequest data).request = true ↔
      RequestComplete (sent ++ data) := by
  rw [h.extendRequest, isRequestComplete_take]

/-- A chunk that completes the request is recorded with all that came before it. -/
theorem Captures.send (data : List UInt8) :
    Captures (sent ++ data) ((SocketCall.trySend data).step socket).2 ∧
      (recordedPayloads ((SocketCall.trySend data).step socket).1.2 =
        if ¬RequestComplete sent ∧ RequestComplete (sent ++ data) then
          [((SocketCall.trySend data).step socket).2.request]
        else []) := by
  have hrequest := h.extendRequest data
  rw [SocketCall.step]
  by_cases hold : RequestComplete sent
  · have hready := h.ready_iff.2 hold
    rw [HoneypotTcpSocket.trySend_pending h.opened (.inl hready),
      if_neg fun hfirst => hfirst.1 hold]
    refine ⟨⟨hrequest, ?_, h.opened, h.consistent⟩, rfl⟩
    exact iff_of_true hready (hold.mono (List.prefix_append _ _))
  · have hready : socket.responseReady = false :=
      Bool.eq_false_iff.2 fun hr => hold (h.ready_iff.1 hr)
    by_cases hnew : RequestComplete (sent ++ data)
    · rw [HoneypotTcpSocket.trySend_complete h.opened hready ((h.complete_iff data).2 hnew),
        if_pos ⟨hold, hnew⟩]
      refine ⟨⟨hrequest, iff_of_true rfl hnew, h.opened, ⟨rfl, rfl⟩⟩, ?_⟩
      exact @recordedPayloads_record (socket.extendRequest data) h.consistent hready
    · have hpending := Bool.eq_false_iff.2 fun hc => hnew ((h.complete_iff data).1 hc)
      rw [HoneypotTcpSocket.trySend_pending h.opened (.inr hpending),
        if_neg fun hfirst => hnew hfirst.2]
      refine ⟨⟨hrequest, ?_, h.opened, h.consistent⟩, rfl⟩
      exact iff_of_false (fun hr => hold (h.ready_iff.1 hr)) hnew

end

theorem new_captures (peerAddr : SocketAddr) (domain : Option String) (response : List UInt8) :
    Captures [] (.new peerAddr domain response) := by
  have hempty : ¬RequestComplete [] := by decide
  exact ⟨rfl, iff_of_false Bool.false_ne_true hempty, rfl, rfl, rfl⟩

/-- The sockets of a run of sends, chunk by chunk. -/
theorem sends_capture (peerAddr : SocketAddr) (domain : Option String) (response : List UInt8)
    (chunks : List (List UInt8)) :
    Captures chunks.flatten (Machine.final SocketCall.step (.new peerAddr domain response)
      (chunks.map .trySend)) := by
  induction chunks using List.reverseRecOn with
  | nil => exact new_captures peerAddr domain response
  | append_singleton chunks chunk ih =>
    rw [List.map_append, List.map_singleton, Machine.final_concat, List.flatten_concat]
    exact (ih.send chunk).1

/-- The call is the first after which the request is complete. -/
def FirstComplete (chunks : List (List UInt8)) (k : Nat) : Prop :=
  (∀ j ≤ k, ¬RequestComplete (chunks.take j).flatten) ∧
    RequestComplete (chunks.take (k + 1)).flatten

theorem firstComplete_iff (chunks : List (List UInt8)) (k : Nat) :
    FirstComplete chunks k ↔ ¬RequestComplete (chunks.take k).flatten ∧
      RequestComplete (chunks.take (k + 1)).flatten := by
  apply and_congr_left'
  apply Iff.intro
  · intro h
    exact h k (Nat.le_refl k)
  · intro h j hj hcomplete
    apply h
    obtain ⟨rest, hrest⟩ := List.take_prefix_take_left (l := chunks) hj
    apply hcomplete.mono
    rw [← hrest, List.flatten_append]
    exact List.prefix_append _ _

/-- The capture of a request depends on the bytes sent and not on how they were split. -/
theorem capture_ignores_fragmentation (peerAddr : SocketAddr) (domain : Option String)
    (response : List UInt8) (chunks : List (List UInt8)) :
    let start := HoneypotTcpSocket.new peerAddr domain response
    let socket (chunks : List (List UInt8)) :=
      Machine.final SocketCall.step start (chunks.map .trySend)
    (socket chunks).request = chunks.flatten.take maxCapturedRequestBytes ∧
      ((socket chunks).responseReady = true ↔ RequestComplete chunks.flatten) ∧
      (∀ chunks', chunks'.flatten = chunks.flatten →
        (socket chunks').request = (socket chunks).request ∧
          (socket chunks').responseReady = (socket chunks).responseReady) ∧
      ∀ k entry, (Machine.trace SocketCall.step start (chunks.map .trySend))[k]? = some entry →
        (FirstComplete chunks k →
          recordedPayloads entry.2.2 = [(socket (chunks.take (k + 1))).request]) ∧
        (¬FirstComplete chunks k → recordedPayloads entry.2.2 = []) := by
  intro start socket
  have hcaptures (chunks : List (List UInt8)) : Captures chunks.flatten (socket chunks) :=
    sends_capture peerAddr domain response chunks
  have h := hcaptures chunks
  refine ⟨h.request_eq, h.ready_iff, ?_, ?_⟩
  · intro chunks' heq
    have h' := hcaptures chunks'
    rw [heq] at h'
    exact ⟨h'.request_eq.trans h.request_eq.symm,
      Bool.eq_iff_iff.2 (h'.ready_iff.trans h.ready_iff.symm)⟩
  · intro k entry hentry
    rw [Machine.trace_getElem?, List.getElem?_map, Option.map_map, Option.map_eq_some_iff]
      at hentry
    obtain ⟨chunk, hchunk, rfl⟩ := hentry
    have htake : chunks.take (k + 1) = chunks.take k ++ [chunk] := by
      rw [List.take_add_one, hchunk]
      rfl
    have hflatten : (chunks.take (k + 1)).flatten = (chunks.take k).flatten ++ chunk := by
      rw [htake, List.flatten_concat]
    have hnext : socket (chunks.take (k + 1)) =
        ((SocketCall.trySend chunk).step (socket (chunks.take k))).2 := by
      change Machine.final _ start ((chunks.take (k + 1)).map SocketCall.trySend) = _
      rw [htake, List.map_append, List.map_singleton, Machine.final_concat]
    have hsend := ((hcaptures (chunks.take k)).send chunk).2
    rw [← hflatten, ← hnext] at hsend
    rw [firstComplete_iff, ← List.map_take]
    apply And.intro
    · intro hfirst
      exact hsend.trans (if_pos hfirst)
    · intro hlater
      exact hsend.trans (if_neg hlater)

end WasmerSectest
