import WasmerSectest.HoneypotSocket

namespace WasmerSectest
set_option autoImplicit true

def Wakes (effects : List SocketEffect) (handler : InterestHandler) : Prop :=
  ∃ interest, SocketEffect.pushInterest handler interest ∈ effects

/-- The handler a call puts into the slot of the socket. -/
def SocketCall.registers : SocketCall → Option InterestHandler
  | .pollReadReady waker | .pollWriteReady waker => some waker
  | .setHandler handler => some handler
  | _ => none

/-- The handler that was registered last, after one for the waker. -/
def lastRegistered (waker : InterestHandler) (calls : List SocketCall) : InterestHandler :=
  (calls.filterMap SocketCall.registers).getLast?.getD waker

/-- The socket becomes readable or closed. -/
def BecomesReady (socket next : HoneypotTcpSocket) : Prop :=
  (socket.responseReady = false ∧ next.responseReady = true) ∨
    (socket.closed = false ∧ next.closed = true)

/-- A run in which a task polls, is told to wait, and keeps a handler registered until a call
makes the socket ready; `socket` is the state before that call. -/
structure AwaitedCall (start : HoneypotTcpSocket) (calls : List SocketCall)
    (waker : InterestHandler) (between : List SocketCall) (call : SocketCall)
    (socket : HoneypotTcpSocket) : Prop where
  run : ∃ before after,
    calls = before ++ .pollReadReady waker :: between ++ call :: after ∧
      ((Machine.final SocketCall.step start before).pollReadReady waker).1 = none ∧
      socket =
        Machine.final SocketCall.step start (before ++ .pollReadReady waker :: between)
  kept : .removeHandler ∉ between
  ready : BecomesReady socket (call.step socket).2

/-- Whoever waits for the socket hears of every call that makes it readable or closed. -/
def NoLostWakeup (start : HoneypotTcpSocket) (calls : List SocketCall) : Prop :=
  ∀ waker between call socket, AwaitedCall start calls waker between call socket →
    Wakes (call.step socket).1.2 waker

/-- Neither readable nor closed yet. -/
def HoneypotTcpSocket.Idle (socket : HoneypotTcpSocket) : Prop :=
  socket.responseReady = false ∧ socket.closed = false

/-- Whoever waits for the socket hears of the first call that makes it readable or closed. -/
def NoLostFirstWakeup (start : HoneypotTcpSocket) (calls : List SocketCall) : Prop :=
  ∀ waker between call socket, AwaitedCall start calls waker between call socket →
    socket.Idle → Wakes (call.step socket).1.2 waker

namespace HoneypotTcpSocket

theorem readResponse_handler (socket : HoneypotTcpSocket) (bufLen : Nat) (peek : Bool) :
    (socket.readResponse bufLen peek).2.1.handler = socket.handler := by
  rw [readResponse]
  simp only
  split <;> rfl

theorem mem_pushInterest {socket : HoneypotTcpSocket} {handler : InterestHandler}
    {interest interest' : InterestType} :
    SocketEffect.pushInterest handler interest' ∈ socket.pushInterest interest ↔
      socket.handler = some handler ∧ interest' = interest := by
  rw [pushInterest]
  cases socket.handler with
  | none => exact iff_of_false List.not_mem_nil nofun
  | some h =>
    rw [List.mem_singleton, SocketEffect.pushInterest.injEq, Option.some.injEq, eq_comm (a := h)]

end HoneypotTcpSocket

/-- What a call pushes: only to the handler in the slot, and to it if the socket becomes ready. -/
structure Pushes (socket next : HoneypotTcpSocket) (effects : List SocketEffect) : Prop where
  target : ∀ handler interest, SocketEffect.pushInterest handler interest ∈ effects →
    socket.handler = some handler
  complete : BecomesReady socket next → ∃ interest, socket.pushInterest interest ⊆ effects

namespace HoneypotTcpSocket

variable {socket : HoneypotTcpSocket}

theorem pushes_quiet {next : HoneypotTcpSocket}
    (hr : next.responseReady = socket.responseReady) (hc : next.closed = socket.closed) :
    Pushes socket next [] := by
  apply Pushes.mk
  · intro handler interest h
    cases h
  · rintro (⟨hold, hnew⟩ | ⟨hold, hnew⟩)
    · cases hold.symm.trans (hr.symm.trans hnew)
    · cases hold.symm.trans (hc.symm.trans hnew)

theorem pushes_close : Pushes socket socket.close.1 socket.close.2 := by
  apply Pushes.mk
  · intro handler interest h
    exact (mem_pushInterest.1 h).1
  · intro _
    exact ⟨.closed, fun _ h => h⟩

theorem pushes_record :
    Pushes socket socket.recordPayloadAndPrepareResponse.1
      socket.recordPayloadAndPrepareResponse.2 := by
  apply Pushes.mk
  · intro handler interest h
    rw [recordPayloadAndPrepareResponse] at h
    simp only [List.mem_append] at h
    rcases h with (h | h) | h
    · split at h <;> simp [event] at h
    · split at h <;> simp [event] at h
    · exact (mem_pushInterest.1 h).1
  · intro _
    exact ⟨.readable, fun _ h => List.mem_append_right _ h⟩

theorem pushes_readResponse (bufLen : Nat) (peek : Bool) :
    Pushes socket (socket.readResponse bufLen peek).2.1
      (socket.readResponse bufLen peek).2.2 := by
  rw [readResponse]
  simp only
  split
  · exact pushes_close
  · exact pushes_quiet rfl rfl

end HoneypotTcpSocket

open HoneypotTcpSocket

theorem step_pushes (socket : HoneypotTcpSocket) (call : SocketCall) :
    Pushes socket (call.step socket).2 (call.step socket).1.2 := by
  have houtcome := call.step_outcome socket
  generalize call.step socket = out at houtcome
  cases houtcome with
  | sendComplete data =>
    have hrecord : Pushes (socket.extendRequest data) _ _ := pushes_record
    exact ⟨hrecord.target, hrecord.complete⟩
  | flushRecord => exact pushes_record
  | recvReady bufLen peek => exact pushes_readResponse bufLen peek
  | recvRecord bufLen peek =>
    have hread : Pushes socket.recordPayloadAndPrepareResponse.1 _ _ :=
      pushes_readResponse bufLen peek
    apply Pushes.mk
    · intro handler interest h
      rcases List.mem_append.1 h with h | h
      · exact pushes_record.target handler interest h
      · exact hread.target handler interest h
    · intro _
      exact ⟨.readable, fun _ h => List.mem_append_left _ (List.mem_append_right _ h)⟩
  | close | shutdown => exact pushes_close
  | sendClosed | sendPending | flushIdle | recvWouldBlock | pollRead | pollWrite | setHandler
  | removeHandler | setSendBufSize => exact pushes_quiet rfl rfl

/-- A call that makes the socket ready wakes exactly the handler in the slot. -/
theorem wakes_iff_handler {socket : HoneypotTcpSocket} {call : SocketCall}
    (h : BecomesReady socket (call.step socket).2) (handler : InterestHandler) :
    Wakes (call.step socket).1.2 handler ↔ socket.handler = some handler := by
  have hpushes := step_pushes socket call
  apply Iff.intro
  · intro ⟨interest, hmem⟩
    exact hpushes.target handler interest hmem
  · intro hslot
    obtain ⟨interest, hsub⟩ := hpushes.complete h
    exact ⟨interest, hsub (mem_pushInterest.2 ⟨hslot, rfl⟩)⟩

theorem step_handler (socket : HoneypotTcpSocket) {call : SocketCall}
    (hne : call ≠ .removeHandler) :
    (call.step socket).2.handler = call.registers.or socket.handler := by
  have houtcome := call.step_outcome socket
  generalize call.step socket = out at houtcome
  cases houtcome with
  | recvReady bufLen peek => exact readResponse_handler socket bufLen peek
  | recvRecord bufLen peek =>
    exact readResponse_handler socket.recordPayloadAndPrepareResponse.1 bufLen peek
  | removeHandler => exact absurd rfl hne
  | sendClosed | sendPending | sendComplete | flushIdle | flushRecord | recvWouldBlock | close
  | shutdown | pollRead | pollWrite | setHandler | setSendBufSize => rfl

theorem lastRegistered_cons (waker : InterestHandler) (call : SocketCall)
    (calls : List SocketCall) :
    lastRegistered waker (call :: calls) = lastRegistered (call.registers.getD waker) calls := by
  rw [lastRegistered, lastRegistered, List.filterMap_cons]
  cases call.registers with
  | none => rfl
  | some handler =>
    rw [List.getLast?_cons]
    rfl

/-- As long as the handler is not removed, the slot holds the one registered last. -/
theorem final_handler (socket : HoneypotTcpSocket) (calls : List SocketCall)
    (waker : InterestHandler) (hslot : socket.handler = some waker)
    (hkept : .removeHandler ∉ calls) :
    (Machine.final SocketCall.step socket calls).handler = some (lastRegistered waker calls) := by
  induction calls generalizing socket waker with
  | nil => exact hslot
  | cons call calls ih =>
    rw [List.mem_cons, not_or] at hkept
    rw [lastRegistered_cons]
    apply ih _ _ _ hkept.2
    rw [step_handler socket (Ne.symm hkept.1), hslot]
    cases call.registers <;> rfl

theorem AwaitedCall.wakes_iff {start socket : HoneypotTcpSocket} {calls between : List SocketCall}
    {call : SocketCall} {waker : InterestHandler}
    (h : AwaitedCall start calls waker between call socket) :
    Wakes (call.step socket).1.2 waker ↔ lastRegistered waker between = waker := by
  obtain ⟨before, after, -, -, hsocket⟩ := h.run
  have hslot : socket.handler = some (lastRegistered waker between) := by
    rw [hsocket, Machine.final_append]
    apply final_handler _ between waker _ h.kept
    exact congrArg handler (pollReadReady_snd waker)
  rw [wakes_iff_handler h.ready, hslot, Option.some_inj]

/-- No wakeup is lost exactly where no other handler took the place of the waiting task's. -/
theorem no_lost_wakeup_iff (start : HoneypotTcpSocket) (calls : List SocketCall) :
    (NoLostFirstWakeup start calls ↔
      ∀ waker between call socket, AwaitedCall start calls waker between call socket →
        socket.Idle → lastRegistered waker between = waker) ∧
    (NoLostWakeup start calls ↔
      ∀ waker between call socket, AwaitedCall start calls waker between call socket →
        lastRegistered waker between = waker) := by
  apply And.intro
  · apply Iff.intro
    · intro h waker between call socket hcall hidle
      exact hcall.wakes_iff.1 (h waker between call socket hcall hidle)
    · intro h waker between call socket hcall hidle
      exact hcall.wakes_iff.2 (h waker between call socket hcall hidle)
  · apply Iff.intro
    · intro h waker between call socket hcall
      exact hcall.wakes_iff.1 (h waker between call socket hcall)
    · intro h waker between call socket hcall
      exact hcall.wakes_iff.2 (h waker between call socket hcall)

theorem reader_loses_wakeup :
    ¬NoLostFirstWakeup (.new ⟨.v4 0xcb007101#32, 80⟩ none [0x6f])
      [.pollReadReady ⟨1⟩, .pollWriteReady ⟨2⟩, .trySend [0x47], .tryFlush] := by
  intro h
  have hcall : AwaitedCall (.new ⟨.v4 0xcb007101#32, 80⟩ none [0x6f])
      [.pollReadReady ⟨1⟩, .pollWriteReady ⟨2⟩, .trySend [0x47], .tryFlush] ⟨1⟩
      [.pollWriteReady ⟨2⟩, .trySend [0x47]] .tryFlush _ :=
    ⟨⟨[], [], rfl, rfl, rfl⟩, by decide, .inl ⟨rfl, rfl⟩⟩
  have hlast := hcall.wakes_iff.1 (h _ _ _ _ hcall ⟨rfl, rfl⟩)
  cases hlast

end WasmerSectest
