import Mathlib
import WasmerSectest.Lib.Machine

namespace WasmerSectest
set_option autoImplicit true

inductive IpAddr where
  | v4 (bits : BitVec 32)
  | v6 (bits : BitVec 128)
  deriving DecidableEq

structure SocketAddr where
  ip : IpAddr
  port : UInt16
  deriving DecidableEq

inductive NetworkHoneypotOperation where
  | resolveIntercepted
  | connectIntercepted
  | payloadCaptured
  | mockResponseInjected
  deriving DecidableEq

structure NetworkHoneypotEvent where
  target : SocketAddr
  domain : Option String
  operation : NetworkHoneypotOperation
  payload : List UInt8
  mockedResponseBytes : Nat
  deriving DecidableEq

inductive NetworkError where
  | wouldBlock
  | connectionReset
  | permissionDenied
  deriving DecidableEq

inductive InterestType where
  | readable
  | closed
  deriving DecidableEq

/-- An interest handler; those made from the waker of a task are told apart by the task. -/
structure InterestHandler where
  id : Nat
  deriving DecidableEq

/-- What a socket does to the world around it. -/
inductive SocketEffect where
  | record (event : NetworkHoneypotEvent)
  | pushInterest (handler : InterestHandler) (interest : InterestType)
  deriving DecidableEq

def maxCapturedRequestBytes : Nat := 16 * 1024

def hasWindow (window : List UInt8) : List UInt8 → Bool
  | [] => window.isEmpty
  | byte :: payload => window.isPrefixOf (byte :: payload) || hasWindow window payload

def hasCompleteHttpHeaders (payload : List UInt8) : Bool :=
  hasWindow [0x0d, 0x0a, 0x0d, 0x0a] payload || hasWindow [0x0a, 0x0a] payload

structure HoneypotTcpSocket where
  peerAddr : SocketAddr
  domain : Option String
  request : List UInt8 := []
  response : List UInt8
  responseOffset : Nat := 0
  responseReady : Bool := false
  payloadLogged : Bool := false
  mockLogged : Bool := false
  closed : Bool := false
  sendBufSize : Nat := 64 * 1024
  handler : Option InterestHandler := none
  deriving DecidableEq

namespace HoneypotTcpSocket

def new (peerAddr : SocketAddr) (domain : Option String) (response : List UInt8) :
    HoneypotTcpSocket where
  peerAddr := peerAddr
  domain := domain
  response := response

def event (socket : HoneypotTcpSocket) (operation : NetworkHoneypotOperation)
    (payload : List UInt8) (mockedResponseBytes : Nat) : SocketEffect :=
  .record ⟨socket.peerAddr, socket.domain, operation, payload, mockedResponseBytes⟩

def pushInterest (socket : HoneypotTcpSocket) (interest : InterestType) : List SocketEffect :=
  match socket.handler with
  | some handler => [.pushInterest handler interest]
  | none => []

def recordPayloadAndPrepareResponse (socket : HoneypotTcpSocket) :
    HoneypotTcpSocket × List SocketEffect :=
  let payload :=
    if !socket.payloadLogged then [socket.event .payloadCaptured socket.request 0] else []
  let mock :=
    if !socket.mockLogged then [socket.event .mockResponseInjected [] socket.response.length]
    else []
  ({ socket with payloadLogged := true, mockLogged := true, responseReady := true },
    payload ++ mock ++ socket.pushInterest .readable)

def removeHandler (socket : HoneypotTcpSocket) : HoneypotTcpSocket :=
  { socket with handler := none }

def setHandler (socket : HoneypotTcpSocket) (handler : InterestHandler) : HoneypotTcpSocket :=
  { socket with handler := some handler }

def setSendBufSize (socket : HoneypotTcpSocket) (size : Nat) : HoneypotTcpSocket :=
  { socket with sendBufSize := size }

/-- The answer of a poll; `none` is `Poll::Pending`. -/
abbrev Poll := Option (Except NetworkError Nat)

def pollReadReady (socket : HoneypotTcpSocket) (waker : InterestHandler) :
    Poll × HoneypotTcpSocket :=
  let socket := socket.setHandler waker
  if socket.responseReady then
    (some (.ok (socket.response.length - socket.responseOffset)), socket)
  else if socket.closed then (some (.ok 0), socket)
  else (none, socket)

def pollWriteReady (socket : HoneypotTcpSocket) (waker : InterestHandler) :
    Poll × HoneypotTcpSocket :=
  let socket := socket.setHandler waker
  if socket.closed then (some (.error .connectionReset), socket)
  else (some (.ok socket.sendBufSize), socket)

def extendRequest (socket : HoneypotTcpSocket) (data : List UInt8) : HoneypotTcpSocket :=
  let remainingCapture := maxCapturedRequestBytes - socket.request.length
  let captureLen := min remainingCapture data.length
  { socket with request := socket.request ++ data.take captureLen }

/-- The request is complete as far as `try_send` can tell. -/
def isRequestComplete (request : List UInt8) : Bool :=
  !request.isEmpty &&
    (hasCompleteHttpHeaders request || maxCapturedRequestBytes ≤ request.length)

def trySend (socket : HoneypotTcpSocket) (data : List UInt8) :
    Except NetworkError Nat × HoneypotTcpSocket × List SocketEffect :=
  if socket.closed then (.error .connectionReset, socket, [])
  else
    let socket := socket.extendRequest data
    if !socket.responseReady && isRequestComplete socket.request then
      (.ok data.length, socket.recordPayloadAndPrepareResponse)
    else (.ok data.length, socket, [])

def tryFlush (socket : HoneypotTcpSocket) : HoneypotTcpSocket × List SocketEffect :=
  if !socket.request.isEmpty && !socket.responseReady then
    socket.recordPayloadAndPrepareResponse
  else (socket, [])

/-- `close`, and `shutdown` whatever its direction. -/
def close (socket : HoneypotTcpSocket) : HoneypotTcpSocket × List SocketEffect :=
  ({ socket with closed := true }, socket.pushInterest .closed)

def readResponse (socket : HoneypotTcpSocket) (bufLen : Nat) (peek : Bool) :
    List UInt8 × HoneypotTcpSocket × List SocketEffect :=
  let remaining := socket.response.drop socket.responseOffset
  if remaining.isEmpty then ([], socket.close)
  else
    let readLen := min remaining.length bufLen
    let responseOffset :=
      if !peek then socket.responseOffset + readLen else socket.responseOffset
    (remaining.take readLen, { socket with responseOffset := responseOffset }, [])

/-- The bytes written into the buffer, whose number is what the call returns. -/
def tryRecv (socket : HoneypotTcpSocket) (bufLen : Nat) (peek : Bool) :
    Except NetworkError (List UInt8) × HoneypotTcpSocket × List SocketEffect :=
  if socket.responseReady then
    let (bytes, socket, effects) := socket.readResponse bufLen peek
    (.ok bytes, socket, effects)
  else if socket.request.isEmpty then (.error .wouldBlock, socket, [])
  else
    let (socket, prepared) := socket.recordPayloadAndPrepareResponse
    let (bytes, socket, effects) := socket.readResponse bufLen peek
    (.ok bytes, socket, prepared ++ effects)

section
variable {socket : HoneypotTcpSocket}

theorem pollReadReady_snd (waker : InterestHandler) :
    (socket.pollReadReady waker).2 = socket.setHandler waker := by
  rw [pollReadReady]
  cases hr : (socket.setHandler waker).responseReady <;>
    cases hc : (socket.setHandler waker).closed <;> rfl

theorem pollWriteReady_snd (waker : InterestHandler) :
    (socket.pollWriteReady waker).2 = socket.setHandler waker := by
  rw [pollWriteReady]
  cases hc : (socket.setHandler waker).closed <;> rfl

theorem trySend_closed (data : List UInt8) (hc : socket.closed = true) :
    socket.trySend data = (.error .connectionReset, socket, []) := by
  rw [trySend, hc]
  rfl

theorem trySend_pending {data : List UInt8} (hc : socket.closed = false)
    (h : socket.responseReady = true ∨
      isRequestComplete (socket.extendRequest data).request = false) :
    socket.trySend data = (.ok data.length, socket.extendRequest data, []) := by
  have hcond : (!(socket.extendRequest data).responseReady &&
      isRequestComplete (socket.extendRequest data).request) = false := by
    change (!socket.responseReady && _) = false
    rcases h with h | h
    · rw [h]
      rfl
    · rw [h, Bool.and_false]
  rw [trySend, hc]
  simp only [hcond]
  rfl

theorem trySend_complete {data : List UInt8} (hc : socket.closed = false)
    (hr : socket.responseReady = false)
    (h : isRequestComplete (socket.extendRequest data).request = true) :
    socket.trySend data =
      (.ok data.length, (socket.extendRequest data).recordPayloadAndPrepareResponse) := by
  have hcond : (!(socket.extendRequest data).responseReady &&
      isRequestComplete (socket.extendRequest data).request) = true := by
    change (!socket.responseReady && _) = true
    rw [hr, h]
    rfl
  rw [trySend, hc]
  simp only [hcond]
  rfl

theorem trySend_accepted (data : List UInt8) (hc : socket.closed = false) :
    (socket.trySend data).1 = .ok data.length := by
  cases hr : socket.responseReady with
  | true => rw [trySend_pending hc (.inl hr)]
  | false =>
    cases hd : isRequestComplete (socket.extendRequest data).request with
    | true => rw [trySend_complete hc hr hd]
    | false => rw [trySend_pending hc (.inr hd)]

theorem tryFlush_idle (h : socket.request = [] ∨ socket.responseReady = true) :
    socket.tryFlush = (socket, []) := by
  rw [tryFlush]
  rcases h with h | h
  · rw [h]
    rfl
  · rw [h, Bool.not_true, Bool.and_false]
    rfl

theorem tryFlush_record (he : socket.request ≠ []) (hr : socket.responseReady = false) :
    socket.tryFlush = socket.recordPayloadAndPrepareResponse := by
  rw [tryFlush, List.isEmpty_eq_false_iff.2 he, hr]
  rfl

theorem tryRecv_ready (bufLen : Nat) (peek : Bool) (hr : socket.responseReady = true) :
    socket.tryRecv bufLen peek =
      (.ok (socket.readResponse bufLen peek).1, (socket.readResponse bufLen peek).2) := by
  rw [tryRecv, hr]
  rfl

theorem tryRecv_wouldBlock (bufLen : Nat) (peek : Bool) (hr : socket.responseReady = false)
    (he : socket.request = []) :
    socket.tryRecv bufLen peek = (.error .wouldBlock, socket, []) := by
  rw [tryRecv, hr, he]
  rfl

theorem tryRecv_record (bufLen : Nat) (peek : Bool) (hr : socket.responseReady = false)
    (he : socket.request ≠ []) :
    socket.tryRecv bufLen peek =
      (.ok (socket.recordPayloadAndPrepareResponse.1.readResponse bufLen peek).1,
        (socket.recordPayloadAndPrepareResponse.1.readResponse bufLen peek).2.1,
        socket.recordPayloadAndPrepareResponse.2 ++
          (socket.recordPayloadAndPrepareResponse.1.readResponse bufLen peek).2.2) := by
  rw [tryRecv, hr, List.isEmpty_eq_false_iff.2 he]
  rfl

end

theorem readResponse_frame (socket : HoneypotTcpSocket) (bufLen : Nat)
    (peek : Bool) :
    (socket.readResponse bufLen peek).2.1.request = socket.request ∧
      (socket.readResponse bufLen peek).2.1.payloadLogged = socket.payloadLogged ∧
      (socket.readResponse bufLen peek).2.1.responseReady = socket.responseReady := by
  rw [readResponse]
  simp only
  split <;> exact ⟨rfl, rfl, rfl⟩

end HoneypotTcpSocket

inductive SocketCall where
  | trySend (data : List UInt8)
  | tryFlush
  | tryRecv (bufLen : Nat) (peek : Bool)
  | close
  | shutdown
  | pollReadReady (waker : InterestHandler)
  | pollWriteReady (waker : InterestHandler)
  | setHandler (handler : InterestHandler)
  | removeHandler
  | setSendBufSize (size : Nat)
  deriving DecidableEq

inductive SocketReply where
  | sent (result : Except NetworkError Nat)
  | received (result : Except NetworkError (List UInt8))
  | polled (poll : HoneypotTcpSocket.Poll)
  | done

/-- One call on a socket, with its reply and its effects. -/
def SocketCall.step (socket : HoneypotTcpSocket) (call : SocketCall) :
    (SocketReply × List SocketEffect) × HoneypotTcpSocket :=
  match call with
  | .trySend data =>
    let (result, socket, effects) := socket.trySend data
    ((.sent result, effects), socket)
  | .tryFlush =>
    let (socket, effects) := socket.tryFlush
    ((.done, effects), socket)
  | .tryRecv bufLen peek =>
    let (result, socket, effects) := socket.tryRecv bufLen peek
    ((.received result, effects), socket)
  | .close | .shutdown =>
    let (socket, effects) := socket.close
    ((.done, effects), socket)
  | .pollReadReady waker =>
    let (poll, socket) := socket.pollReadReady waker
    ((.polled poll, []), socket)
  | .pollWriteReady waker =>
    let (poll, socket) := socket.pollWriteReady waker
    ((.polled poll, []), socket)
  | .setHandler handler => ((.done, []), socket.setHandler handler)
  | .removeHandler => ((.done, []), socket.removeHandler)
  | .setSendBufSize size => ((.done, []), socket.setSendBufSize size)

open HoneypotTcpSocket

/-- Everything a call can do, with the reason for it. -/
inductive SocketOutcome (socket : HoneypotTcpSocket) :
    SocketCall → (SocketReply × List SocketEffect) × HoneypotTcpSocket → Prop where
  | sendClosed (data : List UInt8) (hc : socket.closed = true) :
    SocketOutcome socket (.trySend data) ((.sent (.error .connectionReset), []), socket)
  | sendPending (data : List UInt8) (hc : socket.closed = false)
    (h : socket.responseReady = true ∨
      isRequestComplete (socket.extendRequest data).request = false) :
    SocketOutcome socket (.trySend data)
      ((.sent (.ok data.length), []), socket.extendRequest data)
  | sendComplete (data : List UInt8) (hc : socket.closed = false)
    (hr : socket.responseReady = false)
    (h : isRequestComplete (socket.extendRequest data).request = true) :
    SocketOutcome socket (.trySend data)
      ((.sent (.ok data.length),
        (socket.extendRequest data).recordPayloadAndPrepareResponse.2),
        (socket.extendRequest data).recordPayloadAndPrepareResponse.1)
  | flushIdle (h : socket.request = [] ∨ socket.responseReady = true) :
    SocketOutcome socket .tryFlush ((.done, []), socket)
  | flushRecord (he : socket.request ≠ []) (hr : socket.responseReady = false) :
    SocketOutcome socket .tryFlush
      ((.done, socket.recordPayloadAndPrepareResponse.2),
        socket.recordPayloadAndPrepareResponse.1)
  | recvReady (bufLen : Nat) (peek : Bool) (hr : socket.responseReady = true) :
    SocketOutcome socket (.tryRecv bufLen peek)
      ((.received (.ok (socket.readResponse bufLen peek).1),
        (socket.readResponse bufLen peek).2.2), (socket.readResponse bufLen peek).2.1)
  | recvWouldBlock (bufLen : Nat) (peek : Bool) (hr : socket.responseReady = false)
    (he : socket.request = []) :
    SocketOutcome socket (.tryRecv bufLen peek)
      ((.received (.error .wouldBlock), []), socket)
  | recvRecord (bufLen : Nat) (peek : Bool) (hr : socket.responseReady = false)
    (he : socket.request ≠ []) :
    SocketOutcome socket (.tryRecv bufLen peek)
      ((.received (.ok (socket.recordPayloadAndPrepareResponse.1.readResponse bufLen peek).1),
        socket.recordPayloadAndPrepareResponse.2 ++
          (socket.recordPayloadAndPrepareResponse.1.readResponse bufLen peek).2.2),
        (socket.recordPayloadAndPrepareResponse.1.readResponse bufLen peek).2.1)
  | close : SocketOutcome socket .close ((.done, socket.close.2), socket.close.1)
  | shutdown : SocketOutcome socket .shutdown ((.done, socket.close.2), socket.close.1)
  | pollRead (waker : InterestHandler) :
    SocketOutcome socket (.pollReadReady waker)
      ((.polled (socket.pollReadReady waker).1, []), socket.setHandler waker)
  | pollWrite (waker : InterestHandler) :
    SocketOutcome socket (.pollWriteReady waker)
      ((.polled (socket.pollWriteReady waker).1, []), socket.setHandler waker)
  | setHandler (handler : InterestHandler) :
    SocketOutcome socket (.setHandler handler) ((.done, []), socket.setHandler handler)
  | removeHandler : SocketOutcome socket .removeHandler ((.done, []), socket.removeHandler)
  | setSendBufSize (size : Nat) :
    SocketOutcome socket (.setSendBufSize size) ((.done, []), socket.setSendBufSize size)

theorem SocketCall.step_outcome (socket : HoneypotTcpSocket) (call : SocketCall) :
    SocketOutcome socket call (call.step socket) := by
  cases call with
  | trySend data =>
    rw [step]
    cases hc : socket.closed with
    | true =>
      rw [trySend_closed data hc]
      exact .sendClosed data hc
    | false =>
      by_cases hp : socket.responseReady = true ∨
          isRequestComplete (socket.extendRequest data).request = false
      · rw [trySend_pending hc hp]
        exact .sendPending data hc hp
      · rw [not_or, Bool.not_eq_true, Bool.not_eq_false] at hp
        rw [trySend_complete hc hp.1 hp.2]
        exact .sendComplete data hc hp.1 hp.2
  | tryFlush =>
    rw [step]
    by_cases hi : socket.request = [] ∨ socket.responseReady = true
    · rw [tryFlush_idle hi]
      exact .flushIdle hi
    · rw [not_or, Bool.not_eq_true] at hi
      rw [tryFlush_record hi.1 hi.2]
      exact .flushRecord hi.1 hi.2
  | tryRecv bufLen peek =>
    rw [step]
    cases hr : socket.responseReady with
    | true =>
      rw [tryRecv_ready bufLen peek hr]
      exact .recvReady bufLen peek hr
    | false =>
      by_cases he : socket.request = []
      · rw [tryRecv_wouldBlock bufLen peek hr he]
        exact .recvWouldBlock bufLen peek hr he
      · rw [tryRecv_record bufLen peek hr he]
        exact .recvRecord bufLen peek hr he
  | pollReadReady waker =>
    have hstep : (SocketCall.pollReadReady waker).step socket =
      ((.polled (socket.pollReadReady waker).1, []), (socket.pollReadReady waker).2) := rfl
    rw [hstep, pollReadReady_snd]
    exact .pollRead waker
  | pollWriteReady waker =>
    have hstep : (SocketCall.pollWriteReady waker).step socket =
      ((.polled (socket.pollWriteReady waker).1, []), (socket.pollWriteReady waker).2) := rfl
    rw [hstep, pollWriteReady_snd]
    exact .pollWrite waker
  | close => exact .close
  | shutdown => exact .shutdown
  | setHandler handler => exact .setHandler handler
  | removeHandler => exact .removeHandler
  | setSendBufSize size => exact .setSendBufSize size

end WasmerSectest
