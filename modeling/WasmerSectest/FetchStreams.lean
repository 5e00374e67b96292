import WasmerSectest.WasiNetworkFetch

namespace WasmerSectest
set_option autoImplicit true

namespace WasiNetworkFetch

theorem ensureSuccess_ok (call : String) : ensureSuccess call 0 = .ok () := rfl

theorem ensureSuccess_error {call : String} {errno : UInt16} (h : errno ≠ 0) :
    ensureSuccess call errno = .error s!"{call} returned errno {errno.toNat}" := if_neg h

section
variable {wasix : Wasix σ} {sock : UInt32} {state : σ}

theorem sendAll_nil : sendAll wasix state sock [] = (.ok (), state) := by
  rw [sendAll, dif_pos rfl]

theorem sendAll_sent {bytes : List UInt8} (hne : bytes ≠ [])
    (herrno : (wasix.sockSend state sock bytes).errno = 0)
    (hsent : (wasix.sockSend state sock bytes).value.val ≠ 0) :
    sendAll wasix state sock bytes =
      sendAll wasix (wasix.sockSend state sock bytes).state sock
        (bytes.drop (wasix.sockSend state sock bytes).value.val) := by
  rw [sendAll, dif_neg hne]
  simp only [herrno, ensureSuccess_ok, if_neg hsent]

def SendStalls (wasix : Wasix σ) (state : σ) (sock : UInt32) (bytes : List UInt8) : Prop :=
  (wasix.sockSend state sock bytes).errno ≠ 0 ∨
    (wasix.sockSend state sock bytes).value.val = 0

def stallError (errno : UInt16) : String :=
  if errno = 0 then "sock_send wrote zero bytes" else s!"sock_send returned errno {errno.toNat}"

theorem sendAll_stalled {bytes : List UInt8} (hne : bytes ≠ [])
    (h : SendStalls wasix state sock bytes) :
    sendAll wasix state sock bytes =
      (.error (stallError (wasix.sockSend state sock bytes).errno),
        (wasix.sockSend state sock bytes).state) := by
  rw [sendAll, dif_neg hne, stallError]
  by_cases herrno : (wasix.sockSend state sock bytes).errno = 0
  · have hzero := h.resolve_left (fun hne => hne herrno)
    simp only [herrno, ensureSuccess_ok, if_pos hzero, if_true]
  · simp only [ensureSuccess_error herrno, if_neg herrno]
    rfl

/-- Either everything is sent, in order, or some call after a part of it does not get on. -/
theorem sendAll_outcome (live : List UInt8 → σ → Prop) {total : List UInt8}
    (hlive : ∀ sent data state, sent ++ data = total → data ≠ [] → live sent state →
      (wasix.sockSend state sock data).errno = 0 →
      live (sent ++ data.take (wasix.sockSend state sock data).value.val)
        (wasix.sockSend state sock data).state)
    {sent bytes : List UInt8} (htotal : sent ++ bytes = total) (h : live sent state) :
    (∃ last, sendAll wasix state sock bytes = (.ok (), last) ∧ live total last) ∨
    ∃ n before, n < bytes.length ∧ live (sent ++ bytes.take n) before ∧
      SendStalls wasix before sock (bytes.drop n) ∧
      sendAll wasix state sock bytes =
        (.error (stallError (wasix.sockSend before sock (bytes.drop n)).errno),
          (wasix.sockSend before sock (bytes.drop n)).state) := by
  induction hlen : bytes.length using Nat.strong_induction_on generalizing state sent bytes with
  | h len ih =>
    subst hlen
    by_cases hne : bytes = []
    · rw [hne, List.append_nil] at htotal
      rw [hne, sendAll_nil]
      exact .inl ⟨state, rfl, htotal ▸ h⟩
    · have hpos := List.length_pos_of_ne_nil hne
      by_cases hstall : SendStalls wasix state sock bytes
      · refine .inr ⟨0, state, hpos, ?_, hstall, sendAll_stalled hne hstall⟩
        rwa [List.take_zero, List.append_nil]
      · rw [SendStalls, not_or, not_not] at hstall
        obtain ⟨herrno, hsent⟩ := hstall
        rw [sendAll_sent hne herrno hsent]
        have hnext := hlive sent bytes state htotal hne h herrno
        generalize (wasix.sockSend state sock bytes).state = next at hnext ⊢
        generalize (wasix.sockSend state sock bytes).value.val = n at hnext hsent ⊢
        have hless : (bytes.drop n).length < bytes.length := by
          rw [List.length_drop]
          omega
        have hrest : sent ++ bytes.take n ++ bytes.drop n = total := by
          rw [List.append_assoc, List.take_append_drop, htotal]
        rcases ih _ hless hrest hnext rfl with hdone | hstalled
        · exact .inl hdone
        · obtain ⟨m, before, hm, hbefore, hstalls, hrun⟩ := hstalled
          rw [List.append_assoc, ← List.take_add] at hbefore
          rw [List.drop_drop] at hstalls hrun
          rw [List.length_drop] at hm
          exact .inr ⟨n + m, before, by omega, hbefore, hstalls, hrun⟩

theorem recvLoop_read {got : List UInt8} (herrno : (wasix.sockRecv state sock 1024).errno = 0)
    (hne : (wasix.sockRecv state sock 1024).value.val ≠ []) :
    recvLoop wasix state sock got =
      let reply := wasix.sockRecv state sock 1024
      match httpResponseComplete (got ++ reply.value.val) with
      | .error err => (.error err, reply.state)
      | .ok true => (.ok (got ++ reply.value.val), reply.state)
      | .ok false =>
        if 64 * 1024 < (got ++ reply.value.val).length then
          (.error "mock response exceeded 64 KiB", reply.state)
        else recvLoop wasix reply.state sock (got ++ reply.value.val) := by
  rw [recvLoop]
  simp only [herrno, ensureSuccess_ok, dif_neg hne]
  rfl

theorem recvLoop_end {got : List UInt8} (herrno : (wasix.sockRecv state sock 1024).errno = 0)
    (hnil : (wasix.sockRecv state sock 1024).value.val = []) :
    recvLoop wasix state sock got = (.ok got, (wasix.sockRecv state sock 1024).state) := by
  rw [recvLoop]
  simp only [herrno, ensureSuccess_ok, dif_pos hnil]

theorem recvLoop_failed {got : List UInt8} (herrno : (wasix.sockRecv state sock 1024).errno ≠ 0) :
    recvLoop wasix state sock got =
      (.error s!"sock_recv returned errno {(wasix.sockRecv state sock 1024).errno.toNat}",
        (wasix.sockRecv state sock 1024).state) := by
  rw [recvLoop]
  simp only [ensureSuccess_error herrno]
  rfl

end

end WasiNetworkFetch

open WasiNetworkFetch

/-- A response whose headers end where they first seem to and declare the length of the body, and
that has room in the memory of the guest. -/
structure HttpResponse where
  head : List UInt8
  body : List UInt8
  framed : ¬EndsHeaders (head ++ [0x0d, 0x0a, 0x0d])
  declared : contentLength head = .ok (some body.length)
  fits : head.length + 4 + body.length < usizeCount

def HttpResponse.bytes (response : HttpResponse) : List UInt8 :=
  response.head ++ ([0x0d, 0x0a, 0x0d, 0x0a] ++ response.body)

section
variable (response : HttpResponse)

theorem HttpResponse.length_bytes :
    response.bytes.length = response.head.length + 4 + response.body.length := by
  rw [bytes, List.length_append, List.length_append, Nat.add_assoc]
  rfl

theorem splitHttpHeaders_none {part : List UInt8} (h : ¬EndsHeaders part) :
    splitHttpHeaders part = none := by
  rw [EndsHeaders, not_or] at h
  rw [splitHttpHeaders, Windows.position_eq_none_iff.2 h.1, Windows.position_eq_none_iff.2 h.2]
  rfl

theorem HttpResponse.splitHttpHeaders (rest : List UInt8) :
    splitHttpHeaders (response.head ++ ([0x0d, 0x0a, 0x0d, 0x0a] ++ rest)) =
      some (response.head.length + 4, response.head) := by
  have hfirst : ¬[0x0d, 0x0a, 0x0d, 0x0a] <:+: response.head ++ [0x0d, 0x0a, 0x0d] :=
    fun h => response.framed (.inl h)
  rw [WasiNetworkFetch.splitHttpHeaders, Windows.position_append (by simp) hfirst rest]
  simp only [List.take_left]

/-- As much of a response as has been read is complete only when all of it has been. -/
theorem HttpResponse.complete_prefix {part : List UInt8} (h : part <+: response.bytes) :
    httpResponseComplete part = .ok (decide (part = response.bytes)) := by
  have hlength := response.length_bytes
  by_cases hshort : part.length ≤ response.head.length + 3
  · have hpart : part <+: response.head ++ [0x0d, 0x0a, 0x0d] := by
      apply List.prefix_of_prefix_length_le h
      · exact (List.prefix_append_right_inj response.head).2 ⟨0x0a :: response.body, rfl⟩
      · rwa [List.length_append]
    have hne : part ≠ response.bytes := by
      rintro rfl
      omega
    rw [httpResponseComplete, splitHttpHeaders_none fun hends => response.framed (hends.mono hpart),
      decide_eq_false hne]
  · have hends : response.head ++ [0x0d, 0x0a, 0x0d, 0x0a] <+: part := by
      apply List.prefix_of_prefix_length_le _ h
      · rw [List.length_append]
        exact Nat.lt_of_not_le hshort
      · exact (List.prefix_append_right_inj response.head).2 (List.prefix_append _ _)
    obtain ⟨rest, rfl⟩ := hends
    rw [List.append_assoc] at h ⊢
    have hrest : rest <+: response.body := by
      rwa [bytes, List.prefix_append_right_inj, List.prefix_append_right_inj] at h
    have hwhole : response.head ++ ([0x0d, 0x0a, 0x0d, 0x0a] ++ rest) = response.bytes ↔
        response.body.length ≤ rest.length := by
      rw [bytes, List.append_right_inj, List.append_right_inj]
      exact ⟨fun heq => heq ▸ Nat.le_refl _, hrest.eq_of_length_le⟩
    rw [httpResponseComplete, response.splitHttpHeaders]
    simp only [response.declared, Nat.mod_eq_of_lt response.fits, hwhole]
    congr 2
    rw [List.length_append, List.length_append, eq_iff_iff]
    change response.head.length + 4 + response.body.length ≤
      response.head.length + (4 + rest.length) ↔ _
    omega

end

def defaultMockJson : String :=
  "\x7b\"id\":1,\"name\":\"WASI honeypot user\",\"source\":\"wasmer-sectest\"\x7d"

def defaultMockHttpResponse : List UInt8 :=
  let length := defaultMockJson.utf8ByteSize
  Utf8.bytes (s!"HTTP/1.1 200 OK\r\ncontent-type: application/json\r\ncontent-length: {length}\r\n" ++
    "connection: close\r\n\r\n") ++ Utf8.bytes defaultMockJson

theorem defaultMockHttpResponse_text : ∃ text, Utf8.bytes text = defaultMockHttpResponse := by
  rw [defaultMockHttpResponse]
  exact ⟨_, Utf8.bytes_append _ _⟩

set_option maxRecDepth 4000 in
def defaultResponse : HttpResponse where
  head := Utf8.bytes ("HTTP/1.1 200 OK\r\ncontent-type: application/json\r\n" ++
    "content-length: 62\r\nconnection: close")
  body := Utf8.bytes defaultMockJson
  framed := by decide
  declared := by
    rw [contentLength, Utf8.fromUtf8_eq_some_iff.2 rfl]
    rfl
  fits := by decide

set_option maxRecDepth 4000 in
theorem defaultResponse_bytes : defaultResponse.bytes = defaultMockHttpResponse := by
  rfl

/-- A peer that answers with the bytes it holds, one at a time, with a record of the traffic. -/
structure Drip where
  sent : List UInt8 := []
  received : List UInt8 := []
  unread : List UInt8

theorem length_take_one_le (data : List UInt8) : (data.take 1).length ≤ data.length :=
  List.length_take_le' _ _

def dripPeer : Wasix Drip where
  resolve state _ _ _ := ⟨0, ⟨[], Nat.zero_le _⟩, state⟩
  sockOpen state _ _ _ := ⟨0, 3, state⟩
  sockConnect state _ _ := ⟨0, (), state⟩
  sockSend state _ data :=
    ⟨0, ⟨(data.take 1).length, length_take_one_le data⟩,
      { state with sent := state.sent ++ data.take 1 }⟩
  sockRecv state _ bufLen :=
    let bytes := state.unread.take (min bufLen 1)
    ⟨0, ⟨bytes, (List.length_take_le _ _).trans (Nat.min_le_left _ _)⟩,
      { state with received := state.received ++ bytes, unread := state.unread.drop (min bufLen 1) }⟩

section
variable {wasix : Wasix σ} {sock : UInt32} {state : σ}

/-- A socket that gives out a stream in pieces of any size, and nothing only at its end. -/
def GivesOut (wasix : Wasix σ) (sock : UInt32) (live : List UInt8 → σ → Prop) : Prop :=
  ∀ unread state, live unread state →
    let reply := wasix.sockRecv state sock 1024
    reply.errno = 0 ∧ (reply.value.val = [] → unread = []) ∧
      ∃ rest, unread = reply.value.val ++ rest ∧ live rest reply.state

/-- The loop ends with the whole response, or where it has become too long. -/
theorem recvLoop_response {live : List UInt8 → σ → Prop} (hgives : GivesOut wasix sock live)
    (response : HttpResponse) {got unread : List UInt8} (h : live unread state)
    (hgot : got ++ unread = response.bytes) (hne : unread ≠ [])
    (hroom : got.length ≤ 64 * 1024) :
    (∃ last, recvLoop wasix state sock got = (.ok response.bytes, last) ∧ live [] last ∧
      response.bytes.length ≤ 64 * 1024 + 1024) ∨
    ∃ last, recvLoop wasix state sock got = (.error "mock response exceeded 64 KiB", last) ∧
      64 * 1024 + 1 < response.bytes.length := by
  induction hlen : unread.length using Nat.strong_induction_on
    generalizing state got unread with
  | h len ih =>
    subst hlen
    obtain ⟨herrno, hend, rest, hunread, hnext⟩ := hgives unread state h
    have hread : (wasix.sockRecv state sock 1024).value.val ≠ [] := fun hnil => hne (hend hnil)
    have hchunk := (wasix.sockRecv state sock 1024).value.property
    rw [recvLoop_read herrno hread]
    dsimp only
    generalize (wasix.sockRecv state sock 1024).value.val = bytes at hunread hread hchunk ⊢
    generalize (wasix.sockRecv state sock 1024).state = next at hnext ⊢
    subst hunread
    have hpos := List.length_pos_of_ne_nil hread
    have hwhole : got ++ bytes ++ rest = response.bytes := by rw [List.append_assoc, hgot]
    simp only [response.complete_prefix ⟨rest, hwhole⟩]
    have hsize := congrArg List.length hwhole
    rw [List.length_append, List.length_append] at hsize
    cases rest with
    | nil =>
      rw [List.append_nil] at hwhole
      rw [hwhole, decide_eq_true rfl]
      refine .inl ⟨next, rfl, hnext, ?_⟩
      rw [← hsize]
      change got.length + bytes.length + 0 ≤ _
      omega
    | cons byte rest =>
      rw [List.length_cons] at hsize
      have hpart : got ++ bytes ≠ response.bytes := by
        intro heq
        rw [← heq, List.length_append] at hsize
        omega
      rw [decide_eq_false hpart]
      by_cases hlong : 64 * 1024 < (got ++ bytes).length
      · refine .inr ⟨next, if_pos hlong, ?_⟩
        rw [List.length_append] at hlong
        omega
      · simp only [if_neg hlong]
        apply ih _ _ hnext hwhole (by simp) (Nat.le_of_not_lt hlong) rfl
        rw [List.length_append]
        omega

theorem recvHttpResponse_outcome {live : List UInt8 → σ → Prop}
    (hgives : GivesOut wasix sock live) (response : HttpResponse) (h : live response.bytes state) :
    (∃ last, recvHttpResponse wasix state sock = (.ok response.bytes, last) ∧ live [] last ∧
      response.bytes.length ≤ 64 * 1024 + 1024) ∨
    ∃ last, recvHttpResponse wasix state sock = (.error "mock response exceeded 64 KiB", last) ∧
      64 * 1024 + 1 < response.bytes.length := by
  have hne : response.bytes ≠ [] := by
    apply List.ne_nil_of_length_pos
    rw [response.length_bytes]
    omega
  exact recvLoop_response hgives response h (List.nil_append _) hne (Nat.zero_le _)

/-- However a response is cut into pieces it is read back exactly, if it is not too long; the
limit is exact up to the size of one piece, and no other bytes are ever taken for it. -/
theorem recv_response {live : List UInt8 → σ → Prop} (hgives : GivesOut wasix sock live)
    (response : HttpResponse) (h : live response.bytes state) :
    let out := recvHttpResponse wasix state sock
    (response.bytes.length ≤ 64 * 1024 + 1 → out.1 = .ok response.bytes ∧ live [] out.2) ∧
    (64 * 1024 + 1024 < response.bytes.length →
      out.1 = .error "mock response exceeded 64 KiB") ∧
    ∀ bytes, out.1 = .ok bytes → bytes = response.bytes ∧ live [] out.2 := by
  rcases recvHttpResponse_outcome hgives response h with
    ⟨last, hrun, hlast, hshort⟩ | ⟨last, hrun, hlong⟩
  · rw [hrun]
    refine ⟨fun _ => ⟨rfl, hlast⟩, fun hlong => by omega, ?_⟩
    intro bytes hbytes
    exact ⟨(Except.ok.inj hbytes).symm, hlast⟩
  · rw [hrun]
    exact ⟨fun hshort => by omega, fun _ => rfl, nofun⟩

end

theorem default_response_received :
    (recvHttpResponse dripPeer ⟨[], [], defaultMockHttpResponse⟩ 3).1 =
      .ok defaultMockHttpResponse := by
  have hgives : GivesOut dripPeer 3 fun unread state => state.unread = unread := by
    rintro unread state rfl
    refine ⟨rfl, ?_, state.unread.drop 1, (List.take_append_drop 1 _).symm, rfl⟩
    intro hnil
    exact (List.take_eq_nil_iff.1 hnil).resolve_left (by decide)
  have hshort : defaultResponse.bytes.length ≤ 64 * 1024 + 1 := by
    rw [defaultResponse.length_bytes]
    decide
  rw [← defaultResponse_bytes]
  exact ((recv_response hgives defaultResponse rfl).1 hshort).1

/-- What has gone through a socket in each direction, whichever calls fail. -/
structure StreamHistory (wasix : Wasix σ) (sock : UInt32)
    (history : List UInt8 → List UInt8 → σ → Prop) : Prop where
  sends : ∀ sent received state data, history sent received state →
    let reply := wasix.sockSend state sock data
    history (sent ++ if reply.errno = 0 then data.take reply.value.val else []) received reply.state
  receives : ∀ sent received state, history sent received state →
    let reply := wasix.sockRecv state sock 1024
    history sent (received ++ if reply.errno = 0 then reply.value.val else []) reply.state

section
variable {wasix : Wasix σ} {sock : UInt32} {history : List UInt8 → List UInt8 → σ → Prop}
variable {state : σ} (hstream : StreamHistory wasix sock history)
include hstream

theorem sendAll_history {sent received : List UInt8} (bytes : List UInt8)
    (h : history sent received state) :
    let out := sendAll wasix state sock bytes
    ∃ part, part <+: bytes ∧ history (sent ++ part) received out.2 ∧
      (out.1 = .ok () → part = bytes) := by
  intro out
  have hlive : ∀ sent' data state, sent' ++ data = sent ++ bytes → data ≠ [] →
      history sent' received state → (wasix.sockSend state sock data).errno = 0 →
      history (sent' ++ data.take (wasix.sockSend state sock data).value.val) received
        (wasix.sockSend state sock data).state := by
    intro sent' data state _ _ h herrno
    have hsends := hstream.sends sent' received state data h
    dsimp only at hsends
    rwa [if_pos herrno] at hsends
  rcases sendAll_outcome (fun sent => history sent received) hlive rfl h with
    ⟨last, hrun, hlast⟩ | ⟨n, before, hn, hbefore, hstalls, hrun⟩
  · refine ⟨bytes, List.prefix_refl _, ?_, fun _ => rfl⟩
    rwa [show out = _ from hrun]
  · have hsends := hstream.sends _ received before (bytes.drop n) hbefore
    dsimp only at hsends
    -- a call that does not get on sends nothing
    have hnone : (if (wasix.sockSend before sock (bytes.drop n)).errno = 0 then
        (bytes.drop n).take (wasix.sockSend before sock (bytes.drop n)).value.val else []) = [] := by
      rcases hstalls with herrno | hzero
      · rw [if_neg herrno]
      · rw [hzero, List.take_zero, ite_self]
    rw [hnone, List.append_nil] at hsends
    rw [show out = _ from hrun]
    exact ⟨bytes.take n, List.take_prefix _ _, hsends, nofun⟩

theorem recvLoop_history {sent got : List UInt8} (h : history sent got state)
    (hroom : got.length ≤ 64 * 1024) :
    let out := recvLoop wasix state sock got
    ∃ received, history sent received out.2 ∧ received.length ≤ 64 * 1024 + 1024 ∧
      (∀ response, out.1 = .ok response → response = received) := by
  induction hmeasure : 64 * 1024 - got.length using Nat.strong_induction_on
    generalizing state got with
  | h measure ih =>
    subst hmeasure
    have hreceives := hstream.receives sent got state h
    dsimp only at hreceives ⊢
    by_cases herrno : (wasix.sockRecv state sock 1024).errno = 0
    · rw [if_pos herrno] at hreceives
      by_cases hnil : (wasix.sockRecv state sock 1024).value.val = []
      · rw [hnil, List.append_nil] at hreceives
        rw [recvLoop_end herrno hnil]
        exact ⟨got, hreceives, by omega, fun _ hok => (Except.ok.inj hok).symm⟩
      · have hchunk := (wasix.sockRecv state sock 1024).value.property
        rw [recvLoop_read herrno hnil]
        dsimp only
        generalize (wasix.sockRecv state sock 1024).value.val = bytes at hnil hchunk hreceives ⊢
        generalize (wasix.sockRecv state sock 1024).state = next at hreceives ⊢
        have hpos := List.length_pos_of_ne_nil hnil
        have hlength : (got ++ bytes).length ≤ 64 * 1024 + 1024 := by
          rw [List.length_append]
          omega
        cases httpResponseComplete (got ++ bytes) with
        | error err => exact ⟨_, hreceives, hlength, nofun⟩
        | ok complete =>
          cases complete with
          | true => exact ⟨_, hreceives, hlength, fun _ hok => (Except.ok.inj hok).symm⟩
          | false =>
            dsimp only
            split
            · exact ⟨_, hreceives, hlength, nofun⟩
            · rename_i hshort
              apply ih _ _ hreceives (Nat.le_of_not_lt hshort) rfl
              rw [List.length_append] at hshort ⊢
              omega
    · rw [if_neg herrno, List.append_nil] at hreceives
      rw [recvLoop_failed herrno]
      exact ⟨got, hreceives, by omega, nofun⟩

end

/-- Whichever calls fail, no more than the request is sent, nothing is read before all of it is,
no more than the limit and one piece is ever read, and a text returned is what was read. -/
theorem fetch_history {wasix : Wasix σ} {sock : UInt32}
    {history : List UInt8 → List UInt8 → σ → Prop} {state : σ}
    (hstream : StreamHistory wasix sock history) (h : history [] [] state) :
    let out := fetch wasix state sock
    ∃ sent received, history sent received out.2 ∧ sent <+: request ∧
      (received ≠ [] → sent = request) ∧ received.length ≤ 64 * 1024 + 1024 ∧
      ∀ text, out.1 = .ok text → sent = request ∧ Utf8.bytes text = received := by
  obtain ⟨part, hpart, hsent, hwhole⟩ := sendAll_history hstream request h
  rw [List.nil_append] at hsent
  rw [fetch]
  generalize sendAll wasix state sock request = out at hsent hwhole
  obtain ⟨result, next⟩ := out
  cases result with
  | error err =>
    exact ⟨part, [], hsent, hpart, fun hne => absurd rfl hne, Nat.zero_le _, nofun⟩
  | ok =>
    obtain rfl := hwhole rfl
    obtain ⟨received, hreceived, hlength, hok⟩ := recvLoop_history hstream hsent (Nat.zero_le _)
    dsimp only
    rw [recvHttpResponse]
    generalize recvLoop wasix next sock [] = out at hreceived hok
    obtain ⟨result, last⟩ := out
    refine ⟨request, received, ?_, List.prefix_refl _, fun _ => rfl, hlength, ?_⟩
    · cases result with
      | error err => exact hreceived
      | ok response =>
        dsimp only
        split <;> exact hreceived
    · intro text htext
      cases result with
      | error err => cases htext
      | ok response =>
        obtain rfl := hok response rfl
        dsimp only at htext
        split at htext
        · rename_i found hutf8
          obtain rfl := Except.ok.inj htext
          exact ⟨rfl, (Utf8.fromUtf8_eq_some_iff.1 hutf8).symm⟩
        · cases htext

theorem drip_fetch_history :
    ∃ sent received, sent <+: request ∧ (received ≠ [] → sent = request) ∧
      (fetch dripPeer ⟨[], [], [0x0a]⟩ 3).2.sent = sent ∧
      (fetch dripPeer ⟨[], [], [0x0a]⟩ 3).2.received = received := by
  have hstream : StreamHistory dripPeer 3 fun sent received state =>
      state.sent = sent ∧ state.received = received := by
    apply StreamHistory.mk
    · rintro sent received state data ⟨rfl, rfl⟩
      have htake : data.take (data.take 1).length = data.take 1 := by
        rw [List.length_take, List.take_eq_take_iff]
        omega
      exact ⟨congrArg _ htake.symm, rfl⟩
    · rintro sent received state ⟨rfl, rfl⟩
      exact ⟨rfl, rfl⟩
  obtain ⟨sent, received, ⟨hsent, hreceived⟩, hpart, hfirst, -⟩ :=
    @fetch_history _ dripPeer 3 _ ⟨[], [], [0x0a]⟩ hstream ⟨rfl, rfl⟩
  exact ⟨sent, received, hpart, hfirst, hsent, hreceived⟩

end WasmerSectest
