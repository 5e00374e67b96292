import WasmerSectest.Lib.Decimal
import WasmerSectest.Lib.Text
import WasmerSectest.Lib.Utf8
import WasmerSectest.Lib.Windows
import WasmerSectest.RequestCapture

namespace WasmerSectest
set_option autoImplicit true

structure WasiAddr where
  tag : UInt8
  octs : Vector UInt8 16

structure WasiAddrPort where
  tag : UInt8
  octs : Vector UInt8 18

/-- What a call of the runtime returns, writes into the memory of the guest and leaves. -/
structure WasixReply (σ α : Type) where
  errno : UInt16
  value : α
  state : σ

/-- The `wasix_32v1` imports, as a runtime serves them. It fills a buffer from its start, and no
more of it than there is, and sends no more than it is given. -/
structure Wasix (σ : Type) where
  resolve (state : σ) (host : List UInt8) (port : UInt16) (naddrs : Nat) :
    WasixReply σ {addrs : List WasiAddr // addrs.length ≤ naddrs}
  sockOpen (state : σ) (af ty pt : UInt32) : WasixReply σ UInt32
  sockConnect (state : σ) (sock : UInt32) (addr : WasiAddrPort) : WasixReply σ Unit
  sockSend (state : σ) (sock : UInt32) (data : List UInt8) :
    WasixReply σ {sent : Nat // sent ≤ data.length}
  sockRecv (state : σ) (sock : UInt32) (bufLen : Nat) :
    WasixReply σ {bytes : List UInt8 // bytes.length ≤ bufLen}

namespace WasiNetworkFetch

def host : String := "jsonplaceholder.typicode.com"
def path : String := "/users/1"
def port : UInt16 := 80

def errnoSuccess : UInt16 := 0
def addressFamilyInet4 : UInt32 := 1
def sockTypeStream : UInt32 := 1
def sockProtoTcp : UInt32 := 6

def ensureSuccess (call : String) (errno : UInt16) : Except String Unit :=
  if errno = errnoSuccess then .ok ()
  else .error s!"{call} returned errno {errno.toNat}"

/-- The address of a peer: the port as the guest stores a number, and then the IPv4 address. -/
def peerAddr (port : UInt16) (first : WasiAddr) : WasiAddrPort where
  tag := first.tag
  octs := #v[UInt8.ofNat port.toNat, UInt8.ofNat (port.toNat / 256), first.octs[0], first.octs[1],
    first.octs[2], first.octs[3], 0, 0, 0, 0, 0, 0, 0, 0, 0, 0, 0, 0]

section
variable (wasix : Wasix σ)

def resolveHost (state : σ) (host : String) (port : UInt16) : Except String WasiAddrPort × σ :=
  let reply := wasix.resolve state (Utf8.bytes host) port 4
  match ensureSuccess "resolve" reply.errno with
  | .error err => (.error err, reply.state)
  | .ok () =>
    match reply.value.val.find? (·.tag.toUInt32 = addressFamilyInet4) with
    | none => (.error "resolver returned no IPv4 address", reply.state)
    | some first => (.ok (peerAddr port first), reply.state)

def openTcpSocket (state : σ) : Except String UInt32 × σ :=
  let reply := wasix.sockOpen state addressFamilyInet4 sockTypeStream sockProtoTcp
  ((ensureSuccess "sock_open" reply.errno).map fun () => reply.value, reply.state)

def connect (state : σ) (sock : UInt32) (peer : WasiAddrPort) : Except String Unit × σ :=
  let reply := wasix.sockConnect state sock peer
  (ensureSuccess "sock_connect" reply.errno, reply.state)

def sendAll (state : σ) (sock : UInt32) (bytes : List UInt8) : Except String Unit × σ :=
  if _h : bytes = [] then (.ok (), state)
  else
    let reply := wasix.sockSend state sock bytes
    match ensureSuccess "sock_send" reply.errno with
    | .error err => (.error err, reply.state)
    | .ok () =>
      if reply.value.val = 0 then (.error "sock_send wrote zero bytes", reply.state)
      else sendAll reply.state sock (bytes.drop reply.value.val)
termination_by bytes.length
decreasing_by
  have hpos := List.length_pos_of_ne_nil _h
  change (bytes.drop reply.value.val).length < bytes.length
  rw [List.length_drop]
  omega

end

def splitHttpHeaders (response : List UInt8) : Option (Nat × List UInt8) :=
  match Windows.position [0x0d, 0x0a, 0x0d, 0x0a] response with
  | some pos => some (pos + 4, response.take pos)
  | none => (Windows.position [0x0a, 0x0a] response).map fun pos => (pos + 2, response.take pos)

/-- The size of a `usize` of the guest. -/
def usizeCount : Nat := 2 ^ 32

/-- The loop of `content_length` over the lines of the headers. -/
def contentLengthOf : List (List Char) → Except String (Option Nat)
  | [] => .ok none
  | line :: lines =>
    match Text.splitOnce ':' line with
    | none => contentLengthOf lines
    | some (name, value) =>
      if (Text.trim name).map Char.toLower = "content-length".toList then
        match Decimal.parseUnsigned usizeCount (Text.trim value) with
        | some length => .ok (some length)
        | none =>
          let err := Decimal.unsignedError usizeCount (Text.trim value)
          .error s!"invalid content-length in mock response: {err}"
      else contentLengthOf lines

def contentLength (headers : List UInt8) : Except String (Option Nat) :=
  match Utf8.fromUtf8 headers with
  | none =>
    let err := Utf8.errorText headers.length 0 headers
    .error s!"mock response headers were not UTF-8: {err}"
  | some headers => contentLengthOf (Text.lines headers.toList)

/-- The sum is one of `usize`, which wraps. -/
def httpResponseComplete (response : List UInt8) : Except String Bool :=
  match splitHttpHeaders response with
  | none => .ok false
  | some (headerLen, headers) =>
    match contentLength headers with
    | .error err => .error err
    | .ok none => .ok false
    | .ok (some contentLen) =>
      .ok ((headerLen + contentLen) % usizeCount ≤ response.length)

section
variable (wasix : Wasix σ)

/-- The loop of `recv_http_response`, with what it has read. -/
def recvLoop (state : σ) (sock : UInt32) (response : List UInt8) :
    Except String (List UInt8) × σ :=
  let reply := wasix.sockRecv state sock 1024
  match ensureSuccess "sock_recv" reply.errno with
  | .error err => (.error err, reply.state)
  | .ok () =>
    if _h : reply.value.val = [] then (.ok response, reply.state)
    else
      match httpResponseComplete (response ++ reply.value.val) with
      | .error err => (.error err, reply.state)
      | .ok true => (.ok (response ++ reply.value.val), reply.state)
      | .ok false =>
        if _hsize : 64 * 1024 < (response ++ reply.value.val).length then
          (.error "mock response exceeded 64 KiB", reply.state)
        else recvLoop reply.state sock (response ++ reply.value.val)
termination_by 64 * 1024 - response.length
decreasing_by
  have hpos := List.length_pos_of_ne_nil _h
  change 64 * 1024 - (response ++ reply.value.val).length < 64 * 1024 - response.length
  rw [List.length_append] at _hsize ⊢
  omega

def recvHttpResponse (state : σ) (sock : UInt32) : Except String (List UInt8) × σ :=
  recvLoop wasix state sock []

def request : List UInt8 :=
  Utf8.bytes s!"GET {path} HTTP/1.1\r\nHost: {host}\r\nConnection: close\r\n\r\n"

def fetch (state : σ) (sock : UInt32) : Except String String × σ :=
  match sendAll wasix state sock request with
  | (.error err, state) => (.error err, state)
  | (.ok (), state) =>
    match recvHttpResponse wasix state sock with
    | (.error err, state) => (.error err, state)
    | (.ok response, state) =>
      match Utf8.fromUtf8 response with
      | some text => (.ok text, state)
      | none =>
        let err := Utf8.errorText response.length 0 response
        (.error s!"mock response was not UTF-8: {err}", state)

def run (state : σ) : Except String String × σ :=
  match resolveHost wasix state host port with
  | (.error err, state) => (.error err, state)
  | (.ok peer, state) =>
    match openTcpSocket wasix state with
    | (.error err, state) => (.error err, state)
    | (.ok sock, state) =>
      match connect wasix state sock peer with
      | (.error err, state) => (.error err, state)
      | (.ok (), state) => fetch wasix state sock

end

/-- How the guest ends: its exit code and what it has written. -/
structure GuestExit where
  code : UInt8
  stdout : String
  stderr : String
  deriving DecidableEq

def main (wasix : Wasix σ) (state : σ) : GuestExit × σ :=
  match run wasix state with
  | (.ok response, state) => (⟨0, s!"{response}\n", ""⟩, state)
  | (.error err, state) => (⟨1, "", s!"wasi network demo failed: {err}\n"⟩, state)

end WasiNetworkFetch

end WasmerSectest
