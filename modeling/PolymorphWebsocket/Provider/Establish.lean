import PolymorphWebsocket.Provider.Connect
import PolymorphWebsocket.Provider.VirtualIo
import PolymorphWebsocket.Transition.System

/-!
# The guest provider: `connect`, await by await

`connect` and `establish` of `rust/guest-provider/src/connect.rs` with what they ask of the network, one
await after the other and raced by the deadline: the lookup, the sockets of `connect_first`, the TLS
handshake, and the upgrade over the virtual transport.  What the network answers is up to the run.

`Provider.Connect` has all this as parameters of one function.  Here are the parameters: a run that returns
is a value of that function, at what the network has answered in it.
-/

namespace Polymorph.Provider

open Transition

/-! ### Addresses -/

/-- `ip-address` of `wasi:sockets`, and `std::net::IpAddr`. -/
inductive IpAddress
  | ipv4 (octets : Vector UInt8 4)
  | ipv6 (segments : Vector UInt16 8)
  deriving DecidableEq

/-- `ip-address-family`. -/
inductive IpAddressFamily
  | ipv4
  | ipv6
  deriving DecidableEq, Repr

/-- `ip-socket-address`. -/
inductive IpSocketAddress
  | ipv4 (port : UInt16) (address : Vector UInt8 4)
  | ipv6 (port : UInt16) (flowInfo scopeId : UInt32) (address : Vector UInt16 8)
  deriving DecidableEq

namespace IpSocketAddress

/-- The family that `connect_first` creates a socket for. -/
def family : IpSocketAddress → IpAddressFamily
  | .ipv4 _ _ => .ipv4
  | .ipv6 _ _ _ _ => .ipv6

end IpSocketAddress

/-- `ip_addr`. -/
def ipAddr (ip : IpAddress) (port : UInt16) : IpSocketAddress :=
  match ip with
  | .ipv4 octets => .ipv4 port octets
  | .ipv6 segments => .ipv6 port 0 0 segments

/-- The host of the URL without the brackets of an IPv6 literal. -/
def bareHost (host : String) : String :=
  String.ofList ((host.toList.dropWhile (· = '[')).reverse.dropWhile (· = ']')).reverse

/-! ### What `connect` is built on -/

/-- What `pending.handshake()` returns. -/
inductive HandshakeResult (M C H : Type)
  | ok (ws : C) (selected : Option H)
  | interrupted (mid : M)
  | failure (err : String)

/-- A call of `pending.handshake()` on the virtual transport: how much it reads of what has been fed, and what
it writes. -/
structure HandshakeTurn (M C H : Type) where
  consumed : Nat
  written : Bytes
  result : HandshakeResult M C H

/-- The code that `connect` calls, but for the network. -/
structure Dialer (T : Tungstenite) (H : Type) extends HeaderValues H where
  /-- `url.parse::<http::Uri>()`. -/
  parseUri : String → Except String Uri
  /-- `uri.port_u16()`. -/
  portU16 : Uri → Option UInt16
  /-- `parse::<std::net::IpAddr>()`. -/
  parseIp : String → Option IpAddress
  /-- `rustls_pemfile::certs`, item by item. -/
  certs : String → List (Except String Bytes)
  /-- `into_client_request`. -/
  clientRequest : String → Except String Unit
  /-- A `MidHandshake<ClientHandshake<VirtualIo>>`. -/
  Mid : Type
  /-- `ClientHandshake::start`, with the subprotocol headers of the request. -/
  start : List H → Except String Mid
  /-- `pending.handshake()`, over what the virtual transport has. -/
  handshake : Mid → Bytes → HandshakeTurn Mid T.Ctx H
  /-- What the pump's `read()`s make of bytes that the handshake has left in the virtual transport. -/
  decode : T.Ctx → Bytes → List Inbound

/-- What the handshake has left in the virtual transport, for the pump. -/
def Dialer.left {T : Tungstenite} {H : Type} (D : Dialer T H) (ws : T.Ctx) (io : Buffers UInt8) :
    Buffers Inbound where
  inbound := D.decode ws io.inbound
  eof := io.eof
  outbound := io.outbound

/-- The loop of `parse_pem_certificates`. -/
def collectCerts : List (Except String Bytes) → Except String (List Bytes)
  | [] => .ok []
  | .error err :: _ => .error s!"TLS roots PEM: {err}"
  | .ok cert :: rest => (collectCerts rest).map (cert :: ·)

/-- Where a URL leads to, and the trust anchors for it. -/
structure Target where
  secure : Bool
  host : String
  port : UInt16
  roots : List Bytes
  deriving DecidableEq

/-- What `connect` asks of the network. -/
inductive NetEffect
  | lookup (host : String)
  | create (family : IpAddressFamily)
  | connect (address : IpSocketAddress)
  | tls (host : String) (roots : List Bytes)
  | write (bytes : Bytes)
  | read
  deriving DecidableEq

section Run

variable {T : Tungstenite} {H : Type} (printable : Char → Bool) (D : Dialer T H) (config : ConnectConfig)
  (url : String) (protocols : List String)

/-- `parse_pem_certificates`. -/
def parsePemCertificates (pem : String) : Except String (List Bytes) :=
  match collectCerts (D.certs pem) with
  | .ok [] => .error "TLS roots PEM contains no certificates"
  | result => result

/-- The `roots` of `establish`: a `wss:` URL fails closed without trust anchors. -/
def trustAnchors (secure : Bool) : Except String (List Bytes) :=
  if secure then
    match config.tlsRootsPem with
    | some pem => parsePemCertificates D pem
    | none =>
      .error <| "no TLS trust anchors configured; wss: fails closed (set " ++
        "POLYMORPH_WEBSOCKET_TLS_ROOTS_PEM; see the provider README)"
  else .ok []

/-- `establish` up to the network. -/
def target : Except String Target := do
  let uri ← (D.parseUri url).mapError fun err => s!"URL: {err}"
  let secure : Bool := uri.scheme = some "wss"
  let roots ← trustAnchors D config secure
  return {
    secure := secure
    host := uri.host.getD ""
    port := (D.portU16 uri).getD (if secure then 443 else 80)
    roots := roots }

/-- The upgrade request, up to `ClientHandshake::start`. -/
def started : Except String D.Mid := do
  (D.clientRequest url).mapError fun err => s!"request: {err}"
  let headers ← offerHeader D.toHeaderValues protocols
  (D.start headers).mapError fun err => s!"handshake: {err}"

/-- Where a call of `connect` is; the addresses of `connect_first` begin with the one that is tried. -/
inductive DialPc
  | called
  | resolving
  | creating (addresses : List IpSocketAddress)
  | connecting (addresses : List IpSocketAddress)
  | tlsConnecting
  | handshaking (mid : D.Mid)
  | writing (mid : D.Mid) (outbound : Bytes)
  | reading (mid : D.Mid)
  | returned (result : Except Error (T.Ctx × String))

/-- A call of `connect`, with what it has asked of the network and what it was told. -/
structure Dial where
  pc : DialPc D
  target : Option Target
  io : Buffers UInt8
  net : List NetEffect
  /-- What the lookup has answered. -/
  resolution : Option (Except String (List IpAddress))
  /-- The addresses that there were to try. -/
  addresses : List IpSocketAddress
  /-- The addresses that have been tried, with the errors that `connect_first` keeps. -/
  attempts : List (IpSocketAddress × Except String Unit)
  /-- What `resolve` and `connect_first` have come to, and the TLS handshake. -/
  socket : Option (Except String Unit)
  tls : Option (Except String Unit)
  /-- What the transport has taken, and what it has brought. -/
  sent : Bytes
  received : Bytes
  /-- What the handshake has written, and what it has read. -/
  written : Bytes
  consumed : Bytes
  /-- The answers of the handshake, with what the transport did about them. -/
  rounds : List (Round T.Ctx H)
  /-- The deadline has come. -/
  expired : Bool

variable {D}

namespace Dial

variable (s : Dial D)

/-- A call that has just been made. -/
def called : Dial D where
  pc := .called
  target := none
  io := .empty
  net := []
  resolution := none
  addresses := []
  attempts := []
  socket := none
  tls := none
  sent := []
  received := []
  written := []
  consumed := []
  rounds := []
  expired := false

/-- The call returns. -/
def returns (result : Except Error (T.Ctx × String)) : Dial D := { s with pc := .returned result }

/-- `establish` fails. -/
def fails (err : String) : Dial D := s.returns (.error (.connectFailed err))

/-- `resolve` or `connect_first` fails. -/
def failsSocket (err : String) : Dial D := { s with socket := some (.error err) }.fails err

/-- The next turn of the loop of `connect_first`. -/
def tryNext (addresses : List IpSocketAddress) (lastError : String) : Dial D :=
  match addresses with
  | [] => s.failsSocket lastError
  | address :: rest =>
    { s with pc := .creating (address :: rest), net := s.net ++ [.create address.family] }

/-- `connect_first`. -/
def connectFirst (addresses : List IpSocketAddress) : Dial D :=
  { s with addresses := addresses }.tryNext addresses "no addresses to connect to"

/-- A literal IP skips the lookup. -/
def resolve (target : Target) : Dial D :=
  match D.parseIp (bareHost target.host) with
  | some ip => s.connectFirst [ipAddr ip target.port]
  | none => { s with pc := .resolving, net := s.net ++ [.lookup target.host] }

/-- `resolve`, after the lookup. -/
def resolved (target : Target) (result : Except String (List IpAddress)) : Dial D :=
  let s := { s with resolution := some result }
  match result with
  | .error err => s.failsSocket s!"name resolution failed: {err}"
  | .ok [] => s.failsSocket s!"{debugStr printable target.host} resolved to no addresses"
  | .ok (ip :: rest) => s.connectFirst ((ip :: rest).map fun ip => ipAddr ip target.port)

/-- The attempt with an address is over. -/
def notes (address : IpSocketAddress) (result : Except String Unit) : Dial D :=
  { s with attempts := s.attempts ++ [(address, result)] }

/-- The upgrade request, and the handshake over an empty virtual transport. -/
def request : Dial D :=
  match started D url protocols with
  | .error err => s.fails err
  | .ok mid => { s with pc := .handshaking mid, io := .empty }

/-- The socket is connected: TLS for a `wss:` URL. -/
def secures (target : Target) : Dial D :=
  let s := { s with socket := some (.ok ()) }
  if target.secure then
    { s with pc := .tlsConnecting, net := s.net ++ [.tls target.host target.roots] }
  else s.request url protocols

/-- The check of the negotiated subprotocol, and the end of `connect`. -/
def established (ws : T.Ctx) (negotiated : String) : Dial D :=
  s.returns ((checkNegotiated printable protocols negotiated).map fun () => (ws, negotiated))

/-- A round of the handshake is over. -/
def notesRound (round : Round T.Ctx H) : Dial D := { s with rounds := s.rounds ++ [round] }

/-- A call of `pending.handshake()` has read from the virtual transport, and written to it. -/
def turned (turn : HandshakeTurn D.Mid T.Ctx H) : Dial D :=
  { s with
    io := { s.io with inbound := s.io.inbound.drop turn.consumed }.write turn.written
    consumed := s.consumed ++ s.io.inbound.take turn.consumed
    written := s.written ++ turn.written }

/-- One call of `pending.handshake()`, and the loop around it up to its next await. -/
def shake (mid : D.Mid) : Dial D :=
  let turn := D.handshake mid s.io.inbound
  let s := s.turned turn
  match turn.result with
  | .ok ws selected =>
    (s.notesRound (.ok ws selected (D.left ws s.io))).established printable protocols ws
      ((selected.bind D.toStr).getD "")
  | .failure err => (s.notesRound (.failure err)).fails s!"handshake: {err}"
  | .interrupted mid =>
    let (outbound, io) := s.io.drainOutbound
    if outbound ≠ [] then
      { s with pc := .writing mid outbound, io := io, net := s.net ++ [.write outbound] }
    else { s with pc := .reading mid, io := io, net := s.net ++ [.read] }

/-- `writer.write_all` has returned what it has not written. -/
def wrote (mid : D.Mid) (outbound : Bytes) (accepted : Nat) : Dial D :=
  let unwritten := outbound.drop accepted
  let s := { s with sent := s.sent ++ outbound.take accepted }.notesRound
    (.interrupted outbound unwritten false [])
  if unwritten ≠ [] then s.fails "connection closed while sending the upgrade request"
  else { s with pc := .handshaking mid }

/-- `reader.read` has returned. -/
def reads (mid : D.Mid) (dropped : Bool) (chunk : Bytes) : Dial D :=
  let s := { s with io := s.io.feed chunk, received := s.received ++ chunk }.notesRound
    (.interrupted [] [] dropped chunk)
  if dropped && chunk.isEmpty then s.fails "connection closed during the handshake"
  else { s with pc := .handshaking mid }

/-- `connect`, up to its first await. -/
def call : Dial D :=
  match validateUrl printable D.parseUri url with
  | .error err => s.returns (.error (.invalidUrl err))
  | .ok () =>
    match validateProtocols printable protocols with
    | .error err => s.returns (.error (.invalidArgument err))
    | .ok () =>
      match Provider.target D config url with
      | .error err => s.fails err
      | .ok target => { s with target := some target }.resolve target

/-- What the call has returned. -/
def result : Option (Except Error (T.Ctx × String)) :=
  match s.pc with
  | .returned result => some result
  | _ => none

/-- The call waits for the network; the deadline may come. -/
def waits : Bool :=
  match s.pc with
  | .resolving | .connecting _ | .tlsConnecting | .writing _ _ | .reading _ => true
  | .called | .creating _ | .handshaking _ | .returned _ => false

end Dial

/-- What happens to a call of `connect`: it goes on, the network answers it, or the deadline comes. -/
inductive DialAction
  | call
  | resolved (result : Except String (List IpAddress))
  | created (result : Except String Unit)
  | connected (result : Except String Unit)
  | tlsConnected (result : Except String Unit)
  | shake
  | wrote (accepted : Nat)
  | read (dropped : Bool) (chunk : Bytes)
  | deadline

/-- The state after a move, if the move is possible. -/
def dialStep (s : Dial D) (a : DialAction) : Option (Dial D) :=
  match a, s.pc, s.target with
  | .call, .called, _ => some (s.call printable config url protocols)
  | .resolved result, .resolving, some target => some (s.resolved printable target result)
  | .created (.ok ()), .creating (address :: rest), _ =>
    some { s with pc := .connecting (address :: rest), net := s.net ++ [.connect address] }
  | .created (.error err), .creating (address :: rest), _ =>
    let lastError := s!"create socket: {err}"
    some ((s.notes address (.error lastError)).tryNext rest lastError)
  | .connected (.ok ()), .connecting (address :: _), some target =>
    some ((s.notes address (.ok ())).secures url protocols target)
  | .connected (.error err), .connecting (address :: rest), _ =>
    let lastError := s!"connect: {err}"
    some ((s.notes address (.error lastError)).tryNext rest lastError)
  | .tlsConnected (.ok ()), .tlsConnecting, _ =>
    some ({ s with tls := some (.ok ()) }.request url protocols)
  | .tlsConnected (.error err), .tlsConnecting, _ =>
    some ({ s with tls := some (.error err) }.fails s!"TLS handshake: {err}")
  | .shake, .handshaking mid, _ => some (s.shake printable protocols mid)
  | .wrote accepted, .writing mid outbound, _ =>
    if accepted ≤ outbound.length then some (s.wrote mid outbound accepted) else none
  | .read dropped chunk, .reading mid, _ =>
    if chunk.length ≤ 8 * 1024 then some (s.reads mid dropped chunk) else none
  | .deadline, _, _ =>
    if s.waits then
      some ({ s with expired := true }.fails
        s!"handshake timed out after {debugMillis config.connectTimeoutMs}")
    else none
  | _, _, _ => none

/-- The calls of `connect` with this URL and this offer. -/
def dialing : System (Dial D) DialAction where
  init s := s = .called
  step := dialStep printable config url protocols

end Run

/-! ### A server -/

namespace Core

/-- The request and the response of the upgrade, but for their headers. -/
def upgradeRequestLine : Bytes := "GET / HTTP/1.1\r\n".toUTF8.toList
def upgradeResponseLine : Bytes := "HTTP/1.1 101 Switching Protocols\r\n".toUTF8.toList

/-- A bundle of one certificate. -/
def bundle : String := "-----BEGIN CERTIFICATE-----\nMAA=\n-----END CERTIFICATE-----\n"

/-- The core behind `wss://a.example/`, for the handshake of which the response line is enough. -/
def dialer : Dialer tungstenite String where
  toHeaderValues := visibleText
  parseUri url :=
    if url = "wss://a.example/" then .ok ⟨some "wss", some "a.example", some "a.example"⟩
    else .error "invalid uri character"
  portU16 _ := none
  parseIp _ := none
  certs pem := if pem = bundle then [.ok [0x30, 0]] else []
  clientRequest _ := .ok ()
  Mid := Bool
  start _ := .ok false
  handshake written inbound :=
    if written = false then ⟨0, upgradeRequestLine, .interrupted true⟩
    else if inbound.length < upgradeResponseLine.length then ⟨0, [], .interrupted true⟩
    else ⟨upgradeResponseLine.length, [], .ok fresh none⟩
  decode _ left := if left = [] then [] else [.binary left]

/-- The configuration with that bundle, and ten seconds to connect. -/
def dialConfig (closeTimeoutNs maxInboundBufferBytes : Nat)
    (h₁ : closeTimeoutNs < 2 ^ 64 := by decide) (h₂ : maxInboundBufferBytes < 2 ^ 32 := by decide) :
    ConnectConfig where
  toConfig := ⟨closeTimeoutNs, maxInboundBufferBytes, h₁, h₂⟩
  connectTimeoutMs := 10000
  tlsRootsPem := some bundle

/-- The calls of `connect` for that server, without an offer. -/
abbrev dials : System (Dial dialer) DialAction :=
  dialing (fun _ => true) (dialConfig 10 16) "wss://a.example/" []

/-- The first address refuses, and the second answers. -/
def dialActions : List DialAction :=
  [.call, .resolved (.ok [.ipv4 #v[10, 0, 0, 1], .ipv4 #v[10, 0, 0, 2]]), .created (.ok ()),
    .connected (.error "ErrorCode::ConnectionRefused"), .created (.ok ()), .connected (.ok ()),
    .tlsConnected (.ok ()), .shake, .wrote upgradeRequestLine.length, .shake,
    .read false upgradeResponseLine, .shake]

end Core

end Polymorph.Provider
