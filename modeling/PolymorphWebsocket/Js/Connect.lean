import PolymorphWebsocket.Js.Validation
import PolymorphWebsocket.Js.Websocket

/-!
# The JavaScript host: `connect`

One call of `Websocket.connect` against its platform: the promise of the handshake with its
listeners and its timer, the checks after it, and the disposal of a connection that was made for a
call an abort has discarded.  The call runs up to its `await`, and goes on from there in a promise
reaction; an abort is the embedder's and may come in between.

Whatever ends the call, the platform's `WebSocket` has an owner or is given back.
-/

namespace Polymorph.Js

open Transition

/-! ### The platform -/

/-- The listeners that the handshake registers, each for one event. -/
inductive SocketListener
  | onOpen
  | onClose
  | onError
  deriving DecidableEq, Repr

/-- A `WebSocket` from its construction on. -/
structure WebSocket where
  /-- Where the platform is with it; `none` while it is CONNECTING. -/
  socket : Option Socket
  /-- The subprotocol the server has selected, or "". -/
  protocol : String
  /-- `close` has been called on it. -/
  closeCalled : Bool
  listeners : List SocketListener
  deriving DecidableEq, Repr

namespace WebSocket

/-- `new WebSocket(..)`, with the listeners of the handshake. -/
def connecting : WebSocket where
  socket := none
  protocol := ""
  closeCalled := false
  listeners := [.onOpen, .onClose, .onError]

/-- `removeEventListener`. -/
def remove (ws : WebSocket) (listener : SocketListener) : WebSocket :=
  { ws with listeners := ws.listeners.filter (· ≠ listener) }

/-- `ws.close()`: a connection that has not been made fails. -/
def close (ws : WebSocket) : WebSocket :=
  { ws with
    socket := some (match ws.socket with
      | none => .closing
      | some socket => socket.close)
    closeCalled := true }

/-- `new Websocket(ws)`. -/
def resource (ws : WebSocket) (knobs : Knobs) (now : Nat) : State :=
  { State.start knobs now with socket := ws.socket.getD .open }

/-- The platform has closed it. -/
def isClosed (ws : WebSocket) : Bool := ws.socket.any fun socket => socket.readyState == .closed

end WebSocket

/-- The listeners on the signal: that of the handshake, and that of the connection. -/
inductive AbortListener
  | onAbort
  | disposeOnAbort
  deriving DecidableEq, Repr

/-- An `AbortSignal`. -/
structure AbortSignal where
  aborted : Bool
  listeners : List AbortListener
  deriving DecidableEq, Repr

/-- `removeEventListener`. -/
def AbortSignal.remove (signal : AbortSignal) (listener : AbortListener) : AbortSignal :=
  { signal with listeners := signal.listeners.filter (· ≠ listener) }

/-! ### The call -/

/-- Where the call is. -/
inductive ConnectPc
  | called
  /-- Awaiting the promise of the handshake. -/
  | handshake
  /-- The promise of the handshake has settled; `connect` has not gone on yet. -/
  | settled (result : Except Error Unit)
  | returned
  deriving DecidableEq

/-- One call of `connect`. -/
structure Connect where
  url : String
  protocols : List String
  signal : Option AbortSignal
  pc : ConnectPc
  ws : Option WebSocket
  /-- The time the timer of the handshake is due, while it is armed. -/
  timer : Option Nat
  /-- The resource that was returned, as it was made. -/
  resource : Option State
  knobs : Knobs
  now : Nat
  /-- The calls of `settle`, with what they settle. -/
  settles : List (Except Error Unit)
  /-- The results of the promise of the call. -/
  results : List (Except Error Unit)

namespace Connect

/-- The call, before it runs. -/
def start (url : String) (protocols : List String) (signal : Option Bool) (knobs : Knobs)
    (now : Nat) : Connect where
  url := url
  protocols := protocols
  signal := signal.map fun aborted => { aborted := aborted, listeners := [] }
  pc := .called
  ws := none
  timer := none
  resource := none
  knobs := knobs
  now := now
  settles := []
  results := []

/-- The signal has been aborted. -/
def aborted (s : Connect) : Bool := s.signal.any AbortSignal.aborted

/-- `ws.close()`. -/
def closeSocket (s : Connect) : Connect := { s with ws := s.ws.map WebSocket.close }

/-- The promise of the call settles. -/
def finish (s : Connect) (result : Except Error Unit) : Connect :=
  { s with pc := .returned, results := s.results ++ [result] }

/-! ### The handshake -/

/-- `settle`; a promise settles once. -/
def settle (s : Connect) (result : Except Error Unit) : Connect :=
  { s with
    timer := none
    ws := s.ws.map fun ws => ((ws.remove .onOpen).remove .onClose).remove .onError
    signal := s.signal.map (·.remove .onAbort)
    settles := s.settles ++ [result]
    pc :=
      match s.pc with
      | .handshake => .settled result
      | pc => pc }

def onOpen (s : Connect) : Connect := s.settle (.ok ())

def onClose (s : Connect) (code : UInt16) (reason : String) : Connect :=
  s.settle (.error (.connectFailed
    (if reason ≠ "" then reason else s!"connection failed (code {code})")))

/-- The close event follows, with the reason. -/
def onError (s : Connect) : Connect := s

def onAbort (s : Connect) : Connect :=
  (s.settle (.error (.connectFailed "connect aborted"))).closeSocket

/-- The callback of the timer; its text has the knob of the moment. -/
def onTimeout (s : Connect) : Connect :=
  ({ s with timer := none }.settle (.error (.connectFailed
    s!"handshake timed out after {s.knobs.connectTimeoutMs}ms"))).closeSocket

/-- The call up to its `await`; the constructor of the platform may throw with a message. -/
def call (s : Connect) (parse : String → Except String ParsedUrl)
    (constructed : Except String Unit) : Connect :=
  match validateUrl parse s.url with
  | .error err => s.finish (.error err)
  | .ok () =>
    match validateProtocols s.protocols with
    | .error err => s.finish (.error err)
    | .ok () =>
      if s.aborted then s.finish (.error (.connectFailed "connect aborted"))
      else
        match constructed with
        | .error message => s.finish (.error (.connectFailed message))
        | .ok () =>
          { s with
            ws := some .connecting
            signal := s.signal.map fun signal =>
              { signal with listeners := signal.listeners ++ [.onAbort] }
            timer := some (s.now + s.knobs.connectTimeoutMs)
            pc := .handshake }

/-! ### After the handshake -/

/-- The check of the selected subprotocol against the offer. -/
def checkProtocol (protocols : List String) (selected : String) : Except Error Unit :=
  if protocols ≠ [] ∧ selected ∉ protocols then
    .error (.connectFailed
      (if selected ≠ "" then
        s!"server selected subprotocol {jsonStringify selected} which was not offered"
      else "server selected no subprotocol although one was offered"))
  else if protocols = [] ∧ selected ≠ "" then
    .error (.connectFailed
      s!"server selected subprotocol {jsonStringify selected} although none was offered")
  else .ok ()

/-- What becomes of the connection of an aborted call, at once or later. -/
def disposeOnAbort (s : Connect) : Connect := s.closeSocket

/-- The last part of `connect`: the abort from now on, and `new Websocket(ws)`. -/
def succeed (s : Connect) : Connect :=
  let s : Connect :=
    match s.signal with
    | none => s
    | some signal =>
      if signal.aborted then s.disposeOnAbort
      else { s with signal := some { signal with
        listeners := signal.listeners ++ [.disposeOnAbort] } }
  { s with resource := s.ws.map fun ws => WebSocket.resource ws s.knobs s.now }.finish (.ok ())

/-- The call from its `await` on. -/
def resume (s : Connect) (result : Except Error Unit) : Connect :=
  match result with
  | .error err => s.finish (.error err)
  | .ok () =>
    match checkProtocol s.protocols ((s.ws.map WebSocket.protocol).getD "") with
    | .error err => s.closeSocket.finish (.error err)
    | .ok () => s.succeed

/-! ### Events -/

/-- An event of the platform, which changes its `WebSocket` and calls the listener of the event, if
it is registered still. -/
def event (s : Connect) (change : WebSocket → WebSocket) (listener : SocketListener)
    (callback : Connect → Connect) : Connect :=
  let changed := { s with ws := s.ws.map fun ws => (change ws).remove listener }
  if s.ws.any fun ws => ws.listeners.contains listener then callback changed else changed

/-- The callback of a listener on the signal. -/
def callListener (s : Connect) : AbortListener → Connect
  | .onAbort => s.onAbort
  | .disposeOnAbort => s.disposeOnAbort

/-- The abort, with the listeners that are registered. -/
def abort (s : Connect) : Connect :=
  match s.signal with
  | none => s
  | some signal =>
    signal.listeners.foldl callListener
      { s with signal := some { aborted := true, listeners := [] } }

end Connect

/-! ### The transition system -/

/-- The moves of a call. -/
inductive ConnectAction
  | call (constructed : Except String Unit)
  /-- The promise reaction that goes on with the call. -/
  | resume
  /-- The embedder aborts the signal. -/
  | abort
  /-- The embedder sets the knobs of the module. -/
  | configure (knobs : Knobs)
  | openEvent (selected : String)
  | errorEvent
  /-- The peer starts the closing handshake. -/
  | peerClosing
  /-- The connection fails, or the transport is closed: `readyState` moves to CLOSED. -/
  | transportClosed
  | closeEvent (code : UInt16) (reason : String)
  /-- The timer of the handshake fires. -/
  | timer
  /-- The owner of the resource closes it. -/
  | ownerClose
  | tick (dt : Nat)

variable (parse : String → Except String ParsedUrl)

/-- The platform goes on when no promise reaction is due. -/
def Connect.idle (s : Connect) : Bool :=
  match s.pc with
  | .settled _ => false
  | _ => true

/-- Where the platform is with the `WebSocket`; `none` without one. -/
def Connect.position (s : Connect) : Option (Option Socket) := s.ws.map WebSocket.socket

/-- The next state of a call. -/
def connectStep (s : Connect) : ConnectAction → Option Connect
  | .call constructed => if s.pc = .called then some (s.call parse constructed) else none
  | .resume =>
    match s.pc with
    | .settled result => some (s.resume result)
    | _ => none
  | .abort => if s.signal.any fun signal => !signal.aborted then some s.abort else none
  | .configure knobs => some { s with knobs := knobs }
  | .openEvent selected =>
    if s.idle ∧ s.position = some none then
      some (s.event (fun ws => { ws with socket := some .open, protocol := selected }) .onOpen
        .onOpen)
    else none
  | .errorEvent =>
    if s.idle ∧ s.ws.isSome then
      some (s.event
        (fun ws =>
          if ws.socket = some (.closed false) then { ws with socket := some (.closed true) }
          else ws)
        .onError .onError)
    else none
  | .peerClosing =>
    if s.idle ∧ s.position = some (some .open) then
      some { s with ws := s.ws.map fun ws => { ws with socket := some .closing } }
    else none
  | .transportClosed =>
    if s.idle ∧ s.position ∈ [some none, some (some .open), some (some .closing)] then
      some { s with ws := s.ws.map fun ws => { ws with socket := some (.closed false) } }
    else none
  | .closeEvent code reason =>
    if s.idle ∧ s.position ∈ [some (some (.closed false)), some (some (.closed true))] then
      some (s.event (fun ws => { ws with socket := some .done }) .onClose (·.onClose code reason))
    else none
  | .timer =>
    if s.idle ∧ s.timer.any (· ≤ s.now) then some s.onTimeout else none
  | .ownerClose => if s.resource.isSome then some s.closeSocket else none
  | .tick dt => some { s with now := s.now + dt }

/-- The calls of `connect`: any arguments, with or without a signal, which may be aborted
already. -/
def connecting : System Connect ConnectAction where
  init s := ∃ url protocols signal knobs now, s = Connect.start url protocols signal knobs now
  step := connectStep parse

end Polymorph.Js
