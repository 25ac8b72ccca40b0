import PolymorphWebsocket.Contract.Types

/-!
# The WHATWG shim: state of one WebSocket

The data of `js/componentize/websocket.js`: the fields of the `WebSocket` class, where its
asynchronous routines (the send chain, the receive loop, `#settle`) are suspended, and the WIT host
behind the imports, of which only this is assumed: `receive` hands out the backlog in order and
fails once it is drained, `waitClosed` resolves once the connection is closed, and after `close`
every later `send` fails.

JavaScript runs each callback to its end; a step of the model is one callback, cut where it
dispatches an event, since the listeners may call back into the WebSocket.  While a callback is in
the listeners of an event no other callback starts.
-/

namespace Polymorph.Shim

/-- `readyState`. -/
inductive ReadyState
  | connecting
  | open
  | closing
  | closed
  deriving DecidableEq, Repr

/-- A DOMException: its message and its name. -/
structure DOMException where
  message : String
  name : String
  deriving DecidableEq, Repr

/-- What `send` was given, after its conversions: a message, or a Blob whose bytes are read
later. -/
inductive Data
  | payload (message : Message)
  | blob (size : Nat)
  deriving DecidableEq, Repr

/-- The bytes `bufferedAmount` counts. -/
def Data.size : Data → Nat
  | .payload message => message.payloadLen
  | .blob size => size

/-- A message that `send` accepted while OPEN, as an entry of the send chain. -/
structure Entry where
  id : Nat
  data : Data
  deriving DecidableEq, Repr

/-- Where the first entry of the send chain is. -/
inductive Stage
  /-- Its callback has not run yet. -/
  | waiting
  /-- Awaiting `data.arrayBuffer()`. -/
  | reading
  /-- Awaiting `ws.send`. -/
  | sending
  /-- Its promise has settled; the callback that uncounts its bytes has not run yet. -/
  | settled
  deriving DecidableEq, Repr

/-- The representation of binary messages. -/
inductive BinaryType
  | blob
  | arraybuffer
  deriving DecidableEq, Repr

/-- The data of a message event. -/
inductive EventData
  | text (val : String)
  | blob (bytes : Bytes)
  | arrayBuffer (bytes : Bytes)
  deriving DecidableEq, Repr

/-- The events the WebSocket dispatches. -/
inductive Event
  | open
  | message (data : EventData) (origin : String)
  | error
  | close (wasClean : Bool) (code : UInt16) (reason : String)
  deriving DecidableEq, Repr

/-- Where `#receiveLoop` is. -/
inductive LoopPc
  | idle
  /-- Awaiting `ws.receive()`. -/
  | receiving
  /-- `ws.receive()` has resolved; the loop has not gone on yet. -/
  | resolved (message : Message)
  /-- In the listeners of a message event. -/
  | dispatching
  | ended
  deriving DecidableEq, Repr

/-- Where `#settle` is. -/
inductive SettlePc
  | idle
  /-- Awaiting `ws.waitClosed()`. -/
  | waiting (failedDuringConnecting : Bool)
  /-- `ws.waitClosed()` has resolved; `#settle` has not gone on yet. -/
  | resolved (failedDuringConnecting : Bool) (info : Option CloseInfo)
  /-- In the listeners of the error event, the close event to follow. -/
  | erring (code : UInt16) (reason : String)
  | done
  deriving DecidableEq, Repr

/-- Where the handshake is. -/
inductive ConnectPc
  | pending
  /-- In the listeners of the open event. -/
  | opening
  /-- In the listeners of the error event of a failed connect. -/
  | failing
  | done
  deriving DecidableEq, Repr

/-- The calls the shim makes on the WIT resource. -/
inductive HostCall
  | send (id : Nat) (message : Message)
  | close (code : Option Nat) (reason : String)
  deriving DecidableEq, Repr

/-- The WIT resource behind the shim. -/
structure Host where
  /-- The handshake has succeeded. -/
  connected : Bool
  /-- The messages still receivable, oldest first. -/
  backlog : List Message
  /-- `close` has been called. -/
  localClosed : Bool
  /-- The connection is torn down, with the peer's close frame if there was one. -/
  closed : Option (Option CloseInfo)
  deriving DecidableEq, Repr

/-- The connection exists and is not torn down: messages may still arrive. -/
def Host.live (h : Host) : Bool := h.connected && h.closed.isNone

/-- What an observer has seen.  The code reads none of it. -/
structure History where
  /-- The messages accepted while OPEN, in `send()` order. -/
  accepted : List Entry
  /-- The bytes that `send()` counted and discarded in CLOSING or CLOSED. -/
  discarded : Nat
  calls : List HostCall
  /-- The messages the host handed out. -/
  handedOut : List Message
  /-- The events dispatched, with the `readyState` at the time. -/
  events : List (Event × ReadyState)
  deriving DecidableEq

/-- One `WebSocket`. -/
structure State where
  url : String
  readyState : ReadyState
  bufferedAmount : Nat
  protocol : String
  binaryType : BinaryType
  /-- `#sendQueue`: the entries that are not settled and uncounted yet. -/
  sendQueue : List Entry
  stage : Stage
  /-- A close requested while CONNECTING. -/
  pendingClose : Option (Option Nat × String)
  closeDispatched : Bool
  connect : ConnectPc
  loop : LoopPc
  settle : SettlePc
  nextId : Nat
  host : Host
  hist : History

/-- The WebSocket after its constructor, the handshake on its way. -/
def State.start (url : String) : State where
  url := url
  readyState := .connecting
  bufferedAmount := 0
  protocol := ""
  binaryType := .blob
  sendQueue := []
  stage := .waiting
  pendingClose := none
  closeDispatched := false
  connect := .pending
  loop := .idle
  settle := .idle
  nextId := 0
  host := { connected := false, backlog := [], localClosed := false, closed := none }
  hist := { accepted := [], discarded := 0, calls := [], handedOut := [], events := [] }

end Polymorph.Shim
