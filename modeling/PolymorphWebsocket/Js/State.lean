import PolymorphWebsocket.Contract.Types
import PolymorphWebsocket.Web.ReadableStream

/-!
# The JavaScript host: state of one connection

The data of `js/polyengine/websocket.ts`: the fields of the `Websocket` class, its inbound queue,
the module's knobs, and of the platform the `WebSocket`, the armed timers and the `ReadableStream`
of `receiveViaStream`.

JavaScript runs each callback to its end, and every promise reaction before the next event of the
platform.  The reactions of the guest's own promises are guest code: they may call the resource at
any moment, also between two listeners of one event.
-/

namespace Polymorph.Js

open Web

/-- `WebSocket.readyState`, from OPEN on. -/
inductive ReadyState
  | open
  | closing
  | closed
  deriving DecidableEq, Repr

/-- Where the platform is with its `WebSocket`. -/
inductive Socket
  | open
  | closing
  /-- CLOSED, the close event outstanding; whether the error event was fired before it. -/
  | closed (errorFired : Bool)
  /-- Between the two listeners of the close event. -/
  | dispatching (code : UInt16) (reason : String)
  | done
  deriving DecidableEq, Repr

/-- The `readyState` of the `WebSocket`. -/
def Socket.readyState : Socket → ReadyState
  | .open => .open
  | .closing => .closing
  | .closed _ | .dispatching _ _ | .done => .closed

/-- `ws.close()`: starts the closing handshake of an open `WebSocket`. -/
def Socket.close : Socket → Socket
  | .open => .closing
  | socket => socket

/-! ### The inbound queue -/

/-- Who waits for the next message: a `receive` call, or the `pull` of the stream. -/
inductive Waiter
  | receive (id : Nat)
  | pull
  deriving DecidableEq, Repr

/-- A queued message with the size it is accounted with. -/
structure QueuedMessage where
  message : Message
  size : Nat
  deriving DecidableEq, Repr

/-- The variables of `incomingQueue`. -/
structure IncomingQueue where
  /-- `maxInboundBuffered` as captured at construction. -/
  limit : Nat
  messages : List QueuedMessage
  waiters : List Waiter
  buffered : Nat
  overflowed : Bool
  closed : Bool
  deriving DecidableEq, Repr

/-- The answers an operation of the queue gives. -/
abbrev Answers := List (Waiter × Except Error Message)

namespace IncomingQueue

/-- An empty queue. -/
def new (limit : Nat) : IncomingQueue where
  limit := limit
  messages := []
  waiters := []
  buffered := 0
  overflowed := false
  closed := false

/-- `push`: to the oldest waiter, or behind the queued messages. -/
def push (q : IncomingQueue) (message : Message) (size : Nat) : Answers × IncomingQueue :=
  match q.waiters with
  | waiter :: rest => ([(waiter, .ok message)], { q with waiters := rest })
  | [] => ([], { q with
      buffered := q.buffered + size
      messages := q.messages ++ [{ message := message, size := size }] })

/-- A message does not fit: the bound applies to the queued bytes. -/
def overflows (q : IncomingQueue) (size : Nat) : Bool := decide (q.buffered + size > q.limit)

/-- `endError`. -/
def endError (q : IncomingQueue) : Error :=
  if q.overflowed then .receiveBufferOverflow else .closed

/-- `rejectWaiters`. -/
def rejectWaiters (q : IncomingQueue) (error : Error) : Answers × IncomingQueue :=
  (q.waiters.map fun waiter => (waiter, .error error), { q with waiters := [] })

/-- `end`. -/
def endQueue (q : IncomingQueue) : Answers × IncomingQueue :=
  if q.closed then ([], q) else { q with closed := true }.rejectWaiters q.endError

/-- `discard`. -/
def discard (q : IncomingQueue) : Answers × IncomingQueue :=
  { q with messages := [], buffered := 0, closed := true }.rejectWaiters .closed

/-- `next`: the answer, if there is one at once; otherwise the caller waits. -/
def next (q : IncomingQueue) (waiter : Waiter) :
    Option (Except Error Message) × IncomingQueue :=
  match q.messages with
  | head :: rest =>
    (some (.ok head.message), { q with messages := rest, buffered := q.buffered - head.size })
  | [] =>
    if q.overflowed then (some (.error .receiveBufferOverflow), q)
    else if q.closed then (some (.error .closed), q)
    else (none, { q with waiters := q.waiters ++ [waiter] })

end IncomingQueue

/-! ### The stream of `receiveViaStream` -/

/-- `message-kind`. -/
inductive MessageKind
  | binary
  | string
  deriving DecidableEq, Repr

/-- A `stream-message`; its `data` is a stream of these bytes. -/
structure StreamMessage where
  kind : MessageKind
  length : Nat
  data : Bytes
  deriving DecidableEq, Repr

/-- The `stream-message` that `pull` enqueues for a message. -/
def StreamMessage.ofMessage (message : Message) : StreamMessage where
  kind :=
    match message with
    | .binary _ => .binary
    | .string _ => .string
  length := message.payload.length
  data := message.payload

/-- Where the source of the stream is: before its first call of `pull`, between two calls, or in a
call. -/
inductive PullPc
  /-- The reaction to the fulfilled `start` is outstanding. -/
  | starting
  | idle
  /-- Awaiting `incoming.next()`. -/
  | waiting
  /-- `incoming.next()` has resolved; `pull` has not gone on yet. -/
  | resolved (message : Message)
  /-- `incoming.next()` has rejected; `pull` has not gone on yet. -/
  | rejected
  /-- `pull` has returned; the reaction to its promise is outstanding. -/
  | returned
  deriving DecidableEq, Repr

/-- A promise reaction of the stream is due. -/
def PullPc.due : PullPc → Bool
  | .starting | .resolved _ | .rejected | .returned => true
  | .idle | .waiting => false

/-- The stream that `receiveViaStream` returned. -/
structure Stream where
  readable : ReadableStream StreamMessage
  pull : PullPc

/-- `new ReadableStream({ pull })`, with the default strategy. -/
def Stream.new : Stream where
  readable := .new 1
  pull := .starting

/-! ### The resource -/

/-- The configured knobs of the module, in bytes and milliseconds. -/
structure Knobs where
  maxInboundBuffered : Nat
  connectTimeoutMs : Nat
  closeTimeoutMs : Nat
  maxInboundBuffered_pos : 0 < maxInboundBuffered
  connectTimeoutMs_pos : 0 < connectTimeoutMs
  closeTimeoutMs_pos : 0 < closeTimeoutMs

/-- `resetConfig`: the defaults. -/
def Knobs.default : Knobs where
  maxInboundBuffered := 8 * 1024 * 1024
  connectTimeoutMs := 30000
  closeTimeoutMs := 10000
  maxInboundBuffered_pos := by decide
  connectTimeoutMs_pos := by decide
  closeTimeoutMs_pos := by decide

/-- A timer the platform has armed. -/
structure Timer where
  handle : Nat
  /-- The time from which on it may fire. -/
  due : Nat
  deriving DecidableEq, Repr

/-- What an observer of the connection has seen.  The code reads none of it. -/
structure History where
  /-- The results of `receive` calls, in the order they were settled. -/
  received : List (Nat × Except Error Message)
  /-- The results of `waitClosed` calls. -/
  closes : List (Nat × Option CloseInfo)
  /-- The values `state` returned. -/
  states : List WsState
  /-- `state` has been called since the platform moved the `WebSocket` to CLOSED. -/
  sawClosed : Bool
  /-- The results of reads of the stream; `none` is its end. -/
  reads : List (Nat × Option StreamMessage)
  /-- The arguments of the calls of `ws.close`. -/
  closeCalls : List (Option CloseFrame)
  deriving DecidableEq

/-- The empty history. -/
def History.empty : History where
  received := []
  closes := []
  states := []
  sawClosed := false
  reads := []
  closeCalls := []

/-- One connection. -/
structure State where
  socket : Socket
  incoming : IncomingQueue
  localClosed : Bool
  streamClaimed : Bool
  closeSettled : Bool
  closeInfo : Option CloseInfo
  /-- The `waitClosed` calls that wait. -/
  closeWaiters : List Nat
  /-- The handle of the close timer. -/
  closeDeadline : Option Nat
  stream : Option Stream
  /-- The guest disposed of the resource. -/
  disposed : Bool
  knobs : Knobs
  timers : List Timer
  /-- The platform's clock, in milliseconds. -/
  now : Nat
  nextId : Nat
  hist : History

/-- `new Websocket(ws)` over an open `WebSocket`. -/
def State.start (knobs : Knobs) (now : Nat) : State where
  socket := .open
  incoming := .new knobs.maxInboundBuffered
  localClosed := false
  streamClaimed := false
  closeSettled := false
  closeInfo := none
  closeWaiters := []
  closeDeadline := none
  stream := none
  disposed := false
  knobs := knobs
  timers := []
  now := now
  nextId := 0
  hist := .empty

end Polymorph.Js
