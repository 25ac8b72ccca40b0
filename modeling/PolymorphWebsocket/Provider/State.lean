import PolymorphWebsocket.Contract.Transport
import PolymorphWebsocket.Futures.Channel

/-!
# The guest provider: state of one connection

The data of `rust/guest-provider/src`: the virtual transport of `io.rs`, the state the resource
methods share with the pump (`Shared`), the flags the two pump tasks share (`PumpFlags`), and where
each task, each pending `receive` call and the stream feeder is suspended.

tungstenite is a parameter.  What its decoder makes of the bytes the peer sent is an input of the
model (`Inbound`, one value for every `read()` that does not return `WouldBlock`); the record
`Tungstenite` holds what the calls write into the virtual transport.  Its automatic replies are
kept apart from the bytes of the call itself: `queued` is the reply a `read()` left waiting, and
the next call that succeeds writes it: a `read()` before it looks at further input, a `send` or a
`close` right after its own frame.
-/

namespace Polymorph.Provider

open Futures

/-- The outbound side of tungstenite's `WebSocket<VirtualIo>`: its state and what its calls write
into the virtual transport.  A call that fails writes nothing. -/
structure Tungstenite where
  /-- The state of the protocol core. -/
  Ctx : Type
  /-- The bytes of the automatic reply that waits for the next call. -/
  queued : Ctx → Bytes
  /-- The state after a `read()` with this outcome (`none` is `WouldBlock`). -/
  read : Ctx → Option Inbound → Ctx
  /-- `send(message)`: the bytes of the message's frame. -/
  send : Ctx → Message → Except TungsteniteError Bytes × Ctx
  /-- `close(frame)`: the bytes of the close frame, empty when the core is closing already. -/
  close : Ctx → Option CloseFrame → Except TungsteniteError Bytes × Ctx

/-- The reply discipline of tungstenite: only a `read()` that returns a ping or a close frame
leaves a reply waiting, and the next call that succeeds takes it out. -/
structure Tungstenite.QueuesReplies (T : Tungstenite) : Prop where
  read_queued : ∀ c r, (∀ i, r = some i → i.owesReply = false) → T.queued (T.read c r) = []
  send_queued : ∀ c m frame c', T.send c m = (.ok frame, c') → T.queued c' = []
  send_error : ∀ c m err c', T.send c m = (.error err, c') → T.queued c' = T.queued c
  close_queued : ∀ c f frame c', T.close c f = (.ok frame, c') → T.queued c' = []
  close_error : ∀ c f err c', T.close c f = (.error err, c') → T.queued c' = T.queued c

/-! ### The virtual transport -/

/-- `Buffers`: the in-memory transport tungstenite reads from and writes to.  The element type of
the inbound half is a parameter: bytes for the transport itself, decoded outcomes for the pump. -/
structure Buffers (ι : Type*) where
  inbound : List ι
  /-- The wit inbound stream ended. -/
  eof : Bool
  outbound : Bytes
  deriving DecidableEq

namespace Buffers

variable {ι : Type*}

/-- `Buffers::default`. -/
def empty : Buffers ι where
  inbound := []
  eof := false
  outbound := []

/-- `IoHandle::feed`. -/
def feed (b : Buffers ι) (items : List ι) : Buffers ι := { b with inbound := b.inbound ++ items }

/-- `IoHandle::set_eof`. -/
def setEof (b : Buffers ι) : Buffers ι := { b with eof := true }

/-- `VirtualIo::write`. -/
def write (b : Buffers ι) (bytes : Bytes) : Buffers ι :=
  { b with outbound := b.outbound ++ bytes }

/-- `IoHandle::drain_outbound`: everything tungstenite has written since the last drain. -/
def drainOutbound (b : Buffers ι) : Bytes × Buffers ι := (b.outbound, { b with outbound := [] })

end Buffers

/-- What a `read()` finds in the virtual transport: the next decoded outcome, `WouldBlock` when the
input is exhausted, and an error once it is exhausted and ended. -/
def Buffers.nextOutcome (b : Buffers Inbound) : Option Inbound × Buffers Inbound :=
  match b.inbound with
  | i :: rest => (some i, { b with inbound := rest })
  | [] => (if b.eof then some .error else none, b)

@[simp] theorem Buffers.nextOutcome_outbound (b : Buffers Inbound) :
    b.nextOutcome.2.outbound = b.outbound := by
  unfold nextOutcome
  split <;> rfl

/-! ### The inbound budget -/

/-- The budget fields of `Shared`.  The bytes reserved never exceed the limit. -/
structure Budget where
  limit : Nat
  used : Nat
  overflowed : Bool
  used_le : used ≤ limit

/-- `Shared::reserve`: `false` latches overflow; a message exactly filling the budget fits.  The
queued payloads and the new one are live at once, so their sum does not wrap. -/
def Budget.reserve (b : Budget) (len : Nat) : Bool × Budget :=
  if b.overflowed then (false, b)
  else if h : b.used + len > b.limit then (false, { b with overflowed := true })
  else (true, { b with used := b.used + len, used_le := Nat.le_of_not_gt h })

/-- A reservation fails exactly when it leaves the overflow latched. -/
@[simp] theorem Budget.reserve_overflowed (b : Budget) (len : Nat) :
    (b.reserve len).2.overflowed = !(b.reserve len).1 := by
  unfold reserve
  split
  · next h => simpa using h
  · split
    · rfl
    · next h _ => simpa using h

/-- A latched overflow refuses every reservation. -/
theorem Budget.overflowed_of_reserve {b b' : Budget} {len : Nat} (h : b.reserve len = (true, b')) :
    b.overflowed = false := by
  unfold reserve at h
  split at h
  · cases h
  · next ho => simpa using ho

/-- `Shared::release_budget`, with its saturating subtraction. -/
def Budget.release (b : Budget) (len : Nat) : Budget :=
  { b with used := b.used - len, used_le := (Nat.sub_le _ _).trans b.used_le }

/-- The latch a message past the transport cap sets directly. -/
def Budget.latchOverflow (b : Budget) : Budget := { b with overflowed := true }

/-! ### Shared state and flags -/

/-- A command from the resource surface into the pump; a `send` carries the identity of the call
whose acknowledgement channel it holds. -/
inductive Cmd
  | send (id : Nat) (message : Message)
  | close (code : Option UInt16) (reason : String)
  | claimStream
  deriving DecidableEq, Repr

/-- Who holds the lock of the inbound queue. -/
inductive QueueHolder
  | receive (id : Nat)
  | feeder
  deriving DecidableEq, Repr

/-- `Shared`: state shared between the resource methods and the pump tasks.  A `Flag` is the
boolean that tells whether it has fired. -/
structure Shared where
  state : WsState
  localClosed : Bool
  streamStarted : Bool
  streamClaimed : Bool
  closed : Bool
  /-- Latched at finalization: the peer's frame, or `none` for an abnormal close. -/
  closeInfo : Option (Option CloseInfo)
  /-- The commands sent and not yet received by the command task. -/
  cmds : List Cmd
  queue : Receiver Message
  queueLock : Option QueueHolder
  budget : Budget

/-- `PumpFlags`: flags shared by the reader and command tasks. -/
structure PumpFlags where
  wireClosing : Bool
  writeDead : Bool
  /-- The close deadline, armed at most once. -/
  deadline : Option Nat
  deadlineArmed : Bool
  pumpDone : Bool
  deriving DecidableEq, Repr

/-- `PumpFlags::arm_deadline`, on the clock's 64-bit nanoseconds. -/
def PumpFlags.armDeadline (flags : PumpFlags) (now closeTimeoutNs : Nat) : PumpFlags :=
  if flags.deadline.isNone then
    { flags with deadline := some ((now + closeTimeoutNs) % 2 ^ 64), deadlineArmed := true }
  else flags

namespace PumpFlags

variable (flags : PumpFlags) (now ns : Nat)

@[simp] theorem armDeadline_wireClosing :
    (flags.armDeadline now ns).wireClosing = flags.wireClosing := by
  unfold armDeadline; split <;> rfl

@[simp] theorem armDeadline_writeDead :
    (flags.armDeadline now ns).writeDead = flags.writeDead := by
  unfold armDeadline; split <;> rfl

@[simp] theorem armDeadline_pumpDone :
    (flags.armDeadline now ns).pumpDone = flags.pumpDone := by
  unfold armDeadline; split <;> rfl

@[simp] theorem armDeadline_isNone : (flags.armDeadline now ns).deadline.isNone = false := by
  cases hd : flags.deadline <;> simp [armDeadline, hd]

/-- An armed deadline stays as it is. -/
theorem armDeadline_deadline (h : flags.deadline ≠ none) :
    (flags.armDeadline now ns).deadline = flags.deadline := by
  simp [armDeadline, h]

end PumpFlags

/-! ### Suspension points -/

/-- The two tasks of the pump. -/
inductive Task
  | reader
  | cmd
  deriving DecidableEq, Repr

/-- The two awaits inside `Proto::flush_outbound`. -/
inductive FlushPc
  /-- Awaiting `write_lock.lock()`. -/
  | lock
  /-- Holding the lock, racing the write of the bytes not yet accepted against its bound. -/
  | write (rest : Bytes) (bound : WriteBound)
  deriving DecidableEq, Repr

/-- Where the reader task goes on after a flush. -/
inductive ReaderNext
  | drain
  | finalize
  deriving DecidableEq, Repr

/-- Where the reader task is. -/
inductive ReaderPc
  /-- Before a `read()` of the drain loop. -/
  | drain
  | flushing (f : FlushPc) (next : ReaderNext)
  /-- In the select at the end of the outer loop: the deadline against more transport bytes. -/
  | parked
  /-- Before a `read()` of the final drain after the stream ended. -/
  | lastDrain
  /-- Out of the loop, before finalization. -/
  | finalize
  | finished
  deriving DecidableEq, Repr

/-- The suspension point the reader task goes on at. -/
def ReaderNext.pc : ReaderNext → ReaderPc
  | .drain => .drain
  | .finalize => .finalize

/-- Where the command task goes on after a flush. -/
inductive CmdNext
  /-- Acknowledge the `send` call with the flush's result. -/
  | reply (id : Nat)
  | live
  | exit
  deriving DecidableEq, Repr

/-- Where the command task is. -/
inductive CmdPc
  /-- Phase 1: the connection is live. -/
  | live
  | flushing (f : FlushPc) (next : CmdNext)
  /-- Phase 2: the pump has finalized. -/
  | drained
  | exited
  deriving DecidableEq, Repr

/-- The suspension point the command task goes on at. -/
def CmdNext.pc : CmdNext → CmdPc
  | .reply _ | .live => .live
  | .exit => .exited

/-- The acknowledgement the command task sends on its way. -/
def CmdNext.acks : CmdNext → Except Error Unit → List (Nat × Except Error Unit)
  | .reply id, result => [(id, result)]
  | .live, _ | .exit, _ => []

/-- Where the feeder of `receive-via-stream` is. -/
inductive FeederPc
  | idle
  /-- Awaiting the lock of the inbound queue. -/
  | lock
  /-- In the select: a local close against the next message. -/
  | next
  /-- Writing the element of this message to the consumer. -/
  | element (message : Message)
  /-- Writing the rest of a payload to the consumer. -/
  | payload (rest : Bytes)
  | ended
  deriving DecidableEq, Repr

/-- The feeder has the lock of the inbound queue at this point. -/
def FeederPc.holdsQueue : FeederPc → Bool
  | .next | .element _ | .payload _ => true
  | .idle | .lock | .ended => false

/-! ### History variables

What an observer of the connection has seen so far.  The code reads none of it. -/

/-- The call order behind an automatic reply: whether a reply waits inside tungstenite, has been
written into the virtual transport by a later call, or has been drained from there as well. -/
inductive ReplyPhase
  | settled
  | queued
  | buffered
  deriving DecidableEq, Repr

/-- A frame a `send` command put on the wire: `before` is everything written up to it. -/
structure SentFrame where
  id : Nat
  message : Message
  before : Bytes
  frame : Bytes
  deriving DecidableEq, Repr

/-- The history of a connection since the pump started. -/
structure History where
  /-- Every `send` call. -/
  sends : List (Nat × Message)
  /-- The results of `send` calls, in the order they were acknowledged. -/
  replies : List (Nat × Except Error Unit)
  /-- The frames the `send` commands wrote. -/
  frames : List SentFrame
  /-- The close frames the pump initiated. -/
  closeFrames : List (Option CloseFrame)
  /-- Everything that was in the virtual transport to be sent, and that tungstenite wrote into it. -/
  written : Bytes
  /-- Everything handed to a write of the wit outbound stream. -/
  handed : Bytes
  /-- The length of `written` right after the last automatic reply. -/
  replyEnd : Nat
  owed : ReplyPhase
  /-- Every data message read. -/
  data : List Message
  /-- How many data messages were read before the first overflow or closing event. -/
  cut : Option Nat
  /-- Every message taken from the inbound queue. -/
  taken : List Message
  /-- The results of `receive` calls. -/
  received : List (Nat × Except Error Message)
  closeCall : Option CloseCall
  /-- The elements and the payload bytes the stream consumer took. -/
  elements : List Message
  payload : Bytes
  deriving DecidableEq

/-- The empty history. -/
def History.empty : History where
  sends := []
  replies := []
  frames := []
  closeFrames := []
  written := []
  handed := []
  replyEnd := 0
  owed := .settled
  data := []
  cut := none
  taken := []
  received := []
  closeCall := none
  elements := []
  payload := []

/-- `Config`, as far as the pump reads it: a `u64` of nanoseconds and a 32-bit `usize`. -/
structure Config where
  closeTimeoutNs : Nat
  maxInboundBufferBytes : Nat
  closeTimeoutNs_lt : closeTimeoutNs < 2 ^ 64
  maxInboundBufferBytes_lt : maxInboundBufferBytes < 2 ^ 32

/-- One connection: the shared state, the protocol core with its transport, the suspension points
and the environment (the clock, the bytes the wit outbound stream accepted). -/
structure State (T : Tungstenite) where
  shared : Shared
  flags : PumpFlags
  ws : T.Ctx
  io : Buffers Inbound
  /-- The holder of `Proto::write_lock`. -/
  writeLock : Option Task
  reader : ReaderPc
  /-- The reader's local: the peer's close frame, if one was read. -/
  peerFrame : Option CloseInfo
  cmd : CmdPc
  /-- The `receive` calls that await the lock of the inbound queue. -/
  receives : List Nat
  feeder : FeederPc
  /-- The guest dropped the resource. -/
  dropped : Bool
  nextId : Nat
  closeTimeoutNs : Nat
  /-- The monotonic clock. -/
  now : Nat
  /-- The bytes the wit outbound stream accepted. -/
  accepted : Bytes
  hist : History

/-- The connection as `spawn_pump` starts it, over the virtual transport as the handshake has left
it. -/
def State.start {T : Tungstenite} (config : Config) (ws : T.Ctx) (io : Buffers Inbound)
    (now : Nat) : State T where
  shared :=
    { state := .open, localClosed := false, streamStarted := false, streamClaimed := false,
      closed := false, closeInfo := none, cmds := [], queue := .new, queueLock := none,
      budget := { limit := config.maxInboundBufferBytes, used := 0, overflowed := false,
                  used_le := Nat.zero_le _ } }
  flags :=
    { wireClosing := false, writeDead := false, deadline := none, deadlineArmed := false,
      pumpDone := false }
  ws := ws
  io := io
  writeLock := none
  reader := .drain
  peerFrame := none
  cmd := .live
  receives := []
  feeder := .idle
  dropped := false
  nextId := 0
  closeTimeoutNs := config.closeTimeoutNs
  now := now
  accepted := []
  hist := { History.empty with written := io.outbound }

end Polymorph.Provider
