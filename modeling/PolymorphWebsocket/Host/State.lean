import PolymorphWebsocket.Contract.Timeout
import PolymorphWebsocket.Contract.Transport
import PolymorphWebsocket.Futures.Channel

/-!
# The wasmtime host: state of one connection

The data of `rust/wasmtime/src/websocket.rs`: the inbound budget on machine words, what the
resource shares with its pump task (`ConnShared`, the signals, the command channel), the pump's own
fields and where the pump task is.

The pump runs on its own thread, so the guest's side moves between any two of its steps: the arms
of the select are polled one by one, a reservation checks the counter and adds to it in two steps,
and every store of the finalization is a step.  The operations on the channels, the signals and the
counter are one step each.  The transport is an input: the outcomes of `ws.next()` that have
arrived, and how the pending write goes on.

Arming the close deadline panics where the sum is no instant of the platform, and with a timeout such
as `Duration::MAX` it is none.  A connection of the model therefore carries the bound under which the
pump's own arithmetic succeeds: as long as no deadline is armed, there is an instant to arm.
-/

namespace Polymorph.Host

open Futures

/-! ### The inbound budget -/

/-- `InboundBudget`: the buffered-byte accounting the pump and the readers share. -/
structure InboundBudget where
  limit : Nat
  buffered : Nat
  /-- Latched once an inbound message would have exceeded the bound. -/
  overflowed : Bool
  deriving DecidableEq, Repr

namespace InboundBudget

/-- The comparison of `reserve`, with the saturating addition of a word of `w` bits. -/
def roomFor (w : Nat) (b : InboundBudget) (len : Nat) : Bool :=
  decide (min (b.buffered + len) (2 ^ w - 1) ≤ b.limit)

/-- The `fetch_add` of `reserve`. -/
def fetchAdd (w : Nat) (b : InboundBudget) (len : Nat) : InboundBudget :=
  { b with buffered := (b.buffered + len) % 2 ^ w }

/-- The `fetch_sub` of `release`. -/
def fetchSub (w : Nat) (b : InboundBudget) (len : Nat) : InboundBudget :=
  { b with buffered := (b.buffered + (2 ^ w - len % 2 ^ w)) % 2 ^ w }

/-- `latch_overflow`, and the latch of a reservation that does not fit. -/
def latchOverflow (b : InboundBudget) : InboundBudget := { b with overflowed := true }

/-- An addition below the range of the word does not wrap. -/
theorem fetchAdd_of_lt {w : Nat} {b : InboundBudget} {len : Nat} (h : b.buffered + len < 2 ^ w) :
    b.fetchAdd w len = { b with buffered := b.buffered + len } := by
  unfold fetchAdd
  rw [Nat.mod_eq_of_lt h]

/-- A release of no more than is buffered does not underflow. -/
theorem fetchSub_of_le {w : Nat} {b : InboundBudget} {len : Nat} (hlen : len ≤ b.buffered)
    (hlt : b.buffered < 2 ^ w) : b.fetchSub w len = { b with buffered := b.buffered - len } := by
  unfold fetchSub
  have hmod : len % 2 ^ w = len := Nat.mod_eq_of_lt (Nat.lt_of_le_of_lt hlen hlt)
  have hsum : b.buffered + (2 ^ w - len) = (b.buffered - len) + 2 ^ w := by omega
  rw [hmod, hsum, Nat.add_mod_right, Nat.mod_eq_of_lt (by omega)]

/-- What fits the limit has room. -/
theorem roomFor_of_le {w : Nat} {b : InboundBudget} {len : Nat} (h : b.buffered + len ≤ b.limit) :
    b.roomFor w len = true :=
  decide_eq_true (Nat.le_trans (Nat.min_le_left _ _) h)

/-- What has room fits the limit, where the addition does not saturate. -/
theorem le_of_roomFor {w : Nat} {b : InboundBudget} {len : Nat} (hlt : b.buffered + len < 2 ^ w)
    (h : b.roomFor w len = true) : b.buffered + len ≤ b.limit := by
  have hle := of_decide_eq_true h
  rwa [Nat.min_eq_left (Nat.le_sub_one_of_lt hlt)] at hle

end InboundBudget

/-- The width of `usize` on the platforms the host runs on. -/
def wordBits : Nat := 64

/-- The range of `usize`. -/
def wordSize : Nat := 2 ^ wordBits

namespace InboundBudget

/-- The check of `reserve`: whether the reservation fits. -/
def fits (b : InboundBudget) (len : Nat) : Bool := !b.overflowed && b.roomFor wordBits len

/-- A limit below `usize::MAX` is exact. -/
theorem fits_iff {b : InboundBudget} (hlimit : b.limit < wordSize - 1) (len : Nat) :
    b.fits len = true ↔ b.overflowed = false ∧ b.buffered + len ≤ b.limit := by
  unfold fits roomFor
  rw [Bool.and_eq_true, Bool.not_eq_true', decide_eq_true_eq]
  have hsaturated : min (b.buffered + len) (2 ^ wordBits - 1) ≤ b.limit ↔
      b.buffered + len ≤ b.limit := by
    change b.limit < 2 ^ wordBits - 1 at hlimit
    omega
  rw [hsaturated]

end InboundBudget

/-! ### The close deadline -/

/-- `Instant + Duration`, on a platform with a largest instant; `none` is a panic. -/
def instantAdd (largest now : Nat) (timeout : Duration) : Option Nat :=
  if now + timeout.asNanos ≤ largest then some (now + timeout.asNanos) else none

/-- `Pump::arm_deadline` on the field `deadline`: arm the closing deadline (idempotent); `none` is a
panic. -/
def armDeadline (largest : Nat) (deadline : Option Nat) (now : Nat) (timeout : Duration) :
    Option (Option Nat) :=
  match deadline with
  | some deadline => some (some deadline)
  | none => (instantAdd largest now timeout).map some

/-- Where there is an instant to arm, arming does not panic. -/
theorem armDeadline_of_le {largest now : Nat} {deadline : Option Nat} {timeout : Duration}
    (h : deadline = none → now + timeout.asNanos ≤ largest) :
    armDeadline largest deadline now timeout =
      some (deadline.or (some (now + timeout.asNanos))) := by
  cases deadline with
  | some deadline => rfl
  | none =>
    show (instantAdd largest now timeout).map some = _
    rw [instantAdd, if_pos (h rfl)]
    rfl

/-! ### The pump's commands, frames and suspension points -/

/-- Outbound work handed to the pump task; a `send` carries the identity of the call whose `ack` it
holds. -/
inductive Cmd
  | send (id : Nat) (message : Message)
  | close (code : Option UInt16) (reason : String)
  deriving DecidableEq, Repr

/-- A frame the pump hands to the `WebSocketStream`. -/
inductive Frame
  | data (id : Nat) (message : Message)
  | close (frame : Option CloseFrame)
  deriving DecidableEq, Repr

/-- The arms of the select, in the order they are polled. -/
inductive Arm
  | cmd
  | read
  | deadline
  deriving DecidableEq, Repr

/-- What the select resolves to: the arm and its value. -/
inductive Resolution
  /-- `cmd_rx.recv()`; `none` when every sender is gone. -/
  | cmd (cmd : Option Cmd)
  /-- `ws.next()`; the end of the stream is `connectionClosed`. -/
  | read (outcome : Inbound)
  | deadline
  deriving DecidableEq, Repr

/-- The future a bounded write drives: `ws.send(frame)`, which hands its frame over before it
completes, or `ws.flush()`. -/
inductive Write
  | send (frame : Frame) (handed : Bool)
  | flush
  deriving DecidableEq, Repr

/-- Where the pump goes on after a bounded write. -/
inductive Next
  /-- Answer the `send` call with the result, then loop. -/
  | reply (id : Nat)
  | loop
  | leave
  deriving DecidableEq, Repr

/-- The steps of the finalization. -/
inductive Finalize
  | closeInfo
  | endQueue
  | closeCmds
  | drainCmds
  | closing
  | closed
  | fire
  deriving DecidableEq, Repr

/-- Where the pump task is. -/
inductive Pc
  /-- In the select, about to poll this arm. -/
  | select (arm : Arm)
  /-- The select has resolved. -/
  | resolved (r : Resolution)
  /-- `reserve` has found room for the message. -/
  | reserved (message : Message)
  /-- `reserve` has added the message to the counter. -/
  | counted (message : Message)
  /-- Inside `bounded_write`. -/
  | writing (write : Write) (bound : WriteBound) (next : Next)
  | finalize (stage : Finalize)
  | done
  deriving DecidableEq, Repr

/-! ### The connection -/

/-- `ConnShared`, the signals and the channels between the resource and its pump.  A signal is the
boolean that tells whether it has fired. -/
structure Shared where
  state : WsState
  /-- Set once, at finalization: the peer's frame, or `none` for an abnormal close. -/
  closeInfo : Option (Option CloseInfo)
  closed : Bool
  localClosed : Bool
  /-- The commands sent and not yet received by the pump. -/
  cmds : List Cmd
  /-- The pump has closed the command channel. -/
  cmdsClosed : Bool
  /-- Every sender of the command channel has dropped. -/
  sendersGone : Bool
  queue : Receiver Message
  budget : InboundBudget

/-- The fields of `Pump`. -/
structure Pump where
  /-- A close frame has been sent or received. -/
  wireClosing : Bool
  /-- The write half failed or stalled out. -/
  writeDead : Bool
  /-- The peer's close frame, if one was received. -/
  peerFrame : Option CloseInfo
  /-- Once closing, bounds how long teardown may take. -/
  deadline : Option Nat
  closeTimeout : Duration
  /-- `cmds_done`: the command channel has returned its end. -/
  cmdsDone : Bool
  pc : Pc
  deriving DecidableEq, Repr

/-- The calls of the guest's side that another thread may overtake. -/
structure Calls where
  /-- The `send` calls that found no local close and have not sent their command yet. -/
  checked : List (Nat × Message)
  /-- The `close` call that has fired the signal and not sent its command yet. -/
  closing : Option (Option UInt16 × String)
  /-- The message a reader, holding the lock of the queue, has taken and not released yet. -/
  unreleased : Option Message
  /-- The guest dropped the resource. -/
  dropped : Bool
  nextId : Nat
  deriving DecidableEq, Repr

/-- What an observer of the connection has seen so far.  The code reads none of it. -/
structure History where
  /-- The `send` commands, in the order they entered the channel. -/
  enqueued : List (Nat × Message)
  /-- The frames handed to the `WebSocketStream`. -/
  handed : List Frame
  /-- The `send` calls whose own write completed. -/
  completed : List Nat
  /-- The results of `send` calls, in the order they were answered. -/
  replies : List (Nat × Except Error Unit)
  /-- The close frames the pump initiated. -/
  closeFrames : List (Option CloseFrame)
  closeCall : Option CloseCall
  deriving DecidableEq

/-- The empty history. -/
def History.empty : History where
  enqueued := []
  handed := []
  completed := []
  replies := []
  closeFrames := []
  closeCall := none

/-- One connection with its pump. -/
structure Connection where
  shared : Shared
  pump : Pump
  calls : Calls
  /-- The outcomes of `ws.next()` that have arrived. -/
  inbound : List Inbound
  now : Nat
  /-- The platform's largest instant. -/
  largest : Nat
  hist : History

/-- A connection on a clock that can keep its close timeout. -/
structure State extends Connection where
  /-- There is an instant to arm as the deadline. -/
  reaches : pump.deadline = none → now + pump.closeTimeout.asNanos ≤ largest

/-- The connection as `connect` starts its pump, on a clock on which the close timeout can be
kept. -/
def State.start (closeTimeout : Duration) (maxInboundBufferBytes now largest : Nat)
    (hreaches : now + closeTimeout.asNanos ≤ largest) : State where
  shared :=
    { state := .open, closeInfo := none, closed := false, localClosed := false, cmds := []
      cmdsClosed := false, sendersGone := false, queue := .new
      budget := { limit := maxInboundBufferBytes, buffered := 0, overflowed := false } }
  pump :=
    { wireClosing := false, writeDead := false, peerFrame := none, deadline := none
      closeTimeout := closeTimeout, cmdsDone := false, pc := .select .cmd }
  calls := { checked := [], closing := none, unreleased := none, dropped := false, nextId := 0 }
  inbound := []
  now := now
  largest := largest
  hist := .empty
  reaches _ := hreaches

end Polymorph.Host
