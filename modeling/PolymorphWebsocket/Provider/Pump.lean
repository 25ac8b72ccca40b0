import PolymorphWebsocket.Provider.State
import PolymorphWebsocket.Transition.System

/-!
# The guest provider: the pump and the resource methods

`rust/guest-provider/src/pump.rs` and the resource methods of `lib.rs`, as a transition system over
`State`.  An action is a guest call, a poll of a pending `receive`, what a task does from one await
to the next, one resolution of an await, or a move of the transport, the stream consumer or the
clock.  The tasks share one thread and only switch at an await; the model lets them switch between
any two actions, so it has every interleaving of the code and more.

The two tasks flush through the same `Proto::flush_outbound`: its actions take the task as a
parameter.
-/

namespace Polymorph.Provider

open Futures

variable {T : Tungstenite}

namespace State

/-! ### Small updates -/

/-- `flags.arm_deadline(close_timeout_ns)`. -/
def armDeadline (s : State T) : State T :=
  { s with flags := s.flags.armDeadline s.now s.closeTimeoutNs }

/-- `shared.state.advance(next)`. -/
def advance (s : State T) (next : WsState) : State T :=
  { s with shared := { s.shared with state := s.shared.state.advance next } }

/-- Acknowledge the `send` call `id`. -/
def reply (s : State T) (id : Nat) (result : Except Error Unit) : State T :=
  { s with hist := { s.hist with replies := s.hist.replies ++ [(id, result)] } }

/-- Resolve the `receive` call `id`. -/
def resolveReceive (s : State T) (id : Nat) (result : Except Error Message) : State T :=
  { s with hist := { s.hist with received := s.hist.received ++ [(id, result)] } }

/-- Note the first overflow or closing event: `n` data messages were read before it. -/
def noteCut (s : State T) (n : Nat) : State T :=
  { s with hist := { s.hist with cut := s.hist.cut.or (some n) } }

/-! ### Calls on tungstenite -/

/-- The queued reply goes into the virtual transport, which every call that succeeds does. -/
def writeQueued (s : State T) : State T :=
  let bytes := T.queued s.ws
  { s with
    io := s.io.write bytes
    hist := { s.hist with
      written := s.hist.written ++ bytes
      replyEnd := if bytes = [] then s.hist.replyEnd else (s.hist.written ++ bytes).length } }

/-- The bytes of the call itself go into the virtual transport. -/
def writeFrame (s : State T) (bytes : Bytes) : State T :=
  { s with io := s.io.write bytes, hist := { s.hist with written := s.hist.written ++ bytes } }

/-- The core's state after a call; a reply that was queued before the call has been written. -/
def setWs (s : State T) (ws : T.Ctx) : State T :=
  { s with
    ws := ws
    hist := { s.hist with
      owed :=
        if T.queued ws ≠ [] then .queued
        else if s.hist.owed = .settled then .settled else .buffered } }

/-- Record the frame a `send` command wrote. -/
def noteFrame (s : State T) (frame : SentFrame) : State T :=
  { s with hist := { s.hist with frames := s.hist.frames ++ [frame] } }

/-- `websocket.read()`. -/
def webSocketRead (s : State T) : Option Inbound × State T :=
  let next := s.io.nextOutcome
  (next.1, ({ s with io := next.2 }.writeQueued).setWs (T.read s.ws next.1))

/-- `websocket.send(message)` for the `send` call `id`. -/
def webSocketSend (s : State T) (id : Nat) (message : Message) :
    Except TungsteniteError Unit × State T :=
  match T.send s.ws message with
  | (.ok frame, ws) =>
    let sent : SentFrame :=
      { id := id, message := message, before := s.hist.written, frame := frame }
    (.ok (), (((s.noteFrame sent).writeFrame frame).writeQueued).setWs ws)
  | (.error err, ws) => (.error err, { s with ws := ws })

/-- `websocket.close(frame)`. -/
def webSocketClose (s : State T) (frame : Option CloseFrame) :
    Except TungsteniteError Unit × State T :=
  match T.close s.ws frame with
  | (.ok bytes, ws) => (.ok (), ((s.writeFrame bytes).writeQueued).setWs ws)
  | (.error err, ws) => (.error err, { s with ws := ws })

/-! ### `Proto::flush_outbound` -/

/-- Where a task is inside `flush_outbound`. -/
def flush (s : State T) : Task → Option FlushPc
  | .reader =>
    match s.reader with
    | .flushing f _ => some f
    | _ => none
  | .cmd =>
    match s.cmd with
    | .flushing f _ => some f
    | _ => none

/-- Move a task that is inside `flush_outbound` to another of its awaits. -/
def setFlush (s : State T) (t : Task) (f : FlushPc) : State T :=
  match t with
  | .reader =>
    match s.reader with
    | .flushing _ next => { s with reader := .flushing f next }
    | _ => s
  | .cmd =>
    match s.cmd with
    | .flushing _ next => { s with cmd := .flushing f next }
    | _ => s

/-- `flush_outbound` returned to its task. -/
def resume (s : State T) (t : Task) (result : Except Error Unit) : State T :=
  match t with
  | .reader =>
    match s.reader with
    | .flushing _ next => { s with reader := next.pc }
    | _ => s
  | .cmd =>
    match s.cmd with
    | .flushing _ next =>
      { s with
        cmd := next.pc
        hist := { s.hist with replies := s.hist.replies ++ next.acks result } }
    | _ => s

/-- `self.handle.drain_outbound()`. -/
def drainOutbound (s : State T) : Bytes × State T :=
  let drained := s.io.drainOutbound
  (drained.1, { s with
    io := drained.2
    hist := { s.hist with owed := if s.hist.owed = .buffered then .settled else s.hist.owed } })

/-- Keep the write lock for a write of these bytes. -/
def holdLock (s : State T) (t : Task) (bytes : Bytes) : State T :=
  { s with writeLock := some t, hist := { s.hist with handed := s.hist.handed ++ bytes } }

/-- The write of `flush_outbound` is over. -/
def releaseLock (s : State T) : State T := { s with writeLock := none }

/-- `write_dead.set(true)`. -/
def markWriteDead (s : State T) : State T :=
  { s with flags := { s.flags with writeDead := true } }

/-- The wit outbound stream accepts bytes. -/
def acceptBytes (s : State T) (bytes : Bytes) : State T :=
  { s with accepted := s.accepted ++ bytes }

/-- `flush_outbound` from the moment the task has the write lock: drain, then either return at once
(releasing the lock) or start the write, choosing its bound. -/
def flushLocked (s : State T) (t : Task) : State T :=
  let bytes := s.drainOutbound.1
  let s := s.drainOutbound.2
  if bytes = [] then
    s.resume t (if s.flags.writeDead then .error .closed else .ok ())
  else if s.flags.writeDead then
    s.resume t (.error .closed)
  else
    (s.holdLock t bytes).setFlush t
      (.write bytes (if s.flags.deadline.isNone then .localClose else .deadline))

/-- The write failed, or its bound resolved first: the write side is dead. -/
def failWrite (s : State T) (t : Task) : State T :=
  (s.releaseLock.markWriteDead.armDeadline).resume t (.error .closed)

/-- The armed deadline has passed. -/
def expired (s : State T) : Bool :=
  match s.flags.deadline with
  | some deadline => s.flags.deadlineArmed && decide (deadline ≤ s.now)
  | none => false

/-! ### `Proto::begin_close` -/

/-- `begin_close(frame)` up to its flush; the flag tells whether it flushes. -/
def beginClose (s : State T) (frame : Option CloseFrame) : Bool × State T :=
  if s.flags.wireClosing then (false, s)
  else
    let s := ({ s with
      flags := { s.flags with wireClosing := true }
      hist := { s.hist with closeFrames := s.hist.closeFrames ++ [frame] } }.noteCut
        s.hist.data.length).armDeadline
    match s.webSocketClose frame with
    | (.ok (), s) => (true, s)
    | (.error _, s) => (false, s)

/-! ### The reader task -/

/-- Await a flush if there is one, then go on at `next`. -/
def readerGoes (s : State T) (flush : Bool) (next : ReaderNext) : State T :=
  { s with reader := if flush then .flushing .lock next else next.pc }

/-- `deliver`: one complete inbound message under the budget. -/
def deliver (s : State T) (message : Message) : State T :=
  let n := s.hist.data.length
  let s := { s with hist := { s.hist with data := s.hist.data ++ [message] } }
  if s.flags.wireClosing then s
  else
    match s.shared.budget.reserve message.payloadLen with
    | (true, budget) =>
      { s with shared := { s.shared with
          budget := budget, queue := s.shared.queue.push message } }
    | (false, budget) => { s with shared := { s.shared with budget := budget } }.noteCut n

/-- A data message in the drain loop: deliver it, and close toward the peer on an overflow. -/
def readData (s : State T) (message : Message) : State T :=
  let s := s.deliver message
  if s.shared.budget.overflowed && !s.flags.wireClosing then
    let closing := s.beginClose none
    closing.2.readerGoes closing.1 .drain
  else s.readerGoes false .drain

/-- `shared.overflowed.set(true)`. -/
def latchOverflow (s : State T) : State T :=
  { s with shared := { s.shared with budget := s.shared.budget.latchOverflow } }

/-- Record the peer's close frame, the first one only. -/
def notePeerFrame (s : State T) (frame : Option CloseFrame) : State T :=
  { s with peerFrame := s.peerFrame.or (some (closeInfoFrom frame)) }

/-- The match on a `read()` of the drain loop. -/
def drainRead (s : State T) : Option Inbound → State T
  | some (.binary bytes) => s.readData (.binary bytes)
  | some (.text text) => s.readData (.string text)
  | some (.close frame) =>
    let s := ((s.notePeerFrame frame).advance .closing).armDeadline
    ({ s with flags := { s.flags with wireClosing := true } }.noteCut
      s.hist.data.length).readerGoes true .drain
  | some (.ping _) | some (.pong _) => s.readerGoes true .drain
  | some .frame => s.readerGoes false .drain
  | none => { s with reader := .parked }
  | some .capacity =>
    let s := s.latchOverflow.noteCut s.hist.data.length
    let closing := s.beginClose none
    closing.2.readerGoes closing.1 .finalize
  | some .connectionClosed | some .error => { s with reader := .finalize }

/-- One iteration of the drain loop. -/
def readerDrain (s : State T) : State T :=
  s.webSocketRead.2.drainRead s.webSocketRead.1

/-- The match on a `read()` of the final drain after the wit inbound stream ended. -/
def lastDrainRead (s : State T) : Option Inbound → State T
  | some (.close frame) => { s.notePeerFrame frame with reader := .finalize }
  | some (.binary bytes) => s.deliver (.binary bytes)
  | some (.text text) => s.deliver (.string text)
  | some (.ping _) | some (.pong _) | some .frame => s
  | none | some .capacity | some .connectionClosed | some .error => { s with reader := .finalize }

/-- One iteration of the final drain. -/
def readerLastDrain (s : State T) : State T :=
  s.webSocketRead.2.lastDrainRead s.webSocketRead.1

/-- Finalization: latch the close details, end the queue after the backlog, stop accepting sends,
tear the transport down, wake `wait-closed`. -/
def readerFinalize (s : State T) : State T :=
  let s := { s with shared := { s.shared with closeInfo := some s.peerFrame } }.advance .closed
  { s with
    shared := { s.shared with queue := s.shared.queue.dropSender, closed := true }
    flags := { s.flags with pumpDone := true }
    reader := .finished }

/-- What the reader task does without waiting for anyone. -/
def readerStep (s : State T) : Option (State T) :=
  match s.reader with
  | .drain => some s.readerDrain
  | .lastDrain => some s.readerLastDrain
  | .finalize => some s.readerFinalize
  | .parked => if s.expired then some { s with reader := .finalize } else none
  | .flushing _ _ | .finished => none

/-! ### The command task -/

/-- Some owner of `Shared`, and with it a sender of the command channel, is alive: the resource,
the reader task, the command task's own `Proto`, the feeder or a feeder still in the channel. -/
def cmdSenderLive (s : State T) : Bool :=
  !s.dropped || s.reader != .finished || s.cmd != .exited ||
    (s.feeder != .idle && s.feeder != .ended) || s.shared.cmds.contains .claimStream

/-- Await a flush if there is one, then go on at `next`. -/
def cmdGoes (s : State T) (flush : Bool) (next : CmdNext) : State T :=
  { s with cmd := if flush then .flushing .lock next else next.pc }

/-- A `Cmd::Send` in phase 1. -/
def cmdSend (s : State T) (id : Nat) (message : Message) : State T :=
  if s.flags.wireClosing || s.flags.writeDead then s.reply id (.error .closed)
  else
    match s.webSocketSend id message with
    | (.ok (), s) => s.cmdGoes true (.reply id)
    | (.error err, s) => s.reply id (.error (mapWriteErr err))

/-- One command in phase 1. -/
def cmdLive (s : State T) : Cmd → State T
  | .send id message => s.cmdSend id message
  | .close code reason =>
    let closing := s.beginClose (closeFrameOf code reason)
    closing.2.cmdGoes closing.1 .live
  | .claimStream => { s with feeder := .lock }

/-- One command in phase 2. -/
def cmdDrained (s : State T) : Cmd → State T
  | .send id _ => s.reply id (.error .closed)
  | .close _ _ => s
  | .claimStream => { s with feeder := .lock }

/-- Take the rest of the command channel. -/
def popCmd (s : State T) (rest : List Cmd) : State T :=
  { s with shared := { s.shared with cmds := rest } }

/-- What the command task does without waiting for anyone. -/
def cmdStep (s : State T) : Option (State T) :=
  match s.cmd with
  | .live =>
    if s.flags.pumpDone then some { s with cmd := .drained }
    else
      match s.shared.cmds with
      | cmd :: rest => some ((s.popCmd rest).cmdLive cmd)
      | [] =>
        if s.cmdSenderLive then none
        else
          let closing := s.beginClose none
          some (closing.2.cmdGoes closing.1 .exit)
  | .drained =>
    match s.shared.cmds with
    | cmd :: rest => some ((s.popCmd rest).cmdDrained cmd)
    | [] => if s.cmdSenderLive then none else some { s with cmd := .exited }
  | .flushing _ _ | .exited => none

/-! ### The resource methods -/

/-- Send a command to the pump; the channel is closed once the command task has exited. -/
def pushCmd (s : State T) (cmd : Cmd) : State T :=
  { s with shared := { s.shared with cmds := s.shared.cmds ++ [cmd] } }

/-- `Websocket::send`, up to the await of its acknowledgement. -/
def callSend (s : State T) (message : Message) : State T :=
  let id := s.nextId
  let s := { s with
    nextId := id + 1
    hist := { s.hist with sends := s.hist.sends ++ [(id, message)] } }
  if s.shared.localClosed || s.cmd == .exited then s.reply id (.error .closed)
  else s.pushCmd (.send id message)

/-- `Websocket::receive`, up to the await of the queue lock. -/
def callReceive (s : State T) : State T :=
  let id := s.nextId
  let s := { s with nextId := id + 1 }
  if s.shared.localClosed then s.resolveReceive id (.error .closed)
  else if s.shared.streamClaimed then s.resolveReceive id (.error .receivingViaStream)
  else { s with receives := s.receives ++ [id] }

/-- `Websocket::receive_via_stream`. -/
def callReceiveViaStream (s : State T) : State T :=
  if s.shared.localClosed || s.shared.streamClaimed then s
  else
    let s := { s with shared := { s.shared with streamClaimed := true, streamStarted := true } }
    if s.cmd == .exited then s else s.pushCmd .claimStream

/-- `Websocket::close`. -/
def callClose (s : State T) (code : Option UInt16) (reason : String) : State T :=
  match validateCloseArgs code reason with
  | .error _ => s
  | .ok () =>
    if s.shared.localClosed then s
    else
      let call : CloseCall :=
        { frame := closeFrameOf code reason
          fresh := s.peerFrame.isNone && !s.shared.budget.overflowed && !s.flags.writeDead }
      let s := s.advance .closing
      let s := { s with
        shared := { s.shared with localClosed := true }
        hist := { s.hist with closeCall := s.hist.closeCall.or (some call) } }
      if s.cmd == .exited then s else s.pushCmd (.close code reason)

/-- Dropping the resource implies `close(none, "")`. -/
def callDrop (s : State T) : State T :=
  { s.callClose none "" with dropped := true }

/-! ### Receive calls and the feeder -/

/-- A message leaves the inbound queue: its budget is released. -/
def takeMessage (s : State T) (message : Message) : State T :=
  { s with
    shared := { s.shared with budget := s.shared.budget.release message.payloadLen }
    hist := { s.hist with taken := s.hist.taken ++ [message] } }

/-- `Shared::map_queue_end`: backlog first; a drained queue reports overflow over closed. -/
def mapQueueEnd (s : State T) : Option Message → Except Error Message × State T
  | some message => (.ok message, s.takeMessage message)
  | none => (.error (if s.shared.budget.overflowed then .receiveBufferOverflow else .closed), s)

/-- The biased select of a `receive` call that has the queue lock: the stream claim, a local close,
the next message.  Resolving drops the lock. -/
def receiveSelect (s : State T) (id : Nat) : State T :=
  let unlock (s : State T) : State T := { s with shared := { s.shared with queueLock := none } }
  if s.shared.streamStarted then unlock (s.resolveReceive id (.error .receivingViaStream))
  else if s.shared.localClosed then unlock (s.resolveReceive id (.error .closed))
  else
    match s.shared.queue.pollArm with
    | (.ready item, queue) =>
      let mapped := ({ s with shared := { s.shared with queue := queue } }).mapQueueEnd item
      unlock (mapped.2.resolveReceive id mapped.1)
    | (.pending, queue) =>
      { s with shared := { s.shared with queue := queue, queueLock := some (.receive id) } }

/-- One poll of the pending `receive` call `id`: with the lock, or with the lock free to take. -/
def pollReceive (s : State T) (id : Nat) : Option (State T) :=
  if s.shared.queueLock = some (.receive id) then some (s.receiveSelect id)
  else if s.shared.queueLock = none ∧ id ∈ s.receives then
    some ({ s with receives := s.receives.erase id }.receiveSelect id)
  else none

/-- The feeder is done: its writers and the queue lock drop. -/
def endFeeder (s : State T) : State T :=
  { s with feeder := .ended, shared := { s.shared with queueLock := none } }

/-- The feeder's select: a local close, the next message. -/
def feederSelect (s : State T) : Option (State T) :=
  if s.shared.localClosed then some s.endFeeder
  else
    match s.shared.queue.pollArm with
    | (.ready (some message), queue) =>
      some { ({ s with shared := { s.shared with queue := queue } }).takeMessage message with
        feeder := .element message }
    | (.ready none, queue) => some ({ s with shared := { s.shared with queue := queue } }).endFeeder
    | (.pending, _) => none

end State

/-! ### The transition system -/

/-- The moves of a connection. -/
inductive Action
  | send (message : Message)
  | receive
  | receiveViaStream
  | close (code : Option UInt16) (reason : String)
  | drop
  /-- One poll of a pending `receive` call. -/
  | pollReceive (id : Nat)
  /-- What a task does without waiting for anyone. -/
  | reader
  | cmd
  /-- A flush takes the free write lock. -/
  | lock (t : Task)
  /-- A flush sees its write complete. -/
  | writeDone (t : Task)
  /-- A flush sees the bound of its write resolve. -/
  | writeBound (t : Task)
  /-- The wit outbound stream accepts bytes of the pending write. -/
  | accept (n : Nat)
  /-- The wit outbound stream drops its end: the pending write fails. -/
  | refuse
  /-- The wit inbound stream hands over a chunk that completes these frames. -/
  | chunk (frames : List Inbound)
  /-- The wit inbound stream ended. -/
  | transportEnd
  | feederLock
  | feederNext
  /-- The stream consumer takes the element, or drops the stream. -/
  | elementTaken
  | streamDropped
  /-- The consumer takes payload bytes, or drops the payload stream. -/
  | payloadTaken (n : Nat)
  | payloadDone
  | payloadDropped
  | tick (dt : Nat)
  deriving DecidableEq, Repr

/-- A guest call needs the resource. -/
def guestCall (s : State T) (s' : State T) : Option (State T) :=
  if s.dropped then none else some s'

/-- The state after an action, if the action is possible. -/
def step (s : State T) : Action → Option (State T)
  | .send message => guestCall s (s.callSend message)
  | .receive => guestCall s s.callReceive
  | .receiveViaStream => guestCall s s.callReceiveViaStream
  | .close code reason => guestCall s (s.callClose code reason)
  | .drop => guestCall s s.callDrop
  | .pollReceive id => s.pollReceive id
  | .reader => s.readerStep
  | .cmd => s.cmdStep
  | .lock t =>
    if s.writeLock = none ∧ s.flush t = some .lock then some (s.flushLocked t) else none
  | .writeDone t =>
    match s.flush t with
    | some (.write [] _) => some (s.releaseLock.resume t (.ok ()))
    | _ => none
  | .writeBound t =>
    match s.flush t with
    | some (.write (byte :: rest) .localClose) =>
      if s.shared.localClosed then
        some (s.armDeadline.setFlush t (.write (byte :: rest) .deadline))
      else none
    | some (.write (_ :: _) .deadline) => if s.expired then some (s.failWrite t) else none
    | _ => none
  | .accept n =>
    match s.writeLock with
    | some t =>
      match s.flush t with
      | some (.write rest bound) =>
        some ((s.acceptBytes (rest.take n)).setFlush t (.write (rest.drop n) bound))
      | _ => none
    | none => none
  | .refuse =>
    match s.writeLock with
    | some t =>
      match s.flush t with
      | some (.write (_ :: _) _) => some (s.failWrite t)
      | _ => none
    | none => none
  | .chunk frames =>
    if s.reader = .parked ∧ s.expired = false then
      some { s with io := s.io.feed frames, reader := .drain }
    else none
  | .transportEnd =>
    if s.reader = .parked ∧ s.expired = false then
      some { s with io := s.io.setEof, reader := .lastDrain }
    else none
  | .feederLock =>
    if s.feeder = .lock ∧ s.shared.queueLock = none then
      some { s with feeder := .next, shared := { s.shared with queueLock := some .feeder } }
    else none
  | .feederNext => if s.feeder = .next then s.feederSelect else none
  | .elementTaken =>
    match s.feeder with
    | .element message =>
      some { s with
        feeder := .payload message.payload
        hist := { s.hist with elements := s.hist.elements ++ [message] } }
    | _ => none
  | .streamDropped =>
    match s.feeder with
    | .element _ => some s.endFeeder
    | _ => none
  | .payloadTaken n =>
    match s.feeder with
    | .payload rest =>
      some { s with
        feeder := .payload (rest.drop n)
        hist := { s.hist with payload := s.hist.payload ++ rest.take n } }
    | _ => none
  | .payloadDone =>
    match s.feeder with
    | .payload [] => some { s with feeder := .next }
    | _ => none
  | .payloadDropped =>
    match s.feeder with
    | .payload (_ :: _) => some s.endFeeder
    | _ => none
  | .tick dt => some { s with now := s.now + dt }

/-- The connections of the guest provider over a tungstenite: whatever the handshake has left in the
virtual transport, the stream has not ended and no reply waits. -/
def system (T : Tungstenite) : Transition.System (State T) Action where
  init s := ∃ (config : Config) (ws : T.Ctx) (io : Buffers Inbound) (now : Nat),
    T.queued ws = [] ∧ io.eof = false ∧ s = State.start config ws io now
  step := step

end Polymorph.Provider
