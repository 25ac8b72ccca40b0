import PolymorphWebsocket.Host.State
import PolymorphWebsocket.Transition.System

/-!
# The wasmtime host: the pump and the resource methods

`Pump::run` and the methods it calls, `Websocket::close` and `SendHandle::send`, as a transition
system over `State`.  An action is a guest call or the rest of one, one step of the pump between
two of its suspension points, one resolution of a bounded write, or a move of the readers, the
transport or the clock.

A bounded write hands its frame over and completes in two actions, since the sink accepts a frame
only once it is ready, and completes it with the flush that follows.
-/

namespace Polymorph.Host

open Futures

namespace State

/-! ### Small updates -/

/-- The pump goes on at another point. -/
def setPc (s : State) (pc : Pc) : State := { s with pump := { s.pump with pc := pc } }

/-- `shared.state.advance(next)`. -/
def advance (s : State) (next : WsState) : State :=
  { s with shared := { s.shared with state := s.shared.state.advance next } }

/-- A connection's pump arms its deadline without a panic. -/
theorem isSome_armDeadline (s : State) :
    (Host.armDeadline s.largest s.pump.deadline s.now s.pump.closeTimeout).isSome = true := by
  rw [armDeadline_of_le s.reaches]
  rfl

/-- The deadline after `arm_deadline`. -/
def armed (s : State) : Option Nat :=
  (Host.armDeadline s.largest s.pump.deadline s.now s.pump.closeTimeout).get s.isSome_armDeadline

/-- The deadline that is armed. -/
theorem armed_eq (s : State) :
    s.armed = s.pump.deadline.or (some (s.now + s.pump.closeTimeout.asNanos)) :=
  Option.get_of_eq_some _ (armDeadline_of_le s.reaches)

/-- An armed deadline stays. -/
theorem armed_of_isSome {s : State} (h : s.pump.deadline.isSome = true) :
    s.armed = s.pump.deadline := by
  rw [s.armed_eq]
  exact Option.or_of_isSome h

/-- Once armed, the deadline is there. -/
@[simp] theorem isSome_armed (s : State) : s.armed.isSome = true := by
  rw [s.armed_eq]
  cases s.pump.deadline <;> rfl

/-- `arm_deadline`. -/
def armDeadline (s : State) : State :=
  { s with
    pump := { s.pump with deadline := s.armed }
    reaches := fun hnone => absurd hnone (Option.isSome_iff_ne_none.mp s.isSome_armed) }

/-- `wire_closing = true`. -/
def setWireClosing (s : State) : State := { s with pump := { s.pump with wireClosing := true } }

/-- `write_dead = true`. -/
def setWriteDead (s : State) : State := { s with pump := { s.pump with writeDead := true } }

/-- Answer the `send` call `id`. -/
def reply (s : State) (id : Nat) (result : Except Error Unit) : State :=
  { s with hist := { s.hist with replies := s.hist.replies ++ [(id, result)] } }

/-- The armed deadline has passed. -/
def expired (s : State) : Bool := s.pump.deadline.any (· ≤ s.now)

/-- Change the inbound budget. -/
def setBudget (s : State) (budget : InboundBudget) : State :=
  { s with shared := { s.shared with budget := budget } }

/-! ### `Pump::bounded_write` -/

/-- A bounded write has returned. -/
def goes (s : State) (result : Except Error Unit) : Next → State
  | .reply id => (s.reply id result).setPc (.select .cmd)
  | .loop => s.setPc (.select .cmd)
  | .leave => s.setPc (.finalize .closeInfo)

/-- `bounded_write`, up to the await of its write. -/
def boundedWrite (s : State) (write : Write) (next : Next) : State :=
  if s.pump.writeDead then s.goes (.error .closed) next
  else s.setPc (.writing write
    (if s.pump.deadline.isSome then .deadline else .localClose) next)

/-- The write completed with an error, or its bound resolved first: the write half is dead. -/
def failWrite (s : State) (err : Error) (next : Next) : State :=
  s.setWriteDead.armDeadline.goes (.error err) next

/-! ### `Pump::begin_close` and `Pump::deliver` -/

/-- The closing handshake begins: arm the deadline first. -/
def closing (s : State) (frame : Option CloseFrame) : State :=
  ({ s.setWireClosing with
    hist := { s.hist with closeFrames := s.hist.closeFrames ++ [frame] } }.advance
      .closing).armDeadline

/-- `begin_close(frame)`, up to the await of its write. -/
def beginClose (s : State) (frame : Option CloseFrame) (next : Next) : State :=
  if s.pump.wireClosing then s.goes (.ok ()) next
  else (s.closing frame).boundedWrite (.send (.close frame) false) next

/-- `deliver(message)`, up to the check of its reservation. -/
def deliver (s : State) (message : Message) : State :=
  if s.pump.wireClosing then s.setPc (.select .cmd)
  else if s.shared.budget.fits message.payloadLen then s.setPc (.reserved message)
  else (s.setBudget s.shared.budget.latchOverflow).beginClose none .loop

/-! ### `Pump::run` -/

/-- Poll one arm of the select. -/
def pollArm (s : State) : Arm → State
  | .cmd =>
    if s.pump.cmdsDone then s.setPc (.select .read)
    else
      match s.shared.cmds with
      | cmd :: rest =>
        { s with shared := { s.shared with cmds := rest } }.setPc (.resolved (.cmd (some cmd)))
      | [] =>
        if s.shared.sendersGone then s.setPc (.resolved (.cmd none))
        else s.setPc (.select .read)
  | .read =>
    match s.inbound with
    | outcome :: rest => { s with inbound := rest }.setPc (.resolved (.read outcome))
    | [] => s.setPc (.select .deadline)
  | .deadline => s.setPc (if s.expired then .resolved .deadline else .select .cmd)

/-- The command arm. -/
def onCmd (s : State) : Option Cmd → State
  | some (.send id message) =>
    if s.pump.wireClosing || s.pump.writeDead then s.goes (.error .closed) (.reply id)
    else s.boundedWrite (.send (.data id message) false) (.reply id)
  | some (.close code reason) => s.beginClose (closeFrameOf code reason) .loop
  | none => { s with pump := { s.pump with cmdsDone := true } }.beginClose none .loop

/-- Record the peer's close frame, the first one only; the connection is closing from here on. -/
def notePeerFrame (s : State) (frame : Option CloseFrame) : State :=
  ({ s with pump := { s.pump with
    peerFrame := s.pump.peerFrame.or (some (closeInfoFrom frame)) } }.advance .closing).armDeadline

/-- The read arm. -/
def onRead (s : State) : Inbound → State
  | .text text => s.deliver (.string text)
  | .binary bytes => s.deliver (.binary bytes)
  | .close frame =>
    let noted := s.notePeerFrame frame
    if s.pump.wireClosing then noted.setPc (.select .cmd)
    else noted.setWireClosing.boundedWrite .flush .loop
  | .ping _ => s.boundedWrite .flush .loop
  | .pong _ | .frame => s.setPc (.select .cmd)
  | .capacity => (s.setBudget s.shared.budget.latchOverflow).beginClose none .leave
  | .connectionClosed | .error => s.setPc (.finalize .closeInfo)

/-- The body of the arm the select resolved to. -/
def onResolved (s : State) : Resolution → State
  | .cmd cmd => s.onCmd cmd
  | .read outcome => s.onRead outcome
  | .deadline => s.setPc (.finalize .closeInfo)

/-- One step of the finalization: publish the close outcome, end the inbound queue, fail the queued
sends, fire the closed signal. -/
def finalizeStep (s : State) : Finalize → State
  | .closeInfo =>
    { s with shared := { s.shared with closeInfo := some s.pump.peerFrame } }.setPc
      (.finalize .endQueue)
  | .endQueue =>
    { s with shared := { s.shared with queue := s.shared.queue.dropSender } }.setPc
      (.finalize .closeCmds)
  | .closeCmds =>
    { s with shared := { s.shared with cmdsClosed := true } }.setPc (.finalize .drainCmds)
  | .drainCmds =>
    match s.shared.cmds with
    | .send id _ :: rest =>
      { s with shared := { s.shared with cmds := rest } }.reply id (.error .closed)
    | .close _ _ :: rest => { s with shared := { s.shared with cmds := rest } }
    | [] => s.setPc (.finalize .closing)
  | .closing => (s.advance .closing).setPc (.finalize .closed)
  | .closed => (s.advance .closed).setPc (.finalize .fire)
  | .fire => { s with shared := { s.shared with closed := true } }.setPc .done

/-- One step of the pump between two suspension points; a bounded write resolves by its own
actions. -/
def poll (s : State) : Option State :=
  match s.pump.pc with
  | .select arm => some (s.pollArm arm)
  | .resolved r => some (s.onResolved r)
  | .reserved message =>
    some ((s.setBudget (s.shared.budget.fetchAdd wordBits message.payloadLen)).setPc
      (.counted message))
  | .counted message =>
    some ({ s with shared := { s.shared with queue := s.shared.queue.push message } }.setPc
      (.select .cmd))
  | .writing _ _ _ => none
  | .finalize stage => some (s.finalizeStep stage)
  | .done => none

/-- The `WebSocketStream` accepts the frame of the pending write. -/
def hand (s : State) : Option State :=
  match s.pump.pc with
  | .writing (.send frame false) bound next =>
    some ({ s with hist := { s.hist with handed := s.hist.handed ++ [frame] } }.setPc
      (.writing (.send frame true) bound next))
  | _ => none

/-- Record that the write of a `send` call completed. -/
def noteCompleted (s : State) : Write → State
  | .send (.data id _) _ =>
    { s with hist := { s.hist with completed := s.hist.completed ++ [id] } }
  | .send (.close _) _ | .flush => s

/-- The pending write completed. -/
def written (s : State) : Option State :=
  match s.pump.pc with
  | .writing (.send _ false) _ _ => none
  | .writing write _ next => some ((s.noteCompleted write).goes (.ok ()) next)
  | _ => none

/-- The pending write failed. -/
def writeFailed (s : State) (err : TungsteniteError) : Option State :=
  match s.pump.pc with
  | .writing _ _ next => some (s.failWrite (mapWriteErr err) next)
  | _ => none

/-- The bound of the pending write resolved: a close was requested mid-write, which arms the
deadline for the rest of the write, or the deadline passed. -/
def writeBound (s : State) : Option State :=
  match s.pump.pc with
  | .writing write .localClose next =>
    if s.shared.localClosed then some (s.armDeadline.setPc (.writing write .deadline next)) else none
  | .writing _ .deadline next => if s.expired then some (s.failWrite .closed next) else none
  | _ => none

/-! ### The resource methods -/

/-- `SendHandle::send`, up to its use of the channel. -/
def callSend (s : State) (message : Message) : State :=
  let id := s.calls.nextId
  let s := { s with calls := { s.calls with nextId := id + 1 } }
  if s.shared.localClosed then s.reply id (.error .closed)
  else { s with calls := { s.calls with checked := s.calls.checked ++ [(id, message)] } }

/-- The rest of `SendHandle::send`: a channel that is closed refuses the command. -/
def enqueue (s : State) (id : Nat) (message : Message) : State :=
  let s := { s with calls := { s.calls with checked := s.calls.checked.erase (id, message) } }
  if s.shared.cmdsClosed then s.reply id (.error .closed)
  else { s with
    shared := { s.shared with cmds := s.shared.cmds ++ [.send id message] }
    hist := { s.hist with enqueued := s.hist.enqueued ++ [(id, message)] } }

/-- `Websocket::close`, up to its use of the channel. -/
def callClose (s : State) (code : Option UInt16) (reason : String) : State :=
  match validateCloseArgs code reason with
  | .error _ => s
  | .ok () =>
    if s.shared.localClosed then s
    else
      let call : CloseCall :=
        { frame := closeFrameOf code reason
          fresh := s.pump.peerFrame.isNone && !s.shared.budget.overflowed && !s.pump.writeDead }
      let s := s.advance .closing
      { s with
        shared := { s.shared with localClosed := true }
        calls := { s.calls with closing := some (code, reason) }
        hist := { s.hist with closeCall := s.hist.closeCall.or (some call) } }

/-- The rest of `Websocket::close`: a channel that is closed drops the command. -/
def enqueueClose (s : State) (code : Option UInt16) (reason : String) : State :=
  let s := { s with calls := { s.calls with closing := none } }
  if s.shared.cmdsClosed then s
  else { s with shared := { s.shared with cmds := s.shared.cmds ++ [.close code reason] } }

/-- Dropping the resource implies `close(none, "")`. -/
def callDrop (s : State) : State :=
  let closed := s.callClose none ""
  { closed with calls := { closed.calls with dropped := true } }

/-! ### The clock -/

/-- Time passes; with no deadline armed, for as long as there is an instant to arm. -/
def tick (s : State) (dt : Nat) : Option State :=
  if hreaches : s.pump.deadline = none → s.now + dt + s.pump.closeTimeout.asNanos ≤ s.largest then
    some { s with now := s.now + dt, reaches := hreaches }
  else none

/-- When time passes, nothing else does. -/
theorem eq_of_tick {s s' : State} {dt : Nat} (h : s.tick dt = some s') :
    ∃ hreaches : s.pump.deadline = none → s.now + dt + s.pump.closeTimeout.asNanos ≤ s.largest,
      s' = { s with now := s.now + dt, reaches := hreaches } := by
  unfold tick at h
  split at h
  · exact ⟨_, (Option.some.inj h).symm⟩
  · cases h

end State

/-! ### The transition system -/

/-- The moves of a connection. -/
inductive Action
  | send (message : Message)
  | enqueue (id : Nat) (message : Message)
  | close (code : Option UInt16) (reason : String)
  | enqueueClose
  | drop
  /-- The last sender of the command channel drops. -/
  | dropSenders
  /-- A reader takes the next message from the inbound queue. -/
  | take
  /-- The reader releases the message's bytes from the budget. -/
  | release
  | poll
  | hand
  | written
  | writeFailed (err : TungsteniteError)
  | writeBound
  /-- Outcomes of `ws.next()` arrive. -/
  | arrive (outcomes : List Inbound)
  | tick (dt : Nat)
  deriving DecidableEq, Repr

/-- A guest call needs the resource. -/
def guestCall (s s' : State) : Option State :=
  if s.calls.dropped then none else some s'

/-- A guest call is made on a live resource. -/
theorem guestCall_eq_some {s t s' : State} :
    guestCall s t = some s' ↔ s.calls.dropped = false ∧ t = s' := by
  unfold guestCall
  cases s.calls.dropped <;> simp

/-- The state after an action, if the action is possible. -/
def step (s : State) : Action → Option State
  | .send message => guestCall s (s.callSend message)
  | .enqueue id message =>
    if (id, message) ∈ s.calls.checked then some (s.enqueue id message) else none
  | .close code reason => guestCall s (s.callClose code reason)
  | .enqueueClose =>
    match s.calls.closing with
    | some (code, reason) => some (s.enqueueClose code reason)
    | none => none
  | .drop => guestCall s s.callDrop
  | .dropSenders =>
    if s.calls.dropped = true ∧ s.calls.checked = [] ∧ s.calls.closing = none then
      some { s with shared := { s.shared with sendersGone := true } }
    else none
  | .take =>
    match s.calls.unreleased, s.shared.queue.pollNext with
    | none, (.ready (some message), queue) =>
      some { s with
        shared := { s.shared with queue := queue }
        calls := { s.calls with unreleased := some message } }
    | _, _ => none
  | .release =>
    match s.calls.unreleased with
    | some message =>
      some ({ s with calls := { s.calls with unreleased := none } }.setBudget
        (s.shared.budget.fetchSub wordBits message.payloadLen))
    | none => none
  | .poll => s.poll
  | .hand => s.hand
  | .written => s.written
  | .writeFailed err => s.writeFailed err
  | .writeBound => s.writeBound
  | .arrive outcomes => some { s with inbound := s.inbound ++ outcomes }
  | .tick dt => s.tick dt

/-- The connections of the wasmtime host: any close timeout, any buffer limit that is a machine
word, any clock on which the timeout can be kept. -/
def system : Transition.System State Action where
  init s := ∃ (closeTimeout : Duration) (limit now largest : Nat)
    (hreaches : now + closeTimeout.asNanos ≤ largest), limit < wordSize ∧
      s = State.start closeTimeout limit now largest hreaches
  step := step

/-- A new connection with a close timeout of ten nanoseconds. -/
def connection (limit : Nat) : State := .start ⟨0, 10, by decide⟩ limit 0 1000 (by decide)

theorem init_connection {limit : Nat} (hlimit : limit < wordSize) :
    system.init (connection limit) :=
  ⟨⟨0, 10, by decide⟩, limit, 0, 1000, by decide, hlimit, rfl⟩

/-- A run from the start of a connection ends in a reachable state. -/
theorem reachable_of_run {limit : Nat} (hlimit : limit < wordSize) {actions : List Action}
    {s : State} (h : system.run (connection limit) actions = some s) : system.Reachable s :=
  Transition.System.Reachable.run (.of_init (init_connection hlimit)) h

end Polymorph.Host
