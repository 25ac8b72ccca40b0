import PolymorphWebsocket.Js.State
import PolymorphWebsocket.Transition.System

/-!
# The JavaScript host: the resource

The methods of `Websocket`, the listeners its constructor and its queue register, and the source of
its stream, as a transition system over `State`.  An action is a guest call, one promise reaction of
the stream, one event of the platform (cut where a second listener follows), the firing of a timer,
or the passing of time.  The platform moves on only when no reaction of the stream is due.
-/

namespace Polymorph.Js

open Web

/-- `validateCloseArgs`: the checks of the Rust implementations, in their order and with their
texts. -/
def validateCloseArgs (code : Option UInt16) (reason : String) : Except Error Unit :=
  Polymorph.validateCloseArgs code reason

namespace State

/-! ### Answers of the queue -/

/-- Settle the promise of one `incoming.next()`: a receive call sees it, `pull` goes on with it. -/
def answer (s : State) (waiter : Waiter) (result : Except Error Message) : State :=
  match waiter with
  | .receive id => { s with hist := { s.hist with received := s.hist.received ++ [(id, result)] } }
  | .pull =>
    let pc : PullPc :=
      match result with
      | .ok message => .resolved message
      | .error _ => .rejected
    { s with stream := s.stream.map fun stream => { stream with pull := pc } }

/-- Settle the promises an operation of the queue answers, in order. -/
def answerAll (s : State) (answers : Answers) : State :=
  answers.foldl (fun s a => s.answer a.1 a.2) s

/-- An operation of the queue, with its answers. -/
def withQueue (s : State) (result : Answers × IncomingQueue) : State :=
  { s with incoming := result.2 }.answerAll result.1

/-- `incoming.next()`. -/
def next (s : State) (waiter : Waiter) : State :=
  match s.incoming.next waiter with
  | (some result, queue) => { s with incoming := queue }.answer waiter result
  | (none, queue) => { s with incoming := queue }

/-! ### Timers -/

/-- `setTimeout(() => this.#settleClosed(null), closeTimeoutMs)`, its handle kept. -/
def armCloseDeadline (s : State) : State :=
  { s with
    nextId := s.nextId + 1
    timers := s.timers ++ [{ handle := s.nextId, due := s.now + s.knobs.closeTimeoutMs }]
    closeDeadline := some s.nextId }

/-- `#transportClosing`. -/
def transportClosing (s : State) : State :=
  if !s.closeSettled && s.closeDeadline.isNone then s.armCloseDeadline else s

/-! ### Settlement -/

/-- The close codes the platform synthesizes: no close frame carried them. -/
def synthesized (code : UInt16) : Bool := code == 0 || code == 1006 || code == 1015

/-- The outcome a close event settles; without an event there is none. -/
def closeOutcome (event : Option (UInt16 × String)) : Option CloseInfo :=
  match event with
  | some (code, reason) =>
    if synthesized code then none else some { code := code, reason := reason }
  | none => none

/-- `#settleClosed`. -/
def settleClosed (s : State) (event : Option (UInt16 × String)) : State :=
  if s.closeSettled then s
  else
    let s := { s with
      closeSettled := true
      timers := s.timers.filter fun timer => s.closeDeadline != some timer.handle
      closeDeadline := none }
    let s := s.withQueue s.incoming.endQueue
    let info := closeOutcome event
    { s with
      closeInfo := info
      closeWaiters := []
      hist := { s.hist with closes := s.hist.closes ++ s.closeWaiters.map fun id => (id, info) } }

/-! ### The methods of the resource -/

/-- `receive`. -/
def receive (s : State) : State :=
  let id := s.nextId
  let s := { s with nextId := id + 1 }
  if s.localClosed then s.answer (.receive id) (.error .closed)
  else if s.streamClaimed then s.answer (.receive id) (.error .receivingViaStream)
  else s.next (.receive id)

/-- `receiveViaStream`; a call that throws changes nothing. -/
def receiveViaStream (s : State) : State :=
  if s.localClosed || s.streamClaimed then s
  else
    let s := { s with streamClaimed := true }
    let s := s.withQueue (s.incoming.rejectWaiters .receivingViaStream)
    { s with stream := some .new }

/-- `state`, that is `#currentState`. -/
def currentState (s : State) : WsState :=
  if s.closeSettled then .closed
  else if s.localClosed then .closing
  else
    match s.socket.readyState with
    | .closing => .closing
    | .closed => .closed
    | .open => .open

/-- A call of `state`. -/
def callState (s : State) : State :=
  { s with hist := { s.hist with
      states := s.hist.states ++ [s.currentState]
      sawClosed := s.hist.sawClosed || s.socket.readyState == .closed } }

/-- `waitClosed`. -/
def waitClosed (s : State) : State :=
  let id := s.nextId
  let s := { s with nextId := id + 1 }
  if s.closeSettled then
    { s with hist := { s.hist with closes := s.hist.closes ++ [(id, s.closeInfo)] } }
  else { s with closeWaiters := s.closeWaiters ++ [id] }

/-- `ws.close(..)`; after the validation it does not throw. -/
def closeSocket (s : State) (frame : Option CloseFrame) : State :=
  { s with
    socket := s.socket.close
    hist := { s.hist with closeCalls := s.hist.closeCalls ++ [frame] } }

/-- The first accepted call of `close`. -/
def localClose (s : State) (frame : Option CloseFrame) : State :=
  let s := { s with localClosed := true }
  let s := s.withQueue s.incoming.discard
  s.armCloseDeadline.closeSocket frame

/-- `close`. -/
def close (s : State) (code : Option UInt16) (reason : String) : Except Error Unit × State :=
  match validateCloseArgs code reason with
  | .error err => (.error err, s)
  | .ok () => (.ok (), if s.localClosed then s else s.localClose (closeFrameOf code reason))

/-- `[Symbol.dispose]`: a drop implies `close(none, "")`. -/
def dispose (s : State) : State := { (s.close none "").2 with disposed := true }

/-! ### The listeners -/

/-- The `message` listener. -/
def onMessage (s : State) (message : Message) : State :=
  let size := message.payloadLen
  if s.incoming.overflowed then s
  else if s.incoming.overflows size then
    ({ s with incoming := { s.incoming with overflowed := true } }.closeSocket none).transportClosing
  else s.withQueue (s.incoming.push message size)

/-- The queue's `close` and `error` listener. -/
def onEnd (s : State) : State := s.withQueue s.incoming.endQueue

/-! ### The source of the stream -/

/-- What an operation of the stream does outside of it: answer reads, and call `pull`, which runs up
to its `await` of `incoming.next()`. -/
def withStream (s : State) (pull : PullPc) (o : Outcome StreamMessage) : State :=
  let s := { s with
    stream := some { readable := o.stream, pull := if o.pulls then .waiting else pull }
    hist := { s.hist with reads := s.hist.reads ++ o.answers } }
  if o.pulls then s.next .pull else s

/-- One promise reaction of the stream: `start` or `pull` has been fulfilled, or `pull` goes on. -/
def react (s : State) (stream : Stream) : Option State :=
  match stream.pull with
  | .starting => some (s.withStream .idle stream.readable.start)
  | .resolved message =>
    some (s.withStream .returned (stream.readable.enqueue (.ofMessage message)))
  | .rejected => some (s.withStream .returned stream.readable.close)
  | .returned => some (s.withStream .idle stream.readable.pullFulfilled)
  | .idle | .waiting => none

/-- The consumer reads from the stream. -/
def read (s : State) (stream : Stream) : State :=
  let id := s.nextId
  { s with nextId := id + 1 }.withStream stream.pull (stream.readable.read id)

/-- A promise reaction of the stream is due. -/
def reactionDue (s : State) : Bool := s.stream.any fun stream => stream.pull.due

end State

/-! ### The transition system -/

/-- The moves of a connection. -/
inductive Action
  | receive
  | receiveViaStream
  | state
  | waitClosed
  | close (code : Option UInt16) (reason : String)
  | dispose
  /-- The embedder sets the knobs of the module. -/
  | configure (knobs : Knobs)
  /-- The consumer reads from the stream. -/
  | read
  /-- One promise reaction of the stream. -/
  | react
  /-- The platform delivers a message. -/
  | message (message : Message)
  /-- The peer starts the closing handshake. -/
  | peerClosing
  /-- The connection is closed: `readyState` becomes CLOSED. -/
  | transportClosed
  | errorEvent
  /-- The close event: its first listener. -/
  | closeEvent (code : UInt16) (reason : String)
  /-- The close event: its second listener. -/
  | closeSettles
  | timer (handle : Nat)
  | tick (dt : Nat)

/-- A guest call needs the resource. -/
def guestCall (s s' : State) : Option State := if s.disposed then none else some s'

/-- An event of the platform waits for the promise reactions before it. -/
def platformEvent (s : State) (enabled : Prop) [Decidable enabled] (s' : State) : Option State :=
  if s.reactionDue = false ∧ enabled then some s' else none

/-- The state after an action, if the action is possible. -/
def step (s : State) : Action → Option State
  | .receive => guestCall s s.receive
  | .receiveViaStream => guestCall s s.receiveViaStream
  | .state => guestCall s s.callState
  | .waitClosed => guestCall s s.waitClosed
  | .close code reason => guestCall s (s.close code reason).2
  | .dispose => guestCall s s.dispose
  | .configure knobs => some { s with knobs := knobs }
  | .read => s.stream.map fun stream => s.read stream
  | .react => s.stream.bind s.react
  | .message message =>
    platformEvent s (s.socket = .open ∨ s.socket = .closing) (s.onMessage message)
  | .peerClosing => platformEvent s (s.socket = .open) { s with socket := .closing }
  | .transportClosed =>
    platformEvent s (s.socket = .open ∨ s.socket = .closing) { s with socket := .closed false }
  | .errorEvent =>
    platformEvent s (s.socket = .closed false) { s.onEnd with socket := .closed true }
  | .closeEvent code reason =>
    platformEvent s (∃ fired, s.socket = .closed fired)
      { s.onEnd with socket := .dispatching code reason }
  | .closeSettles =>
    match s.socket with
    | .dispatching code reason =>
      platformEvent s True { s.settleClosed (some (code, reason)) with socket := .done }
    | _ => none
  | .timer handle =>
    platformEvent s (∃ timer ∈ s.timers, timer.handle = handle ∧ timer.due ≤ s.now)
      ({ s with timers := s.timers.filter fun timer => timer.handle != handle }.settleClosed none)
  | .tick dt => some { s with now := s.now + dt }

/-- The connections of the JavaScript host. -/
def system : Transition.System State Action where
  init s := ∃ (knobs : Knobs) (now : Nat), s = State.start knobs now
  step := step

end Polymorph.Js
