import PolymorphWebsocket.Js.Connect
import PolymorphWebsocket.Js.SendViaStream
import PolymorphWebsocket.Transition.Erasure

/-!
# The JavaScript host: the knobs of the module

A connection from the call of `connect` on, with every operation of its resource, beside the embedder
who sets the knobs.  The bound of the handshake is armed in the call itself; its timer has the knob of
the moment in its text, the inbound bound is read after the handshake, and the bound of the closing
handshake where it is armed: in the first accepted `close`, in a drop, or in an overflow.

`withKnobs` puts other knobs into the module.  Every move comes out the same under knobs that agree on
the one it reads, so two runs that differ in the setting of the knobs only show the same as long as
each knob has its old value whenever it is read.
-/

namespace Polymorph.Js

open Transition Web

/-! ### What does not depend on the knobs -/

/-- A branch on what `f` leaves alone. -/
theorem ite_commutes {α β : Type} {c : Prop} [Decidable c] (f : α → β) {s t : α} {s' t' : β}
    (hs : c → s' = f s) (ht : ¬ c → t' = f t) :
    (if c then s' else t') = f (if c then s else t) :=
  (ite_congr rfl hs ht).trans (apply_ite f c s t).symm

/-- The queue, its callers and the stream do not touch the knobs. -/
theorem InboundFrame.knobs {s s' : State} (h : InboundFrame s s') : s'.knobs = s.knobs := by
  unfold InboundFrame at h
  rw [h]

namespace State

variable {s s' : State} (k : Knobs)

/-- The connection with other knobs in the module. -/
def withKnobs (s : State) (k : Knobs) : State := { s with knobs := k }

/-- An answer of the queue reads no knob. -/
theorem answer_withKnobs (s : State) (waiter : Waiter) (result : Except Error Message) :
    (s.withKnobs k).answer waiter result = (s.answer waiter result).withKnobs k := by
  cases waiter <;> rfl

/-- Nor do all the answers of an operation of the queue. -/
theorem answerAll_withKnobs (s : State) (answers : Answers) :
    (s.withKnobs k).answerAll answers = (s.answerAll answers).withKnobs k := by
  unfold answerAll
  induction answers generalizing s with
  | nil => rfl
  | cons a answers ih => rw [List.foldl_cons, List.foldl_cons, answer_withKnobs, ih]

/-- An operation of the queue reads no knob. -/
theorem withQueue_withKnobs (s : State) (result : Answers × IncomingQueue) :
    (s.withKnobs k).withQueue result = (s.withQueue result).withKnobs k :=
  answerAll_withKnobs k { s with incoming := result.2 } result.1

/-- A caller that asks the queue reads no knob. -/
theorem next_withKnobs (s : State) (waiter : Waiter) :
    (s.withKnobs k).next waiter = (s.next waiter).withKnobs k := by
  have hnext : (s.withKnobs k).incoming.next waiter = s.incoming.next waiter := rfl
  unfold next
  rw [hnext]
  cases s.incoming.next waiter with
  | mk result queue =>
    cases result with
    | none => rfl
    | some result => exact answer_withKnobs k { s with incoming := queue } waiter result

/-- A branch on what does not depend on the knobs. -/
theorem ite_withKnobs {c : Prop} [Decidable c] {s t s' t' : State} (hs : c → s' = s.withKnobs k)
    (ht : ¬ c → t' = t.withKnobs k) :
    (if c then s' else t') = (if c then s else t).withKnobs k :=
  ite_commutes (withKnobs · k) hs ht

/-- The bound is armed with the knob of the moment. -/
theorem armCloseDeadline_withKnobs (h : k.closeTimeoutMs = s.knobs.closeTimeoutMs) :
    (s.withKnobs k).armCloseDeadline = s.armCloseDeadline.withKnobs k := by
  unfold armCloseDeadline withKnobs
  rw [h]

/-- The settlement reads no knob. -/
theorem settleClosed_withKnobs (s : State) (event : Option (UInt16 × String)) :
    (s.withKnobs k).settleClosed event = (s.settleClosed event).withKnobs k := by
  unfold settleClosed
  refine ite_withKnobs k (fun _ => rfl) fun _ => ?_
  have hqueue := withQueue_withKnobs k
    { s with
      closeSettled := true
      timers := s.timers.filter fun timer => s.closeDeadline != some timer.handle
      closeDeadline := none } s.incoming.endQueue
  exact congrArg (fun t : State =>
    { t with
      closeInfo := closeOutcome event
      closeWaiters := []
      hist := { t.hist with
        closes := t.hist.closes ++ t.closeWaiters.map fun id => (id, closeOutcome event) } }) hqueue

/-- A `receive` call reads no knob. -/
theorem receive_withKnobs (s : State) : (s.withKnobs k).receive = s.receive.withKnobs k := by
  unfold receive
  refine ite_withKnobs k (fun _ => ?_) fun _ => ite_withKnobs k (fun _ => ?_) fun _ => ?_
  · exact answer_withKnobs k { s with nextId := s.nextId + 1 } _ _
  · exact answer_withKnobs k { s with nextId := s.nextId + 1 } _ _
  · exact next_withKnobs k { s with nextId := s.nextId + 1 } _

/-- The claim of the stream reads no knob. -/
theorem receiveViaStream_withKnobs (s : State) :
    (s.withKnobs k).receiveViaStream = s.receiveViaStream.withKnobs k := by
  unfold receiveViaStream
  refine ite_withKnobs k (fun _ => rfl) fun _ => ?_
  exact congrArg (fun t : State => { t with stream := some .new })
    (withQueue_withKnobs k { s with streamClaimed := true }
      (s.incoming.rejectWaiters .receivingViaStream))

/-- A `waitClosed` call reads no knob. -/
theorem waitClosed_withKnobs (s : State) : (s.withKnobs k).waitClosed = s.waitClosed.withKnobs k := by
  unfold waitClosed
  exact ite_withKnobs k (fun _ => rfl) fun _ => rfl

/-- A local close reads the close timeout. -/
theorem localClose_withKnobs (h : k.closeTimeoutMs = s.knobs.closeTimeoutMs)
    (frame : Option CloseFrame) :
    (s.withKnobs k).localClose frame = (s.localClose frame).withKnobs k := by
  have hqueue := withQueue_withKnobs k { s with localClosed := true } s.incoming.discard
  have hknobs : ({ s with localClosed := true }.withQueue s.incoming.discard).knobs = s.knobs :=
    (InboundFrame.withQueue { s with localClosed := true } s.incoming.discard).knobs
  have harm := armCloseDeadline_withKnobs k (h.trans (congrArg _ hknobs.symm))
  unfold localClose
  exact congrArg (closeSocket · frame) ((congrArg armCloseDeadline hqueue).trans harm)

/-- A call of `close`, with the validation of its arguments, arms the bound. -/
def closeArms (s : State) (code : Option UInt16) (reason : String) : Bool :=
  (validateCloseArgs code reason).isOk && !s.localClosed

/-- A message closes the connection from below, and arms the bound. -/
def overflowArms (s : State) (message : Message) : Bool :=
  !s.incoming.overflowed && s.incoming.overflows message.payloadLen && !s.closeSettled &&
    s.closeDeadline.isNone

/-- The moves that arm the bound of the closing handshake. -/
def arms (s : State) : Action → Bool
  | .close code reason => s.closeArms code reason
  | .dispose => s.closeArms none ""
  | .message message => s.overflowArms message
  | _ => false

/-- A `close` call reads the close timeout if it arms the deadline. -/
theorem close_withKnobs {code : Option UInt16} {reason : String}
    (h : s.closeArms code reason = true → k.closeTimeoutMs = s.knobs.closeTimeoutMs) :
    ((s.withKnobs k).close code reason).2 = (s.close code reason).2.withKnobs k := by
  unfold close
  unfold closeArms at h
  cases hargs : validateCloseArgs code reason with
  | error err => rfl
  | ok =>
    refine ite_withKnobs k (fun _ => rfl) fun hlocal : ¬ s.localClosed = true => ?_
    refine localClose_withKnobs k (h ?_) _
    simp [hargs, hlocal, Except.isOk, Except.toBool]

/-- An overflow close reads the close timeout if it arms the deadline. -/
theorem transportClosing_withKnobs
    (h : (!s.closeSettled && s.closeDeadline.isNone) = true →
      k.closeTimeoutMs = s.knobs.closeTimeoutMs) :
    (s.withKnobs k).transportClosing = s.transportClosing.withKnobs k := by
  unfold transportClosing
  exact ite_withKnobs k (fun harms => armCloseDeadline_withKnobs k (h harms)) fun _ => rfl

/-- A message event reads the close timeout if it overflows and arms the deadline. -/
theorem onMessage_withKnobs {message : Message}
    (h : s.overflowArms message = true → k.closeTimeoutMs = s.knobs.closeTimeoutMs) :
    (s.withKnobs k).onMessage message = (s.onMessage message).withKnobs k := by
  unfold onMessage
  refine ite_withKnobs k (fun _ => rfl) fun hover : ¬ s.incoming.overflowed = true =>
    ite_withKnobs k (fun hfits : s.incoming.overflows message.payloadLen = true => ?_) fun _ => ?_
  · have hclosed := transportClosing_withKnobs k
      (s := { s with incoming := { s.incoming with overflowed := true } }.closeSocket none)
    refine hclosed fun harms => h ?_
    unfold overflowArms
    rw [Bool.and_assoc, hfits, Bool.eq_false_iff.mpr hover]
    exact harms
  · exact withQueue_withKnobs k s _

/-- The platform's stream reads no knob. -/
theorem withStream_withKnobs (s : State) (pull : PullPc) (o : Outcome StreamMessage) :
    (s.withKnobs k).withStream pull o = (s.withStream pull o).withKnobs k := by
  unfold withStream
  refine ite_withKnobs k (fun _ => ?_) fun _ => rfl
  exact next_withKnobs k { s with
    stream := some { readable := o.stream, pull := if o.pulls then .waiting else pull }
    hist := { s.hist with reads := s.hist.reads ++ o.answers } } .pull

/-- Its reactions read none. -/
theorem react_withKnobs (s : State) (stream : Stream) :
    (s.withKnobs k).react stream = (s.react stream).map (·.withKnobs k) := by
  unfold react
  cases stream.pull <;> simp [withStream_withKnobs]

/-- A read of the stream reads none. -/
theorem read_withKnobs (s : State) (stream : Stream) :
    (s.withKnobs k).read stream = (s.read stream).withKnobs k :=
  withStream_withKnobs k { s with nextId := s.nextId + 1 } _ _

/-- Every move but the setting of the knobs comes out the same under other knobs, if they agree on the
bound of the closing handshake where it is armed. -/
theorem step_withKnobs {a : Action} (hvisible : ∀ knobs, a ≠ .configure knobs)
    (h : s.arms a = true → k.closeTimeoutMs = s.knobs.closeTimeoutMs) :
    step (s.withKnobs k) a = (step s a).map (·.withKnobs k) := by
  have hguest : ∀ t : State, guestCall (s.withKnobs k) (t.withKnobs k)
      = (guestCall s t).map (·.withKnobs k) :=
    fun _ => ite_commutes (Option.map (withKnobs · k)) (fun _ => rfl) fun _ => rfl
  have hevent : ∀ (enabled : Prop) [Decidable enabled] (t : State),
      platformEvent (s.withKnobs k) enabled (t.withKnobs k)
        = (platformEvent s enabled t).map (·.withKnobs k) :=
    fun _ _ _ => ite_commutes (Option.map (withKnobs · k)) (fun _ => rfl) fun _ => rfl
  cases a with
  | receive => exact (congrArg (guestCall _) (receive_withKnobs k s)).trans (hguest _)
  | receiveViaStream =>
    exact (congrArg (guestCall _) (receiveViaStream_withKnobs k s)).trans (hguest _)
  | state => exact hguest s.callState
  | waitClosed => exact (congrArg (guestCall _) (waitClosed_withKnobs k s)).trans (hguest _)
  | close code reason => exact (congrArg (guestCall _) (close_withKnobs k h)).trans (hguest _)
  | dispose =>
    have hdispose : (s.withKnobs k).dispose = s.dispose.withKnobs k :=
      congrArg (fun t : State => { t with disposed := true }) (close_withKnobs k h)
    exact (congrArg (guestCall _) hdispose).trans (hguest _)
  | configure knobs => exact absurd rfl (hvisible knobs)
  | read =>
    show s.stream.map (s.withKnobs k).read = (s.stream.map s.read).map _
    cases s.stream with
    | none => rfl
    | some stream => exact congrArg some (read_withKnobs k s stream)
  | react =>
    show s.stream.bind (s.withKnobs k).react = (s.stream.bind s.react).map _
    cases s.stream with
    | none => rfl
    | some stream => exact react_withKnobs k s stream
  | message message =>
    exact (congrArg (platformEvent _ _) (onMessage_withKnobs k h)).trans (hevent _ _)
  | peerClosing => exact hevent _ { s with socket := .closing }
  | transportClosed => exact hevent _ { s with socket := .closed false }
  | errorEvent =>
    exact (congrArg (fun t : State => platformEvent _ _ { t with socket := .closed true })
      (withQueue_withKnobs k s s.incoming.endQueue)).trans
        (hevent _ { s.onEnd with socket := .closed true })
  | closeEvent code reason =>
    exact (congrArg (fun t : State => platformEvent _ _ { t with socket := .dispatching code reason })
      (withQueue_withKnobs k s s.incoming.endQueue)).trans
        (hevent _ { s.onEnd with socket := .dispatching code reason })
  | closeSettles =>
    have hsocket : (s.withKnobs k).socket = s.socket := rfl
    unfold step
    dsimp only
    rw [hsocket]
    cases s.socket with
    | dispatching code reason =>
      exact (congrArg (fun t : State => platformEvent _ _ { t with socket := .done })
        (settleClosed_withKnobs k s _)).trans
          (hevent _ { s.settleClosed (some (code, reason)) with socket := .done })
    | «open» | closing | closed fired | done => rfl
  | timer handle =>
    exact (congrArg (platformEvent _ _) (settleClosed_withKnobs k
      { s with timers := s.timers.filter fun timer => timer.handle != handle } none)).trans
        (hevent _ _)
  | tick dt => rfl

end State

namespace Connect

variable {s : Connect} (k : Knobs)

/-- The call with other knobs in the module. -/
def withKnobs (s : Connect) (k : Knobs) : Connect :=
  { s with knobs := k, resource := s.resource.map fun resource => resource.withKnobs k }

/-- A listener of the signal reads no knob. -/
theorem callListener_withKnobs (s : Connect) (listener : AbortListener) :
    (s.withKnobs k).callListener listener = (s.callListener listener).withKnobs k := by
  cases listener <;> rfl

/-- The abort of the signal reads none. -/
theorem abort_withKnobs (s : Connect) : (s.withKnobs k).abort = s.abort.withKnobs k := by
  have hlisteners : ∀ (listeners : List AbortListener) (s : Connect),
      listeners.foldl callListener (s.withKnobs k)
        = (listeners.foldl callListener s).withKnobs k := by
    intro listeners
    induction listeners with
    | nil => exact fun _ => rfl
    | cons listener listeners ih =>
      intro s
      rw [List.foldl_cons, List.foldl_cons, callListener_withKnobs, ih]
  have hsignal : (s.withKnobs k).signal = s.signal := rfl
  unfold abort
  rw [hsignal]
  cases s.signal with
  | none => rfl
  | some signal =>
    exact hlisteners signal.listeners
      { s with signal := some { aborted := true, listeners := [] } }

/-- An event of the socket reads none that its listener does not read. -/
theorem event_withKnobs (s : Connect) (change : WebSocket → WebSocket) (listener : SocketListener)
    {callback : Connect → Connect}
    (h : ∀ s : Connect, callback (s.withKnobs k) = (callback s).withKnobs k) :
    (s.withKnobs k).event change listener callback
      = (s.event change listener callback).withKnobs k := by
  have hcallback := h { s with ws := s.ws.map fun ws => (change ws).remove listener }
  show (if s.ws.any fun ws => ws.listeners.contains listener then _ else _) = _
  unfold event
  dsimp only
  split
  · exact hcallback
  · rfl

/-- The callback has the knob of the moment in its text. -/
theorem onTimeout_withKnobs (h : k.connectTimeoutMs = s.knobs.connectTimeoutMs) :
    (s.withKnobs k).onTimeout = s.onTimeout.withKnobs k := by
  unfold onTimeout
  show (Connect.settle _ (.error (.connectFailed
    s!"handshake timed out after {k.connectTimeoutMs}ms"))).closeSocket = _
  rw [h]
  rfl

/-- The call goes on to `new Websocket(ws)`. -/
def constructs (s : Connect) : Bool :=
  match s.pc with
  | .settled (.ok ()) => (checkProtocol s.protocols ((s.ws.map WebSocket.protocol).getD "")).isOk
  | _ => false

/-- The queue is made with the knob of the moment. -/
theorem resource_withKnobs {knobs : Knobs} (h : k.maxInboundBuffered = knobs.maxInboundBuffered)
    (ws : WebSocket) (now : Nat) :
    WebSocket.resource ws k now = (WebSocket.resource ws knobs now).withKnobs k := by
  unfold WebSocket.resource State.start
  rw [h]
  rfl

/-- A handshake that succeeds reads the inbound limit, for the connection it makes. -/
theorem succeed_withKnobs (h : k.maxInboundBuffered = s.knobs.maxInboundBuffered) :
    (s.withKnobs k).succeed = s.succeed.withKnobs k := by
  have hmake : ∀ t : Connect, k.maxInboundBuffered = t.knobs.maxInboundBuffered →
      { t.withKnobs k with
          resource := t.ws.map fun ws => WebSocket.resource ws k t.now }.finish (.ok ())
        = ({ t with
          resource := t.ws.map fun ws => WebSocket.resource ws t.knobs t.now }.finish
            (.ok ())).withKnobs k := by
    intro t ht
    unfold finish withKnobs
    cases t.ws with
    | none => rfl
    | some ws => rw [Option.map_some, resource_withKnobs k ht ws t.now]; rfl
  obtain ⟨url, protocols, signal, pc, ws, timer, resource, knobs, now, settles, results⟩ := s
  rcases signal with - | ⟨aborted, listeners⟩
  · exact hmake ⟨url, protocols, none, pc, ws, timer, resource, knobs, now, settles, results⟩ h
  · cases aborted with
    | true =>
      exact hmake ⟨url, protocols, some ⟨true, listeners⟩, pc, ws.map WebSocket.close, timer,
        resource, knobs, now, settles, results⟩ h
    | false =>
      exact hmake ⟨url, protocols, some ⟨false, listeners ++ [.disposeOnAbort]⟩, pc, ws, timer,
        resource, knobs, now, settles, results⟩ h

/-- A call that goes on after its handshake reads the inbound limit if it makes a connection. -/
theorem resume_withKnobs {result : Except Error Unit} (hpc : s.pc = .settled result)
    (h : s.constructs = true → k.maxInboundBuffered = s.knobs.maxInboundBuffered) :
    (s.withKnobs k).resume result = (s.resume result).withKnobs k := by
  unfold constructs at h
  rw [hpc] at h
  cases result with
  | error err => rfl
  | ok u =>
    have hprotocols : (s.withKnobs k).protocols = s.protocols := rfl
    have hws : (s.withKnobs k).ws = s.ws := rfl
    unfold resume
    dsimp only at h ⊢
    rw [hprotocols, hws]
    cases hcheck : checkProtocol s.protocols ((s.ws.map WebSocket.protocol).getD "") with
    | error err => rfl
    | ok u => exact succeed_withKnobs k (h (by rw [hcheck]; rfl))

/-- A move reads knobs that agree with those of the call: the timer that fires, and the call that
goes on to `new Websocket(ws)`. -/
def ReadsAlike (s : Connect) (k : Knobs) : ConnectAction → Prop
  | .timer => s.timer.any (· ≤ s.now) = true → k.connectTimeoutMs = s.knobs.connectTimeoutMs
  | .resume => s.constructs = true → k.maxInboundBuffered = s.knobs.maxInboundBuffered
  | _ => True

/-- Every move of a call that has begun comes out the same under knobs that agree where they are
read. -/
theorem step_withKnobs (parse : String → Except String ParsedUrl) {a : ConnectAction}
    (hcall : ∀ constructed, a ≠ .call constructed) (hvisible : ∀ knobs, a ≠ .configure knobs)
    (h : s.ReadsAlike k a) :
    connectStep parse (s.withKnobs k) a = (connectStep parse s a).map (·.withKnobs k) := by
  have hif : ∀ (p : Prop) [Decidable p] {t t' : Connect}, (p → t' = t.withKnobs k) →
      (if p then some t' else none) = (if p then some t else none).map (·.withKnobs k) :=
    fun _ _ _ _ ht => ite_commutes (Option.map (withKnobs · k)) (fun hp => congrArg some (ht hp))
      fun _ => rfl
  cases a with
  | call constructed => exact absurd rfl (hcall constructed)
  | resume =>
    have hsame : (s.withKnobs k).pc = s.pc := rfl
    unfold connectStep
    dsimp only
    rw [hsame]
    cases hpc : s.pc with
    | settled result => exact congrArg some (resume_withKnobs k hpc h)
    | called | handshake | returned => rfl
  | abort => exact hif _ fun _ => abort_withKnobs k s
  | configure knobs => exact absurd rfl (hvisible knobs)
  | openEvent selected => exact hif _ fun _ => event_withKnobs k s _ _ fun _ => rfl
  | errorEvent => exact hif _ fun _ => event_withKnobs k s _ _ fun _ => rfl
  | peerClosing => exact hif _ fun _ => rfl
  | transportClosed => exact hif _ fun _ => rfl
  | closeEvent code reason => exact hif _ fun _ => event_withKnobs k s _ _ fun _ => rfl
  | timer => exact hif _ fun hp => onTimeout_withKnobs k (h hp.2)
  | ownerClose =>
    show (if (s.resource.map _).isSome then some (s.withKnobs k).closeSocket else none) = _
    rw [Option.isSome_map]
    exact hif _ fun _ => rfl
  | tick dt => rfl

end Connect

/-! ### The life of a connection -/

/-- The result of an operation that the history of the connection does not keep. -/
inductive LifeResult
  | protocol (protocol : String)
  | send (id : Nat) (result : Except Error Unit)
  | receiveViaStream (result : Except Error Unit)
  | close (result : Except Error Unit)
  deriving DecidableEq

/-- A connection from the call of `connect` on. -/
structure Life where
  call : Connect
  /-- The resource, from `new Websocket(ws)` on. -/
  conn : Option Sender
  /-- The calls of `send` that are not over. -/
  sends : List (Nat × Message)
  nextSend : Nat
  /-- The results, in the order they were settled.  The code does not read them. -/
  log : List LifeResult
  /-- The knobs when `connect` was called.  The code does not read them here. -/
  captured : Knobs

/-- The moves of a connection from the call of `connect` on. -/
inductive LifeAction
  /-- A move of the call that has begun. -/
  | call (a : ConnectAction)
  /-- The embedder aborts the signal of a call that has made the resource. -/
  | abort
  /-- A move of the resource. -/
  | conn (a : SenderAction)
  | protocol
  /-- A call of `send`; the platform may throw with a message. -/
  | send (message : Message) (thrown : Option String)
  /-- The drain poll of a call of `send`. -/
  | poll (id : Nat) (thrown : Option String)
  /-- `configure`, a setter or `resetConfig`. -/
  | configure (knobs : Knobs)

/-- The moves that set the knobs. -/
def LifeAction.configures : LifeAction → Bool
  | .configure _ => true
  | _ => false

/-- The loop of `send` up to where it waits for the drain. -/
def Sender.sendOnce (s : Sender) (message : Message) (thrown : Option String) :
    Option (Except Error Unit) × Sender :=
  if s.conn.localClosed || s.conn.socket.readyState != .open then (some (.error .closed), s)
  else if s.bufferedAmount ≤ maxBufferedAmount then
    match thrown with
    | some text => (some (.error (.other text)), s)
    | none => (some (.ok ()), { s with bufferedAmount := s.bufferedAmount + message.payloadLen })
  else (none, s)

/-- The results that a move of the resource has at once. -/
def Sender.answers (s : Sender) : SenderAction → List LifeResult
  | .conn .receiveViaStream =>
    [.receiveViaStream (if s.conn.localClosed then .error .closed
      else if s.conn.streamClaimed then .error .receivingViaStream
      else .ok ())]
  | .conn (.close code reason) => [.close (s.conn.close code reason).1]
  | _ => []

namespace Life

/-- The call of `connect`, up to its `await`. -/
def called (parse : String → Except String ParsedUrl) (url : String) (protocols : List String)
    (signal : Option Bool) (knobs : Knobs) (now : Nat) (constructed : Except String Unit) : Life where
  call := (Connect.start url protocols signal knobs now).call parse constructed
  conn := none
  sends := []
  nextSend := 0
  log := []
  captured := knobs

/-- The call moves on; the resource it makes is the connection. -/
def withCall (l : Life) (call : Connect) : Life :=
  { l with
    call := call
    conn := call.resource.map fun conn => { conn := conn, bufferedAmount := 0, call := none } }

/-- A call of `send` goes on. -/
def turn (l : Life) (s : Sender) (id : Nat) (message : Message) (thrown : Option String) : Life :=
  match s.sendOnce message thrown with
  | (some result, s) =>
    { l with
      conn := some s
      sends := l.sends.filter fun pending => pending.1 != id
      log := l.log ++ [.send id result] }
  | (none, _) => l

/-- The abort after the call has made the resource. -/
def abort (l : Life) (s : Sender) (signal : AbortSignal) : Life :=
  { l with
    call := l.call.abort
    conn := some (
      if signal.listeners.contains .disposeOnAbort then { s with conn := s.conn.closeSocket none }
      else s) }

end Life

/-- The next state of a connection. -/
def lifeStep (parse : String → Except String ParsedUrl) (l : Life) : LifeAction → Option Life
  | .call a =>
    match l.conn, a with
    | some _, _ | _, .call _ | _, .configure _ | _, .ownerClose => none
    | none, a => (connectStep parse l.call a).map l.withCall
  | .abort =>
    l.conn.bind fun s => l.call.signal.bind fun signal =>
      if signal.aborted then none else some (l.abort s signal)
  | .conn (.conn (.configure _)) => none
  | .conn a =>
    l.conn.bind fun s =>
      (senderStep s a).map fun s' => { l with conn := some s', log := l.log ++ s.answers a }
  | .protocol =>
    l.conn.bind fun s =>
      if s.conn.disposed then none
      else some { l with log := l.log ++ [.protocol ((l.call.ws.map WebSocket.protocol).getD "")] }
  | .send message thrown =>
    l.conn.bind fun s =>
      if s.conn.disposed then none
      else some ({ l with
        sends := l.sends ++ [(l.nextSend, message)]
        nextSend := l.nextSend + 1 }.turn s l.nextSend message thrown)
  | .poll id thrown =>
    l.conn.bind fun s =>
      (l.sends.find? fun pending => pending.1 == id).map fun pending =>
        l.turn s id pending.2 thrown
  | .configure knobs =>
    some { l with
      call := { l.call with knobs := knobs }
      conn := l.conn.map fun s => { s with conn := { s.conn with knobs := knobs } } }

/-- The connections of the JavaScript host from the call of `connect` on. -/
def lives (parse : String → Except String ParsedUrl) : System Life LifeAction where
  init l := ∃ url protocols signal knobs now constructed,
    l = .called parse url protocols signal knobs now constructed
  step := lifeStep parse

/-- What shows of a connection: the results of its operations, and the times its bounds are due. -/
structure Seen where
  connects : List (Except Error Unit)
  connectBound : Option Nat
  results : List LifeResult
  hist : Option History
  sendViaStream : Option (Except SendViaStreamError Unit)
  closeBounds : List Nat
  deriving DecidableEq

/-- The result of a call of `sendViaStream`, if it is over. -/
def SendCall.result (call : SendCall) : Option (Except SendViaStreamError Unit) :=
  match call.pc with
  | .settled result => some result
  | _ => none

/-- What shows of a connection in its present state. -/
def Life.seen (l : Life) : Seen where
  connects := l.call.results
  connectBound := l.call.timer
  results := l.log
  hist := l.conn.map (·.conn.hist)
  sendViaStream := (l.conn.bind Sender.call).bind SendCall.result
  closeBounds := (l.conn.map (·.conn.timers.map Timer.due)).getD []

/-! ### Moves under other knobs -/

namespace Sender

variable (k : Knobs)

/-- The connection of a sender with other knobs in the module. -/
def withKnobs (s : Sender) (k : Knobs) : Sender := { s with conn := s.conn.withKnobs k }

/-- A `send` reads no knob. -/
theorem send_withKnobs (s : Sender) (call : SendCall) (message : Message) :
    (s.withKnobs k).send call message = (s.send call message).withKnobs k := by
  unfold send
  exact ite_commutes (withKnobs · k) (fun _ => rfl) fun _ =>
    ite_commutes (withKnobs · k) (fun _ => rfl) fun _ => rfl

/-- A `send` that goes on reads none. -/
theorem resume_withKnobs (s : Sender) (call : SendCall) :
    (s.withKnobs k).resume call = (s.resume call).map (·.withKnobs k) := by
  unfold resume
  cases call.pc with
  | next =>
    cases call.input.elements with
    | nil =>
      dsimp only
      split <;> rfl
    | cons item rest => rfl
  | collecting item chunks collected =>
    cases chunks with
    | nil =>
      dsimp only
      split
      · cases messageOf item collected with
        | ok message => exact congrArg some (send_withKnobs k s call message)
        | error error => rfl
      · rfl
    | cons chunk chunks => rfl
  | draining message => exact congrArg some (send_withKnobs k s call message)
  | resolved | settled => rfl

/-- A step of a connection with its senders reads the close timeout if its move arms the deadline.
-/
theorem step_withKnobs {s : Sender} {a : SenderAction} (hvisible : ∀ knobs, a ≠ .conn (.configure knobs))
    (h : ∀ move, a = .conn move → s.conn.arms move = true →
      k.closeTimeoutMs = s.conn.knobs.closeTimeoutMs) :
    senderStep (s.withKnobs k) a = (senderStep s a).map (·.withKnobs k) := by
  cases a with
  | conn move =>
    have hstep := State.step_withKnobs k (s := s.conn) (a := move)
      (fun knobs heq => hvisible knobs (congrArg _ heq)) (h move rfl)
    show (step (s.conn.withKnobs k) move).map _ = ((step s.conn move).map _).map _
    rw [hstep, Option.map_map, Option.map_map]
    rfl
  | buffered amount => rfl
  | sendViaStream input =>
    exact ite_commutes (Option.map (withKnobs · k)) (fun _ => rfl) fun _ => rfl
  | resume =>
    show s.call.bind (s.withKnobs k).resume = (s.call.bind s.resume).map _
    cases s.call with
    | none => rfl
    | some call => exact resume_withKnobs k s call

/-- One `send` at its element reads no knob. -/
theorem sendOnce_withKnobs (s : Sender) (message : Message) (thrown : Option String) :
    (s.withKnobs k).sendOnce message thrown
      = ((s.sendOnce message thrown).1, (s.sendOnce message thrown).2.withKnobs k) := by
  unfold sendOnce
  show (if s.conn.localClosed || s.conn.socket.readyState != .open then _ else
    if s.bufferedAmount ≤ maxBufferedAmount then _ else _) = _
  split
  · rfl
  · split
    · cases thrown <;> rfl
    · rfl

/-- The answers to senders do not depend on the knobs. -/
theorem answers_withKnobs (s : Sender) (a : SenderAction) :
    (s.withKnobs k).answers a = s.answers a := by
  unfold answers
  split
  · rfl
  · next code reason =>
    show [LifeResult.close ((s.conn.withKnobs k).close code reason).1] = _
    unfold State.close
    cases validateCloseArgs code reason <;> rfl
  · rfl

end Sender

namespace Life

variable {l : Life} (k : Knobs)

/-- A connection with other knobs in the module. -/
def withKnobs (l : Life) (k : Knobs) : Life :=
  { l with call := l.call.withKnobs k, conn := l.conn.map fun s => s.withKnobs k }

/-- A move reads knobs that agree with those of the module. -/
def ReadsAlike (l : Life) (k : Knobs) : LifeAction → Prop
  | .call a => l.call.ReadsAlike k a
  | .conn (.conn a) =>
    ∀ s ∈ l.conn, s.conn.arms a = true → k.closeTimeoutMs = s.conn.knobs.closeTimeoutMs
  | _ => True

/-- A turn of a `send` call reads no knob. -/
theorem turn_withKnobs (l : Life) (s : Sender) (id : Nat) (message : Message)
    (thrown : Option String) :
    (l.withKnobs k).turn (s.withKnobs k) id message thrown
      = (l.turn s id message thrown).withKnobs k := by
  unfold turn
  rw [Sender.sendOnce_withKnobs]
  cases s.sendOnce message thrown with
  | mk result s => cases result <;> rfl

/-- Nor does putting the `connect` call back. -/
theorem withCall_withKnobs (l : Life) (call : Connect) :
    (l.withKnobs k).withCall (call.withKnobs k) = (l.withCall call).withKnobs k := by
  unfold withCall withKnobs Connect.withKnobs
  cases call.resource <;> rfl

/-- The abort of the signal reads none. -/
theorem abort_withKnobs (l : Life) (s : Sender) (signal : AbortSignal) :
    (l.withKnobs k).abort (s.withKnobs k) signal = (l.abort s signal).withKnobs k := by
  unfold abort withKnobs
  rw [Connect.abort_withKnobs]
  cases signal.listeners.contains .disposeOnAbort <;> rfl

/-- A move of the resource. -/
theorem conn_withKnobs {a : SenderAction} (hvisible : ∀ knobs, a ≠ .conn (.configure knobs))
    (h : ∀ move, a = .conn move → ∀ s ∈ l.conn, s.conn.arms move = true →
      k.closeTimeoutMs = s.conn.knobs.closeTimeoutMs) :
    ((l.withKnobs k).conn.bind fun s => (senderStep s a).map fun s' =>
        { l.withKnobs k with conn := some s', log := l.log ++ s.answers a })
      = (l.conn.bind fun s => (senderStep s a).map fun s' =>
        { l with conn := some s', log := l.log ++ s.answers a }).map (·.withKnobs k) := by
  show ((l.conn.map fun s => s.withKnobs k).bind _) = _
  cases hconn : l.conn with
  | none => rfl
  | some s =>
    have hstep := Sender.step_withKnobs k hvisible fun move heq => h move heq s hconn
    rw [Option.map_some, Option.bind_some, Option.bind_some, hstep, Option.map_map, Option.map_map,
      Sender.answers_withKnobs]
    rfl

/-- Every move but the setting of the knobs comes out the same under knobs that agree where they are
read. -/
theorem step_withKnobs (parse : String → Except String ParsedUrl) {a : LifeAction}
    (hvisible : a.configures = false) (h : l.ReadsAlike k a) :
    lifeStep parse (l.withKnobs k) a = (lifeStep parse l a).map (·.withKnobs k) := by
  obtain ⟨call, conn, sends, nextSend, log, captured⟩ := l
  cases a with
  | call a =>
    cases conn with
    | some s => rfl
    | none =>
      have hcall : ∀ a : ConnectAction, (∀ constructed, a ≠ .call constructed) →
          (∀ knobs, a ≠ .configure knobs) → call.ReadsAlike k a →
          (connectStep parse (call.withKnobs k) a).map
              (withKnobs ⟨call, none, sends, nextSend, log, captured⟩ k).withCall
            = ((connectStep parse call a).map
              (withCall ⟨call, none, sends, nextSend, log, captured⟩)).map (·.withKnobs k) := by
        intro a hcall hconfigure h
        rw [Connect.step_withKnobs k parse hcall hconfigure h, Option.map_map, Option.map_map]
        exact congrArg (Option.map · _) (funext fun call => withCall_withKnobs k _ call)
      cases a with
      | call constructed => rfl
      | configure knobs => rfl
      | ownerClose => rfl
      | resume => exact hcall .resume nofun nofun h
      | abort => exact hcall .abort nofun nofun h
      | openEvent selected => exact hcall (.openEvent selected) nofun nofun h
      | errorEvent => exact hcall .errorEvent nofun nofun h
      | peerClosing => exact hcall .peerClosing nofun nofun h
      | transportClosed => exact hcall .transportClosed nofun nofun h
      | closeEvent code reason => exact hcall (.closeEvent code reason) nofun nofun h
      | timer => exact hcall .timer nofun nofun h
      | tick dt => exact hcall (.tick dt) nofun nofun h
  | abort =>
    cases conn with
    | none => rfl
    | some s =>
      show (call.signal.bind fun signal =>
        if signal.aborted then none else some (abort _ (s.withKnobs k) signal)) = _
      unfold lifeStep
      dsimp only [Option.bind_some]
      cases call.signal with
      | none => rfl
      | some signal =>
        exact ite_commutes (Option.map (withKnobs · k)) (fun _ => rfl) fun _ =>
          congrArg some (abort_withKnobs k _ s signal)
  | conn a =>
    rcases a with move | amount | input | _
    · cases move
      case configure knobs => rfl
      all_goals
        refine conn_withKnobs k nofun fun move heq => ?_
        cases heq
        exact h
    · exact conn_withKnobs k nofun nofun
    · exact conn_withKnobs k nofun nofun
    · exact conn_withKnobs k nofun nofun
  | protocol =>
    cases conn with
    | none => rfl
    | some s =>
      exact ite_commutes (Option.map (withKnobs · k)) (fun _ => rfl) fun _ => rfl
  | send message thrown =>
    cases conn with
    | none => rfl
    | some s =>
      refine ite_commutes (Option.map (withKnobs · k)) (fun _ => rfl) fun _ => ?_
      exact congrArg some (turn_withKnobs k
        ⟨call, some s, sends ++ [(nextSend, message)], nextSend + 1, log, captured⟩ s nextSend
        message thrown)
  | poll id thrown =>
    cases conn with
    | none => rfl
    | some s =>
      show (sends.find? _).map (fun pending => turn _ (s.withKnobs k) id pending.2 thrown) = _
      unfold lifeStep
      dsimp only [Option.bind_some]
      cases sends.find? fun pending => pending.1 == id with
      | none => rfl
      | some pending =>
        exact congrArg some (turn_withKnobs k ⟨call, some s, sends, nextSend, log, captured⟩ s id
          pending.2 thrown)
  | configure knobs => cases hvisible

/-- A turn of a `send` call keeps the captured knobs. -/
theorem captured_turn (l : Life) (s : Sender) (id : Nat) (message : Message)
    (thrown : Option String) : (l.turn s id message thrown).captured = l.captured := by
  unfold turn
  split <;> rfl

/-- No step changes the captured knobs. -/
theorem captured_of_step {parse : String → Except String ParsedUrl} {l' : Life} {a : LifeAction}
    (h : lifeStep parse l a = some l') : l'.captured = l.captured := by
  unfold lifeStep at h
  split at h
  · split at h
    · cases h
    · cases h
    · cases h
    · cases h
    · obtain ⟨call, -, rfl⟩ := Option.map_eq_some_iff.mp h
      rfl
  · obtain ⟨s, -, h⟩ := Option.bind_eq_some_iff.mp h
    obtain ⟨signal, -, h⟩ := Option.bind_eq_some_iff.mp h
    split at h
    · cases h
    · cases h
      rfl
  · cases h
  · obtain ⟨s, -, h⟩ := Option.bind_eq_some_iff.mp h
    obtain ⟨s', -, rfl⟩ := Option.map_eq_some_iff.mp h
    rfl
  · obtain ⟨s, -, h⟩ := Option.bind_eq_some_iff.mp h
    split at h
    · cases h
    · cases h
      rfl
  · obtain ⟨s, -, h⟩ := Option.bind_eq_some_iff.mp h
    split at h
    · cases h
    · cases h
      exact captured_turn _ s _ _ _
  · obtain ⟨s, -, h⟩ := Option.bind_eq_some_iff.mp h
    obtain ⟨pending, -, rfl⟩ := Option.map_eq_some_iff.mp h
    exact captured_turn _ s _ _ _
  · cases h
    rfl

/-! ### Two runs of one connection -/

/-- The connection with the knobs it was called with in the module. -/
def erase (l : Life) : Life := l.withKnobs l.captured

/-- A move reads knobs that have, when it reads them, the values they had when `connect` was
called. -/
def ReadsCaptured (l : Life) (a : LifeAction) : Prop := l.ReadsAlike l.captured a

instance (l : Life) (a : LifeAction) : Decidable (l.ReadsCaptured a) := by
  unfold ReadsCaptured ReadsAlike Connect.ReadsAlike
  split
  · split <;> infer_instance
  · infer_instance
  · infer_instance

/-- The settings of the knobs can be erased from a run that only reads the captured ones. -/
theorem erases (parse : String → Except String ParsedUrl) :
    (lives parse).Erases LifeAction.configures erase ReadsCaptured where
  of_hidden {l a} ha := by
    cases a with
    | configure knobs =>
      obtain ⟨call, conn, sends, nextSend, log, captured⟩ := l
      cases conn <;> rfl
    | call | abort | conn | protocol | send | poll => cases ha
  of_visible {l a} ha h := by
    have hstep := step_withKnobs l.captured parse ha h
    show (lifeStep parse l a).map erase = lifeStep parse (l.withKnobs l.captured) a
    rw [hstep]
    cases hl' : lifeStep parse l a with
    | none => rfl
    | some l' =>
      have hcaptured := captured_of_step hl'
      show some (l'.withKnobs l'.captured) = some (l'.withKnobs l.captured)
      rw [hcaptured]

/-- What shows of a connection does not hold its knobs. -/
theorem seen_erase (l : Life) : l.erase.seen = l.seen := by
  obtain ⟨call, conn, sends, nextSend, log, captured⟩ := l
  cases conn <;> rfl

end Life

/-- Two runs of one connection that differ in the setting of the knobs only show the same, if in both
every knob has, whenever it is read, the value it had when `connect` was called: the bound of the
handshake for the text of its timer, the inbound bound for `new Websocket(ws)`, and the bound of the
closing handshake where it is armed. -/
theorem knobs_captured {parse : String → Except String ParsedUrl} {url : String}
    {protocols : List String} {signal : Option Bool} {knobs : Knobs} {now : Nat}
    {constructed : Except String Unit} {as bs : List LifeAction}
    (hvisible : as.filter (fun a => !a.configures) = bs.filter fun a => !a.configures)
    (has : (lives parse).Along Life.ReadsCaptured
      (.called parse url protocols signal knobs now constructed) as)
    (hbs : (lives parse).Along Life.ReadsCaptured
      (.called parse url protocols signal knobs now constructed) bs) :
    ((lives parse).run (.called parse url protocols signal knobs now constructed) as).map Life.seen
      = ((lives parse).run (.called parse url protocols signal knobs now constructed) bs).map
        Life.seen := by
  have herase := (Life.erases parse).run_eq hvisible has hbs
  have hseen : ∀ l : Option Life, (l.map Life.erase).map Life.seen = l.map Life.seen := by
    intro l
    cases l with
    | none => rfl
    | some l => exact congrArg some (Life.seen_erase l)
  rw [← hseen, herase, hseen]

/-- A platform that reads every URL as `ws://a/`. -/
def plainUrl (_ : String) : Except String ParsedUrl :=
  .ok { protocol := "ws:", hostname := "a", username := "", password := "" }

/-- A connection to `ws://a/` under the default knobs. -/
def Life.plain : Life := .called plainUrl "ws://a/" [] none .default 0 (.ok ())

/-- The default knobs with a longer bound of the closing handshake. -/
def Knobs.slowClose : Knobs := { Knobs.default with closeTimeoutMs := 20000, closeTimeoutMs_pos := by decide }

/-- The bound of the closing handshake is set and reset while the connection is made. -/
theorem knobs_captured_reset :
    ((lives plainUrl).run .plain [.configure .slowClose, .call (.openEvent ""), .call .resume,
        .configure .default, .conn (.conn (.close (some 1000) ""))]).map (·.seen.closeBounds)
      = some [10000] := by
  have hseen := @knobs_captured plainUrl "ws://a/" [] none .default 0 (.ok ())
    [.configure .slowClose, .call (.openEvent ""), .call .resume, .configure .default,
      .conn (.conn (.close (some 1000) ""))]
    [.call (.openEvent ""), .call .resume, .conn (.conn (.close (some 1000) ""))]
    rfl (by decide) (by decide)
  have hbounds := congrArg (Option.map Seen.closeBounds) hseen
  rw [Option.map_map, Option.map_map] at hbounds
  exact hbounds.trans rfl

/-- The bound is set after the connection was made: it is due at another time. -/
theorem knobs_not_captured : ¬ ∀ as bs : List LifeAction,
    as.filter (fun a => !a.configures) = bs.filter (fun a => !a.configures) →
      ((lives plainUrl).run .plain as).map Life.seen
        = ((lives plainUrl).run .plain bs).map Life.seen := by
  intro hall
  have hseen := hall
    [.call (.openEvent ""), .call .resume, .configure .slowClose,
      .conn (.conn (.close (some 1000) ""))]
    [.call (.openEvent ""), .call .resume, .conn (.conn (.close (some 1000) ""))] rfl
  have hbounds := congrArg (Option.map Seen.closeBounds) hseen
  rw [Option.map_map, Option.map_map] at hbounds
  exact absurd hbounds (by decide)

end Polymorph.Js
