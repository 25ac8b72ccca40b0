import PolymorphWebsocket.Shim.State
import PolymorphWebsocket.Transition.System

/-!
# The WHATWG shim: the WebSocket class

The methods and asynchronous routines of the `WebSocket` class of `js/componentize/websocket.js`,
as a transition system over `State`.  An action is a call of the application, one callback of the
shim, or a move of the WIT host (a call of the shim on it settles, a message arrives, the
connection closes).
-/

namespace Polymorph.Shim

namespace State

/-! ### Small updates -/

/-- `this.dispatchEvent(event)`. -/
def dispatchEvent (s : State) (event : Event) : State :=
  { s with hist := { s.hist with events := s.hist.events ++ [(event, s.readyState)] } }

/-- A call on the WIT resource. -/
def callHost (s : State) (call : HostCall) : State :=
  { s with hist := { s.hist with calls := s.hist.calls ++ [call] } }

/-- `#originOf`: the scheme and the authority of a `ws:` or `wss:` URL, empty for any other. -/
def originOf (s : State) : String :=
  let url := s.url.toList
  let scheme := url.takeWhile (· ≠ ':')
  let lower := scheme.map Char.toLower
  let authority := (url.drop (scheme.length + 3)).takeWhile fun c => c ≠ '/' && c ≠ '?'
  if (lower = "ws".toList ∨ lower = "wss".toList) ∧
      (url.drop scheme.length).take 3 = "://".toList ∧ authority ≠ [] then
    String.ofList (lower ++ "://".toList ++ authority)
  else ""

/-! ### `send` -/

/-- `send(data)`: in CONNECTING it throws, and past OPEN the bytes are counted and the data is
discarded. -/
def send (s : State) (data : Data) : Except DOMException State :=
  if s.readyState = .connecting then
    .error
      { message := "WebSocket send: still in CONNECTING state", name := "InvalidStateError" }
  else
    let s := { s with bufferedAmount := s.bufferedAmount + data.size }
    if s.readyState ≠ .open then
      .ok { s with hist := { s.hist with discarded := s.hist.discarded + data.size } }
    else
      let entry : Entry := { id := s.nextId, data := data }
      .ok { s with
        nextId := s.nextId + 1
        sendQueue := s.sendQueue ++ [entry]
        hist := { s.hist with accepted := s.hist.accepted ++ [entry] } }

/-- `ws.send(message)` for an entry of the chain, up to its await. -/
def hostSend (s : State) (id : Nat) (message : Message) : State :=
  { s.callHost (.send id message) with stage := .sending }

/-- The callback of the first entry of the chain. -/
def runSend (s : State) : Option State :=
  match s.sendQueue, s.stage with
  | entry :: _, .waiting =>
    match entry.data with
    | .payload message => some (s.hostSend entry.id message)
    | .blob _ => some { s with stage := .reading }
  | _, _ => none

/-- The Blob's bytes have been read, or its read has failed. -/
def blobRead (s : State) (bytes : Option Bytes) : Option State :=
  match s.sendQueue, s.stage, bytes with
  | entry :: _, .reading, some bytes => some (s.hostSend entry.id (.binary bytes))
  | _ :: _, .reading, none => some { s with stage := .settled }
  | _, _, _ => none

/-- `ws.send` has settled; both callbacks that follow do the same. -/
def sendSettled (s : State) : Option State :=
  if s.stage = .sending then some { s with stage := .settled } else none

/-- The callback that uncounts the first entry. -/
def uncount (s : State) : Option State :=
  match s.sendQueue, s.stage with
  | entry :: rest, .settled =>
    some { s with
      bufferedAmount := s.bufferedAmount - entry.data.size
      sendQueue := rest
      stage := .waiting }
  | _, _ => none

/-! ### `close` -/

/-- The arguments `#closeUnderlying` passes on: a reason needs a code. -/
def closeArgs (code : Option Nat) (reason : String) : Option Nat × String :=
  if reason ≠ "" ∧ code = none then (some 1000, reason) else (code, reason)

/-- `#closeUnderlying(code, reason)`. -/
def closeUnderlying (s : State) (code : Option Nat) (reason : String) : State :=
  let args := closeArgs code reason
  { s.callHost (.close args.1 args.2) with host := { s.host with localClosed := true } }

/-- `close(code, reason)`. -/
def close (s : State) (code : Option Nat) (reason : Option String) : Except DOMException State :=
  let reason := reason.getD ""
  if code.any fun code => code ≠ 1000 && !(3000 ≤ code && code ≤ 4999) then
    .error
      { message := s!"WebSocket close: invalid code {code.getD 0}", name := "InvalidAccessError" }
  else if reason.utf8ByteSize > 123 then
    .error
      { message := "WebSocket close: reason is longer than 123 bytes", name := "SyntaxError" }
  else
    match s.readyState with
    | .closing | .closed => .ok s
    | .connecting => .ok { s with pendingClose := some (code, reason), readyState := .closing }
    | .open => .ok ({ s with readyState := .closing }.closeUnderlying code reason)

/-! ### The handshake -/

/-- `#established(ws)`, up to the listeners of the open event. -/
def established (s : State) (protocol : String) : Option State :=
  if s.connect = .pending then
    let s := { s with host := { s.host with connected := true } }
    match s.pendingClose with
    | some (code, reason) =>
      some { s.closeUnderlying code reason with connect := .done, settle := .waiting true }
    | none =>
      some ({ s with readyState := .open, protocol := protocol, connect := .opening }.dispatchEvent
        .open)
  else none

/-- The rest of `#established`: `#receiveLoop` and `#settle`, each up to its first await. -/
def startLoops (s : State) : Option State :=
  if s.connect = .opening then
    some { s with connect := .done, loop := .receiving, settle := .waiting false }
  else none

/-- `#failed()`, up to the listeners of the error event. -/
def failed (s : State) : Option State :=
  if s.connect = .pending then
    let s := { s with readyState := .closed, connect := .done }
    if s.closeDispatched then some s
    else some ({ s with closeDispatched := true, connect := .failing }.dispatchEvent .error)
  else none

/-- The close event of a failed connect. -/
def failedCloses (s : State) : Option State :=
  if s.connect = .failing then
    some ({ s with connect := .done }.dispatchEvent (.close false 1006 ""))
  else none

/-! ### `#receiveLoop` -/

/-- The data of a message event. -/
def eventData (s : State) : Message → EventData
  | .string text => .text text
  | .binary bytes =>
    match s.binaryType with
    | .blob => .blob bytes
    | .arraybuffer => .arrayBuffer bytes

/-- The loop goes on with a message, up to the listeners of its event. -/
def dispatchMessage (s : State) : Option State :=
  match s.loop with
  | .resolved message =>
    some ({ s with loop := .dispatching }.dispatchEvent
      (.message (s.eventData message) s.originOf))
  | _ => none

/-- The loop calls `ws.receive()` again. -/
def receiveAgain (s : State) : Option State :=
  if s.loop = .dispatching then some { s with loop := .receiving } else none

/-! ### `#settle` -/

/-- `#settle` goes on with the outcome, up to the listeners of the error event or to its end. -/
def settleRuns (s : State) : Option State :=
  match s.settle with
  | .resolved failedDuringConnecting info =>
    let s := { s with readyState := .closed, settle := .done }
    if s.closeDispatched then some s
    else
      let s := { s with closeDispatched := true }
      let wasClean := info.isSome && !failedDuringConnecting
      let code := (info.map CloseInfo.code).getD 1006
      let reason := (info.map CloseInfo.reason).getD ""
      if wasClean then some (s.dispatchEvent (.close true code reason))
      else some ({ s with settle := .erring code reason }.dispatchEvent .error)
  | _ => none

/-- The close event after an error event. -/
def settleCloses (s : State) : Option State :=
  match s.settle with
  | .erring code reason =>
    some ({ s with settle := .done }.dispatchEvent (.close false code reason))
  | _ => none

/-! ### The WIT host -/

/-- `ws.receive()` resolves with the oldest message of the backlog. -/
def hostReceive (s : State) : Option State :=
  match s.loop, s.host.backlog with
  | .receiving, message :: rest =>
    some { s with
      loop := .resolved message
      host := { s.host with backlog := rest }
      hist := { s.hist with handedOut := s.hist.handedOut ++ [message] } }
  | _, _ => none

/-- `ws.receive()` fails: the connection is closing and the backlog is drained. -/
def hostReceiveFails (s : State) : Option State :=
  if s.loop = .receiving ∧ s.host.backlog = [] ∧
      (s.host.localClosed = true ∨ s.host.closed.isSome = true) then
    some { s with loop := .ended }
  else none

/-- `ws.waitClosed()` resolves. -/
def hostWaitResolves (s : State) : Option State :=
  match s.settle, s.host.closed with
  | .waiting failedDuringConnecting, some info =>
    some { s with settle := .resolved failedDuringConnecting info }
  | _, _ => none

end State

/-! ### The transition system -/

/-- The moves of a WebSocket. -/
inductive Action
  | send (data : Data)
  | close (code : Option Nat) (reason : Option String)
  | setBinaryType (binaryType : BinaryType)
  | established (protocol : String)
  | startLoops
  | failed
  | failedCloses
  | runSend
  | blobRead (bytes : Option Bytes)
  | sendSettled
  | uncount
  | dispatchMessage
  | receiveAgain
  | settleRuns
  | settleCloses
  | hostReceive
  | hostReceiveFails
  | hostWaitResolves
  /-- A message arrives at the host. -/
  | hostArrive (message : Message)
  /-- The host discards the backlog after a local close. -/
  | hostDiscard
  /-- The connection is torn down. -/
  | hostClose (info : Option CloseInfo)
  deriving DecidableEq, Repr

/-- A call that throws changes nothing. -/
def orUnchanged (s : State) : Except DOMException State → State
  | .ok s' => s'
  | .error _ => s

/-- The state after an action, if the action is possible, whatever callback is running. -/
def move (s : State) : Action → Option State
  | .send data => some (orUnchanged s (s.send data))
  | .close code reason => some (orUnchanged s (s.close code reason))
  | .setBinaryType binaryType => some { s with binaryType := binaryType }
  | .established protocol => s.established protocol
  | .startLoops => s.startLoops
  | .failed => s.failed
  | .failedCloses => s.failedCloses
  | .runSend => s.runSend
  | .blobRead bytes => s.blobRead bytes
  | .sendSettled => s.sendSettled
  | .uncount => s.uncount
  | .dispatchMessage => s.dispatchMessage
  | .receiveAgain => s.receiveAgain
  | .settleRuns => s.settleRuns
  | .settleCloses => s.settleCloses
  | .hostReceive => s.hostReceive
  | .hostReceiveFails => s.hostReceiveFails
  | .hostWaitResolves => s.hostWaitResolves
  | .hostArrive message =>
    if s.host.live then
      some { s with host := { s.host with backlog := s.host.backlog ++ [message] } }
    else none
  | .hostDiscard =>
    if s.host.localClosed then some { s with host := { s.host with backlog := [] } } else none
  | .hostClose info =>
    if s.host.live then some { s with host := { s.host with closed := some info } } else none

/-- The action starts a callback of the shim. -/
def Action.startsCallback : Action → Bool
  | .established _ | .failed | .runSend | .blobRead _ | .uncount | .dispatchMessage | .settleRuns =>
    true
  | _ => false

/-- A callback is in the listeners of an event. -/
def State.inListeners (s : State) : Bool :=
  match s.connect, s.loop, s.settle with
  | .opening, _, _ | .failing, _, _ | _, .dispatching, _ | _, _, .erring _ _ => true
  | _, _, _ => false

/-- The state after an action, if the action is possible: no callback starts while another is in the
listeners of an event. -/
def step (s : State) (a : Action) : Option State :=
  if a.startsCallback && s.inListeners then none else move s a

/-- A step is a move. -/
theorem move_of_step {s s' : State} {a : Action} (h : step s a = some s') :
    move s a = some s' := by
  unfold step at h
  split at h
  · cases h
  · exact h

/-- The action is a `close()` that closes the WIT connection of an OPEN WebSocket. -/
def State.closesOpen (s : State) : Action → Bool
  | .close code reason => s.readyState = .open && (s.close code reason).isOk
  | _ => false

/-- The WebSockets of the shim: any URL. -/
def system : Transition.System State Action where
  init s := ∃ url : String, s = State.start url
  step := step

/-- A run from a constructor ends in a reachable state. -/
theorem reachable_of_run {url : String} {actions : List Action} {s : State}
    (h : system.run (State.start url) actions = some s) : system.Reachable s :=
  Transition.System.Reachable.run (.of_init ⟨url, rfl⟩) h

end Polymorph.Shim
