import PolymorphWebsocket.Host.Commands
import PolymorphWebsocket.Futures.Framing

/-!
# The wasmtime host against a peer that echoes

The pump together with a peer that reads one message, writes it back completely, and then reads the
next, over two byte streams of finite capacity.  The pump has one task for both directions: while a
write waits for room in the outbound stream, nothing is read.  A peer whose own write waits for room
in the other stream then reads nothing either, and both wait for each other.

`EchoState.Stalled` is that state, and it is the only one in which nobody can move while an echo is
outstanding.  A write leads to it exactly when some of the frames on their way, up to the new one,
do not fit the return stream when echoed while the rest does not fit the outbound stream; the runs
in which no write starts then never get stuck.
-/

namespace Polymorph.Host

open Futures Transition

/-! ### The streams -/

/-- A WebSocket frame on a stream. -/
inductive Wire
  | data (message : Message)
  | close (frame : Option CloseFrame)
  deriving DecidableEq, Repr

/-- The frame the pump hands to the `WebSocketStream`, on the wire. -/
def Frame.wire : Frame → Wire
  | .data _ message => .data message
  | .close frame => .close frame

/-- What `ws.next()` makes of a frame. -/
def Wire.inbound : Wire → Inbound
  | .data (.binary bytes) => .binary bytes
  | .data (.string text) => .text text
  | .close frame => .close frame

/-- The frame behind an outcome of `ws.next()`. -/
def Inbound.wire? : Inbound → Option Wire
  | .binary bytes => some (.data (.binary bytes))
  | .text text => some (.data (.string text))
  | .close frame => some (.close frame)
  | .ping _ | .pong _ | .frame | .capacity | .connectionClosed | .error => none

@[simp] theorem Wire.wire?_inbound (wire : Wire) : Inbound.wire? wire.inbound = some wire := by
  rcases wire with (bytes | text) | frame <;> rfl

/-- The two streams: how many bytes of a frame come before its last one, on the masked frames of the
client and on the server's, and how many bytes each stream holds. -/
structure Streams where
  client : Wire → Nat
  server : Wire → Nat
  outCapacity : Nat
  backCapacity : Nat
  outCapacity_pos : 0 < outCapacity
  backCapacity_pos : 0 < backCapacity

/-! ### The system -/

/-- The pump, the peer, the streams between them, and the calls the guest still makes. -/
structure EchoState where
  host : State
  /-- The bytes of the frame being written that the outbound stream has not taken. -/
  pending : List (Cell Wire)
  /-- The outbound stream. -/
  out : List (Cell Wire)
  /-- How many bytes of its next frame the peer has read. -/
  heard : Nat
  /-- The bytes of the echo being written that the return stream has not taken. -/
  echo : List (Cell Wire)
  /-- The peer has answered a close frame. -/
  peerClosed : Bool
  /-- The return stream. -/
  back : List (Cell Wire)
  /-- The `send` calls to come. -/
  sends : List Message
  /-- The `receive` calls that are pending or to come. -/
  receives : Nat
  /-- The messages the guest has received. -/
  taken : List Message

/-- The connection before the guest's first call. -/
def EchoState.start (closeTimeout : Duration) (limit now largest : Nat)
    (hreaches : now + closeTimeout.asNanos ≤ largest) (sends : List Message) (receives : Nat) :
    EchoState where
  host := .start closeTimeout limit now largest hreaches
  pending := []
  out := []
  heard := 0
  echo := []
  peerClosed := false
  back := []
  sends := sends
  receives := receives
  taken := []

namespace EchoState

variable (e : EchoState)

/-- An arm of the pump's select is ready; without one the pump is not woken. -/
def selectReady : Bool :=
  (!e.host.pump.cmdsDone && (!e.host.shared.cmds.isEmpty || e.host.shared.sendersGone)) ||
    !e.host.inbound.isEmpty || !e.back.isEmpty || e.peerClosed && e.echo.isEmpty || e.host.expired

/-- `ws.next()` has bytes to look at before its arm is pending. -/
def reads : Bool :=
  e.host.pump.pc == .select .read && e.host.inbound.isEmpty &&
    (!e.back.isEmpty || e.peerClosed && e.echo.isEmpty)

/-- A select is polled if one of its arms is ready, and its read arm is passed over only when there
is nothing to read. -/
def woken : Bool :=
  match e.host.pump.pc with
  | .select _ => e.selectReady && !e.reads
  | _ => true

/-- The pump runs up to its next suspension point. -/
def poll : Option EchoState :=
  if e.woken then e.host.poll.map fun host => { e with host := host } else none

/-- The `WebSocketStream` accepts the frame of the pending write. -/
def hand (net : Streams) : Option EchoState :=
  match e.host.pump.pc with
  | .writing (.send frame false) _ _ =>
    e.host.hand.map fun host => { e with host := host, pending := Cell.encode net.client frame.wire }
  | _ => none

/-- The outbound stream takes a byte of the pending write. -/
def flush (net : Streams) : Option EchoState :=
  match e.pending with
  | cell :: rest =>
    if e.out.length < net.outCapacity then
      some { e with pending := rest, out := e.out ++ [cell] }
    else none
  | [] => none

/-- The pending write completes once the stream has taken all of it. -/
def written : Option EchoState :=
  if e.pending = [] then e.host.written.map fun host => { e with host := host } else none

/-- `ws.next()` takes a byte from the return stream, or finds that it has ended. -/
def read : Option EchoState :=
  if e.reads then
    match e.back with
    | .part :: rest => some { e with back := rest }
    | .last wire :: rest =>
      (step e.host (.arrive [wire.inbound])).map fun host => { e with host := host, back := rest }
    | [] => (step e.host (.arrive [.connectionClosed])).map fun host => { e with host := host }
  else none

/-- The peer reads a byte, once it has written its last echo; a whole frame is echoed next. -/
def hear (net : Streams) : Option EchoState :=
  if e.echo = [] ∧ e.peerClosed = false then
    match e.out with
    | .part :: rest => some { e with out := rest, heard := e.heard + 1 }
    | .last wire :: rest =>
      some { e with
        out := rest
        heard := 0
        echo := Cell.encode net.server wire
        peerClosed := match wire with
          | .data _ => false
          | .close _ => true }
    | [] => none
  else none

/-- The return stream takes a byte of the peer's echo. -/
def reply (net : Streams) : Option EchoState :=
  match e.echo with
  | cell :: rest =>
    if e.back.length < net.backCapacity then
      some { e with echo := rest, back := e.back ++ [cell] }
    else none
  | [] => none

/-- The guest makes its next `send` call. -/
def callSend : Option EchoState :=
  match e.sends with
  | message :: rest =>
    (step e.host (.send message)).map fun host => { e with host := host, sends := rest }
  | [] => none

/-- A `receive` call takes a message. -/
def receive : Option EchoState :=
  match e.receives, e.host.shared.queue.items with
  | receives + 1, message :: _ =>
    (step e.host .take).map fun host =>
      { e with host := host, receives := receives, taken := e.taken ++ [message] }
  | _, _ => none

end EchoState

/-- The moves of the pump, the peer and the guest, and the clock. -/
inductive EchoAction
  | send
  | enqueue (id : Nat) (message : Message)
  | receive
  | release
  | poll
  | hand
  | flush
  | written
  | writeBound
  | read
  | hear
  | reply
  | tick (dt : Nat)
  deriving DecidableEq, Repr

/-- A move of the host that the streams have no part in. -/
def EchoState.hostStep (e : EchoState) (a : Action) : Option EchoState :=
  (step e.host a).map fun host => { e with host := host }

/-- The state after a move, if the move is possible. -/
def echoStep (net : Streams) (e : EchoState) : EchoAction → Option EchoState
  | .send => e.callSend
  | .enqueue id message => e.hostStep (.enqueue id message)
  | .receive => e.receive
  | .release => e.hostStep .release
  | .poll => e.poll
  | .hand => e.hand net
  | .flush => e.flush net
  | .written => e.written
  | .writeBound => e.hostStep .writeBound
  | .read => e.read
  | .hear => e.hear net
  | .reply => e.reply net
  | .tick dt => e.hostStep (.tick dt)

/-- The pump against the echoing peer, with any calls of the guest. -/
def echoSystem (net : Streams) : Transition.System EchoState EchoAction where
  init e := ∃ (closeTimeout : Duration) (limit now largest : Nat)
    (hreaches : now + closeTimeout.asNanos ≤ largest) (sends : List Message) (receives : Nat),
    limit < wordSize ∧ e = .start closeTimeout limit now largest hreaches sends receives
  step := echoStep net

/-- Some accepted message has not been echoed into the inbound queue. -/
def EchoState.Unechoed (e : EchoState) : Prop :=
  (e.taken ++ e.host.shared.queue.items).length < e.host.hist.enqueued.length

instance (e : EchoState) : Decidable e.Unechoed :=
  inferInstanceAs (Decidable (_ < _))

/-- The pump's write waits for room in the outbound stream and the peer's for room in the other. -/
def EchoState.Stalled (net : Streams) (e : EchoState) : Prop :=
  e.pending ≠ [] ∧ net.outCapacity ≤ e.out.length ∧ e.echo ≠ [] ∧ net.backCapacity ≤ e.back.length

/-- The guest, the pump or the peer can move: the clock does not count. -/
def EchoState.CanMove (net : Streams) (e : EchoState) : Prop :=
  ∃ a, (∀ dt, a ≠ .tick dt) ∧ (echoSystem net).Enabled e a

/-! ### Where an accepted message is -/

/-- The message of a `send` call, on the wire. -/
def sentWire (send : Nat × Message) : Wire := .data send.2

/-- The frame the pump has read and not queued yet. -/
def Pc.carried : Pc → List Wire
  | .resolved (.read outcome) => (Inbound.wire? outcome).toList
  | .reserved message | .counted message => [.data message]
  | _ => []

/-- What has come back: received, queued, in the pump's hands, or decoded. -/
def State.behind (s : State) (taken : List Message) : List Wire :=
  (taken ++ s.shared.queue.items).map .data ++ s.pump.pc.carried ++ s.inbound.filterMap Inbound.wire?

/-- What has not been handed over. -/
def State.ahead (s : State) : List Wire :=
  (s.pump.pc.unhanded ++ s.shared.cmds.filterMap Cmd.send?).map sentWire

/-- The points of a pump that does nothing but send and receive. -/
inductive Pc.Echoing : Pc → Prop
  | select (arm : Arm) : Echoing (.select arm)
  | cmd (id : Nat) (message : Message) : Echoing (.resolved (.cmd (some (.send id message))))
  | read {outcome : Inbound} {message : Message}
      (h : Inbound.wire? outcome = some (.data message)) : Echoing (.resolved (.read outcome))
  | reserved (message : Message) : Echoing (.reserved message)
  | counted (message : Message) : Echoing (.counted message)
  | writing (id : Nat) (message : Message) (handed : Bool) :
      Echoing (.writing (.send (.data id message) handed) .localClose (.reply id))

/-- Neither side has begun to close. -/
structure State.Quiet (s : State) : Prop where
  localClosed : s.shared.localClosed = false
  cmdsClosed : s.shared.cmdsClosed = false
  cmdsDone : s.pump.cmdsDone = false
  sendersGone : s.shared.sendersGone = false
  wireClosing : s.pump.wireClosing = false
  writeDead : s.pump.writeDead = false
  deadline : s.pump.deadline = none
  senderLive : s.shared.queue.senderLive = true
  cmds : ∀ cmd ∈ s.shared.cmds, ∃ id message, cmd = .send id message
  inbound : ∀ outcome ∈ s.inbound, ∃ wire, Inbound.wire? outcome = some wire
  point : s.pump.pc.Echoing

/-- The invariant of the echo: every accepted message is in one place, in the order of the channel. -/
structure EchoState.Sound (net : Streams) (e : EchoState) : Prop where
  quiet : e.host.Quiet
  flow : e.host.hist.enqueued.map sentWire =
    e.host.behind e.taken ++ Cell.frames (e.back ++ e.echo ++ (e.out ++ e.pending)) ++ e.host.ahead
  pending : e.pending ≠ [] →
    ∃ id message, e.host.pump.pc = .writing (.send (.data id message) true) .localClose (.reply id)
  line : Cell.Framed net.client e.heard (e.out ++ e.pending)
  peerClosed : e.peerClosed = false

/-- The pump is about to find that an echo exceeds the inbound limit. -/
def EchoState.exceeds (e : EchoState) : Bool :=
  match e.host.pump.pc with
  | .resolved (.read outcome) =>
    match Inbound.wire? outcome with
    | some (.data message) => !e.host.shared.budget.fits message.payloadLen
    | some (.close _) | none => false
  | _ => false

/-- The condition on a step: no echo exceeds the inbound limit. -/
def WithinLimit (e : EchoState) (a : EchoAction) : Prop := a = .poll → e.exceeds = false

instance (e : EchoState) (a : EchoAction) : Decidable (WithinLimit e a) :=
  inferInstanceAs (Decidable (_ → _))

namespace EchoState.Sound

variable {net : Streams} {e e' : EchoState}

/-- Everything on its way is a message. -/
theorem data_of_mem (h : e.Sound net) {wire : Wire}
    (hmem : wire ∈ e.host.behind e.taken ∨
      wire ∈ Cell.frames (e.back ++ e.echo ++ (e.out ++ e.pending))) : ∃ message, wire = .data message := by
  have hin : wire ∈ e.host.hist.enqueued.map sentWire := by
    rw [h.flow]
    rcases hmem with hmem | hmem
    · exact List.mem_append_left _ (List.mem_append_left _ hmem)
    · exact List.mem_append_left _ (List.mem_append_right _ hmem)
  obtain ⟨send, -, rfl⟩ := List.mem_map.mp hin
  exact ⟨send.2, rfl⟩

/-- A pump that can be polled has no write on its way. -/
theorem pending_nil (h : e.Sound net)
    (hpc : ∀ id message, e.host.pump.pc ≠ .writing (.send (.data id message) true) .localClose (.reply id)) :
    e.pending = [] := by
  by_contra hne
  obtain ⟨id, message, hwriting⟩ := h.pending hne
  exact hpc id message hwriting

/-- The pump moves, without a write on its way, and moves no frame to or from the streams. -/
theorem moveHost (h : e.Sound net) (hpending : e.pending = []) {host : State} (hquiet : host.Quiet)
    (henqueued : host.hist.enqueued = e.host.hist.enqueued)
    (hbehind : host.behind e.taken = e.host.behind e.taken) (hahead : host.ahead = e.host.ahead) :
    ({ e with host := host } : EchoState).Sound net := by
  refine ⟨hquiet, ?_, fun hne => absurd hpending hne, h.line, h.peerClosed⟩
  show host.hist.enqueued.map sentWire = host.behind e.taken ++ _ ++ host.ahead
  rw [henqueued, hbehind, hahead]
  exact h.flow

end EchoState.Sound

/-- The pump goes to another point, or takes a command or an outcome on the way. -/
theorem State.Quiet.goes {s : State} (h : s.Quiet) {pc : Pc} (hpc : pc.Echoing) : (s.setPc pc).Quiet :=
  { h with point := hpc }

namespace EchoState.Sound

variable {net : Streams} {e e' : EchoState}

/-- One poll of an arm of the select. -/
theorem pollArm (h : e.Sound net) {arm : Arm} (hpc : e.host.pump.pc = .select arm) :
    ({ e with host := e.host.pollArm arm } : EchoState).Sound net := by
  have hpending : e.pending = [] := h.pending_nil (by rw [hpc]; exact nofun)
  have hquiet := h.quiet
  have hturns (arm' : Arm) : ({ e with host := e.host.setPc (.select arm') } : EchoState).Sound net := by
    apply h.moveHost hpending (hquiet.goes (.select arm')) rfl
    · unfold State.behind
      rw [hpc]
      rfl
    · unfold State.ahead
      rw [hpc]
      rfl
  cases arm with
  | cmd =>
    unfold State.pollArm
    dsimp only
    rw [hquiet.cmdsDone, if_neg Bool.false_ne_true]
    split
    · next cmd rest hcmds =>
      obtain ⟨id, message, rfl⟩ := hquiet.cmds cmd (by rw [hcmds]; exact List.mem_cons_self)
      refine h.moveHost hpending ?_ rfl ?_ ?_
      · refine { hquiet with cmds := fun cmd hcmd => ?_, point := .cmd id message }
        exact hquiet.cmds cmd (by rw [hcmds]; exact List.mem_cons_of_mem _ hcmd)
      · unfold State.behind
        rw [hpc]
        rfl
      · unfold State.ahead
        rw [hpc, hcmds]
        rfl
    · rw [hquiet.sendersGone, if_neg Bool.false_ne_true]
      exact hturns .read
  | read =>
    unfold State.pollArm
    dsimp only
    split
    · next outcome rest hin =>
      obtain ⟨wire, hwire⟩ := hquiet.inbound outcome (by rw [hin]; exact List.mem_cons_self)
      obtain ⟨message, rfl⟩ : ∃ message, wire = .data message := by
        apply h.data_of_mem
        left
        unfold State.behind
        rw [hin, List.filterMap_cons, hwire]
        exact List.mem_append_right _ List.mem_cons_self
      refine h.moveHost hpending ?_ rfl ?_ ?_
      · refine { hquiet with inbound := fun outcome houtcome => ?_, point := .read hwire }
        exact hquiet.inbound outcome (by rw [hin]; exact List.mem_cons_of_mem _ houtcome)
      · unfold State.behind
        rw [hpc, hin, List.filterMap_cons, hwire]
        show (e.taken ++ e.host.shared.queue.items).map Wire.data ++ (Inbound.wire? outcome).toList ++
          rest.filterMap Inbound.wire? = _
        rw [hwire]
        show _ = (e.taken ++ e.host.shared.queue.items).map Wire.data ++ [] ++ _
        rw [List.append_nil, List.append_assoc]
        rfl
      · unfold State.ahead
        rw [hpc]
        rfl
    · exact hturns .deadline
  | deadline =>
    have hexpired : e.host.expired = false := by
      unfold State.expired
      rw [hquiet.deadline]
      rfl
    unfold State.pollArm
    dsimp only
    rw [hexpired]
    exact hturns .cmd

/-- One step of the pump between two suspension points. -/
theorem poll (h : e.Sound net) (hlimit : e.exceeds = false) (hs : e.poll = some e') :
    e'.Sound net := by
  have hquiet := h.quiet
  obtain ⟨host, hhost, rfl⟩ : ∃ host, e.host.poll = some host ∧ e' = { e with host := host } := by
    unfold EchoState.poll at hs
    split at hs
    · obtain ⟨host, hhost, rfl⟩ := Option.map_eq_some_iff.mp hs
      exact ⟨host, hhost, rfl⟩
    · cases hs
  have hpoint := hquiet.point
  unfold State.poll at hhost
  cases hpc : e.host.pump.pc with
  | select arm =>
    rw [hpc] at hhost
    obtain rfl := Option.some.inj hhost
    exact h.pollArm hpc
  | resolved r =>
    have hpending : e.pending = [] := h.pending_nil (by rw [hpc]; exact nofun)
    rw [hpc] at hhost hpoint
    obtain rfl := Option.some.inj hhost
    cases hpoint with
    | cmd id message =>
      have hstarts : e.host.onResolved (.cmd (some (.send id message))) =
          e.host.setPc (.writing (.send (.data id message) false) .localClose (.reply id)) := by
        show (if e.host.pump.wireClosing || e.host.pump.writeDead then _ else
          e.host.boundedWrite (.send (.data id message) false) (.reply id)) = _
        unfold State.boundedWrite
        rw [hquiet.wireClosing, hquiet.writeDead, hquiet.deadline]
        rfl
      rw [hstarts]
      apply h.moveHost hpending (hquiet.goes (.writing id message false)) rfl
      · unfold State.behind
        rw [hpc]
        rfl
      · unfold State.ahead
        rw [hpc]
        rfl
    | @read outcome message hwire =>
      have hfits : e.host.shared.budget.fits message.payloadLen = true := by
        unfold EchoState.exceeds at hlimit
        rw [hpc] at hlimit
        dsimp only at hlimit
        rw [hwire] at hlimit
        simpa using hlimit
      have hreserves : e.host.onResolved (.read outcome) = e.host.setPc (.reserved message) := by
        have hdeliver : e.host.onResolved (.read outcome) = e.host.deliver message := by
          cases outcome with
          | binary | text => cases hwire; rfl
          | close | ping | pong | frame | capacity | connectionClosed | error => cases hwire
        rw [hdeliver]
        unfold State.deliver
        rw [hquiet.wireClosing, hfits]
        rfl
      rw [hreserves]
      apply h.moveHost hpending (hquiet.goes (.reserved message)) rfl
      · unfold State.behind
        rw [hpc]
        show _ ++ [Wire.data message] ++ _ = _ ++ (Inbound.wire? outcome).toList ++ _
        rw [hwire]
        rfl
      · unfold State.ahead
        rw [hpc]
        rfl
  | reserved message =>
    have hpending : e.pending = [] := h.pending_nil (by rw [hpc]; exact nofun)
    rw [hpc] at hhost
    obtain rfl := Option.some.inj hhost
    refine h.moveHost hpending ?_ rfl ?_ ?_
    · exact { hquiet with point := .counted message }
    · unfold State.behind
      rw [hpc]
      rfl
    · unfold State.ahead
      rw [hpc]
      rfl
  | counted message =>
    have hpending : e.pending = [] := h.pending_nil (by rw [hpc]; exact nofun)
    rw [hpc] at hhost
    obtain rfl := Option.some.inj hhost
    refine h.moveHost hpending ?_ rfl ?_ ?_
    · exact { hquiet with point := .select .cmd }
    · unfold State.behind
      rw [hpc]
      show (e.taken ++ (e.host.shared.queue.push message).items).map Wire.data ++ [] ++ _ =
        _ ++ [Wire.data message] ++ _
      rw [Receiver.push_items_of_live hquiet.senderLive, ← List.append_assoc, List.map_append,
        List.append_nil]
      rfl
    · unfold State.ahead
      rw [hpc]
      rfl
  | writing write bound next =>
    rw [hpc] at hhost
    cases hhost
  | finalize stage =>
    rw [hpc] at hpoint
    cases hpoint
  | done =>
    rw [hpc] at hpoint
    cases hpoint

/-- The frame of a `send` call goes to the `WebSocketStream`. -/
theorem hand (h : e.Sound net) (hs : e.hand net = some e') : e'.Sound net := by
  have hquiet := h.quiet
  have hpoint := hquiet.point
  unfold EchoState.hand at hs
  split at hs
  · next frame bound next hpc =>
    rw [hpc] at hpoint
    cases hpoint with
    | writing id message =>
      have hpending : e.pending = [] := h.pending_nil (by rw [hpc]; exact nofun)
      have hflow := h.flow
      have hline := h.line
      rw [hpending, List.append_nil] at hflow hline
      unfold State.hand at hs
      rw [hpc] at hs
      obtain rfl := Option.some.inj hs
      refine ⟨{ hquiet with point := .writing id message true }, ?_, fun _ => ⟨id, message, rfl⟩,
        hline.write (.data message), h.peerClosed⟩
      -- the message goes from the pump's hands to the end of the outbound stream
      show e.host.hist.enqueued.map sentWire = (e.taken ++ e.host.shared.queue.items).map .data ++ [] ++
        e.host.inbound.filterMap Inbound.wire? ++ Cell.frames (e.back ++ e.echo ++
          (e.out ++ Cell.encode net.client (.data message))) ++
        ([] ++ e.host.shared.cmds.filterMap Cmd.send?).map sentWire
      rw [hflow, ← List.append_assoc (e.back ++ e.echo), Cell.frames_append _ (Cell.encode _ _),
        Cell.frames_encode]
      unfold State.behind State.ahead
      rw [hpc]
      show _ ++ [] ++ _ ++ _ ++ (sentWire (id, message) :: _) = _ ++ (_ ++ [Wire.data message]) ++ _
      rw [← List.append_assoc, List.append_assoc _ [Wire.data message]]
      rfl
  · cases hs

/-- The outbound stream takes a byte. -/
theorem flush (h : e.Sound net) (hs : e.flush net = some e') : e'.Sound net := by
  unfold EchoState.flush at hs
  split at hs
  · next cell rest hpending =>
    split at hs
    · obtain rfl := Option.some.inj hs
      have hmoves : e.out ++ [cell] ++ rest = e.out ++ e.pending := by
        rw [hpending, List.append_assoc]
        rfl
      refine ⟨h.quiet, ?_, fun _ => h.pending (by rw [hpending]; nofun), ?_, h.peerClosed⟩
      · show _ = _ ++ Cell.frames (e.back ++ e.echo ++ (e.out ++ [cell] ++ rest)) ++ _
        rw [hmoves]
        exact h.flow
      · show Cell.Framed net.client e.heard (e.out ++ [cell] ++ rest)
        rw [hmoves]
        exact h.line
    · cases hs
  · cases hs

/-- The pending write completes. -/
theorem written (h : e.Sound net) (hs : e.written = some e') : e'.Sound net := by
  have hquiet := h.quiet
  have hpoint := hquiet.point
  unfold EchoState.written at hs
  split at hs
  · next hpending =>
    obtain ⟨host, hhost, rfl⟩ := Option.map_eq_some_iff.mp hs
    unfold State.written at hhost
    split at hhost
    · cases hhost
    · next write bound next hunhanded hpc =>
      rw [hpc] at hpoint
      cases hpoint with
      | writing id message handed =>
        cases handed with
        | false => exact absurd rfl (hunhanded (.data id message))
        | true =>
          obtain rfl := Option.some.inj hhost
          refine h.moveHost hpending ?_ rfl ?_ ?_
          · exact { hquiet with point := .select .cmd }
          · unfold State.behind
            rw [hpc]
            rfl
          · unfold State.ahead
            rw [hpc]
            rfl
    · cases hhost
  · cases hs

/-- `ws.next()` takes a byte. -/
theorem read (h : e.Sound net) (hs : e.read = some e') : e'.Sound net := by
  have hquiet := h.quiet
  unfold EchoState.read at hs
  split at hs
  · next hreads =>
    have hpc : e.host.pump.pc = .select .read := by
      unfold EchoState.reads at hreads
      rw [Bool.and_eq_true, Bool.and_eq_true, beq_iff_eq] at hreads
      exact hreads.1.1
    have hin : e.host.inbound = [] := by
      unfold EchoState.reads at hreads
      rw [Bool.and_eq_true, Bool.and_eq_true, List.isEmpty_iff] at hreads
      exact hreads.1.2
    have hnil : e.pending = [] := h.pending_nil (by rw [hpc]; exact nofun)
    split at hs
    · next rest hback =>
      obtain rfl := Option.some.inj hs
      refine ⟨hquiet, ?_, h.pending, h.line, h.peerClosed⟩
      have hflow := h.flow
      rw [hback] at hflow
      exact hflow
    · next wire rest hback =>
      obtain rfl := Option.some.inj hs
      refine ⟨{ hquiet with inbound := fun outcome houtcome => ?_ }, ?_,
        fun hne => absurd hnil hne, h.line, h.peerClosed⟩
      · rw [hin] at houtcome
        rw [List.mem_singleton.mp houtcome]
        exact ⟨wire, Wire.wire?_inbound wire⟩
      · refine h.flow.trans ?_
        simp [State.behind, State.ahead, hback, hin]
    · next hback =>
      -- a peer that has not closed has not ended its stream
      unfold EchoState.reads at hreads
      rw [hback, h.peerClosed] at hreads
      simp at hreads
  · cases hs

/-- The peer reads a byte. -/
theorem hear (h : e.Sound net) (hs : e.hear net = some e') : e'.Sound net := by
  unfold EchoState.hear at hs
  split at hs
  · next hfree =>
    have hflow := h.flow
    have hline := h.line
    rw [hfree.1, List.append_nil] at hflow
    split at hs
    · next rest hout =>
      obtain rfl := Option.some.inj hs
      rw [hout] at hflow hline
      refine ⟨h.quiet, hflow.trans ?_, h.pending, hline.hear, h.peerClosed⟩
      simp [hfree.1]
    · next wire rest hout =>
      obtain rfl := Option.some.inj hs
      rw [hout] at hflow hline
      obtain ⟨message, rfl⟩ : ∃ message, wire = .data message := by
        apply h.data_of_mem
        right
        rw [hout, Cell.frames_append]
        exact List.mem_append_right _ List.mem_cons_self
      refine ⟨h.quiet, hflow.trans ?_, h.pending, hline.complete.2, rfl⟩
      simp
    · cases hs
  · cases hs

/-- The return stream takes a byte. -/
theorem reply (h : e.Sound net) (hs : e.reply net = some e') : e'.Sound net := by
  unfold EchoState.reply at hs
  split at hs
  · next cell rest hecho =>
    split at hs
    · obtain rfl := Option.some.inj hs
      refine ⟨h.quiet, ?_, h.pending, h.line, h.peerClosed⟩
      have hmoves : e.back ++ [cell] ++ rest = e.back ++ e.echo := by
        rw [hecho, List.append_assoc]
        rfl
      show _ = _ ++ Cell.frames (e.back ++ [cell] ++ rest ++ (e.out ++ e.pending)) ++ _
      rw [hmoves]
      exact h.flow
    · cases hs
  · cases hs

/-- The guest makes its calls. -/
theorem callSend (h : e.Sound net) (hs : e.callSend = some e') : e'.Sound net := by
  have hquiet := h.quiet
  unfold EchoState.callSend at hs
  split at hs
  · next message rest hsends =>
    obtain ⟨host, hhost, rfl⟩ := Option.map_eq_some_iff.mp hs
    obtain ⟨-, rfl⟩ := guestCall_eq_some.mp hhost
    unfold State.callSend
    dsimp only
    rw [hquiet.localClosed, if_neg Bool.false_ne_true]
    exact ⟨{ hquiet with }, h.flow, h.pending, h.line, h.peerClosed⟩
  · cases hs

/-- A `send` call is accepted. -/
theorem enqueue (h : e.Sound net) {id : Nat} {message : Message}
    (hs : e.hostStep (.enqueue id message) = some e') : e'.Sound net := by
  have hquiet := h.quiet
  obtain ⟨host, hhost, rfl⟩ := Option.map_eq_some_iff.mp hs
  dsimp only [step] at hhost
  split at hhost
  · obtain rfl := Option.some.inj hhost
    unfold State.enqueue
    dsimp only
    rw [if_neg (Bool.eq_false_iff.mp hquiet.cmdsClosed)]
    refine ⟨{ hquiet with cmds := fun cmd hcmd => ?_ }, ?_, h.pending, h.line, h.peerClosed⟩
    · rcases List.mem_append.mp hcmd with hcmd | hcmd
      · exact hquiet.cmds cmd hcmd
      · exact ⟨id, message, List.mem_singleton.mp hcmd⟩
    · show (e.host.hist.enqueued ++ [(id, message)]).map sentWire = _
      rw [List.map_append, h.flow]
      simp [State.behind, State.ahead, Cmd.send?]
  · cases hhost

/-- A `receive` call takes a message. -/
theorem receive (h : e.Sound net) (hs : e.receive = some e') : e'.Sound net := by
  have hquiet := h.quiet
  unfold EchoState.receive at hs
  split at hs
  · next receives message rest hreceives hitems =>
    obtain ⟨host, hhost, rfl⟩ := Option.map_eq_some_iff.mp hs
    have hpoll : e.host.shared.queue.pollNext = (.ready (some message), e.host.shared.queue.advance rest
        (Receiver.terminated_eq_false_of_cons hitems)) := by
      unfold Receiver.pollNext
      split
      · next hitems' =>
        cases hitems.symm.trans hitems'
        rfl
      · next hitems' => cases hitems.symm.trans hitems'
    dsimp only [step] at hhost
    rw [hpoll] at hhost
    split at hhost
    · next hready =>
      cases hready
      obtain rfl := Option.some.inj hhost
      refine ⟨{ hquiet with }, h.flow.trans ?_, h.pending, h.line, h.peerClosed⟩
      simp [State.behind, State.ahead, Receiver.advance, hitems]
    · cases hhost
  · cases hs

/-- The moves of the host the streams have no part in. -/
theorem hostStep (h : e.Sound net) {a : Action}
    (ha : a = .release ∨ a = .writeBound ∨ ∃ dt, a = .tick dt) (hs : e.hostStep a = some e') :
    e'.Sound net := by
  have hquiet := h.quiet
  obtain ⟨host, hhost, rfl⟩ := Option.map_eq_some_iff.mp hs
  rcases ha with rfl | rfl | ⟨dt, rfl⟩
  · dsimp only [step] at hhost
    split at hhost
    · obtain rfl := Option.some.inj hhost
      exact ⟨{ hquiet with }, h.flow, h.pending, h.line, h.peerClosed⟩
    · cases hhost
  · -- no close is requested and no deadline is armed, so no bound resolves
    dsimp only [step, State.writeBound] at hhost
    have hpoint := hquiet.point
    split at hhost
    · rw [hquiet.localClosed] at hhost
      cases hhost
    · next hpc =>
      rw [hpc] at hpoint
      cases hpoint
    · cases hhost
  · obtain ⟨-, rfl⟩ := State.eq_of_tick hhost
    exact ⟨{ hquiet with }, h.flow, h.pending, h.line, h.peerClosed⟩

/-- Every step within the inbound limit keeps the invariant. -/
theorem step (h : e.Sound net) {a : EchoAction} (hlimit : WithinLimit e a)
    (hs : echoStep net e a = some e') : e'.Sound net := by
  cases a with
  | send => exact h.callSend hs
  | enqueue id message => exact h.enqueue hs
  | receive => exact h.receive hs
  | release => exact h.hostStep (.inl rfl) hs
  | poll => exact h.poll (hlimit rfl) hs
  | hand => exact h.hand hs
  | flush => exact h.flush hs
  | written => exact h.written hs
  | writeBound => exact h.hostStep (.inr (.inl rfl)) hs
  | read => exact h.read hs
  | hear => exact h.hear hs
  | reply => exact h.reply hs
  | tick dt => exact h.hostStep (.inr (.inr ⟨dt, rfl⟩)) hs

theorem start (closeTimeout : Duration) (limit now largest : Nat)
    (hreaches : now + closeTimeout.asNanos ≤ largest) (sends : List Message) (receives : Nat) :
    (EchoState.start closeTimeout limit now largest hreaches sends receives).Sound net :=
  ⟨⟨rfl, rfl, rfl, rfl, rfl, rfl, rfl, rfl, nofun, nofun, .select .cmd⟩, rfl, fun h => absurd rfl h,
    Cell.framed_nil, rfl⟩

end EchoState.Sound

/-- Every state of a run within the inbound limit. -/
theorem echo_sound {net : Streams} {e : EchoState}
    (h : (echoSystem net).ReachableUnder WithinLimit e) : e.Sound net := by
  refine h.induction ?_ ?_
  · rintro e ⟨closeTimeout, limit, now, largest, hreaches, sends, receives, -, rfl⟩
    exact .start closeTimeout limit now largest hreaches sends receives
  · exact fun e a e' _ hsound hlimit hs => hsound.step hlimit hs

/-! ### Who can move -/

section Moves

variable {net : Streams} {e e' : EchoState}

theorem canMove_of_step {a : EchoAction} (ha : ∀ dt, a ≠ .tick dt) (hs : echoStep net e a = some e') :
    e.CanMove net :=
  ⟨a, ha, e', hs⟩

/-- A pump that is woken goes on. -/
theorem canMove_of_poll (hwoken : e.woken = true) (hpoll : e.host.poll.isSome = true) :
    e.CanMove net := by
  obtain ⟨host, hhost⟩ := Option.isSome_iff_exists.mp hpoll
  have hs : e.poll = some { e with host := host } := by
    unfold EchoState.poll
    rw [if_pos hwoken, hhost]
    rfl
  exact canMove_of_step (a := .poll) nofun hs

/-- The peer goes on reading when it has nothing to write, and writing when there is room. -/
theorem canMove_of_peer (h : e.Sound net)
    (hpeer : e.echo ≠ [] ∧ e.back.length < net.backCapacity ∨ e.echo = [] ∧ e.out ≠ []) :
    e.CanMove net := by
  rcases hpeer with ⟨hecho, hroom⟩ | ⟨hecho, hout⟩
  · obtain ⟨cell, rest, hcons⟩ := List.exists_cons_of_ne_nil hecho
    have hs : e.reply net = some { e with echo := rest, back := e.back ++ [cell] } := by
      unfold EchoState.reply
      rw [hcons]
      exact if_pos hroom
    exact canMove_of_step (a := .reply) nofun hs
  · obtain ⟨cell, rest, hcons⟩ := List.exists_cons_of_ne_nil hout
    have hfree : e.echo = [] ∧ e.peerClosed = false := ⟨hecho, h.peerClosed⟩
    obtain ⟨e', hs⟩ : ∃ e', e.hear net = some e' := by
      unfold EchoState.hear
      rw [if_pos hfree, hcons]
      cases cell with
      | part => exact ⟨_, rfl⟩
      | last wire => exact ⟨_, rfl⟩
    exact canMove_of_step (a := .hear) nofun hs

/-- A pump whose write has been handed over goes on, or waits for the stream. -/
theorem canMove_of_writing (h : e.Sound net) {id : Nat} {message : Message}
    (hpc : e.host.pump.pc = .writing (.send (.data id message) true) .localClose (.reply id)) :
    e.CanMove net ∨ e.Stalled net := by
  cases hpending : e.pending with
  | nil =>
    left
    obtain ⟨host, hhost⟩ : ∃ host, e.host.written = some host := by
      unfold State.written
      rw [hpc]
      exact ⟨_, rfl⟩
    have hs : e.written = some { e with host := host } := by
      unfold EchoState.written
      rw [if_pos hpending, hhost]
      rfl
    exact canMove_of_step (a := .written) nofun hs
  | cons cell rest =>
    by_cases hout : e.out.length < net.outCapacity
    · left
      have hs : e.flush net = some { e with pending := rest, out := e.out ++ [cell] } := by
        unfold EchoState.flush
        rw [hpending]
        exact if_pos hout
      exact canMove_of_step (a := .flush) nofun hs
    · have hfull : net.outCapacity ≤ e.out.length := Nat.le_of_not_lt hout
      by_cases hecho : e.echo = []
      · left
        refine canMove_of_peer h (.inr ⟨hecho, fun hnil => ?_⟩)
        have hpos := net.outCapacity_pos
        rw [hnil, List.length_nil] at hfull
        omega
      · by_cases hback : e.back.length < net.backCapacity
        · exact .inl (canMove_of_peer h (.inl ⟨hecho, hback⟩))
        · right
          refine ⟨?_, hfull, hecho, Nat.le_of_not_lt hback⟩
          rw [hpending]
          exact List.cons_ne_nil cell rest

/-- A select with nothing ready has its echoes with the peer. -/
theorem canMove_of_select (h : e.Sound net) (hwait : e.Unechoed) {arm : Arm}
    (hpc : e.host.pump.pc = .select arm) : e.CanMove net := by
  have hpending : e.pending = [] := h.pending_nil (by rw [hpc]; exact nofun)
  cases hready : e.selectReady with
  | true =>
    cases hreads : e.reads with
    | true =>
      obtain ⟨e', hs⟩ : ∃ e', e.read = some e' := by
        unfold EchoState.read
        rw [if_pos hreads]
        split
        · exact ⟨_, rfl⟩
        · exact ⟨_, rfl⟩
        · exact ⟨_, rfl⟩
      exact canMove_of_step (a := .read) nofun hs
    | false =>
      apply canMove_of_poll
      · unfold EchoState.woken
        rw [hpc, hready, hreads]
        rfl
      · unfold State.poll
        rw [hpc]
        rfl
  | false =>
    have hcmds : e.host.shared.cmds = [] := by
      by_contra hne
      unfold EchoState.selectReady at hready
      rw [h.quiet.cmdsDone] at hready
      simp [hne] at hready
    have hin : e.host.inbound = [] := by
      by_contra hne
      unfold EchoState.selectReady at hready
      simp [hne] at hready
    have hback : e.back = [] := by
      by_contra hne
      unfold EchoState.selectReady at hready
      simp [hne] at hready
    -- nothing is with the pump, so what is outstanding is with the peer or on its way there
    have hcount := congrArg List.length h.flow
    have hwait' : (e.taken ++ e.host.shared.queue.items).length < e.host.hist.enqueued.length := hwait
    have hpeer : Cell.frames (e.echo ++ e.out) ≠ [] := by
      intro hnil
      simp [State.behind, State.ahead, hpc, hcmds, hin, hback, hpending, Pc.carried, Pc.unhanded] at hcount
      simp at hnil hwait'
      rw [hnil.1, hnil.2] at hcount
      simp at hcount
      omega
    apply canMove_of_peer h
    by_cases hecho : e.echo = []
    · right
      refine ⟨hecho, fun hout => hpeer ?_⟩
      rw [hecho, hout]
      rfl
    · left
      rw [hback]
      exact ⟨hecho, net.backCapacity_pos⟩

/-- While an echo is outstanding somebody can move, unless both sides wait for room. -/
theorem canMove_or_stalled (h : e.Sound net) (hwait : e.Unechoed) : e.CanMove net ∨ e.Stalled net := by
  have hpoint := h.quiet.point
  have hpoll (hwoken : e.woken = true) (hpoll : e.host.poll.isSome = true) :
      e.CanMove net ∨ e.Stalled net := .inl (canMove_of_poll hwoken hpoll)
  generalize hpc : e.host.pump.pc = pc at hpoint
  cases hpoint with
  | select arm => exact .inl (canMove_of_select h hwait hpc)
  | cmd | read | reserved | counted =>
    apply hpoll
    · unfold EchoState.woken
      rw [hpc]
    · unfold State.poll
      rw [hpc]
      rfl
  | writing id message handed =>
    cases handed with
    | false =>
      left
      obtain ⟨e', hs⟩ : ∃ e', e.hand net = some e' := by
        unfold EchoState.hand State.hand
        rw [hpc]
        exact ⟨_, rfl⟩
      exact canMove_of_step (a := .hand) nofun hs
    | true => exact canMove_of_writing h hpc

end Moves

/-! ### Writes that have room -/

/-- However many of the frames the peer echoes, with what it is echoing already, they fit the return
stream, or the rest of the frames fits the outbound stream. -/
def Streams.Roomy (net : Streams) (echo back : Nat) (frames : List Wire) : Prop :=
  ∀ k ≤ frames.length, echo + Cell.size net.server (frames.take k) + back ≤ net.backCapacity ∨
    Cell.size net.client (frames.drop k) ≤ net.outCapacity

instance (net : Streams) (echo back : Nat) (frames : List Wire) :
    Decidable (net.Roomy echo back frames) :=
  inferInstanceAs (Decidable (∀ k ≤ frames.length, _ ∨ _))

/-- The frame the pump is about to hand over. -/
def Pc.toHand : Pc → List Frame
  | .writing write _ _ => write.unhanded
  | _ => []

/-- The condition on a step: no echo exceeds the inbound limit, and a write starts only when the
frames on their way leave room for it. -/
def KeepsMoving (net : Streams) (e : EchoState) (a : EchoAction) : Prop :=
  WithinLimit e a ∧ (a = .hand → ∀ frame ∈ e.host.pump.pc.toHand,
    net.Roomy e.echo.length e.back.length (Cell.frames e.out ++ [frame.wire]))

instance (net : Streams) (e : EchoState) (a : EchoAction) : Decidable (KeepsMoving net e a) :=
  inferInstanceAs (Decidable ((a = .poll → _) ∧ (a = .hand → ∀ frame ∈ _, _)))

/-- A write on its way has room. -/
def EchoState.Room (net : Streams) (e : EchoState) : Prop :=
  e.pending ≠ [] → net.Roomy e.echo.length e.back.length (Cell.frames (e.out ++ e.pending))

section Room

variable {net : Streams} {e e' : EchoState}

/-- With room for its write the pump does not wait for a peer that waits. -/
theorem not_stalled (h : e.Sound net) (hroom : e.Room net) : ¬ e.Stalled net := by
  rintro ⟨hpending, hout, hecho, hback⟩
  have hwriting : 0 < e.pending.length := List.length_pos_iff.mpr hpending
  have hechoing : 0 < e.echo.length := List.length_pos_iff.mpr hecho
  have hline := h.line.length_le
  rw [List.length_append] at hline
  rcases hroom hpending 0 (Nat.zero_le _) with hfits | hfits
  · rw [List.take_zero, Cell.size_nil] at hfits
    omega
  · rw [List.drop_zero] at hfits
    omega

/-- What moves nothing between the pump and the peer changes no room. -/
theorem room_congr (hroom : e.Room net) (hpending : e'.pending = e.pending) (hout : e'.out = e.out)
    (hecho : e'.echo = e.echo) (hback : e'.back = e.back) : e'.Room net := by
  unfold EchoState.Room at *
  rw [hpending, hout, hecho, hback]
  exact hroom

/-- The peer reads a byte: the frame it completes is the first of those it is about to echo. -/
theorem room_hear (hroom : e.Room net) (hs : e.hear net = some e') :
    e'.Room net := by
  unfold EchoState.hear at hs
  split at hs
  · next hfree =>
    split at hs
    · next rest hout =>
      obtain rfl := Option.some.inj hs
      intro hpending
      have hroom' := hroom hpending
      rw [hout] at hroom'
      exact hroom'
    · next wire rest hout =>
      obtain rfl := Option.some.inj hs
      intro hpending k hk
      have hroom' := hroom hpending
      rw [hout, hfree.1] at hroom'
      rcases hroom' (k + 1) (Nat.succ_le_succ hk) with hfits | hfits
      · left
        rw [List.cons_append, Cell.frames_last, List.take_succ_cons, Cell.size_cons,
          List.length_nil] at hfits
        show (Cell.encode net.server wire).length +
          Cell.size net.server ((Cell.frames (rest ++ e.pending)).take k) + e.back.length ≤ _
        rw [Cell.length_encode]
        omega
      · right
        exact hfits
    · cases hs
  · cases hs

/-- Every step that starts a write only with room keeps the room. -/
theorem room_step (h : e.Sound net) (hroom : e.Room net) {a : EchoAction} (hc : KeepsMoving net e a)
    (hs : echoStep net e a = some e') : e'.Room net := by
  have hhost (hs : ∃ b, e.hostStep b = some e') : e'.Room net := by
    obtain ⟨b, hs⟩ := hs
    obtain ⟨host, -, rfl⟩ := Option.map_eq_some_iff.mp hs
    exact room_congr hroom rfl rfl rfl rfl
  cases a with
  | send =>
    change e.callSend = some e' at hs
    unfold EchoState.callSend at hs
    split at hs
    · obtain ⟨host, -, rfl⟩ := Option.map_eq_some_iff.mp hs
      exact room_congr hroom rfl rfl rfl rfl
    · cases hs
  | receive =>
    change e.receive = some e' at hs
    unfold EchoState.receive at hs
    split at hs
    · obtain ⟨host, -, rfl⟩ := Option.map_eq_some_iff.mp hs
      exact room_congr hroom rfl rfl rfl rfl
    · cases hs
  | enqueue | release | writeBound | tick => exact hhost ⟨_, hs⟩
  | poll =>
    change e.poll = some e' at hs
    unfold EchoState.poll at hs
    split at hs
    · obtain ⟨host, -, rfl⟩ := Option.map_eq_some_iff.mp hs
      exact room_congr hroom rfl rfl rfl rfl
    · cases hs
  | hand =>
    change e.hand net = some e' at hs
    have hstart := hc.2 rfl
    unfold EchoState.hand at hs
    split at hs
    · next frame bound next hpc =>
      obtain ⟨host, -, rfl⟩ := Option.map_eq_some_iff.mp hs
      rw [hpc] at hstart
      intro _
      show net.Roomy _ _ (Cell.frames (e.out ++ Cell.encode net.client frame.wire))
      rw [Cell.frames_append, Cell.frames_encode]
      exact hstart frame (List.mem_singleton_self frame)
    · cases hs
  | flush =>
    change e.flush net = some e' at hs
    unfold EchoState.flush at hs
    split at hs
    · next cell rest hpending =>
      split at hs
      · obtain rfl := Option.some.inj hs
        intro _
        have hroom' := hroom (by rw [hpending]; exact List.cons_ne_nil cell rest)
        rw [hpending] at hroom'
        show net.Roomy _ _ (Cell.frames (e.out ++ [cell] ++ rest))
        rw [List.append_assoc]
        exact hroom'
      · cases hs
    · cases hs
  | written =>
    change e.written = some e' at hs
    unfold EchoState.written at hs
    split at hs
    · obtain ⟨host, -, rfl⟩ := Option.map_eq_some_iff.mp hs
      exact room_congr hroom rfl rfl rfl rfl
    · cases hs
  | read =>
    -- the pump reads between two writes
    intro hpending
    change e.read = some e' at hs
    have hkeeps : e'.pending = e.pending := by
      unfold EchoState.read at hs
      split at hs
      · split at hs
        · obtain rfl := Option.some.inj hs
          rfl
        · obtain ⟨host, -, rfl⟩ := Option.map_eq_some_iff.mp hs
          rfl
        · obtain ⟨host, -, rfl⟩ := Option.map_eq_some_iff.mp hs
          rfl
      · cases hs
    obtain ⟨id, message, hpc⟩ := h.pending (hkeeps ▸ hpending)
    unfold EchoState.read EchoState.reads at hs
    rw [hpc] at hs
    cases hs
  | hear => exact room_hear hroom hs
  | reply =>
    change e.reply net = some e' at hs
    unfold EchoState.reply at hs
    split at hs
    · next cell rest hecho =>
      split at hs
      · obtain rfl := Option.some.inj hs
        intro hpending k hk
        rcases hroom hpending k hk with hfits | hfits
        · left
          rw [hecho, List.length_cons] at hfits
          show rest.length + Cell.size net.server ((Cell.frames (e.out ++ e.pending)).take k) +
            (e.back ++ [cell]).length ≤ _
          rw [List.length_append, List.length_singleton]
          omega
        · exact .inr hfits
      · cases hs
    · cases hs

end Room

/-- A pump whose writes start only with room for them does not get stuck with its peer: in every
state of every run within the inbound limit in which an accepted message has not been echoed into
the inbound queue, the guest, the pump or the peer can move, unless the pump's write and the peer's
both wait for room; and in a run whose writes start with room they never do. -/
theorem echo_keeps_moving (net : Streams) (e : EchoState) :
    ((echoSystem net).ReachableUnder WithinLimit e → e.Unechoed →
      e.CanMove net ∨ e.Stalled net) ∧
    ((echoSystem net).ReachableUnder (KeepsMoving net) e → e.Unechoed → e.CanMove net) := by
  constructor
  · intro h hwait
    exact canMove_or_stalled (echo_sound h) hwait
  · intro h hwait
    have hsound : e.Sound net := echo_sound (h.mono fun e a hc => hc.1)
    have hroom : e.Room net := by
      refine h.induction ?_ ?_
      · rintro e ⟨closeTimeout, limit, now, largest, hreaches, sends, receives, -, rfl⟩
        exact fun hne => absurd rfl hne
      · intro e a e' hreach hroom hc hs
        exact room_step (echo_sound (hreach.mono fun e a hc => hc.1)) hroom hc hs
    exact (canMove_or_stalled hsound hwait).resolve_right (not_stalled hsound hroom)

/-- The payload bytes of a frame. -/
def Wire.payloadLen : Wire → Nat
  | .data message => message.payloadLen
  | .close none => 0
  | .close (some frame) => 2 + frame.reason.utf8ByteSize

/-- The bytes of a WebSocket frame before its last one: a header of two bytes, the extended length,
the masking key, and the payload. -/
def Wire.parts (mask : Nat) (wire : Wire) : Nat :=
  let extended := if wire.payloadLen < 126 then 0 else if wire.payloadLen < 65536 then 2 else 8
  1 + extended + mask + wire.payloadLen

/-- The streams of a WebSocket: the client masks its frames. -/
def Streams.websocket (outCapacity backCapacity : Nat) (hout : 0 < outCapacity)
    (hback : 0 < backCapacity) : Streams where
  client := Wire.parts 4
  server := Wire.parts 0
  outCapacity := outCapacity
  backCapacity := backCapacity
  outCapacity_pos := hout
  backCapacity_pos := hback

/-- Two pipelined messages over streams that hold a few frames: the first echo is still with the
peer while the second message is on its way. -/
theorem echo_keeps_moving_pipelined :
    ∃ e, (echoSystem (.websocket 16 16 (by decide) (by decide))).ReachableUnder
      (KeepsMoving (.websocket 16 16 (by decide) (by decide))) e ∧ e.Unechoed ∧ e.pending ≠ [] ∧
      e.CanMove (.websocket 16 16 (by decide) (by decide)) := by
  obtain ⟨e, hrun, hwait, hpending⟩ : ∃ e,
      (echoSystem (.websocket 16 16 (by decide) (by decide))).runUnder
        (KeepsMoving (.websocket 16 16 (by decide) (by decide)))
        (EchoState.start ⟨0, 10, by decide⟩ 100 0 1000 (by decide) [.binary [1], .binary [2]] 2)
        [.send, .send, .enqueue 0 (.binary [1]), .enqueue 1 (.binary [2]), .poll, .poll, .hand,
          .flush, .flush, .flush, .flush, .flush, .flush, .flush, .written, .hear, .hear, .hear,
          .hear, .hear, .hear, .hear, .poll, .poll, .hand] = some e ∧
        e.Unechoed ∧ e.pending ≠ [] := ⟨_, rfl, by decide, by decide⟩
  have hreach : (echoSystem (.websocket 16 16 (by decide) (by decide))).ReachableUnder
      (KeepsMoving (.websocket 16 16 (by decide) (by decide))) e :=
    .runUnder (.init ⟨⟨0, 10, by decide⟩, 100, 0, 1000, by decide, _, 2, by decide, rfl⟩) hrun
  exact ⟨e, hreach, hwait, hpending, (echo_keeps_moving _ e).2 hreach hwait⟩

/-- Two pipelined messages over streams of one byte: the pump waits to write the second one while
the peer waits to write the first one back, and nobody reads. -/
theorem pump_does_not_read_while_writing :
    ¬ ∀ (net : Streams) (e : EchoState), (echoSystem net).ReachableUnder WithinLimit e →
      e.Unechoed → e.CanMove net := by
  intro hclaim
  obtain ⟨e, hrun, hwait, hstuck⟩ : ∃ e,
      (echoSystem (.websocket 1 1 (by decide) (by decide))).runUnder WithinLimit
        (EchoState.start ⟨0, 10, by decide⟩ 100 0 1000 (by decide) [.binary [1], .binary [2]] 2)
        [.send, .send, .enqueue 0 (.binary [1]), .enqueue 1 (.binary [2]), .poll, .poll, .hand,
          .flush, .hear, .flush, .hear, .flush, .hear, .flush, .hear, .flush, .hear, .flush, .hear,
          .flush, .written, .hear, .reply, .poll, .poll, .hand, .flush] = some e ∧ e.Unechoed ∧
        ∀ a, (∀ dt, a ≠ .tick dt) →
          echoStep (.websocket 1 1 (by decide) (by decide)) e a = none := by
    refine ⟨_, rfl, by decide, fun a ha => ?_⟩
    cases a with
    | tick dt => exact absurd rfl (ha dt)
    | _ => rfl
  have hreach : (echoSystem (.websocket 1 1 (by decide) (by decide))).ReachableUnder WithinLimit e :=
    .runUnder (.init ⟨⟨0, 10, by decide⟩, 100, 0, 1000, by decide, _, 2, by decide, rfl⟩) hrun
  obtain ⟨a, ha, e', hs⟩ := hclaim _ e hreach hwait
  rw [show (echoSystem _).step e a = none from hstuck a ha] at hs
  cases hs

end Polymorph.Host
