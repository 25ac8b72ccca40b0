import PolymorphWebsocket.Shim.WebSocket

/-!
# The WHATWG shim: messages before the close event

The receive loop and `#settle` run side by side with nothing that orders them: `#settle` dispatches
the close event as soon as `waitClosed` resolves, which the host may do while messages are still
receivable, and the loop dispatches a message it holds whatever has happened to `readyState` in the
meantime.  In the runs in which the host and the application leave the loop the time to drain, every
message is dispatched while OPEN, in the order the host handed them out, and before the close event.
-/

namespace Polymorph.Shim

open Transition

variable {s s' : State}

/-! ### The property -/

/-- The message an event carries. -/
def Event.message? : Event → Option Message
  | .message (.text val) _ => some (.string val)
  | .message (.blob bytes) _ | .message (.arrayBuffer bytes) _ => some (.binary bytes)
  | .open | .error | .close _ _ _ => none

/-- The event is a close event. -/
def Event.isClose : Event → Bool
  | .close _ _ _ => true
  | .open | .message _ _ | .error => false

/-- The messages of a log of events. -/
def messages (events : List (Event × ReadyState)) : List Message :=
  events.filterMap fun event => event.1.message?

/-- The message the loop holds: handed out by the host, not dispatched yet. -/
def LoopPc.held : LoopPc → List Message
  | .resolved message => [message]
  | .idle | .receiving | .dispatching | .ended => []

/-- Messages are dispatched while OPEN, in order, and before the close event. -/
structure State.Delivers (s : State) : Prop where
  whileOpen : ∀ event ∈ s.hist.events, event.1.message?.isSome = true → event.2 = .open
  order : messages s.hist.events ++ s.loop.held = s.hist.handedOut
  close : ∀ pre event post, s.hist.events = pre ++ event :: post → event.1.isClose = true →
    messages pre = s.hist.handedOut ∧ s.host.backlog = [] ∧ messages post = []

/-- The condition on a step: the application closes while the loop holds no message, the host hands
nothing out after a local close, and `#settle` goes on once the loop has drained the backlog. -/
def KeepsBacklog (s : State) (a : Action) : Prop :=
  (s.closesOpen a = true → s.loop.held = []) ∧
    (a = .hostReceive → s.host.localClosed = false) ∧
    (a = .settleRuns → s.host.backlog = [] ∧ s.loop.held = [])

instance (s : State) (a : Action) : Decidable (KeepsBacklog s a) := by
  unfold KeepsBacklog
  infer_instance

/-! ### The invariant -/

/-- Nothing arrives before the handshake. -/
theorem Host.live_of_not_connected {h : Host} (hconnected : h.connected = false) :
    h.live = false := by
  unfold Host.live
  rw [hconnected]
  rfl

/-- What receiving is about. -/
structure Inbox where
  readyState : ReadyState
  connect : ConnectPc
  loop : LoopPc
  settle : SettlePc
  closeDispatched : Bool
  host : Host
  handedOut : List Message
  events : List (Event × ReadyState)

/-- The inbox of a WebSocket. -/
def State.inbox (s : State) : Inbox where
  readyState := s.readyState
  connect := s.connect
  loop := s.loop
  settle := s.settle
  closeDispatched := s.closeDispatched
  host := s.host
  handedOut := s.hist.handedOut
  events := s.hist.events

namespace Inbox

variable {i : Inbox}

/-- Nothing is receivable any more. -/
structure Drained (i : Inbox) : Prop where
  backlog : i.host.backlog = []
  held : i.loop.held = []
  live : i.host.live = false

/-- The routines go through their stages in order. -/
structure Staged (i : Inbox) : Prop where
  pending : i.connect = .pending → i.loop = .idle ∧ i.settle = .idle ∧ i.host.connected = false ∧
    i.closeDispatched = false
  opening : i.connect = .opening → i.loop = .idle ∧ i.settle = .idle ∧
    (i.readyState = .open ∨ i.host.localClosed = true)
  failing : i.connect = .failing → i.closeDispatched = true
  erring : ∀ code reason, i.settle = .erring code reason → i.closeDispatched = true
  resolved : ∀ failed info, i.settle = .resolved failed info → i.host.live = false
  backlog : i.host.connected = false → i.host.backlog = []

/-- The loop has not started before its stage of the handshake. -/
theorem Staged.started (h : i.Staged) (hloop : i.loop ≠ .idle) :
    i.connect ≠ .pending ∧ i.connect ≠ .opening :=
  ⟨fun hp => hloop (h.pending hp).1, fun ho => hloop (h.opening ho).1⟩

/-- `#settle` has not started before its stage of the handshake. -/
theorem Staged.settling (h : i.Staged) (hsettle : i.settle ≠ .idle) :
    i.connect ≠ .pending ∧ i.connect ≠ .opening :=
  ⟨fun hp => hsettle (h.pending hp).2.1, fun ho => hsettle (h.opening ho).2.1⟩

/-- The invariant. -/
structure Sound (i : Inbox) : Prop extends Staged i where
  /-- A message is held only while OPEN. -/
  held : i.loop.held ≠ [] → i.readyState = .open
  /-- The loop goes on past OPEN only when the host has nothing for it. -/
  receiving : i.loop = .receiving ∨ i.loop = .dispatching →
    i.readyState = .open ∨ i.host.localClosed = true ∨ i.host.backlog = [] ∧ i.host.live = false
  drained : i.closeDispatched = true → i.Drained
  whileOpen : ∀ event ∈ i.events, event.1.message?.isSome = true → event.2 = .open
  order : messages i.events ++ i.loop.held = i.handedOut
  close : ∀ pre event post, i.events = pre ++ event :: post → event.1.isClose = true →
    i.closeDispatched = true ∧ messages pre = messages i.events

/-- A list cut at an element after one more has been added. -/
theorem cut_of_append {α : Type} {l pre post : List α} {x y : α}
    (h : l ++ [y] = pre ++ x :: post) :
    (post = [] ∧ pre = l ∧ x = y) ∨ ∃ post', post = post' ++ [y] ∧ l = pre ++ x :: post' := by
  rcases List.eq_nil_or_concat post with rfl | ⟨post', z, rfl⟩
  · obtain ⟨hpre, hx⟩ := List.append_inj' h rfl
    exact .inl ⟨rfl, hpre.symm, (List.cons.inj hx).1.symm⟩
  · rw [List.concat_eq_append, ← List.cons_append, ← List.append_assoc] at h
    obtain ⟨hpre, hx⟩ := List.append_inj' h rfl
    obtain rfl := (List.cons.inj hx).1
    exact .inr ⟨post', List.concat_eq_append, hpre⟩

theorem messages_append (events : List (Event × ReadyState)) (event : Event × ReadyState) :
    messages (events ++ [event]) = messages events ++ event.1.message?.toList := by
  unfold messages
  rw [List.filterMap_append]
  cases h : event.1.message? <;> simp [h]

namespace Sound

/-- An event without a message is dispatched; a close event only once the close is under way. -/
theorem log (event : Event) (h : i.Sound) (hmessage : event.message? = none)
    (hclose : event.isClose = true → i.closeDispatched = true) :
    { i with events := i.events ++ [(event, i.readyState)] }.Sound := by
  have hsame : messages (i.events ++ [(event, i.readyState)]) = messages i.events := by
    rw [messages_append, hmessage]
    exact List.append_nil _
  refine ⟨{ h with }, h.held, h.receiving,
    fun hd => ⟨(h.drained hd).backlog, (h.drained hd).held, (h.drained hd).live⟩, ?_, ?_, ?_⟩
  · intro e he hsome
    rcases List.mem_append.mp he with he | he
    · exact h.whileOpen e he hsome
    · obtain rfl := List.mem_singleton.mp he
      rw [hmessage] at hsome
      cases hsome
  · show messages (i.events ++ [(event, i.readyState)]) ++ i.loop.held = i.handedOut
    rw [hsame]
    exact h.order
  · intro pre e post hcut he
    show i.closeDispatched = true ∧ messages pre = messages (i.events ++ [(event, i.readyState)])
    rw [hsame]
    rcases cut_of_append hcut with ⟨-, rfl, rfl⟩ | ⟨post', -, hcut⟩
    · exact ⟨hclose he, rfl⟩
    · exact h.close pre e post' hcut he

/-- The loop dispatches the message it holds. -/
theorem deliver {message : Message} {data : EventData} {origin : String} (h : i.Sound)
    (hloop : i.loop = .resolved message)
    (hdata : (Event.message data origin).message? = some message) :
    { i with
      loop := .dispatching
      events := i.events ++ [(Event.message data origin, i.readyState)] }.Sound := by
  have hopen : i.readyState = .open := h.held (by rw [hloop]; nofun)
  have hgoing : i.closeDispatched ≠ true := fun hd => by
    have hheld := (h.drained hd).held
    rw [hloop] at hheld
    cases hheld
  refine ⟨⟨fun hp => ?_, fun ho => ?_, h.failing, h.erring, h.resolved, h.backlog⟩, nofun,
    fun _ => .inl hopen, fun hd => absurd hd hgoing, ?_, ?_, ?_⟩
  · exact absurd ((h.pending hp).1.symm.trans hloop) nofun
  · exact absurd ((h.opening ho).1.symm.trans hloop) nofun
  · intro e he hsome
    rcases List.mem_append.mp he with he | he
    · exact h.whileOpen e he hsome
    · obtain rfl := List.mem_singleton.mp he
      exact hopen
  · show messages (i.events ++ [(Event.message data origin, i.readyState)]) ++ [] = i.handedOut
    rw [messages_append, hdata, List.append_nil, ← h.order, hloop]
    rfl
  · intro pre e post hcut he
    rcases cut_of_append hcut with ⟨-, -, rfl⟩ | ⟨post', -, hcut⟩
    · cases he
    · exact absurd (h.close pre e post' hcut he).1 hgoing

/-- The loop waits for a message, goes on to wait, or ends. -/
theorem atLoop (loop : LoopPc) (h : i.Sound) (hheld : loop.held = i.loop.held)
    (hstarted : i.connect ≠ .pending ∧ i.connect ≠ .opening)
    (hreceiving : loop = .receiving ∨ loop = .dispatching → i.readyState = .open ∨
      i.host.localClosed = true ∨ i.host.backlog = [] ∧ i.host.live = false) :
    { i with loop := loop }.Sound := by
  refine ⟨⟨fun hp => absurd hp hstarted.1, fun ho => absurd ho hstarted.2, h.failing, h.erring,
    h.resolved, h.backlog⟩, fun hne => h.held (hheld ▸ hne), hreceiving, fun hd => ?_,
    h.whileOpen, ?_, h.close⟩
  · exact ⟨(h.drained hd).backlog, hheld.trans (h.drained hd).held, (h.drained hd).live⟩
  · show messages i.events ++ loop.held = i.handedOut
    rw [hheld]
    exact h.order

/-- `readyState` leaves OPEN while the loop holds no message; what the loop will receive is nothing,
or comes after a local close. -/
theorem leavesOpen (readyState : ReadyState) (h : i.Sound) (hheld : i.loop.held = [])
    (hreceiving : i.readyState = .open → i.host.localClosed = true ∨
      i.host.backlog = [] ∧ i.host.live = false)
    (hopening : i.connect = .opening → i.readyState = .open → i.host.localClosed = true) :
    { i with readyState := readyState }.Sound := by
  refine ⟨{ h with opening := fun ho => ⟨(h.opening ho).1, (h.opening ho).2.1, .inr ?_⟩ },
    fun hne => absurd hheld hne, fun hl => .inr ?_, fun hd => ?_, h.whileOpen, h.order,
    h.close⟩
  · rcases (h.opening ho).2.2 with hopen | hlocal
    · exact hopening ho hopen
    · exact hlocal
  · rcases h.receiving hl with hopen | hrest
    · exact hreceiving hopen
    · exact hrest
  · exact ⟨(h.drained hd).backlog, (h.drained hd).held, (h.drained hd).live⟩

/-- `#settle` goes from stage to stage. -/
theorem atSettle (settle : SettlePc) (h : i.Sound)
    (hstarted : i.connect ≠ .pending ∧ i.connect ≠ .opening)
    (herring : ∀ code reason, settle = .erring code reason → i.closeDispatched = true)
    (hresolved : ∀ failed info, settle = .resolved failed info → i.host.live = false) :
    { i with settle := settle }.Sound :=
  ⟨⟨fun hp => absurd hp hstarted.1, fun ho => absurd ho hstarted.2, h.failing, herring, hresolved,
    h.backlog⟩, h.held, h.receiving, fun hd => ⟨(h.drained hd).backlog, (h.drained hd).held, (h.drained hd).live⟩,
    h.whileOpen, h.order, h.close⟩

/-- The close is under way. -/
theorem closing (h : i.Sound) (hdrained : i.Drained) (hpending : i.connect ≠ .pending) :
    { i with closeDispatched := true }.Sound :=
  ⟨⟨fun hp => absurd hp hpending, h.opening, fun _ => rfl, fun _ _ _ => rfl, h.resolved, h.backlog⟩,
    h.held, h.receiving, fun _ => ⟨hdrained.backlog, hdrained.held, hdrained.live⟩, h.whileOpen,
    h.order, fun pre event post hcut he => ⟨rfl, (h.close pre event post hcut he).2⟩⟩

/-- The handshake has settled, or its listeners have run. -/
theorem atConnect (connect : ConnectPc) (h : i.Sound) (hpending : connect ≠ .pending)
    (hopening : connect ≠ .opening) (hfailing : connect = .failing → i.closeDispatched = true) :
    { i with connect := connect }.Sound :=
  ⟨⟨fun hp => absurd hp hpending, fun ho => absurd ho hopening, hfailing, h.erring, h.resolved,
    h.backlog⟩, h.held, h.receiving,
    fun hd => ⟨(h.drained hd).backlog, (h.drained hd).held, (h.drained hd).live⟩, h.whileOpen,
    h.order, h.close⟩

/-- A local close. -/
theorem localClose (h : i.Sound) : { i with host := { i.host with localClosed := true } }.Sound :=
  ⟨{ h with opening := fun ho => ⟨(h.opening ho).1, (h.opening ho).2.1, .inr rfl⟩ },
    h.held, fun _ => .inr (.inl rfl),
    fun hd => ⟨(h.drained hd).backlog, (h.drained hd).held, (h.drained hd).live⟩, h.whileOpen,
    h.order, h.close⟩

end Sound

end Inbox

/-! ### The steps -/

/-- A new WebSocket. -/
theorem received_start (url : String) : (State.start url).inbox.Sound where
  pending _ := ⟨rfl, rfl, rfl, rfl⟩
  opening := nofun
  failing := nofun
  erring := nofun
  resolved := nofun
  backlog _ := rfl
  held hne := absurd rfl hne
  receiving := by rintro (hl | hl) <;> cases hl
  drained := nofun
  whileOpen := nofun
  order := rfl
  close pre event post hcut := by cases pre <;> cases hcut

/-- A call of `send` leaves the inbox alone. -/
theorem inbox_send (data : Data) : (orUnchanged s (s.send data)).inbox = s.inbox := by
  unfold State.send
  split
  · rfl
  · dsimp only
    split <;> rfl

/-- `close`, which closes the WIT connection of an OPEN WebSocket only when the loop holds no
message. -/
theorem received_close {code : Option Nat} {reason : Option String} (h : s.inbox.Sound)
    (hkeeps : KeepsBacklog s (.close code reason)) :
    (orUnchanged s (s.close code reason)).inbox.Sound := by
  have hclosesOpen : s.readyState = .open → (s.close code reason).isOk = true →
      s.loop.held = [] := fun hopen hok =>
    hkeeps.1 (by simp [State.closesOpen, hopen, hok])
  revert hclosesOpen
  unfold State.close
  dsimp only
  split
  · exact fun _ => h
  · split
    · exact fun _ => h
    · split
      · exact fun _ => h
      · exact fun _ => h
      · next hconnecting =>
        intro _
        have hne : s.readyState ≠ .open := by rw [hconnecting]; decide
        have hheld : s.loop.held = [] := by
          by_contra hheld
          exact hne (h.held hheld)
        exact h.leavesOpen .closing hheld (fun hopen => absurd hopen hne)
          fun _ hopen => absurd hopen hne
      · next hopen =>
        intro hheld
        exact h.localClose.leavesOpen .closing (hheld hopen rfl) (fun _ => .inl rfl) fun _ _ => rfl

/-- The handshake succeeds. -/
theorem received_established {protocol : String} (h : s.inbox.Sound)
    (hs : s.established protocol = some s') : s'.inbox.Sound := by
  unfold State.established at hs
  split at hs
  · next hpending =>
    obtain ⟨hloop, hsettle, hconnected, hgoing⟩ := h.pending hpending
    have hempty : s.host.backlog = [] := h.backlog hconnected
    have hheld : s.loop.held = [] := by rw [show s.loop = .idle from hloop]; rfl
    have hnone : s.closeDispatched ≠ true := fun hd => Bool.false_ne_true (hgoing.symm.trans hd)
    have hnotLoop : ¬ (s.loop = .receiving ∨ s.loop = .dispatching) := by
      rw [show s.loop = .idle from hloop]
      exact nofun
    have hnotErring : ∀ code reason, s.settle ≠ .erring code reason := by
      rw [show s.settle = .idle from hsettle]
      exact nofun
    have hnotResolved : ∀ failed info, s.settle ≠ .resolved failed info := by
      rw [show s.settle = .idle from hsettle]
      exact nofun
    dsimp only at hs
    split at hs
    · next code reason _ =>
      obtain rfl := Option.some.inj hs
      exact ⟨⟨nofun, nofun, nofun, nofun, nofun, nofun⟩, fun hne => absurd hheld hne,
        fun hl => absurd hl hnotLoop, fun hd => absurd hd hnone, h.whileOpen, h.order, h.close⟩
    · obtain rfl := Option.some.inj hs
      have hopened : Inbox.Sound { s.inbox with
          readyState := .open
          connect := .opening
          host := { s.host with connected := true } } :=
        ⟨⟨nofun, fun _ => ⟨hloop, hsettle, .inl rfl⟩, nofun,
          fun code reason he => absurd he (hnotErring code reason),
          fun failed info he => absurd he (hnotResolved failed info), nofun⟩, fun _ => rfl,
          fun hl => absurd hl hnotLoop, fun hd => absurd hd hnone, h.whileOpen, h.order, h.close⟩
      exact hopened.log .open rfl nofun
  · cases hs

/-- The receive loop and `#settle` start. -/
theorem received_startLoops (h : s.inbox.Sound) (hs : s.startLoops = some s') :
    s'.inbox.Sound := by
  unfold State.startLoops at hs
  split at hs
  · next hopening =>
    obtain rfl := Option.some.inj hs
    obtain ⟨hloop, -, hready⟩ := h.opening hopening
    have hdone := h.atConnect .done nofun nofun nofun
    have hwaiting := hdone.atSettle (.waiting false) ⟨nofun, nofun⟩ nofun nofun
    refine hwaiting.atLoop .receiving ?_ ⟨nofun, nofun⟩ fun _ => ?_
    · show [] = s.loop.held
      rw [show s.loop = .idle from hloop]
      rfl
    · exact hready.imp_right .inl
  · cases hs

/-- The handshake fails. -/
theorem received_failed (h : s.inbox.Sound) (hs : s.failed = some s') : s'.inbox.Sound := by
  unfold State.failed at hs
  split at hs
  · next hpending =>
    obtain ⟨hloop, hsettle, hconnected, hgoing⟩ := h.pending hpending
    have hheld : s.inbox.loop.held = [] := by rw [hloop]; rfl
    have hlive : s.inbox.host.live = false := Host.live_of_not_connected hconnected
    have hdone := (h.atConnect .done nofun nofun nofun).leavesOpen .closed hheld
      (fun _ => .inr ⟨h.backlog hconnected, hlive⟩) nofun
    dsimp only at hs
    split at hs
    · obtain rfl := Option.some.inj hs
      exact hdone
    · obtain rfl := Option.some.inj hs
      have hclosing := hdone.closing ⟨h.backlog hconnected, hheld, hlive⟩ nofun
      exact (hclosing.atConnect .failing nofun nofun fun _ => rfl).log .error rfl nofun
  · cases hs

/-- The close event of a failed connect. -/
theorem received_failedCloses (h : s.inbox.Sound) (hs : s.failedCloses = some s') :
    s'.inbox.Sound := by
  unfold State.failedCloses at hs
  split at hs
  · next hfailing =>
    obtain rfl := Option.some.inj hs
    have hdispatched : s.closeDispatched = true := h.failing hfailing
    exact (h.atConnect .done nofun nofun nofun).log (.close false 1006 "") rfl
      fun _ => hdispatched
  · cases hs

/-- The event of a message carries the message, whatever `binaryType` is. -/
theorem message?_eventData (s : State) (message : Message) (origin : String) :
    (Event.message (s.eventData message) origin).message? = some message := by
  cases message with
  | string text => rfl
  | binary bytes =>
    unfold State.eventData
    cases s.binaryType <;> rfl

/-- The loop dispatches the message it holds. -/
theorem received_dispatchMessage (h : s.inbox.Sound) (hs : s.dispatchMessage = some s') :
    s'.inbox.Sound := by
  unfold State.dispatchMessage at hs
  split at hs
  · next message hloop =>
    obtain rfl := Option.some.inj hs
    exact h.deliver hloop (message?_eventData s message s.originOf)
  · cases hs

/-- The loop calls `ws.receive()` again. -/
theorem received_receiveAgain (h : s.inbox.Sound) (hs : s.receiveAgain = some s') :
    s'.inbox.Sound := by
  unfold State.receiveAgain at hs
  split at hs
  · next hloop =>
    obtain rfl := Option.some.inj hs
    have hdispatching : s.inbox.loop = .dispatching := hloop
    refine h.atLoop .receiving (by rw [hdispatching]; rfl) (h.started ?_) fun _ => ?_
    · rw [hdispatching]
      decide
    · exact h.receiving (.inr hdispatching)
  · cases hs

/-- `#settle` goes on, once the loop has drained the backlog. -/
theorem received_settleRuns (h : s.inbox.Sound) (hkeeps : KeepsBacklog s .settleRuns)
    (hs : s.settleRuns = some s') : s'.inbox.Sound := by
  obtain ⟨hempty, hheld⟩ := hkeeps.2.2 rfl
  unfold State.settleRuns at hs
  split at hs
  · next failed info hsettle =>
    have hlive : s.host.live = false := h.resolved failed info hsettle
    have hstarted : s.connect ≠ .pending ∧ s.connect ≠ .opening :=
      h.settling (by rw [show s.inbox.settle = _ from hsettle]; nofun)
    have hdone := h.atSettle .done hstarted nofun nofun
    have hclosed := hdone.leavesOpen .closed hheld (fun _ => .inr ⟨hempty, hlive⟩)
      fun ho => absurd ho hstarted.2
    have hdrained : Inbox.Drained { s.inbox with readyState := .closed, settle := .done } :=
      ⟨hempty, hheld, hlive⟩
    dsimp only at hs
    split at hs
    · obtain rfl := Option.some.inj hs
      exact hclosed
    · have hclosing := hclosed.closing hdrained hstarted.1
      split at hs
      · obtain rfl := Option.some.inj hs
        exact hclosing.log _ rfl fun _ => rfl
      · obtain rfl := Option.some.inj hs
        exact (hclosing.atSettle (.erring _ _) hstarted (fun _ _ _ => rfl) nofun).log .error rfl
          nofun
  · cases hs

/-- The close event after an error event. -/
theorem received_settleCloses (h : s.inbox.Sound) (hs : s.settleCloses = some s') :
    s'.inbox.Sound := by
  unfold State.settleCloses at hs
  split at hs
  · next code reason hsettle =>
    obtain rfl := Option.some.inj hs
    have hdispatched : s.closeDispatched = true := h.erring code reason hsettle
    have hstarted := h.settling (by rw [show s.inbox.settle = _ from hsettle]; nofun)
    exact (h.atSettle .done hstarted nofun nofun).log (.close false code reason) rfl
      fun _ => hdispatched
  · cases hs

/-- `ws.receive()` resolves, the connection not closed by the application. -/
theorem received_hostReceive (h : s.inbox.Sound) (hkeeps : KeepsBacklog s .hostReceive)
    (hs : s.hostReceive = some s') : s'.inbox.Sound := by
  have hlocal : s.host.localClosed ≠ true := by
    rw [hkeeps.2.1 rfl]
    exact Bool.false_ne_true
  unfold State.hostReceive at hs
  split at hs
  · next message rest hloop hbacklog =>
    obtain rfl := Option.some.inj hs
    have hnotEmpty : s.host.backlog ≠ [] := by
      rw [hbacklog]
      exact List.cons_ne_nil _ _
    have hopen : s.readyState = .open := by
      rcases h.receiving (.inl hloop) with hopen | hclosed | hempty
      · exact hopen
      · exact absurd hclosed hlocal
      · exact absurd hempty.1 hnotEmpty
    have hgoing : s.closeDispatched ≠ true := fun hd => hnotEmpty (h.drained hd).backlog
    have hstarted := h.started (by rw [show s.inbox.loop = _ from hloop]; decide)
    refine ⟨⟨fun hp => absurd hp hstarted.1, fun ho => absurd ho hstarted.2, h.failing, h.erring,
      h.resolved, fun hconnected => ?_⟩, fun _ => hopen, ?_, fun hd => absurd hd hgoing,
      h.whileOpen, ?_, h.close⟩
    · exact absurd (h.backlog hconnected) hnotEmpty
    · rintro (hl | hl) <;> cases hl
    · have horder := h.order
      rw [show s.inbox.loop = _ from hloop] at horder
      show messages s.hist.events ++ [message] = s.hist.handedOut ++ [message]
      rw [← show _ = s.hist.handedOut from horder]
      exact congrArg (· ++ [message]) (List.append_nil _).symm
  · cases hs

/-- `ws.receive()` fails. -/
theorem received_hostReceiveFails (h : s.inbox.Sound) (hs : s.hostReceiveFails = some s') :
    s'.inbox.Sound := by
  unfold State.hostReceiveFails at hs
  split at hs
  · next hfails =>
    obtain rfl := Option.some.inj hs
    have hreceiving : s.inbox.loop = .receiving := hfails.1
    refine h.atLoop .ended (by rw [hreceiving]; rfl) (h.started ?_) ?_
    · rw [hreceiving]
      decide
    · rintro (hl | hl) <;> cases hl
  · cases hs

/-- `ws.waitClosed()` resolves: the connection is torn down. -/
theorem received_hostWaitResolves (h : s.inbox.Sound) (hs : s.hostWaitResolves = some s') :
    s'.inbox.Sound := by
  unfold State.hostWaitResolves at hs
  split at hs
  · next failed info hsettle hclosed =>
    obtain rfl := Option.some.inj hs
    have hlive : s.host.live = false := by
      unfold Host.live
      rw [hclosed]
      exact Bool.and_false _
    exact h.atSettle (.resolved failed info)
      (h.settling (by rw [show s.inbox.settle = _ from hsettle]; nofun)) nofun fun _ _ _ => hlive
  · cases hs

/-- The host's backlog changes while messages may still arrive, or loses messages. -/
theorem Inbox.Sound.atBacklog {i : Inbox} (backlog : List Message) (h : i.Sound)
    (hbacklog : i.host.live = false → i.host.backlog = [] → backlog = []) :
    { i with host := { i.host with backlog := backlog } }.Sound where
  pending := h.pending
  opening := h.opening
  failing := h.failing
  erring := h.erring
  resolved := h.resolved
  backlog hconnected := hbacklog (Host.live_of_not_connected hconnected) (h.backlog hconnected)
  held := h.held
  receiving hl := (h.receiving hl).imp_right fun hrest =>
    hrest.imp_right fun ⟨hempty, hlive⟩ => ⟨hbacklog hlive hempty, hlive⟩
  drained hd := by
    obtain ⟨hempty, hheld, hlive⟩ := h.drained hd
    exact ⟨hbacklog hlive hempty, hheld, hlive⟩
  whileOpen := h.whileOpen
  order := h.order
  close := h.close

/-- A message arrives at the host. -/
theorem received_hostArrive {message : Message} (h : s.inbox.Sound)
    (hs : move s (.hostArrive message) = some s') : s'.inbox.Sound := by
  dsimp only [move] at hs
  split at hs
  · next hlive =>
    obtain rfl := Option.some.inj hs
    exact h.atBacklog _ fun hdead _ => absurd (hlive.symm.trans hdead) (by decide)
  · cases hs

/-- The host discards the backlog. -/
theorem received_hostDiscard (h : s.inbox.Sound) (hs : move s .hostDiscard = some s') :
    s'.inbox.Sound := by
  dsimp only [move] at hs
  split at hs
  · obtain rfl := Option.some.inj hs
    exact h.atBacklog [] fun _ _ => rfl
  · cases hs

/-- The connection is torn down. -/
theorem received_hostClose {info : Option CloseInfo} (h : s.inbox.Sound)
    (hs : move s (.hostClose info) = some s') : s'.inbox.Sound := by
  dsimp only [move] at hs
  split at hs
  · obtain rfl := Option.some.inj hs
    have hlive : (Host.live { s.host with closed := some info }) = false := Bool.and_false _
    exact ⟨⟨h.pending, h.opening, h.failing, h.erring, fun _ _ _ => hlive, h.backlog⟩, h.held,
      fun hl => (h.receiving hl).imp_right fun hrest =>
        hrest.imp_right fun ⟨hempty, _⟩ => ⟨hempty, hlive⟩,
      fun hd => ⟨(h.drained hd).backlog, (h.drained hd).held, hlive⟩, h.whileOpen, h.order,
      h.close⟩
  · cases hs

/-- The step lemma. -/
theorem received_step {a : Action} (h : s.inbox.Sound) (hkeeps : KeepsBacklog s a)
    (hs : step s a = some s') : s'.inbox.Sound := by
  replace hs := move_of_step hs
  cases a with
  | send data =>
    obtain rfl := Option.some.inj hs
    rw [inbox_send]
    exact h
  | close code reason =>
    obtain rfl := Option.some.inj hs
    exact received_close h hkeeps
  | setBinaryType =>
    obtain rfl := Option.some.inj hs
    exact h
  | established protocol => exact received_established h hs
  | startLoops => exact received_startLoops h hs
  | failed => exact received_failed h hs
  | failedCloses => exact received_failedCloses h hs
  | dispatchMessage => exact received_dispatchMessage h hs
  | receiveAgain => exact received_receiveAgain h hs
  | settleRuns => exact received_settleRuns h hkeeps hs
  | settleCloses => exact received_settleCloses h hs
  | hostReceive => exact received_hostReceive h hkeeps hs
  | hostReceiveFails => exact received_hostReceiveFails h hs
  | hostWaitResolves => exact received_hostWaitResolves h hs
  | hostArrive message => exact received_hostArrive h hs
  | hostDiscard => exact received_hostDiscard h hs
  | hostClose info => exact received_hostClose h hs
  | runSend =>
    dsimp only [move, State.runSend] at hs
    split at hs
    · split at hs <;> cases hs <;> exact h
    · cases hs
  | blobRead | sendSettled | uncount =>
    dsimp only [move, State.blobRead, State.sendSettled, State.uncount] at hs
    split at hs <;> cases hs
    all_goals exact h

/-- The run lemma. -/
theorem received_of_reachable (h : system.ReachableUnder KeepsBacklog s) : s.inbox.Sound := by
  refine System.ReachableUnder.induction (I := fun s => s.inbox.Sound) ?_ ?_ h
  · rintro _ ⟨url, rfl⟩
    exact received_start url
  · intro s a s' _ hsound hkeeps hs
    exact received_step hsound hkeeps hs

/-! ### The theorem -/

/-- In every run in which the application closes while the loop holds no message, the host hands
nothing out after a local close, and `#settle` goes on once the backlog is drained, the messages are
dispatched while OPEN, in order, and before the close event. -/
theorem backlog_before_close (h : system.ReachableUnder KeepsBacklog s) : s.Delivers := by
  have hsound := received_of_reachable h
  refine ⟨hsound.whileOpen, hsound.order, fun pre event post hcut he => ?_⟩
  obtain ⟨hdispatched, hpre⟩ := hsound.close pre event post hcut he
  obtain ⟨hempty, hheld, -⟩ := hsound.drained hdispatched
  have horder : messages s.hist.events = s.hist.handedOut := by
    rw [← show _ = s.hist.handedOut from hsound.order, hheld]
    exact (List.append_nil _).symm
  refine ⟨hpre.trans horder, hempty, ?_⟩
  have hall : messages s.hist.events = messages pre ++ messages (event :: post) := by
    rw [hcut]
    exact List.filterMap_append
  have hnone : messages (event :: post) = [] :=
    List.self_eq_append_right.mp (hpre.trans hall)
  refine List.filterMap_eq_nil_iff.mpr fun e he => ?_
  exact List.filterMap_eq_nil_iff.mp hnone e (List.mem_cons_of_mem _ he)

/-- Two messages are dispatched, the second after the connection is torn down, and then the close
event. -/
theorem backlog_before_close_two :
    ∃ s, system.runUnder KeepsBacklog (State.start "wss://host/")
        [.established "", .startLoops, .hostArrive (.string "x"), .hostArrive (.binary [7]),
          .hostReceive, .dispatchMessage, .receiveAgain,
          .hostClose (some { code := 1000, reason := "done" }), .hostWaitResolves, .hostReceive,
          .dispatchMessage, .receiveAgain, .hostReceiveFails, .settleRuns] = some s ∧
      s.hist.handedOut = [.string "x", .binary [7]] ∧ s.Delivers := by
  obtain ⟨s, hrun, hhanded⟩ :
      ∃ s, system.runUnder KeepsBacklog (State.start "wss://host/")
          [.established "", .startLoops, .hostArrive (.string "x"), .hostArrive (.binary [7]),
            .hostReceive, .dispatchMessage, .receiveAgain,
            .hostClose (some { code := 1000, reason := "done" }), .hostWaitResolves, .hostReceive,
            .dispatchMessage, .receiveAgain, .hostReceiveFails, .settleRuns] = some s ∧
        s.hist.handedOut = [.string "x", .binary [7]] :=
    ⟨_, rfl, rfl⟩
  have hstart : system.ReachableUnder KeepsBacklog (State.start "wss://host/") := .init ⟨_, rfl⟩
  exact ⟨s, hrun, hhanded, backlog_before_close (hstart.runUnder hrun)⟩

/-- The host resolves `waitClosed` while a message is still receivable: the close event is
dispatched first, and the message event follows it, with the WebSocket CLOSED. -/
theorem close_event_overtakes_backlog :
    ¬ ∀ s : State, system.Reachable s → s.Delivers := by
  intro hclaim
  obtain ⟨s, hrun, hevents⟩ :
      ∃ s, system.run (State.start "wss://host/")
          [.established "", .startLoops, .hostArrive (.string "x"),
            .hostClose (some { code := 1000, reason := "done" }), .hostWaitResolves, .settleRuns,
            .hostReceive, .dispatchMessage] = some s ∧
        s.hist.events = [(.open, .open), (.close true 1000 "done", .closed),
          (.message (.text "x") "wss://host", .closed)] :=
    ⟨_, rfl, rfl⟩
  have hopen := (hclaim s (reachable_of_run hrun)).whileOpen
    (.message (.text "x") "wss://host", .closed) (by rw [hevents]; simp) rfl
  cases hopen

end Polymorph.Shim
