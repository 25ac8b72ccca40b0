import PolymorphWebsocket.Shim.Receiving

/-!
# The WHATWG shim: the lifecycle and its events

The open, error and close events of a WebSocket beside its `readyState`.  `#failed` and `#settle`
each end the connection; the connect settles once, so that only one of them ever runs.

`lifecycle_lawful` is about every order of callbacks and calls.  `close_report_iff` says when the
close event tells a failure by its code: a close made while CONNECTING is reported as unclean with
the code of whatever frame the peer has answered with.
-/

namespace Polymorph.Shim

open Transition

/-- The position of a state along CONNECTING, OPEN, CLOSING, CLOSED. -/
def ReadyState.rank : ReadyState → Nat
  | .connecting => 0
  | .open => 1
  | .closing => 2
  | .closed => 3

/-- The open, error and close events that have been dispatched. -/
def State.lifecycle (s : State) : List (Event × ReadyState) :=
  s.hist.events.filter fun event => event.1.message?.isNone

/-! ### The lifecycle of a WebSocket -/

/-- What the lifecycle is about. -/
structure Life where
  readyState : ReadyState
  /-- A close was made while CONNECTING. -/
  deferred : Bool
  connect : ConnectPc
  settle : SettlePc
  closeDispatched : Bool
  /-- The handshake has succeeded. -/
  connected : Bool
  /-- The connection is torn down, with the peer's close frame if there was one. -/
  closed : Option (Option CloseInfo)
  events : List (Event × ReadyState)

/-- The lifecycle of a WebSocket. -/
def State.life (s : State) : Life where
  readyState := s.readyState
  deferred := s.pendingClose.isSome
  connect := s.connect
  settle := s.settle
  closeDispatched := s.closeDispatched
  connected := s.host.connected
  closed := s.host.closed
  events := s.lifecycle

/-- What the close event says: whether the close was clean, its code and its reason. -/
structure Report where
  wasClean : Bool
  code : UInt16
  reason : String
  deriving DecidableEq, Repr

/-- The report of `#settle(failedDuringConnecting)` about a connection that has ended with this
frame. -/
def Report.of (failedDuringConnecting : Bool) (info : Option CloseInfo) : Report where
  wasClean := info.isSome && !failedDuringConnecting
  code := (info.map CloseInfo.code).getD 1006
  reason := (info.map CloseInfo.reason).getD ""

/-- The close event with this report. -/
def Report.event (report : Report) : Event :=
  .close report.wasClean report.code report.reason

namespace Life

/-- What a move of a WebSocket does to its lifecycle. -/
inductive Moves (l : Life) : Life → Prop
  | stays : Moves l l
  /-- `close()` while CONNECTING. -/
  | defers (h : l.readyState = .connecting) :
      Moves l { l with deferred := true, readyState := .closing }
  /-- `close()` while OPEN. -/
  | closes (h : l.readyState = .open) : Moves l { l with readyState := .closing }
  /-- `#established` after a close. -/
  | applies (h : l.connect = .pending) (hd : l.deferred = true) :
      Moves l { l with connected := true, connect := .done, settle := .waiting true }
  | opens (h : l.connect = .pending) (hd : l.deferred = false) :
      Moves l { l with
        connected := true, readyState := .open, connect := .opening
        events := l.events ++ [(.open, .open)] }
  | starts (h : l.connect = .opening) :
      Moves l { l with connect := .done, settle := .waiting false }
  | fails (h : l.connect = .pending) (hd : l.closeDispatched = false) :
      Moves l { l with
        readyState := .closed, connect := .failing, closeDispatched := true
        events := l.events ++ [(.error, .closed)] }
  /-- `#failed` after a close event. -/
  | failsAgain (h : l.connect = .pending) (hd : l.closeDispatched = true) :
      Moves l { l with readyState := .closed, connect := .done }
  | failedCloses (h : l.connect = .failing) :
      Moves l { l with
        connect := .done, events := l.events ++ [(.close false 1006 "", l.readyState)] }
  | resolves {failed : Bool} {info : Option CloseInfo} (h : l.settle = .waiting failed)
      (hclosed : l.closed = some info) : Moves l { l with settle := .resolved failed info }
  | reportsClean {failed : Bool} {info : Option CloseInfo} (h : l.settle = .resolved failed info)
      (hd : l.closeDispatched = false) (hclean : (Report.of failed info).wasClean = true) :
      Moves l { l with
        readyState := .closed, settle := .done, closeDispatched := true
        events := l.events ++ [((Report.of failed info).event, .closed)] }
  | reportsError {failed : Bool} {info : Option CloseInfo} (h : l.settle = .resolved failed info)
      (hd : l.closeDispatched = false) (hclean : (Report.of failed info).wasClean = false) :
      Moves l { l with
        readyState := .closed
        settle := .erring (Report.of failed info).code (Report.of failed info).reason
        closeDispatched := true, events := l.events ++ [(.error, .closed)] }
  /-- `#settle` after a close event. -/
  | settlesAgain {failed : Bool} {info : Option CloseInfo} (h : l.settle = .resolved failed info)
      (hd : l.closeDispatched = true) : Moves l { l with readyState := .closed, settle := .done }
  | settleCloses {code : UInt16} {reason : String} (h : l.settle = .erring code reason) :
      Moves l { l with
        settle := .done, events := l.events ++ [(.close false code reason, l.readyState)] }
  | tearsDown (info : Option CloseInfo) (h : l.connected = true) (hclosed : l.closed = none) :
      Moves l { l with closed := some info }

end Life

variable {s s' : State} {l l' : Life}

/-- An event of the lifecycle is added to it. -/
theorem lifecycle_dispatch (s : State) {event : Event} (h : event.message? = none) :
    (s.dispatchEvent event).lifecycle = s.lifecycle ++ [(event, s.readyState)] := by
  unfold State.lifecycle State.dispatchEvent
  dsimp only
  rw [List.filter_append, List.filter_cons_of_pos (by rw [h]; rfl)]
  rfl

/-- A message event is none of the lifecycle. -/
theorem lifecycle_message (s : State) (message : Message) (origin : String) :
    (s.dispatchEvent (.message (s.eventData message) origin)).lifecycle = s.lifecycle := by
  have hmessage : (Event.message (s.eventData message) origin).message?.isNone = false := by
    cases message with
    | string text => rfl
    | binary bytes =>
      unfold State.eventData
      dsimp only
      cases s.binaryType with
      | blob => rfl
      | arraybuffer => rfl
  unfold State.lifecycle State.dispatchEvent
  dsimp only
  rw [List.filter_append, List.filter_cons_of_neg (by rw [hmessage]; nofun)]
  exact List.append_nil _

theorem life_dispatch (s : State) {event : Event} (h : event.message? = none) :
    (s.dispatchEvent event).life =
      { s.life with events := s.life.events ++ [(event, s.readyState)] } := by
  unfold State.life
  rw [lifecycle_dispatch s h]
  rfl

theorem life_message (s : State) (message : Message) (origin : String) :
    (s.dispatchEvent (.message (s.eventData message) origin)).life = s.life := by
  unfold State.life
  rw [lifecycle_message]
  rfl

/-- Every move of a WebSocket is one of the lifecycle. -/
theorem life_moves {a : Action} (h : step s a = some s') : s.life.Moves s'.life := by
  have hmove := move_of_step h
  cases a with
  | send data =>
    obtain rfl := Option.some.inj hmove
    unfold State.send
    split
    · exact .stays
    · dsimp only
      split
      · exact .stays
      · exact .stays
  | close code reason =>
    obtain rfl := Option.some.inj hmove
    unfold State.close
    dsimp only
    split
    · exact .stays
    · split
      · exact .stays
      · split
        · exact .stays
        · exact .stays
        · next hready => exact .defers hready
        · next hready => exact .closes hready
  | setBinaryType binaryType =>
    obtain rfl := Option.some.inj hmove
    exact .stays
  | established protocol =>
    change s.established protocol = some s' at hmove
    unfold State.established at hmove
    split at hmove
    · next hpending =>
      dsimp only at hmove
      split at hmove
      · next code reason hclose =>
        obtain rfl := Option.some.inj hmove
        have hdeferred : s.life.deferred = true := by
          show s.pendingClose.isSome = true
          rw [hclose]
          rfl
        exact .applies hpending hdeferred
      · next hclose =>
        obtain rfl := Option.some.inj hmove
        have hdeferred : s.life.deferred = false := by
          show s.pendingClose.isSome = false
          rw [hclose]
          rfl
        rw [life_dispatch _ rfl]
        exact .opens hpending hdeferred
    · cases hmove
  | startLoops =>
    change s.startLoops = some s' at hmove
    unfold State.startLoops at hmove
    split at hmove
    · next hopening =>
      obtain rfl := Option.some.inj hmove
      exact .starts hopening
    · cases hmove
  | failed =>
    change s.failed = some s' at hmove
    unfold State.failed at hmove
    split at hmove
    · next hpending =>
      dsimp only at hmove
      split at hmove
      · next hd =>
        obtain rfl := Option.some.inj hmove
        exact .failsAgain hpending hd
      · next hd =>
        obtain rfl := Option.some.inj hmove
        rw [life_dispatch _ rfl]
        exact .fails hpending (eq_false_of_ne_true hd)
    · cases hmove
  | failedCloses =>
    change s.failedCloses = some s' at hmove
    unfold State.failedCloses at hmove
    split at hmove
    · next hfailing =>
      obtain rfl := Option.some.inj hmove
      rw [life_dispatch _ rfl]
      exact .failedCloses hfailing
    · cases hmove
  | runSend =>
    change s.runSend = some s' at hmove
    unfold State.runSend at hmove
    split at hmove
    · split at hmove
      all_goals
        obtain rfl := Option.some.inj hmove
        exact .stays
    · cases hmove
  | blobRead bytes =>
    change s.blobRead bytes = some s' at hmove
    unfold State.blobRead at hmove
    split at hmove
    · obtain rfl := Option.some.inj hmove
      exact .stays
    · obtain rfl := Option.some.inj hmove
      exact .stays
    · cases hmove
  | sendSettled =>
    change s.sendSettled = some s' at hmove
    unfold State.sendSettled at hmove
    split at hmove
    · obtain rfl := Option.some.inj hmove
      exact .stays
    · cases hmove
  | uncount =>
    change s.uncount = some s' at hmove
    unfold State.uncount at hmove
    split at hmove
    · obtain rfl := Option.some.inj hmove
      exact .stays
    · cases hmove
  | dispatchMessage =>
    change s.dispatchMessage = some s' at hmove
    unfold State.dispatchMessage at hmove
    split at hmove
    · next message _ =>
      obtain rfl := Option.some.inj hmove
      have hsame := life_message { s with loop := .dispatching } message s.originOf
      change State.life (State.dispatchEvent _ _) = s.life at hsame
      rw [show s.eventData message = ({ s with loop := .dispatching } : State).eventData message from
        rfl, hsame]
      exact .stays
    · cases hmove
  | receiveAgain =>
    change s.receiveAgain = some s' at hmove
    unfold State.receiveAgain at hmove
    split at hmove
    · obtain rfl := Option.some.inj hmove
      exact .stays
    · cases hmove
  | settleRuns =>
    change s.settleRuns = some s' at hmove
    unfold State.settleRuns at hmove
    split at hmove
    · next failed info hsettle =>
      dsimp only at hmove
      split at hmove
      · next hd =>
        obtain rfl := Option.some.inj hmove
        exact .settlesAgain hsettle hd
      · next hd =>
        have hgoing : s.life.closeDispatched = false := eq_false_of_ne_true hd
        split at hmove
        · next hclean =>
          obtain rfl := Option.some.inj hmove
          rw [life_dispatch _ rfl]
          have hmoves := Life.Moves.reportsClean (l := s.life) hsettle hgoing hclean
          unfold Report.event at hmoves
          rw [show (Report.of failed info).wasClean = true from hclean] at hmoves
          exact hmoves
        · next hclean =>
          obtain rfl := Option.some.inj hmove
          rw [life_dispatch _ rfl]
          exact .reportsError hsettle hgoing (eq_false_of_ne_true hclean)
    · cases hmove
  | settleCloses =>
    change s.settleCloses = some s' at hmove
    unfold State.settleCloses at hmove
    split at hmove
    · next code reason hsettle =>
      obtain rfl := Option.some.inj hmove
      rw [life_dispatch _ rfl]
      exact .settleCloses hsettle
    · cases hmove
  | hostReceive =>
    change s.hostReceive = some s' at hmove
    unfold State.hostReceive at hmove
    split at hmove
    · obtain rfl := Option.some.inj hmove
      exact .stays
    · cases hmove
  | hostReceiveFails =>
    change s.hostReceiveFails = some s' at hmove
    unfold State.hostReceiveFails at hmove
    split at hmove
    · obtain rfl := Option.some.inj hmove
      exact .stays
    · cases hmove
  | hostWaitResolves =>
    change s.hostWaitResolves = some s' at hmove
    unfold State.hostWaitResolves at hmove
    split at hmove
    · next failed info hsettle hclosed =>
      obtain rfl := Option.some.inj hmove
      exact .resolves hsettle hclosed
    · cases hmove
  | hostArrive message =>
    unfold move at hmove
    dsimp only at hmove
    split at hmove
    · obtain rfl := Option.some.inj hmove
      exact .stays
    · cases hmove
  | hostDiscard =>
    unfold move at hmove
    dsimp only at hmove
    split at hmove
    · obtain rfl := Option.some.inj hmove
      exact .stays
    · cases hmove
  | hostClose info =>
    unfold move at hmove
    dsimp only at hmove
    split at hmove
    · next hlive =>
      obtain rfl := Option.some.inj hmove
      rw [Host.live, Bool.and_eq_true, Option.isNone_iff_eq_none] at hlive
      exact .tearsDown info hlive.1 hlive.2
    · cases hmove

/-! ### The invariant -/

/-- The open event, unless the WebSocket was closed while CONNECTING. -/
def opened (deferred : Bool) : List (Event × ReadyState) :=
  if deferred then [] else [(.open, .open)]

/-- The last events of a lifecycle with this report. -/
def Report.events (report : Report) : List (Event × ReadyState) :=
  if report.wasClean then [(report.event, .closed)]
  else [(.error, .closed), (report.event, .closed)]

/-- The stages of a lifecycle. -/
inductive Life.Staged (l : Life) : Prop
  | connecting (hpc : l.connect = .pending ∧ l.settle = .idle) (hconnected : l.connected = false)
      (hd : l.closeDispatched = false) (hevents : l.events = [])
      (hready : l.readyState = if l.deferred then .closing else .connecting)
  | opening (hpc : l.connect = .opening ∧ l.settle = .idle) (hconnected : l.connected = true)
      (hd : l.closeDispatched = false) (hdeferred : l.deferred = false) (hevents : l.events = opened false)
      (hready : l.readyState = .open ∨ l.readyState = .closing)
  | failing (hpc : l.connect = .failing ∧ l.settle = .idle) (hconnected : l.connected = false)
      (hd : l.closeDispatched = true) (hevents : l.events = [(.error, .closed)])
      (hready : l.readyState = .closed)
  | failed (hpc : l.connect = .done ∧ l.settle = .idle) (hconnected : l.connected = false)
      (hd : l.closeDispatched = true) (hevents : l.events = (Report.of false none).events)
      (hready : l.readyState = .closed)
  | waiting (hpc : l.connect = .done) (hconnected : l.connected = true)
      (hd : l.closeDispatched = false)
      (hsettle : l.settle = .waiting l.deferred ∨
        ∃ info, l.closed = some info ∧ l.settle = .resolved l.deferred info)
      (hevents : l.events = opened l.deferred)
      (hready : l.readyState = .closing ∨ l.deferred = false ∧ l.readyState = .open)
  | erring (hpc : l.connect = .done) (hconnected : l.connected = true)
      (hd : l.closeDispatched = true) {info : Option CloseInfo}
      (hclosed : l.closed = some info)
      (hsettle : l.settle =
        .erring (Report.of l.deferred info).code (Report.of l.deferred info).reason)
      (hclean : (Report.of l.deferred info).wasClean = false)
      (hevents : l.events = opened l.deferred ++ [(.error, .closed)])
      (hready : l.readyState = .closed)
  | done (hpc : l.connect = .done) (hconnected : l.connected = true)
      (hd : l.closeDispatched = true) {info : Option CloseInfo} (hclosed : l.closed = some info)
      (hsettle : l.settle = .done)
      (hevents : l.events = opened l.deferred ++ (Report.of l.deferred info).events)
      (hready : l.readyState = .closed)

theorem Report.events_of_dirty {report : Report} (h : report.wasClean = false) :
    report.events = [(.error, .closed)] ++ [(.close false report.code report.reason, .closed)] := by
  unfold Report.events Report.event
  rw [h]
  rfl

theorem Report.events_of_clean {report : Report} (h : report.wasClean = true) :
    report.events = [(report.event, .closed)] := by
  unfold Report.events
  rw [h]
  rfl

namespace Life.Staged

theorem of_pending (h : l.Staged) (hpc : l.connect = .pending) :
    l.settle = .idle ∧ l.connected = false ∧ l.closeDispatched = false ∧ l.events = [] ∧
      l.readyState = if l.deferred then .closing else .connecting := by
  cases h with
  | connecting hpc hconnected hd hevents hready => exact ⟨hpc.2, hconnected, hd, hevents, hready⟩
  | opening hpc' | failing hpc' | failed hpc' => cases hpc'.1.symm.trans hpc
  | waiting hpc' | erring hpc' | done hpc' => cases hpc'.symm.trans hpc

theorem of_waiting (h : l.Staged) {failed : Bool}
    (hsettle : l.settle = .waiting failed ∨ ∃ info, l.settle = .resolved failed info) :
    l.connect = .done ∧ l.connected = true ∧ l.closeDispatched = false ∧ l.deferred = failed ∧
      (∀ info, l.settle = .resolved failed info → l.closed = some info) ∧
      l.events = opened failed ∧
      (l.readyState = .closing ∨ l.deferred = false ∧ l.readyState = .open) := by
  have hidle (hi : l.settle = .idle) : False := by
    rcases hsettle with hs | ⟨info, hs⟩ <;> rw [hi] at hs <;> cases hs
  cases h with
  | connecting hpc | opening hpc | failing hpc | failed hpc => exact (hidle hpc.2).elim
  | waiting hpc hconnected hd hsettle' hevents hready =>
    obtain ⟨rfl, hinfo⟩ : l.deferred = failed ∧
        ∀ info, l.settle = .resolved failed info → l.closed = some info := by
      rcases hsettle' with hs' | ⟨info', hclosed, hs'⟩ <;> rcases hsettle with hs | ⟨info, hs⟩ <;>
        rw [hs'] at hs <;> cases hs
      · exact ⟨rfl, fun info hs => by rw [hs'] at hs; cases hs⟩
      · exact ⟨rfl, fun info hs => by rw [hs'] at hs; cases hs; exact hclosed⟩
    exact ⟨hpc, hconnected, hd, rfl, hinfo, hevents, hready⟩
  | erring _ _ _ _ hs' => rcases hsettle with hs | ⟨info, hs⟩ <;> cases hs'.symm.trans hs
  | done _ _ _ _ hs' => rcases hsettle with hs | ⟨info, hs⟩ <;> cases hs'.symm.trans hs

theorem moves (h : l.Staged) (hm : l.Moves l') : l'.Staged := by
  cases hm with
  | stays => exact h
  | defers hready =>
    cases h with
    | connecting hpc hconnected hd hevents _ => exact .connecting hpc hconnected hd hevents rfl
    | opening _ _ _ _ _ hready' | waiting _ _ _ _ _ hready' => grind
    | failing _ _ _ _ hready' | failed _ _ _ _ hready' => cases hready.symm.trans hready'
    | erring _ _ _ _ _ _ _ hready' | done _ _ _ _ _ _ hready' => cases hready.symm.trans hready'
  | closes hready =>
    cases h with
    | connecting _ _ _ _ hready' =>
      rw [hready] at hready'
      split at hready' <;> cases hready'
    | opening hpc hconnected hd hdeferred hevents _ =>
      exact .opening hpc hconnected hd hdeferred hevents (.inr rfl)
    | waiting hpc hconnected hd hsettle hevents _ =>
      exact .waiting hpc hconnected hd hsettle hevents (.inl rfl)
    | failing _ _ _ _ hready' | failed _ _ _ _ hready' => cases hready.symm.trans hready'
    | erring _ _ _ _ _ _ _ hready' | done _ _ _ _ _ _ hready' => cases hready.symm.trans hready'
  | applies hpc hdeferred =>
    obtain ⟨-, -, hd, hevents, hready⟩ := h.of_pending hpc
    rw [hdeferred] at hready
    have hopened : l.events = opened l.deferred := by
      rw [hevents, hdeferred]
      rfl
    refine .waiting rfl rfl hd (.inl ?_) hopened (.inl hready)
    show SettlePc.waiting true = .waiting l.deferred
    rw [hdeferred]
  | opens hpc hdeferred =>
    obtain ⟨hsettle, -, hd, hevents, -⟩ := h.of_pending hpc
    refine .opening ⟨rfl, hsettle⟩ rfl hd hdeferred ?_ (.inl rfl)
    show l.events ++ [(.open, .open)] = _
    rw [hevents]
    rfl
  | starts hpc =>
    cases h with
    | opening _ hconnected hd hdeferred hevents hready =>
      refine .waiting rfl hconnected hd (.inl ?_) ?_ ?_
      · show SettlePc.waiting false = .waiting l.deferred
        rw [hdeferred]
      · show l.events = opened l.deferred
        rw [hevents, hdeferred]
      · rcases hready with hopen | hclosing
        · exact .inr ⟨hdeferred, hopen⟩
        · exact .inl hclosing
    | connecting hpc' | failing hpc' | failed hpc' => cases hpc'.1.symm.trans hpc
    | waiting hpc' | erring hpc' | done hpc' => cases hpc'.symm.trans hpc
  | fails hpc hd =>
    obtain ⟨hsettle, hconnected, -, hevents, -⟩ := h.of_pending hpc
    refine .failing ⟨rfl, hsettle⟩ hconnected rfl ?_ rfl
    show l.events ++ [(.error, .closed)] = _
    rw [hevents]
    rfl
  | failsAgain hpc hd =>
    obtain ⟨-, -, hgoing, -⟩ := h.of_pending hpc
    cases hgoing.symm.trans hd
  | failedCloses hpc =>
    cases h with
    | failing hpc' hconnected hd hevents hready =>
      refine .failed ⟨rfl, hpc'.2⟩ hconnected hd ?_ hready
      show l.events ++ [(.close false 1006 "", l.readyState)] = _
      rw [hevents, hready]
      rfl
    | connecting hpc' | opening hpc' | failed hpc' => cases hpc'.1.symm.trans hpc
    | waiting hpc' | erring hpc' | done hpc' => cases hpc'.symm.trans hpc
  | resolves hsettle hclosed =>
    obtain ⟨hpc, hconnected, hd, rfl, -, hevents, hready⟩ := h.of_waiting (.inl hsettle)
    exact .waiting hpc hconnected hd (.inr ⟨_, hclosed, rfl⟩) hevents hready
  | reportsClean hsettle hd hclean =>
    obtain ⟨hpc, hconnected, -, rfl, hclosed, hevents, -⟩ := h.of_waiting (.inr ⟨_, hsettle⟩)
    refine .done hpc hconnected rfl (hclosed _ hsettle) rfl ?_ rfl
    show l.events ++ _ = _
    rw [hevents, Report.events_of_clean hclean]
  | reportsError hsettle hd hclean =>
    obtain ⟨hpc, hconnected, -, rfl, hclosed, hevents, -⟩ := h.of_waiting (.inr ⟨_, hsettle⟩)
    refine .erring hpc hconnected rfl (hclosed _ hsettle) rfl hclean ?_ rfl
    show l.events ++ _ = _
    rw [hevents]
  | settlesAgain hsettle hd =>
    obtain ⟨-, -, hgoing, -⟩ := h.of_waiting (.inr ⟨_, hsettle⟩)
    cases hgoing.symm.trans hd
  | settleCloses hsettle =>
    cases h with
    | erring hpc hconnected hd hclosed hsettle' hclean hevents hready =>
      cases hsettle.symm.trans hsettle'
      refine .done hpc hconnected hd hclosed rfl ?_ hready
      show l.events ++ _ = _
      rw [hevents, hready, Report.events_of_dirty hclean, List.append_assoc]
    | connecting hpc | opening hpc | failing hpc | failed hpc => cases hpc.2.symm.trans hsettle
    | waiting _ _ _ hsettle' =>
      rcases hsettle' with hs | ⟨info, -, hs⟩ <;> cases hs.symm.trans hsettle
    | done _ _ _ _ hsettle' => cases hsettle'.symm.trans hsettle
  | tearsDown info hconnected hclosed =>
    cases h with
    | connecting _ hconnected' | failing _ hconnected' | failed _ hconnected' =>
      cases hconnected.symm.trans hconnected'
    | opening hpc _ hd hdeferred hevents hready =>
      exact .opening hpc hconnected hd hdeferred hevents hready
    | waiting hpc _ hd hsettle hevents hready =>
      refine .waiting hpc hconnected hd (.inl ?_) hevents hready
      rcases hsettle with hs | ⟨info', hclosed', -⟩
      · exact hs
      · cases hclosed.symm.trans hclosed'
    | erring _ _ _ hclosed' | done _ _ _ hclosed' => cases hclosed.symm.trans hclosed'

end Life.Staged

/-- A WebSocket is always in one of the stages. -/
theorem life_staged (h : system.Reachable s) : s.life.Staged := by
  refine h.induction (I := fun s => s.life.Staged) ?_ ?_
  · rintro _ ⟨url, rfl⟩
    exact .connecting ⟨rfl, rfl⟩ rfl rfl rfl rfl
  · intro s a s' _ ih hstep
    exact ih.moves (life_moves hstep)

/-! ### The events of a lifecycle -/

/-- The event is the open event. -/
def Event.isOpen : Event → Bool
  | .open => true
  | .message _ _ | .error | .close _ _ _ => false

/-- The event is an error event. -/
def Event.isError : Event → Bool
  | .error => true
  | .open | .message _ _ | .close _ _ _ => false

/-- The connect has failed, or `waitClosed` has resolved, and the routine that ends the WebSocket has
run to its end. -/
def State.ended (s : State) : Bool :=
  s.connect == .done && !s.host.connected || s.settle == .done

/-- What the events of a lifecycle say about each other. -/
structure State.Lawful (s : State) : Prop where
  opens : s.lifecycle.countP (fun event => event.1.isOpen) ≤ 1
  closes : s.lifecycle.countP (fun event => event.1.isClose) ≤ 1
  /-- The close event is dispatched in CLOSED, it is the last one, and an error event comes before it
  exactly when it is not clean. -/
  last : ∀ pre report readyState post,
    s.lifecycle = pre ++ (Report.event report, readyState) :: post →
      readyState = .closed ∧ post = [] ∧
        (pre.any (fun event => event.1.isError) = true ↔ report.wasClean = false)
  ended : s.ended = true → s.lifecycle.countP (fun event => event.1.isClose) = 1

/-- The events before a close event with this report. -/
def Report.before (deferred : Bool) (report : Report) : List (Event × ReadyState) :=
  opened deferred ++ if report.wasClean then [] else [(.error, .closed)]

theorem opened_append_events (deferred : Bool) (report : Report) :
    opened deferred ++ report.events = report.before deferred ++ [(report.event, .closed)] := by
  unfold Report.events Report.before
  split
  · rw [List.append_nil]
  · rw [List.append_assoc]
    rfl

theorem countP_opened_isClose (deferred : Bool) :
    (opened deferred).countP (fun event => event.1.isClose) = 0 := by
  cases deferred <;> rfl

theorem countP_opened_isOpen (deferred : Bool) :
    (opened deferred).countP (fun event => event.1.isOpen) ≤ 1 := by
  cases deferred <;> decide

/-- Before the close event there is no other one. -/
theorem countP_before (deferred : Bool) (report : Report) :
    (report.before deferred).countP (fun event => event.1.isClose) = 0 := by
  unfold Report.before
  rw [List.countP_append, countP_opened_isClose]
  split <;> rfl

theorem countP_before_isOpen (deferred : Bool) (report : Report) :
    (report.before deferred).countP (fun event => event.1.isOpen) ≤ 1 := by
  unfold Report.before
  rw [List.countP_append]
  have hopened := countP_opened_isOpen deferred
  split
  · exact hopened
  · exact hopened

theorem before_any_isError (deferred : Bool) (report : Report) :
    (report.before deferred).any (fun event => event.1.isError) = true ↔
      report.wasClean = false := by
  unfold Report.before
  rw [List.any_append]
  cases deferred <;> cases report.wasClean <;> decide

/-- A lifecycle is one without a close event, of a WebSocket that has not ended, or one that a close
event concludes. -/
theorem lifecycle_shape (h : s.life.Staged) :
    (∃ deferred, (s.lifecycle = opened deferred ∨ s.lifecycle = opened deferred ++ [(.error, .closed)]) ∧
        s.ended = false) ∨
      ∃ (deferred : Bool) (report : Report),
        s.lifecycle = report.before deferred ++ [(report.event, .closed)] := by
  cases h with
  | connecting hpc hconnected hd hevents hready =>
    exact .inl ⟨true, .inl hevents, by grind [State.ended, State.life]⟩
  | opening hpc hconnected hd hdeferred hevents hready =>
    exact .inl ⟨false, .inl hevents, by grind [State.ended, State.life]⟩
  | failing hpc hconnected hd hevents hready =>
    exact .inl ⟨true, .inr hevents, by grind [State.ended, State.life]⟩
  | failed hpc hconnected hd hevents hready =>
    exact .inr ⟨true, .of false none, hevents⟩
  | waiting hpc hconnected hd hsettle hevents hready =>
    exact .inl ⟨_, .inl hevents, by grind [State.ended, State.life]⟩
  | erring hpc hconnected hd hclosed hsettle hclean hevents hready =>
    exact .inl ⟨_, .inr hevents, by grind [State.ended, State.life]⟩
  | done hpc hconnected hd hclosed hsettle hevents hready =>
    refine .inr ⟨s.life.deferred, _, hevents.trans (opened_append_events _ _)⟩

theorem isClose_event (report : Report) : report.event.isClose = true := rfl

/-- In every reachable state the events are lawful. -/
theorem lawful (h : s.life.Staged) : s.Lawful := by
  rcases lifecycle_shape h with ⟨deferred, hevents, hended⟩ | ⟨deferred, report, hevents⟩
  · have hopens : s.lifecycle.countP (fun event => event.1.isOpen) ≤ 1 := by
      have hopened := countP_opened_isOpen deferred
      rcases hevents with hevents | hevents
      · rw [hevents]
        exact hopened
      · rw [hevents, List.countP_append]
        exact hopened
    have hcloses : s.lifecycle.countP (fun event => event.1.isClose) = 0 := by
      rcases hevents with hevents | hevents
      · rw [hevents, countP_opened_isClose]
      · rw [hevents, List.countP_append, countP_opened_isClose]
        rfl
    refine ⟨hopens, hcloses.trans_le (Nat.zero_le 1), fun pre report readyState post hcut => ?_,
      fun h => ?_⟩
    · have hmem : (report.event, readyState) ∈ s.lifecycle := by
        rw [hcut]
        exact List.mem_append_right _ List.mem_cons_self
      exact absurd (isClose_event report) (List.countP_eq_zero.mp hcloses _ hmem)
    · rw [hended] at h
      cases h
  · have hone : s.lifecycle.countP (fun event => event.1.isClose) = 1 := by
      rw [hevents, List.countP_append, countP_before]
      rfl
    refine ⟨?_, hone.le, fun pre report' readyState post hcut => ?_, fun _ => hone⟩
    · rw [hevents, List.countP_append]
      exact countP_before_isOpen deferred report
    · rw [hevents] at hcut
      rcases Inbox.cut_of_append hcut with ⟨hpost, hpre, hlast⟩ | ⟨post', -, hbefore⟩
      · obtain ⟨hevent, hready⟩ := Prod.mk.inj hlast
        have hclean : report'.wasClean = report.wasClean := (Event.close.inj hevent).1
        refine ⟨hready, hpost, ?_⟩
        rw [hpre, before_any_isError, hclean]
      · have hmem : (report'.event, readyState) ∈ report.before deferred := by
          rw [hbefore]
          exact List.mem_append_right _ List.mem_cons_self
        exact absurd (isClose_event report') (List.countP_eq_zero.mp (countP_before _ _) _ hmem)

/-! ### One step -/

/-- `readyState` never goes back. -/
theorem rank_le_of_moves (h : l.Staged) (hm : l.Moves l') :
    l.readyState.rank ≤ l'.readyState.rank := by
  have hclosed (readyState : ReadyState) : readyState.rank ≤ ReadyState.closed.rank := by
    cases readyState <;> decide
  cases hm with
  | stays | applies | starts | failedCloses | resolves | settleCloses | tearsDown => exact Nat.le_refl _
  | defers hready | closes hready =>
    show l.readyState.rank ≤ ReadyState.closing.rank
    rw [hready]
    decide
  | opens hpc hdeferred =>
    obtain ⟨-, -, -, -, hready⟩ := h.of_pending hpc
    rw [hdeferred] at hready
    show l.readyState.rank ≤ ReadyState.open.rank
    rw [hready]
    decide
  | fails | failsAgain | reportsClean | reportsError | settlesAgain => exact hclosed _

/-- The open event is dispatched on the step from CONNECTING to OPEN. -/
theorem opens_of_moves (h : l.Staged) (hm : l.Moves l')
    (hopens : l'.events.countP (fun event => event.1.isOpen) ≠
      l.events.countP (fun event => event.1.isOpen)) :
    l.readyState = .connecting ∧ l'.readyState = .open := by
  have hother {event : Event} {readyState : ReadyState} (ho : event.isOpen = false) :
      (l.events ++ [(event, readyState)]).countP (fun event => event.1.isOpen) =
        l.events.countP (fun event => event.1.isOpen) := by
    rw [List.countP_append, List.countP_singleton, ho]
    rfl
  cases hm with
  | opens hpc hdeferred =>
    obtain ⟨-, -, -, -, hready⟩ := h.of_pending hpc
    rw [hdeferred] at hready
    exact ⟨hready, rfl⟩
  | fails | failedCloses | reportsClean | reportsError | settleCloses =>
    exact absurd (hother rfl) hopens
  | stays | defers | closes | applies | starts | failsAgain | resolves | settlesAgain | tearsDown =>
    exact absurd rfl hopens

/-- In every order of callbacks and calls: no step takes `readyState` back, the open event comes on
the step from CONNECTING to OPEN only, and at most once; there is at most one close event, in CLOSED,
after an error event exactly when it is not clean, and before none of the others; and once the
failed connect or the end of the connection has been processed there is one. -/
theorem lifecycle_lawful (h : system.Reachable s) :
    s.Lawful ∧ ∀ a s', step s a = some s' → s.readyState.rank ≤ s'.readyState.rank ∧
      (s'.lifecycle.countP (fun event => event.1.isOpen) ≠
          s.lifecycle.countP (fun event => event.1.isOpen) →
        s.readyState = .connecting ∧ s'.readyState = .open) := by
  have hstaged := life_staged h
  refine ⟨lawful hstaged, fun a s' hstep => ⟨rank_le_of_moves hstaged (life_moves hstep), ?_⟩⟩
  exact opens_of_moves hstaged (life_moves hstep)

/-- A close in the listeners of the open event. -/
theorem lifecycle_lawful_reentrant :
    ∃ s, system.run (State.start "ws://a/")
        [.established "", .close (some 1000) none, .startLoops, .hostClose none, .hostReceiveFails,
          .hostWaitResolves, .settleRuns, .close none none, .settleCloses] = some s ∧
      s.lifecycle = [(.open, .open), (.error, .closed), (.close false 1006 "", .closed)] ∧
      s.Lawful := by
  have hrun : system.run (State.start "ws://a/")
      [.established "", .close (some 1000) none, .startLoops, .hostClose none, .hostReceiveFails,
        .hostWaitResolves, .settleRuns, .close none none, .settleCloses] = some _ := rfl
  exact ⟨_, hrun, rfl, (lifecycle_lawful (reachable_of_run hrun)).1⟩

/-! ### What the close event reports -/

/-- The report of a failed or abnormal closure. -/
def Report.abnormal : Report where
  wasClean := false
  code := 1006
  reason := ""

/-- Every close event is unclean exactly when it carries the code and the reason of an abnormal
closure, and reports an abnormal closure when the WebSocket was closed while CONNECTING. -/
def State.ReportsFailures (s : State) : Prop :=
  ∀ (report : Report) (readyState : ReadyState), (report.event, readyState) ∈ s.hist.events →
    (report.wasClean = false ↔ report.code = 1006 ∧ report.reason = "") ∧
      (s.pendingClose.isSome = true → report = .abnormal)

/-- The close frame of an abnormal closure, which no peer may send. -/
def CloseInfo.abnormal : CloseInfo where
  code := 1006
  reason := ""

/-- A connection that ends with a close frame is reported as it should be exactly when the frame is
that of an abnormal closure and the WebSocket was closed while CONNECTING, or neither. -/
theorem report_of_some (deferred : Bool) (info : CloseInfo) :
    ((Report.of deferred (some info)).wasClean = false ↔
        (Report.of deferred (some info)).code = 1006 ∧
          (Report.of deferred (some info)).reason = "") ∧
      (deferred = true → Report.of deferred (some info) = .abnormal) ↔
    (deferred = true ↔ info = CloseInfo.abnormal) := by
  have hinfo : info = CloseInfo.abnormal ↔ info.code = 1006 ∧ info.reason = "" := by
    constructor
    · rintro rfl
      exact ⟨rfl, rfl⟩
    · rintro ⟨hcode, hreason⟩
      cases info
      simp only at hcode hreason
      rw [hcode, hreason]
      rfl
  rw [hinfo]
  cases deferred with
  | false => simp [Report.of]
  | true => simp [Report.of, Report.abnormal]

/-- An event with a report is one of the lifecycle. -/
theorem event_mem_lifecycle {report : Report} {readyState : ReadyState} :
    (report.event, readyState) ∈ s.hist.events ↔ (report.event, readyState) ∈ s.lifecycle := by
  unfold State.lifecycle
  rw [List.mem_filter]
  exact ⟨fun h => ⟨h, rfl⟩, And.left⟩

theorem event_injective {report report' : Report} (h : report.event = report'.event) :
    report = report' := by
  obtain ⟨hclean, hcode, hreason⟩ := Event.close.inj h
  cases report
  cases report'
  simp only at hclean hcode hreason
  rw [hclean, hcode, hreason]

/-- Without a close event nothing is reported. -/
theorem reportsFailures_of_none (h : s.lifecycle.countP (fun event => event.1.isClose) = 0) :
    s.ReportsFailures := by
  intro report readyState hmem
  exact absurd (isClose_event report) (List.countP_eq_zero.mp h _ (event_mem_lifecycle.mp hmem))

/-- The close event is the only one that reports. -/
theorem reportsFailures_iff {deferred : Bool} {report : Report}
    (hevents : s.lifecycle = report.before deferred ++ [(report.event, .closed)]) :
    s.ReportsFailures ↔ (report.wasClean = false ↔ report.code = 1006 ∧ report.reason = "") ∧
      (s.pendingClose.isSome = true → report = .abnormal) := by
  constructor
  · intro h
    apply h report .closed
    rw [event_mem_lifecycle, hevents]
    exact List.mem_append_right _ (List.mem_singleton.mpr rfl)
  · intro h report' readyState hmem
    rw [event_mem_lifecycle, hevents] at hmem
    rcases List.mem_append.mp hmem with hbefore | hlast
    · exact absurd (isClose_event report')
        (List.countP_eq_zero.mp (countP_before deferred report) _ hbefore)
    · obtain rfl := event_injective (Prod.mk.inj (List.mem_singleton.mp hlast)).1
      exact h

/-- An abnormal closure is reported as it should. -/
theorem reportsFailures_of_abnormal {deferred : Bool}
    (hevents : s.lifecycle = Report.abnormal.before deferred ++ [(Report.abnormal.event, .closed)]) :
    s.ReportsFailures :=
  (reportsFailures_iff hevents).mpr ⟨iff_of_true rfl ⟨rfl, rfl⟩, fun _ => rfl⟩

/-- In every reachable state the close event reports failures as it should exactly when no close frame
of the peer has been reported, or the frame is that of an abnormal closure if the WebSocket was closed
while CONNECTING, and any other if it was not. -/
theorem close_report_iff (h : system.Reachable s) :
    s.ReportsFailures ↔ ∀ info, s.settle = .done → s.host.closed = some (some info) →
      (s.pendingClose.isSome = true ↔ info = CloseInfo.abnormal) := by
  have hopen (deferred : Bool) (events : List (Event × ReadyState))
      (hevents : s.lifecycle = opened deferred ++ events)
      (hnone : events.countP (fun event => event.1.isClose) = 0) : s.ReportsFailures := by
    apply reportsFailures_of_none
    rw [hevents, List.countP_append, countP_opened_isClose, hnone]
  have hbefore (hsettle : s.settle ≠ .done) (hreports : s.ReportsFailures) :
      s.ReportsFailures ↔ ∀ info, s.settle = .done → s.host.closed = some (some info) →
        (s.pendingClose.isSome = true ↔ info = CloseInfo.abnormal) :=
    iff_of_true hreports fun _ hdone => absurd hdone hsettle
  have hidle (hpc : s.settle = .idle) : s.settle ≠ .done := by
    rw [hpc]
    nofun
  cases life_staged h with
  | connecting hpc _ _ hevents _ => exact hbefore (hidle hpc.2) (hopen true [] hevents rfl)
  | opening hpc _ _ _ hevents _ => exact hbefore (hidle hpc.2) (hopen false [] hevents rfl)
  | failing hpc _ _ hevents _ => exact hbefore (hidle hpc.2) (hopen true _ hevents rfl)
  | failed hpc _ _ hevents _ =>
    have habnormal : s.lifecycle =
        Report.abnormal.before true ++ [(Report.abnormal.event, .closed)] := hevents
    exact hbefore (hidle hpc.2) (reportsFailures_of_abnormal habnormal)
  | waiting _ _ _ hsettle hevents _ =>
    refine hbefore ?_ (hopen s.life.deferred [] (hevents.trans (List.append_nil _).symm) rfl)
    intro hdone
    rcases hsettle with hs | ⟨info, -, hs⟩ <;> cases hs.symm.trans hdone
  | erring _ _ _ _ hsettle _ hevents _ =>
    refine hbefore ?_ (hopen s.life.deferred _ hevents rfl)
    intro hdone
    cases hsettle.symm.trans hdone
  | done hpc hconnected hd hclosed hsettle hevents hready =>
    rename_i info
    have hevents : s.lifecycle = _ := hevents.trans (opened_append_events _ _)
    cases info with
    | none =>
      refine iff_of_true (reportsFailures_of_abnormal hevents) fun info _ hinfo => ?_
      cases hclosed.symm.trans hinfo
    | some info =>
      refine ((reportsFailures_iff hevents).trans (report_of_some _ info)).trans ?_
      constructor
      · intro hreport info' _ hinfo
        cases hclosed.symm.trans hinfo
        exact hreport
      · intro hreport
        exact hreport info hsettle hclosed

/-- A clean close of an OPEN WebSocket. -/
theorem close_report_clean :
    ∃ s, system.run (State.start "ws://a/")
        [.established "", .startLoops, .close (some 1000) none, .hostClose (some ⟨1000, "bye"⟩),
          .hostReceiveFails, .hostWaitResolves, .settleRuns] = some s ∧
      s.lifecycle = [(.open, .open), (.close true 1000 "bye", .closed)] ∧ s.ReportsFailures := by
  have hrun : system.run (State.start "ws://a/")
      [.established "", .startLoops, .close (some 1000) none, .hostClose (some ⟨1000, "bye"⟩),
        .hostReceiveFails, .hostWaitResolves, .settleRuns] = some _ := rfl
  refine ⟨_, hrun, rfl, (close_report_iff (reachable_of_run hrun)).mpr ?_⟩
  intro info _ hinfo
  cases hinfo
  decide

/-- A close while CONNECTING that the peer answers with its own code: the close event is unclean and
carries that code. -/
theorem deferred_close_reports_code :
    ¬ ∀ s, system.Reachable s → s.ReportsFailures := by
  intro hclaim
  have hrun : system.run (State.start "ws://a/")
      [.close (some 4000) (some "x"), .established "", .hostClose (some ⟨4000, "x"⟩),
        .hostWaitResolves, .settleRuns, .settleCloses] = some _ := rfl
  have hreports := hclaim _ (reachable_of_run hrun)
  have hreport := (hreports ⟨false, 4000, "x"⟩ .closed (by decide)).1.mp rfl
  exact absurd hreport.1 (by decide)

end Polymorph.Shim
