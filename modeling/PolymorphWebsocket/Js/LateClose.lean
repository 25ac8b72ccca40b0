import PolymorphWebsocket.Contract.Ending
import PolymorphWebsocket.Js.Inbox
import PolymorphWebsocket.Js.Settlement

/-!
# The JavaScript host: a call of `close` on a connection that is closing or closed

`close` looks at its own flag only, so on a connection whose closing the peer, the platform or an
overflow has begun it still makes the local close: the queue is discarded, every later `receive`
fails with `closed`, and a `WebSocket` that is CLOSED reads as closing until it settles.  Nobody sees
the call exactly when nothing of this is left to see: the connection has settled, nothing is queued,
no overflow is latched and no stream has been claimed.
-/

namespace Polymorph.Js

open Transition

variable {s s' : State}

/-! ### The observer -/

/-- What the results of receive calls, the values of `state` and the results of `waitClosed` calls
have grown by. -/
def State.shown (s s' : State) : List Observation :=
  shownResults s.hist.received s'.hist.received ++
    grown .state s.hist.states s'.hist.states ++
    grown (fun result => .closed result.2) s.hist.closes s'.hist.closes

/-- A connection under the eyes of a guest that only receives: it makes no local close and claims no
stream. -/
def observed : Observed State Observation :=
  system.observed (fun a => a.receivesOnly = true) State.shown fun _ _ => False

/-- A result that is shown is one of those the record has grown by. -/
theorem received_mem_shown {results : List (Nat × Except Error Message)}
    (hreceived : s'.hist.received = s.hist.received ++ results) {result : Except Error Message}
    (h : .received result ∈ s.shown s') : ∃ id, (id, result) ∈ results := by
  simp only [State.shown, List.mem_append] at h
  rcases h with (h | h) | h
  · obtain ⟨answer, hmem, heq⟩ := exists_of_mem_grown hreceived h
    cases heq
    exact ⟨answer.1, hmem⟩
  · obtain ⟨value, -, heq⟩ := List.mem_map.mp h
    cases heq
  · obtain ⟨answer, -, heq⟩ := List.mem_map.mp h
    cases heq

/-- While no call asks for it no state is shown. -/
theorem state_not_mem_shown (hstates : s'.hist.states = s.hist.states) {value : WsState} :
    .state value ∉ s.shown s' := by
  intro h
  simp only [State.shown, grown_of_eq hstates, List.append_nil, List.mem_append] at h
  rcases h with h | h <;> obtain ⟨answer, -, heq⟩ := List.mem_map.mp h <;> cases heq

theorem shown_self (h : s'.hist = s.hist) : s.shown s' = [] := by
  simp [State.shown, shownResults, grown, h]

/-- A receive call that returns shows its result. -/
theorem shown_of_answer {id : Nat} {result : Except Error Message}
    (h : s'.hist = { s.hist with received := s.hist.received ++ [(id, result)] }) :
    s.shown s' = [.received result] := by
  simp [State.shown, shownResults, grown, h]

/-- A call of `state` shows its value. -/
theorem shown_callState (s : State) : s.shown s.callState = [.state s.currentState] := by
  simp [State.shown, shownResults, grown, State.callState]

/-! ### A connection that is over -/

/-- Nothing is left to see of a connection but its end: it has settled by its close event, nothing
is queued, and no stream has been claimed. -/
structure State.Over (s : State) : Prop where
  settled : s.closeSettled = true
  socket : s.socket = .done
  unclaimed : s.streamClaimed = false
  stream : s.stream = none
  messages : s.incoming.messages = []
  ended : s.localClosed = true ∨ (s.incoming.overflowed = false ∧ s.incoming.closed = true)
  live : s.disposed = false

/-- What is left of it. -/
def State.ending (s : State) : Ending where
  state := .closed
  settled := true
  info := s.closeInfo

namespace State.Over

/-- Its state is closed. -/
theorem currentState (h : s.Over) : s.currentState = .closed := if_pos h.settled

/-- A receive call fails with `closed` at once. -/
theorem receive (h : s.Over) : s.receive = { s with
    nextId := s.nextId + 1
    hist := { s.hist with
      received := s.hist.received ++ [(s.nextId, .error .closed)] } } := by
  unfold State.receive
  dsimp only
  split
  · rfl
  · next hl =>
    rw [if_neg (by simp [h.unclaimed])]
    obtain ⟨hover, hclosed⟩ := h.ended.resolve_left hl
    have hnext : s.incoming.next (.receive s.nextId) = (some (.error .closed), s.incoming) := by
      unfold IncomingQueue.next
      split
      · next hm =>
        rw [h.messages] at hm
        cases hm
      · rw [hover, hclosed]
        rfl
    unfold State.next
    dsimp only
    rw [hnext]
    rfl

/-- A `waitClosed` call returns the close details at once. -/
theorem waitClosed (h : s.Over) : s.waitClosed = { s with
    nextId := s.nextId + 1
    hist := { s.hist with closes := s.hist.closes ++ [(s.nextId, s.closeInfo)] } } := by
  unfold State.waitClosed
  exact if_pos h.settled

/-- A receive call shows `closed`. -/
theorem shown_receive (h : s.Over) : s.shown s.receive = [.received (.error .closed)] := by
  rw [h.receive]
  exact shown_of_answer rfl

/-- A `waitClosed` call shows the close details. -/
theorem shown_waitClosed (h : s.Over) : s.shown s.waitClosed = [.closed s.closeInfo] := by
  rw [h.waitClosed]
  simp [State.shown, shownResults, grown]

/-- Only the three calls still show something of such a connection. -/
theorem step (h : s.Over) {a : Action} (ha : a.receivesOnly = true) (hs : Js.step s a = some s') :
    s'.Over ∧ s'.ending = s.ending ∧ Ending.Move s.ending (s.shown s') s.ending := by
  have hsilent (t : State) (hover : t.Over) (hinfo : t.closeInfo = s.closeInfo)
      (hhist : t.hist = s.hist) :
      t.Over ∧ t.ending = s.ending ∧ Ending.Move s.ending (s.shown t) s.ending := by
    refine ⟨hover, by rw [State.ending, hinfo]; rfl, ?_⟩
    rw [shown_self hhist]
    exact .settle s.ending rfl
  cases a with
  | receive =>
    obtain ⟨-, rfl⟩ := guestCall_eq_some.mp hs
    rw [h.shown_receive, h.receive]
    exact ⟨{ h with }, rfl,
      .receive s.ending⟩
  | receiveViaStream | close | dispose => cases ha
  | state =>
    obtain ⟨-, rfl⟩ := guestCall_eq_some.mp hs
    rw [shown_callState, h.currentState]
    exact ⟨{ h with }, rfl,
      .state s.ending⟩
  | waitClosed =>
    obtain ⟨-, rfl⟩ := guestCall_eq_some.mp hs
    rw [h.shown_waitClosed, h.waitClosed]
    exact ⟨{ h with }, rfl,
      .waitClosed s.ending rfl⟩
  | configure | tick =>
    cases hs
    exact hsilent _ { h with } rfl rfl
  | read =>
    obtain ⟨stream, hstream, -⟩ := Option.map_eq_some_iff.mp hs
    exact nomatch h.stream.symm.trans hstream
  | react =>
    obtain ⟨stream, hstream, -⟩ := Option.bind_eq_some_iff.mp hs
    exact nomatch h.stream.symm.trans hstream
  | message | transportClosed =>
    obtain ⟨⟨-, hopen⟩, -⟩ := platformEvent_eq_some.mp hs
    rcases hopen with hopen | hopen <;> exact nomatch h.socket.symm.trans hopen
  | peerClosing | errorEvent =>
    obtain ⟨⟨-, hopen⟩, -⟩ := platformEvent_eq_some.mp hs
    exact nomatch h.socket.symm.trans hopen
  | closeEvent =>
    obtain ⟨⟨-, fired, hopen⟩, -⟩ := platformEvent_eq_some.mp hs
    exact nomatch h.socket.symm.trans hopen
  | closeSettles =>
    simp only [Js.step, h.socket] at hs
    cases hs
  | timer handle =>
    obtain ⟨-, rfl⟩ := platformEvent_eq_some.mp hs
    have hfired : ({ s with
        timers := s.timers.filter fun timer => timer.handle != handle } : State).Over :=
      { h with }
    unfold State.settleClosed
    rw [if_pos hfired.settled]
    exact hsilent _ hfired rfl rfl

/-- Such a connection shows what its end shows. -/
theorem alike (h : s.Over) : observed.Alike Ending.observed s s.ending := by
  refine Observed.Simulates.alike (R := fun s e => State.Over s ∧ e = s.ending)
    (Q := fun e s => State.Over s ∧ e = s.ending) ?_ ?_ ⟨h, rfl⟩ (.nil s) ⟨h, rfl⟩
  · rintro s _ os s' ⟨hover, rfl⟩ hmove
    cases hmove with
    | step ha hs =>
      obtain ⟨hover', heq, hm⟩ := hover.step ha hs
      exact ⟨s.ending, .single hm, hover', heq.symm⟩
    | inspect ho => cases ho
  · rintro _ s os e' ⟨hover, rfl⟩ hmove
    -- each of the three calls can be made
    have hcall (a : Action) (t : State) (os : List Observation) (ha : a.receivesOnly = true)
        (hs : Js.step s a = some t) (hos : s.shown t = os) :
        ∃ t, observed.Run s os t ∧ t.Over ∧ s.ending = t.ending := by
      obtain ⟨hover', heq, -⟩ := hover.step ha hs
      rw [← hos]
      exact ⟨t, .single (.step ha hs), hover', heq.symm⟩
    have hlive (t : State) : guestCall s t = some t := guestCall_eq_some.mpr ⟨hover.live, rfl⟩
    cases hmove with
    | advance state hrank =>
      have hclosed : state = .closed := by
        change WsState.closed.rank ≤ state.rank at hrank
        cases state <;> first | rfl | exact absurd hrank (by decide)
      rw [hclosed]
      exact ⟨s, .nil s, hover, rfl⟩
    | settle => exact ⟨s, .nil s, hover, rfl⟩
    | receive => exact hcall .receive s.receive _ rfl (hlive _) hover.shown_receive
    | state =>
      refine hcall .state s.callState _ rfl (hlive _) ?_
      rw [shown_callState, hover.currentState]
      rfl
    | waitClosed => exact hcall .waitClosed s.waitClosed _ rfl (hlive _) hover.shown_waitClosed

end State.Over

/-! ### After a local close -/

/-- A receive call that returns fails with `closed`. -/
def FailsClosed (o : Observation) : Prop := ∀ result, o = .received result → result = .error .closed

/-- No receive call waits; `pull` may. -/
def State.OnlyPulls (s : State) : Prop := ∀ waiter ∈ s.incoming.waiters, waiter = .pull

/-- The answers to `pull` are no results of receive calls. -/
theorem answerAll_pull {answers : Answers} (h : ∀ answer ∈ answers, answer.1 = .pull) (s : State) :
    (s.answerAll answers).hist.received = s.hist.received := by
  induction answers generalizing s with
  | nil => rfl
  | cons answer answers ih =>
    change ((s.answer answer.1 answer.2).answerAll answers).hist.received = _
    rw [ih fun a ha => h a (List.mem_cons_of_mem _ ha), h answer List.mem_cons_self]
    rfl

/-- A piece of a move that answers no receive call, and leaves none waiting. -/
structure Mute (s s' : State) : Prop where
  pulls : s'.OnlyPulls
  received : s'.hist.received = s.hist.received

namespace Mute

/-- A piece that leaves the callers alone and answers none. -/
theorem of_eq (h : s.OnlyPulls) (hwaiters : s'.incoming.waiters = s.incoming.waiters)
    (hreceived : s'.hist.received = s.hist.received) : Mute s s' := by
  refine ⟨fun waiter hmem => h waiter ?_, hreceived⟩
  rwa [← hwaiters]

/-- An operation of the queue that answers some of its waiters. -/
theorem withQueue {result : Answers × IncomingQueue}
    (hanswers : ∀ answer ∈ result.1, answer.1 = .pull)
    (hwaiters : ∀ waiter ∈ result.2.waiters, waiter = .pull) : Mute s (s.withQueue result) := by
  refine ⟨?_, answerAll_pull hanswers { s with incoming := result.2 }⟩
  unfold State.OnlyPulls
  rw [withQueue_incoming]
  exact hwaiters

/-- A message goes to `pull`, or is queued. -/
theorem push (h : s.OnlyPulls) (message : Message) (size : Nat) :
    Mute s (s.withQueue (s.incoming.push message size)) := by
  cases hw : s.incoming.waiters with
  | nil =>
    rw [IncomingQueue.push_of_nil hw]
    exact withQueue nofun h
  | cons waiter rest =>
    rw [IncomingQueue.push_of_cons hw]
    have hall : ∀ w ∈ waiter :: rest, w = .pull := hw ▸ h
    refine withQueue (fun answer ha => ?_) fun w hmem => hall w (List.mem_cons_of_mem _ hmem)
    rw [List.mem_singleton.mp ha]
    exact hall waiter List.mem_cons_self

/-- The end of the queue answers `pull` at most. -/
theorem endQueue (h : s.OnlyPulls) : Mute s (s.withQueue s.incoming.endQueue) := by
  unfold IncomingQueue.endQueue
  split
  · exact withQueue nofun h
  · refine withQueue (fun answer ha => ?_) nofun
    obtain ⟨waiter, hmem, rfl⟩ := List.mem_map.mp ha
    exact h waiter hmem

/-- `pull` is answered, or waits. -/
theorem next (h : s.OnlyPulls) : Mute s (s.next .pull) := by
  unfold State.next IncomingQueue.next
  split
  · next result queue heq =>
    have hwaiters : queue.waiters = s.incoming.waiters := by
      split at heq
      · cases heq
        rfl
      · split at heq
        · cases heq
          rfl
        · split at heq
          · cases heq
            rfl
          · cases heq
    exact of_eq h hwaiters rfl
  · next queue heq =>
    refine ⟨?_, rfl⟩
    show ∀ waiter ∈ queue.waiters, waiter = .pull
    split at heq
    · cases heq
    · split at heq
      · cases heq
      · split at heq
        · cases heq
        · cases heq
          intro waiter hmem
          exact (List.mem_append.mp hmem).elim (h waiter) List.mem_singleton.mp

/-- The platform's stream may call `pull`. -/
theorem withStream (h : s.OnlyPulls) (pull : PullPc) (o : Web.Outcome StreamMessage) :
    Mute s (s.withStream pull o) := by
  unfold State.withStream
  dsimp only
  split
  · have hnext := next (s := { s with
      stream := some { readable := o.stream, pull := .waiting }
      hist := { s.hist with reads := s.hist.reads ++ o.answers } }) h
    exact ⟨hnext.pulls, hnext.received⟩
  · exact of_eq h rfl rfl

/-- A message event answers `pull` at most. -/
theorem onMessage (h : s.OnlyPulls) (message : Message) : Mute s (s.onMessage message) := by
  unfold State.onMessage
  dsimp only
  split
  · exact of_eq h rfl rfl
  · split
    · unfold State.transportClosing
      split <;> exact of_eq h rfl rfl
    · exact push h message _

/-- So does the settlement. -/
theorem settleClosed (h : s.OnlyPulls) (event : Option (UInt16 × String)) :
    Mute s (s.settleClosed event) := by
  unfold State.settleClosed
  split
  · exact of_eq h rfl rfl
  · have hend := endQueue (s := { s with
      closeSettled := true
      timers := s.timers.filter fun timer => s.closeDeadline != some timer.handle
      closeDeadline := none }) h
    exact ⟨hend.pulls, hend.received⟩

end Mute

/-- What a move shows that answers no receive call. -/
theorem failsClosed_of_mute (h : Mute s s') : ∀ o ∈ s.shown s', FailsClosed o := by
  intro o ho result heq
  rw [heq] at ho
  obtain ⟨id, hmem⟩ := received_mem_shown (h.received.trans (List.append_nil _).symm) ho
  cases hmem

/-- Once a local close has been made every receive call that returns fails with `closed`. -/
theorem shown_of_localClosed (hl : s.localClosed = true) (h : s.OnlyPulls) {a : Action}
    (hs : step s a = some s') :
    s'.OnlyPulls ∧ ∀ o ∈ s.shown s', FailsClosed o := by
  have hmute (t : State) (hm : Mute s t) : t.OnlyPulls ∧ ∀ o ∈ s.shown t, FailsClosed o :=
    ⟨hm.pulls, failsClosed_of_mute hm⟩
  have hclose (code : Option UInt16) (reason : String) : (s.close code reason).2 = s := by
    rcases close_cases s code reason with ⟨-, hc⟩ | ⟨hopen, -, -⟩
    · exact hc
    · cases hl.symm.trans hopen
  cases a with
  | receive =>
    obtain ⟨-, rfl⟩ := guestCall_eq_some.mp hs
    have hreceive : s.receive = { s with
        nextId := s.nextId + 1
        hist := { s.hist with
          received := s.hist.received ++ [(s.nextId, .error .closed)] } } := if_pos hl
    rw [hreceive]
    refine ⟨h, fun o ho result heq => ?_⟩
    rw [heq] at ho
    obtain ⟨id, hmem⟩ := received_mem_shown rfl ho
    cases List.mem_singleton.mp hmem
    rfl
  | receiveViaStream =>
    obtain ⟨-, rfl⟩ := guestCall_eq_some.mp hs
    have hsame : s.receiveViaStream = s := if_pos (by rw [hl]; rfl)
    rw [hsame]
    exact hmute s (.of_eq h rfl rfl)
  | state =>
    obtain ⟨-, rfl⟩ := guestCall_eq_some.mp hs
    exact hmute _ (.of_eq h rfl rfl)
  | waitClosed =>
    obtain ⟨-, rfl⟩ := guestCall_eq_some.mp hs
    apply hmute
    unfold State.waitClosed
    dsimp only
    split <;> exact .of_eq h rfl rfl
  | close code reason =>
    obtain ⟨-, rfl⟩ := guestCall_eq_some.mp hs
    rw [hclose]
    exact hmute s (.of_eq h rfl rfl)
  | dispose =>
    obtain ⟨-, rfl⟩ := guestCall_eq_some.mp hs
    unfold State.dispose
    rw [hclose]
    exact hmute _ (.of_eq h rfl rfl)
  | configure | tick =>
    cases hs
    exact hmute _ (.of_eq h rfl rfl)
  | read =>
    obtain ⟨stream, -, rfl⟩ := Option.map_eq_some_iff.mp hs
    have hstream := Mute.withStream (s := { s with nextId := s.nextId + 1 }) h stream.pull
      (stream.readable.read s.nextId)
    exact hmute _ ⟨hstream.pulls, hstream.received⟩
  | react =>
    obtain ⟨stream, -, hreact⟩ := Option.bind_eq_some_iff.mp hs
    unfold State.react at hreact
    split at hreact <;> first
    | cases hreact
      exact hmute _ (.withStream h _ _)
    | cases hreact
  | message message =>
    obtain ⟨-, rfl⟩ := platformEvent_eq_some.mp hs
    exact hmute _ (.onMessage h message)
  | peerClosing | transportClosed =>
    obtain ⟨-, rfl⟩ := platformEvent_eq_some.mp hs
    exact hmute _ (.of_eq h rfl rfl)
  | errorEvent | closeEvent =>
    obtain ⟨-, rfl⟩ := platformEvent_eq_some.mp hs
    have hend := Mute.endQueue h
    exact hmute _ ⟨hend.pulls, hend.received⟩
  | closeSettles =>
    simp only [step] at hs
    split at hs
    · obtain ⟨-, rfl⟩ := platformEvent_eq_some.mp hs
      have hsettle := Mute.settleClosed h
      exact hmute _ ⟨(hsettle _).pulls, (hsettle _).received⟩
    · cases hs
  | timer handle =>
    obtain ⟨-, rfl⟩ := platformEvent_eq_some.mp hs
    have hsettle := Mute.settleClosed (s := { s with
      timers := s.timers.filter fun timer => timer.handle != handle }) h none
    exact hmute _ ⟨hsettle.pulls, hsettle.received⟩

/-- Nothing else is shown after a local close. -/
theorem localClosed_moves : ∀ s os s', s.localClosed = true ∧ s.OnlyPulls → observed.move s os s' →
    (s'.localClosed = true ∧ s'.OnlyPulls) ∧ ∀ o ∈ os, FailsClosed o := by
  rintro s os s' ⟨hl, hpulls⟩ hmove
  cases hmove with
  | step ha hs =>
    obtain ⟨hpulls', hshown⟩ := shown_of_localClosed hl hpulls hs
    exact ⟨⟨localClosed_of_step hs hl, hpulls'⟩, hshown⟩
  | inspect ho => cases ho

/-! ### What is left to see -/

/-- Nothing that a local close changes is left to see: the connection has settled, nothing is queued,
no overflow is latched and no stream has been claimed. -/
def State.NothingLeft (s : State) : Prop :=
  s.closeSettled = true ∧ s.incoming.messages = [] ∧ s.incoming.overflowed = false ∧
    s.streamClaimed = false

instance (s : State) : Decidable s.NothingLeft :=
  inferInstanceAs (Decidable (_ ∧ _ ∧ _ ∧ _))

/-- Such a connection is over, with a local close and without. -/
theorem over_of_nothingLeft (h : system.Reachable s) (hd : s.disposed = false)
    (hl : s.localClosed = false) (hn : s.NothingLeft) (frame : Option CloseFrame) :
    s.Over ∧ (s.localClose frame).Over ∧ (s.localClose frame).ending = s.ending := by
  obtain ⟨hsettled, hm, hover, hunclaimed⟩ := hn
  have hsound := settle_sound h
  have hstream : s.stream = none := (stream_sound h).unclaimed hunclaimed
  have hsocket : s.socket = .done := by
    rcases hsound.socket hsettled with hdone | ho | hlocal
    · exact hdone
    · cases hover.symm.trans ho
    · cases hl.symm.trans hlocal
  have hstream' : (s.localClose frame).stream = none := by
    have hreject := reject_stream
      { s with localClosed := true, incoming := s.incoming.discard.2 } s.incoming.waiters .closed
    change (s.localClose frame).stream = if _ then s.stream else s.stream.map _ at hreject
    rw [hreject, hstream]
    split <;> rfl
  refine ⟨⟨hsettled, hsocket, hunclaimed, hstream, hm, .inr ⟨hover, hsound.queue hsettled⟩, hd⟩,
    ⟨?_, ?_, ?_, hstream', ?_, .inl ?_, ?_⟩, ?_⟩
  · rw [localClose_frame]
    exact hsettled
  · rw [localClose_frame]
    show s.socket.close = .done
    rw [hsocket]
    rfl
  · rw [localClose_frame]
    exact hunclaimed
  · rw [localClose_frame]
    rfl
  · rw [localClose_frame]
  · rw [localClose_frame]
    exact hd
  · rw [localClose_frame]
    rfl

/-- A receive call that is answered at once. -/
theorem shows_receive (hd : s.disposed = false) (hl : s.localClosed = false)
    (hc : s.streamClaimed = false) {result : Except Error Message} {queue : IncomingQueue}
    (hnext : s.incoming.next (.receive s.nextId) = (some result, queue)) :
    observed.Shows s [.received result] := by
  have hreceive : s.receive = { s with
      incoming := queue
      nextId := s.nextId + 1
      hist := { s.hist with received := s.hist.received ++ [(s.nextId, result)] } } := by
    unfold State.receive
    dsimp only
    rw [if_neg (by simp [hl]), if_neg (by simp [hc])]
    unfold State.next
    dsimp only
    rw [hnext]
    rfl
  exact ⟨s.receive, system.run_step (a := .receive) rfl (guestCall_eq_some.mpr ⟨hd, rfl⟩)
    (shown_of_answer (by rw [hreceive]))⟩

/-- A receive call after the claim of the stream. -/
theorem shows_claimed (hd : s.disposed = false) (hl : s.localClosed = false)
    (hc : s.streamClaimed = true) : observed.Shows s [.received (.error .receivingViaStream)] := by
  have hreceive : s.receive = { s with
      nextId := s.nextId + 1
      hist := { s.hist with
        received := s.hist.received ++ [(s.nextId, .error .receivingViaStream)] } } := by
    unfold State.receive
    dsimp only
    rw [if_neg (by simp [hl]), if_pos hc]
    rfl
  exact ⟨s.receive, system.run_step (a := .receive) rfl (guestCall_eq_some.mpr ⟨hd, rfl⟩)
    (shown_of_answer (by rw [hreceive]))⟩

/-- With a message queued the next receive call returns it. -/
theorem shows_queued (hd : s.disposed = false) (hl : s.localClosed = false)
    (hc : s.streamClaimed = false) {head : QueuedMessage} {rest : List QueuedMessage}
    (hm : s.incoming.messages = head :: rest) : observed.Shows s [.received (.ok head.message)] := by
  have hnext : s.incoming.next (.receive s.nextId) = (some (.ok head.message), { s.incoming with
      messages := rest, buffered := s.incoming.buffered - head.size }) := by
    rw [IncomingQueue.next, hm]
  exact shows_receive hd hl hc hnext

/-- Until a locally closed connection settles `state` returns closing, also after a receive call has
failed with `closed`. -/
theorem shows_closing (hd : s.disposed = false) (hl : s.localClosed = true)
    (hs : s.closeSettled = false) :
    observed.Shows s [.received (.error .closed), .state .closing] := by
  have hreceive : s.receive = { s with
      nextId := s.nextId + 1
      hist := { s.hist with
        received := s.hist.received ++ [(s.nextId, .error .closed)] } } := if_pos hl
  have hstate : s.receive.currentState = .closing := by
    rw [hreceive]
    simp only [State.currentState, hs, hl, Bool.false_eq_true, if_false, if_true]
  have hlive : s.receive.disposed = false := by
    rw [hreceive]
    exact hd
  have hcall : observed.Run s [.received (.error .closed)] s.receive :=
    system.run_step (a := .receive) rfl (guestCall_eq_some.mpr ⟨hd, rfl⟩)
      (shown_of_answer (by rw [hreceive]))
  have hcall' : observed.Run s.receive [.state .closing] s.receive.callState :=
    system.run_step (a := .state) rfl (guestCall_eq_some.mpr ⟨hlive, rfl⟩)
      (by rw [shown_callState, hstate])
  exact ⟨_, hcall.append hcall'⟩

/-! ### The order of `closed` and the state without a local close -/

/-- A message for `pull` is no result of a receive call. -/
theorem next_pull_received (s : State) : (s.next .pull).hist.received = s.hist.received := by
  unfold State.next
  rcases s.incoming.next .pull with ⟨_ | result, queue⟩ <;> rfl

/-- The platform's stream answers no receive call. -/
theorem withStream_received (s : State) (pull : PullPc) (o : Web.Outcome StreamMessage) :
    (s.withStream pull o).hist.received = s.hist.received := by
  unfold State.withStream
  dsimp only
  split
  · rw [next_pull_received]
  · rfl

/-- No receive call fails with `closed` in a piece of a move. -/
def NoneClosed (s s' : State) : Prop :=
  ∃ results, s'.hist.received = s.hist.received ++ results ∧
    ∀ result ∈ results, result.2 ≠ .error .closed

namespace NoneClosed

/-- A piece that answers no receive call. -/
theorem of_eq (h : s'.hist.received = s.hist.received) : NoneClosed s s' :=
  ⟨[], h.trans (List.append_nil _).symm, nofun⟩

/-- Pieces after one another. -/
theorem trans {s'' : State} (h : NoneClosed s s') (h' : NoneClosed s' s'') : NoneClosed s s'' := by
  obtain ⟨results, hreceived, hne⟩ := h
  obtain ⟨results', hreceived', hne'⟩ := h'
  refine ⟨results ++ results', ?_, fun result hmem => ?_⟩
  · rw [hreceived', hreceived, List.append_assoc]
  · exact (List.mem_append.mp hmem).elim (hne result) (hne' result)

/-- An answer that is not `closed`. -/
theorem answer (s : State) (waiter : Waiter) {result : Except Error Message}
    (hne : result ≠ .error .closed) : NoneClosed s (s.answer waiter result) := by
  cases waiter with
  | pull => exact of_eq rfl
  | receive id =>
    refine ⟨[(id, result)], rfl, fun answered hmem => ?_⟩
    rw [List.mem_singleton.mp hmem]
    exact hne

/-- Answers that are not `closed`. -/
theorem answerAll {answers : Answers} (h : ∀ answer ∈ answers, answer.2 ≠ .error .closed)
    (s : State) : NoneClosed s (s.answerAll answers) := by
  induction answers generalizing s with
  | nil => exact of_eq rfl
  | cons head answers ih =>
    have hhead := answer s head.1 (h head List.mem_cons_self)
    exact hhead.trans (ih (fun a ha => h a (List.mem_cons_of_mem _ ha)) (s.answer head.1 head.2))

/-- An operation of the queue whose answers are not `closed`. -/
theorem withQueue (s : State) {result : Answers × IncomingQueue}
    (h : ∀ answer ∈ result.1, answer.2 ≠ .error .closed) : NoneClosed s (s.withQueue result) :=
  answerAll h { s with incoming := result.2 }

/-- A message is the answer of a push. -/
theorem push (s : State) (message : Message) (size : Nat) :
    NoneClosed s (s.withQueue (s.incoming.push message size)) := by
  apply withQueue
  unfold IncomingQueue.push
  split
  · intro answer hmem
    rw [List.mem_singleton.mp hmem]
    exact nofun
  · exact nofun

/-- After an overflow the queue ends with that error. -/
theorem settleClosed (ho : s.incoming.overflowed = true) (event : Option (UInt16 × String)) :
    NoneClosed s (s.settleClosed event) := by
  have hanswers : ∀ answer ∈ s.incoming.endQueue.1, answer.2 ≠ .error .closed := by
    unfold IncomingQueue.endQueue
    split
    · exact List.forall_mem_nil _
    · intro answer hmem
      obtain ⟨waiter, -, rfl⟩ := List.mem_map.mp hmem
      rw [IncomingQueue.endError]
      show Except.error (if s.incoming.overflowed = true then _ else _) ≠ _
      rw [if_pos ho]
      rintro ⟨⟩
  unfold State.settleClosed
  split
  · exact of_eq rfl
  · exact withQueue { s with
      closeSettled := true
      timers := s.timers.filter fun timer => s.closeDeadline != some timer.handle
      closeDeadline := none } hanswers

/-- Nothing that shows is a failure with `closed`. -/
theorem shown (h : NoneClosed s s') : .received (.error .closed) ∉ s.shown s' := by
  intro hshown
  obtain ⟨results, hreceived, hne⟩ := h
  obtain ⟨id, hmem⟩ := received_mem_shown hreceived hshown
  exact hne _ hmem rfl

end NoneClosed

/-- Without a local close a receive call fails with `closed` only when the platform is CLOSED. -/
theorem closed_of_shown (h : system.Reachable s) (hl : s.localClosed = false) {a : Action}
    (ha : a.receivesOnly = true) (hs : step s a = some s')
    (hshown : .received (.error .closed) ∈ s.shown s') : s'.socket.readyState = .closed := by
  have hnone (hn : NoneClosed s s') : s'.socket.readyState = .closed := absurd hshown hn.shown
  cases a with
  | receive =>
    obtain ⟨-, rfl⟩ := guestCall_eq_some.mp hs
    by_cases hc : s.streamClaimed = true
    · apply hnone
      unfold State.receive
      dsimp only
      rw [if_neg (by simp [hl]), if_pos hc]
      exact .answer { s with nextId := s.nextId + 1 } (.receive s.nextId) nofun
    · by_cases hready : s.socket.readyState = .closed
      · exact (Forward.of_inbound (.receive s)).closed hready
      -- the queue has not ended, or an overflow has ended it
      have hresult : (s.incoming.next (.receive s.nextId)).1 ≠ some (.error .closed) := by
        unfold IncomingQueue.next
        split
        · exact nofun
        · split
          · exact nofun
          · next ho =>
            split
            · next hclosed =>
              rcases mayEnd_of_closed h hclosed with hr | ho' | hl'
              · exact absurd hr hready
              · exact absurd ho' ho
              · cases hl.symm.trans hl'
            · exact nofun
      apply hnone
      unfold State.receive
      dsimp only
      rw [if_neg (by simp [hl]), if_neg hc]
      unfold State.next
      split
      · next result queue heq =>
        have hne : result ≠ .error .closed := by
          rintro rfl
          exact hresult (congrArg Prod.fst heq)
        exact .answer { s with incoming := queue, nextId := s.nextId + 1 } (.receive s.nextId) hne
      · exact .of_eq rfl
  | receiveViaStream | close | dispose => cases ha
  | state | configure | tick =>
    first
    | obtain ⟨-, rfl⟩ := guestCall_eq_some.mp hs
      exact hnone (.of_eq rfl)
    | cases hs
      exact hnone (.of_eq rfl)
  | waitClosed =>
    obtain ⟨-, rfl⟩ := guestCall_eq_some.mp hs
    apply hnone
    unfold State.waitClosed
    dsimp only
    split <;> exact .of_eq rfl
  | read =>
    obtain ⟨stream, -, rfl⟩ := Option.map_eq_some_iff.mp hs
    exact hnone (.of_eq (withStream_received _ _ _))
  | react =>
    obtain ⟨stream, -, hreact⟩ := Option.bind_eq_some_iff.mp hs
    unfold State.react at hreact
    split at hreact <;> first
    | cases hreact
      exact hnone (.of_eq (withStream_received _ _ _))
    | cases hreact
  | message message =>
    obtain ⟨-, rfl⟩ := platformEvent_eq_some.mp hs
    apply hnone
    unfold State.onMessage
    dsimp only
    split
    · exact .of_eq rfl
    · split
      · unfold State.transportClosing
        split <;> exact .of_eq rfl
      · exact .push s message _
  | peerClosing =>
    obtain ⟨-, rfl⟩ := platformEvent_eq_some.mp hs
    exact hnone (.of_eq rfl)
  | transportClosed | errorEvent | closeEvent =>
    obtain ⟨-, rfl⟩ := platformEvent_eq_some.mp hs
    rfl
  | closeSettles =>
    simp only [step] at hs
    split at hs
    · obtain ⟨-, rfl⟩ := platformEvent_eq_some.mp hs
      rfl
    · cases hs
  | timer handle =>
    obtain ⟨⟨-, timer, hmem, -⟩, rfl⟩ := platformEvent_eq_some.mp hs
    have hover : s.incoming.overflowed = true := by
      rcases (settle_sound h).timers (List.ne_nil_of_mem hmem) with ho | hlocal
      · exact ho
      · cases hl.symm.trans hlocal
    have hsettle := NoneClosed.settleClosed (s := { s with
      timers := s.timers.filter fun timer => timer.handle != handle }) hover none
    exact hnone hsettle

/-- A value of `state` is closed. -/
def ShowsClosed (o : Observation) : Prop := ∀ value, o = .state value → value = .closed

/-- While the platform is CLOSED and no local close has been made `state` returns closed. -/
theorem shown_of_closed {os : List Observation}
    (h : s.localClosed = false ∧ s.socket.readyState = .closed) (hmove : observed.move s os s') :
    (s'.localClosed = false ∧ s'.socket.readyState = .closed) ∧ ∀ o ∈ os, ShowsClosed o := by
  obtain ⟨hl, hready⟩ := h
  cases hmove with
  | inspect ho => cases ho
  | step ha hs =>
    have hother (t : State) (hf : Forward s t) :
        (t.localClosed = false ∧ t.socket.readyState = .closed) ∧
          ∀ o ∈ s.shown t, ShowsClosed o := by
      refine ⟨⟨hf.localClosed.trans hl, hf.closed hready⟩, fun o ho value heq => ?_⟩
      rw [heq] at ho
      exact absurd ho (state_not_mem_shown hf.states)
    cases step_kind hs with
    | state =>
      refine ⟨⟨hl, hready⟩, fun o ho value heq => ?_⟩
      rw [shown_callState] at ho
      have hvalue : value = s.currentState := by
        rw [List.mem_singleton.mp ho] at heq
        cases heq
        rfl
      rw [hvalue]
      simp only [State.currentState, hl, hready, Bool.false_eq_true, if_false, ite_self]
    | close code reason => cases ha
    | dispose => cases ha
    | other hf => exact hother s' hf

/-- Without a local close `state` returns closed once a receive call has failed with `closed`. -/
theorem closed_before_state (h : system.Reachable s) (hl : s.localClosed = false)
    {os : List Observation} (hshows : observed.Shows s os) :
    os.Pairwise fun o o' => o = .received (.error .closed) → ShowsClosed o' := by
  obtain ⟨s', hrun⟩ := hshows
  refine hrun.ordered (I := fun s => system.Reachable s ∧ s.localClosed = false)
    (J := fun s => s.localClosed = false ∧ s.socket.readyState = .closed) ?_
    (fun _ _ _ => shown_of_closed) ⟨h, hl⟩
  rintro s os s' ⟨h, hl⟩ hmove
  cases hmove with
  | inspect ho => cases ho
  | step ha hs =>
    have hl' : s'.localClosed = false := by
      cases step_kind hs with
      | state => exact hl
      | close => cases ha
      | dispose => cases ha
      | other hf => exact hf.localClosed.trans hl
    refine ⟨⟨h.next hs, hl'⟩, ?_, ?_⟩
    · cases step_kind hs with
      | state =>
        rw [shown_callState]
        exact List.pairwise_singleton _ _
      | close => cases ha
      | dispose => cases ha
      | other hf =>
        refine List.pairwise_of_forall_mem_list fun o _ o' ho' _ value heq => ?_
        rw [heq] at ho'
        exact absurd ho' (state_not_mem_shown hf.states)
    · rintro ⟨o, ho, rfl⟩
      exact ⟨hl', closed_of_shown h hl ha hs ho⟩

/-- A local close of a connection that has something left is seen. -/
theorem seen_of_left (h : system.Reachable s) (hd : s.disposed = false) (hl : s.localClosed = false)
    (hn : ¬ s.NothingLeft) (frame : Option CloseFrame) : ¬ observed.Alike observed s
      (s.localClose frame) := by
  have hlocal : (s.localClose frame).localClosed = true ∧ (s.localClose frame).OnlyPulls := by
    rw [localClose_frame]
    exact ⟨rfl, List.forall_mem_nil _⟩
  -- a result that is not `closed` is not seen after a local close
  have hresult (result : Except Error Message) (hne : result ≠ .error .closed)
      (hshows : observed.Shows s [.received result]) :
      ¬ observed.Alike observed s (s.localClose frame) :=
    Observed.not_alike localClosed_moves hlocal hshows List.mem_cons_self
      fun hclosed => hne (hclosed result rfl)
  by_cases hc : s.streamClaimed = true
  · exact hresult (.error .receivingViaStream) (by rintro ⟨⟩) (shows_claimed hd hl hc)
  rw [Bool.not_eq_true] at hc
  cases hm : s.incoming.messages with
  | cons head rest => exact hresult (.ok head.message) (by rintro ⟨⟩) (shows_queued hd hl hc hm)
  | nil =>
    by_cases ho : s.incoming.overflowed = true
    · have hnext : s.incoming.next (.receive s.nextId) =
          (some (.error .receiveBufferOverflow), s.incoming) := by
        rw [IncomingQueue.next, hm]
        exact if_pos ho
      exact hresult (.error .receiveBufferOverflow) (by rintro ⟨⟩) (shows_receive hd hl hc hnext)
    rw [Bool.not_eq_true] at ho
    have hunsettled : s.closeSettled = false :=
      Bool.eq_false_iff.mpr fun hsettled => hn ⟨hsettled, hm, ho, hc⟩
    -- only after the close `state` returns closing although a receive call has failed
    have hclosing : observed.Shows (s.localClose frame)
        [.received (.error .closed), .state .closing] := by
      apply shows_closing <;> rw [localClose_frame]
      · exact hd
      · exact hunsettled
    intro halike
    have hpair := closed_before_state h hl ((halike _).mpr hclosing)
    have hstate := (List.pairwise_cons.mp hpair).1 _ List.mem_cons_self rfl
    cases hstate .closing rfl

/-- The first `close` with valid arguments goes unseen exactly when nothing of the connection is left
that a local close changes. -/
theorem close_unseen_iff (h : system.Reachable s) (hl : s.localClosed = false)
    {code : Option UInt16} {reason : String} (hvalid : validateCloseArgs code reason = .ok ())
    (hs : step s (.close code reason) = some s') :
    observed.Alike observed s s' ↔ s.NothingLeft := by
  obtain ⟨hd, rfl⟩ := guestCall_eq_some.mp hs
  rcases close_cases s code reason with ⟨hno | hno, -⟩ | ⟨-, -, hk⟩
  · cases hl.symm.trans hno
  · exact absurd hvalid hno
  rw [hk]
  constructor
  · intro halike
    by_contra hn
    exact seen_of_left h hd hl hn _ halike
  · intro hn
    obtain ⟨hover, hover', hending⟩ := over_of_nothingLeft h hd hl hn (closeFrameOf code reason)
    exact hover.alike.trans (hending ▸ hover'.alike.symm)

end Polymorph.Js
