import PolymorphWebsocket.Js.Websocket

/-!
# The JavaScript host: who changes what

The inbound side of a connection (the queue with its waiters, the stream and its source) is one part
of the state, its closing another.  `InboundFrame` says that a move keeps to the first part, and
`Forward` what a move can do to the second: the close never goes back.
-/

namespace Polymorph.Js

open Web Transition

variable {s s' s'' : State}

/-! ### Answers of the queue -/

/-- The part of the state that the answers of the queue change: the results of receive calls, and
where `pull` is. -/
def AnswerFrame (s s' : State) : Prop :=
  s' = { s with
    stream := s'.stream
    hist := { s.hist with received := s'.hist.received } }

namespace AnswerFrame

/-- Answers after answers. -/
theorem trans (h₁ : AnswerFrame s s') (h₂ : AnswerFrame s' s'') : AnswerFrame s s'' := by
  unfold AnswerFrame at *
  rw [h₁] at h₂
  exact h₂

/-- An answer resolves the call of a `receive`, or resumes `pull`. -/
theorem answer (s : State) (waiter : Waiter) (result : Except Error Message) :
    AnswerFrame s (s.answer waiter result) := by
  cases waiter <;> rfl

/-- All the answers of an operation of the queue. -/
theorem answerAll (s : State) (answers : Answers) : AnswerFrame s (s.answerAll answers) := by
  induction answers generalizing s with
  | nil => rfl
  | cons a answers ih => exact (answer s a.1 a.2).trans (ih (s.answer a.1 a.2))

end AnswerFrame

/-! ### The inbound side -/

/-- The part of the state that the queue, its callers and the stream change. -/
def InboundFrame (s s' : State) : Prop :=
  s' = { s with
    incoming := s'.incoming, streamClaimed := s'.streamClaimed, stream := s'.stream
    nextId := s'.nextId
    hist := { s.hist with received := s'.hist.received, reads := s'.hist.reads } }

namespace InboundFrame

/-- A piece of the inbound side after another. -/
theorem trans (h₁ : InboundFrame s s') (h₂ : InboundFrame s' s'') : InboundFrame s s'' := by
  unfold InboundFrame at *
  rw [h₁] at h₂
  exact h₂

/-- An answer belongs to the inbound side. -/
theorem of_answer (h : AnswerFrame s s') : InboundFrame s s' := by
  rw [h]
  rfl

/-- An operation of the queue, with its answers. -/
theorem withQueue (s : State) (result : Answers × IncomingQueue) :
    InboundFrame s (s.withQueue result) :=
  (show InboundFrame s { s with incoming := result.2 } from rfl).trans
    (of_answer (.answerAll _ result.1))

/-- A caller asks the queue for the next message. -/
theorem next (s : State) (waiter : Waiter) : InboundFrame s (s.next waiter) := by
  unfold State.next
  rcases s.incoming.next waiter with ⟨_ | result, queue⟩
  · rfl
  · exact (show InboundFrame s { s with incoming := queue } from rfl).trans
      (of_answer (.answer _ waiter result))

/-- Asking for a message claims nothing. -/
theorem next_claimed (s : State) (waiter : Waiter) :
    (s.next waiter).streamClaimed = s.streamClaimed := by
  unfold State.next
  rcases s.incoming.next waiter with ⟨_ | result, queue⟩
  · rfl
  · dsimp only
    rw [AnswerFrame.answer]

/-- A `receive` call. -/
theorem receive (s : State) : InboundFrame s s.receive := by
  unfold State.receive
  dsimp only
  split
  · rfl
  · split
    · rfl
    · exact (show InboundFrame s { s with nextId := s.nextId + 1 } from rfl).trans (next _ _)

/-- The claim of the stream. -/
theorem receiveViaStream (s : State) : InboundFrame s s.receiveViaStream := by
  unfold State.receiveViaStream
  split
  · rfl
  · have hclaim : InboundFrame s { s with streamClaimed := true } := rfl
    exact (hclaim.trans (withQueue _ _)).trans rfl

/-- What the platform's stream does for the guest, with the `pull` it may call. -/
theorem withStream (s : State) (pull : PullPc) (o : Outcome StreamMessage) :
    InboundFrame s (s.withStream pull o) := by
  unfold State.withStream
  dsimp only
  split
  · exact (show InboundFrame s
      { s with
        stream := some { readable := o.stream, pull := .waiting }
        hist := { s.hist with reads := s.hist.reads ++ o.answers } } from rfl).trans (next _ .pull)
  · rfl

/-- A read of the stream. -/
theorem read (s : State) (stream : Stream) : InboundFrame s (s.read stream) :=
  (show InboundFrame s { s with nextId := s.nextId + 1 } from rfl).trans (withStream _ _ _)

/-- A reaction of the stream to what `pull` has returned. -/
theorem react {stream : Stream} (h : s.react stream = some s') : InboundFrame s s' := by
  unfold State.react at h
  split at h
  · cases h
    exact withStream s _ _
  · cases h
    exact withStream s _ _
  · cases h
    exact withStream s _ _
  · cases h
    exact withStream s _ _
  · cases h
  · cases h

/-- The end of the queue. -/
theorem onEnd (s : State) : InboundFrame s s.onEnd := withQueue s _

end InboundFrame

/-- The queue an operation leaves; its answers do not change it. -/
theorem withQueue_incoming (s : State) (result : Answers × IncomingQueue) :
    (s.withQueue result).incoming = result.2 := by
  rw [State.withQueue, AnswerFrame.answerAll]

/-! ### The closing of the connection -/

/-- The position of a ready state along OPEN, CLOSING, CLOSED. -/
def ReadyState.rank : ReadyState → Nat
  | .open => 0
  | .closing => 1
  | .closed => 2

/-- What every move but the calls of `state`, `close` and `dispose` does to the closing: the
platform and the settlement do not go back. -/
structure Forward (s s' : State) : Prop where
  ready : s.socket.readyState.rank ≤ s'.socket.readyState.rank
  settled : s.closeSettled = true → s'.closeSettled = true
  localClosed : s'.localClosed = s.localClosed
  disposed : s'.disposed = s.disposed
  states : s'.hist.states = s.hist.states
  sawClosed : s'.hist.sawClosed = s.hist.sawClosed

namespace Forward

/-- A step forward after another. -/
theorem trans (h₁ : Forward s s') (h₂ : Forward s' s'') : Forward s s'' :=
  ⟨h₁.ready.trans h₂.ready, fun h => h₂.settled (h₁.settled h),
    h₂.localClosed.trans h₁.localClosed, h₂.disposed.trans h₁.disposed,
    h₂.states.trans h₁.states, h₂.sawClosed.trans h₁.sawClosed⟩

/-- A move that leaves the closing alone. -/
theorem of_eq (hready : s'.socket.readyState = s.socket.readyState)
    (hsettled : s'.closeSettled = s.closeSettled) (hlocal : s'.localClosed = s.localClosed)
    (hdisposed : s'.disposed = s.disposed) (hstates : s'.hist.states = s.hist.states)
    (hsaw : s'.hist.sawClosed = s.hist.sawClosed) : Forward s s' :=
  ⟨hready ▸ le_rfl, fun h => hsettled.trans h, hlocal, hdisposed, hstates, hsaw⟩

/-- The inbound side leaves the closing of the connection alone. -/
theorem of_inbound (h : InboundFrame s s') : Forward s s' :=
  of_eq (by rw [h]) (by rw [h]) (by rw [h]) (by rw [h]) (by rw [h]) (by rw [h])

/-- Closing the socket takes an open one to closing, and arms a deadline. -/
theorem closeSocket (s : State) (frame : Option CloseFrame) : Forward s (s.closeSocket frame) := by
  refine ⟨?_, id, rfl, rfl, rfl, rfl⟩
  show s.socket.readyState.rank ≤ s.socket.close.readyState.rank
  unfold Socket.close
  split
  · next hopen =>
    rw [hopen]
    decide
  · exact le_rfl

/-- An overflow closes toward the peer. -/
theorem transportClosing (s : State) : Forward s s.transportClosing := by
  unfold State.transportClosing
  split <;> exact of_eq rfl rfl rfl rfl rfl rfl

/-- A message event queues the message, drops it or overflows. -/
theorem onMessage (s : State) (message : Message) : Forward s (s.onMessage message) := by
  unfold State.onMessage
  dsimp only
  split
  · exact of_eq rfl rfl rfl rfl rfl rfl
  · split
    · have hlatch : Forward s { s with incoming := { s.incoming with overflowed := true } } :=
        of_eq rfl rfl rfl rfl rfl rfl
      exact (hlatch.trans (closeSocket _ none)).trans (transportClosing _)
    · exact of_inbound (.withQueue s _)

/-- Settlement, when it has not happened before: the queue ends and the outcome is latched. -/
theorem settleClosed (s : State) (event : Option (UInt16 × String)) :
    Forward s (s.settleClosed event) := by
  unfold State.settleClosed
  split
  · exact of_eq rfl rfl rfl rfl rfl rfl
  · have hlatch : Forward s { s with
        closeSettled := true
        timers := s.timers.filter fun timer => s.closeDeadline != some timer.handle
        closeDeadline := none } := ⟨le_rfl, fun _ => rfl, rfl, rfl, rfl, rfl⟩
    exact (hlatch.trans (of_inbound (.withQueue _ _))).trans (of_eq rfl rfl rfl rfl rfl rfl)

end Forward

/-- What a call of `close` does: nothing when its arguments are refused or a local close has been
made, and a local close otherwise. -/
theorem close_cases (s : State) (code : Option UInt16) (reason : String) :
    ((s.localClosed = true ∨ validateCloseArgs code reason ≠ .ok ()) ∧
      (s.close code reason).2 = s) ∨
    (s.localClosed = false ∧ validateCloseArgs code reason = .ok () ∧
      (s.close code reason).2 = s.localClose (closeFrameOf code reason)) := by
  unfold State.close
  cases hv : validateCloseArgs code reason with
  | error err => exact .inl ⟨.inr nofun, rfl⟩
  | ok =>
    cases hl : s.localClosed with
    | true => exact .inl ⟨.inl rfl, rfl⟩
    | false => exact .inr ⟨rfl, rfl, rfl⟩

/-- What a local close leaves of the state besides the queue it discards and its timer. -/
theorem localClose_frame (s : State) (frame : Option CloseFrame) :
    s.localClose frame = { s with
      socket := s.socket.close
      incoming := s.incoming.discard.2
      localClosed := true
      closeDeadline := (s.localClose frame).closeDeadline
      stream := (s.localClose frame).stream
      timers := (s.localClose frame).timers
      nextId := (s.localClose frame).nextId
      hist := { s.hist with
        received := (s.localClose frame).hist.received
        closeCalls := s.hist.closeCalls ++ [frame] } } := by
  have hanswers := AnswerFrame.answerAll
    { s with localClosed := true, incoming := s.incoming.discard.2 } s.incoming.discard.1
  simp only [State.localClose, State.withQueue, State.armCloseDeadline, State.closeSocket]
  rw [hanswers]

/-- A guest call is made on a live resource. -/
theorem guestCall_eq_some {t : State} : guestCall s t = some s' ↔ s.disposed = false ∧ t = s' := by
  unfold guestCall
  cases s.disposed <;> simp

/-- An event of the platform comes when no promise reaction is due. -/
theorem platformEvent_eq_some {enabled : Prop} [Decidable enabled] {t : State} :
    platformEvent s enabled t = some s' ↔ (s.reactionDue = false ∧ enabled) ∧ t = s' := by
  unfold platformEvent
  split
  · next h => simp [h]
  · next h => simp [h]

/-- The moves by what they do to the closing. -/
inductive StepKind (s : State) : Action → State → Prop
  | state (hd : s.disposed = false) : StepKind s .state s.callState
  | close (code : Option UInt16) (reason : String) (hd : s.disposed = false) :
      StepKind s (.close code reason) (s.close code reason).2
  | dispose (hd : s.disposed = false) : StepKind s .dispose s.dispose
  | other {a : Action} {s' : State} (h : Forward s s') : StepKind s a s'

/-- Every move but the calls of `state`, `close` and `dispose` takes the closing forward, if
anywhere. -/
theorem step_kind {a : Action} (h : step s a = some s') : StepKind s a s' := by
  cases a with
  | receive =>
    obtain ⟨-, rfl⟩ := guestCall_eq_some.mp h
    exact .other (.of_inbound (.receive s))
  | receiveViaStream =>
    obtain ⟨-, rfl⟩ := guestCall_eq_some.mp h
    exact .other (.of_inbound (.receiveViaStream s))
  | state =>
    obtain ⟨hd, rfl⟩ := guestCall_eq_some.mp h
    exact .state hd
  | waitClosed =>
    obtain ⟨-, rfl⟩ := guestCall_eq_some.mp h
    refine .other ?_
    unfold State.waitClosed
    dsimp only
    split <;> exact .of_eq rfl rfl rfl rfl rfl rfl
  | close code reason =>
    obtain ⟨hd, rfl⟩ := guestCall_eq_some.mp h
    exact .close code reason hd
  | dispose =>
    obtain ⟨hd, rfl⟩ := guestCall_eq_some.mp h
    exact .dispose hd
  | configure knobs =>
    cases h
    exact .other (.of_eq rfl rfl rfl rfl rfl rfl)
  | read =>
    obtain ⟨stream, -, rfl⟩ := Option.map_eq_some_iff.mp h
    exact .other (.of_inbound (.read s stream))
  | react =>
    obtain ⟨stream, -, hreact⟩ := Option.bind_eq_some_iff.mp h
    exact .other (.of_inbound (.react hreact))
  | message message =>
    obtain ⟨-, rfl⟩ := platformEvent_eq_some.mp h
    exact .other (.onMessage s message)
  | peerClosing =>
    obtain ⟨⟨-, hopen⟩, rfl⟩ := platformEvent_eq_some.mp h
    refine .other ⟨?_, id, rfl, rfl, rfl, rfl⟩
    show s.socket.readyState.rank ≤ 1
    rw [hopen]
    decide
  | transportClosed =>
    obtain ⟨⟨-, hopen⟩, rfl⟩ := platformEvent_eq_some.mp h
    refine .other ⟨?_, id, rfl, rfl, rfl, rfl⟩
    show s.socket.readyState.rank ≤ 2
    rcases hopen with hopen | hopen <;> rw [hopen] <;> decide
  | errorEvent =>
    obtain ⟨⟨-, hclosed⟩, rfl⟩ := platformEvent_eq_some.mp h
    have hend := Forward.of_inbound (.onEnd s)
    exact .other ⟨by rw [hclosed]; exact le_rfl, hend.settled, hend.localClosed, hend.disposed,
      hend.states, hend.sawClosed⟩
  | closeEvent code reason =>
    obtain ⟨⟨-, fired, hclosed⟩, rfl⟩ := platformEvent_eq_some.mp h
    have hend := Forward.of_inbound (.onEnd s)
    exact .other ⟨by rw [hclosed]; exact le_rfl, hend.settled, hend.localClosed, hend.disposed,
      hend.states, hend.sawClosed⟩
  | closeSettles =>
    simp only [step] at h
    split at h
    · next code reason hsocket =>
      obtain ⟨-, rfl⟩ := platformEvent_eq_some.mp h
      have hsettle := Forward.settleClosed s (some (code, reason))
      exact .other ⟨by rw [hsocket]; exact le_rfl, hsettle.settled, hsettle.localClosed,
        hsettle.disposed, hsettle.states, hsettle.sawClosed⟩
    · cases h
  | timer handle =>
    obtain ⟨-, rfl⟩ := platformEvent_eq_some.mp h
    have hfired : Forward s
        { s with timers := s.timers.filter fun timer => timer.handle != handle } :=
      .of_eq rfl rfl rfl rfl rfl rfl
    exact .other (hfired.trans (.settleClosed _ none))
  | tick dt =>
    cases h
    exact .other (.of_eq rfl rfl rfl rfl rfl rfl)

/-- A local close is not taken back. -/
theorem localClosed_of_step {a : Action} (h : step s a = some s') (hl : s.localClosed = true) :
    s'.localClosed = true := by
  have hcloses (code : Option UInt16) (reason : String) :
      (s.close code reason).2.localClosed = true := by
    rcases close_cases s code reason with ⟨-, hk⟩ | ⟨hopen, -, -⟩
    · rw [hk]
      exact hl
    · rw [hl] at hopen
      cases hopen
  cases step_kind h with
  | state => exact hl
  | close code reason => exact hcloses code reason
  | dispose => exact hcloses none ""
  | other hf =>
    rw [hf.localClosed]
    exact hl

end Polymorph.Js
