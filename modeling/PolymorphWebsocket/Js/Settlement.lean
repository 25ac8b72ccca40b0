import PolymorphWebsocket.Js.Queue

/-!
# The JavaScript host: what ends the queue and settles a connection

A connection settles by the second listener of its close event or by its close timer, and its queue
ends with either of them or with an event before.  The timer is armed by an overflow or a local close
only: without these a connection that has settled is done with the platform, and a queue that has
ended says that the platform is CLOSED.
-/

namespace Polymorph.Js

open Transition

variable {s s' : State}

/-- A latch of the queue stays. -/
theorem QueueMove.latched {q q' : IncomingQueue} (h : QueueMove q q') :
    (q.closed = true → q'.closed = true) ∧ (q.overflowed = true → q'.overflowed = true) := by
  cases h with
  | same => exact ⟨id, id⟩
  | push message =>
    unfold IncomingQueue.push
    split <;> exact ⟨id, id⟩
  | overflow => exact ⟨id, fun _ => rfl⟩
  | reject => exact ⟨id, id⟩
  | finish =>
    unfold IncomingQueue.endQueue
    split
    · exact ⟨id, id⟩
    · exact ⟨fun _ => rfl, id⟩
  | discard => exact ⟨fun _ => rfl, id⟩
  | next waiter =>
    unfold IncomingQueue.next
    split
    · exact ⟨id, id⟩
    · split
      · exact ⟨id, id⟩
      · split <;> exact ⟨id, id⟩

/-- What has settled a connection: the close event, or the close timer, which an overflow or a local
close has armed. -/
structure State.SettleSound (s : State) : Prop where
  queue : s.closeSettled = true → s.incoming.closed = true
  socket : s.closeSettled = true →
    s.socket = .done ∨ s.incoming.overflowed = true ∨ s.localClosed = true
  timers : s.timers ≠ [] → s.incoming.overflowed = true ∨ s.localClosed = true

namespace State.SettleSound

/-- A move that settles nothing and arms no timer. -/
theorem congr (h : s.SettleSound) (hq : QueueMove s.incoming s'.incoming)
    (hsettled : s'.closeSettled = s.closeSettled) (hlocal : s'.localClosed = s.localClosed)
    (hsocket : s.socket = .done → s'.socket = .done) (htimers : s'.timers ≠ [] → s.timers ≠ []) :
    s'.SettleSound := by
  obtain ⟨hclosed, hover⟩ := hq.latched
  constructor
  · rw [hsettled]
    exact fun hs => hclosed (h.queue hs)
  · rw [hsettled, hlocal]
    intro hs
    rcases h.socket hs with hdone | ho | hl
    · exact .inl (hsocket hdone)
    · exact .inr (.inl (hover ho))
    · exact .inr (.inr hl)
  · rw [hlocal]
    exact fun ht => (h.timers (htimers ht)).imp_left hover

/-- A move of the inbound side. -/
theorem inbound (h : s.SettleSound) (hq : QueueMove s.incoming s'.incoming)
    (hframe : InboundFrame s s') : s'.SettleSound :=
  h.congr hq (by rw [hframe]) (by rw [hframe]) (by rw [hframe]; exact id) (by rw [hframe]; exact id)

theorem localClose (s : State) (frame : Option CloseFrame) : (s.localClose frame).SettleSound := by
  rw [localClose_frame]
  exact ⟨fun _ => rfl, fun _ => .inr (.inr rfl), fun _ => .inr rfl⟩

theorem close (h : s.SettleSound) (code : Option UInt16) (reason : String) :
    (s.close code reason).2.SettleSound := by
  rcases close_cases s code reason with ⟨-, hc⟩ | ⟨-, -, hc⟩ <;> rw [hc]
  · exact h
  · exact localClose s _

/-- The connection settles by its close event, or after an overflow or a local close. -/
theorem settleClosed (h : s.SettleSound) (event : Option (UInt16 × String)) {socket : Socket}
    (hsettles : socket = .done ∨ s.incoming.overflowed = true ∨ s.localClosed = true) :
    ({ s.settleClosed event with socket := socket }).SettleSound := by
  obtain ⟨-, hover⟩ := (QueueMove.settleClosed s event).latched
  have hf := Forward.settleClosed s event
  have hclosed : (s.settleClosed event).incoming.closed = true := by
    unfold State.settleClosed
    split
    · next hs => exact h.queue hs
    · dsimp only
      rw [withQueue_incoming]
      unfold IncomingQueue.endQueue
      split
      · next hc => exact hc
      · rfl
  refine ⟨fun _ => hclosed, fun _ => ?_, fun ht => ?_⟩
  · show socket = .done ∨ (s.settleClosed event).incoming.overflowed = true ∨
      (s.settleClosed event).localClosed = true
    rw [hf.localClosed]
    rcases hsettles with hdone | ho | hl
    · exact .inl hdone
    · exact .inr (.inl (hover ho))
    · exact .inr (.inr hl)
  · have htimers : s.timers ≠ [] := by
      intro hnil
      apply ht
      show (s.settleClosed event).timers = []
      unfold State.settleClosed
      split
      · exact hnil
      · dsimp only
        rw [State.withQueue, AnswerFrame.answerAll, hnil]
        rfl
    show (s.settleClosed event).incoming.overflowed = true ∨ (s.settleClosed event).localClosed = true
    rw [hf.localClosed]
    exact (h.timers htimers).imp_left hover

/-- A message that does not fit latches the overflow before it arms the timer. -/
theorem onMessage (h : s.SettleSound) (message : Message) : (s.onMessage message).SettleSound := by
  unfold State.onMessage
  dsimp only
  split
  · exact h
  · next ho =>
    split
    · have hlatched : ({ s with
          incoming := { s.incoming with overflowed := true } }.closeSocket none).SettleSound :=
        ⟨h.queue, fun _ => .inr (.inl rfl), fun _ => .inl rfl⟩
      unfold State.transportClosing
      split
      · exact ⟨h.queue, fun _ => .inr (.inl rfl), fun _ => .inl rfl⟩
      · exact hlatched
    · next hfits =>
      refine h.inbound ?_ (.withQueue s _)
      rw [withQueue_incoming]
      exact .push message (by simpa using hfits) (Bool.eq_false_iff.mpr ho)

/-- The queue ends with a `WebSocket` that is not done. -/
theorem onEnd (h : s.SettleSound) (hopen : s.socket ≠ .done) (socket : Socket) :
    ({ s.onEnd with socket := socket }).SettleSound := by
  have hq : QueueMove s.incoming s.onEnd.incoming := by
    rw [State.onEnd, withQueue_incoming]
    exact .finish
  have hsocket : s.onEnd.socket = s.socket := by rw [InboundFrame.onEnd s]
  have hend : s.onEnd.SettleSound := h.inbound hq (.onEnd s)
  exact hend.congr .same rfl rfl (fun hdone => absurd (hsocket.symm.trans hdone) hopen) id

theorem step {a : Action} (h : s.SettleSound) (hs : step s a = some s') : s'.SettleSound := by
  have hq := queue_of_step hs
  cases a with
  | receive =>
    obtain ⟨-, rfl⟩ := guestCall_eq_some.mp hs
    exact h.inbound hq (.receive s)
  | receiveViaStream =>
    obtain ⟨-, rfl⟩ := guestCall_eq_some.mp hs
    exact h.inbound hq (.receiveViaStream s)
  | state =>
    obtain ⟨-, rfl⟩ := guestCall_eq_some.mp hs
    exact h.congr hq rfl rfl id id
  | waitClosed =>
    obtain ⟨-, rfl⟩ := guestCall_eq_some.mp hs
    unfold State.waitClosed
    dsimp only
    split <;> exact h.congr .same rfl rfl id id
  | close code reason =>
    obtain ⟨-, rfl⟩ := guestCall_eq_some.mp hs
    exact h.close code reason
  | dispose =>
    obtain ⟨-, rfl⟩ := guestCall_eq_some.mp hs
    have hclose := h.close none ""
    exact ⟨hclose.queue, hclose.socket, hclose.timers⟩
  | configure | tick =>
    cases hs
    exact h.congr hq rfl rfl id id
  | read =>
    obtain ⟨stream, -, rfl⟩ := Option.map_eq_some_iff.mp hs
    exact h.inbound hq (.read s stream)
  | react =>
    obtain ⟨stream, -, hreact⟩ := Option.bind_eq_some_iff.mp hs
    exact h.inbound hq (.react hreact)
  | message message =>
    obtain ⟨-, rfl⟩ := platformEvent_eq_some.mp hs
    exact h.onMessage message
  | peerClosing =>
    obtain ⟨⟨-, hopen⟩, rfl⟩ := platformEvent_eq_some.mp hs
    exact h.congr hq rfl rfl (fun hdone => nomatch hopen.symm.trans hdone) id
  | transportClosed =>
    obtain ⟨⟨-, hopen⟩, rfl⟩ := platformEvent_eq_some.mp hs
    refine h.congr hq rfl rfl (fun hdone => ?_) id
    rcases hopen with hopen | hopen <;> exact nomatch hopen.symm.trans hdone
  | errorEvent =>
    obtain ⟨⟨-, hclosed⟩, rfl⟩ := platformEvent_eq_some.mp hs
    exact h.onEnd (by rw [hclosed]; nofun) _
  | closeEvent code reason =>
    obtain ⟨⟨-, fired, hclosed⟩, rfl⟩ := platformEvent_eq_some.mp hs
    exact h.onEnd (by rw [hclosed]; nofun) _
  | closeSettles =>
    simp only [Js.step] at hs
    split at hs
    · obtain ⟨-, rfl⟩ := platformEvent_eq_some.mp hs
      exact h.settleClosed _ (.inl rfl)
    · cases hs
  | timer handle =>
    obtain ⟨⟨-, timer, hmem, -⟩, rfl⟩ := platformEvent_eq_some.mp hs
    -- an armed timer says that an overflow or a local close has been made
    have hreason := h.timers (List.ne_nil_of_mem hmem)
    have hfired : ({ s with
        timers := s.timers.filter fun timer => timer.handle != handle } : State).SettleSound :=
      ⟨h.queue, h.socket, fun _ => hreason⟩
    exact hfired.settleClosed none (.inr hreason)

end State.SettleSound

/-- In every reachable state the settlement has its reason. -/
theorem settle_sound (h : system.Reachable s) : s.SettleSound := by
  refine System.Reachable.induction (I := State.SettleSound) ?_ ?_ h
  · rintro _ ⟨knobs, now, rfl⟩
    exact ⟨nofun, nofun, fun ht => absurd rfl ht⟩
  · intro s a s' _ ih hs
    exact ih.step hs

/-! ### The end of the queue -/

/-- The queue may have ended: with the `WebSocket`, or after an overflow or a local close. -/
def State.MayEnd (s : State) : Prop :=
  s.socket.readyState = .closed ∨ s.incoming.overflowed = true ∨ s.localClosed = true

/-- Nothing takes CLOSED back. -/
theorem Forward.closed (h : Forward s s') (hready : s.socket.readyState = .closed) :
    s'.socket.readyState = .closed := by
  have hle := h.ready
  rw [hready] at hle
  cases hr : s'.socket.readyState <;> first
  | rfl
  | rw [hr] at hle
    exact absurd hle (by decide)

/-- What has ended the queue stays. -/
theorem mayEnd_of_step {a : Action} (h : s.MayEnd) (hs : step s a = some s') : s'.MayEnd := by
  obtain ⟨-, hover⟩ := (queue_of_step hs).latched
  rcases h with hready | ho | hl
  · left
    have hclose (code : Option UInt16) (reason : String) :
        (s.close code reason).2.socket.readyState = .closed := by
      rcases close_cases s code reason with ⟨-, hk⟩ | ⟨-, -, hk⟩ <;> rw [hk]
      · exact hready
      · rw [localClose_frame]
        show s.socket.close.readyState = .closed
        cases hsocket : s.socket <;> first
        | rfl
        | rw [hsocket] at hready
          cases hready
    cases step_kind hs with
    | state => exact hready
    | close code reason => exact hclose code reason
    | dispose => exact hclose none ""
    | other hf => exact hf.closed hready
  · exact .inr (.inl (hover ho))
  · exact .inr (.inr (localClosed_of_step hs hl))

theorem next_closed (q : IncomingQueue) (waiter : Waiter) : (q.next waiter).2.closed = q.closed := by
  unfold IncomingQueue.next
  split
  · rfl
  · split
    · rfl
    · split <;> rfl

theorem withStream_closed (s : State) (pull : PullPc) (o : Web.Outcome StreamMessage) :
    (s.withStream pull o).incoming.closed = s.incoming.closed := by
  unfold State.withStream
  dsimp only
  split
  · rw [next_incoming, next_closed]
  · rfl

/-- A move that ends the queue finds a reason. -/
theorem mayEnd_of_end {a : Action} (h : s.SettleSound) (hs : step s a = some s')
    (hopen : s.incoming.closed = false) (hc : s'.incoming.closed = true) : s'.MayEnd := by
  have hsame (heq : s'.incoming.closed = s.incoming.closed) : s'.MayEnd := by
    rw [heq, hopen] at hc
    cases hc
  have hclose (code : Option UInt16) (reason : String)
      (hend : (s.close code reason).2.incoming.closed = true) :
      (s.close code reason).2.localClosed = true := by
    rcases close_cases s code reason with ⟨-, hk⟩ | ⟨-, -, hk⟩ <;> rw [hk] at hend ⊢
    · rw [hopen] at hend
      cases hend
    · rw [localClose_frame]
  cases a with
  | receive =>
    obtain ⟨-, rfl⟩ := guestCall_eq_some.mp hs
    apply hsame
    unfold State.receive
    dsimp only
    split
    · rfl
    · split
      · rfl
      · rw [next_incoming, next_closed]
  | receiveViaStream =>
    obtain ⟨-, rfl⟩ := guestCall_eq_some.mp hs
    apply hsame
    unfold State.receiveViaStream
    split
    · rfl
    · dsimp only
      rw [withQueue_incoming]
      rfl
  | state | configure | tick =>
    first
    | obtain ⟨-, rfl⟩ := guestCall_eq_some.mp hs
      exact hsame rfl
    | cases hs
      exact hsame rfl
  | waitClosed =>
    obtain ⟨-, rfl⟩ := guestCall_eq_some.mp hs
    apply hsame
    unfold State.waitClosed
    dsimp only
    split <;> rfl
  | close code reason =>
    obtain ⟨-, rfl⟩ := guestCall_eq_some.mp hs
    exact .inr (.inr (hclose code reason hc))
  | dispose =>
    obtain ⟨-, rfl⟩ := guestCall_eq_some.mp hs
    exact .inr (.inr (hclose none "" hc))
  | read =>
    obtain ⟨stream, -, rfl⟩ := Option.map_eq_some_iff.mp hs
    exact hsame (withStream_closed _ _ _)
  | react =>
    obtain ⟨stream, -, hreact⟩ := Option.bind_eq_some_iff.mp hs
    unfold State.react at hreact
    split at hreact <;> first
    | cases hreact
      exact hsame (withStream_closed _ _ _)
    | cases hreact
  | message message =>
    obtain ⟨-, rfl⟩ := platformEvent_eq_some.mp hs
    apply hsame
    unfold State.onMessage
    dsimp only
    split
    · rfl
    · split
      · rw [QueueMove.transportClosing]
        rfl
      · rw [withQueue_incoming]
        unfold IncomingQueue.push
        split <;> rfl
  | peerClosing | transportClosed =>
    obtain ⟨-, rfl⟩ := platformEvent_eq_some.mp hs
    exact hsame rfl
  | errorEvent | closeEvent =>
    obtain ⟨-, rfl⟩ := platformEvent_eq_some.mp hs
    exact .inl rfl
  | closeSettles =>
    simp only [step] at hs
    split at hs
    · obtain ⟨-, rfl⟩ := platformEvent_eq_some.mp hs
      exact .inl rfl
    · cases hs
  | timer handle =>
    have hreason : s.MayEnd := by
      obtain ⟨⟨-, timer, hmem, -⟩, -⟩ := platformEvent_eq_some.mp hs
      exact .inr (h.timers (List.ne_nil_of_mem hmem))
    exact mayEnd_of_step hreason hs

/-- In every reachable state a queue that has ended had a reason to. -/
theorem mayEnd_of_closed (h : system.Reachable s) : s.incoming.closed = true → s.MayEnd := by
  refine System.Reachable.induction (I := fun s => s.incoming.closed = true → s.MayEnd) ?_ ?_ h
  · rintro _ ⟨knobs, now, rfl⟩
    exact nofun
  · intro s a s' hr ih hs hc
    cases hopen : s.incoming.closed with
    | true => exact mayEnd_of_step (ih hopen) hs
    | false => exact mayEnd_of_end (settle_sound hr) hs hopen hc

end Polymorph.Js
