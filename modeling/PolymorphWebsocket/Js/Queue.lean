import Mathlib.Algebra.BigOperators.Group.List.Basic
import PolymorphWebsocket.Js.Frames

/-!
# The JavaScript host: the inbound queue

What holds of the queue in every reachable state: a waiter waits only while nothing is queued, the
byte count is the size of the queued messages and keeps to the limit, and a queue that has ended has
no waiters.
-/

namespace Polymorph.Js

open Transition

variable {s s' : State}

/-- The queue is in order. -/
structure IncomingQueue.Sound (q : IncomingQueue) : Prop where
  idle : q.messages ≠ [] → q.waiters = []
  counted : q.buffered = (q.messages.map QueuedMessage.size).sum
  bounded : q.buffered ≤ q.limit
  ended : q.closed = true → q.waiters = []

namespace IncomingQueue

variable {q : IncomingQueue}

/-- Without a waiter a message is queued. -/
theorem push_of_nil (h : q.waiters = []) (message : Message) (size : Nat) :
    q.push message size = ([], { q with
      buffered := q.buffered + size
      messages := q.messages ++ [{ message := message, size := size }] }) := by
  unfold push
  split
  · next heq =>
    rw [h] at heq
    cases heq
  · rfl

/-- The oldest waiter takes a message. -/
theorem push_of_cons {waiter : Waiter} {rest : List Waiter} (h : q.waiters = waiter :: rest)
    (message : Message) (size : Nat) :
    q.push message size = ([(waiter, .ok message)], { q with waiters := rest }) := by
  unfold push
  split
  · next heq =>
    rw [h] at heq
    cases heq
    rfl
  · next heq =>
    rw [h] at heq
    cases heq

namespace Sound

/-- A message that fits goes to the caller that waits longest, or is queued behind the others. -/
theorem push (h : q.Sound) (message : Message) {size : Nat} (hfits : q.overflows size = false) :
    (q.push message size).2.Sound := by
  have hle : q.buffered + size ≤ q.limit := by simpa [overflows] using hfits
  unfold IncomingQueue.push
  split
  · next waiter rest hw =>
    have hempty : q.messages = [] := by
      by_contra hne
      rw [h.idle hne] at hw
      cases hw
    refine ⟨fun hne => absurd hempty hne, h.counted, h.bounded, fun hc => ?_⟩
    rw [h.ended hc] at hw
    cases hw
  · next hw =>
    refine ⟨fun _ => hw, ?_, hle, h.ended⟩
    simp [h.counted]

/-- Rejecting the waiters leaves none. -/
theorem rejectWaiters (h : q.Sound) (error : Error) : (q.rejectWaiters error).2.Sound :=
  ⟨fun _ => rfl, h.counted, h.bounded, fun _ => rfl⟩

/-- The end of the queue answers the waiters it finds. -/
theorem endQueue (h : q.Sound) : q.endQueue.2.Sound := by
  unfold IncomingQueue.endQueue
  split
  · exact h
  · exact ⟨fun _ => rfl, h.counted, h.bounded, fun _ => rfl⟩

/-- A discarded queue holds nothing. -/
theorem discard (q : IncomingQueue) : q.discard.2.Sound :=
  ⟨fun hne => absurd rfl hne, rfl, Nat.zero_le _, fun _ => rfl⟩

/-- A caller is answered, or waits while nothing is queued. -/
theorem next (h : q.Sound) (waiter : Waiter) : (q.next waiter).2.Sound := by
  unfold IncomingQueue.next
  split
  · next head rest hm =>
    have hcounted := h.counted
    rw [hm, List.map_cons, List.sum_cons] at hcounted
    have hbounded := h.bounded
    refine ⟨fun _ => h.idle (by simp [hm]), ?_, ?_, h.ended⟩
    · show q.buffered - head.size = (rest.map QueuedMessage.size).sum
      omega
    · show q.buffered - head.size ≤ q.limit
      omega
  · next hm =>
    split
    · exact h
    · split
      · exact h
      · next hc => exact ⟨fun hne => absurd hm hne, h.counted, h.bounded, fun hc' => absurd hc' hc⟩

/-- The overflow latch changes nothing of it. -/
theorem overflowed (h : q.Sound) (flag : Bool) : { q with overflowed := flag }.Sound :=
  ⟨h.idle, h.counted, h.bounded, h.ended⟩

end Sound

end IncomingQueue

/-! ### Every move keeps the queue in order -/

/-- Taking from the queue changes what `IncomingQueue.next` changes. -/
theorem next_incoming (s : State) (waiter : Waiter) :
    (s.next waiter).incoming = (s.incoming.next waiter).2 := by
  unfold State.next
  rcases s.incoming.next waiter with ⟨_ | result, queue⟩
  · rfl
  · dsimp only
    rw [AnswerFrame.answer]

/-- What a move does to the queue: it leaves it alone or performs one of its operations. -/
inductive QueueMove (q : IncomingQueue) : IncomingQueue → Prop
  | same : QueueMove q q
  | push (message : Message) (hfits : q.overflows message.payloadLen = false)
      (ho : q.overflowed = false) : QueueMove q (q.push message message.payloadLen).2
  | overflow (message : Message) (hover : q.overflows message.payloadLen = true)
      (ho : q.overflowed = false) : QueueMove q { q with overflowed := true }
  | reject (error : Error) : QueueMove q (q.rejectWaiters error).2
  | finish : QueueMove q q.endQueue.2
  | discard : QueueMove q q.discard.2
  | next (waiter : Waiter) : QueueMove q (q.next waiter).2

namespace QueueMove

/-- A move of the queue keeps it in order. -/
theorem sound {q q' : IncomingQueue} (h : q.Sound) (hm : QueueMove q q') : q'.Sound := by
  cases hm with
  | same => exact h
  | push message hfits => exact h.push message hfits
  | overflow => exact h.overflowed true
  | reject error => exact h.rejectWaiters error
  | finish => exact h.endQueue
  | discard => exact .discard q
  | next waiter => exact h.next waiter

/-- The stream's reactions move the queue by a `next` of `pull` at most. -/
theorem withStream (s : State) (pull : PullPc) (o : Web.Outcome StreamMessage) :
    QueueMove s.incoming (s.withStream pull o).incoming := by
  unfold State.withStream
  dsimp only
  split
  · rw [next_incoming]
    exact .next .pull
  · exact .same

/-- The end of the transport leaves the queue alone until the close event. -/
theorem transportClosing (s : State) : s.transportClosing.incoming = s.incoming := by
  unfold State.transportClosing
  split <;> rfl

/-- The settlement ends the queue. -/
theorem settleClosed (s : State) (event : Option (UInt16 × String)) :
    QueueMove s.incoming (s.settleClosed event).incoming := by
  unfold State.settleClosed
  split
  · exact .same
  · dsimp only
    rw [withQueue_incoming]
    exact .finish

/-- A local close discards the queue; a call that fails leaves it alone. -/
theorem close (s : State) (code : Option UInt16) (reason : String) :
    QueueMove s.incoming (s.close code reason).2.incoming := by
  rcases close_cases s code reason with ⟨-, hk⟩ | ⟨-, -, hk⟩ <;> rw [hk]
  · exact .same
  · rw [localClose_frame]
    exact .discard

end QueueMove

/-- Every move performs at most one operation of the queue. -/
theorem queue_of_step {a : Action} (h : step s a = some s') : QueueMove s.incoming s'.incoming := by
  cases a with
  | receive =>
    obtain ⟨-, rfl⟩ := guestCall_eq_some.mp h
    unfold State.receive
    dsimp only
    split
    · rw [AnswerFrame.answer]
      exact .same
    · split
      · rw [AnswerFrame.answer]
        exact .same
      · rw [next_incoming]
        exact .next _
  | receiveViaStream =>
    obtain ⟨-, rfl⟩ := guestCall_eq_some.mp h
    unfold State.receiveViaStream
    split
    · exact .same
    · dsimp only
      rw [withQueue_incoming]
      exact .reject _
  | state | configure | tick =>
    first
    | obtain ⟨-, rfl⟩ := guestCall_eq_some.mp h
      exact .same
    | cases h
      exact .same
  | waitClosed =>
    obtain ⟨-, rfl⟩ := guestCall_eq_some.mp h
    unfold State.waitClosed
    dsimp only
    split <;> exact .same
  | close code reason =>
    obtain ⟨-, rfl⟩ := guestCall_eq_some.mp h
    exact .close s code reason
  | dispose =>
    obtain ⟨-, rfl⟩ := guestCall_eq_some.mp h
    exact .close s none ""
  | read =>
    obtain ⟨stream, -, rfl⟩ := Option.map_eq_some_iff.mp h
    exact .withStream { s with nextId := s.nextId + 1 } _ _
  | react =>
    obtain ⟨stream, -, hreact⟩ := Option.bind_eq_some_iff.mp h
    unfold State.react at hreact
    split at hreact <;> first
    | cases hreact
      exact .withStream s _ _
    | cases hreact
  | message message =>
    obtain ⟨-, rfl⟩ := platformEvent_eq_some.mp h
    unfold State.onMessage
    dsimp only
    split
    · exact .same
    · next ho =>
      rw [Bool.not_eq_true] at ho
      split
      · next hover =>
        rw [QueueMove.transportClosing]
        exact .overflow message hover ho
      · next hfits =>
        rw [withQueue_incoming]
        exact .push message (by simpa using hfits) ho
  | peerClosing | transportClosed =>
    obtain ⟨-, rfl⟩ := platformEvent_eq_some.mp h
    exact .same
  | errorEvent | closeEvent =>
    obtain ⟨-, rfl⟩ := platformEvent_eq_some.mp h
    show QueueMove s.incoming s.onEnd.incoming
    rw [State.onEnd, withQueue_incoming]
    exact .finish
  | closeSettles =>
    simp only [step] at h
    split at h
    · obtain ⟨-, rfl⟩ := platformEvent_eq_some.mp h
      exact .settleClosed s _
    · cases h
  | timer handle =>
    obtain ⟨-, rfl⟩ := platformEvent_eq_some.mp h
    exact .settleClosed
      { s with timers := s.timers.filter fun timer => timer.handle != handle } none

/-- In every reachable state the queue is in order. -/
theorem queue_sound (h : system.Reachable s) : s.incoming.Sound := by
  refine System.Reachable.induction (I := fun s => s.incoming.Sound) ?_ ?_ h
  · rintro _ ⟨knobs, now, rfl⟩
    exact ⟨fun hne => absurd rfl hne, rfl, Nat.zero_le _, fun _ => rfl⟩
  · intro s a s' _ ih hs
    exact (queue_of_step hs).sound ih

end Polymorph.Js
