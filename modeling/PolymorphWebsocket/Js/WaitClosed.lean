import PolymorphWebsocket.Js.Settlement

/-!
# The JavaScript host: the outcome of a close

The close event, the timer of an overflow and the timer of a local close may each settle a
connection, in any order and also more than one of them.  The first to do so latches the outcome
for every call of `waitClosed`, made before or after, and ends every `receive` call that waits.  A
second timer takes the place of the first handle but does not disarm the first timer: from the
moment a close is initiated a timer is armed that is due in time.
-/

namespace Polymorph.Js

open Transition

variable {s s' s'' : State}

/-! ### Calls of `receive` -/

/-- The call has its result, or waits for it in the queue. -/
def State.Held (s : State) (id : Nat) : Prop :=
  id ∈ s.hist.received.map Prod.fst ∨ Waiter.receive id ∈ s.incoming.waiters

/-- A receive call that is answered has a result. -/
theorem answer_received (s : State) (id : Nat) (result : Except Error Message) :
    id ∈ (s.answer (.receive id) result).hist.received.map Prod.fst := by
  simp [State.answer]

/-- An answer takes no result back. -/
theorem received_answer (s : State) (waiter : Waiter) (result : Except Error Message) {id : Nat}
    (h : id ∈ s.hist.received.map Prod.fst) :
    id ∈ (s.answer waiter result).hist.received.map Prod.fst := by
  cases waiter with
  | pull => exact h
  | receive other =>
    unfold State.answer
    dsimp only
    rw [List.map_append]
    exact List.mem_append_left _ h

/-- So has one that is among those an operation of the queue answers. -/
theorem received_answerAll (s : State) (answers : Answers) {id : Nat}
    (h : id ∈ s.hist.received.map Prod.fst ∨ Waiter.receive id ∈ answers.map Prod.fst) :
    id ∈ (s.answerAll answers).hist.received.map Prod.fst := by
  induction answers generalizing s with
  | nil => simpa [State.answerAll] using h
  | cons head rest ih =>
    apply ih (s.answer head.1 head.2)
    rcases h with h | h
    · exact .inl (received_answer s _ _ h)
    · rcases List.mem_cons.mp h with heq | hrest
      · left
        rw [← heq]
        exact answer_received s id head.2
      · exact .inr hrest

/-- An operation of the queue that answers the waiters it drops loses no call. -/
theorem held_withQueue {result : Answers × IncomingQueue} {id : Nat}
    (hkept : ∀ waiter ∈ s.incoming.waiters,
      waiter ∈ result.1.map Prod.fst ∨ waiter ∈ result.2.waiters)
    (h : s.Held id) : (s.withQueue result).Held id := by
  unfold State.Held
  rw [withQueue_incoming]
  rcases h with hanswered | hwaits
  · exact .inl (received_answerAll _ _ (.inl hanswered))
  · rcases hkept _ hwaits with hanswer | hstill
    · exact .inl (received_answerAll _ _ (.inr hanswer))
    · exact .inr hstill

/-- A message is handed to a call that waits, which then has a result, or is queued. -/
theorem held_push (message : Message) (size : Nat) {id : Nat} (h : s.Held id) :
    (s.withQueue (s.incoming.push message size)).Held id := by
  refine held_withQueue (fun waiter hwaiter => ?_) h
  cases hw : s.incoming.waiters with
  | nil =>
    rw [hw] at hwaiter
    cases hwaiter
  | cons first rest =>
    rw [hw] at hwaiter
    rw [IncomingQueue.push_of_cons hw]
    rcases List.mem_cons.mp hwaiter with rfl | hrest
    · exact .inl (List.mem_singleton_self waiter)
    · exact .inr hrest

/-- The waiters that are rejected have results. -/
theorem held_rejectWaiters (error : Error) {id : Nat} (h : s.Held id) :
    (s.withQueue (s.incoming.rejectWaiters error)).Held id := by
  refine held_withQueue (fun waiter hwaiter => .inl ?_) h
  simpa [IncomingQueue.rejectWaiters] using hwaiter

/-- So have those that find the end. -/
theorem held_endQueue {id : Nat} (h : s.Held id) :
    (s.withQueue s.incoming.endQueue).Held id := by
  refine held_withQueue (fun waiter hwaiter => ?_) h
  unfold IncomingQueue.endQueue
  split
  · exact .inr hwaiter
  · left
    simpa [IncomingQueue.rejectWaiters] using hwaiter

/-- So have those of a discarded queue. -/
theorem held_discard {id : Nat} (h : s.Held id) : (s.withQueue s.incoming.discard).Held id := by
  refine held_withQueue (fun waiter hwaiter => .inl ?_) h
  simpa [IncomingQueue.discard, IncomingQueue.rejectWaiters] using hwaiter

/-- The queue keeps a caller that it gives no answer at once. -/
theorem next_waiters (q : IncomingQueue) (waiter : Waiter) :
    (q.next waiter).2.waiters =
      if (q.next waiter).1.isSome then q.waiters else q.waiters ++ [waiter] := by
  unfold IncomingQueue.next
  split
  · rfl
  · split
    · rfl
    · split <;> rfl

/-- A caller of `next` is held from then on, with those who wait already. -/
theorem held_next (waiter : Waiter) {id : Nat} (h : s.Held id ∨ waiter = .receive id) :
    (s.next waiter).Held id := by
  have hwaiters := next_waiters s.incoming waiter
  unfold State.next
  rcases hnext : s.incoming.next waiter with ⟨_ | result, queue⟩ <;> rw [hnext] at hwaiters
  · have hqueue : queue.waiters = s.incoming.waiters ++ [waiter] := hwaiters
    unfold State.Held
    dsimp only
    rw [hqueue, List.mem_append, List.mem_singleton]
    rcases h with (hanswered | hwaits) | heq
    · exact .inl hanswered
    · exact .inr (.inl hwaits)
    · exact .inr (.inr heq.symm)
  · have hqueue : queue.waiters = s.incoming.waiters := hwaiters
    rcases h with (hanswered | hwaits) | rfl
    · exact .inl (received_answer _ _ _ hanswered)
    · right
      dsimp only
      rw [AnswerFrame.answer, hqueue]
      exact hwaits
    · exact .inl (answer_received _ _ _)

/-- The platform's stream may have `pull` wait behind the calls. -/
theorem held_withStream (pull : PullPc) (o : Web.Outcome StreamMessage) {id : Nat}
    (h : s.Held id) : (s.withStream pull o).Held id := by
  unfold State.withStream
  dsimp only
  split
  · exact held_next .pull (.inl h)
  · exact h

/-- A message event queues its message, drops it or overflows. -/
theorem held_onMessage (message : Message) {id : Nat} (h : s.Held id) :
    (s.onMessage message).Held id := by
  unfold State.onMessage
  dsimp only
  split
  · exact h
  · split
    · unfold State.transportClosing
      split <;> exact h
    · exact held_push message _ h

/-- The settlement ends the queue. -/
theorem held_settleClosed (event : Option (UInt16 × String)) {id : Nat} (h : s.Held id) :
    (s.settleClosed event).Held id := by
  unfold State.settleClosed
  split
  · exact h
  · have hlatched : ({ s with
        closeSettled := true
        timers := s.timers.filter fun timer => s.closeDeadline != some timer.handle
        closeDeadline := none } : State).Held id := h
    exact held_endQueue hlatched

/-- A local close discards the queue. -/
theorem held_close (code : Option UInt16) (reason : String) {id : Nat} (h : s.Held id) :
    (s.close code reason).2.Held id := by
  rcases close_cases s code reason with ⟨-, hk⟩ | ⟨-, -, hk⟩ <;> rw [hk]
  · exact h
  · have hlatched : ({ s with localClosed := true } : State).Held id := h
    exact held_discard hlatched

/-- A new call has a result or waits. -/
theorem held_receive (s : State) : s.receive.Held s.nextId := by
  unfold State.receive
  dsimp only
  split
  · exact .inl (answer_received _ _ _)
  · split
    · exact .inl (answer_received _ _ _)
    · exact held_next _ (.inr rfl)

/-- No move loses a call of `receive`. -/
theorem held_of_step {a : Action} (hs : step s a = some s') {id : Nat} (h : s.Held id) :
    s'.Held id := by
  cases a with
  | receive =>
    obtain ⟨-, rfl⟩ := guestCall_eq_some.mp hs
    have hcalled : ({ s with nextId := s.nextId + 1 } : State).Held id := h
    unfold State.receive
    dsimp only
    split
    · exact h.imp_left (received_answer _ _ _)
    · split
      · exact h.imp_left (received_answer _ _ _)
      · exact held_next _ (.inl hcalled)
  | receiveViaStream =>
    obtain ⟨-, rfl⟩ := guestCall_eq_some.mp hs
    unfold State.receiveViaStream
    split
    · exact h
    · have hclaimed : ({ s with streamClaimed := true } : State).Held id := h
      exact held_rejectWaiters _ hclaimed
  | state | configure | tick =>
    first
    | obtain ⟨-, rfl⟩ := guestCall_eq_some.mp hs
      exact h
    | cases hs
      exact h
  | waitClosed =>
    obtain ⟨-, rfl⟩ := guestCall_eq_some.mp hs
    unfold State.waitClosed
    dsimp only
    split <;> exact h
  | close code reason =>
    obtain ⟨-, rfl⟩ := guestCall_eq_some.mp hs
    exact held_close code reason h
  | dispose =>
    obtain ⟨-, rfl⟩ := guestCall_eq_some.mp hs
    exact held_close none "" h
  | read =>
    obtain ⟨stream, -, rfl⟩ := Option.map_eq_some_iff.mp hs
    have hcalled : ({ s with nextId := s.nextId + 1 } : State).Held id := h
    exact held_withStream _ _ hcalled
  | react =>
    obtain ⟨stream, -, hreact⟩ := Option.bind_eq_some_iff.mp hs
    unfold State.react at hreact
    split at hreact <;> first
    | cases hreact
      exact held_withStream _ _ h
    | cases hreact
  | message message =>
    obtain ⟨-, rfl⟩ := platformEvent_eq_some.mp hs
    exact held_onMessage message h
  | peerClosing | transportClosed =>
    obtain ⟨-, rfl⟩ := platformEvent_eq_some.mp hs
    exact h
  | errorEvent | closeEvent =>
    obtain ⟨-, rfl⟩ := platformEvent_eq_some.mp hs
    exact held_endQueue h
  | closeSettles =>
    simp only [step] at hs
    split at hs
    · obtain ⟨-, rfl⟩ := platformEvent_eq_some.mp hs
      exact held_settleClosed _ h
    · cases hs
  | timer handle =>
    obtain ⟨-, rfl⟩ := platformEvent_eq_some.mp hs
    have hfired : ({ s with
        timers := s.timers.filter fun timer => timer.handle != handle } : State).Held id := h
    exact held_settleClosed none hfired

/-! ### What a move does to the close -/

/-- The resource or the queue has initiated a close. -/
def State.initiated (s : State) : Bool := s.localClosed || s.incoming.overflowed

/-- A move that settles nothing: it keeps the outcome and the calls that wait for it, disarms no
timer, and arms one when it initiates the first close. -/
structure Kept (s s' : State) : Prop where
  settled : s'.closeSettled = s.closeSettled
  info : s'.closeInfo = s.closeInfo
  waiters : s'.closeWaiters = s.closeWaiters
  closes : s'.hist.closes = s.hist.closes
  nextId : s.nextId ≤ s'.nextId
  timers : s.timers ⊆ s'.timers
  initiated : s.initiated = true → s'.initiated = true
  deadline : s'.closeDeadline.isSome = true →
    s'.initiated = true ∨ s'.closeDeadline = s.closeDeadline
  armed : s.closeSettled = false → s.initiated = false → s'.initiated = true →
    ∃ timer ∈ s'.timers, timer.due = s.now + s.knobs.closeTimeoutMs

namespace Kept

/-- A move that initiates nothing. -/
theorem calm (hsettled : s'.closeSettled = s.closeSettled) (hinfo : s'.closeInfo = s.closeInfo)
    (hwaiters : s'.closeWaiters = s.closeWaiters) (hcloses : s'.hist.closes = s.hist.closes)
    (hnext : s.nextId ≤ s'.nextId) (htimers : s'.timers = s.timers)
    (hlocal : s'.localClosed = s.localClosed)
    (hover : s'.incoming.overflowed = s.incoming.overflowed)
    (hdeadline : s'.closeDeadline = s.closeDeadline) : Kept s s' := by
  have hinitiated : s'.initiated = s.initiated := by
    unfold State.initiated
    rw [hlocal, hover]
  refine ⟨hsettled, hinfo, hwaiters, hcloses, hnext, by rw [htimers]; exact List.Subset.refl _,
    fun h => hinitiated.trans h, fun _ => .inr hdeadline, fun _ hopen h => ?_⟩
  rw [hinitiated, hopen] at h
  cases h

/-- A move of the inbound side that latches no overflow. -/
theorem inbound (h : InboundFrame s s') (hnext : s.nextId ≤ s'.nextId)
    (hover : s'.incoming.overflowed = s.incoming.overflowed) : Kept s s' :=
  calm (by rw [h]) (by rw [h]) (by rw [h]) (by rw [h]) hnext (by rw [h]) (by rw [h]) hover
    (by rw [h])

/-- A local close keeps the settlement. -/
theorem localClose (s : State) (frame : Option CloseFrame) : Kept s (s.localClose frame) := by
  have hanswers := AnswerFrame.answerAll
    { s with localClosed := true, incoming := s.incoming.discard.2 } s.incoming.discard.1
  simp only [State.localClose, State.withQueue, State.armCloseDeadline, State.closeSocket]
  rw [hanswers]
  refine ⟨rfl, rfl, rfl, rfl, Nat.le_succ _, List.subset_append_left _ _, fun _ => rfl,
    fun _ => .inl rfl, fun _ _ _ => ?_⟩
  exact ⟨_, List.mem_append_right _ (List.mem_singleton_self _), rfl⟩

/-- A `close` call makes the local close, or fails. -/
theorem close (s : State) (code : Option UInt16) (reason : String) :
    Kept s (s.close code reason).2 := by
  rcases close_cases s code reason with ⟨-, hk⟩ | ⟨-, -, hk⟩ <;> rw [hk]
  · exact calm rfl rfl rfl rfl le_rfl rfl rfl rfl rfl
  · exact localClose s _

/-- An operation of the queue. -/
theorem withQueue (s : State) {result : Answers × IncomingQueue}
    (hover : result.2.overflowed = s.incoming.overflowed) : Kept s (s.withQueue result) := by
  refine inbound (.withQueue s result) ?_ (by rw [withQueue_incoming, hover])
  rw [State.withQueue, AnswerFrame.answerAll]

theorem endQueue (s : State) : Kept s (s.withQueue s.incoming.endQueue) := by
  apply withQueue
  unfold IncomingQueue.endQueue
  split <;> rfl

theorem next (s : State) (waiter : Waiter) : Kept s (s.next waiter) := by
  have hover : (s.next waiter).incoming.overflowed = s.incoming.overflowed := by
    rw [next_incoming]
    unfold IncomingQueue.next
    split
    · rfl
    · split
      · rfl
      · split <;> rfl
  refine inbound (.next s waiter) (le_of_eq ?_) hover
  unfold State.next
  rcases s.incoming.next waiter with ⟨_ | result, queue⟩
  · rfl
  · dsimp only
    rw [AnswerFrame.answer]

/-- A move may be preceded by one that changes nothing of the close. -/
theorem after (h : Kept s' s'') (hsame : Kept s s') (hinitiated : s'.initiated = s.initiated)
    (hdeadline : s'.closeDeadline = s.closeDeadline)
    (hbound : s'.now + s'.knobs.closeTimeoutMs = s.now + s.knobs.closeTimeoutMs) :
    Kept s s'' where
  settled := h.settled.trans hsame.settled
  info := h.info.trans hsame.info
  waiters := h.waiters.trans hsame.waiters
  closes := h.closes.trans hsame.closes
  nextId := hsame.nextId.trans h.nextId
  timers := List.Subset.trans hsame.timers h.timers
  initiated := fun hi => h.initiated (hsame.initiated hi)
  deadline := fun hd => (h.deadline hd).imp_right (·.trans hdeadline)
  armed := fun hs hi hi' => by
    rw [← hbound]
    exact h.armed (hsame.settled.trans hs) (hinitiated.trans hi) hi'

theorem receive (s : State) : Kept s s.receive := by
  have hcall : Kept s { s with nextId := s.nextId + 1 } :=
    calm rfl rfl rfl rfl (Nat.le_succ _) rfl rfl rfl rfl
  unfold State.receive
  dsimp only
  split
  · exact calm rfl rfl rfl rfl (Nat.le_succ _) rfl rfl rfl rfl
  · split
    · exact calm rfl rfl rfl rfl (Nat.le_succ _) rfl rfl rfl rfl
    · exact (next _ _).after hcall rfl rfl rfl

theorem receiveViaStream (s : State) : Kept s s.receiveViaStream := by
  unfold State.receiveViaStream
  split
  · exact calm rfl rfl rfl rfl le_rfl rfl rfl rfl rfl
  · have hclaim : Kept s { s with streamClaimed := true } :=
      calm rfl rfl rfl rfl le_rfl rfl rfl rfl rfl
    have hreject : Kept { s with streamClaimed := true }
        (({ s with streamClaimed := true } : State).withQueue
          (s.incoming.rejectWaiters .receivingViaStream)) := withQueue _ rfl
    have hboth := hreject.after hclaim rfl rfl rfl
    exact { hboth with }

theorem withStream (s : State) (pull : PullPc) (o : Web.Outcome StreamMessage) :
    Kept s (s.withStream pull o) := by
  have hreads (stream : Stream) : Kept s { s with
      stream := some stream
      hist := { s.hist with reads := s.hist.reads ++ o.answers } } :=
    calm rfl rfl rfl rfl le_rfl rfl rfl rfl rfl
  unfold State.withStream
  dsimp only
  split
  · exact (next _ .pull).after (hreads _) rfl rfl rfl
  · exact hreads _

/-- An overflow arms the timer, unless one is armed by a close that has been initiated before. -/
theorem onMessage (hdeadline : s.closeDeadline.isSome = true → s.initiated = true)
    (message : Message) : Kept s (s.onMessage message) := by
  unfold State.onMessage
  dsimp only
  split
  · exact calm rfl rfl rfl rfl le_rfl rfl rfl rfl rfl
  · split
    · have hinitiated (t : State) (ht : t.incoming.overflowed = true) : t.initiated = true := by
        unfold State.initiated
        rw [ht, Bool.or_true]
      unfold State.transportClosing
      split
      · refine ⟨rfl, rfl, rfl, rfl, Nat.le_succ _, List.subset_append_left _ _,
          fun _ => hinitiated _ rfl, fun _ => .inl (hinitiated _ rfl), fun _ _ _ => ?_⟩
        exact ⟨_, List.mem_append_right _ (List.mem_singleton_self _), rfl⟩
      · next harmed =>
        refine ⟨rfl, rfl, rfl, rfl, le_rfl, List.Subset.refl _, fun _ => hinitiated _ rfl,
          fun _ => .inl (hinitiated _ rfl), fun hs hi _ => ?_⟩
        have hnone : s.closeDeadline = none := by
          by_contra hne
          rw [hdeadline (Option.isSome_iff_ne_none.mpr hne)] at hi
          cases hi
        exact absurd (by simp [State.closeSocket, hs, hnone]) harmed
    · apply withQueue
      unfold IncomingQueue.push
      split <;> rfl

/-- Every move but a call of `waitClosed` and the moves that settle. -/
theorem step {a : Action} (hdeadline : s.closeDeadline.isSome = true → s.initiated = true)
    (hs : step s a = some s') (hwait : a ≠ .waitClosed) (hsettles : a ≠ .closeSettles)
    (htimer : ∀ handle, a ≠ .timer handle) : Kept s s' := by
  cases a with
  | receive =>
    obtain ⟨-, rfl⟩ := guestCall_eq_some.mp hs
    exact receive s
  | receiveViaStream =>
    obtain ⟨-, rfl⟩ := guestCall_eq_some.mp hs
    exact receiveViaStream s
  | state | configure | tick =>
    first
    | obtain ⟨-, rfl⟩ := guestCall_eq_some.mp hs
      exact calm rfl rfl rfl rfl le_rfl rfl rfl rfl rfl
    | cases hs
      exact calm rfl rfl rfl rfl le_rfl rfl rfl rfl rfl
  | waitClosed => exact absurd rfl hwait
  | close code reason =>
    obtain ⟨-, rfl⟩ := guestCall_eq_some.mp hs
    exact close s code reason
  | dispose =>
    obtain ⟨-, rfl⟩ := guestCall_eq_some.mp hs
    have hclose := close s none ""
    exact { hclose with }
  | read =>
    obtain ⟨stream, -, rfl⟩ := Option.map_eq_some_iff.mp hs
    have hcall : Kept s { s with nextId := s.nextId + 1 } :=
      calm rfl rfl rfl rfl (Nat.le_succ _) rfl rfl rfl rfl
    exact (withStream _ _ _).after hcall rfl rfl rfl
  | react =>
    obtain ⟨stream, -, hreact⟩ := Option.bind_eq_some_iff.mp hs
    unfold State.react at hreact
    split at hreact <;> first
    | cases hreact
      exact withStream s _ _
    | cases hreact
  | message message =>
    obtain ⟨-, rfl⟩ := platformEvent_eq_some.mp hs
    exact onMessage hdeadline message
  | peerClosing | transportClosed =>
    obtain ⟨-, rfl⟩ := platformEvent_eq_some.mp hs
    exact calm rfl rfl rfl rfl le_rfl rfl rfl rfl rfl
  | errorEvent | closeEvent =>
    obtain ⟨-, rfl⟩ := platformEvent_eq_some.mp hs
    have hend := endQueue s
    exact { hend with }
  | closeSettles => exact absurd rfl hsettles
  | timer handle => exact absurd rfl (htimer handle)

end Kept

/-! ### The run of a close -/

/-- The close event a move settles the connection with; a timer settles it without one. -/
def settlingEvent (s : State) : Action → Option (UInt16 × String)
  | .closeSettles =>
    match s.socket with
    | .dispatching code reason => some (code, reason)
    | _ => none
  | _ => none

/-- A connection with what an observer of its close writes down. -/
structure Settling where
  conn : State
  /-- The calls of `receive`. -/
  asked : List Nat
  /-- The calls of `waitClosed`. -/
  waited : List Nat
  /-- The events of the moves that settled the connection. -/
  settlements : List (Option (UInt16 × String))
  /-- The close bound, from the move on that was the first to initiate a close. -/
  due : Option Nat

namespace Settling

/-- A connection of which nothing has been written down. -/
def start (conn : State) : Settling where
  conn := conn
  asked := []
  waited := []
  settlements := []
  due := none

/-- A move that leads to `conn`, written down. -/
def record (g : Settling) (a : Action) (conn : State) : Settling where
  conn := conn
  asked :=
    match a with
    | .receive => g.asked ++ [g.conn.nextId]
    | _ => g.asked
  waited :=
    match a with
    | .waitClosed => g.waited ++ [g.conn.nextId]
    | _ => g.waited
  settlements :=
    if conn.closeSettled && !g.conn.closeSettled then
      g.settlements ++ [settlingEvent g.conn a]
    else g.settlements
  due :=
    g.due.or
      (if conn.initiated then some (g.conn.now + g.conn.knobs.closeTimeoutMs) else none)

/-- A move of the connection. -/
def step (g : Settling) (a : Action) : Option Settling := (Js.step g.conn a).map (g.record a)

end Settling

/-- The connections of the JavaScript host under observation. -/
def settling : System Settling Action where
  init g := ∃ conn, system.init conn ∧ g = .start conn
  step := Settling.step

/-- What holds of an observed connection. -/
structure Settling.Sound (g : Settling) : Prop where
  before : g.conn.closeSettled = false →
    g.settlements = [] ∧ g.conn.hist.closes = [] ∧ g.conn.closeInfo = none
  after : g.conn.closeSettled = true → g.conn.closeWaiters = [] ∧
    (∃ event, g.settlements = [event] ∧ g.conn.closeInfo = State.closeOutcome event) ∧
    ∀ answer ∈ g.conn.hist.closes, answer.2 = g.conn.closeInfo
  calls : g.conn.hist.closes.map Prod.fst ++ g.conn.closeWaiters = g.waited
  fresh : ∀ id ∈ g.waited, id < g.conn.nextId
  nodup : g.waited.Nodup
  held : ∀ id ∈ g.asked, g.conn.Held id
  deadline : g.conn.closeDeadline.isSome = true → g.conn.initiated = true
  due : g.due.isSome = g.conn.initiated
  armed : g.conn.closeSettled = false → ∀ due, g.due = some due →
    ∃ timer ∈ g.conn.timers, timer.due ≤ due

/-- What the settlement leaves of the state. -/
theorem settleClosed_eq (hs : s.closeSettled = false) (event : Option (UInt16 × String)) :
    s.settleClosed event = { s with
      closeSettled := true
      timers := s.timers.filter fun timer => s.closeDeadline != some timer.handle
      closeDeadline := none
      incoming := s.incoming.endQueue.2
      stream := (s.settleClosed event).stream
      closeInfo := State.closeOutcome event
      closeWaiters := []
      hist := { s.hist with
        received := (s.settleClosed event).hist.received
        closes := s.hist.closes ++ s.closeWaiters.map fun id => (id, State.closeOutcome event) } } := by
  have hanswers := AnswerFrame.answerAll
    { s with
      closeSettled := true
      timers := s.timers.filter fun timer => s.closeDeadline != some timer.handle
      closeDeadline := none
      incoming := s.incoming.endQueue.2 } s.incoming.endQueue.1
  simp only [State.settleClosed, hs, State.withQueue, Bool.false_eq_true, if_false]
  rw [hanswers]

/-- The end of the queue latches no overflow. -/
theorem endQueue_overflowed (q : IncomingQueue) : q.endQueue.2.overflowed = q.overflowed := by
  unfold IncomingQueue.endQueue
  split <;> rfl

namespace Settling.Sound

variable {g : Settling}

/-- The held calls after a move. -/
theorem held_record (h : g.Sound) {a : Action} {conn : State} (hs : Js.step g.conn a = some conn) :
    ∀ id ∈ (g.record a conn).asked, conn.Held id := by
  intro id hid
  have hkept (hasked : id ∈ g.asked) : conn.Held id := held_of_step hs (h.held id hasked)
  cases a with
  | receive =>
    rcases List.mem_append.mp hid with hasked | hnew
    · exact hkept hasked
    · rw [List.mem_singleton.mp hnew]
      obtain ⟨-, rfl⟩ := guestCall_eq_some.mp hs
      exact held_receive g.conn
  | _ => exact hkept hid

/-- A move that settles nothing. -/
theorem kept (h : g.Sound) {a : Action} {conn : State} (hs : Js.step g.conn a = some conn)
    (hk : Kept g.conn conn) (hwait : a ≠ .waitClosed) : (g.record a conn).Sound := by
  have hwaited : (g.record a conn).waited = g.waited := by
    cases a <;> first
    | rfl
    | exact absurd rfl hwait
  have hsettlements : (g.record a conn).settlements = g.settlements := by
    unfold Settling.record
    dsimp only
    rw [hk.settled, Bool.and_not_self]
    rfl
  have hclose : (g.record a conn).conn = conn := rfl
  have hopen (hs : conn.closeSettled = false) : g.conn.closeSettled = false :=
    hk.settled.symm.trans hs
  refine {
    before := fun hsettled => ?_
    after := fun hsettled => ?_
    calls := ?_
    fresh := ?_
    nodup := ?_
    held := h.held_record hs
    deadline := fun hd => ?_
    due := ?_
    armed := fun hsettled due hdue => ?_ }
  · obtain ⟨hnone, hcloses, hinfo⟩ := h.before (hopen hsettled)
    exact ⟨hsettlements.trans hnone, hk.closes.trans hcloses, hk.info.trans hinfo⟩
  · obtain ⟨hwaiters, ⟨event, hevent, hinfo⟩, hanswers⟩ := h.after (hk.settled.symm.trans hsettled)
    refine ⟨hk.waiters.trans hwaiters, ⟨event, hsettlements.trans hevent, hk.info.trans hinfo⟩, ?_⟩
    intro answer hanswer
    rw [hclose, hk.closes] at hanswer
    exact (hanswers answer hanswer).trans hk.info.symm
  · rw [hwaited, hclose, hk.closes, hk.waiters]
    exact h.calls
  · rw [hwaited]
    exact fun id hid => (h.fresh id hid).trans_le hk.nextId
  · rw [hwaited]
    exact h.nodup
  · rcases hk.deadline hd with hinitiated | hsame
    · exact hinitiated
    · rw [hclose, hsame] at hd
      exact hk.initiated (h.deadline hd)
  · show (g.due.or _).isSome = conn.initiated
    cases hinitiated : g.conn.initiated with
    | true =>
      rw [Option.isSome_or, h.due, hinitiated, hk.initiated hinitiated]
      rfl
    | false =>
      rw [Option.isSome_or, h.due, hinitiated]
      cases conn.initiated <;> rfl
  · cases hold : g.due with
    | some old =>
      have hdue' : some old = some due := by
        rw [← hdue]
        show some old = g.due.or _
        rw [hold, Option.some_or]
      cases hdue'
      obtain ⟨timer, hmem, hle⟩ := h.armed (hopen hsettled) due hold
      exact ⟨timer, hk.timers hmem, hle⟩
    | none =>
      have hcalm : g.conn.initiated = false := by
        rw [← h.due, hold]
        rfl
      change g.due.or _ = some due at hdue
      rw [hold, Option.none_or] at hdue
      split at hdue
      · next hinitiated =>
        obtain ⟨timer, hmem, heq⟩ := hk.armed (hopen hsettled) hcalm hinitiated
        cases hdue
        exact ⟨timer, hmem, heq.le⟩
      · cases hdue

/-- A move that initiates nothing leaves the close bound. -/
theorem due_record (h : g.Sound) {a : Action} {conn : State}
    (hinitiated : conn.initiated = g.conn.initiated) : (g.record a conn).due = g.due := by
  have hsome := h.due
  show g.due.or _ = g.due
  rw [hinitiated]
  cases hi : g.conn.initiated with
  | true =>
    rw [hi] at hsome
    obtain ⟨due, heq⟩ := Option.isSome_iff_exists.mp hsome
    rw [heq]
    rfl
  | false => cases g.due <;> rfl

theorem due_isSome_record (h : g.Sound) {a : Action} {conn : State}
    (hinitiated : conn.initiated = g.conn.initiated) :
    (g.record a conn).due.isSome = conn.initiated := by
  rw [h.due_record hinitiated, h.due, hinitiated]

/-- A call of `waitClosed` is answered with the latched outcome, or waits. -/
theorem waitClosed (h : g.Sound) {conn : State} (hs : Js.step g.conn .waitClosed = some conn) :
    (g.record .waitClosed conn).Sound := by
  have hheld := h.held_record hs
  obtain ⟨-, rfl⟩ := guestCall_eq_some.mp hs
  have hfresh : ∀ id ∈ g.waited ++ [g.conn.nextId], id < g.conn.nextId + 1 := by
    intro id hid
    rcases List.mem_append.mp hid with hold | hnew
    · exact (h.fresh id hold).trans (Nat.lt_succ_self _)
    · rw [List.mem_singleton.mp hnew]
      exact Nat.lt_succ_self _
  have hnodup : (g.waited ++ [g.conn.nextId]).Nodup := by
    rw [List.nodup_append]
    refine ⟨h.nodup, List.nodup_singleton _, fun id hid other hother heq => ?_⟩
    rw [List.mem_singleton] at hother
    have hlt := h.fresh id hid
    omega
  cases hsettled : g.conn.closeSettled with
  | true =>
    have hcall : g.conn.waitClosed = { g.conn with
        nextId := g.conn.nextId + 1
        hist := { g.conn.hist with
          closes := g.conn.hist.closes ++ [(g.conn.nextId, g.conn.closeInfo)] } } := by
      simp [State.waitClosed, hsettled]
    rw [hcall] at hheld ⊢
    obtain ⟨hwaiters, ⟨event, hevent, hinfo⟩, hanswers⟩ := h.after hsettled
    refine {
      before := fun hopen => absurd (hsettled.symm.trans hopen) (by decide)
      after := fun _ => ⟨hwaiters, ⟨event, ?_, hinfo⟩, fun answer hanswer => ?_⟩
      calls := ?_
      fresh := hfresh
      nodup := hnodup
      held := hheld
      deadline := h.deadline
      due := h.due_isSome_record rfl
      armed := fun hopen => absurd (hsettled.symm.trans hopen) (by decide) }
    · simpa [Settling.record, hsettled] using hevent
    · rcases List.mem_append.mp hanswer with hold | hnew
      · exact hanswers answer hold
      · rw [List.mem_singleton.mp hnew]
        rfl
    · have hcalls := h.calls
      rw [hwaiters, List.append_nil] at hcalls
      show (g.conn.hist.closes ++ _).map Prod.fst ++ g.conn.closeWaiters = g.waited ++ _
      rw [hwaiters, List.map_append, hcalls, List.append_nil]
      rfl
  | false =>
    have hcall : g.conn.waitClosed = { g.conn with
        nextId := g.conn.nextId + 1
        closeWaiters := g.conn.closeWaiters ++ [g.conn.nextId] } := by
      simp [State.waitClosed, hsettled]
    rw [hcall] at hheld ⊢
    obtain ⟨hnone, hcloses, hinfo⟩ := h.before hsettled
    refine {
      before := fun _ => ⟨?_, hcloses, hinfo⟩
      after := fun hs => absurd (hsettled.symm.trans hs) (by decide)
      calls := ?_
      fresh := hfresh
      nodup := hnodup
      held := hheld
      deadline := h.deadline
      due := h.due_isSome_record rfl
      armed := fun _ due heq => ?_ }
    · simpa [Settling.record, hsettled] using hnone
    · show g.conn.hist.closes.map Prod.fst ++ (g.conn.closeWaiters ++ _) = g.waited ++ _
      rw [← List.append_assoc, h.calls]
    · apply h.armed hsettled due
      rw [← heq]
      exact (h.due_record (by rfl)).symm

/-- A move that settles the connection, if nothing has before; a timer that fires is gone. -/
theorem settles (h : g.Sound) {a : Action} {conn : State} (timers : List Timer) (socket : Socket)
    (hs : Js.step g.conn a = some conn) (hwaited : (g.record a conn).waited = g.waited)
    (hconn : conn =
      { ({ g.conn with timers := timers } : State).settleClosed (settlingEvent g.conn a) with
        socket := socket }) :
    (g.record a conn).Sound := by
  have hheld := h.held_record hs
  cases hsettled : g.conn.closeSettled with
  | true =>
    have hsame : conn = { g.conn with timers := timers, socket := socket } := by
      rw [hconn]
      simp [State.settleClosed, hsettled]
    rw [hsame] at hheld hwaited ⊢
    obtain ⟨hwaiters, ⟨event, hevent, hinfo⟩, hanswers⟩ := h.after hsettled
    refine {
      before := fun hopen => absurd (hsettled.symm.trans hopen) (by decide)
      after := fun _ => ⟨hwaiters, ⟨event, ?_, hinfo⟩, hanswers⟩
      calls := h.calls.trans hwaited.symm
      fresh := by rw [hwaited]; exact h.fresh
      nodup := by rw [hwaited]; exact h.nodup
      held := hheld
      deadline := h.deadline
      due := h.due_isSome_record rfl
      armed := fun hopen => absurd (hsettled.symm.trans hopen) (by decide) }
    simpa [Settling.record, hsettled] using hevent
  | false =>
    rw [settleClosed_eq (s := { g.conn with timers := timers }) hsettled] at hconn
    dsimp only at hconn
    have hinitiated : conn.initiated = g.conn.initiated := by
      rw [hconn]
      unfold State.initiated
      dsimp only
      rw [endQueue_overflowed]
    obtain ⟨hnone, hcloses, -⟩ := h.before hsettled
    have hcalls := h.calls
    rw [hcloses, List.map_nil, List.nil_append] at hcalls
    have hdone : conn.closeSettled = true := by rw [hconn]
    have hrecorded : conn.hist.closes = g.conn.closeWaiters.map fun id =>
        (id, State.closeOutcome (settlingEvent g.conn a)) := by
      rw [hconn]
      dsimp only
      rw [hcloses, List.nil_append]
    have hinfo : conn.closeInfo = State.closeOutcome (settlingEvent g.conn a) := by rw [hconn]
    have hwaiters : conn.closeWaiters = [] := by rw [hconn]
    refine {
      before := fun hopen => absurd (hdone.symm.trans hopen) (by decide)
      after := fun _ => ⟨hwaiters, ⟨settlingEvent g.conn a, ?_, hinfo⟩, fun answer hanswer => ?_⟩
      calls := ?_
      fresh := ?_
      nodup := by rw [hwaited]; exact h.nodup
      held := hheld
      deadline := fun hd => ?_
      due := h.due_isSome_record hinitiated
      armed := fun hopen => absurd (hdone.symm.trans hopen) (by decide) }
    · show (if conn.closeSettled && !g.conn.closeSettled then _ else _) = _
      rw [hdone, hsettled, hnone]
      rfl
    · change answer ∈ conn.hist.closes at hanswer
      rw [hrecorded] at hanswer
      obtain ⟨id, -, rfl⟩ := List.mem_map.mp hanswer
      exact hinfo.symm
    · show conn.hist.closes.map Prod.fst ++ conn.closeWaiters = _
      rw [hrecorded, hwaiters, hwaited, List.map_map, List.append_nil, ← hcalls]
      exact List.map_id _
    · rw [hwaited]
      have hnext : conn.nextId = g.conn.nextId := by rw [hconn]
      show ∀ id ∈ g.waited, id < conn.nextId
      rw [hnext]
      exact h.fresh
    · change conn.closeDeadline.isSome = true at hd
      rw [hconn] at hd
      cases hd

theorem step {a : Action} {g' : Settling} (h : g.Sound) (hs : g.step a = some g') : g'.Sound := by
  obtain ⟨conn, hconn, rfl⟩ := Option.map_eq_some_iff.mp hs
  by_cases hwait : a = .waitClosed
  · subst hwait
    exact h.waitClosed hconn
  by_cases hsettles : a = .closeSettles
  · subst hsettles
    refine h.settles g.conn.timers .done hconn rfl ?_
    simp only [Js.step] at hconn
    split at hconn
    · next code reason hsocket =>
      obtain ⟨-, rfl⟩ := platformEvent_eq_some.mp hconn
      rw [settlingEvent, hsocket]
    · cases hconn
  by_cases htimer : ∃ handle, a = .timer handle
  · obtain ⟨handle, rfl⟩ := htimer
    have hfired := hconn
    obtain ⟨-, rfl⟩ := platformEvent_eq_some.mp hfired
    exact h.settles _ _ hconn rfl rfl
  exact h.kept hconn (.step h.deadline hconn hwait hsettles (not_exists.mp htimer)) hwait

end Settling.Sound

/-- Every observed connection is in order. -/
theorem settling_sound {g : Settling} (h : settling.Reachable g) : g.Sound := by
  refine System.Reachable.induction (I := Settling.Sound) ?_ ?_ h
  · rintro _ ⟨_, ⟨knobs, now, rfl⟩, rfl⟩
    exact {
      before := fun _ => ⟨rfl, rfl, rfl⟩
      after := nofun
      calls := rfl
      fresh := nofun
      nodup := List.nodup_nil
      held := nofun
      deadline := nofun
      due := rfl
      armed := nofun }
  · intro g a g' _ ih hs
    exact ih.step hs

/-- Observation leaves the connection to itself. -/
theorem settling_conn {g : Settling} (h : settling.Reachable g) : system.Reachable g.conn := by
  refine System.Reachable.induction (I := fun g => system.Reachable g.conn) ?_ ?_ h
  · rintro _ ⟨conn, hinit, rfl⟩
    exact .of_init hinit
  · intro g a g' _ ih hs
    obtain ⟨conn, hconn, rfl⟩ := Option.map_eq_some_iff.mp hs
    exact ih.next hconn

/-! ### The settlement -/

/-- The codes of the close events that a close frame was behind. -/
theorem closeOutcome_eq_some {event : Option (UInt16 × String)} {info : CloseInfo} :
    State.closeOutcome event = some info ↔
      event = some (info.code, info.reason) ∧
        info.code ≠ 0 ∧ info.code ≠ 1006 ∧ info.code ≠ 1015 := by
  rcases event with _ | ⟨code, reason⟩
  · simp [State.closeOutcome]
  · obtain ⟨code', reason'⟩ := info
    unfold State.closeOutcome
    dsimp only
    constructor
    · intro h
      split at h
      · cases h
      · next hcode =>
        cases h
        simpa [State.synthesized, and_assoc] using hcode
    · rintro ⟨heq, hcode⟩
      cases heq
      rw [if_neg (by simpa [State.synthesized, and_assoc] using hcode)]

/-- What a connection owes to its callers at its close, over a run up to `g`. -/
structure Settling.Settles (g : Settling) : Prop where
  /-- It settles once or not yet. -/
  once : g.settlements.length = if g.conn.closeSettled then 1 else 0
  /-- A close event and a close timer settle it. -/
  settles : ∀ a g', settling.step g a = some g' →
    (a = .closeSettles ∨ ∃ handle, a = .timer handle) → g'.conn.closeSettled = true
  /-- What has been settled stays. -/
  latched : g.conn.closeSettled = true → ∀ a g', settling.step g a = some g' →
    g'.conn.closeSettled = true ∧ g'.conn.closeInfo = g.conn.closeInfo ∧
      g'.settlements = g.settlements
  /-- Each call of `waitClosed` waits, or has been answered once. -/
  calls : g.conn.hist.closes.map Prod.fst ++ g.conn.closeWaiters = g.waited ∧ g.waited.Nodup
  before : g.conn.closeSettled = false → g.conn.hist.closes = []
  /-- From the settlement on each has been answered with the outcome. -/
  after : g.conn.closeSettled = true → g.conn.closeWaiters = [] ∧
    ∀ answer ∈ g.conn.hist.closes, answer.2 = g.conn.closeInfo
  /-- The outcome is the close frame behind the event that settled it. -/
  info : ∀ info, g.conn.closeInfo = some info ↔
    g.settlements = [some (info.code, info.reason)] ∧
      info.code ≠ 0 ∧ info.code ≠ 1006 ∧ info.code ≠ 1015
  /-- From the settlement on no call of `receive` waits. -/
  pending : g.conn.closeSettled = true → g.conn.incoming.waiters = [] ∧
    ∀ id ∈ g.asked, id ∈ g.conn.hist.received.map Prod.fst
  /-- Until the settlement an initiated close has a timer that is due by its bound. -/
  bounded : g.conn.closeSettled = false → g.conn.initiated = true →
    ∃ due, g.due = some due ∧ ∃ timer ∈ g.conn.timers, timer.due ≤ due
  /-- A timer fires when it is due. -/
  fires : ∀ timer ∈ g.conn.timers, timer.due ≤ g.conn.now → g.conn.reactionDue = false →
    settling.Enabled g (.timer timer.handle)

/-- The settling listener and the timer leave the connection settled. -/
theorem settleClosed_settled (s : State) (event : Option (UInt16 × String)) :
    (s.settleClosed event).closeSettled = true := by
  cases hs : s.closeSettled with
  | true => simp [State.settleClosed, hs]
  | false => rw [settleClosed_eq hs]

theorem settled_of_step {a : Action} (hs : step s a = some s')
    (ha : a = .closeSettles ∨ ∃ handle, a = .timer handle) : s'.closeSettled = true := by
  rcases ha with rfl | ⟨handle, rfl⟩
  · simp only [step] at hs
    split at hs
    · obtain ⟨-, rfl⟩ := platformEvent_eq_some.mp hs
      exact settleClosed_settled s _
    · cases hs
  · obtain ⟨-, rfl⟩ := platformEvent_eq_some.mp hs
    exact settleClosed_settled _ none

/-- No move takes the outcome back. -/
theorem latched_of_step {a : Action}
    (hdeadline : s.closeDeadline.isSome = true → s.initiated = true)
    (hs : step s a = some s') (hsettled : s.closeSettled = true) :
    s'.closeSettled = true ∧ s'.closeInfo = s.closeInfo := by
  by_cases hwait : a = .waitClosed
  · subst hwait
    obtain ⟨-, rfl⟩ := guestCall_eq_some.mp hs
    unfold State.waitClosed
    dsimp only
    split <;> exact ⟨hsettled, rfl⟩
  by_cases hsettles : a = .closeSettles
  · subst hsettles
    simp only [step] at hs
    split at hs
    · obtain ⟨-, rfl⟩ := platformEvent_eq_some.mp hs
      simp [State.settleClosed, hsettled]
    · cases hs
  by_cases htimer : ∃ handle, a = .timer handle
  · obtain ⟨handle, rfl⟩ := htimer
    obtain ⟨-, rfl⟩ := platformEvent_eq_some.mp hs
    simp [State.settleClosed, hsettled]
  have hk := Kept.step hdeadline hs hwait hsettles (not_exists.mp htimer)
  exact ⟨hk.settled.trans hsettled, hk.info⟩

/-- Over every run of a connection its close settles once and in time, with one outcome for every
caller. -/
theorem close_settlement {g : Settling} (h : settling.Reachable g) : g.Settles := by
  have hsound := settling_sound h
  have hconn := settling_conn h
  have hlatched (hsettled : g.conn.closeSettled = true) (a : Action) (g' : Settling)
      (hs : settling.step g a = some g') : g'.conn.closeSettled = true ∧
        g'.conn.closeInfo = g.conn.closeInfo ∧ g'.settlements = g.settlements := by
    obtain ⟨conn, hstep, rfl⟩ := Option.map_eq_some_iff.mp hs
    obtain ⟨hstill, hinfo⟩ := latched_of_step hsound.deadline hstep hsettled
    refine ⟨hstill, hinfo, ?_⟩
    show (if conn.closeSettled && !g.conn.closeSettled then _ else g.settlements) = _
    rw [hsettled, Bool.not_true, Bool.and_false]
    rfl
  refine {
    once := ?_
    settles := fun a g' hs ha => ?_
    latched := hlatched
    calls := ⟨hsound.calls, hsound.nodup⟩
    before := fun hopen => (hsound.before hopen).2.1
    after := fun hsettled => ⟨(hsound.after hsettled).1, (hsound.after hsettled).2.2⟩
    info := fun info => ?_
    pending := fun hsettled => ?_
    bounded := fun hopen hinitiated => ?_
    fires := fun timer hmem hdue hreaction => ?_ }
  · cases hsettled : g.conn.closeSettled with
    | true =>
      obtain ⟨event, hevent, -⟩ := (hsound.after hsettled).2.1
      rw [hevent]
      rfl
    | false =>
      rw [(hsound.before hsettled).1]
      rfl
  · obtain ⟨conn, hstep, rfl⟩ := Option.map_eq_some_iff.mp hs
    exact settled_of_step hstep ha
  · cases hsettled : g.conn.closeSettled with
    | true =>
      obtain ⟨event, hevent, hinfo⟩ := (hsound.after hsettled).2.1
      rw [hinfo, closeOutcome_eq_some, hevent, List.cons.injEq, and_iff_left rfl]
    | false =>
      obtain ⟨hnone, -, hinfo⟩ := hsound.before hsettled
      simp [hinfo, hnone]
  · have hwaiters : g.conn.incoming.waiters = [] :=
      (queue_sound hconn).ended ((settle_sound hconn).queue hsettled)
    refine ⟨hwaiters, fun id hid => ?_⟩
    rcases hsound.held id hid with hanswered | hwaits
    · exact hanswered
    · rw [hwaiters] at hwaits
      cases hwaits
  · have hsome := hsound.due.trans hinitiated
    obtain ⟨due, hdue⟩ := Option.isSome_iff_exists.mp hsome
    exact ⟨due, hdue, hsound.armed hopen due hdue⟩
  · have hstep : Js.step g.conn (.timer timer.handle) = some _ :=
      platformEvent_eq_some.mpr ⟨⟨hreaction, timer, hmem, rfl, hdue⟩, rfl⟩
    exact ⟨_, Option.map_eq_some_iff.mpr ⟨_, hstep, rfl⟩⟩

/-- Knobs under which a message of two bytes overflows the queue. -/
def Knobs.narrow : Knobs where
  maxInboundBuffered := 1
  connectTimeoutMs := 1
  closeTimeoutMs := 10
  maxInboundBuffered_pos := by decide
  connectTimeoutMs_pos := by decide
  closeTimeoutMs_pos := by decide

/-- An overflow, and a local close that takes the place of its timer: the first timer settles the
connection, also for the call that comes after. -/
theorem close_settlement_two_timers :
    ∃ g, settling.run (.start (.start .narrow 0))
        [.waitClosed, .receive, .message (.binary [0, 0]), .tick 5, .close none "", .tick 5,
          .timer 2, .waitClosed] = some g ∧
      g.conn.hist.closes = [(0, none), (4, none)] ∧ g.due = some 10 ∧ g.Settles := by
  have hrun : settling.run (.start (.start .narrow 0))
      [.waitClosed, .receive, .message (.binary [0, 0]), .tick 5, .close none "", .tick 5,
        .timer 2, .waitClosed] = some _ := rfl
  have hstart : settling.Reachable (.start (.start .narrow 0)) := .of_init ⟨_, ⟨_, _, rfl⟩, rfl⟩
  exact ⟨_, hrun, rfl, rfl, close_settlement (hstart.run hrun)⟩

end Polymorph.Js
