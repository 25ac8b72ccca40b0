import PolymorphWebsocket.Contract.Inbox
import PolymorphWebsocket.Js.Stream
import PolymorphWebsocket.Transition.Traces

/-!
# The JavaScript host: the inbound queue as an inbox

Runs in which the guest only receives: it makes no local close and claims no stream.  What the queue
has handed out and what it holds is then what the inbox has accepted, and every call has been
answered or waits.
-/

namespace Polymorph.Js

open Transition

variable {s s' : State} {inbox : Inbox}

/-- The action is no local close, and claims no stream. -/
def Action.receivesOnly : Action → Bool
  | .close _ _ | .dispose | .receiveViaStream => false
  | _ => true

/-- What an action tells the inbox. -/
def Action.inboxEvents : Action → List InboxEvent
  | .message m => [.message m]
  | .receive => [.receive]
  | _ => []

/-- The connections with the trace of what their inbox is told. -/
def inboxSystem : System (State × List InboxEvent) (Action × List InboxEvent) :=
  system.traced fun _ a events => a.receivesOnly = true ∧ events = a.inboxEvents

/-- The messages that receive calls returned, in order. -/
def History.returned (hist : History) : List Message :=
  hist.received.filterMap fun result => result.2.toOption

/-- The state of a connection at the state of the inbox. -/
structure State.Refines (inbox : Inbox) (s : State) : Prop where
  limit : inbox.limit = s.incoming.limit
  localClosed : s.localClosed = false
  unclaimed : s.streamClaimed = false
  accepted : s.hist.returned ++ s.incoming.messages.map QueuedMessage.message = inbox.accepted
  calls : s.hist.received.length + s.incoming.waiters.length = inbox.calls
  overflowed : s.incoming.overflowed = inbox.overflowed
  /-- A call fails only at the end, or after an overflow, and with nothing queued. -/
  errors : ∀ result ∈ s.hist.received, ∀ error, result.2 = .error error →
    error = inbox.endError ∧ s.incoming.messages = [] ∧
      (inbox.overflowed = true ∨ s.incoming.closed = true)
  sizes : ∀ queued ∈ s.incoming.messages, queued.size = queued.message.payloadLen
  callers : ∃ ids : List Nat, s.incoming.waiters = ids.map Waiter.receive
  /-- The queue ends with the connection, unless an overflow ended that. -/
  closed : s.incoming.closed = true → inbox.overflowed = true ∨ s.socket.readyState = .closed
  /-- The close timer is armed by an overflow. -/
  timers : s.timers ≠ [] → inbox.overflowed = true

namespace State.Refines

theorem congr (h : s.Refines inbox) (hincoming : s'.incoming = s.incoming)
    (hlocal : s'.localClosed = s.localClosed) (hclaimed : s'.streamClaimed = s.streamClaimed)
    (hreceived : s'.hist.received = s.hist.received)
    (hsocket : s.socket.readyState = .closed → s'.socket.readyState = .closed)
    (htimers : s'.timers ≠ [] → s.timers ≠ [] ∨ inbox.overflowed = true) : s'.Refines inbox := by
  have hreturned : s'.hist.returned = s.hist.returned := by
    rw [History.returned, hreceived]
    rfl
  constructor
  · rw [hincoming]
    exact h.limit
  · rw [hlocal]
    exact h.localClosed
  · rw [hclaimed]
    exact h.unclaimed
  · rw [hincoming, hreturned]
    exact h.accepted
  · rw [hincoming, hreceived]
    exact h.calls
  · rw [hincoming]
    exact h.overflowed
  · rw [hincoming, hreceived]
    exact h.errors
  · rw [hincoming]
    exact h.sizes
  · rw [hincoming]
    exact h.callers
  · rw [hincoming]
    exact fun hc => (h.closed hc).imp_right hsocket
  · exact fun ht => (htimers ht).elim h.timers id

/-- The queue is at the state of the inbox. -/
theorem at_rest (h : s.Refines inbox) (hq : s.incoming.Sound) :
    inbox.handed = s.hist.returned ∧
      inbox.queued = s.incoming.messages.map QueuedMessage.message ∧
      inbox.unanswered = inbox.calls - s.hist.returned.length := by
  have hle : s.hist.returned.length ≤ s.hist.received.length := List.length_filterMap_le _ _
  have hcalls := h.calls
  apply Inbox.at_rest h.accepted (by omega)
  by_cases hm : s.incoming.messages = []
  · exact .inl (by rw [hm]; rfl)
  · refine .inr ?_
    -- With a message queued nobody waits, and no call has failed.
    have hwaiters := hq.idle hm
    have hall : s.hist.returned.length = s.hist.received.length := by
      refine List.filterMap_length_eq_length.mpr fun result hresult => ?_
      cases hr : result.2 with
      | ok message => rfl
      | error error => exact absurd (h.errors result hresult error hr).2.1 hm
    rw [hwaiters] at hcalls
    rw [hall, ← hcalls]
    rfl

/-! ### One operation -/

/-- The messages returned after one more result. -/
theorem returned_append (hist : History) (id : Nat) (result : Except Error Message) :
    ({ hist with received := hist.received ++ [(id, result)] } : History).returned =
      hist.returned ++ result.toOption.toList := by
  rw [History.returned, List.filterMap_append]
  cases result <;> rfl

/-- A call is answered at once, with the oldest message or an error. -/
theorem answered (h : s.Refines inbox) (id : Nat) {queue : IncomingQueue}
    {result : Except Error Message} (hlimit : queue.limit = s.incoming.limit)
    (hwaiters : queue.waiters = s.incoming.waiters)
    (hover : queue.overflowed = s.incoming.overflowed) (hclosed : queue.closed = s.incoming.closed)
    (haccepted : result.toOption.toList ++ queue.messages.map QueuedMessage.message =
      s.incoming.messages.map QueuedMessage.message)
    (hsub : ∀ queued ∈ queue.messages, queued ∈ s.incoming.messages)
    (herror : ∀ error, result = .error error → error = inbox.endError ∧
      s.incoming.messages = [] ∧ (inbox.overflowed = true ∨ s.incoming.closed = true)) :
    ({ s with incoming := queue }.answer (.receive id) result).Refines inbox.call := by
  obtain ⟨ids, hids⟩ := h.callers
  have hcalls := h.calls
  refine ⟨h.limit.trans hlimit.symm, h.localClosed, h.unclaimed, ?_, ?_, hover.trans h.overflowed,
    ?_, fun queued hq => h.sizes queued (hsub queued hq), ⟨ids, hwaiters.trans hids⟩, ?_, h.timers⟩
  · show ({ s.hist with received := s.hist.received ++ [(id, result)] } : History).returned ++
      queue.messages.map QueuedMessage.message = inbox.accepted
    rw [returned_append, List.append_assoc, haccepted]
    exact h.accepted
  · show (s.hist.received ++ [(id, result)]).length + queue.waiters.length = inbox.calls + 1
    rw [hwaiters, List.length_append, List.length_singleton]
    omega
  · intro result' hmem error herr
    have hfail : error = inbox.endError ∧ s.incoming.messages = [] ∧
        (inbox.overflowed = true ∨ s.incoming.closed = true) := by
      rcases List.mem_append.mp hmem with hold | hnew
      · exact h.errors result' hold error herr
      · obtain rfl := List.mem_singleton.mp hnew
        exact herror error herr
    refine ⟨hfail.1, ?_, hfail.2.2.imp_right hclosed.trans⟩
    rw [hfail.2.1] at hsub
    exact List.eq_nil_iff_forall_not_mem.mpr fun queued hq =>
      absurd (hsub queued hq) List.not_mem_nil
  · show queue.closed = true → _
    rw [hclosed]
    exact h.closed

/-- A call is answered with the oldest message, or fails at the end, or waits. -/
theorem next (h : s.Refines inbox) (id : Nat) : (s.next (.receive id)).Refines inbox.call := by
  have hcalls := h.calls
  cases hm : s.incoming.messages with
  | cons head rest =>
    have hnext : s.incoming.next (.receive id) = (some (.ok head.message), { s.incoming with
        messages := rest, buffered := s.incoming.buffered - head.size }) := by
      rw [IncomingQueue.next, hm]
    rw [State.next, hnext]
    refine h.answered id rfl rfl rfl rfl ?_ ?_ nofun
    · rw [hm]
      rfl
    · intro queued hq
      rw [hm]
      exact List.mem_cons_of_mem _ hq
  | nil =>
    by_cases hover : s.incoming.overflowed = true
    · have hinbox : inbox.overflowed = true := h.overflowed ▸ hover
      have hnext : s.incoming.next (.receive id) =
          (some (.error .receiveBufferOverflow), s.incoming) := by
        rw [IncomingQueue.next, hm]
        exact if_pos hover
      rw [State.next, hnext]
      refine h.answered id rfl rfl rfl rfl rfl (fun queued hq => hq) fun error herror => ?_
      cases herror
      exact ⟨by rw [Inbox.endError, if_pos hinbox], hm, .inl hinbox⟩
    · have hinbox : ¬ inbox.overflowed = true := h.overflowed ▸ hover
      by_cases hclosed : s.incoming.closed = true
      · have hnext : s.incoming.next (.receive id) = (some (.error .closed), s.incoming) := by
          rw [IncomingQueue.next, hm]
          exact (if_neg hover).trans (if_pos hclosed)
        rw [State.next, hnext]
        refine h.answered id rfl rfl rfl rfl rfl (fun queued hq => hq) fun error herror => ?_
        cases herror
        exact ⟨by rw [Inbox.endError, if_neg hinbox], hm, .inr hclosed⟩
      · have hnext : s.incoming.next (.receive id) =
            (none, { s.incoming with waiters := s.incoming.waiters ++ [.receive id] }) := by
          unfold IncomingQueue.next
          split
          · next heq =>
            rw [hm] at heq
            cases heq
          · exact (if_neg hover).trans (if_neg hclosed)
        rw [State.next, hnext]
        obtain ⟨ids, hids⟩ := h.callers
        refine { h with calls := ?_, callers := ⟨ids ++ [id], ?_⟩ }
        · show s.hist.received.length + (s.incoming.waiters ++ [Waiter.receive id]).length =
            inbox.calls + 1
          rw [List.length_append, List.length_singleton]
          omega
        · show s.incoming.waiters ++ [Waiter.receive id] = _
          rw [hids, List.map_append]
          rfl

/-- A message that does not fit makes the overflow, and the close of the connection begins. -/
theorem overflow (h : s.Refines inbox)
    (hnone : ∀ result ∈ s.hist.received, ∀ error, result.2 ≠ .error error) :
    (({ s with incoming := { s.incoming with overflowed := true } }.closeSocket
      none).transportClosing).Refines { inbox with overflowed := true } := by
  have hlatch : ({ s with
      incoming := { s.incoming with overflowed := true } } : State).Refines
        { inbox with overflowed := true } :=
    ⟨h.limit, h.localClosed, h.unclaimed, h.accepted, h.calls, rfl,
      fun result hmem error herror => absurd herror (hnone result hmem error), h.sizes, h.callers,
      fun _ => .inl rfl, fun _ => rfl⟩
  have hsocket : s.socket.readyState = .closed → s.socket.close.readyState = .closed := by
    cases s.socket <;> first | exact id | nofun
  unfold State.transportClosing
  split <;> exact hlatch.congr rfl rfl rfl rfl hsocket fun _ => .inr rfl

/-- A message that fits is handed to the oldest waiter, or queued. -/
theorem push (h : s.Refines inbox) (hq : s.incoming.Sound)
    (hnone : ∀ result ∈ s.hist.received, ∀ error, result.2 ≠ .error error) (message : Message) :
    (s.withQueue (s.incoming.push message message.payloadLen)).Refines
      { inbox with accepted := inbox.accepted ++ [message] } := by
  obtain ⟨ids, hids⟩ := h.callers
  have haccepted := h.accepted
  have hcalls := h.calls
  cases hwaiters : s.incoming.waiters with
  | nil =>
    rw [IncomingQueue.push_of_nil hwaiters]
    refine { h with accepted := ?_, errors := ?_, sizes := ?_ }
    · show s.hist.returned ++ (s.incoming.messages ++ [_]).map QueuedMessage.message = _
      rw [List.map_append, ← List.append_assoc, haccepted]
      rfl
    · exact fun result hmem error herror => absurd herror (hnone result hmem error)
    · intro queued hmem
      rcases List.mem_append.mp hmem with hold | hnew
      · exact h.sizes queued hold
      · obtain rfl := List.mem_singleton.mp hnew
        rfl
  | cons waiter rest =>
    rw [IncomingQueue.push_of_cons hwaiters]
    -- The oldest waiter is a receive call, and nothing is queued.
    rw [hwaiters] at hids hcalls
    cases ids with
    | nil => cases hids
    | cons id ids =>
      obtain ⟨rfl, hrest⟩ := List.cons.inj hids
      have hempty : s.incoming.messages = [] := by
        by_contra hne
        rw [hq.idle hne] at hwaiters
        cases hwaiters
      refine { h with accepted := ?_, calls := ?_, errors := ?_, callers := ⟨ids, hrest⟩ }
      · show ({ s.hist with received := s.hist.received ++ [(id, .ok message)] } : History).returned ++
          s.incoming.messages.map QueuedMessage.message = _
        rw [hempty] at haccepted
        rw [returned_append, hempty, ← haccepted]
        simp [Except.toOption]
      · show (s.hist.received ++ [(id, Except.ok message)]).length + rest.length = inbox.calls
        rw [List.length_append, List.length_singleton]
        simp only [List.length_cons] at hcalls
        omega
      · intro result hmem error herror
        rcases List.mem_append.mp hmem with hold | hnew
        · exact absurd herror (hnone result hold error)
        · obtain rfl := List.mem_singleton.mp hnew
          cases herror

/-- A message that arrives on a connection that is not closed. -/
theorem onMessage (h : s.Refines inbox) (hq : s.incoming.Sound)
    (hopen : s.socket.readyState ≠ .closed) (message : Message) :
    (s.onMessage message).Refines (inbox.arrive message) := by
  obtain ⟨-, hqueued, -⟩ := h.at_rest hq
  have hsize : s.incoming.buffered = totalLen (s.incoming.messages.map QueuedMessage.message) := by
    rw [hq.counted, totalLen, List.map_map]
    exact congrArg List.sum (List.map_congr_left h.sizes)
  -- No call has failed on an open connection that has not overflowed.
  have hnone (hover : inbox.overflowed = false) :
      ∀ result ∈ s.hist.received, ∀ error, result.2 ≠ .error error := by
    intro result hmem error herror
    have hnot : ¬ inbox.overflowed = true := by simp [hover]
    rcases (h.errors result hmem error herror).2.2 with ho | hc
    · exact hnot ho
    · exact hopen ((h.closed hc).resolve_left hnot)
  unfold State.onMessage
  dsimp only
  rcases inbox.arrive_cases message hqueued with ⟨hover, harrive⟩ | ⟨hover, hlimit, harrive⟩ |
    ⟨hover, hlimit, harrive⟩
  · rw [harrive, if_pos (h.overflowed.trans hover)]
    exact h
  · have hfull : s.incoming.overflows message.payloadLen = true := by
      rw [IncomingQueue.overflows, hsize, ← h.limit]
      exact decide_eq_true hlimit
    rw [harrive, if_neg (by simp [h.overflowed, hover]), if_pos hfull]
    exact h.overflow (hnone hover)
  · have hfits : ¬ s.incoming.overflows message.payloadLen = true := by
      rw [IncomingQueue.overflows, hsize, ← h.limit]
      simpa using hlimit
    rw [harrive, if_neg (by simp [h.overflowed, hover]), if_neg hfits]
    exact h.push hq (hnone hover) message

/-- Rejecting the receive calls that wait. -/
theorem answerAll_errors (s : State) (ids : List Nat) (error : Error) :
    s.answerAll ((ids.map Waiter.receive).map fun waiter => (waiter, .error error)) =
      { s with hist := { s.hist with
          received := s.hist.received ++ ids.map fun id => (id, .error error) } } := by
  induction ids generalizing s with
  | nil =>
    rw [List.map_nil, List.map_nil, List.map_nil, List.append_nil]
    rfl
  | cons id ids ih =>
    change (s.answer (.receive id) (.error error)).answerAll _ = _
    rw [ih]
    show _ = { s with hist := { s.hist with received := s.hist.received ++ ((id, _) :: ids.map _) } }
    simp only [State.answer, List.append_assoc, List.singleton_append]

/-- The queue ends: the calls that wait fail.  An overflow has ended it, or the connection is
closed. -/
theorem endQueue (h : s.Refines inbox) (hq : s.incoming.Sound)
    (hends : inbox.overflowed = true ∨ s.socket.readyState = .closed) :
    (s.withQueue s.incoming.endQueue).Refines inbox := by
  obtain ⟨ids, hids⟩ := h.callers
  have hcalls := h.calls
  unfold IncomingQueue.endQueue
  split
  · exact h
  · unfold IncomingQueue.rejectWaiters State.withQueue
    dsimp only
    rw [hids, answerAll_errors]
    have herror : s.incoming.endError = inbox.endError := by
      rw [IncomingQueue.endError, Inbox.endError, h.overflowed]
    refine ⟨h.limit, h.localClosed, h.unclaimed, ?_, ?_, h.overflowed, ?_, h.sizes, ⟨[], rfl⟩,
      fun _ => hends, h.timers⟩
    · show (s.hist.received ++ _).filterMap _ ++ s.incoming.messages.map _ = inbox.accepted
      rw [List.filterMap_append, List.filterMap_map]
      have hnone : ids.filterMap ((fun result : Nat × Except Error Message => result.2.toOption) ∘
          fun id => (id, .error s.incoming.endError)) = [] :=
        List.filterMap_eq_nil_iff.mpr fun _ _ => rfl
      rw [show ids.filterMap _ = [] from hnone, List.append_nil]
      exact h.accepted
    · show (s.hist.received ++ ids.map _).length + 0 = inbox.calls
      rw [hids, List.length_map] at hcalls
      rw [List.length_append, List.length_map]
      omega
    · intro result hmem error herr
      rcases List.mem_append.mp hmem with hold | hnew
      · obtain ⟨heq, hm, -⟩ := h.errors result hold error herr
        exact ⟨heq, hm, .inr rfl⟩
      · obtain ⟨id, hid, rfl⟩ := List.mem_map.mp hnew
        cases herr
        refine ⟨herror, ?_, .inr rfl⟩
        by_contra hne
        have hwaiters := hq.idle hne
        rw [hids, List.map_eq_nil_iff] at hwaiters
        rw [hwaiters] at hid
        cases hid

theorem settleClosed (h : s.Refines inbox) (hq : s.incoming.Sound)
    (hends : inbox.overflowed = true ∨ s.socket.readyState = .closed)
    (event : Option (UInt16 × String)) : (s.settleClosed event).Refines inbox := by
  unfold State.settleClosed
  split
  · exact h
  · have hlatch : ({ s with
        closeSettled := true
        timers := s.timers.filter fun timer => s.closeDeadline != some timer.handle
        closeDeadline := none } : State).Refines inbox := by
      refine h.congr rfl rfl rfl rfl id fun ht => .inl fun hnil => ht ?_
      show s.timers.filter _ = []
      rw [hnil]
      rfl
    exact (hlatch.endQueue hq hends).congr rfl rfl rfl rfl id .inl

/-- Every move of a run that only receives is a move of the inbox. -/
theorem step {a : Action} (h : s.Refines inbox) (hq : s.incoming.Sound) (hs : s.StreamSound)
    (ha : a.receivesOnly = true) (hstep : Js.step s a = some s') :
    s'.Refines (inbox.run a.inboxEvents) := by
  have hnone : s.stream = none := hs.unclaimed h.unclaimed
  cases a with
  | receive =>
    obtain ⟨-, rfl⟩ := guestCall_eq_some.mp hstep
    unfold State.receive
    dsimp only
    rw [if_neg (by simp [h.localClosed]), if_neg (by simp [h.unclaimed])]
    have hid : ({ s with nextId := s.nextId + 1 } : State).Refines inbox :=
      h.congr rfl rfl rfl rfl id .inl
    exact hid.next s.nextId
  | receiveViaStream | close | dispose => cases ha
  | state =>
    obtain ⟨-, rfl⟩ := guestCall_eq_some.mp hstep
    exact h.congr rfl rfl rfl rfl id .inl
  | waitClosed =>
    obtain ⟨-, rfl⟩ := guestCall_eq_some.mp hstep
    unfold State.waitClosed
    dsimp only
    split <;> exact h.congr rfl rfl rfl rfl id .inl
  | configure | tick =>
    cases hstep
    exact h.congr rfl rfl rfl rfl id .inl
  | read =>
    obtain ⟨st, hst, -⟩ := Option.map_eq_some_iff.mp hstep
    rw [hnone] at hst
    cases hst
  | react =>
    obtain ⟨st, hst, -⟩ := Option.bind_eq_some_iff.mp hstep
    rw [hnone] at hst
    cases hst
  | message m =>
    obtain ⟨⟨-, hsocket⟩, rfl⟩ := platformEvent_eq_some.mp hstep
    refine h.onMessage hq ?_ m
    rcases hsocket with hsocket | hsocket <;> rw [hsocket] <;> nofun
  | peerClosing =>
    obtain ⟨⟨-, hsocket⟩, rfl⟩ := platformEvent_eq_some.mp hstep
    refine h.congr rfl rfl rfl rfl (fun hc => ?_) .inl
    rw [hsocket] at hc
    cases hc
  | transportClosed =>
    obtain ⟨-, rfl⟩ := platformEvent_eq_some.mp hstep
    exact h.congr rfl rfl rfl rfl (fun _ => rfl) .inl
  | errorEvent =>
    obtain ⟨⟨-, hsocket⟩, rfl⟩ := platformEvent_eq_some.mp hstep
    have hend := h.endQueue hq (.inr (by rw [hsocket]; rfl))
    exact hend.congr rfl rfl rfl rfl (fun _ => rfl) .inl
  | closeEvent code reason =>
    obtain ⟨⟨-, fired, hsocket⟩, rfl⟩ := platformEvent_eq_some.mp hstep
    have hend := h.endQueue hq (.inr (by rw [hsocket]; rfl))
    exact hend.congr rfl rfl rfl rfl (fun _ => rfl) .inl
  | closeSettles =>
    simp only [Js.step] at hstep
    split at hstep
    · next code reason hsocket =>
      obtain ⟨-, rfl⟩ := platformEvent_eq_some.mp hstep
      have hsettles := h.settleClosed hq (.inr (by rw [hsocket]; rfl)) (some (code, reason))
      exact hsettles.congr rfl rfl rfl rfl (fun _ => rfl) .inl
    · cases hstep
  | timer handle =>
    obtain ⟨⟨-, timer, hmem, -⟩, rfl⟩ := platformEvent_eq_some.mp hstep
    have hover : inbox.overflowed = true := h.timers (List.ne_nil_of_mem hmem)
    have hfired : ({ s with
        timers := s.timers.filter fun timer => timer.handle != handle } : State).Refines inbox :=
      h.congr rfl rfl rfl rfl id fun _ => .inr hover
    exact hfired.settleClosed hq (.inl hover) none

end State.Refines

/-- A run that only receives leaves the connection at the state of the inbox that has been told what
it was told. -/
theorem refines_of_run {s : State × List InboxEvent} (h : inboxSystem.Reachable s) :
    system.Reachable s.1 ∧ s.1.Refines ((Inbox.new s.1.incoming.limit).run s.2) := by
  have hkeeps := System.Reachable.traced_induction
    (I := fun s events => ∃ limit, State.Refines ((Inbox.new limit).run events) s)
    (by
      rintro _ ⟨knobs, now, rfl⟩
      exact ⟨knobs.maxInboundBuffered, rfl, rfl, rfl, rfl, rfl, rfl, nofun, nofun, ⟨[], rfl⟩, nofun,
        fun ht => absurd rfl ht⟩)
    (by
      rintro s events a new s' hr ⟨limit, hrefines⟩ ⟨ha, rfl⟩ hstep
      refine ⟨limit, ?_⟩
      rw [Inbox.run_append]
      exact hrefines.step (queue_sound hr.reachable) (stream_sound hr.reachable) ha hstep) h
  obtain ⟨hr, limit, hrefines⟩ := hkeeps
  have hlimit := hrefines.limit
  rw [Inbox.run_limit] at hlimit
  exact ⟨hr.reachable, hlimit ▸ hrefines⟩

end Polymorph.Js
