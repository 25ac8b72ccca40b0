import PolymorphWebsocket.Js.SendViaStream
import PolymorphWebsocket.Js.WaitClosed
import PolymorphWebsocket.Js.Inbox
import PolymorphWebsocket.Shim.Resource

/-!
# The WHATWG shim over the JavaScript host

A component with the shim, run by the JavaScript host.  The host's side is a `Websocket` over the `WebSocket`
of the platform, with the `send` that polls for the drain of its buffer and the `receive` whose promise is
not done with.  It is a lawful resource as well: what the shim does over it, it does over the host that it
assumes.

The queue of this host may fail a `receive` long before `waitClosed` settles, after an overflow or between
the two listeners of a close event; what `waitClosed` will settle with is not known then.
-/

namespace Polymorph.Js

open Transition

/-! ### The promises of the shim -/

/-- A `Websocket`, with the calls of the shim on it. -/
structure Session where
  conn : State
  /-- The `bufferedAmount` of the `WebSocket`. -/
  bufferedAmount : Nat
  /-- The message of the `send` that waits for the drain. -/
  draining : Option Message
  /-- The messages handed to the `WebSocket`. -/
  wire : List Message
  /-- The `receive` call whose promise is not done with. -/
  receiving : Option Nat

/-- The moves of a `Websocket` that are not calls of the shim. -/
inductive SessionMove
  | conn (a : Action)
  /-- The platform's buffer drains. -/
  | buffered (amount : Nat)
  /-- The timer of the drain poll fires. -/
  | drainPoll

namespace Session

variable (x : Session)

/-- One turn of the loop of `send`; the call that is refused throws. -/
def trySend (message : Message) : Session :=
  if x.conn.localClosed || x.conn.socket.readyState != .open then { x with draining := none }
  else if x.bufferedAmount ≤ maxBufferedAmount then { x with
    bufferedAmount := x.bufferedAmount + message.payloadLen
    draining := none
    wire := x.wire ++ [message] }
  else { x with draining := some message }

/-- The moves of the platform and of its embedder. -/
def ofHost : Action → Bool
  | .message _ | .peerClosing | .transportClosed | .errorEvent | .closeEvent _ _ | .closeSettles | .timer _
  | .tick _ | .configure _ => true
  | .receive | .receiveViaStream | .state | .waitClosed | .close _ _ | .dispose | .read | .react => false

/-- What the `receive` call has returned. -/
def received : Option (Except Error Message) :=
  x.receiving.bind fun id => List.lookup id x.conn.hist.received

/-- The result, if it is a message. -/
def message : List Message := (x.received.bind Except.toOption).toList

/-- The messages that are queued. -/
def queued : List Message := x.conn.incoming.messages.map QueuedMessage.message

/-- The messages that `receive` still gets: the one it has returned, and, unless the guest has closed the
connection, those that are queued. -/
def deliverable : List Message := x.message ++ if x.conn.localClosed then [] else x.queued

end Session

/-- No message is queued any more, whether or not the guest closes the connection. -/
def State.ended (s : State) : Bool :=
  s.incoming.overflowed || s.closeSettled || s.socket.readyState == .closed

/-- The JavaScript host, as the shim uses it. -/
def resource : Shim.Resource Session SessionMove where
  opened x := system.init x.conn ∧ x.bufferedAmount = 0 ∧ x.draining = none ∧ x.wire = [] ∧ x.receiving = none
  move x
    | .conn a =>
      if Session.ofHost a then (step x.conn a).map fun conn => { x with conn := conn } else none
    | .buffered amount => some { x with bufferedAmount := amount }
    | .drainPoll => x.draining.map x.trySend
  idle _ := true
  send x message := x.trySend message
  sent x := x.draining.isNone
  receive x := { x with conn := x.conn.receive, receiving := some x.conn.nextId }
  received := Session.received
  collect x := { x with receiving := none }
  close x code reason := { x with conn := (x.conn.close (code.map UInt16.ofNat) reason).2 }
  waitClosed x := if x.conn.closeSettled then some x.conn.closeInfo else none

/-! ### What the shim sees -/

/-- The invariant. -/
structure Session.Sound (x : Session) : Prop where
  reachable : system.Reachable x.conn
  kept : x.conn.disposed = false
  unclaimed : x.conn.streamClaimed = false
  /-- The only waiter is the `receive` call that has not returned. -/
  waiting : x.conn.incoming.waiters = if x.received.isNone then x.receiving.toList.map .receive else []
  made : (∀ id ∈ x.receiving, id < x.conn.nextId) ∧
    ∀ result ∈ x.conn.hist.received, result.1 < x.conn.nextId
  /-- A local close ends the queue. -/
  closing : x.conn.localClosed = true → x.conn.incoming.closed = true
  failed : ∀ err, x.received = some (.error err) →
    x.conn.localClosed = true ∨ x.conn.ended = true ∧ x.conn.incoming.messages = []

/-- What the shim sees of a session. -/
def Session.view : Shim.Resource.View Session where
  Sound := Session.Sound
  deliverable := Session.deliverable
  localClosed x := x.conn.localClosed
  ended x := x.conn.ended
  receiving x := x.receiving.isSome

/-! ### What the platform does to the queue -/

/-- The results that the calls of `receive` among the waiters get. -/
def Answers.results (answers : Answers) : List (Nat × Except Error Message) :=
  answers.filterMap fun answer =>
    match answer.1 with
    | .receive id => some (id, answer.2)
    | .pull => none

theorem received_answerAll_eq (s : State) (answers : Answers) :
    (s.answerAll answers).hist.received = s.hist.received ++ answers.results := by
  induction answers generalizing s with
  | nil => exact (List.append_nil _).symm
  | cons answer answers ih =>
    obtain ⟨waiter, result⟩ := answer
    calc ((s.answer waiter result).answerAll answers).hist.received
        = (s.answer waiter result).hist.received ++ Answers.results answers := ih _
      _ = s.hist.received ++ Answers.results ((waiter, result) :: answers) := by
        cases waiter with
        | receive id => exact List.append_assoc _ _ _
        | pull => exact congrArg (· ++ Answers.results answers) rfl

/-- The messages that the queue takes from a move of the platform. -/
def State.accepts (s : State) : Action → List Message
  | .message message =>
    if s.incoming.overflowed || s.incoming.overflows message.payloadLen then [] else [message]
  | _ => []

/-- What a move of the platform does to the queue: it brings a message that fits or one that does not, or it
ends it. -/
inductive Feeds (s : State) (a : Action) (s' : State) : Prop
  | quiet (hnone : s.accepts a = []) (hqueue : s'.incoming = s.incoming)
      (hreceived : s'.hist.received = s.hist.received)
  | arrives (message : Message) (ha : a = .message message) (hone : s.accepts a = [message])
      (hqueue : s'.incoming = (s.incoming.push message message.payloadLen).2)
      (hreceived : s'.hist.received =
        s.hist.received ++ (s.incoming.push message message.payloadLen).1.results)
  | overflows (hnone : s.accepts a = []) (hqueue : s'.incoming = { s.incoming with overflowed := true })
      (hreceived : s'.hist.received = s.hist.received)
  | ends (hnone : s.accepts a = []) (hqueue : s'.incoming = s.incoming.endQueue.2)
      (hreceived : s'.hist.received = s.hist.received ++ s.incoming.endQueue.1.results)

section Steps

variable {s s' : State} {a : Action}

/-- The end of the queue in the settlement. -/
theorem feeds_settleClosed (s t : State) (event : Option (UInt16 × String)) (socket : Socket)
    (hnone : s.accepts a = []) (hqueue : t.incoming = s.incoming) (hhist : t.hist = s.hist) :
    Feeds s a { t.settleClosed event with socket := socket } := by
  by_cases hsettled : t.closeSettled = true
  · have hsame : t.settleClosed event = t := if_pos hsettled
    rw [hsame]
    exact .quiet hnone hqueue (congrArg History.received hhist)
  · refine .ends hnone ?_ ?_
    · show (t.settleClosed event).incoming = _
      rw [settleClosed_eq (Bool.eq_false_iff.mpr hsettled), hqueue]
    · show (t.settleClosed event).hist.received = _
      unfold State.settleClosed
      rw [if_neg hsettled]
      unfold State.withQueue
      dsimp only
      rw [received_answerAll_eq, hqueue, hhist]

/-- The settlement claims no stream and makes no call. -/
theorem settleClosed_claims (s : State) (event : Option (UInt16 × String)) :
    (s.settleClosed event).streamClaimed = s.streamClaimed ∧ s.nextId ≤ (s.settleClosed event).nextId := by
  by_cases hsettled : s.closeSettled = true
  · have hsame : s.settleClosed event = s := if_pos hsettled
    rw [hsame]
    exact ⟨rfl, Nat.le_refl _⟩
  · rw [settleClosed_eq (Bool.eq_false_iff.mpr hsettled)]
    exact ⟨rfl, Nat.le_refl _⟩

/-- Every move of the platform. -/
theorem feeds_of_step (h : step s a = some s') (ha : Session.ofHost a = true) : Feeds s a s' := by
  cases a with
  | message message =>
    obtain ⟨-, rfl⟩ := platformEvent_eq_some.mp h
    unfold State.onMessage
    dsimp only
    split
    · next hover =>
      refine .quiet (if_pos ?_) rfl rfl
      rw [hover]
      rfl
    · next hover =>
      split
      · next hfull =>
        refine .overflows (if_pos ?_) ?_ ?_
        · rw [hfull, Bool.or_true]
        · rw [QueueMove.transportClosing]
          rfl
        · unfold State.transportClosing
          split <;> rfl
      · next hfits =>
        refine .arrives message rfl (if_neg ?_) (withQueue_incoming s _) (received_answerAll_eq _ _)
        rw [Bool.or_eq_true]
        exact not_or_intro hover hfits
  | peerClosing | transportClosed =>
    obtain ⟨-, rfl⟩ := platformEvent_eq_some.mp h
    exact .quiet rfl rfl rfl
  | errorEvent | closeEvent =>
    obtain ⟨-, rfl⟩ := platformEvent_eq_some.mp h
    exact .ends rfl (withQueue_incoming s _) (received_answerAll_eq _ _)
  | closeSettles =>
    simp only [step] at h
    split at h
    · obtain ⟨-, rfl⟩ := platformEvent_eq_some.mp h
      exact feeds_settleClosed s s _ _ rfl rfl rfl
    · cases h
  | timer handle =>
    obtain ⟨-, rfl⟩ := platformEvent_eq_some.mp h
    exact feeds_settleClosed s _ none _ rfl rfl rfl
  | tick | configure =>
    cases h
    exact .quiet rfl rfl rfl
  | receive | receiveViaStream | state | waitClosed | close | dispose | read | react => cases ha

/-- A move of the platform does not take back what has been closed. -/
theorem forward_of_step (h : step s a = some s') (ha : Session.ofHost a = true) : Forward s s' := by
  cases step_kind h with
  | state | close | dispose => cases ha
  | other hf => exact hf

/-- What else a move of the platform leaves alone. -/
theorem kept_of_step (h : step s a = some s') (ha : Session.ofHost a = true) :
    s'.localClosed = s.localClosed ∧ s'.disposed = s.disposed ∧ s'.streamClaimed = s.streamClaimed ∧
      s.nextId ≤ s'.nextId := by
  have hforward := forward_of_step h ha
  refine ⟨hforward.localClosed, hforward.disposed, ?_⟩
  cases a with
  | message message =>
    obtain ⟨-, rfl⟩ := platformEvent_eq_some.mp h
    unfold State.onMessage
    dsimp only
    split
    · exact ⟨rfl, Nat.le_refl _⟩
    · split
      · unfold State.transportClosing
        split
        · exact ⟨rfl, Nat.le_succ _⟩
        · exact ⟨rfl, Nat.le_refl _⟩
      · rw [State.withQueue, AnswerFrame.answerAll]
        exact ⟨rfl, Nat.le_refl _⟩
  | peerClosing | transportClosed =>
    obtain ⟨-, rfl⟩ := platformEvent_eq_some.mp h
    exact ⟨rfl, Nat.le_refl _⟩
  | errorEvent | closeEvent =>
    obtain ⟨-, rfl⟩ := platformEvent_eq_some.mp h
    rw [State.onEnd, State.withQueue, AnswerFrame.answerAll]
    exact ⟨rfl, Nat.le_refl _⟩
  | closeSettles =>
    simp only [step] at h
    split at h
    · obtain ⟨-, rfl⟩ := platformEvent_eq_some.mp h
      exact settleClosed_claims s _
    · cases h
  | timer handle =>
    obtain ⟨-, rfl⟩ := platformEvent_eq_some.mp h
    exact settleClosed_claims _ none
  | tick | configure =>
    cases h
    exact ⟨rfl, Nat.le_refl _⟩
  | receive | receiveViaStream | state | waitClosed | close | dispose | read | react => cases ha

theorem ended_iff : s.ended = true ↔
    s.incoming.overflowed = true ∨ s.closeSettled = true ∨ s.socket.readyState = .closed := by
  unfold State.ended
  rw [Bool.or_eq_true, Bool.or_eq_true, beq_iff_eq, or_assoc]

/-- A queue that has ended without a local close takes no message any more. -/
theorem ended_of_closed (hr : system.Reachable s) (hclosed : s.incoming.closed = true) :
    s.localClosed = true ∨ s.ended = true := by
  rw [ended_iff]
  rcases mayEnd_of_closed hr hclosed with hready | hover | hlocal
  · exact .inr (.inr (.inr hready))
  · exact .inr (.inl hover)
  · exact .inl hlocal

/-- The end stays. -/
theorem ended_of_step (h : step s a = some s') (ha : Session.ofHost a = true) (hended : s.ended = true) :
    s'.ended = true := by
  have hforward := forward_of_step h ha
  rw [ended_iff] at hended ⊢
  rcases hended with hover | hsettled | hready
  · exact .inl ((queue_of_step h).latched.2 hover)
  · exact .inr (.inl (hforward.settled hsettled))
  · exact .inr (.inr (hforward.closed hready))

/-- A close timer says that an overflow or a local close has armed it. -/
theorem deadline_of_reachable (hr : system.Reachable s) (hdeadline : s.closeDeadline.isSome = true) :
    s.initiated = true := by
  have hobserved : ∃ g, settling.Reachable g ∧ g.conn = s := by
    refine System.Reachable.induction (I := fun s => ∃ g, settling.Reachable g ∧ g.conn = s) ?_ ?_ hr
    · intro s hinit
      exact ⟨.start s, .of_init ⟨s, hinit, rfl⟩, rfl⟩
    · rintro s a s' - ⟨g, hg, rfl⟩ hs
      refine ⟨g.record a s', hg.next (a := a) ?_, rfl⟩
      exact Option.map_eq_some_iff.mpr ⟨s', hs, rfl⟩
  obtain ⟨g, hg, rfl⟩ := hobserved
  exact (settling_sound hg).deadline hdeadline

end Steps

/-! ### The session is a lawful resource -/

namespace Session

variable {x : Session} {conn : State}

theorem message_of_ok {m : Message} (h : x.received = some (.ok m)) : x.message = [m] := by
  unfold message
  rw [h]
  rfl

theorem message_of_error {err : Error} (h : x.received = some (.error err)) : x.message = [] := by
  unfold message
  rw [h]
  rfl

theorem message_of_none (h : x.received = none) : x.message = [] := by
  unfold message
  rw [h]
  rfl

/-- Nobody waits, or the `receive` call of the shim does. -/
theorem Sound.waiters (h : x.Sound) : x.conn.incoming.waiters = [] ∨
    ∃ id, x.receiving = some id ∧ x.received = none ∧ x.conn.incoming.waiters = [.receive id] := by
  have hwaiting := h.waiting
  by_cases hnone : x.received.isNone = true
  · rw [if_pos hnone] at hwaiting
    cases hreceiving : x.receiving with
    | none =>
      left
      rw [hwaiting, hreceiving]
      rfl
    | some id =>
      refine .inr ⟨id, rfl, Option.isNone_iff_eq_none.mp hnone, ?_⟩
      rw [hwaiting, hreceiving]
      rfl
  · left
    rwa [if_neg hnone] at hwaiting

/-- The calls that have returned stay. -/
theorem received_of_eq (hreceived : conn.hist.received = x.conn.hist.received) :
    ({ x with conn := conn } : Session).received = x.received := by
  unfold received
  rw [hreceived]

/-- The call returns. -/
theorem received_of_append {id : Nat} {result : Except Error Message} (hreceiving : x.receiving = some id)
    (hnone : x.received = none) (hreceived : conn.hist.received = x.conn.hist.received ++ [(id, result)]) :
    ({ x with conn := conn } : Session).received = some result := by
  unfold received at hnone ⊢
  rw [hreceiving] at hnone ⊢
  rw [Option.bind_some] at hnone ⊢
  calc List.lookup id conn.hist.received
      = (List.lookup id x.conn.hist.received).or (List.lookup id [(id, result)]) := by
        rw [hreceived, List.lookup_append]
    _ = some result := by rw [hnone, Option.none_or, List.lookup_cons_self]

/-- What a move of the connection does not take back. -/
structure Onward (x : Session) (conn : State) : Prop where
  reachable : system.Reachable conn
  kept : conn.disposed = false
  unclaimed : conn.streamClaimed = false
  next : x.conn.nextId ≤ conn.nextId
  closing : conn.localClosed = true → conn.incoming.closed = true

/-- No call returns. -/
theorem Sound.of_quiet (h : x.Sound) (ho : x.Onward conn)
    (hreceived : conn.hist.received = x.conn.hist.received)
    (hwaiters : conn.incoming.waiters = x.conn.incoming.waiters)
    (hfailed : ∀ err, x.received = some (.error err) → conn.localClosed = true ∨
      conn.ended = true ∧ conn.incoming.messages = []) :
    ({ x with conn := conn } : Session).Sound := by
  have hsame := received_of_eq hreceived
  refine ⟨ho.reachable, ho.kept, ho.unclaimed, ?_, ⟨?_, ?_⟩, ho.closing, ?_⟩
  · rw [hsame]
    exact hwaiters.trans h.waiting
  · intro id hid
    exact Nat.lt_of_lt_of_le (h.made.1 id hid) ho.next
  · intro result hmem
    exact Nat.lt_of_lt_of_le (h.made.2 result (hreceived ▸ hmem)) ho.next
  · intro err herr
    exact hfailed err (hsame.symm.trans herr)

/-- The call returns. -/
theorem Sound.of_answer (h : x.Sound) (ho : x.Onward conn) {id : Nat} {result : Except Error Message}
    (hreceiving : x.receiving = some id) (hnone : x.received = none)
    (hreceived : conn.hist.received = x.conn.hist.received ++ [(id, result)])
    (hwaiters : conn.incoming.waiters = [])
    (hfailed : ∀ err, result = .error err → conn.localClosed = true ∨
      conn.ended = true ∧ conn.incoming.messages = []) :
    ({ x with conn := conn } : Session).Sound := by
  have hsome := received_of_append hreceiving hnone hreceived
  refine ⟨ho.reachable, ho.kept, ho.unclaimed, ?_, ⟨?_, ?_⟩, ho.closing, ?_⟩
  · rw [hsome]
    exact hwaiters
  · intro id' hid
    exact Nat.lt_of_lt_of_le (h.made.1 id' hid) ho.next
  · intro result' hmem
    change result' ∈ conn.hist.received at hmem
    rw [hreceived] at hmem
    rcases List.mem_append.mp hmem with hold | hnew
    · exact Nat.lt_of_lt_of_le (h.made.2 result' hold) ho.next
    · obtain rfl := List.mem_singleton.mp hnew
      exact Nat.lt_of_lt_of_le (h.made.1 id hreceiving) ho.next
  · intro err herr
    exact hfailed err (Option.some.inj (hsome.symm.trans herr))

/-- Nothing is queued while a call waits. -/
theorem Sound.empty (h : x.Sound) {waiter : Waiter} (hwaiters : x.conn.incoming.waiters = [waiter]) :
    x.conn.incoming.messages = [] := by
  by_contra hne
  have hnone := (queue_sound h.reachable).idle hne
  cases hwaiters.symm.trans hnone

/-- A call waits only before a local close. -/
theorem Sound.open_of_waiting (h : x.Sound) {waiter : Waiter}
    (hwaiters : x.conn.incoming.waiters = [waiter]) :
    x.conn.incoming.closed = false ∧ x.conn.localClosed = false := by
  have hopen : x.conn.incoming.closed = false := by
    rw [Bool.eq_false_iff]
    intro hclosed
    cases hwaiters.symm.trans ((queue_sound h.reachable).ended hclosed)
  refine ⟨hopen, ?_⟩
  rw [Bool.eq_false_iff]
  intro hlocal
  cases hopen.symm.trans (h.closing hlocal)

/-- A message is taken only before the end of the queue, if the guest has not closed the connection. -/
theorem Sound.open_of_accepts (h : x.Sound) {message : Message}
    (hs : step x.conn (.message message) = some conn) (hone : x.conn.accepts (.message message) = [message])
    (hlocal : x.conn.localClosed = false) : x.conn.ended = false := by
  obtain ⟨⟨-, hsocket⟩, -⟩ := platformEvent_eq_some.mp hs
  have hready : x.conn.socket.readyState ≠ .closed := by
    rcases hsocket with hsocket | hsocket <;> rw [hsocket] <;> decide
  have hover : ¬ x.conn.incoming.overflowed = true := by
    intro hover
    unfold State.accepts at hone
    dsimp only at hone
    rw [hover, Bool.true_or, if_pos rfl] at hone
    cases hone
  have hunsettled : ¬ x.conn.closeSettled = true := by
    intro hsettled
    rcases (settle_sound h.reachable).socket hsettled with hdone | ho | hl
    · exact hready (by rw [hdone]; rfl)
    · exact hover ho
    · cases hlocal.symm.trans hl
  rw [Bool.eq_false_iff, Ne, ended_iff]
  rintro (ho | hsettled | hclosed)
  · exact hover ho
  · exact hunsettled hsettled
  · exact hready hclosed

/-- A move of the platform. -/
theorem Sound.platform (h : x.Sound) {a : Action} (ha : ofHost a = true) (hs : step x.conn a = some conn) :
    ({ x with conn := conn } : Session).Sound ∧
      ({ x with conn := conn } : Session).deliverable =
        x.deliverable ++ (if x.conn.localClosed then [] else x.conn.accepts a) := by
  obtain ⟨hlocal, hdisposed, hclaimed, hnext⟩ := kept_of_step hs ha
  obtain ⟨hclosed, -⟩ := (queue_of_step hs).latched
  have ho : x.Onward conn := ⟨h.reachable.next hs, hdisposed.trans h.kept, hclaimed.trans h.unclaimed, hnext,
    fun hl => hclosed (h.closing (hlocal.symm.trans hl))⟩
  -- a call that has failed does not see a message any more
  have hfailed (hsame : conn.incoming.messages = x.conn.incoming.messages) (err : Error)
      (herr : x.received = some (.error err)) : conn.localClosed = true ∨
        conn.ended = true ∧ conn.incoming.messages = [] := by
    rcases h.failed err herr with hl | ⟨hend, hempty⟩
    · exact .inl (hlocal.trans hl)
    · exact .inr ⟨ended_of_step hs ha hend, hsame.trans hempty⟩
  have hstays (hmessage : ({ x with conn := conn } : Session).message = x.message)
      (hmessages : conn.incoming.messages = x.conn.incoming.messages) (hnone : x.conn.accepts a = []) :
      ({ x with conn := conn } : Session).deliverable =
        x.deliverable ++ (if x.conn.localClosed then [] else x.conn.accepts a) := by
    unfold deliverable queued
    rw [hmessage, hlocal, hmessages, hnone, ite_self, List.append_nil]
  have hmessage (hreceived : conn.hist.received = x.conn.hist.received) :
      ({ x with conn := conn } : Session).message = x.message := by
    unfold message
    rw [received_of_eq hreceived]
  cases feeds_of_step hs ha with
  | quiet hnone hqueue hreceived =>
    have hmessages : conn.incoming.messages = x.conn.incoming.messages := by rw [hqueue]
    exact ⟨h.of_quiet ho hreceived (by rw [hqueue]) (hfailed hmessages),
      hstays (hmessage hreceived) hmessages hnone⟩
  | overflows hnone hqueue hreceived =>
    have hmessages : conn.incoming.messages = x.conn.incoming.messages := by rw [hqueue]
    exact ⟨h.of_quiet ho hreceived (by rw [hqueue]) (hfailed hmessages),
      hstays (hmessage hreceived) hmessages hnone⟩
  | ends hnone hqueue hreceived =>
    have hmessages : conn.incoming.messages = x.conn.incoming.messages := by
      rw [hqueue]
      unfold IncomingQueue.endQueue
      split <;> rfl
    rcases h.waiters with hwaiters | ⟨id, hreceiving, hunreturned, hwaiters⟩
    · have hquiet : x.conn.incoming.endQueue.1 = [] ∧ x.conn.incoming.endQueue.2.waiters = [] := by
        unfold IncomingQueue.endQueue IncomingQueue.rejectWaiters
        split
        · exact ⟨rfl, hwaiters⟩
        · dsimp only
          rw [hwaiters]
          exact ⟨rfl, rfl⟩
      rw [hquiet.1] at hreceived
      have hsame : conn.hist.received = x.conn.hist.received := hreceived.trans (List.append_nil _)
      refine ⟨h.of_quiet ho hsame ?_ (hfailed hmessages), hstays (hmessage hsame) hmessages hnone⟩
      rw [hqueue, hquiet.2, hwaiters]
    · obtain ⟨hopen, -⟩ := h.open_of_waiting hwaiters
      have hrejects : x.conn.incoming.endQueue =
          ([(.receive id, .error x.conn.incoming.endError)],
            { x.conn.incoming with closed := true, waiters := [] }) := by
        unfold IncomingQueue.endQueue IncomingQueue.rejectWaiters
        rw [hopen, if_neg Bool.false_ne_true]
        dsimp only
        rw [hwaiters]
        rfl
      rw [hrejects] at hqueue hreceived
      have hempty : conn.incoming.messages = [] := hmessages.trans (h.empty hwaiters)
      have hreturns := received_of_append hreceiving hunreturned hreceived
      refine ⟨h.of_answer ho hreceiving hunreturned hreceived (by rw [hqueue]) ?_, ?_⟩
      · rintro err -
        have hend : conn.incoming.closed = true := by rw [hqueue]
        exact (ended_of_closed ho.reachable hend).imp_right fun hended => ⟨hended, hempty⟩
      · refine hstays ?_ hmessages hnone
        rw [message_of_error hreturns, message_of_none hunreturned]
  | arrives message ha' hone hqueue hreceived =>
    subst ha'
    rw [hone]
    rcases h.waiters with hwaiters | ⟨id, hreceiving, hunreturned, hwaiters⟩
    · rw [IncomingQueue.push_of_nil hwaiters] at hqueue hreceived
      have hsame : conn.hist.received = x.conn.hist.received := hreceived.trans (List.append_nil _)
      refine ⟨h.of_quiet ho hsame (by rw [hqueue]) fun err herr => ?_, ?_⟩
      · rcases h.failed err herr with hl | ⟨hend, -⟩
        · exact .inl (hlocal.trans hl)
        · by_cases hl : x.conn.localClosed = true
          · exact .inl (hlocal.trans hl)
          · cases hend.symm.trans (h.open_of_accepts hs hone (Bool.eq_false_iff.mpr hl))
      · unfold deliverable queued
        rw [hmessage hsame, hlocal]
        by_cases hl : x.conn.localClosed = true
        · rw [if_pos hl, if_pos hl, if_pos hl]
          simp
        · rw [if_neg hl, if_neg hl, if_neg hl, hqueue]
          simp
    · rw [IncomingQueue.push_of_cons hwaiters] at hqueue hreceived
      obtain ⟨-, hopen⟩ := h.open_of_waiting hwaiters
      have hreturns := received_of_append hreceiving hunreturned hreceived
      refine ⟨h.of_answer ho hreceiving hunreturned hreceived (by rw [hqueue]) (by rintro err ⟨⟩), ?_⟩
      have hempty := h.empty hwaiters
      unfold deliverable queued
      rw [message_of_ok hreturns, message_of_none hunreturned, hlocal, hopen, if_neg Bool.false_ne_true,
        if_neg Bool.false_ne_true, if_neg Bool.false_ne_true, hqueue, hempty]
      rfl

/-! ### The calls of the shim -/

/-- `send` leaves the connection to itself. -/
theorem trySend_frame (x : Session) (message : Message) : x.trySend message = { x with
    bufferedAmount := (x.trySend message).bufferedAmount
    draining := (x.trySend message).draining
    wire := (x.trySend message).wire } := by
  unfold trySend
  split
  · rfl
  · split <;> rfl

/-- What depends on the connection and the `receive` call alone. -/
theorem Sound.of_frame (h : x.Sound) {x' : Session} (hconn : x'.conn = x.conn)
    (hreceiving : x'.receiving = x.receiving) :
    x'.Sound ∧ resource.Same view x x' ∧ x'.receiving.isSome = x.receiving.isSome := by
  obtain ⟨conn, bufferedAmount, draining, wire, receiving⟩ := x'
  obtain rfl : conn = x.conn := hconn
  obtain rfl : receiving = x.receiving := hreceiving
  exact ⟨⟨h.reachable, h.kept, h.unclaimed, h.waiting, h.made, h.closing, h.failed⟩, ⟨rfl, rfl, rfl, rfl⟩, rfl⟩

theorem Sound.trySend (h : x.Sound) (message : Message) :
    (x.trySend message).Sound ∧ resource.Same view x (x.trySend message) ∧
      (x.trySend message).receiving.isSome = x.receiving.isSome := by
  apply h.of_frame
  · rw [trySend_frame]
  · rw [trySend_frame]

/-- A `receive` call that has just been made has a number of its own. -/
theorem Sound.lookup_next (h : x.Sound) : List.lookup x.conn.nextId x.conn.hist.received = none := by
  rw [List.lookup_eq_none_iff]
  intro result hmem
  have hlt := h.made.2 result hmem
  exact bne_iff_ne.mpr (by omega)

/-- What a call of `receive` does: it returns at once, or it waits. -/
inductive Receives (x : Session) (s' : State) : Prop
  | returns (result : Except Error Message)
      (hreceived : s'.hist.received = x.conn.hist.received ++ [(x.conn.nextId, result)])
      (hwaiters : s'.incoming.waiters = x.conn.incoming.waiters)
      (hdelivers : result.toOption.toList ++
        (if x.conn.localClosed then [] else s'.incoming.messages.map QueuedMessage.message) =
          if x.conn.localClosed then [] else x.queued)
      (hfailed : ∀ err, result = .error err → x.conn.localClosed = true ∨
        x.conn.ended = true ∧ s'.incoming.messages = [])
  | waits (hreceived : s'.hist.received = x.conn.hist.received)
      (hwaiters : s'.incoming.waiters = x.conn.incoming.waiters ++ [.receive x.conn.nextId])
      (hmessages : s'.incoming.messages = x.conn.incoming.messages)

/-- `receive`. -/
theorem Sound.receives (h : x.Sound) : x.Receives x.conn.receive := by
  have hfree : ¬ x.conn.streamClaimed = true := by
    rw [h.unclaimed]
    exact Bool.false_ne_true
  unfold State.receive
  dsimp only
  by_cases hlocal : x.conn.localClosed = true
  · rw [if_pos hlocal]
    refine .returns (.error .closed) rfl rfl ?_ fun _ _ => .inl hlocal
    rw [if_pos hlocal, if_pos hlocal]
    rfl
  · rw [if_neg hlocal, if_neg hfree]
    cases hmessages : x.conn.incoming.messages with
    | cons head rest =>
      have hnext : x.conn.incoming.next (.receive x.conn.nextId) = (some (.ok head.message),
          { x.conn.incoming with
            messages := rest, buffered := x.conn.incoming.buffered - head.size }) := by
        unfold IncomingQueue.next
        rw [hmessages]
      unfold State.next
      dsimp only
      rw [hnext]
      refine .returns (.ok head.message) rfl rfl ?_ (by rintro err ⟨⟩)
      rw [if_neg hlocal, if_neg hlocal]
      unfold queued
      rw [hmessages]
      rfl
    | nil =>
      have hfails (err : Error) (hended : x.conn.ended = true)
          (hnext : x.conn.incoming.next (.receive x.conn.nextId) = (some (.error err), x.conn.incoming)) :
          x.Receives (State.next { x.conn with nextId := x.conn.nextId + 1 } (.receive x.conn.nextId)) := by
        unfold State.next
        dsimp only
        rw [hnext]
        refine .returns (.error err) rfl rfl ?_ fun _ _ => .inr ⟨hended, hmessages⟩
        unfold queued
        rw [if_neg hlocal, if_neg hlocal]
        rfl
      by_cases hover : x.conn.incoming.overflowed = true
      · refine hfails .receiveBufferOverflow (ended_iff.mpr (.inl hover)) ?_
        · unfold IncomingQueue.next
          rw [hmessages]
          exact if_pos hover
      · by_cases hclosed : x.conn.incoming.closed = true
        · refine hfails .closed ((ended_of_closed h.reachable hclosed).resolve_left hlocal) ?_
          · unfold IncomingQueue.next
            rw [hmessages]
            exact (if_neg hover).trans (if_pos hclosed)
        · have hnext : x.conn.incoming.next (.receive x.conn.nextId) = (none,
              { x.conn.incoming with
                waiters := x.conn.incoming.waiters ++ [.receive x.conn.nextId] }) := by
            unfold IncomingQueue.next
            split
            · next heq => cases hmessages.symm.trans heq
            · exact (if_neg hover).trans (if_neg hclosed)
          unfold State.next
          dsimp only
          rw [hnext]
          exact .waits rfl rfl rfl

/-- What a call of `receive` keeps. -/
theorem receive_frame (hx : x.conn.streamClaimed = false) :
    x.conn.receive.nextId = x.conn.nextId + 1 ∧ x.conn.receive.streamClaimed = false ∧
      x.conn.receive.incoming.closed = x.conn.incoming.closed ∧
      x.conn.receive.incoming.overflowed = x.conn.incoming.overflowed := by
  have hqueue (s : State) (waiter : Waiter) : (s.next waiter).nextId = s.nextId ∧
      (s.next waiter).incoming.closed = s.incoming.closed ∧
      (s.next waiter).incoming.overflowed = s.incoming.overflowed := by
    refine ⟨?_, ?_, ?_⟩
    · unfold State.next
      rcases s.incoming.next waiter with ⟨_ | result, queue⟩
      · rfl
      · dsimp only
        rw [AnswerFrame.answer]
    · rw [next_incoming, next_closed]
    · rw [next_incoming]
      unfold IncomingQueue.next
      split
      · rfl
      · split
        · rfl
        · split <;> rfl
  have hclaims : x.conn.receive.streamClaimed = x.conn.streamClaimed := by
    unfold State.receive
    dsimp only
    split
    · rfl
    · split
      · rfl
      · rw [InboundFrame.next_claimed]
  refine ⟨?_, hclaims.trans hx, ?_⟩
  · unfold State.receive
    dsimp only
    split
    · rfl
    · split
      · rfl
      · rw [(hqueue _ _).1]
  · unfold State.receive
    dsimp only
    split
    · exact ⟨rfl, rfl⟩
    · split
      · exact ⟨rfl, rfl⟩
      · exact (hqueue _ _).2

/-- `receive`. -/
theorem Sound.receive (h : x.Sound) (hnot : x.receiving = none) :
    (resource.receive x).Sound ∧ resource.Same view x (resource.receive x) := by
  have hs : step x.conn .receive = some x.conn.receive := guestCall_eq_some.mpr ⟨h.kept, rfl⟩
  have hframe : x.conn.receive = _ := InboundFrame.receive x.conn
  have hlocal : x.conn.receive.localClosed = x.conn.localClosed := by rw [hframe]
  have hsettled : x.conn.receive.closeSettled = x.conn.closeSettled ∧
      x.conn.receive.closeInfo = x.conn.closeInfo ∧ x.conn.receive.socket = x.conn.socket := by
    rw [hframe]
    exact ⟨rfl, rfl, rfl⟩
  obtain ⟨hnext, hclaimed, hclosed, hover⟩ := receive_frame h.unclaimed
  have hunreturned : x.received = none := by
    unfold received
    rw [hnot]
    rfl
  have hwaiters : x.conn.incoming.waiters = [] := by
    rw [h.waiting, hnot]
    split <;> rfl
  have hmade (results : List (Nat × Except Error Message)) (hresults : ∀ result ∈ results,
        result.1 = x.conn.nextId) : (∀ id ∈ some x.conn.nextId, id < x.conn.receive.nextId) ∧
      ∀ result ∈ x.conn.hist.received ++ results, result.1 < x.conn.receive.nextId := by
    rw [hnext]
    refine ⟨fun id hid => ?_, fun result hmem => ?_⟩
    · obtain rfl := Option.some.inj hid
      exact Nat.lt_succ_self _
    · rcases List.mem_append.mp hmem with hold | hnew
      · exact Nat.lt_succ_of_lt (h.made.2 result hold)
      · rw [hresults result hnew]
        exact Nat.lt_succ_self _
  have hclosing (hl : x.conn.receive.localClosed = true) : x.conn.receive.incoming.closed = true :=
    hclosed.trans (h.closing (hlocal.symm.trans hl))
  have hdisposed : x.conn.receive.disposed = false := by
    rw [hframe]
    exact h.kept
  have hended : x.conn.receive.ended = x.conn.ended := by
    unfold State.ended
    rw [hover, hsettled.1, hsettled.2.2]
  have hsame (hdeliverable : (resource.receive x).deliverable = x.deliverable) :
      resource.Same view x (resource.receive x) := by
    refine ⟨hdeliverable, hlocal, hended, ?_⟩
    show (if x.conn.receive.closeSettled = true then some x.conn.receive.closeInfo else none) = _
    rw [hsettled.1, hsettled.2.1]
    rfl
  cases h.receives with
  | returns result hreceived hsameWaiters hdelivers hfailed =>
    have hreturns : (resource.receive x).received = some result := by
      show List.lookup x.conn.nextId x.conn.receive.hist.received = some result
      rw [hreceived, List.lookup_append, h.lookup_next, Option.none_or, List.lookup_cons_self]
    refine ⟨⟨h.reachable.next (a := .receive) hs, hdisposed, hclaimed, ?_, ?_, hclosing, ?_⟩, hsame ?_⟩
    · rw [hreturns]
      exact hsameWaiters.trans hwaiters
    · show _ ∧ ∀ entry ∈ x.conn.receive.hist.received, _
      rw [hreceived]
      exact hmade _ fun entry hmem => by rw [List.mem_singleton.mp hmem]
    · intro err herr
      rcases hfailed err (Option.some.inj (hreturns.symm.trans herr)) with hl | ⟨hend, hempty⟩
      · exact .inl (hlocal.trans hl)
      · exact .inr ⟨hended.trans hend, hempty⟩
    · unfold deliverable
      rw [message_of_none hunreturned]
      show ((resource.receive x).received.bind Except.toOption).toList ++
        (if x.conn.receive.localClosed = true then [] else _) = [] ++ _
      rw [hreturns, hlocal]
      exact hdelivers
  | waits hreceived hwaits hmessages =>
    have hnone : (resource.receive x).received = none := by
      show List.lookup x.conn.nextId x.conn.receive.hist.received = none
      rw [hreceived]
      exact h.lookup_next
    refine ⟨⟨h.reachable.next (a := .receive) hs, hdisposed, hclaimed, ?_, ?_, hclosing, ?_⟩, hsame ?_⟩
    · rw [hnone]
      show x.conn.receive.incoming.waiters = [.receive x.conn.nextId]
      rw [hwaits, hwaiters]
      rfl
    · show _ ∧ ∀ entry ∈ x.conn.receive.hist.received, _
      rw [hreceived]
      have hall := hmade [] (by rintro result ⟨⟩)
      rwa [List.append_nil] at hall
    · intro err herr
      cases hnone.symm.trans herr
    · unfold deliverable queued
      rw [message_of_none hunreturned, message_of_none hnone]
      show [] ++ (if x.conn.receive.localClosed = true then []
        else x.conn.receive.incoming.messages.map QueuedMessage.message) = _
      rw [hlocal, hmessages]

/-- A local close fails the call that waits. -/
theorem localClose_received (s : State) (frame : Option CloseFrame) :
    (s.localClose frame).hist.received = s.hist.received ++ s.incoming.discard.1.results :=
  received_answerAll_eq { s with localClosed := true, incoming := s.incoming.discard.2 } _

/-- A local close. -/
theorem Sound.localClose (h : x.Sound) {code : Option UInt16} {reason : String}
    (hs : step x.conn (.close code reason) = some conn) (hk : conn = x.conn.localClose (closeFrameOf code reason)) :
    ({ x with conn := conn } : Session).Sound ∧ ({ x with conn := conn } : Session).message = x.message ∧
      conn.localClosed = true ∧ conn.ended = x.conn.ended ∧ conn.closeSettled = x.conn.closeSettled ∧
        conn.closeInfo = x.conn.closeInfo := by
  have hreceived : conn.hist.received = x.conn.hist.received ++ x.conn.incoming.discard.1.results := by
    rw [hk]
    exact localClose_received x.conn _
  have hnext : x.conn.nextId ≤ conn.nextId := by
    rw [hk]
    unfold State.localClose State.closeSocket State.armCloseDeadline State.withQueue
    dsimp only
    rw [AnswerFrame.answerAll]
    exact Nat.le_succ _
  have hframe := localClose_frame x.conn (closeFrameOf code reason)
  rw [← hk] at hframe
  have hlocal : conn.localClosed = true := by rw [hframe]
  have hqueue : conn.incoming = x.conn.incoming.discard.2 := by rw [hframe]
  have ho : x.Onward conn := by
    refine ⟨h.reachable.next (a := .close code reason) hs, ?_, ?_, hnext, fun _ => ?_⟩
    · rw [hframe]
      exact h.kept
    · rw [hframe]
      exact h.unclaimed
    · rw [hqueue]
      rfl
  have hended : conn.ended = x.conn.ended := by
    have hready : (x.conn.socket.close.readyState == .closed) = (x.conn.socket.readyState == .closed) := by
      cases x.conn.socket <;> rfl
    rw [hframe]
    show (x.conn.incoming.discard.2.overflowed || x.conn.closeSettled ||
      x.conn.socket.close.readyState == .closed) = x.conn.ended
    rw [hready]
    rfl
  have hrest : conn.localClosed = true ∧ conn.ended = x.conn.ended ∧
      conn.closeSettled = x.conn.closeSettled ∧ conn.closeInfo = x.conn.closeInfo :=
    ⟨hlocal, hended, by rw [hframe], by rw [hframe]⟩
  have hrejects : x.conn.incoming.discard.1 =
      x.conn.incoming.waiters.map fun waiter => (waiter, .error .closed) := rfl
  rw [hrejects] at hreceived
  rcases h.waiters with hwaiters | ⟨id, hreceiving, hunreturned, hwaiters⟩
  · rw [hwaiters] at hreceived
    have hsame : conn.hist.received = x.conn.hist.received := hreceived.trans (List.append_nil _)
    refine ⟨h.of_quiet ho hsame ?_ fun _ _ => .inl hlocal, ?_, hrest⟩
    · rw [hqueue, hwaiters]
      rfl
    · unfold message
      rw [received_of_eq hsame]
  · rw [hwaiters] at hreceived
    refine ⟨h.of_answer ho hreceiving hunreturned hreceived ?_ fun _ _ => .inl hlocal, ?_, hrest⟩
    · rw [hqueue]
      rfl
    · rw [message_of_error (received_of_append hreceiving hunreturned hreceived), message_of_none hunreturned]

/-- `close`, with arguments that it takes. -/
theorem Sound.close (h : x.Sound) {code : Option Nat} {reason : String}
    (hvalid : (Shim.HostCall.close code reason).Valid) :
    (resource.close x code reason).Sound ∧
      (resource.close x code reason).deliverable <+: x.deliverable ∧
      (resource.close x code reason).conn.localClosed = true ∧
      (resource.close x code reason).conn.ended = x.conn.ended ∧
      resource.waitClosed (resource.close x code reason) = resource.waitClosed x := by
  have hok : validateCloseArgs (code.map UInt16.ofNat) reason = .ok () :=
    Shim.validateCloseArgs_of_valid hvalid
  have hs : step x.conn (.close (code.map UInt16.ofNat) reason) =
      some (x.conn.close (code.map UInt16.ofNat) reason).2 := guestCall_eq_some.mpr ⟨h.kept, rfl⟩
  have heq : resource.close x code reason =
      { x with conn := (x.conn.close (code.map UInt16.ofNat) reason).2 } := rfl
  rw [heq]
  rcases close_cases x.conn (code.map UInt16.ofNat) reason with ⟨hno, hk⟩ | ⟨hopen, -, hk⟩
  · rw [hk]
    exact ⟨h, List.prefix_refl _, hno.resolve_right (not_not_intro hok), rfl, rfl⟩
  · obtain ⟨hsound, hmessage, hlocal, hended, hsettled, hinfo⟩ := h.localClose hs hk
    refine ⟨hsound, ?_, hlocal, hended, ?_⟩
    · unfold deliverable
      rw [hmessage, if_pos hlocal]
      exact (List.prefix_append_right_inj _).mpr List.nil_prefix
    · show (if State.closeSettled _ = true then some (State.closeInfo _) else none) = _
      rw [hsettled, hinfo]
      rfl

/-- A connection that `connect` has resolved with. -/
theorem sound_opened (h : resource.opened x) : x.Sound ∧ x.deliverable = [] ∧
    x.conn.localClosed = false ∧ x.conn.ended = false ∧ x.receiving = none := by
  obtain ⟨⟨knobs, now, hconn⟩, -, -, -, hreceiving⟩ := h
  have hreach : system.Reachable x.conn := .of_init ⟨knobs, now, hconn⟩
  have hnone : x.received = none := by
    unfold received
    rw [hreceiving]
    rfl
  refine ⟨⟨hreach, ?_, ?_, ?_, ⟨?_, ?_⟩, ?_, ?_⟩, ?_, ?_, ?_, hreceiving⟩
  · rw [hconn]
    rfl
  · rw [hconn]
    rfl
  · rw [hnone, hreceiving, hconn]
    rfl
  · rw [hreceiving]
    rintro id ⟨⟩
  · rw [hconn]
    rintro result ⟨⟩
  · rw [hconn]
    rintro ⟨⟩
  · rw [hnone]
    rintro err ⟨⟩
  · unfold deliverable queued
    rw [message_of_none hnone, hconn]
    rfl
  · rw [hconn]
    rfl
  · rw [hconn]
    rfl

/-- The promise is done with. -/
theorem Sound.collect (h : x.Sound) {result : Except Error Message} (hresult : x.received = some result) :
    (resource.collect x).Sound := by
  refine ⟨h.reachable, h.kept, h.unclaimed, ?_, ⟨?_, h.made.2⟩, h.closing, ?_⟩
  · show x.conn.incoming.waiters = []
    rw [h.waiting, hresult]
    rfl
  · rintro id ⟨⟩
  · rintro err ⟨⟩

/-- A call fails only when nothing is delivered any more. -/
theorem Sound.drained (h : x.Sound) {err : Error} (herr : x.received = some (.error err)) :
    x.deliverable = [] := by
  unfold deliverable queued
  rw [message_of_error herr]
  rcases h.failed err herr with hlocal | ⟨-, hempty⟩
  · rw [if_pos hlocal]
    rfl
  · rw [hempty]
    split <;> rfl

/-- A move that is not a call of the shim. -/
theorem Sound.move (h : x.Sound) {m : SessionMove} {x' : Session} (hs : resource.move x m = some x') :
    x'.Sound ∧ resource.Keeps view x x' := by
  have hframe {x'' : Session} (hconn : x''.conn = x.conn) (hreceiving : x''.receiving = x.receiving) :
      x''.Sound ∧ resource.Keeps view x x'' := by
    obtain ⟨hsound, hsame, hreceives⟩ := h.of_frame hconn hreceiving
    refine ⟨hsound, ⟨[], ?_, by rintro hne; exact absurd rfl hne⟩, hsame.localClosed, hsame.ended.trans,
      hreceives, fun info hinfo => hsame.waitClosed.trans hinfo⟩
    rw [List.append_nil]
    exact hsame.deliverable
  cases m with
  | conn a =>
    simp only [resource] at hs
    split at hs
    · next ha =>
      obtain ⟨conn, hstep, rfl⟩ := Option.map_eq_some_iff.mp hs
      obtain ⟨hsound, hdeliverable⟩ := h.platform ha hstep
      refine ⟨hsound, ⟨_, hdeliverable, fun hne => ?_⟩, (forward_of_step hstep ha).localClosed,
        ended_of_step hstep ha, rfl, fun info hinfo => ?_⟩
      · by_cases hlocal : x.conn.localClosed = true
        · rw [if_pos hlocal] at hne
          exact absurd rfl hne
        · rw [if_neg hlocal] at hne
          have hopen := Bool.eq_false_iff.mpr hlocal
          cases feeds_of_step hstep ha with
          | quiet hnone | overflows hnone | ends hnone => exact absurd hnone hne
          | arrives message ha' hone =>
            subst ha'
            exact ⟨hopen, h.open_of_accepts hstep hone hopen⟩
      · have hinfo' : (if x.conn.closeSettled = true then some x.conn.closeInfo else none) = some info := hinfo
        split at hinfo'
        · next hsettled =>
          obtain ⟨hstill, hsame⟩ := latched_of_step (deadline_of_reachable h.reachable) hstep hsettled
          show (if conn.closeSettled = true then some conn.closeInfo else none) = some info
          rw [if_pos hstill, hsame]
          exact hinfo'
        · cases hinfo'
    · cases hs
  | buffered amount =>
    obtain rfl := Option.some.inj hs
    exact hframe rfl rfl
  | drainPoll =>
    obtain ⟨message, -, rfl⟩ := Option.map_eq_some_iff.mp hs
    refine hframe ?_ ?_
    · rw [trySend_frame]
    · rw [trySend_frame]

end Session

/-- The JavaScript host is what the shim needs. -/
def resource_lawful : resource.Lawful where
  toView := Session.view
  opened x h := by
    obtain ⟨hsound, hnothing, hlocal, hlive, hreceiving⟩ := Session.sound_opened h
    exact ⟨hsound, hnothing, hlocal, hlive, congrArg Option.isSome hreceiving, rfl⟩
  move x m x' h hs := h.move hs
  send x message h _ := by
    obtain ⟨hsound, hsame, hreceiving⟩ := Session.Sound.trySend h message
    exact ⟨hsound, hsame, hreceiving, rfl⟩
  receive x h _ hnot := by
    have hnone : x.receiving = none := by
      rw [← Option.not_isSome_iff_eq_none, show x.receiving.isSome = false from hnot]
      exact Bool.false_ne_true
    obtain ⟨hsound, hsame⟩ := Session.Sound.receive h hnone
    exact ⟨hsound, hsame, rfl⟩
  collect x result h hresult := ⟨Session.Sound.collect h hresult, rfl, rfl, rfl, rfl⟩
  receivedOk x message h hok := by
    show x.message ++ _ = message :: ([] ++ _)
    rw [Session.message_of_ok hok]
    rfl
  receivedError x err h herr := by
    have hdrained : x.deliverable = [] := Session.Sound.drained h herr
    refine ⟨hdrained, (List.append_eq_nil_iff.mp hdrained).2, ?_⟩
    exact (Session.Sound.failed h err herr).imp_right And.left
  close x code reason h _ hvalid := by
    obtain ⟨hsound, hfirst, hlocal, hended, hwait⟩ := Session.Sound.close h hvalid
    exact ⟨hsound, hfirst, hlocal, hended, rfl, hwait, rfl⟩
  waitClosed x info h hinfo := by
    have hinfo' : (if x.conn.closeSettled = true then some x.conn.closeInfo else none) = some info := hinfo
    split at hinfo'
    · next hsettled => exact ended_iff.mpr (.inr (.inl hsettled))
    · cases hinfo'

end Polymorph.Js
