import PolymorphWebsocket.Host.Backlog
import PolymorphWebsocket.Host.Ending
import PolymorphWebsocket.Host.Receiving
import PolymorphWebsocket.Transition.Traces

/-!
# The wasmtime host: what the guest is handed

From the outcome that brings a message to the reader that hands it out, with everything that may happen
in between: the pump on its own thread, any number of `receive` calls, the stream, a local close.  An
observer writes down which outcomes arrive, which messages the pump queues, who hands out which, and
when the guest claims the stream or closes the connection.

`messages_delivered` says what such a record looks like.  What the guest is handed, with what is queued
for it, are the first data messages of the peer, without a hole; after the claim no `receive` call gets
one, and after a local close nobody does.
-/

namespace Polymorph.Host

open Futures Transition

variable {s s' : State}

/-! ### The way of a message through the connection -/

/-- The data messages of some outcomes. -/
def dataOf (outcomes : List Inbound) : List Message := outcomes.filterMap Inbound.message?

theorem dataOf_append (outcomes more : List Inbound) :
    dataOf (outcomes ++ more) = dataOf outcomes ++ dataOf more :=
  List.filterMap_append

theorem dataOf_cons (outcome : Inbound) (outcomes : List Inbound) :
    dataOf (outcome :: outcomes) = outcome.message?.toList ++ dataOf outcomes := by
  unfold dataOf
  rw [List.filterMap_cons]
  cases outcome.message? <;> rfl

/-- The messages that are on their way to the queue. -/
def State.flight (s : State) : List Message := s.pump.pc.message?.toList ++ dataOf s.inbound

/-- The messages that are on their way from the queue: one with a reader, and those queued. -/
def State.waiting (s : State) : List Message := s.calls.unreleased.toList ++ s.shared.queue.items

/-- The outcomes that an action brings. -/
def Action.arrived : Action → List Inbound
  | .arrive outcomes => outcomes
  | _ => []

/-- The messages that the pump queues with an action. -/
def State.queues (s : State) (a : Action) : List Message := if a = .poll then s.pump.pc.toPush else []

/-- The messages that a reader hands out with an action. -/
def State.hands (s : State) (a : Action) : List Message :=
  if a = .release then s.calls.unreleased.toList else []

/-- A step loses no message and makes none, until the closing handshake begins: from there on nothing
is queued any more. -/
structure Conveys (s : State) (a : Action) (s' : State) : Prop where
  wire : s.pump.wireClosing = true → s'.pump.wireClosing = true
  flight : s'.pump.wireClosing = false → s.queues a ++ s'.flight = s.flight ++ dataOf a.arrived
  waiting : s.hands a ++ s'.waiting = s.waiting ++ s.queues a

namespace Conveys

/-- A step of the pump that queues nothing. -/
theorem of_poll (hqueues : s.pump.pc.toPush = [])
    (hwire : s.pump.wireClosing = true → s'.pump.wireClosing = true)
    (hflight : s'.pump.wireClosing = false → s'.flight = s.flight)
    (hitems : s'.shared.queue.items = s.shared.queue.items) (hcalls : s'.calls = s.calls) :
    Conveys s .poll s' := by
  have hnone : s.queues .poll = [] := hqueues
  have hsame : s'.waiting = s.waiting := by
    unfold State.waiting
    rw [hitems, hcalls]
  refine ⟨hwire, fun hopen => ?_, ?_⟩
  · rw [hnone, hflight hopen]
    exact (List.append_nil _).symm
  · rw [hnone, hsame, List.append_nil]
    rfl

/-- What is no step of the pump leaves the queue alone, unless it is a reader's. -/
theorem of_other {a : Action} (ha : a ≠ .poll ∧ a ≠ .release) (hwire : s'.pump.wireClosing = s.pump.wireClosing)
    (hmessage : s'.pump.pc.message? = s.pump.pc.message?) (hinbound : s'.inbound = s.inbound ++ a.arrived)
    (hwaiting : s'.waiting = s.waiting) : Conveys s a s' := by
  have hqueues : s.queues a = [] := if_neg ha.1
  have hhands : s.hands a = [] := if_neg ha.2
  refine ⟨fun h => hwire.trans h, fun _ => ?_, ?_⟩
  · unfold State.flight
    rw [hqueues, hmessage, hinbound, dataOf_append, List.append_assoc]
    rfl
  · rw [hqueues, hhands, hwaiting, List.append_nil]
    rfl

/-! #### The steps of the pump -/

/-- The handshake begins, if it has not begun before. -/
theorem beginClose_wire (s : State) (frame : Option CloseFrame) (next : Next) :
    (s.beginClose frame next).pump.wireClosing = true := by
  rcases beginClose_cases s frame next with ⟨hwire, h⟩ | ⟨-, h⟩
  · rw [h, PcFrame.goes s (.ok ()) next]
    exact hwire
  · rw [h, PcFrame.boundedWrite (s.closing frame) _ next]
    rfl

/-- A message that is not reserved is the last one that counts. -/
theorem deliver_reserves (s : State) (message : Message)
    (hopen : (s.deliver message).pump.wireClosing = false) :
    s.deliver message = s.setPc (.reserved message) := by
  unfold State.deliver at hopen ⊢
  by_cases hwire : s.pump.wireClosing = true
  · rw [if_pos hwire] at hopen
    exact absurd (hwire.symm.trans hopen) nofun
  · rw [if_neg hwire] at hopen ⊢
    split at hopen
    · next hfits => rw [if_pos hfits]
    · rw [beginClose_wire] at hopen
      cases hopen

/-- A resolved select brings its message to the reservation. -/
theorem onResolved_flight {r : Resolution} (hpc : s.pump.pc = .resolved r)
    (hopen : (s.onResolved r).pump.wireClosing = false) : (s.onResolved r).flight = s.flight := by
  have hinbound : (s.onResolved r).inbound = s.inbound := (onResolved_cmds s r).2
  unfold State.flight
  rw [hinbound, hpc]
  rcases onResolved_cases s r with hpasses | ⟨message, hmessage, -, heq⟩
  · have hnone : (Pc.resolved r).message? = none := by
      cases r with
      | cmd | deadline => rfl
      | read outcome =>
        cases outcome with
        | text data =>
          -- a message that passes the reservation would have closed
          have heq : s.onRead (.text data) = s.setPc (.reserved (.string data)) :=
            deliver_reserves s _ hopen
          have hpc' := hpasses.pc
          rw [State.onResolved, heq] at hpc'
          cases hpc'
        | binary data =>
          have heq : s.onRead (.binary data) = s.setPc (.reserved (.binary data)) :=
            deliver_reserves s _ hopen
          have hpc' := hpasses.pc
          rw [State.onResolved, heq] at hpc'
          cases hpc'
        | close | ping | pong | frame | capacity | connectionClosed | error => rfl
    rw [hpasses.pc, hnone]
  · rw [heq, hmessage]
    rfl

/-- A poll of an arm moves at most the message of an outcome. -/
theorem pollArm {arm : Arm} (hpc : s.pump.pc = .select arm) :
    (s.pollArm arm).flight = s.flight ∧ (s.pollArm arm).shared.queue = s.shared.queue ∧
      (s.pollArm arm).pump.wireClosing = s.pump.wireClosing := by
  unfold State.flight
  rw [hpc]
  cases arm with
  | cmd =>
    unfold State.pollArm
    dsimp only
    split
    · exact ⟨rfl, rfl, rfl⟩
    · split
      · exact ⟨rfl, rfl, rfl⟩
      · split <;> exact ⟨rfl, rfl, rfl⟩
  | read =>
    unfold State.pollArm
    dsimp only
    split
    · next outcome rest hin =>
      rw [hin, dataOf_cons]
      exact ⟨rfl, rfl, rfl⟩
    · next hin => exact ⟨rfl, rfl, rfl⟩
  | deadline =>
    unfold State.pollArm
    dsimp only
    split <;> exact ⟨rfl, rfl, rfl⟩

/-- A point of the finalization holds no message, and leaves the messages alone. -/
theorem finalizeStep {stage : Finalize} (hpc : s.pump.pc = .finalize stage) :
    (s.finalizeStep stage).flight = s.flight ∧
      (s.finalizeStep stage).shared.queue.items = s.shared.queue.items ∧
      (s.finalizeStep stage).pump.wireClosing = s.pump.wireClosing := by
  have hsame (t : State) (hpump : t.pump = s.pump) (hinbound : t.inbound = s.inbound) :
      t.flight = s.flight := by
    unfold State.flight
    rw [hpump, hinbound]
  have hflight (t : State) (hmessage : t.pump.pc.message? = none) (hinbound : t.inbound = s.inbound) :
      t.flight = s.flight := by
    unfold State.flight
    rw [hmessage, hinbound, hpc]
    rfl
  cases stage with
  | drainCmds =>
    unfold State.finalizeStep
    dsimp only
    split
    · exact ⟨hsame _ rfl rfl, rfl, rfl⟩
    · exact ⟨hsame _ rfl rfl, rfl, rfl⟩
    · exact ⟨hflight _ rfl rfl, rfl, rfl⟩
  | closeInfo | endQueue | closeCmds | closing | closed | fire =>
    exact ⟨hflight _ rfl rfl, rfl, rfl⟩

/-- A step of the pump. -/
theorem poll (hlive : s.pump.pc.reserving = true → s.shared.queue.senderLive = true)
    (hwire : s.pump.wireClosing = true → s'.pump.wireClosing = true) (h : s.poll = some s') :
    Conveys s .poll s' := by
  have hcalls : s'.calls = s.calls := by rw [PollFrame.poll h]
  unfold State.poll at h
  split at h
  · next arm hpc =>
    obtain rfl := Option.some.inj h
    obtain ⟨hflight, hqueue, -⟩ := pollArm hpc
    exact of_poll (by rw [hpc]; rfl) hwire (fun _ => hflight) (by rw [hqueue]) hcalls
  · next r hpc =>
    obtain rfl := Option.some.inj h
    refine of_poll (by rw [hpc]; rfl) hwire (onResolved_flight hpc) ?_ hcalls
    rcases onResolved_cases s r with hpasses | ⟨message, -, -, heq⟩
    · rw [hpasses.queue]
    · rw [heq]
      rfl
  · next message hpc =>
    obtain rfl := Option.some.inj h
    refine of_poll (by rw [hpc]; rfl) hwire (fun _ => ?_) rfl rfl
    unfold State.flight
    rw [hpc]
    rfl
  · next message hpc =>
    obtain rfl := Option.some.inj h
    -- the one step that queues a message
    have hqueues : s.queues .poll = [message] := by
      unfold State.queues
      rw [if_pos rfl, hpc]
      rfl
    have hpush := Receiver.push_items_of_live (hlive (by rw [hpc]; rfl)) message
    refine ⟨hwire, fun _ => ?_, ?_⟩
    · unfold State.flight
      rw [hqueues, hpc]
      exact (List.append_nil _).symm
    · rw [hqueues]
      unfold State.waiting
      rw [List.append_assoc, ← hpush]
      rfl
  · cases h
  · next stage hpc =>
    obtain rfl := Option.some.inj h
    obtain ⟨hflight, hitems, -⟩ := finalizeStep hpc
    exact of_poll (by rw [hpc]; rfl) hwire (fun _ => hflight) hitems hcalls
  · cases h

/-- After the resolution of a bounded write the pump has no message. -/
theorem message_write {a : Action} (h : step s a = some s')
    (ha : a = .hand ∨ a = .written ∨ (∃ err, a = .writeFailed err) ∨ a = .writeBound) :
    s'.pump.pc.message? = none := by
  have hgoes (t : State) (result : Except Error Unit) (next : Next) :
      (t.goes result next).pump.pc.message? = none := (Passes.goes t result next).pc
  rcases ha with rfl | rfl | ⟨err, rfl⟩ | rfl
  · simp only [step, State.hand] at h
    split at h
    · obtain rfl := Option.some.inj h
      rfl
    · cases h
  · simp only [step, State.written] at h
    split at h
    · cases h
    · obtain rfl := Option.some.inj h
      exact hgoes _ _ _
    · cases h
  · simp only [step, State.writeFailed] at h
    split at h
    · obtain rfl := Option.some.inj h
      exact hgoes _ _ _
    · cases h
  · simp only [step, State.writeBound] at h
    split at h
    · split at h
      · obtain rfl := Option.some.inj h
        rfl
      · cases h
    · split at h
      · obtain rfl := Option.some.inj h
        exact hgoes _ _ _
      · cases h
    · cases h

/-- A resolution of a bounded write. -/
theorem write {a : Action} (h : step s a = some s')
    (ha : a = .hand ∨ a = .written ∨ (∃ err, a = .writeFailed err) ∨ a = .writeBound) :
    Conveys s a s' := by
  have hframe := WriteFrame.step h ha
  obtain ⟨write, bound, next, hpc⟩ := writing_of_step h ha
  have hother : (a ≠ .poll ∧ a ≠ .release) ∧ a.arrived = [] := by
    rcases ha with rfl | rfl | ⟨err, rfl⟩ | rfl <;> exact ⟨⟨nofun, nofun⟩, rfl⟩
  have hmessage : s'.pump.pc.message? = none := message_write h ha
  refine of_other hother.1 ?_ ?_ ?_ ?_
  · rw [hframe]
  · rw [hmessage, hpc]
    rfl
  · rw [hother.2, List.append_nil, hframe]
  · unfold State.waiting
    rw [hframe]

/-- Everyone else but the readers leaves the queue alone, and only the transport brings outcomes. -/
theorem outer_queue {a : Action} (hm : OuterMove s a s') (ha : a.isReader = false) :
    s'.inbound = s.inbound ++ a.arrived ∧ s'.calls.unreleased = s.calls.unreleased ∧
      s'.shared.queue = s.shared.queue := by
  have hsame : s.inbound = s.inbound ++ [] := (List.append_nil _).symm
  have hclose (code : Option UInt16) (reason : String) :
      (s.callClose code reason).inbound = s.inbound ++ [] ∧
        (s.callClose code reason).calls.unreleased = s.calls.unreleased ∧
        (s.callClose code reason).shared.queue = s.shared.queue := by
    rcases callClose_cases s code reason with ⟨-, hk⟩ | ⟨-, -, hk⟩
    · rw [hk]
      exact ⟨hsame, rfl, rfl⟩
    · rw [hk]
      exact ⟨hsame, rfl, rfl⟩
  cases hm with
  | send message =>
    unfold State.callSend
    dsimp only
    split <;> exact ⟨hsame, rfl, rfl⟩
  | enqueue =>
    unfold State.enqueue
    dsimp only
    split <;> exact ⟨hsame, rfl, rfl⟩
  | close code reason => exact hclose code reason
  | drop => exact hclose none ""
  | enqueueClose =>
    unfold State.enqueueClose
    dsimp only
    split <;> exact ⟨hsame, rfl, rfl⟩
  | dropSenders | tick => exact ⟨hsame, rfl, rfl⟩
  | arrive outcomes => exact ⟨rfl, rfl, rfl⟩
  | reader hreader =>
    rcases hreader with rfl | rfl
    · cases ha
    · cases ha

/-- A move of everyone else. -/
theorem outer {a : Action} (hs : step s a = some s') (hm : OuterMove s a s') : Conveys s a s' := by
  have hpump : s'.pump = s.pump := by rw [OuterFrame.of_move hm]
  have hpoll : a ≠ .poll := by
    rintro rfl
    cases hm with
    | reader ha => rcases ha with ha | ha <;> cases ha
  by_cases hreader : a.isReader = true
  · cases a with
    | take =>
      -- the oldest message changes its place
      simp only [step] at hs
      split at hs
      · next message queue hnone hnext =>
        obtain rfl := Option.some.inj hs
        refine of_other ⟨by rintro ⟨⟩, by rintro ⟨⟩⟩ rfl rfl (List.append_nil _).symm ?_
        unfold State.waiting
        rw [hnone, (Receiver.pollNext_some hnext).1]
        rfl
      · cases hs
    | release =>
      simp only [step] at hs
      split at hs
      · next message hsome =>
        obtain rfl := Option.some.inj hs
        refine ⟨id, fun _ => (List.append_nil _).symm, ?_⟩
        unfold State.hands State.waiting
        rw [hsome]
        exact (List.append_nil _).symm
      · cases hs
    | send | enqueue | close | enqueueClose | drop | dropSenders | poll | hand | written | writeFailed
    | writeBound | arrive | tick => cases hreader
  · have hrelease : a ≠ .release := by
      rintro rfl
      exact hreader rfl
    obtain ⟨hinbound, hcalls, hqueue⟩ := outer_queue hm (Bool.eq_false_iff.mpr hreader)
    refine of_other ⟨hpoll, hrelease⟩ (by rw [hpump]) (by rw [hpump]) hinbound ?_
    unfold State.waiting
    rw [hcalls, hqueue]

end Conveys

/-- A turn of the pump's loop, in a reachable state. -/
theorem turns_of_poll (hr : system.Reachable s) (hleft : s.pump.pc.left = false)
    (h : s.poll = some s') : Turns s s' :=
  .poll hleft (fun hpc => ((closeFrame_sound hr).ended hpc).1) (end_sound hr).reserving h

/-- Until the finalization ends the queue, its sender is there. -/
theorem senderLive_of_stage (h : system.Reachable s) : s.stage ≤ 2 → s.shared.queue.senderLive = true := by
  refine System.Reachable.induction (I := fun s => s.stage ≤ 2 → s.shared.queue.senderLive = true)
    ?_ ?_ h
  · rintro _ ⟨closeTimeout, limit, now, largest, hreaches, -, rfl⟩ -
    rfl
  · intro s a s' hr ih hs hstage
    have hle : s.stage ≤ 2 := Nat.le_trans (stage_step hr hs).1 hstage
    have hlive := ih hle
    cases step_kind hs with
    | poll hp =>
      cases hleft : s.pump.pc.left with
      | false => exact (turns_of_poll hr hleft hp).senderLive.trans hlive
      | true =>
        obtain ⟨stage, hpc, rfl⟩ := finalize_of_left hleft hp
        cases stage with
        | closeInfo => exact hlive
        | endQueue => exact absurd hstage (Nat.not_succ_le_self 2)
        | closeCmds | drainCmds | closing | closed | fire =>
          rw [stage_of_finalize hpc] at hle
          exact absurd hle (by decide)
    | write ha hw =>
      rw [WriteFrame.step hw ha]
      exact hlive
    | outer hm =>
      by_cases hreader : a = .take ∨ a = .release
      · exact (senderLive_of_reader hreader hs).trans hlive
      · have hno : a.isReader = false := by
          cases a with
          | take => exact absurd (.inl rfl) hreader
          | release => exact absurd (.inr rfl) hreader
          | send | enqueue | close | enqueueClose | drop | dropSenders | poll | hand | written
          | writeFailed | writeBound | arrive | tick => rfl
        rw [(Conveys.outer_queue hm hno).2.2]
        exact hlive

/-- What a step does to the messages on their way. -/
theorem conveys_of_step (hr : system.Reachable s) {a : Action} (h : step s a = some s') :
    Conveys s a s' := by
  cases step_kind h with
  | poll hp =>
    refine Conveys.poll (fun hreserving => senderLive_of_stage hr ?_) ?_ hp
    · -- a reservation is made in the loop
      have hzero : s.pump.pc.left = false := by
        cases hpc : s.pump.pc with
        | finalize | done =>
          rw [hpc] at hreserving
          cases hreserving
        | select | resolved | reserved | counted | writing => rfl
      rw [State.stage, Pc.stage_eq_zero.mpr hzero]
      exact Nat.zero_le 2
    · intro hwire
      cases hleft : s.pump.pc.left with
      | false => exact (turns_of_poll hr hleft hp).wire hwire
      | true =>
        obtain ⟨stage, hpc, rfl⟩ := finalize_of_left hleft hp
        rw [(Conveys.finalizeStep hpc).2.2]
        exact hwire
  | write ha hw => exact .write hw ha
  | outer hm => exact .outer h hm

/-! ### The messages that are queued -/

/-- The messages queued so far, and the data messages that have arrived: those queued are the first ones,
and until the closing handshake begins the others are on their way. -/
structure State.Queues (s : State) (queued arrived : List Message) : Prop where
  isPrefix : queued <+: arrived
  flight : s.pump.wireClosing = false → queued ++ s.flight = arrived

theorem State.Queues.step {queued arrived : List Message} (h : s.Queues queued arrived)
    (hr : system.Reachable s) {a : Action} (hs : Host.step s a = some s') :
    s'.Queues (queued ++ s.queues a) (arrived ++ dataOf a.arrived) := by
  have hconveys := conveys_of_step hr hs
  by_cases hwire : s.pump.wireClosing = true
  · -- nothing is queued in the closing handshake
    have hnone : s.queues a = [] := by
      unfold State.queues
      split
      · cases hpc : s.pump.pc with
        | counted message =>
          have hopen := (end_sound hr).reserving (by rw [hpc]; rfl)
          exact absurd (hwire.symm.trans hopen) nofun
        | select | resolved | reserved | writing | finalize | done => rfl
      · rfl
    refine ⟨?_, fun hopen => absurd ((hconveys.wire hwire).symm.trans hopen) nofun⟩
    rw [hnone, List.append_nil]
    exact h.isPrefix.trans (List.prefix_append _ _)
  · have hopen := Bool.eq_false_iff.mpr hwire
    have hflight : s.queues a <+: s.flight := by
      unfold State.queues State.flight
      split
      · cases hpc : s.pump.pc with
        | counted message => exact List.prefix_append _ _
        | select | resolved | reserved | writing | finalize | done => exact List.nil_prefix
      · exact List.nil_prefix
    refine ⟨?_, fun hopen' => ?_⟩
    · rw [← h.flight hopen, List.append_assoc]
      exact (List.prefix_append_right_inj _).mpr (hflight.trans (List.prefix_append _ _))
    · rw [List.append_assoc, hconveys.flight hopen', ← List.append_assoc, h.flight hopen]

/-! ### The record of an observer -/

/-- What an observer of the inbound messages writes down. -/
inductive DeliveryEvent
  | arrives (outcomes : List Inbound)
  | queues (message : Message)
  /-- The guest claims the stream. -/
  | claims
  /-- The guest closes the connection. -/
  | closes
  | hands (holder : Holder) (message : Message)
  deriving DecidableEq, Repr

namespace DeliveryEvent

/-- The outcomes that arrive. -/
def arrived : DeliveryEvent → List Inbound
  | .arrives outcomes => outcomes
  | .queues _ | .claims | .closes | .hands _ _ => []

/-- The message that is queued. -/
def queued? : DeliveryEvent → Option Message
  | .queues message => some message
  | .arrives _ | .claims | .closes | .hands _ _ => none

/-- Who hands out which message. -/
def handed? : DeliveryEvent → Option (Holder × Message)
  | .hands holder message => some (holder, message)
  | .arrives _ | .queues _ | .claims | .closes => none

/-- What may come after an event: after the claim no `receive` call gets a message, and after a local
close nobody does. -/
def Allows : DeliveryEvent → DeliveryEvent → Prop
  | .claims, .hands (.receive _) _ => False
  | .closes, .hands _ _ => False
  | _, _ => True

end DeliveryEvent

/-- The result of a `receive` call that hands a message out. -/
def Holder.results (message : Message) : Holder → List (Nat × Except Error Message)
  | .receive id => [(id, .ok message)]
  | .stream => []

/-- The action closes the connection. -/
def State.closes (s : State) : Action → Bool
  | .close code reason => !s.shared.localClosed && (validateCloseArgs code reason).isOk
  | .drop => !s.shared.localClosed
  | _ => false

namespace Receiving

/-- What an observer writes down of a move. -/
def events (r : Receiving) : ReceivingAction → List DeliveryEvent
  | .conn (.arrive outcomes) => [.arrives outcomes]
  | .conn action =>
    (r.conn.queues action).map .queues ++ if r.conn.closes action then [.closes] else []
  | .receiveViaStream =>
    if r.conn.shared.localClosed || r.streamReceiving then [] else [.claims]
  | .release =>
    match r.lock, r.conn.calls.unreleased with
    | some holder, some message => [.hands holder message]
    | _, _ => []
  | .receive | .pollReceive _ | .cancelReceive _ | .pollStream | .dropStream => []

end Receiving

/-- The connections of the wasmtime host with their readers and an observer. -/
def deliverySystem : System (Receiving × List DeliveryEvent) (ReceivingAction × List DeliveryEvent) :=
  receivingSystem.traced fun r a events => events = r.events a

/-- The outcomes that have arrived. -/
def arrivedOf (events : List DeliveryEvent) : List Inbound := events.flatMap DeliveryEvent.arrived

/-- The messages that have been queued. -/
def queuedOf (events : List DeliveryEvent) : List Message := events.filterMap DeliveryEvent.queued?

/-- The messages that have been handed out, with who did. -/
def handedOf (events : List DeliveryEvent) : List (Holder × Message) :=
  events.filterMap DeliveryEvent.handed?

/-- The results of `receive` calls that are messages. -/
def messagesOf (received : List (Nat × Except Error Message)) : List (Nat × Message) :=
  received.filterMap fun result => result.2.toOption.map fun message => (result.1, message)

/-- The messages that `receive` calls have handed out. -/
def receivedOf (handed : List (Holder × Message)) : List (Nat × Message) :=
  handed.filterMap fun
    | (.receive id, message) => some (id, message)
    | (.stream, _) => none

variable {r r' : Receiving}

/-- What a move of a connection with its readers does to what is received. -/
inductive Delivers (r : Receiving) (a : ReceivingAction) (r' : Receiving) : Prop
  | conn (action : Action) (ha : a = .conn action) (hreader : action.isReader = false)
      (hidle : action.isCall = true → r.conn.calls.unreleased = none)
      (h : step r.conn action = some r'.conn) (hrest : r' = { r with conn := r'.conn })
  | answers (id : Nat) (err : Error) (why : r.Fails err) (hevents : r.events a = [])
      (hidle : r.conn.calls.unreleased = none) (hconn : r'.conn = r.conn)
      (hstream : r'.streamReceiving = r.streamReceiving)
      (hreceived : r'.received = r.received ++ [(id, .error err)])
  | claims (hevents : r.events a = [.claims]) (hidle : r.conn.calls.unreleased = none)
      (hconn : r'.conn = r.conn) (hstream : r'.streamReceiving = true)
      (hreceived : r'.received = r.received)
  | silent (hevents : r.events a = []) (hidle : r.conn.calls.unreleased = none)
      (hconn : r'.conn = r.conn) (hstream : r'.streamReceiving = r.streamReceiving)
      (hreceived : r'.received = r.received)
  | takes (holder : Holder) (hevents : r.events a = []) (hlocal : r.conn.shared.localClosed = false)
      (hside : holder = .stream ↔ r.streamReceiving = true)
      (h : step r.conn .take = some r'.conn) (hlock : r'.lock = some holder)
      (hstream : r'.streamReceiving = r.streamReceiving) (hreceived : r'.received = r.received)
  | hands (holder : Holder) (message : Message) (ha : a = .release) (hlock : r.lock = some holder)
      (hmessage : r.conn.calls.unreleased = some message) (h : step r.conn .release = some r'.conn)
      (hstream : r'.streamReceiving = r.streamReceiving)
      (hreceived : r'.received = r.received ++ holder.results message)

namespace Delivers

variable {a : ReceivingAction}

/-- A poll of a `receive` call. -/
theorem pollReceive {id : Nat} (hidle : r.conn.calls.unreleased = none)
    (h : r.pollReceive id = some r') : Delivers r (.pollReceive id) r' := by
  unfold Receiving.pollReceive at h
  split at h
  · next hclaimed =>
    obtain rfl := Option.some.inj h
    exact .answers id _ (.claimed hclaimed) rfl hidle rfl rfl rfl
  · next hclaimed =>
    split at h
    · next hlocal =>
      obtain rfl := Option.some.inj h
      exact .answers id _ (.localClosed hlocal) rfl hidle rfl rfl rfl
    · next hlocal =>
      have hopen := Bool.eq_false_iff.mpr hlocal
      unfold Receiving.nextInbound at h
      split at h
      · split at h
        · obtain ⟨conn, hstep, rfl⟩ := Option.map_eq_some_iff.mp h
          exact .takes (.receive id) rfl hopen (iff_of_false nofun hclaimed) hstep rfl rfl rfl
        · next hend =>
          obtain rfl := Option.some.inj h
          exact .answers id _ (.ended hopen hend) rfl hidle rfl rfl rfl
        · obtain rfl := Option.some.inj h
          exact .silent rfl hidle rfl rfl rfl
      · obtain rfl := Option.some.inj h
        exact .silent rfl hidle rfl rfl rfl

/-- A poll of the producer of the stream. -/
theorem pollStream (hclaimed : r.streamReceiving = true) (hidle : r.conn.calls.unreleased = none)
    (h : r.pollStream = some r') : Delivers r .pollStream r' := by
  unfold Receiving.pollStream at h
  split at h
  · obtain rfl := Option.some.inj h
    exact .silent rfl hidle rfl rfl rfl
  · next hlocal =>
    split at h
    · split at h
      · obtain ⟨conn, hstep, rfl⟩ := Option.map_eq_some_iff.mp h
        exact .takes .stream rfl (Bool.eq_false_iff.mpr hlocal) (iff_of_true rfl hclaimed) hstep rfl
          rfl rfl
      · obtain rfl := Option.some.inj h
        exact .silent rfl hidle rfl rfl rfl
      · obtain rfl := Option.some.inj h
        exact .silent rfl hidle rfl rfl rfl
    · obtain rfl := Option.some.inj h
      exact .silent rfl hidle rfl rfl rfl

/-- Every move is one of these. -/
theorem of_step (hlocks : r.LockSound) (h : receivingStep r a = some r') : Delivers r a r' := by
  cases a with
  | conn action =>
    simp only [receivingStep] at h
    split at h
    · cases h
    · next hreader =>
      have hno := Bool.eq_false_iff.mpr hreader
      split at h
      · obtain ⟨hidle, h⟩ := turn_eq_some.mp h
        obtain ⟨conn, hstep, rfl⟩ := Option.map_eq_some_iff.mp h
        exact .conn action rfl hno (fun _ => hidle) hstep rfl
      · next hcall =>
        obtain ⟨conn, hstep, rfl⟩ := Option.map_eq_some_iff.mp h
        exact .conn action rfl hno (fun hc => absurd hc hcall) hstep rfl
  | receive =>
    obtain ⟨hidle, -, rfl⟩ := call_eq_some.mp h
    unfold Receiving.callReceive
    dsimp only
    split
    · next hlocal => exact .answers _ _ (.localClosed hlocal) rfl hidle rfl rfl rfl
    · split
      · next hclaimed => exact .answers _ _ (.claimed hclaimed) rfl hidle rfl rfl rfl
      · exact .silent rfl hidle rfl rfl rfl
  | receiveViaStream =>
    obtain ⟨hidle, -, rfl⟩ := call_eq_some.mp h
    unfold Receiving.receiveViaStream
    by_cases hlocal : r.conn.shared.localClosed = true
    · rw [if_pos hlocal]
      exact .silent (by rw [Receiving.events, hlocal]; rfl) hidle rfl rfl rfl
    · rw [if_neg hlocal]
      have hopen := Bool.eq_false_iff.mpr hlocal
      by_cases hclaimed : r.streamReceiving = true
      · rw [if_pos hclaimed]
        exact .silent (by rw [Receiving.events, hclaimed, Bool.or_true]; rfl) hidle rfl rfl rfl
      · rw [if_neg hclaimed]
        have hfree := Bool.eq_false_iff.mpr hclaimed
        exact .claims (by rw [Receiving.events, hopen, hfree]; rfl) hidle rfl rfl rfl
  | pollReceive id =>
    obtain ⟨hidle, h⟩ := turn_eq_some.mp h
    split at h
    · exact .pollReceive hidle h
    · cases h
  | cancelReceive id =>
    obtain ⟨hidle, h⟩ := turn_eq_some.mp h
    split at h
    · obtain rfl := Option.some.inj h
      exact .silent rfl hidle rfl rfl rfl
    · cases h
  | pollStream =>
    obtain ⟨hidle, h⟩ := turn_eq_some.mp h
    split at h
    · next hproducing => exact .pollStream (hlocks.claimed hproducing) hidle h
    · cases h
  | dropStream =>
    obtain ⟨hidle, h⟩ := turn_eq_some.mp h
    split at h
    · obtain rfl := Option.some.inj h
      exact .silent rfl hidle rfl rfl rfl
    · cases h
  | release =>
    simp only [receivingStep, Receiving.release] at h
    split at h
    · next id message hlock hmessage =>
      obtain ⟨conn, hstep, rfl⟩ := Option.map_eq_some_iff.mp h
      exact .hands (.receive id) message rfl hlock hmessage hstep rfl rfl
    · next message hlock hmessage =>
      obtain ⟨conn, hstep, rfl⟩ := Option.map_eq_some_iff.mp h
      exact .hands .stream message rfl hlock hmessage hstep rfl (List.append_nil _).symm
    · cases h

end Delivers

/-! ### What a record looks like -/

/-- The queue has ended and nothing of it is left. -/
def State.Exhausted (s : State) : Prop := s.waiting = [] ∧ 3 ≤ s.stage

/-- Why a `receive` call has failed: the stream is claimed, the connection was closed locally, or all
that was queued has been handed out. -/
def Receiving.Explains (r : Receiving) (err : Error) : Prop :=
  (err = .receivingViaStream ∧ r.streamReceiving = true) ∨
  (err = .closed ∧ r.conn.shared.localClosed = true) ∨
  (err = r.endError ∧ r.conn.Exhausted)

/-- The connection and its record. -/
structure Receiving.Delivered (r : Receiving) (events : List DeliveryEvent) : Prop where
  queues : r.conn.Queues (queuedOf events) (dataOf (arrivedOf events))
  waiting : (handedOf events).map Prod.snd ++ r.conn.waiting = queuedOf events
  claims : .claims ∈ events ↔ r.streamReceiving = true
  closes : .closes ∈ events ↔ r.conn.shared.localClosed = true
  order : events.Pairwise DeliveryEvent.Allows
  /-- A reader that has taken a message may still hand it out. -/
  taken : r.conn.calls.unreleased.isSome = true → r.conn.shared.localClosed = false ∧
    ∃ holder, r.lock = some holder ∧ (holder = .stream ↔ r.streamReceiving = true)
  stream : ∀ message, .hands .stream message ∈ events → .claims ∈ events
  received : messagesOf r.received = receivedOf (handedOf events)
  failed : ∀ id err, (id, .error err) ∈ r.received → r.Explains err

/-- Whatever is no message for the guest may come at any time. -/
theorem DeliveryEvent.allows_of_handed {e e' : DeliveryEvent} (h : e'.handed? = none) : e.Allows e' := by
  cases e' with
  | hands holder message => cases h
  | arrives | queues | claims | closes => cases e <;> trivial

/-- The record of a move that hands nothing out. -/
theorem pairwise_append_of_handed {events more : List DeliveryEvent}
    (h : events.Pairwise DeliveryEvent.Allows) (hmore : handedOf more = []) :
    (events ++ more).Pairwise DeliveryEvent.Allows := by
  have hnone (e : DeliveryEvent) (he : e ∈ more) : e.handed? = none :=
    List.filterMap_eq_nil_iff.mp hmore e he
  refine List.pairwise_append.mpr ⟨h, ?_, fun e _ e' he' => DeliveryEvent.allows_of_handed (hnone e' he')⟩
  exact List.pairwise_of_forall_mem_list fun e _ e' he' => DeliveryEvent.allows_of_handed (hnone e' he')

/-- A local close is made by an action that closes. -/
theorem localClosed_of_step {a : Action} (h : step s a = some s') :
    s'.shared.localClosed = (s.shared.localClosed || s.closes a) := by
  have hclose (code : Option UInt16) (reason : String) :
      (s.callClose code reason).shared.localClosed =
        (s.shared.localClosed || (!s.shared.localClosed && (validateCloseArgs code reason).isOk)) := by
    rcases callClose_cases s code reason with ⟨hrefused, hk⟩ | ⟨hopen, hvalid, hk⟩
    · rw [hk]
      rcases hrefused with hlocal | hinvalid
      · rw [hlocal]
        rfl
      · cases hv : validateCloseArgs code reason with
        | ok u => exact absurd hv hinvalid
        | error err => simp [Except.isOk, Except.toBool]
    · rw [hk, hopen, hvalid]
      rfl
  have hsame (hframe : s'.shared.localClosed = s.shared.localClosed) (hno : s.closes a = false) :
      s'.shared.localClosed = (s.shared.localClosed || s.closes a) := by
    rw [hframe, hno, Bool.or_false]
  cases step_kind h with
  | poll hp => exact hsame (by rw [PollFrame.poll hp]) rfl
  | write ha hw =>
    refine hsame (by rw [WriteFrame.step hw ha]) ?_
    rcases ha with rfl | rfl | ⟨err, rfl⟩ | rfl <;> rfl
  | outer hm =>
    cases hm with
    | close code reason => exact hclose code reason
    | drop =>
      have hvalid : (validateCloseArgs none "").isOk = true := rfl
      have hdrop := hclose none ""
      rw [hvalid, Bool.and_true] at hdrop
      exact hdrop
    | send message =>
      refine hsame ?_ rfl
      unfold State.callSend
      dsimp only
      split <;> rfl
    | enqueue =>
      refine hsame ?_ rfl
      unfold State.enqueue
      dsimp only
      split <;> rfl
    | enqueueClose =>
      refine hsame ?_ rfl
      unfold State.enqueueClose
      dsimp only
      split <;> rfl
    | dropSenders | arrive | tick => exact hsame rfl rfl
    | reader ha =>
      refine hsame rfl ?_
      rcases ha with rfl | rfl <;> rfl

/-- Only a reader takes a message or releases it. -/
theorem unreleased_of_step {a : Action} (h : step s a = some s') (ha : a.isReader = false) :
    s'.calls.unreleased = s.calls.unreleased := by
  cases step_kind h with
  | poll hp => rw [PollFrame.poll hp]
  | write hw h' => rw [WriteFrame.step h' hw]
  | outer hm => exact (Conveys.outer_queue hm ha).2.1

/-- From the finalization on no overflow is latched. -/
theorem overflowed_of_stage {a : Action} (h : step s a = some s') (hstage : 1 ≤ s.stage) :
    s'.shared.budget.overflowed = s.shared.budget.overflowed := by
  cases step_kind h with
  | poll hp =>
    have hleft : s.pump.pc.left = true := by
      by_contra hno
      have hzero := Pc.stage_eq_zero.mpr (Bool.eq_false_iff.mpr hno)
      rw [State.stage, hzero] at hstage
      exact absurd hstage (by decide)
    obtain ⟨stage, hpc, rfl⟩ := finalize_of_left hleft hp
    cases stage with
    | drainCmds =>
      unfold State.finalizeStep
      dsimp only
      split <;> rfl
    | closeInfo | endQueue | closeCmds | closing | closed | fire => rfl
  | write ha hw => rw [WriteFrame.step hw ha]
  | outer hm => rw [OuterFrame.of_move hm]

/-- What is exhausted stays so. -/
theorem State.Exhausted.step (h : s.Exhausted) (hr : system.Reachable s) {a : Action}
    (hs : Host.step s a = some s') : s'.Exhausted := by
  obtain ⟨hnil, hstage⟩ := h
  refine ⟨?_, Nat.le_trans hstage (stage_step hr hs).1⟩
  have hnone : s.queues a = [] := by
    unfold State.queues
    split
    · cases hpc : s.pump.pc with
      | counted message =>
        rw [State.stage, hpc] at hstage
        exact absurd hstage (Nat.not_succ_le_zero 2)
      | select | resolved | reserved | writing | finalize | done => rfl
    · rfl
  have hwaiting := (conveys_of_step hr hs).waiting
  rw [hnil, hnone, List.append_nil] at hwaiting
  exact (List.append_eq_nil_iff.mp hwaiting).2

/-- The end of the queue is found when all that was queued has been taken. -/
theorem exhausted_of_end (hr : system.Reachable s) (hidle : s.calls.unreleased = none)
    (hend : s.shared.queue.pollNext.1 = .ready none) : s.Exhausted := by
  obtain ⟨hitems, hlive, -⟩ := Receiver.pollNext_none (Prod.ext hend rfl)
  refine ⟨?_, ?_⟩
  · unfold State.waiting
    rw [hidle, hitems]
    rfl
  · by_contra hlt
    have hsender := senderLive_of_stage hr (by omega)
    exact absurd (hlive.symm.trans hsender) nofun

/-- A failure stays explained. -/
theorem Receiving.Explains.mono {err : Error} (h : r.Explains err)
    (hstream : r.streamReceiving = true → r'.streamReceiving = true)
    (hlocal : r.conn.shared.localClosed = true → r'.conn.shared.localClosed = true)
    (hend : r.conn.Exhausted → r'.conn.Exhausted ∧
      r'.conn.shared.budget.overflowed = r.conn.shared.budget.overflowed) : r'.Explains err := by
  rcases h with ⟨herr, hclaimed⟩ | ⟨herr, hclosed⟩ | ⟨herr, hexhausted⟩
  · exact .inl ⟨herr, hstream hclaimed⟩
  · exact .inr (.inl ⟨herr, hlocal hclosed⟩)
  · obtain ⟨hexhausted', hoverflowed⟩ := hend hexhausted
    refine .inr (.inr ⟨?_, hexhausted'⟩)
    rw [herr, Receiving.endError, Receiving.endError, hoverflowed]

/-- A failure is explained when it happens. -/
theorem Receiving.Fails.explains {err : Error} (h : r.Fails err) (hr : system.Reachable r.conn)
    (hidle : r.conn.calls.unreleased = none) : r.Explains err := by
  cases h with
  | localClosed hclosed => exact .inr (.inl ⟨rfl, hclosed⟩)
  | claimed hclaimed => exact .inl ⟨rfl, hclaimed⟩
  | ended _ hend => exact .inr (.inr ⟨rfl, exhausted_of_end hr hidle hend⟩)

/-- What an observer writes down of a move of the connection. -/
theorem events_conn (r : Receiving) {action : Action} (hreader : action.isReader = false) :
    queuedOf (r.events (.conn action)) = r.conn.queues action ∧
      arrivedOf (r.events (.conn action)) = action.arrived ∧
      handedOf (r.events (.conn action)) = [] ∧ .claims ∉ r.events (.conn action) ∧
      (.closes ∈ r.events (.conn action) ↔ r.conn.closes action = true) := by
  have hqueues (messages : List Message) : queuedOf (messages.map .queues) = messages ∧
      arrivedOf (messages.map .queues) = [] ∧ handedOf (messages.map .queues) = [] ∧
      .claims ∉ messages.map DeliveryEvent.queues ∧ .closes ∉ messages.map DeliveryEvent.queues := by
    induction messages with
    | nil => simp [queuedOf, arrivedOf, handedOf]
    | cons message messages ih =>
      obtain ⟨hqueued, harrived, hhanded, -, -⟩ := ih
      exact ⟨congrArg (message :: ·) hqueued, harrived, hhanded, by simp, by simp⟩
  have hother (harrived : action.arrived = [])
      (hevents : r.events (.conn action) =
        (r.conn.queues action).map .queues ++ if r.conn.closes action then [.closes] else []) :
      queuedOf (r.events (.conn action)) = r.conn.queues action ∧
        arrivedOf (r.events (.conn action)) = action.arrived ∧
        handedOf (r.events (.conn action)) = [] ∧ .claims ∉ r.events (.conn action) ∧
        (.closes ∈ r.events (.conn action) ↔ r.conn.closes action = true) := by
    obtain ⟨hqueued, hnone, hhanded, hclaims, hcloses⟩ := hqueues (r.conn.queues action)
    rw [hevents, harrived]
    unfold queuedOf arrivedOf handedOf at *
    rw [List.filterMap_append, List.flatMap_append, List.filterMap_append, hqueued, hnone, hhanded]
    cases r.conn.closes action with
    | false => simp [hclaims, hcloses]
    | true => simp [hclaims, DeliveryEvent.queued?, DeliveryEvent.arrived, DeliveryEvent.handed?]
  cases action with
  | arrive outcomes => simp [Receiving.events, queuedOf, arrivedOf, handedOf, State.queues, State.closes,
      DeliveryEvent.queued?, DeliveryEvent.arrived, DeliveryEvent.handed?, Action.arrived]
  | take | release => cases hreader
  | send | enqueue | close | enqueueClose | drop | dropSenders | poll | hand | written | writeFailed
  | writeBound | tick => exact hother rfl rfl

namespace Receiving.Delivered

variable {events : List DeliveryEvent}

/-- A move that changes nothing of the connection and shows nothing. -/
theorem quiet (h : r.Delivered events) (hidle : r.conn.calls.unreleased = none)
    (hconn : r'.conn = r.conn) (hstream : r'.streamReceiving = r.streamReceiving)
    (hreceived : messagesOf r'.received = messagesOf r.received)
    (hfailed : ∀ id err, (id, .error err) ∈ r'.received →
      (id, .error err) ∈ r.received ∨ r.Explains err) : r'.Delivered (events ++ []) := by
  have hmono (err : Error) (herr : r.Explains err) : r'.Explains err := by
    refine herr.mono (fun hs => hstream.trans hs) (fun hl => ?_) fun he => ?_
    · rw [hconn]
      exact hl
    · rw [hconn]
      exact ⟨he, rfl⟩
  rw [List.append_nil]
  refine ⟨?_, ?_, ?_, ?_, h.order, ?_, h.stream, hreceived.trans h.received, ?_⟩
  · rw [hconn]
    exact h.queues
  · rw [hconn]
    exact h.waiting
  · rw [hstream]
    exact h.claims
  · rw [hconn]
    exact h.closes
  · rw [hconn, hidle]
    exact fun hs => absurd hs nofun
  · intro id err hmem
    rcases hfailed id err hmem with hold | hnew
    · exact hmono err (h.failed id err hold)
    · exact hmono err hnew

/-- A move of the connection beside its readers. -/
theorem conn (h : r.Delivered events) (hr : system.Reachable r.conn) {action : Action}
    (hreader : action.isReader = false)
    (hidle : action.isCall = true → r.conn.calls.unreleased = none)
    (hs : step r.conn action = some r'.conn) (hrest : r' = { r with conn := r'.conn }) :
    r'.Delivered (events ++ r.events (.conn action)) := by
  obtain ⟨hqueued, harrived, hhanded, hclaims, hcloses⟩ := events_conn r hreader
  have hclosed := localClosed_of_step hs
  have hstream : r'.streamReceiving = r.streamReceiving := by rw [hrest]
  have hlock : r'.lock = r.lock := by rw [hrest]
  have hreceived : r'.received = r.received := by rw [hrest]
  have hhands : r.conn.hands action = [] := by
    unfold State.hands
    split
    · next heq =>
      rw [heq] at hreader
      cases hreader
    · rfl
  refine ⟨?_, ?_, ?_, ?_, pairwise_append_of_handed h.order hhanded, ?_, ?_, ?_, ?_⟩
  · have hstep := h.queues.step hr hs
    unfold queuedOf arrivedOf at *
    rwa [List.filterMap_append, List.flatMap_append, hqueued, harrived, dataOf_append]
  · have hwaiting := (conveys_of_step hr hs).waiting
    rw [hhands, List.nil_append] at hwaiting
    have hold := h.waiting
    unfold queuedOf handedOf at *
    rw [List.filterMap_append, List.filterMap_append, hhanded, hqueued, List.append_nil, hwaiting,
      ← List.append_assoc, hold]
  · rw [List.mem_append, hstream, h.claims]
    exact or_iff_left hclaims
  · rw [List.mem_append, h.closes, hcloses, hclosed, Bool.or_eq_true]
  · rw [unreleased_of_step hs hreader, hlock, hstream, hclosed]
    intro hsome
    obtain ⟨hlocal, hholder⟩ := h.taken hsome
    have hno : r.conn.closes action = false := by
      -- the guest makes its calls between two polls of its readers
      by_contra hcl
      have hcall : action.isCall = true := by
        cases action with
        | close | drop => rfl
        | send | enqueue | enqueueClose | dropSenders | take | release | poll | hand | written
        | writeFailed | writeBound | arrive | tick => exact absurd rfl hcl
      rw [hidle hcall] at hsome
      cases hsome
    rw [hlocal, hno]
    exact ⟨rfl, hholder⟩
  · intro message hmem
    rcases List.mem_append.mp hmem with hold | hnew
    · exact List.mem_append_left _ (h.stream message hold)
    · have hnone := List.filterMap_eq_nil_iff.mp hhanded _ hnew
      cases hnone
  · unfold handedOf at *
    rw [List.filterMap_append, hhanded, List.append_nil, hreceived]
    exact h.received
  · intro id err hmem
    rw [hreceived] at hmem
    refine (h.failed id err hmem).mono (fun hs' => hstream.trans hs') (fun hl => ?_) fun he => ?_
    · rw [hclosed, hl]
      rfl
    · exact ⟨he.step hr hs, overflowed_of_stage hs (by have := he.2; omega)⟩

/-- The guest claims the stream. -/
theorem claim (h : r.Delivered events) (hidle : r.conn.calls.unreleased = none)
    (hconn : r'.conn = r.conn) (hstream : r'.streamReceiving = true)
    (hreceived : r'.received = r.received) : r'.Delivered (events ++ [.claims]) := by
  have hsame : queuedOf (events ++ [.claims]) = queuedOf events ∧
      arrivedOf (events ++ [.claims]) = arrivedOf events ∧
      handedOf (events ++ [.claims]) = handedOf events := by
    unfold queuedOf arrivedOf handedOf
    rw [List.filterMap_append, List.flatMap_append, List.filterMap_append]
    exact ⟨List.append_nil _, List.append_nil _, List.append_nil _⟩
  obtain ⟨hqueued, harrived, hhanded⟩ := hsame
  refine ⟨?_, ?_, ?_, ?_, pairwise_append_of_handed h.order rfl, ?_, ?_, ?_, ?_⟩
  · rw [hconn, hqueued, harrived]
    exact h.queues
  · rw [hconn, hqueued, hhanded]
    exact h.waiting
  · exact iff_of_true (List.mem_append_right _ List.mem_cons_self) hstream
  · rw [hconn, ← h.closes]
    simp
  · rw [hconn, hidle]
    exact fun hs => absurd hs nofun
  · intro message _
    exact List.mem_append_right _ List.mem_cons_self
  · rw [hreceived, hhanded]
    exact h.received
  · intro id err hmem
    rw [hreceived] at hmem
    refine (h.failed id err hmem).mono (fun _ => hstream) (fun hl => ?_) fun he => ?_
    · rw [hconn]
      exact hl
    · rw [hconn]
      exact ⟨he, rfl⟩

/-- A reader takes a message. -/
theorem take (h : r.Delivered events) (hr : system.Reachable r.conn) {holder : Holder}
    (hlocal : r.conn.shared.localClosed = false)
    (hside : holder = .stream ↔ r.streamReceiving = true) (hs : step r.conn .take = some r'.conn)
    (hlock : r'.lock = some holder) (hstream : r'.streamReceiving = r.streamReceiving)
    (hreceived : r'.received = r.received) : r'.Delivered (events ++ []) := by
  have hclosed : r'.conn.shared.localClosed = r.conn.shared.localClosed := by
    rw [localClosed_of_step hs]
    exact Bool.or_false _
  rw [List.append_nil]
  refine ⟨?_, ?_, ?_, ?_, h.order, ?_, h.stream, ?_, ?_⟩
  · have hstep := h.queues.step hr hs
    rwa [show r.conn.queues .take = [] from rfl, show dataOf Action.take.arrived = [] from rfl,
      List.append_nil, List.append_nil] at hstep
  · have hwaiting := (conveys_of_step hr hs).waiting
    rw [show r.conn.queues .take = [] from rfl, List.append_nil] at hwaiting
    rw [show r'.conn.waiting = r.conn.waiting from hwaiting]
    exact h.waiting
  · rw [hstream]
    exact h.claims
  · rw [hclosed]
    exact h.closes
  · intro _
    refine ⟨hclosed.trans hlocal, holder, hlock, ?_⟩
    rw [hstream]
    exact hside
  · rw [hreceived]
    exact h.received
  · intro id err hmem
    rw [hreceived] at hmem
    refine (h.failed id err hmem).mono (fun hs' => hstream.trans hs') (fun hl => ?_) fun he => ?_
    · exact hclosed.trans hl
    · exact ⟨he.step hr hs, overflowed_of_stage hs (by have := he.2; omega)⟩

/-- A reader hands its message out. -/
theorem hand (h : r.Delivered events) (hr : system.Reachable r.conn) {holder : Holder}
    {message : Message} (hlock : r.lock = some holder)
    (hmessage : r.conn.calls.unreleased = some message)
    (hs : step r.conn .release = some r'.conn) (hstream : r'.streamReceiving = r.streamReceiving)
    (hreceived : r'.received = r.received ++ holder.results message) :
    r'.Delivered (events ++ [.hands holder message]) := by
  obtain ⟨hlocal, holder', hlock', hside⟩ := h.taken (by rw [hmessage]; rfl)
  obtain rfl : holder = holder' := Option.some.inj (hlock.symm.trans hlock')
  have hclosed : r'.conn.shared.localClosed = r.conn.shared.localClosed := by
    rw [localClosed_of_step hs]
    exact Bool.or_false _
  have hmore : queuedOf (events ++ [.hands holder message]) = queuedOf events ∧
      arrivedOf (events ++ [.hands holder message]) = arrivedOf events ∧
      handedOf (events ++ [.hands holder message]) = handedOf events ++ [(holder, message)] := by
    unfold queuedOf arrivedOf handedOf
    rw [List.filterMap_append, List.flatMap_append, List.filterMap_append]
    exact ⟨List.append_nil _, List.append_nil _, rfl⟩
  obtain ⟨hqueued, harrived, hhanded⟩ := hmore
  refine ⟨?_, ?_, ?_, ?_, ?_, ?_, ?_, ?_, ?_⟩
  · have hstep := h.queues.step hr hs
    rw [show r.conn.queues .release = [] from rfl, show dataOf Action.release.arrived = [] from rfl,
      List.append_nil, List.append_nil] at hstep
    rwa [hqueued, harrived]
  · have hwaiting := (conveys_of_step hr hs).waiting
    have hhands : r.conn.hands .release = [message] := by
      unfold State.hands
      rw [if_pos rfl, hmessage]
      rfl
    rw [hhands, show r.conn.queues .release = [] from rfl, List.append_nil] at hwaiting
    rw [hhanded, hqueued, List.map_append, List.append_assoc]
    exact (congrArg _ hwaiting).trans h.waiting
  · rw [hstream, ← h.claims]
    simp
  · rw [hclosed, ← h.closes]
    simp
  · refine List.pairwise_append.mpr ⟨h.order, List.pairwise_singleton _ _, fun e he e' he' => ?_⟩
    obtain rfl := List.mem_singleton.mp he'
    cases e with
    | claims =>
      -- once the stream is claimed its producer holds the lock
      rw [hside.mpr (h.claims.mp he)]
      trivial
    | closes => exact absurd (hlocal.symm.trans (h.closes.mp he)) nofun
    | arrives | queues | hands => trivial
  · intro hsome
    have hreleased : r'.conn.calls.unreleased = none := by
      simp only [step, hmessage] at hs
      rw [← Option.some.inj hs]
      rfl
    rw [hreleased] at hsome
    cases hsome
  · intro m hmem
    rcases List.mem_append.mp hmem with hold | hnew
    · exact List.mem_append_left _ (h.stream m hold)
    · cases List.mem_singleton.mp hnew
      exact List.mem_append_left _ (h.claims.mpr (hside.mp rfl))
  · rw [hreceived, hhanded]
    unfold messagesOf receivedOf
    rw [List.filterMap_append, List.filterMap_append]
    refine congrArg₂ _ h.received ?_
    cases holder <;> rfl
  · intro id err hmem
    rw [hreceived] at hmem
    have hold : (id, .error err) ∈ r.received := by
      rcases List.mem_append.mp hmem with hold | hnew
      · exact hold
      · cases holder with
        | receive id' => cases List.mem_singleton.mp hnew
        | stream => cases hnew
    refine (h.failed id err hold).mono (fun hs' => hstream.trans hs') (fun hl => ?_) fun he => ?_
    · exact hclosed.trans hl
    · exact ⟨he.step hr hs, overflowed_of_stage hs (by have := he.2; omega)⟩

/-- Every move keeps the record as it should be. -/
theorem step {a : ReceivingAction} (h : r.Delivered events) (hr : receivingSystem.Reachable r)
    (hs : receivingStep r a = some r') : r'.Delivered (events ++ r.events a) := by
  have hconn := conn_reachable hr
  cases Delivers.of_step (lock_sound hr) hs with
  | conn action ha hreader hidle hs' hrest =>
    rw [ha]
    exact h.conn hconn hreader hidle hs' hrest
  | answers id err why hevents hidle hsame hstream hreceived =>
    rw [hevents]
    refine h.quiet hidle hsame hstream ?_ fun id' err' hmem => ?_
    · rw [hreceived, messagesOf, List.filterMap_append]
      exact List.append_nil _
    · rw [hreceived] at hmem
      rcases List.mem_append.mp hmem with hold | hnew
      · exact .inl hold
      · cases List.mem_singleton.mp hnew
        exact .inr (why.explains hconn hidle)
  | claims hevents hidle hsame hstream hreceived =>
    rw [hevents]
    exact h.claim hidle hsame hstream hreceived
  | silent hevents hidle hsame hstream hreceived =>
    rw [hevents]
    refine h.quiet hidle hsame hstream (by rw [hreceived]) fun id err hmem => .inl ?_
    rwa [hreceived] at hmem
  | takes holder hevents hlocal hside hs' hlock hstream hreceived =>
    rw [hevents]
    exact h.take hconn hlocal hside hs' hlock hstream hreceived
  | hands holder message ha hlock hmessage hs' hstream hreceived =>
    have hevents : r.events a = [.hands holder message] := by
      rw [ha, Receiving.events, hlock, hmessage]
    rw [hevents]
    exact h.hand hconn hlock hmessage hs' hstream hreceived

end Receiving.Delivered

/-- The record is as it should be, in every run. -/
theorem delivered_of_run {r : Receiving} {events : List DeliveryEvent}
    (h : deliverySystem.Reachable (r, events)) :
    receivingSystem.Reachable r ∧ r.Delivered events := by
  have hkeeps := System.Reachable.traced_induction (I := fun r events => Receiving.Delivered r events)
    ?_ ?_ h
  · exact ⟨hkeeps.1.reachable, hkeeps.2⟩
  · rintro r ⟨⟨closeTimeout, limit, now, largest, hreaches, -, hconn⟩, hstream, -, -, -, hreceived⟩
    refine ⟨⟨List.nil_prefix, fun _ => ?_⟩, ?_, ?_, ?_, .nil, ?_, nofun, ?_, ?_⟩
    · rw [hconn]
      rfl
    · rw [hconn]
      rfl
    · rw [hstream]
      exact iff_of_false nofun nofun
    · rw [hconn]
      exact iff_of_false nofun nofun
    · rw [hconn]
      exact nofun
    · rw [hreceived]
      rfl
    · rw [hreceived]
      exact nofun
  · rintro r events a new r' hr hi rfl hs
    exact hi.step hr.reachable hs

/-- In every interleaving of the pump, the readers and the guest's calls: what has been handed out, what a
reader has taken and what is queued are, in order and each once, what the pump has queued, and that are
the first data messages of the peer; before the closing handshake all the others are on their way.
After the claim of the stream no `receive` call gets a message, before it the stream hands out none, and
after a local close nobody gets one.  A `receive` call fails because of the claim, of a local close, or
when everything queued has been handed out. -/
theorem messages_delivered {r : Receiving} {events : List DeliveryEvent}
    (h : deliverySystem.Reachable (r, events)) :
    (handedOf events).map Prod.snd ++ r.conn.waiting = queuedOf events ∧
      queuedOf events <+: dataOf (arrivedOf events) ∧
      (r.conn.pump.wireClosing = false →
        queuedOf events ++ r.conn.flight = dataOf (arrivedOf events)) ∧
      events.Pairwise DeliveryEvent.Allows ∧
      (∀ message, .hands .stream message ∈ events → .claims ∈ events) ∧
      messagesOf r.received = receivedOf (handedOf events) ∧
      ∀ id err, (id, .error err) ∈ r.received → r.Explains err := by
  obtain ⟨-, hd⟩ := delivered_of_run h
  exact ⟨hd.waiting, hd.queues.isPrefix, hd.queues.flight, hd.order, hd.stream, hd.received, hd.failed⟩

/-- Two messages: a `receive` call gets the first one, and the stream, claimed in between, the second. -/
theorem messages_delivered_claimed :
    ∃ (r : Receiving) (events : List DeliveryEvent), deliverySystem.Reachable (r, events) ∧
      handedOf events = [(.receive 0, .string "a"), (.stream, .binary [1])] ∧
      (handedOf events).map Prod.snd ++ r.conn.waiting = queuedOf events ∧
      events.Pairwise DeliveryEvent.Allows := by
  have hrun : deliverySystem.run (.start (connection 100), [])
      [(.conn (.arrive [.text "a", .binary [1]]), [.arrives [.text "a", .binary [1]]]),
        (.conn .poll, []), (.conn .poll, []), (.conn .poll, []), (.conn .poll, []),
        (.conn .poll, [.queues (.string "a")]), (.conn .poll, []), (.conn .poll, []),
        (.conn .poll, []), (.conn .poll, []), (.conn .poll, [.queues (.binary [1])]),
        (.receive, []), (.pollReceive 0, []), (.release, [.hands (.receive 0) (.string "a")]),
        (.receiveViaStream, [.claims]), (.pollStream, []),
        (.release, [.hands .stream (.binary [1])])] = some (_, _) := rfl
  have hstart : deliverySystem.Reachable (.start (connection 100), []) :=
    .of_init ⟨⟨init_connection (by decide), rfl, rfl, rfl, rfl, rfl⟩, rfl⟩
  have hreach := hstart.run hrun
  have hdelivered := messages_delivered hreach
  exact ⟨_, _, hreach, rfl, hdelivered.1, hdelivered.2.2.2.1⟩

end Polymorph.Host
