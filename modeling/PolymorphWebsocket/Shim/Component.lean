import PolymorphWebsocket.Host.PeerFrame
import PolymorphWebsocket.Shim.Carries
import PolymorphWebsocket.Shim.Wasmtime

/-!
# A component with the shim on the wasmtime host

From the transport to the listeners of the application and back.  The runs of a WebSocket over the wasmtime
host are those of the stack, with the outcomes of the transport as their trace.  A run of the stack is, for
the connection, a run with one reader at a time, so that the facts about the connection's messages hold of
it; what is left is where the shim's own lists meet the host's: the messages that its `receive` calls have
returned, and the `send` calls that it waits for.
-/

namespace Polymorph.Host

open Transition

/-! ### The messages that come in -/

/-- The outcomes that arrive with a move. -/
def ReceivingAction.arrived : ReceivingAction → List Inbound
  | .conn action => action.arrived
  | .receive | .receiveViaStream | .pollReceive _ | .cancelReceive _ | .pollStream | .dropStream | .release => []

/-- The record of an observer has the same outcomes. -/
theorem arrivedOf_events (r : Receiving) (a : ReceivingAction) : arrivedOf (r.events a) = a.arrived := by
  have hqueues (messages : List Message) (closes : Bool) :
      arrivedOf (messages.map .queues ++ if closes then [.closes] else []) = [] := by
    have hmessages : (messages.map DeliveryEvent.queues).flatMap DeliveryEvent.arrived = [] := by
      rw [List.flatMap_eq_nil_iff]
      intro event hmem
      obtain ⟨message, -, rfl⟩ := List.mem_map.mp hmem
      rfl
    unfold arrivedOf
    rw [List.flatMap_append, hmessages]
    cases closes <;> rfl
  cases a with
  | conn action =>
    cases action with
    | arrive outcomes => exact List.append_nil _
    | send | enqueue | close | enqueueClose | drop | dropSenders | take | release | poll | hand | written
    | writeFailed | writeBound | tick => exact hqueues _ _
  | receiveViaStream =>
    simp only [Receiving.events]
    split <;> rfl
  | release =>
    simp only [Receiving.events]
    split <;> rfl
  | receive | pollReceive | cancelReceive | pollStream | dropStream => rfl

namespace Session

/-- The session is one of the observed runs of its connection, and what its `receive` calls have returned
has gone on to the shim, up to the one that is not done with. -/
structure Inward (x : Session) (handedOut : List Message) (arrived : List Inbound) : Prop where
  delivered : ∃ events, deliverySystem.Reachable (x.readers, events) ∧ arrivedOf events = arrived
  returned : handedOut ++ x.message = (messagesOf x.readers.received).map Prod.snd
  reads : x.conn.Reads arrived

namespace Inward

variable {x x' : Session} {handedOut : List Message} {arrived : List Inbound}

/-- A move of the connection with its readers. -/
theorem step (h : x.Inward handedOut arrived) {a : ReceivingAction} {readers : Receiving}
    (hr : receivingSystem.Reachable x.readers) (hs : receivingStep x.readers a = some readers)
    (hx : x'.readers = readers)
    (hreturned : handedOut ++ x'.message = (messagesOf readers.received).map Prod.snd) :
    x'.Inward handedOut (arrived ++ a.arrived) := by
  obtain ⟨events, hreach, rfl⟩ := h.delivered
  refine ⟨⟨events ++ x.readers.events a, ?_, ?_⟩, ?_, ?_⟩
  · rw [hx]
    exact hreach.next (a := (a, x.readers.events a)) (System.traced_step.mpr ⟨rfl, hs, rfl⟩)
  · unfold arrivedOf
    rw [List.flatMap_append]
    exact congrArg _ (arrivedOf_events x.readers a)
  · rw [hx]
    exact hreturned
  · show x'.readers.conn.Reads _
    rw [hx]
    have hquiet (hnone : a.arrived = []) (hconn : readers.conn = x.readers.conn) :
        readers.conn.Reads (arrivedOf events ++ a.arrived) := by
      rw [hnone, List.append_nil, hconn]
      exact h.reads
    have hreader {b : Action} (hnone : a.arrived = b.arrived)
        (hstep : Host.step x.readers.conn b = some readers.conn) :
        readers.conn.Reads (arrivedOf events ++ a.arrived) := by
      rw [hnone]
      exact State.Reads.step h.reads hstep
    have hsilent {event : List DeliveryEvent} (hevents : x.readers.events a = event)
        (hnone : arrivedOf event = []) : a.arrived = [] := by
      rw [← arrivedOf_events x.readers a, hevents, hnone]
    cases Delivers.of_step (lock_sound hr) hs with
    | conn action ha _ _ hstep =>
      rw [ha]
      exact State.Reads.step h.reads hstep
    | answers id err why hevents _ hconn => exact hquiet (hsilent hevents rfl) hconn
    | claims hevents _ hconn => exact hquiet (hsilent hevents rfl) hconn
    | silent hevents _ hconn => exact hquiet (hsilent hevents rfl) hconn
    | takes holder hevents _ _ hstep => exact hreader (b := .take) (hsilent hevents rfl) hstep
    | hands holder message ha _ _ hstep =>
      refine hreader (b := .release) ?_ hstep
      rw [ha]
      rfl

/-- The results of `receive` calls that are messages, one more result. -/
theorem messagesOf_append (received : List (Nat × Except Error Message)) (id : Nat)
    (result : Except Error Message) : (messagesOf (received ++ [(id, result)])).map Prod.snd =
      (messagesOf received).map Prod.snd ++ result.toOption.toList := by
  unfold messagesOf
  rw [List.filterMap_append, List.map_append]
  cases result <;> rfl

/-- A call that fails returns no message. -/
theorem message_of_failure {readers : Receiving} {id : Nat} {err : Error}
    (hreceived : readers.received = x.readers.received ++ [(id, .error err)]) :
    ({ x with readers := readers } : Session).message = x.message := by
  unfold message received
  cases x.receiving with
  | none => rfl
  | some current =>
    rw [Option.bind_some, Option.bind_some, hreceived, List.lookup_append]
    cases List.lookup current x.readers.received with
    | some result => rfl
    | none =>
      rw [Option.none_or, List.lookup_cons]
      split <;> rfl

/-- Every move that is not a call. -/
theorem move (h : x.Inward handedOut arrived) (hx : x.Sound) {a : ReceivingAction} {readers : Receiving}
    (hs : receivingStep x.readers a = some readers) :
    ({ x with readers := readers } : Session).Inward handedOut (arrived ++ a.arrived) := by
  have hsame (hreceived : readers.received = x.readers.received) :
      handedOut ++ ({ x with readers := readers } : Session).message =
        (messagesOf readers.received).map Prod.snd := by
    have hmessage : ({ x with readers := readers } : Session).message = x.message := by
      unfold message received
      rw [hreceived]
    rw [hmessage, hreceived]
    exact h.returned
  refine h.step hx.reachable hs rfl ?_
  cases Delivers.of_step (lock_sound hx.reachable) hs with
  | conn action ha hreader hidle hstep hrest => exact hsame (by rw [hrest])
  | answers id err why hevents hidle hconn hstream hreceived =>
    rw [message_of_failure hreceived, hreceived, messagesOf_append, h.returned]
    exact (List.append_nil _).symm
  | claims hevents hidle hconn hstream hreceived => exact hsame hreceived
  | silent hevents hidle hconn hstream hreceived => exact hsame hreceived
  | takes holder hevents hlocal hside hstep hlock hstream hreceived => exact hsame hreceived
  | hands holder message ha hlock hmessage hstep hstream hreceived =>
    cases holder with
    | stream =>
      have hproducing := (lock_sound hx.reachable).stream hlock
      exact absurd (hx.unclaimed.2.symm.trans hproducing) nofun
    | receive id =>
      have hid := (lock_sound hx.reachable).receive id hlock
      obtain ⟨hreceiving, hnone, -⟩ := hx.of_waiting hid
      have hreturned : ({ x with readers := readers } : Session).received = some (.ok message) := by
        unfold received at hnone ⊢
        rw [hreceiving] at hnone ⊢
        rw [Option.bind_some] at hnone ⊢
        rw [hreceived, List.lookup_append, hnone, Option.none_or]
        exact List.lookup_cons_self
      have hold := h.returned
      rw [message_of_none hnone, List.append_nil] at hold
      rw [message_of_ok hreturned, hreceived, hold]
      exact (messagesOf_append x.readers.received id (.ok message)).symm

/-- A call on the connection. -/
theorem called (h : x.Inward handedOut arrived) (hx : x.Sound) (hidle : resource.idle x = true)
    (action : Action) {conn : State} (sending : Option Nat) (hcall : action.isCall = true)
    (hreader : action.isReader = false) (hs : Host.step x.conn action = some conn) :
    ({ x with readers := x.calls (.conn action), sending := sending } : Session).Inward handedOut arrived := by
  obtain ⟨hstep, hcalls⟩ := calls_of_step hidle hcall hreader hs
  have hnone : (ReceivingAction.conn action).arrived = [] := by
    cases action with
    | send | close | drop => rfl
    | enqueue | enqueueClose | dropSenders | take | release | poll | hand | written | writeFailed
    | writeBound | arrive | tick => cases hcall
  have hall : ({ x with readers := x.calls (.conn action), sending := sending } : Session).Inward handedOut
      (arrived ++ (ReceivingAction.conn action).arrived) := h.step hx.reachable hstep hcalls ?_
  · rwa [hnone, List.append_nil] at hall
  · have hmessage : ({ x with readers := x.calls (.conn action), sending := sending } : Session).message =
        x.message := by
      unfold message received
      rw [hcalls]
    rw [hmessage]
    exact h.returned

/-- `send`. -/
theorem send (h : x.Inward handedOut arrived) (hx : x.Sound) (hidle : resource.idle x = true)
    (message : Message) : (resource.send x message).Inward handedOut arrived :=
  h.called hx hidle (.send message) _ rfl rfl (guestCall_eq_some.mpr ⟨hx.kept, rfl⟩)

/-- `close`. -/
theorem close (h : x.Inward handedOut arrived) (hx : x.Sound) (hidle : resource.idle x = true)
    (code : Option Nat) (reason : String) : (resource.close x code reason).Inward handedOut arrived :=
  h.called hx hidle (.close (code.map UInt16.ofNat) reason) x.sending rfl rfl
    (guestCall_eq_some.mpr ⟨hx.kept, rfl⟩)

/-- A `receive` call fails at once, or it waits. -/
theorem received_callReceive (r : Receiving) :
    (∃ err, r.callReceive.received = r.received ++ [(r.nextReceive, .error err)]) ∨
      r.callReceive.received = r.received := by
  unfold Receiving.callReceive
  dsimp only
  split
  · exact .inl ⟨_, rfl⟩
  · split
    · exact .inl ⟨_, rfl⟩
    · exact .inr rfl

/-- `receive`: the call has no message yet. -/
theorem receive (h : x.Inward handedOut arrived) (hx : x.Sound) (hidle : resource.idle x = true)
    (hnot : x.receiving = none) : (resource.receive x).Inward handedOut arrived := by
  have hnone : x.conn.calls.unreleased = none := Option.isNone_iff_eq_none.mp hidle
  have hstep : receivingStep x.readers .receive = some x.readers.callReceive :=
    call_eq_some.mpr ⟨hnone, hx.kept, rfl⟩
  have hreaders : (resource.receive x).readers = x.readers.callReceive := by
    show x.calls .receive = _
    unfold calls
    rw [hstep]
    rfl
  have hmessage : x.message = [] := by
    unfold message received
    rw [hnot]
    rfl
  have hall : (resource.receive x).Inward handedOut (arrived ++ ReceivingAction.receive.arrived) :=
    h.step hx.reachable hstep hreaders ?_
  · rwa [show ReceivingAction.receive.arrived = [] from rfl, List.append_nil] at hall
  · have hreturned := h.returned
    have hnew : (resource.receive x).message = [] ∧
        (messagesOf x.readers.callReceive.received).map Prod.snd =
          (messagesOf x.readers.received).map Prod.snd := by
      have hof : (resource.receive x).received =
          List.lookup x.readers.nextReceive x.readers.callReceive.received := by
        unfold received
        rw [hreaders]
        rfl
      rcases received_callReceive x.readers with ⟨err, hreceived⟩ | hreceived
      · rw [hreceived, List.lookup_append, hx.lookup_next, Option.none_or, List.lookup_cons_self] at hof
        refine ⟨message_of_error hof, ?_⟩
        rw [hreceived, messagesOf_append]
        exact List.append_nil _
      · rw [hreceived, hx.lookup_next] at hof
        exact ⟨message_of_none hof, by rw [hreceived]⟩
    rw [hnew.1, hnew.2, ← hreturned, hmessage]

/-- The shim gets the result. -/
theorem collect (h : x.Inward handedOut arrived) :
    (resource.collect x).Inward (handedOut ++ x.message) arrived :=
  ⟨h.delivered, (List.append_nil _).trans h.returned, h.reads⟩

end Inward

end Session

/-! ### The messages that go out -/

/-- What a step does to the `send` calls that have not reached the channel. -/
inductive Enqueues (s s' : State) : Prop
  | leaves (hchecked : s'.calls.checked = s.calls.checked) (henqueued : s'.hist.enqueued = s.hist.enqueued)
  | refuses (call : Nat × Message) (hmem : call ∈ s.calls.checked) (hclosed : s'.shared.cmdsClosed = true)
      (hchecked : s'.calls.checked = s.calls.checked.erase call)
      (henqueued : s'.hist.enqueued = s.hist.enqueued)
  | enqueues (call : Nat × Message) (hmem : call ∈ s.calls.checked) (hopen : s.shared.cmdsClosed = false)
      (hchecked : s'.calls.checked = s.calls.checked.erase call)
      (henqueued : s'.hist.enqueued = s.hist.enqueued ++ [call])

section Steps

variable {s s' : State} {a : Action}

/-- Every step but a `send` call. -/
theorem enqueues_of_step (h : step s a = some s') (ha : ∀ message, a ≠ .send message) : Enqueues s s' := by
  have hclose (code : Option UInt16) (reason : String) :
      (s.callClose code reason).calls.checked = s.calls.checked ∧
        (s.callClose code reason).hist.enqueued = s.hist.enqueued := by
    rcases callClose_cases s code reason with ⟨-, hk⟩ | ⟨-, -, hk⟩
    · rw [hk]
      exact ⟨rfl, rfl⟩
    · rw [hk]
      exact ⟨rfl, rfl⟩
  cases step_kind h with
  | poll hp => exact .leaves (by rw [PollFrame.poll hp]) (by rw [PollFrame.poll hp])
  | write hw hs => exact .leaves (by rw [WriteFrame.step hs hw]) (by rw [WriteFrame.step hs hw])
  | outer hm =>
    cases hm with
    | send message => exact absurd rfl (ha message)
    | @enqueue id message hmem =>
      by_cases hclosed : s.shared.cmdsClosed = true
      · refine .refuses (id, message) hmem ?_ ?_ ?_
        · unfold State.enqueue
          dsimp only
          rw [if_pos hclosed]
          exact hclosed
        · unfold State.enqueue
          dsimp only
          rw [if_pos hclosed]
          rfl
        · unfold State.enqueue
          dsimp only
          rw [if_pos hclosed]
          rfl
      · refine .enqueues (id, message) hmem (Bool.eq_false_iff.mpr hclosed) ?_ ?_
        · unfold State.enqueue
          dsimp only
          rw [if_neg hclosed]
        · unfold State.enqueue
          dsimp only
          rw [if_neg hclosed]
    | close code reason => exact .leaves (hclose code reason).1 (hclose code reason).2
    | drop => exact .leaves (hclose none "").1 (hclose none "").2
    | enqueueClose =>
      unfold State.enqueueClose
      dsimp only
      split <;> exact .leaves rfl rfl
    | dropSenders | reader | arrive | tick => exact .leaves rfl rfl

/-- The channel is closed from a certain stage of the finalization on. -/
theorem channelClosed_iff_stage {pc : Pc} : pc.channelClosed = true ↔ 4 ≤ pc.stage := by
  cases pc with
  | finalize stage => cases stage <;> simp [Pc.channelClosed, Pc.stage, Finalize.stage]
  | select | resolved | reserved | counted | writing | done => simp [Pc.channelClosed, Pc.stage]

/-- A channel that is closed stays closed. -/
theorem cmdsClosed_of_step (hr : system.Reachable s) (h : step s a = some s')
    (hclosed : s.shared.cmdsClosed = true) : s'.shared.cmdsClosed = true := by
  have hbefore : s.shared.cmdsClosed = s.pump.pc.channelClosed := (commands_sound hr).sound.channelClosed
  have hafter : s'.shared.cmdsClosed = s'.pump.pc.channelClosed :=
    (commands_sound (hr.next h)).sound.channelClosed
  rw [hbefore, channelClosed_iff_stage] at hclosed
  rw [hafter, channelClosed_iff_stage]
  exact Nat.le_trans hclosed (stage_step hr h).1

/-- A local close stays. -/
theorem localClosed_mono (h : step s a = some s') (hclosed : s.shared.localClosed = true) :
    s'.shared.localClosed = true := by
  rw [localClosed_of_step h, hclosed]
  rfl

end Steps

namespace Session

/-- The messages that the shim has handed to `ws.send` have gone into the channel in their order, the last
one perhaps not yet; once one has been refused none goes in any more. -/
structure Outward (x : Session) (sends : List Message) (stage : Shim.Stage) : Prop where
  checked : x.conn.calls.checked = [] ∨ stage = .sending ∧
    ∃ id message, x.conn.calls.checked = [(id, message)] ∧ x.sending = some id
  order : sends = (x.conn.hist.enqueued ++ x.conn.calls.checked).map Prod.snd ∨
    x.conn.hist.enqueued.map Prod.snd <+: sends ∧
      (x.conn.shared.localClosed = true ∧ x.conn.calls.checked = [] ∨ x.conn.shared.cmdsClosed = true)

namespace Outward

variable {x x' : Session} {sends : List Message} {stage stage' : Shim.Stage}

/-- A step of the connection that is no `send` call. -/
theorem step (h : x.Outward sends stage) (hr : system.Reachable x.conn) {a : Action}
    (ha : ∀ message, a ≠ .send message) (hs : Host.step x.conn a = some x'.conn)
    (hsending : x'.sending = x.sending) : x'.Outward sends stage := by
  have hlocal := localClosed_mono hs
  have hclosed := cmdsClosed_of_step hr hs
  have hone {call : Nat × Message} (hmem : call ∈ x.conn.calls.checked) :
      stage = .sending ∧ x.conn.calls.checked = [call] := by
    rcases h.checked with hnone | ⟨hstage, id, message, hchecked, -⟩
    · rw [hnone] at hmem
      cases hmem
    · rw [hchecked] at hmem
      rw [List.mem_singleton.mp hmem]
      exact ⟨hstage, hchecked⟩
  cases enqueues_of_step hs ha with
  | leaves hchecked henqueued =>
    refine ⟨?_, ?_⟩
    · rw [hchecked, hsending]
      exact h.checked
    · rw [hchecked, henqueued]
      rcases h.order with hall | ⟨hfirst, hwhy⟩
      · exact .inl hall
      · refine .inr ⟨hfirst, ?_⟩
        rcases hwhy with ⟨hl, hnone⟩ | hc
        · exact .inl ⟨hlocal hl, hnone⟩
        · exact .inr (hclosed hc)
  | refuses call hmem hc hchecked henqueued =>
    obtain ⟨-, hcall⟩ := hone hmem
    have hnone : x'.conn.calls.checked = [] := by
      rw [hchecked, hcall]
      simp
    refine ⟨.inl hnone, .inr ⟨?_, .inr hc⟩⟩
    rw [henqueued]
    rcases h.order with hall | ⟨hfirst, -⟩
    · rw [hall, List.map_append]
      exact List.prefix_append _ _
    · exact hfirst
  | enqueues call hmem hopen hchecked henqueued =>
    obtain ⟨-, hcall⟩ := hone hmem
    have hnone : x'.conn.calls.checked = [] := by
      rw [hchecked, hcall]
      simp
    refine ⟨.inl hnone, ?_⟩
    rcases h.order with hall | ⟨-, hwhy⟩
    · left
      rw [hnone, henqueued, hall, hcall, List.append_nil]
    · -- no command goes in once one has been refused
      rcases hwhy with ⟨-, hempty⟩ | hc
      · cases hempty.symm.trans hcall
      · cases hopen.symm.trans hc

/-- A move of the connection with its readers. -/
theorem move (h : x.Outward sends stage) (hx : x.Sound) {a : ReceivingAction} {readers : Receiving}
    (ha : ∀ message, a ≠ .conn (.send message)) (hs : receivingStep x.readers a = some readers)
    (hx' : x' = { x with readers := readers, receiving := x'.receiving }) : x'.Outward sends stage := by
  have hconn : x'.conn = readers.conn := by rw [hx']; rfl
  have hsending : x'.sending = x.sending := by rw [hx']
  have hsame (hquiet : readers.conn = x.conn) : x'.Outward sends stage := by
    have hall : x'.conn = x.conn := hconn.trans hquiet
    exact ⟨by rw [hall, hsending]; exact h.checked, by rw [hall]; exact h.order⟩
  cases Delivers.of_step (lock_sound hx.reachable) hs with
  | conn action hof _ _ hstep =>
    refine h.step hx.conn (a := action) ?_ (by rw [hconn]; exact hstep) hsending
    rintro message rfl
    exact ha message hof
  | answers id err why hevents _ hquiet => exact hsame hquiet
  | claims hevents _ hquiet => exact hsame hquiet
  | silent hevents _ hquiet => exact hsame hquiet
  | takes holder hevents _ _ hstep =>
    exact h.step hx.conn (a := .take) nofun (by rw [hconn]; exact hstep) hsending
  | hands holder message _ _ _ hstep =>
    exact h.step hx.conn (a := .release) nofun (by rw [hconn]; exact hstep) hsending

/-- `send`: no other promise is awaited, so that every earlier message has gone in or been refused. -/
theorem send (h : x.Outward sends stage) (hx : x.Sound) (hidle : resource.idle x = true)
    (hstage : stage ≠ .sending) (message : Message) :
    (resource.send x message).Outward (sends ++ [message]) .sending := by
  have hs : Host.step x.conn (.send message) = some (x.conn.callSend message) :=
    guestCall_eq_some.mpr ⟨hx.kept, rfl⟩
  obtain ⟨-, hcalls⟩ := calls_of_step hidle rfl rfl hs
  have hconn : (resource.send x message).conn = x.conn.callSend message := by
    show (x.calls _).conn = _
    rw [hcalls]
  have hnone : x.conn.calls.checked = [] := by
    rcases h.checked with hnone | ⟨hsending, -⟩
    · exact hnone
    · exact absurd hsending hstage
  have hsend : (x.conn.callSend message).hist.enqueued = x.conn.hist.enqueued ∧
      (x.conn.callSend message).shared = x.conn.shared ∧
      (x.conn.shared.localClosed = true ∧ (x.conn.callSend message).calls.checked = [] ∨
        x.conn.shared.localClosed = false ∧
          (x.conn.callSend message).calls.checked = [(x.conn.calls.nextId, message)]) := by
    unfold State.callSend
    dsimp only
    split
    · next hlocal => exact ⟨rfl, rfl, .inl ⟨hlocal, hnone⟩⟩
    · next hlocal => exact ⟨rfl, rfl, .inr ⟨Bool.eq_false_iff.mpr hlocal, by rw [hnone]; rfl⟩⟩
  obtain ⟨henqueued, hshared, hchecked⟩ := hsend
  have hfirst : x.conn.hist.enqueued.map Prod.snd <+: sends ++ [message] := by
    rcases h.order with hall | ⟨hfirst, -⟩
    · rw [hall, hnone, List.append_nil]
      exact List.prefix_append _ _
    · exact hfirst.trans (List.prefix_append _ _)
  refine ⟨?_, ?_⟩
  · rw [hconn]
    rcases hchecked with ⟨-, hempty⟩ | ⟨-, hone⟩
    · exact .inl hempty
    · exact .inr ⟨rfl, _, _, hone, rfl⟩
  · rw [hconn, henqueued, hshared]
    rcases hchecked with ⟨hlocal, hempty⟩ | ⟨hopen, hone⟩
    · exact .inr ⟨hfirst, .inl ⟨hlocal, hempty⟩⟩
    · rcases h.order with hall | ⟨-, hwhy⟩
      · left
        rw [hone, hall, hnone, List.append_nil, List.map_append]
        rfl
      · refine .inr ⟨hfirst, .inr ?_⟩
        rcases hwhy with ⟨hlocal, -⟩ | hclosed
        · cases hopen.symm.trans hlocal
        · exact hclosed

/-- `close`. -/
theorem close (h : x.Outward sends stage) (hx : x.Sound) (hidle : resource.idle x = true)
    (code : Option Nat) (reason : String) : (resource.close x code reason).Outward sends stage := by
  have hs : Host.step x.conn (.close (code.map UInt16.ofNat) reason) =
      some (x.conn.callClose (code.map UInt16.ofNat) reason) := guestCall_eq_some.mpr ⟨hx.kept, rfl⟩
  obtain ⟨-, hcalls⟩ := calls_of_step hidle rfl rfl hs
  refine h.step hx.conn (a := .close (code.map UInt16.ofNat) reason) nofun ?_ rfl
  rw [hs]
  show _ = some (x.calls _).conn
  rw [hcalls]

/-- The chain goes on, unless it leaves the message that it has handed over. -/
theorem atStage (h : x.Outward sends stage) (hstage : stage = .sending → stage' = .sending) :
    x.Outward sends stage' := by
  refine ⟨?_, h.order⟩
  rcases h.checked with hnone | ⟨hsending, hone⟩
  · exact .inl hnone
  · exact .inr ⟨hstage hsending, hone⟩

/-- The promise of `ws.send` has settled: its message is in the channel, or was refused. -/
theorem settled (h : x.Outward sends stage) (hx : x.Sound) (hsent : resource.sent x = true) :
    x.Outward sends stage' := by
  refine ⟨.inl ?_, h.order⟩
  rcases h.checked with hnone | ⟨-, id, message, hone, hsending⟩
  · exact hnone
  · have hsent' : (x.sending.any fun id => id ∈ x.conn.hist.replies.map Prod.fst) = true := hsent
    rw [hsending, Option.any_some, decide_eq_true_eq] at hsent'
    have honce := (commands_sound hx.conn).sound.once
    have hnodup := honce.nodup_iff.mpr List.nodup_range
    unfold Ledger.outstanding State.ledger at hnodup
    dsimp only at hnodup
    rw [hone] at hnodup
    have hdisjoint := List.disjoint_of_nodup_append hnodup
    exact absurd hsent' (hdisjoint List.mem_cons_self)

end Outward

end Session

/-! ### The runs of a component -/

/-- The WebSockets of a component on the wasmtime host, with what the transport brings. -/
def component : System (Shim.Stack Session × List Inbound) (Shim.StackAction resource × List Inbound) :=
  Shim.carrying resource ReceivingAction.arrived

/-- A connection that has just been established. -/
theorem carries_opened {x : Session} (h : resource.opened x) (stage : Shim.Stage) :
    x.Inward [] [] ∧ x.Outward [] stage := by
  have hinit := h.1
  obtain ⟨⟨closeTimeout, limit, now, largest, hreaches, -, hconn⟩, hstream, hproducing, hwaiting, hlock,
    hreceived⟩ := h.1
  have hstart : x.conn = .start closeTimeout limit now largest hreaches := hconn
  constructor
  · refine ⟨⟨[], .of_init ⟨hinit, rfl⟩, rfl⟩, ?_, [], ?_, ?_⟩
    · have hnone : x.received = none := by
        unfold Session.received
        rw [h.2.2]
        rfl
      rw [Session.message_of_none hnone, hreceived]
      rfl
    · rw [hstart]
      rfl
    · rw [hstart]
      rfl
  · refine ⟨.inl ?_, .inl ?_⟩
    · rw [hstart]
      rfl
    · rw [hstart]
      rfl

/-- A `receive` call sends nothing. -/
theorem Session.Outward.receive {x : Session} {sends : List Message} {stage : Shim.Stage}
    (h : x.Outward sends stage) (hx : x.Sound) (hidle : resource.idle x = true) :
    (resource.receive x).Outward sends stage := by
  have hstep : receivingStep x.readers .receive = some x.readers.callReceive :=
    call_eq_some.mpr ⟨Option.isNone_iff_eq_none.mp hidle, hx.kept, rfl⟩
  refine h.move hx (a := .receive) nofun hstep ?_
  show ({ x with readers := x.calls .receive, receiving := _ } : Session) = _
  unfold Session.calls
  rw [hstep]
  rfl

/-- The account that the connection keeps of its messages. -/
def carrier : Shim.Carrier resource_lawful Inbound where
  brings := ReceivingAction.arrived
  Carries x out arrived sends stage := x.Inward out arrived ∧ x.Outward sends stage
  opened _ stage h := carries_opened h stage
  move x a x' out arrived sends stage hx hs h := by
    have hs' : (if Session.ofHost a = true then
        (receivingStep x.readers a).map fun readers => { x with readers := readers } else none) = some x' := hs
    split at hs'
    · next hown =>
      obtain ⟨readers, hstep, rfl⟩ := Option.map_eq_some_iff.mp hs'
      refine ⟨h.1.move hx hstep, h.2.move hx ?_ hstep rfl⟩
      rintro message rfl
      cases hown
    · cases hs'
  send _ message _ _ _ _ hx hidle hstage h := ⟨h.1.send hx hidle message, h.2.send hx hidle hstage message⟩
  sent _ _ _ _ _ _ hx hsent h := ⟨h.1, h.2.settled hx hsent⟩
  stage _ _ _ _ _ _ hstage h := ⟨h.1, h.2.atStage hstage⟩
  receive x _ _ _ _ hx hidle hnot h := by
    refine ⟨h.1.receive hx hidle ?_, h.2.receive hx hidle⟩
    rw [← Option.not_isSome_iff_eq_none, show x.receiving.isSome = false from hnot]
    exact Bool.false_ne_true
  collect x result _ _ _ _ _ hresult h := by
    have hmessage : x.message = result.toOption.toList := by
      unfold Session.message
      rw [show x.received = some result from hresult]
      rfl
    rw [← hmessage]
    exact ⟨h.1.collect, h.2.checked, h.2.order⟩
  close _ code reason _ _ _ _ hx hidle _ h := ⟨h.1.close hx hidle code reason, h.2.close hx hidle code reason⟩

/-- A WebSocket and its connection are of one mind, in every run. -/
theorem carries_of_run {s : Shim.Stack Session} {arrived : List Inbound}
    (h : component.Reachable (s, arrived)) : (Shim.stack resource).Reachable s ∧ carrier.Holds s arrived :=
  Shim.Carrier.holds_of_run carrier h

/-! ### From end to end -/

section Ends

variable {s : Shim.Stack Session} {arrived : List Inbound} {x : Session}

/-- Over the wasmtime host the shim is, but for its host, in a state that it gets into over the host it
assumes.  That holds for every close info that the connection may still end with, and there is one: the
assumed host has been closed as the connection has and torn down with that close info, and its backlog is
what `receive` still gets, as long as the guest has not closed. -/
theorem websocket_simulates (h : (Shim.stack resource).Reachable s) :
    (∃ final, ∀ x, s.resource = some x → x.conn.shared.closed = true →
      x.conn.shared.closeInfo = some final) ∧
    ∀ final, (∀ x, s.resource = some x → x.conn.shared.closed = true →
        x.conn.shared.closeInfo = some final) →
      ∃ host, Shim.system.Reachable (s.shim.over host) ∧ ∀ x, s.resource = some x →
        host.connected = true ∧ host.localClosed = x.conn.shared.localClosed ∧
        host.closed = (if x.conn.shared.queue.senderLive then none else some final) ∧
        x.deliverable <+: host.backlog ∧
        (x.conn.shared.localClosed = false → host.backlog = x.message ++ x.conn.waiting) := by
  obtain ⟨⟨final, hright⟩, hsimulates⟩ := Shim.stack_simulates resource_lawful h
  constructor
  · refine ⟨final, fun x hx hclosed => ?_⟩
    have hsound : x.Sound := ((Shim.stack_sound resource_lawful h).resource x hx).1
    have hend := end_sound hsound.conn
    have hstage := hend.closed.mp hclosed
    have hinfo : x.conn.shared.closeInfo = some x.conn.pump.peerFrame := hend.closeInfo (by omega)
    have hwait : resource.waitClosed x = some x.conn.pump.peerFrame := (if_pos hclosed).trans hinfo
    rw [hinfo, hright x hx _ hwait]
  · intro final hfinal
    obtain ⟨host, hreach, hstands⟩ := hsimulates final fun x hx info hwait => by
      have hwait' : (if x.conn.shared.closed = true then x.conn.shared.closeInfo else none) =
        some info := hwait
      split at hwait'
      · next hclosed => exact Option.some.inj (hwait'.symm.trans (hfinal x hx hclosed))
      · cases hwait'
    refine ⟨host, hreach, fun x hx => ?_⟩
    have hst := hstands x hx
    refine ⟨hst.connected, hst.localClosed, ?_, hst.backlog, fun hopen => ?_⟩
    · have hended : host.closed =
          if (!x.conn.shared.queue.senderLive) = true then some final else none := hst.closed
      rw [hended]
      cases x.conn.shared.queue.senderLive <;> rfl
    · have hexact : host.backlog = x.deliverable := hst.exact hopen
      rw [hexact]
      unfold Session.deliverable
      rw [hopen, if_neg Bool.false_ne_true]

/-- What has been handed out and what `receive` has returned are the first messages that were queued. -/
theorem Session.Inward.queued (h : x.Inward s.shim.hist.handedOut arrived) (hx : x.Sound) :
    ∃ queued, s.shim.hist.handedOut ++ x.message ++ x.conn.waiting = queued ∧
      x.conn.Queues queued (dataOf arrived) := by
  obtain ⟨events, hreach, rfl⟩ := h.delivered
  obtain ⟨-, hd⟩ := delivered_of_run hreach
  refine ⟨queuedOf events, ?_, hd.queues⟩
  have honly : (handedOf events).map Prod.snd = (receivedOf (handedOf events)).map Prod.snd := by
    -- without a stream every message goes to a `receive` call
    have hno : ∀ handed ∈ handedOf events, handed.1 ≠ .stream := by
      rintro ⟨holder, message⟩ hmem rfl
      obtain ⟨event, hevent, hhands⟩ := List.mem_filterMap.mp hmem
      cases event with
      | hands holder' message' =>
        obtain ⟨rfl, rfl⟩ := Prod.mk.inj (Option.some.inj hhands)
        have hclaimed := hd.claims.mp (hd.stream message' hevent)
        exact absurd (hx.unclaimed.1.symm.trans hclaimed) nofun
      | arrives | queues | claims | closes => cases hhands
    generalize handedOf events = handed at hno
    induction handed with
    | nil => rfl
    | cons first rest ih =>
      have hrest := ih fun handed hmem => hno handed (List.mem_cons_of_mem _ hmem)
      obtain ⟨holder, message⟩ := first
      cases holder with
      | receive id => exact congrArg (message :: ·) hrest
      | stream => exact absurd rfl (hno _ List.mem_cons_self)
  rw [h.returned, hd.received, ← honly]
  exact hd.waiting

/-- The message events carry the first data messages of the peer, in order and each once, whatever else
happens; and until the closing handshake begins, every other message is on its way to the listeners. -/
theorem events_carry_messages (h : component.Reachable (s, arrived)) :
    Shim.messages s.shim.hist.events <+: dataOf arrived ∧
      ∀ x, s.resource = some x → x.conn.pump.wireClosing = false →
        Shim.messages s.shim.hist.events ++
          (s.shim.loop.held ++ x.message ++ x.conn.waiting ++ x.conn.flight) = dataOf arrived := by
  obtain ⟨hreach, hcarries⟩ := carries_of_run h
  have hreceived := (Shim.stack_ordered resource_lawful hreach).received
  cases hres : s.resource with
  | none =>
    obtain ⟨-, hout, -⟩ := hcarries.fresh hres
    rw [hout] at hreceived
    rw [(List.append_eq_nil_iff.mp hreceived).1]
    exact ⟨List.nil_prefix, by rintro x ⟨⟩⟩
  | some x =>
    have hsound : x.Sound := ((Shim.stack_sound resource_lawful hreach).resource x hres).1
    obtain ⟨queued, hqueued, hqueues⟩ := (hcarries.carries x hres).1.queued hsound
    rw [← hreceived] at hqueued
    constructor
    · refine List.IsPrefix.trans ?_ hqueues.isPrefix
      rw [← hqueued, List.append_assoc, List.append_assoc]
      exact List.prefix_append _ _
    · rintro x' ⟨⟩ hwire
      rw [← hqueues.flight hwire, ← hqueued]
      simp only [List.append_assoc]

/-- The messages whose frames have been handed to the transport are messages that `send()` accepted, in the
order of the calls and each at most once; what has gone to `ws.send` goes out without a hole; and until
someone closes, a write fails or the pump leaves its loop, every other message that has gone to `ws.send` is
on its way out. -/
theorem frames_carry_messages (h : component.Reachable (s, arrived)) (hx : s.resource = some x) :
    (∃ entries, entries.Sublist s.shim.hist.accepted ∧
      List.Forall₂ (fun entry message => entry.SentBy (.send entry.id message)) entries
        (x.conn.ledger.sent.map Prod.snd)) ∧
      x.conn.ledger.sent.map Prod.snd <+: s.shim.sentMessages ∧
      (x.conn.shared.localClosed = false → x.conn.pump.wireClosing = false →
        x.conn.pump.writeDead = false → x.conn.pump.pc.left = false →
        x.conn.ledger.sent.map Prod.snd ++
          (x.conn.pump.pc.unhanded ++ x.conn.ledger.queued ++ x.conn.calls.checked).map Prod.snd =
            s.shim.sentMessages) := by
  obtain ⟨hreach, hcarries⟩ := carries_of_run h
  have hsound : x.Sound := ((Shim.stack_sound resource_lawful hreach).resource x hx).1
  have hfirst := hands_first hsound.conn
  have hout := (hcarries.carries x hx).2
  have hprefix : x.conn.ledger.sent.map Prod.snd <+: s.shim.sentMessages := by
    have hhanded : x.conn.ledger.sent.map Prod.snd <+: x.conn.hist.enqueued.map Prod.snd :=
      hfirst.isPrefix.map Prod.snd
    rcases hout.order with hall | ⟨henqueued, -⟩
    · rw [hall, List.map_append]
      exact hhanded.trans (List.prefix_append _ _)
    · exact hhanded.trans henqueued
  refine ⟨(Shim.stack_ordered resource_lawful hreach).accepted hprefix, hprefix,
    fun hopen hwire hdead hleft => ?_⟩
  · have hnot : x.conn.shared.cmdsClosed = false := by
      rw [Bool.eq_false_iff]
      intro hclosed
      have hchannel : x.conn.shared.cmdsClosed = x.conn.pump.pc.channelClosed :=
        (commands_sound hsound.conn).sound.channelClosed
      rw [hchannel, channelClosed_iff_stage, Pc.stage_eq_zero.mpr hleft] at hclosed
      omega
    rcases hout.order with hall | ⟨-, ⟨hlocal, -⟩ | hclosed⟩
    · rw [hall, ← hfirst.rest hwire hdead hleft]
      simp only [List.map_append, List.append_assoc]
    · cases hopen.symm.trans hlocal
    · cases hnot.symm.trans hclosed

/-- The close event reports the first close frame among all that the connection has read from the peer,
which is everything but what is left of the arrivals when the pump has left its loop; and an abnormal
closure when it has read none or never was established.  A clean close thus names the code and the reason
of the first close frame that the peer has sent. -/
theorem close_event_reports_peer (h : component.Reachable (s, arrived)) {wasClean : Bool} {code : UInt16}
    {reason : String} {readyState : Shim.ReadyState}
    (hmem : (.close wasClean code reason, readyState) ∈ s.shim.hist.events) :
    (s.resource = none → (⟨wasClean, code, reason⟩ : Shim.Report) = Shim.Report.of false none) ∧
      (∀ x, s.resource = some x → ∃ read, arrived = read ++ x.conn.inbound ∧
        (⟨wasClean, code, reason⟩ : Shim.Report) =
          Shim.Report.of s.shim.pendingClose.isSome (read.findSome? closeInfoOf)) ∧
      (wasClean = true → arrived.findSome? closeInfoOf = some ⟨code, reason⟩) := by
  obtain ⟨hreach, hcarries⟩ := carries_of_run h
  rcases Shim.stack_close resource_lawful hreach hmem with ⟨hnone, hreport⟩ | ⟨info, hwait, hreport⟩
  · refine ⟨fun _ => hreport, fun x hx => ?_, ?_⟩
    · cases hnone.symm.trans hx
    · rintro rfl
      cases congrArg Shim.Report.wasClean hreport
  · obtain ⟨x, hx, hwait⟩ := Option.bind_eq_some_iff.mp hwait
    have hsound : x.Sound := ((Shim.stack_sound resource_lawful hreach).resource x hx).1
    have hend := end_sound hsound.conn
    obtain ⟨read, harrived, hframe⟩ := (hcarries.carries x hx).1.reads
    have hwait' : (if x.conn.shared.closed = true then x.conn.shared.closeInfo else none) = some info :=
      hwait
    obtain ⟨hread, rfl⟩ : arrived = read ++ x.conn.inbound ∧ info = read.findSome? closeInfoOf := by
      split at hwait'
      · next hclosed =>
        have hstage := hend.closed.mp hclosed
        rw [hend.closeInfo (by omega)] at hwait'
        refine ⟨?_, (Option.some.inj hwait').symm.trans hframe⟩
        -- a pump that is done has no outcome in its hands
        rw [harrived, State.unlooked, Pc.outcome_of_stage hstage]
        rfl
      · cases hwait'
    refine ⟨fun hnone => ?_, ?_, ?_⟩
    · cases hnone.symm.trans hx
    · rintro x' hx'
      obtain rfl := Option.some.inj (hx.symm.trans hx')
      exact ⟨read, hread, hreport⟩
    · rintro rfl
      obtain ⟨hwas, rfl, rfl⟩ := Shim.Report.mk.inj hreport
      rw [hread, List.findSome?_append]
      cases hinfo : read.findSome? closeInfoOf with
      | none =>
        rw [hinfo] at hwas
        cases hwas
      | some info => rfl

end Ends

/-! ### A run -/

/-- A connection that has just been established. -/
def Session.start : Session where
  readers := .start (connection 100)
  sending := none
  receiving := none

theorem Session.opened_start : resource.opened Session.start :=
  ⟨⟨init_connection (by decide), rfl, rfl, rfl, rfl, rfl⟩, rfl, rfl⟩

/-- Steps of the pump. -/
def polls (n : Nat) : List (Shim.StackAction resource) := .replicate n (.move (.conn .poll))

/-- A WebSocket that gets a message, sends one and is closed by the peer. -/
def closedByPeer : List (Shim.StackAction resource) := .flatten
  [[.established "" .start Session.opened_start, .shim .startLoops, .move (.conn (.arrive [.text "a"]))],
    polls 5,
    [.move (.pollReceive 0), .move .release, .received, .shim .dispatchMessage, .shim .receiveAgain,
      .shim (.send (.payload (.string "b"))), .shim .runSend, .move (.conn (.enqueue 0 (.string "b")))],
    polls 2,
    [.move (.conn .hand), .move (.conn .written), .sendSettled, .shim .uncount,
      .move (.conn (.arrive [.close (some ⟨1000, "bye"⟩), .connectionClosed]))],
    polls 3, [.move (.conn .written)], polls 10,
    [.move (.pollReceive 1), .received, .waitResolves, .shim .settleRuns]]

/-- Where it gets to. -/
theorem exists_closedByPeer : ∃ s arrived x, component.Reachable (s, arrived) ∧ s.resource = some x ∧
    Shim.messages s.shim.hist.events = [.string "a"] ∧ x.conn.ledger.sent = [(0, .string "b")] ∧
    (.close true 1000 "bye", .closed) ∈ s.shim.hist.events := by
  have hrun : (component.run (⟨Shim.State.start "ws://a/", none⟩, [])
      (closedByPeer.map fun a => (a, a.brings ReceivingAction.arrived))).any (fun e =>
        decide (Shim.messages e.1.shim.hist.events = [.string "a"]) &&
        e.1.resource.any (fun x => x.conn.ledger.sent = [(0, .string "b")]) &&
        decide ((.close true 1000 "bye", .closed) ∈ e.1.shim.hist.events)) = true := by
    decide +kernel
  obtain ⟨⟨s, arrived⟩, he, hchecks⟩ := (Option.any_eq_true _ _).mp hrun
  rw [Bool.and_eq_true, Bool.and_eq_true] at hchecks
  obtain ⟨⟨hmessages, hsent⟩, hclose⟩ := hchecks
  obtain ⟨x, hx, hsent⟩ := (Option.any_eq_true _ _).mp hsent
  have hstart : component.Reachable (⟨Shim.State.start "ws://a/", none⟩, []) :=
    .of_init ⟨⟨⟨_, rfl⟩, rfl⟩, rfl⟩
  exact ⟨s, arrived, x, hstart.run he, hx, of_decide_eq_true hmessages, of_decide_eq_true hsent,
    of_decide_eq_true hclose⟩

/-- The shim over the host that is closed by its peer. -/
theorem websocket_simulates_closed : ∃ (s : Shim.Stack Session) (x : Session), s.resource = some x ∧
    ∃ (final : Option CloseInfo) (host : Shim.Host), Shim.system.Reachable (s.shim.over host) ∧
      host.localClosed = x.conn.shared.localClosed ∧ x.deliverable <+: host.backlog ∧
      (x.conn.shared.closed = true → x.conn.shared.closeInfo = some final) := by
  obtain ⟨s, arrived, x, hreach, hx, -⟩ := exists_closedByPeer
  obtain ⟨⟨final, hfinal⟩, hsimulates⟩ := websocket_simulates (carries_of_run hreach).1
  obtain ⟨host, hover, hhost⟩ := hsimulates final hfinal
  obtain ⟨-, hlocal, -, hbacklog, -⟩ := hhost x hx
  exact ⟨s, x, hx, final, host, hover, hlocal, hbacklog, hfinal x hx⟩

/-- The listener gets the message. -/
theorem events_carry_messages_closed : ∃ s arrived, component.Reachable (s, arrived) ∧
    Shim.messages s.shim.hist.events = [.string "a"] ∧
    Shim.messages s.shim.hist.events <+: dataOf arrived := by
  obtain ⟨s, arrived, x, hreach, -, hmessages, -⟩ := exists_closedByPeer
  exact ⟨s, arrived, hreach, hmessages, (events_carry_messages hreach).1⟩

/-- The peer gets the message. -/
theorem frames_carry_messages_closed : ∃ s arrived x, component.Reachable (s, arrived) ∧
    s.resource = some x ∧ x.conn.ledger.sent = [(0, .string "b")] ∧
    x.conn.ledger.sent.map Prod.snd <+: s.shim.sentMessages := by
  obtain ⟨s, arrived, x, hreach, hx, -, hsent, -⟩ := exists_closedByPeer
  exact ⟨s, arrived, x, hreach, hx, hsent, (frames_carry_messages hreach hx).2.1⟩

/-- The close event says what the peer has said. -/
theorem close_event_reports_peer_closed : ∃ s arrived, component.Reachable (s, arrived) ∧
    (.close true 1000 "bye", .closed) ∈ s.shim.hist.events ∧
    arrived.findSome? closeInfoOf = some ⟨1000, "bye"⟩ := by
  obtain ⟨s, arrived, x, hreach, -, -, -, hclose⟩ := exists_closedByPeer
  exact ⟨s, arrived, hreach, hclose, (close_event_reports_peer hreach hclose).2.2 rfl⟩

end Polymorph.Host
