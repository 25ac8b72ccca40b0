import PolymorphWebsocket.Shim.Receiving
import PolymorphWebsocket.Shim.Sending

/-!
# The WHATWG shim: the order of the messages

What no run of the shim can spoil, however the application closes and whatever the host does: the message
events carry what the host handed out, in its order, and what the shim hands to `ws.send` are accepted
messages in the order of their `send()` calls, each at most once.  A message may be missing on the way out,
when its Blob cannot be read or the close of the application overtakes it.
-/

namespace Polymorph.Shim

open Transition

variable {s s' : State}

/-! ### The property -/

/-- The messages handed to `ws.send`, by their calls. -/
def State.sends (s : State) : List HostCall := s.hist.calls.filter HostCall.isSend

/-- The messages pass the shim in order, in both directions. -/
structure State.Ordered (s : State) : Prop where
  received : messages s.hist.events ++ s.loop.held = s.hist.handedOut
  sent : ∃ gone, s.hist.accepted = gone ++ unhanded s.sendQueue s.stage ∧
    ∃ handed, handed.Sublist gone ∧ List.Forall₂ Entry.SentBy handed s.sends
  /-- The chain is at rest while it is empty. -/
  resting : s.sendQueue = [] → s.stage = .waiting
  /-- Only a Blob is read. -/
  reading : ∀ entry ∈ s.sendQueue.head?, s.stage = .reading → ∃ size, entry.data = .blob size
  /-- The loop starts after the listeners of the open event. -/
  started : s.connect = .pending ∨ s.connect = .opening → s.loop = .idle

namespace State.Ordered

/-- What is no part of the chain or of the receive loop. -/
theorem congr (h : s.Ordered) (hevents : messages s'.hist.events = messages s.hist.events)
    (hloop : s'.loop.held = s.loop.held) (hout : s'.hist.handedOut = s.hist.handedOut)
    (haccepted : s'.hist.accepted = s.hist.accepted) (hqueue : s'.sendQueue = s.sendQueue)
    (hstage : s'.stage = s.stage) (hsends : s'.sends = s.sends)
    (hstarted : s'.connect = .pending ∨ s'.connect = .opening → s'.loop = .idle) : s'.Ordered := by
  refine ⟨?_, ?_, ?_, ?_, hstarted⟩
  · rw [hevents, hloop, hout]
    exact h.received
  · rw [haccepted, hqueue, hstage, hsends]
    exact h.sent
  · rw [hqueue, hstage]
    exact h.resting
  · rw [hqueue, hstage]
    exact h.reading

/-- An event that carries no message. -/
theorem log (h : s.Ordered) {event : Event} (hevent : event.message? = none) :
    (s.dispatchEvent event).Ordered := by
  refine h.congr ?_ rfl rfl rfl rfl rfl rfl h.started
  show messages (s.hist.events ++ [(event, s.readyState)]) = _
  rw [Inbox.messages_append, hevent]
  exact List.append_nil _

/-- The first entry of the chain is handed over. -/
theorem hostSend (h : s.Ordered) {entry : Entry} {rest : List Entry} {message : Message}
    (hqueue : s.sendQueue = entry :: rest) (hstage : s.stage = .waiting ∨ s.stage = .reading)
    (hsent : entry.SentBy (.send entry.id message)) : (s.hostSend entry.id message).Ordered := by
  obtain ⟨gone, haccepted, handed, hsub, hforall⟩ := h.sent
  have hall : unhanded s.sendQueue s.stage = entry :: rest := by
    rcases hstage with hstage | hstage <;> rw [hstage, hqueue] <;> rfl
  refine ⟨h.received, ⟨gone ++ [entry], ?_, handed ++ [entry], ?_, ?_⟩, ?_, nofun, h.started⟩
  · show s.hist.accepted = _
    rw [haccepted, hall, List.append_assoc]
    show _ = gone ++ ([entry] ++ unhanded s.sendQueue .sending)
    rw [hqueue]
    rfl
  · exact hsub.append (List.Sublist.refl _)
  · have hsends : (s.hostSend entry.id message).sends = s.sends ++ [.send entry.id message] :=
      List.filter_append _ _
    rw [hsends]
    exact List.rel_append hforall (.cons hsent .nil)
  · intro hnil
    cases hqueue.symm.trans hnil

/-- The promise of the first entry has settled, or its Blob cannot be read. -/
theorem settles (h : s.Ordered) {entry : Entry} {rest : List Entry} (hqueue : s.sendQueue = entry :: rest) :
    ({ s with stage := .settled } : State).Ordered := by
  obtain ⟨gone, haccepted, handed, hsub, hforall⟩ := h.sent
  have hgone : ∃ more, unhanded s.sendQueue s.stage = more ++ rest := by
    rw [hqueue]
    cases s.stage with
    | waiting | reading => exact ⟨[entry], rfl⟩
    | sending | settled => exact ⟨[], rfl⟩
  obtain ⟨more, hmore⟩ := hgone
  refine ⟨h.received, ⟨gone ++ more, ?_, handed, hsub.trans (List.sublist_append_left _ _), hforall⟩, ?_,
    nofun, h.started⟩
  · show s.hist.accepted = gone ++ more ++ unhanded s.sendQueue .settled
    rw [haccepted, hmore, hqueue, List.append_assoc]
    rfl
  · intro hnil
    cases hqueue.symm.trans hnil

/-- `send`. -/
theorem send (h : s.Ordered) (data : Data) : (orUnchanged s (s.send data)).Ordered := by
  unfold State.send
  split
  · exact h
  · dsimp only
    split
    · exact h.congr rfl rfl rfl rfl rfl rfl rfl h.started
    · obtain ⟨gone, haccepted, hhanded⟩ := h.sent
      refine ⟨h.received, ⟨gone, ?_, hhanded⟩, fun hnil => ?_, fun entry hentry hreading => ?_, h.started⟩
      · show s.hist.accepted ++ [_] = gone ++ unhanded (s.sendQueue ++ [_]) s.stage
        rw [Outbox.unhanded_append h.resting, haccepted, List.append_assoc]
      · exact absurd (List.append_eq_nil_iff.mp hnil).2 nofun
      · cases hqueue : s.sendQueue with
        | nil => exact absurd ((h.resting hqueue).symm.trans hreading) nofun
        | cons first rest =>
          have hfirst : first = entry := by
            have hhead : (s.sendQueue ++ [_]).head? = some entry := hentry
            rw [hqueue] at hhead
            exact Option.some.inj hhead
          exact h.reading entry (by rw [hqueue, hfirst]; rfl) hreading

/-- A call of `close` on the resource. -/
theorem closeUnderlying (h : s.Ordered) (code : Option Nat) (reason : String) :
    (s.closeUnderlying code reason).Ordered := by
  refine h.congr rfl rfl rfl rfl rfl rfl ?_ h.started
  show (s.hist.calls ++ [_]).filter HostCall.isSend = s.sends
  rw [List.filter_append]
  exact List.append_nil _

/-- `close`. -/
theorem close (h : s.Ordered) (code : Option Nat) (reason : Option String) :
    (orUnchanged s (s.close code reason)).Ordered := by
  unfold State.close
  dsimp only
  split
  · exact h
  · split
    · exact h
    · split
      · exact h
      · exact h
      · exact h.congr rfl rfl rfl rfl rfl rfl rfl h.started
      · have hclosing : ({ s with readyState := .closing } : State).Ordered :=
          h.congr rfl rfl rfl rfl rfl rfl rfl h.started
        exact hclosing.closeUnderlying code _

/-- The callback of the first entry. -/
theorem runSend (h : s.Ordered) (hs : s.runSend = some s') : s'.Ordered := by
  unfold State.runSend at hs
  split at hs
  · next entry rest hqueue hstage =>
    split at hs
    · next message hdata =>
      obtain rfl := Option.some.inj hs
      refine h.hostSend hqueue (.inl hstage) ⟨rfl, ?_⟩
      rw [hdata]
    · next size hdata =>
      obtain rfl := Option.some.inj hs
      obtain ⟨gone, haccepted, hhanded⟩ := h.sent
      rw [hqueue, hstage] at haccepted
      refine ⟨h.received, ⟨gone, ?_, hhanded⟩, fun hnil => ?_, fun entry' hentry _ => ⟨size, ?_⟩, h.started⟩
      · show s.hist.accepted = gone ++ unhanded s.sendQueue .reading
        rw [haccepted, hqueue]
        rfl
      · cases hqueue.symm.trans hnil
      · have hhead : s.sendQueue.head? = some entry' := hentry
        rw [hqueue] at hhead
        rw [← Option.some.inj hhead]
        exact hdata
  · cases hs

/-- The Blob has been read, or cannot be. -/
theorem blobRead (h : s.Ordered) {bytes : Option Bytes} (hs : s.blobRead bytes = some s') : s'.Ordered := by
  unfold State.blobRead at hs
  split at hs
  · next entry rest bytes hqueue hstage =>
    obtain rfl := Option.some.inj hs
    obtain ⟨size, hdata⟩ := h.reading entry (by rw [hqueue]; rfl) hstage
    refine h.hostSend hqueue (.inr hstage) ⟨rfl, ?_⟩
    rw [hdata]
    exact ⟨bytes, rfl⟩
  · next entry rest hqueue hstage =>
    obtain rfl := Option.some.inj hs
    exact h.settles hqueue
  · cases hs

/-- The first entry leaves the chain. -/
theorem uncount (h : s.Ordered) (hs : s.uncount = some s') : s'.Ordered := by
  unfold State.uncount at hs
  split at hs
  · next entry rest hqueue hstage =>
    obtain rfl := Option.some.inj hs
    obtain ⟨gone, haccepted, hhanded⟩ := h.sent
    rw [hqueue, hstage] at haccepted
    exact ⟨h.received, ⟨gone, haccepted, hhanded⟩, fun _ => rfl, nofun, h.started⟩
  · cases hs

/-- The loop takes a message from the host. -/
theorem hostReceive (h : s.Ordered) (hs : s.hostReceive = some s') : s'.Ordered := by
  unfold State.hostReceive at hs
  split at hs
  · next message rest hloop hbacklog =>
    obtain rfl := Option.some.inj hs
    have hreceived := h.received
    rw [hloop] at hreceived
    refine ⟨?_, h.sent, h.resting, h.reading, fun hpc => absurd (hloop.symm.trans (h.started hpc)) nofun⟩
    show messages s.hist.events ++ [message] = s.hist.handedOut ++ [message]
    rw [← hreceived]
    exact congrArg (· ++ [message]) (List.append_nil _).symm
  · cases hs

/-- The loop dispatches its message. -/
theorem dispatchMessage (h : s.Ordered) (hs : s.dispatchMessage = some s') : s'.Ordered := by
  unfold State.dispatchMessage at hs
  split at hs
  · next message hloop =>
    obtain rfl := Option.some.inj hs
    have hreceived := h.received
    rw [hloop] at hreceived
    refine ⟨?_, h.sent, h.resting, h.reading, fun hpc => absurd (hloop.symm.trans (h.started hpc)) nofun⟩
    show messages (s.hist.events ++ [(_, s.readyState)]) ++ [] = s.hist.handedOut
    rw [Inbox.messages_append, message?_eventData, List.append_nil]
    exact hreceived
  · cases hs

/-- The handshake has succeeded. -/
theorem established (h : s.Ordered) {protocol : String} (hs : s.established protocol = some s') :
    s'.Ordered := by
  unfold State.established at hs
  split at hs
  · next hpc =>
    dsimp only at hs
    split at hs
    · next code reason hclose =>
      obtain rfl := Option.some.inj hs
      have hconnected : ({ s with host := { s.host with connected := true } } : State).Ordered :=
        h.congr rfl rfl rfl rfl rfl rfl rfl h.started
      exact (hconnected.closeUnderlying code reason).congr rfl rfl rfl rfl rfl rfl rfl
        fun _ => h.started (.inl hpc)
    · obtain rfl := Option.some.inj hs
      refine State.Ordered.log ?_ ?_
      · exact h.congr rfl rfl rfl rfl rfl rfl rfl fun _ => h.started (.inl hpc)
      · rfl
  · cases hs

/-- `#settle` goes on. -/
theorem settleRuns (h : s.Ordered) (hs : s.settleRuns = some s') : s'.Ordered := by
  unfold State.settleRuns at hs
  split at hs
  · dsimp only at hs
    split at hs
    · obtain rfl := Option.some.inj hs
      exact h.congr rfl rfl rfl rfl rfl rfl rfl h.started
    · split at hs
      · obtain rfl := Option.some.inj hs
        refine State.Ordered.log ?_ ?_
        · exact h.congr rfl rfl rfl rfl rfl rfl rfl h.started
        · rfl
      · obtain rfl := Option.some.inj hs
        refine State.Ordered.log ?_ ?_
        · exact h.congr rfl rfl rfl rfl rfl rfl rfl h.started
        · rfl
  · cases hs

/-- Every step keeps the order. -/
theorem step (h : s.Ordered) {a : Action} (hs : Shim.step s a = some s') : s'.Ordered := by
  replace hs := move_of_step hs
  cases a with
  | send data =>
    obtain rfl := Option.some.inj hs
    exact h.send data
  | close code reason =>
    obtain rfl := Option.some.inj hs
    exact h.close code reason
  | setBinaryType =>
    obtain rfl := Option.some.inj hs
    exact h.congr rfl rfl rfl rfl rfl rfl rfl h.started
  | established protocol => exact h.established hs
  | runSend => exact h.runSend hs
  | blobRead => exact h.blobRead hs
  | uncount => exact h.uncount hs
  | dispatchMessage => exact h.dispatchMessage hs
  | hostReceive => exact h.hostReceive hs
  | settleRuns => exact h.settleRuns hs
  | sendSettled =>
    simp only [move, State.sendSettled] at hs
    split at hs
    · next hstage =>
      obtain rfl := Option.some.inj hs
      obtain ⟨entry, rest, hqueue⟩ : ∃ entry rest, s.sendQueue = entry :: rest := by
        cases hqueue : s.sendQueue with
        | nil => exact absurd ((h.resting hqueue).symm.trans hstage) nofun
        | cons entry rest => exact ⟨entry, rest, rfl⟩
      exact h.settles hqueue
    · cases hs
  | failed =>
    simp only [move, State.failed] at hs
    split at hs
    · next hpc =>
      split at hs
      · obtain rfl := Option.some.inj hs
        exact h.congr rfl rfl rfl rfl rfl rfl rfl fun _ => h.started (.inl hpc)
      · obtain rfl := Option.some.inj hs
        refine State.Ordered.log ?_ ?_
        · exact h.congr rfl rfl rfl rfl rfl rfl rfl fun _ => h.started (.inl hpc)
        · rfl
    · cases hs
  | failedCloses =>
    simp only [move, State.failedCloses] at hs
    split at hs
    · obtain rfl := Option.some.inj hs
      refine State.Ordered.log ?_ ?_
      · exact h.congr rfl rfl rfl rfl rfl rfl rfl (by rintro (hno | hno) <;> cases hno)
      · rfl
    · cases hs
  | settleCloses =>
    simp only [move, State.settleCloses] at hs
    split at hs
    · obtain rfl := Option.some.inj hs
      refine State.Ordered.log ?_ ?_
      · exact h.congr rfl rfl rfl rfl rfl rfl rfl h.started
      · rfl
    · cases hs
  | startLoops =>
    simp only [move, State.startLoops] at hs
    split at hs
    · next hpc =>
      obtain rfl := Option.some.inj hs
      refine h.congr rfl ?_ rfl rfl rfl rfl rfl ?_
      · rw [h.started (.inr hpc)]
        rfl
      · rintro (hno | hno) <;> cases hno
    · cases hs
  | receiveAgain =>
    simp only [move, State.receiveAgain] at hs
    split at hs
    · next hloop =>
      obtain rfl := Option.some.inj hs
      refine h.congr rfl ?_ rfl rfl rfl rfl rfl fun hpc => absurd (hloop.symm.trans (h.started hpc)) nofun
      rw [hloop]
      rfl
    · cases hs
  | hostReceiveFails =>
    simp only [move, State.hostReceiveFails] at hs
    split at hs
    · next hwhy =>
      obtain rfl := Option.some.inj hs
      refine h.congr rfl ?_ rfl rfl rfl rfl rfl fun hpc => absurd (hwhy.1.symm.trans (h.started hpc)) nofun
      rw [hwhy.1]
      rfl
    · cases hs
  | hostWaitResolves =>
    simp only [move, State.hostWaitResolves] at hs
    split at hs
    · obtain rfl := Option.some.inj hs
      exact h.congr rfl rfl rfl rfl rfl rfl rfl h.started
    · cases hs
  | hostArrive | hostDiscard | hostClose =>
    simp only [move] at hs
    split at hs
    · obtain rfl := Option.some.inj hs
      exact h.congr rfl rfl rfl rfl rfl rfl rfl h.started
    · cases hs

end State.Ordered

/-- The messages pass the shim in order, in every run. -/
theorem ordered (h : system.Reachable s) : s.Ordered := by
  refine System.Reachable.induction (I := State.Ordered) ?_ (fun _ _ _ _ ih hs => ih.step hs) h
  rintro _ ⟨url, rfl⟩
  exact ⟨rfl, ⟨[], rfl, [], .refl _, .nil⟩, fun _ => rfl, nofun, fun _ => rfl⟩

end Polymorph.Shim
