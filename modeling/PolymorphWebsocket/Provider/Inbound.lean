import PolymorphWebsocket.Provider.Frames
import PolymorphWebsocket.Provider.Protocol

/-!
# The guest provider: inbound delivery

The reader queues data messages under the budget until the first overflow or closing event; receive
calls, and after a stream claim the feeder, take them from the queue.  `InboxSound` ties the three
together: what was taken, followed by what is still queued, is the part of the data messages read
before that event.  `ReceiveSound` says who took them.

When the queue has ended, the next poll of its receiver hands out the end and terminates it.  A
terminated receiver is skipped by the select of a receive call, so a later receive call waits for
ever.  `inbound_delivery` says exactly which receive calls see the end of the queue.
-/

namespace Polymorph.Provider

open Futures Transition

variable {T : Tungstenite} {s s' : State T}

/-- The condition on a step: it makes no local close. -/
def NoLocalClose (_ : State T) (a : Action) : Prop :=
  a ≠ .drop ∧ ∀ code reason, a = .close code reason → validateCloseArgs code reason ≠ .ok ()

instance (s : State T) (a : Action) : Decidable (NoLocalClose s a) :=
  match a with
  | .drop => .isFalse fun h => h.1 rfl
  | .close code reason =>
    decidable_of_iff (validateCloseArgs code reason ≠ .ok ()) (by simp [NoLocalClose])
  | .send _ | .receive | .receiveViaStream | .pollReceive _ | .reader | .cmd | .lock _
  | .writeDone _ | .writeBound _ | .accept _ | .refuse | .chunk _ | .transportEnd | .feederLock
  | .feederNext | .elementTaken | .streamDropped | .payloadTaken _ | .payloadDone
  | .payloadDropped | .tick _ => .isTrue ⟨nofun, nofun⟩

/-- A call of `close` that is no local close changes nothing. -/
theorem NoLocalClose.callClose_eq {code : Option UInt16} {reason : String}
    (h : NoLocalClose s (.close code reason)) : s.callClose code reason = s := by
  rcases callClose_cases s code reason with ⟨-, hk⟩ | ⟨-, hv, -⟩ | ⟨-, hv, -⟩
  · exact hk
  · exact (h.2 code reason rfl hv).elim
  · exact (h.2 code reason rfl hv).elim

/-- How many data messages were read before the first overflow or closing event, or so far. -/
def History.accepted (hist : History) : Nat := hist.cut.getD hist.data.length

/-- The inbound queue of a connection without a local close. -/
structure State.InboxSound (s : State T) : Prop where
  localClosed : s.shared.localClosed = false
  queued : s.hist.taken ++ s.shared.queue.items = s.hist.data.take s.hist.accepted
  cut_le : ∀ n, s.hist.cut = some n → n ≤ s.hist.data.length
  cut_none : s.hist.cut = none ↔
    s.flags.wireClosing = false ∧ s.shared.budget.overflowed = false
  sender : s.shared.queue.senderLive = true ↔ s.reader ≠ .finished

namespace State.InboxSound

/-- It speaks of the inbound side only. -/
theorem congr (h : s.InboxSound) (hlocal : s'.shared.localClosed = s.shared.localClosed)
    (htaken : s'.hist.taken = s.hist.taken) (hqueue : s'.shared.queue = s.shared.queue)
    (hdata : s'.hist.data = s.hist.data) (hcut : s'.hist.cut = s.hist.cut)
    (hclosing : s'.flags.wireClosing = s.flags.wireClosing)
    (hover : s'.shared.budget.overflowed = s.shared.budget.overflowed)
    (hreader : s'.reader = .finished ↔ s.reader = .finished) : s'.InboxSound := by
  have haccepted : s'.hist.accepted = s.hist.accepted := by
    rw [History.accepted, hcut, hdata]
    rfl
  refine ⟨hlocal ▸ h.localClosed, ?_, ?_, ?_, ?_⟩
  · rw [htaken, hqueue, hdata, haccepted]; exact h.queued
  · rw [hcut, hdata]; exact h.cut_le
  · rw [hcut, hclosing, hover]; exact h.cut_none
  · rw [hqueue, h.sender, ne_eq, ne_eq, hreader]

/-- The first overflow or closing event cuts the data messages where they are; a later one cuts
nothing. -/
theorem cutHere (h : s.InboxSound) (hlocal : s'.shared.localClosed = s.shared.localClosed)
    (htaken : s'.hist.taken = s.hist.taken) (hqueue : s'.shared.queue = s.shared.queue)
    (hdata : s'.hist.data = s.hist.data)
    (hcut : s'.hist.cut = s.hist.cut.or (some s.hist.data.length))
    (hclosing : s'.flags.wireClosing = true ∨ s'.shared.budget.overflowed = true)
    (hreader : s'.reader = .finished ↔ s.reader = .finished) : s'.InboxSound := by
  have haccepted : s'.hist.accepted = s.hist.accepted := by
    rw [History.accepted, hcut, hdata]
    cases hc : s.hist.cut <;> simp [History.accepted, hc]
  refine ⟨hlocal ▸ h.localClosed, ?_, fun n hn => ?_, ?_, ?_⟩
  · rw [htaken, hqueue, hdata, haccepted]; exact h.queued
  · rw [hcut] at hn
    rw [hdata]
    cases hc : s.hist.cut with
    | none =>
      obtain rfl : s.hist.data.length = n := by simpa [hc] using hn
      exact le_rfl
    | some k =>
      obtain rfl : k = n := by simpa [hc] using hn
      exact h.cut_le k hc
  · have hsome : s'.hist.cut ≠ none := by
      rw [hcut]
      cases s.hist.cut <;> simp
    refine ⟨fun hnone => (hsome hnone).elim, fun ⟨hw, ho⟩ => ?_⟩
    rcases hclosing with hc | hc
    · exact (Bool.false_ne_true (hw.symm.trans hc)).elim
    · exact (Bool.false_ne_true (ho.symm.trans hc)).elim
  · rw [hqueue, h.sender, ne_eq, ne_eq, hreader]

/-- A data message read behind the cut changes nothing that was accepted. -/
theorem take_behind (h : s.InboxSound) {n : Nat} (hcut : s.hist.cut = some n) (message : Message) :
    (s.hist.data ++ [message]).take n = s.hist.data.take s.hist.accepted := by
  rw [List.take_append_of_le_length (h.cut_le n hcut), History.accepted, hcut]
  rfl

/-- Without a cut, everything read so far is accepted. -/
theorem take_all (hcut : s.hist.cut = none) : s.hist.data.take s.hist.accepted = s.hist.data := by
  simp [History.accepted, hcut]

/-- A data message is queued behind the others, or comes behind the cut, or makes the cut. -/
theorem deliver (h : s.InboxSound) (hr : s.reader ≠ .finished) (message : Message) :
    (s.deliver message).InboxSound := by
  rcases deliver_cases s message with ⟨hw, hd⟩ | ⟨hw, budget, hb, hd⟩ | ⟨hw, budget, hb, hd⟩ <;>
    rw [hd]
  · obtain ⟨n, hcut⟩ : ∃ n, s.hist.cut = some n := by
      refine Option.ne_none_iff_exists'.mp fun hnone => ?_
      exact Bool.false_ne_true ((h.cut_none.mp hnone).1.symm.trans hw)
    refine ⟨h.localClosed, ?_, fun k hk => ?_, h.cut_none, h.sender⟩
    · change _ = (s.hist.data ++ [message]).take (s.hist.cut.getD _)
      rw [hcut]
      exact h.queued.trans (h.take_behind hcut message).symm
    · exact (h.cut_le k hk).trans (by simp)
  · -- The reservation fits, so neither an overflow nor a closing event has been seen.
    have hover : s.shared.budget.overflowed = false := Budget.overflowed_of_reserve hb
    have hover' : budget.overflowed = false := by
      simpa [hb] using s.shared.budget.reserve_overflowed message.payloadLen
    have hcut : s.hist.cut = none := h.cut_none.mpr ⟨hw, hover⟩
    have hitems : (s.shared.queue.push message).items = s.shared.queue.items ++ [message] :=
      Receiver.push_items_of_live (h.sender.mpr hr) message
    refine ⟨h.localClosed, ?_, fun k hk => ?_, ?_, h.sender⟩
    · change s.hist.taken ++ (s.shared.queue.push message).items =
        (s.hist.data ++ [message]).take (s.hist.cut.getD _)
      rw [hitems, hcut, ← List.append_assoc, h.queued, take_all hcut]
      exact (List.take_length (l := s.hist.data ++ [message])).symm
    · cases hcut.symm.trans hk
    · change s.hist.cut = none ↔ s.flags.wireClosing = false ∧ budget.overflowed = false
      simp [hcut, hw, hover']
  · have hover' : budget.overflowed = true := by
      simpa [hb] using s.shared.budget.reserve_overflowed message.payloadLen
    refine ⟨h.localClosed, ?_, fun k hk => ?_, ?_, h.sender⟩
    · change s.hist.taken ++ s.shared.queue.items =
        (s.hist.data ++ [message]).take ((s.hist.cut.or (some s.hist.data.length)).getD _)
      cases hcut : s.hist.cut with
      | none =>
        rw [h.queued, take_all hcut]
        simp
      | some n => exact h.queued.trans (h.take_behind hcut message).symm
    · change s.hist.cut.or (some s.hist.data.length) = some k at hk
      change k ≤ (s.hist.data ++ [message]).length
      cases hcut : s.hist.cut with
      | none =>
        obtain rfl : s.hist.data.length = k := by simpa [hcut] using hk
        simp
      | some n =>
        obtain rfl : n = k := by simpa [hcut] using hk
        exact (h.cut_le n hcut).trans (by simp)
    · change s.hist.cut.or (some s.hist.data.length) = none ↔
        s.flags.wireClosing = false ∧ budget.overflowed = false
      cases s.hist.cut <;> simp [hover']

/-! ### The reader task -/

/-- Beginning to close touches nothing of the inbound side but a flag. -/
theorem beginClose (h : s.InboxSound) (frame : Option CloseFrame) :
    (s.beginClose frame).2.InboxSound := by
  have hclosing : (s.closing frame).InboxSound :=
    h.cutHere rfl rfl rfl rfl rfl (.inl (PumpFlags.armDeadline_wireClosing ..)) Iff.rfl
  rcases beginClose_cases s frame with ⟨-, hb⟩ | ⟨-, _, _, -, hb⟩ | ⟨-, _, _, -, hb⟩ <;> rw [hb]
  · exact h
  · exact hclosing.congr rfl rfl rfl rfl rfl rfl rfl Iff.rfl
  · exact hclosing.congr rfl rfl rfl rfl rfl rfl rfl Iff.rfl

/-- Suspending the reader elsewhere changes nothing, short of finishing it. -/
theorem readerPc (h : s.InboxSound) {pc : ReaderPc} (hpc : pc ≠ .finished)
    (hr : s.reader ≠ .finished) : ({ s with reader := pc } : State T).InboxSound :=
  h.congr rfl rfl rfl rfl rfl rfl rfl (by simp [hpc, hr])

/-- The reader task goes on, and has not finished. -/
theorem readerGoes (h : s.InboxSound) (hr : s.reader ≠ .finished) (flush : Bool)
    (next : ReaderNext) : (s.readerGoes flush next).InboxSound := by
  refine h.readerPc ?_ hr
  cases flush <;> cases next <;> simp [ReaderNext.pc]

/-- So it does after a close that an overflow begins. -/
theorem readerCloses (h : s.InboxSound) (hr : s.reader ≠ .finished) (next : ReaderNext) :
    ((s.beginClose none).2.readerGoes (s.beginClose none).1 next).InboxSound :=
  (h.beginClose none).readerGoes ((CmdFrame.beginClose s none).reader ▸ hr) _ next

/-- Each result of a read of the drain loop. -/
theorem drainRead (h : s.InboxSound) (hr : s.reader ≠ .finished) (read : Option Inbound) :
    (s.drainRead read).InboxSound := by
  have hdata (message : Message) : (s.readData message).InboxSound := by
    have hdeliver := h.deliver hr message
    have hr' : (s.deliver message).reader ≠ .finished := deliver_reader s message ▸ hr
    simp only [State.readData]
    split
    · exact hdeliver.readerCloses hr' .drain
    · exact hdeliver.readerGoes hr' false .drain
  rcases read with - | i
  · exact h.readerPc (by simp) hr
  cases i with
  | binary bytes => exact hdata _
  | text text => exact hdata _
  | close frame =>
    exact h.cutHere rfl rfl rfl rfl rfl (.inl rfl) (by simp [State.drainRead, State.readerGoes, hr])
  | capacity =>
    have hlatch : (s.latchOverflow.noteCut s.hist.data.length).InboxSound :=
      h.cutHere rfl rfl rfl rfl rfl (.inr rfl) Iff.rfl
    exact hlatch.readerCloses hr .finalize
  | ping | pong => exact h.readerGoes hr true .drain
  | frame => exact h.readerGoes hr false .drain
  | connectionClosed | error => exact h.readerPc (by simp) hr

/-- Each result of the one read after the loop. -/
theorem lastDrainRead (h : s.InboxSound) (hr : s.reader ≠ .finished) (read : Option Inbound) :
    (s.lastDrainRead read).InboxSound := by
  rcases read with - | i
  · exact h.readerPc (by simp) hr
  cases i with
  | binary bytes => exact h.deliver hr _
  | text text => exact h.deliver hr _
  | ping | pong | frame => exact h
  | close | capacity | connectionClosed | error =>
    exact h.congr rfl rfl rfl rfl rfl rfl rfl (by simp [State.lastDrainRead, hr])

/-- The reader task keeps the queue, and ends it when it finishes. -/
theorem reader (h : s.InboxSound) (hs : s.readerStep = some s') : s'.InboxSound := by
  have hread : s.webSocketRead.2.InboxSound := h.congr rfl rfl rfl rfl rfl rfl rfl Iff.rfl
  unfold State.readerStep at hs
  split at hs
  · next hr =>
    cases hs
    exact hread.drainRead (by change s.reader ≠ _; simp [hr]) _
  · next hr =>
    cases hs
    exact hread.lastDrainRead (by change s.reader ≠ _; simp [hr]) _
  · cases hs
    refine ⟨h.localClosed, h.queued, h.cut_le, h.cut_none, ?_⟩
    simp [State.readerFinalize]
  · next hr =>
    split at hs
    · cases hs
      exact h.readerPc (by simp) (by simp [hr])
    · cases hs
  · cases hs
  · cases hs

end State.InboxSound

/-! ### What a receive call and the feeder do -/

/-- The error of a drained queue: overflow, if latched, over closed. -/
def State.queueEnd (s : State T) : Error :=
  if s.shared.budget.overflowed then .receiveBufferOverflow else .closed

/-- What one poll of a receive call by itself can do: fail because the stream was claimed or the
connection closed locally, take the oldest message, take the end of the queue, or wait. -/
inductive Receives (s : State T) (id : Nat) (s' : State T) : Prop
  | claimed (hs : s.shared.streamStarted = true) (hq : s'.shared.queue = s.shared.queue)
      (hb : s'.shared.budget = s.shared.budget) (ht : s'.hist.taken = s.hist.taken)
      (hr : s'.hist.received = s.hist.received ++ [(id, .error .receivingViaStream)])
  | closed (hl : s.shared.localClosed = true) (hq : s'.shared.queue = s.shared.queue)
      (hb : s'.shared.budget = s.shared.budget) (ht : s'.hist.taken = s.hist.taken)
  | message (m : Message) (hs : s.shared.streamStarted = false)
      (hi : s.shared.queue.items = m :: s'.shared.queue.items)
      (hq : s'.shared.queue.senderLive = s.shared.queue.senderLive ∧
        s'.shared.queue.terminated = s.shared.queue.terminated)
      (hb : s'.shared.budget = s.shared.budget.release m.payloadLen)
      (ht : s'.hist.taken = s.hist.taken ++ [m])
      (hr : s'.hist.received = s.hist.received ++ [(id, .ok m)])
  | ended (hs : s.shared.streamStarted = false) (hi : s.shared.queue.items = [])
      (hl : s.shared.queue.senderLive = false) (hn : s.shared.queue.terminated = false)
      (hq : s'.shared.queue.items = [] ∧ s'.shared.queue.senderLive = false ∧
        s'.shared.queue.terminated = true)
      (hb : s'.shared.budget = s.shared.budget) (ht : s'.hist.taken = s.hist.taken)
      (hr : s'.hist.received = s.hist.received ++ [(id, .error s.queueEnd)])
  | waits (hs : s.shared.streamStarted = false) (hi : s.shared.queue.items = [])
      (hl : s.shared.queue.senderLive = true ∨ s.shared.queue.terminated = true)
      (hq : s'.shared.queue = s.shared.queue) (hb : s'.shared.budget = s.shared.budget)
      (ht : s'.hist.taken = s.hist.taken) (hr : s'.hist.received = s.hist.received)

/-- What the select of a `receive` call does. -/
theorem receives_select (s : State T) (id : Nat) : Receives s id (s.receiveSelect id) := by
  simp only [State.receiveSelect]
  split
  · next hs => exact .claimed hs rfl rfl rfl rfl
  · next hs =>
    have hs : s.shared.streamStarted = false := by simpa using hs
    split
    · next hl => exact .closed hl rfl rfl rfl
    · rcases s.shared.queue.pollArm_cases with
        ⟨m, q, hp, hi, hlive, hterm⟩ | ⟨hp, hi, hl⟩ | ⟨q, hp, hi, hl, hn, hi', hl', hn'⟩ |
        ⟨hp, hi, hl, hn⟩ <;> rw [hp]
      · exact .message m hs hi ⟨hlive, hterm⟩ rfl rfl rfl
      · exact .waits hs hi (.inl hl) rfl rfl rfl rfl
      · exact .ended hs hi hl hn ⟨hi', hl', hn'⟩ rfl rfl rfl
      · exact .waits hs hi (.inr hn) rfl rfl rfl rfl

/-- A poll that goes through does what the select of the receive call does. -/
theorem receives_of_poll {id : Nat} (h : s.pollReceive id = some s') : Receives s id s' := by
  unfold State.pollReceive at h
  split at h
  · cases h
    exact receives_select s id
  · split at h
    · cases h
      have hsel := receives_select ({ s with receives := s.receives.erase id } : State T) id
      cases hsel with
      | claimed hs hq hb ht hr => exact .claimed hs hq hb ht hr
      | closed hl hq hb ht => exact .closed hl hq hb ht
      | message m hs hi hq hb ht hr => exact .message m hs hi hq hb ht hr
      | ended hs hi hl hn hq hb ht hr => exact .ended hs hi hl hn hq hb ht hr
      | waits hs hi hl hq hb ht hr => exact .waits hs hi hl hq hb ht hr
    · cases h

/-- What the feeder's select can do: end on a local close, take the oldest message, or end with the
queue. -/
inductive Feeds (s s' : State T) : Prop
  | closed (hl : s.shared.localClosed = true)
  | message (m : Message) (hi : s.shared.queue.items = m :: s'.shared.queue.items)
      (hq : s'.shared.queue.senderLive = s.shared.queue.senderLive ∧
        s'.shared.queue.terminated = s.shared.queue.terminated)
      (hb : s'.shared.budget = s.shared.budget.release m.payloadLen)
      (ht : s'.hist.taken = s.hist.taken ++ [m]) (hr : s'.hist.received = s.hist.received)
      (hf : s'.feeder = .element m)
  | ended (hi : s.shared.queue.items = []) (hl : s.shared.queue.senderLive = false)
      (hq : s'.shared.queue.items = [] ∧ s'.shared.queue.senderLive = false)
      (hb : s'.shared.budget = s.shared.budget) (ht : s'.hist.taken = s.hist.taken)
      (hr : s'.hist.received = s.hist.received) (hf : s'.feeder = .ended)

/-- What the select of the feeder does. -/
theorem feeds_of_select (h : s.feederSelect = some s') : Feeds s s' := by
  unfold State.feederSelect at h
  split at h
  · next hl => exact .closed hl
  · rcases s.shared.queue.pollArm_cases with
      ⟨m, q, hp, hi, hlive, hterm⟩ | ⟨hp, hi, hl⟩ | ⟨q, hp, hi, hl, hn, hi', hl', hn'⟩ |
      ⟨hp, hi, hl, hn⟩ <;> rw [hp] at h <;> cases h
    · exact .message m hi ⟨hlive, hterm⟩ rfl rfl rfl rfl
    · exact .ended hi hl ⟨hi', hl'⟩ rfl rfl rfl rfl

namespace State.InboxSound

/-- Taking the oldest message moves it from the queue to the messages taken. -/
theorem take (h : s.InboxSound) (hf : InboxFrame s s') {m : Message}
    (hi : s.shared.queue.items = m :: s'.shared.queue.items)
    (hl : s'.shared.queue.senderLive = s.shared.queue.senderLive)
    (ht : s'.hist.taken = s.hist.taken ++ [m]) : s'.InboxSound := by
  rw [hf]
  refine ⟨h.localClosed, ?_, h.cut_le, h.cut_none, ?_⟩
  · have hqueued := h.queued
    rw [hi] at hqueued
    change s'.hist.taken ++ s'.shared.queue.items = _
    rw [ht, List.append_assoc]
    exact hqueued
  · change s'.shared.queue.senderLive = true ↔ _
    rw [hl]
    exact h.sender

/-- Leaving the messages where they are changes nothing. -/
theorem keep (h : s.InboxSound) (hf : InboxFrame s s')
    (hi : s'.shared.queue.items = s.shared.queue.items)
    (hl : s'.shared.queue.senderLive = s.shared.queue.senderLive)
    (ht : s'.hist.taken = s.hist.taken) : s'.InboxSound := by
  rw [hf]
  refine ⟨h.localClosed, ?_, h.cut_le, h.cut_none, ?_⟩
  · change s'.hist.taken ++ s'.shared.queue.items = _
    rw [ht, hi]
    exact h.queued
  · change s'.shared.queue.senderLive = true ↔ _
    rw [hl]
    exact h.sender

/-- A poll of a `receive` call. -/
theorem pollReceive (h : s.InboxSound) {id : Nat} (hp : s.pollReceive id = some s') :
    s'.InboxSound := by
  have hf := InboxFrame.pollReceive hp
  cases receives_of_poll hp with
  | claimed _ hq _ ht _ => exact h.keep hf (by rw [hq]) (by rw [hq]) ht
  | closed _ hq _ ht => exact h.keep hf (by rw [hq]) (by rw [hq]) ht
  | message m _ hi hq _ ht _ => exact h.take hf hi hq.1 ht
  | ended _ hi hl _ hq _ ht _ => exact h.keep hf (hq.1.trans hi.symm) (hq.2.1.trans hl.symm) ht
  | waits _ _ _ hq _ ht _ => exact h.keep hf (by rw [hq]) (by rw [hq]) ht

/-- The select of the feeder. -/
theorem feederSelect (h : s.InboxSound) (hs : s.feederSelect = some s') : s'.InboxSound := by
  have hf := InboxFrame.feederSelect hs
  cases feeds_of_select hs with
  | closed hl => exact (Bool.false_ne_true (h.localClosed.symm.trans hl)).elim
  | message m hi hq _ ht _ _ => exact h.take hf hi hq.1 ht
  | ended hi hl hq _ ht _ _ => exact h.keep hf (hq.1.trans hi.symm) (hq.2.trans hl.symm) ht

/-- Every move of the guest's side, a local close apart. -/
theorem guest (h : s.InboxSound) {a : Action} (hc : NoLocalClose s a) (hm : GuestMove s a s') :
    s'.InboxSound := by
  cases hm with
  | send message =>
    simp only [State.callSend]
    split <;> exact h.congr rfl rfl rfl rfl rfl rfl rfl Iff.rfl
  | receive =>
    simp only [State.callReceive]
    split
    · exact h.congr rfl rfl rfl rfl rfl rfl rfl Iff.rfl
    · split <;> exact h.congr rfl rfl rfl rfl rfl rfl rfl Iff.rfl
  | receiveViaStream =>
    simp only [State.callReceiveViaStream]
    split
    · exact h
    · split <;> exact h.congr rfl rfl rfl rfl rfl rfl rfl Iff.rfl
  | close code reason =>
    rw [hc.callClose_eq]
    exact h
  | drop => exact (hc.1 rfl).elim
  | pollReceive hp => exact h.pollReceive hp
  | feederNext _ hs => exact h.feederSelect hs
  | feederLock | taken | dropped => exact h.congr rfl rfl rfl rfl rfl rfl rfl Iff.rfl

/-- The command task leaves the inbound side alone. -/
theorem cmd (h : s.InboxSound) (hs : s.cmdStep = some s') : s'.InboxSound := by
  have hcloses (c : State T) (hc : c.InboxSound) (frame : Option CloseFrame) (next : CmdNext) :
      ((c.beginClose frame).2.cmdGoes (c.beginClose frame).1 next).InboxSound :=
    (hc.beginClose frame).congr rfl rfl rfl rfl rfl rfl rfl Iff.rfl
  have hpop (rest : List Cmd) : (s.popCmd rest).InboxSound :=
    h.congr rfl rfl rfl rfl rfl rfl rfl Iff.rfl
  unfold State.cmdStep at hs
  split at hs
  · split at hs
    · cases hs; exact h.congr rfl rfl rfl rfl rfl rfl rfl Iff.rfl
    · split at hs
      · next c rest _ =>
        cases hs
        cases c with
        | send id message =>
          simp only [State.cmdLive, State.cmdSend]
          split
          · exact h.congr rfl rfl rfl rfl rfl rfl rfl Iff.rfl
          · simp only [State.webSocketSend]
            rcases T.send (s.popCmd rest).ws message with ⟨err | frame, ws⟩ <;>
              exact h.congr rfl rfl rfl rfl rfl rfl rfl Iff.rfl
        | close code reason => exact hcloses _ (hpop rest) _ _
        | claimStream => exact h.congr rfl rfl rfl rfl rfl rfl rfl Iff.rfl
      · split at hs
        · cases hs
        · cases hs; exact hcloses _ h none _
  · split at hs
    · next c rest _ =>
      cases hs
      cases c <;> exact h.congr rfl rfl rfl rfl rfl rfl rfl Iff.rfl
    · split at hs
      · cases hs
      · cases hs; exact h.congr rfl rfl rfl rfl rfl rfl rfl Iff.rfl
  · cases hs
  · cases hs

end State.InboxSound

/-! ### Who takes the messages -/

/-- The messages that receive calls returned, in order. -/
def History.returned (hist : History) : List Message :=
  hist.received.filterMap fun result => result.2.toOption

/-- A receive call has been handed the end of the queue. -/
def State.EndReceived (s : State T) : Prop :=
  ∃ id err, (id, Except.error err) ∈ s.hist.received ∧
    (err = .closed ∨ err = .receiveBufferOverflow)

instance (s : State T) : Decidable s.EndReceived :=
  decidable_of_iff (∃ result ∈ s.hist.received,
      result.2 = .error .closed ∨ result.2 = .error .receiveBufferOverflow) <| by
    constructor
    · rintro ⟨⟨id, result⟩, hmem, rfl | rfl⟩
      · exact ⟨id, _, hmem, .inl rfl⟩
      · exact ⟨id, _, hmem, .inr rfl⟩
    · rintro ⟨id, err, hmem, rfl | rfl⟩
      · exact ⟨_, hmem, .inl rfl⟩
      · exact ⟨_, hmem, .inr rfl⟩

/-- The stream claim and the messages taken, in a connection without a local close. -/
structure State.ReceiveSound (s : State T) : Prop where
  started : s.shared.streamStarted = s.shared.streamClaimed
  claim : Cmd.claimStream ∈ s.shared.cmds → s.shared.streamClaimed = true
  feeder : s.feeder ≠ .idle → s.shared.streamClaimed = true
  unclaimed : s.shared.streamClaimed = false → s.hist.returned = s.hist.taken
  returned : s.hist.returned <+: s.hist.taken
  ended : s.shared.streamClaimed = false →
    (s.shared.queue.terminated = true ↔ s.EndReceived)

namespace State.ReceiveSound

/-- It speaks of the claim, the receive calls and the end of the queue only. -/
theorem congr (h : s.ReceiveSound) (hstarted : s'.shared.streamStarted = s.shared.streamStarted)
    (hclaimed : s'.shared.streamClaimed = s.shared.streamClaimed)
    (hcmds : Cmd.claimStream ∈ s'.shared.cmds → Cmd.claimStream ∈ s.shared.cmds)
    (hfeeder : s'.feeder ≠ .idle → s.shared.streamClaimed = true)
    (hreceived : s'.hist.received = s.hist.received) (htaken : s'.hist.taken = s.hist.taken)
    (hterm : s'.shared.queue.terminated = s.shared.queue.terminated) : s'.ReceiveSound := by
  have hreturned : s'.hist.returned = s.hist.returned := by
    rw [History.returned, hreceived]; rfl
  have hend : s'.EndReceived ↔ s.EndReceived := by
    rw [State.EndReceived, hreceived]; rfl
  refine ⟨?_, fun hc => ?_, fun hf => ?_, fun hc => ?_, ?_, fun hc => ?_⟩
  · rw [hstarted, hclaimed]; exact h.started
  · rw [hclaimed]; exact h.claim (hcmds hc)
  · rw [hclaimed]; exact hfeeder hf
  · rw [hreturned, htaken]; exact h.unclaimed (hclaimed ▸ hc)
  · rw [hreturned, htaken]; exact h.returned
  · rw [hterm, hend]; exact h.ended (hclaimed ▸ hc)

/-- The reader leaves the termination of the queue alone. -/
theorem reader_terminated (hs : s.readerStep = some s') :
    s'.shared.queue.terminated = s.shared.queue.terminated := by
  have hdeliver (c : State T) (message : Message) :
      (c.deliver message).shared.queue.terminated = c.shared.queue.terminated := by
    rcases deliver_cases c message with ⟨-, h⟩ | ⟨-, _, -, h⟩ | ⟨-, _, -, h⟩ <;> rw [h] <;> rfl
  have hcloses (c : State T) (frame : Option CloseFrame) :
      (c.beginClose frame).2.shared.queue.terminated = c.shared.queue.terminated := by
    rw [CmdFrame.beginClose c frame]
  have hdata (c : State T) (message : Message) :
      (c.readData message).shared.queue.terminated = c.shared.queue.terminated := by
    simp only [State.readData]
    split
    · exact (hcloses _ none).trans (hdeliver c message)
    · exact hdeliver c message
  unfold State.readerStep at hs
  split at hs
  · cases hs
    have hread (c : State T) (read : Option Inbound) :
        (c.drainRead read).shared.queue.terminated = c.shared.queue.terminated := by
      rcases read with - | i
      · rfl
      cases i with
      | binary | text => exact hdata c _
      | capacity => exact hcloses _ none
      | close | ping | pong | frame | connectionClosed | error => rfl
    exact hread s.webSocketRead.2 _
  · cases hs
    have hread (c : State T) (read : Option Inbound) :
        (c.lastDrainRead read).shared.queue.terminated = c.shared.queue.terminated := by
      rcases read with - | i
      · rfl
      cases i with
      | binary | text => exact hdeliver c _
      | capacity | close | ping | pong | frame | connectionClosed | error => rfl
    exact hread s.webSocketRead.2 _
  · cases hs; rfl
  · split at hs
    · cases hs; rfl
    · cases hs
  · cases hs
  · cases hs

/-- The feeder starts only for a claim. -/
theorem cmd_feeder (hs : s.cmdStep = some s') :
    s'.feeder = s.feeder ∨ Cmd.claimStream ∈ s.shared.cmds := by
  rcases cmdStep_takes hs with ⟨-, hfeeder, -⟩ | ⟨taken, hcmds, hfeeder⟩
  · exact .inl hfeeder
  · by_cases hclaim : taken = .claimStream
    · exact .inr (by simp [hcmds, hclaim])
    · rw [if_neg hclaim] at hfeeder
      exact .inl hfeeder

/-- The messages returned after one more result. -/
theorem returned_append {hist : History} {id : Nat} {result : Except Error Message}
    (h : hist.received = s.hist.received ++ [(id, result)]) :
    hist.returned = s.hist.returned ++ result.toOption.toList := by
  rw [History.returned, h, List.filterMap_append]
  cases result <;> rfl

/-- A receive call that is polled returns the oldest message, the end of the queue, or the claim. -/
theorem pollReceive (h : s.ReceiveSound) (hi : s.InboxSound) {id : Nat}
    (hp : s.pollReceive id = some s') : s'.ReceiveSound := by
  have hf := InboxFrame.pollReceive hp
  have hstarted : s'.shared.streamStarted = s.shared.streamStarted := by rw [hf]
  have hclaimed : s'.shared.streamClaimed = s.shared.streamClaimed := by rw [hf]
  have hcmds : Cmd.claimStream ∈ s'.shared.cmds → Cmd.claimStream ∈ s.shared.cmds := by
    rw [hf]
    exact fun hmem => hmem
  have hfeeder : s'.feeder ≠ .idle → s.shared.streamClaimed = true :=
    pollReceive_feeder hp ▸ h.feeder
  cases receives_of_poll hp with
  | claimed hs hq hb ht hr =>
    have hclaim : s.shared.streamClaimed = true := h.started ▸ hs
    have hreturned : s'.hist.returned = s.hist.returned := by
      rw [returned_append hr]; simp [Except.toOption]
    refine ⟨by rw [hstarted, hclaimed, h.started], fun _ => hclaimed.trans hclaim,
      fun _ => hclaimed.trans hclaim, fun hc => ?_, ?_, fun hc => ?_⟩
    · simp [hclaimed, hclaim] at hc
    · rw [hreturned, ht]; exact h.returned
    · simp [hclaimed, hclaim] at hc
  | closed hl _ _ _ => exact (Bool.false_ne_true (hi.localClosed.symm.trans hl)).elim
  | message m hs _ hq _ ht hr =>
    have hunclaimed : s.shared.streamClaimed = false := h.started ▸ hs
    have hreturned : s'.hist.returned = s.hist.returned ++ [m] := returned_append hr
    have hsame : s'.hist.returned = s'.hist.taken := by
      rw [hreturned, ht, h.unclaimed hunclaimed]
    refine ⟨by rw [hstarted, hclaimed, h.started], fun hc => hclaimed.trans (h.claim (hcmds hc)),
      fun hf => hclaimed.trans (hfeeder hf), fun _ => hsame, hsame ▸ List.prefix_rfl, fun _ => ?_⟩
    rw [hq.2, h.ended hunclaimed, State.EndReceived, State.EndReceived, hr]
    simp
  | ended hs _ _ hn hq _ ht hr =>
    have hunclaimed : s.shared.streamClaimed = false := h.started ▸ hs
    have hreturned : s'.hist.returned = s.hist.returned := by
      rw [returned_append hr]; simp [Except.toOption]
    refine ⟨by rw [hstarted, hclaimed, h.started], fun hc => hclaimed.trans (h.claim (hcmds hc)),
      fun hf => hclaimed.trans (hfeeder hf), fun _ => ?_, ?_, fun _ => ?_⟩
    · rw [hreturned, ht]; exact h.unclaimed hunclaimed
    · rw [hreturned, ht]; exact h.returned
    · refine ⟨fun _ => ⟨id, s.queueEnd, ?_, ?_⟩, fun _ => hq.2.2⟩
      · rw [hr]
        exact List.mem_append_right _ (List.mem_singleton.mpr rfl)
      · unfold State.queueEnd
        cases s.shared.budget.overflowed <;> simp
  | waits hs _ _ hq _ ht hr =>
    exact h.congr hstarted hclaimed hcmds hfeeder hr ht (by rw [hq])

/-- The select of the feeder, which holds the claim. -/
theorem feederSelect (h : s.ReceiveSound) (hi : s.InboxSound) (hn : s.feeder = .next)
    (hs : s.feederSelect = some s') : s'.ReceiveSound := by
  have hf := InboxFrame.feederSelect hs
  have hclaim : s.shared.streamClaimed = true := h.feeder (by simp [hn])
  have hclaim' : s'.shared.streamClaimed = true := by rw [hf]; exact hclaim
  have hstarted : s'.shared.streamStarted = s'.shared.streamClaimed := by rw [hf]; exact h.started
  have hsound (hr : s'.hist.received = s.hist.received) (ht : s.hist.taken <+: s'.hist.taken) :
      s'.ReceiveSound := by
    have hreturned : s'.hist.returned = s.hist.returned := by
      rw [History.returned, hr]; rfl
    refine ⟨hstarted, fun _ => hclaim', fun _ => hclaim', fun hc => ?_, ?_, fun hc => ?_⟩
    · simp [hclaim'] at hc
    · rw [hreturned]; exact h.returned.trans ht
    · simp [hclaim'] at hc
  cases feeds_of_select hs with
  | closed hl => exact (Bool.false_ne_true (hi.localClosed.symm.trans hl)).elim
  | message m _ _ _ ht hr _ => exact hsound hr (ht ▸ List.prefix_append _ _)
  | ended _ _ _ _ ht hr _ => exact hsound hr (ht ▸ List.prefix_rfl)

/-- Every move of the guest's side, a local close apart. -/
theorem guest (h : s.ReceiveSound) (hi : s.InboxSound) {a : Action} (hc : NoLocalClose s a)
    (hm : GuestMove s a s') : s'.ReceiveSound := by
  have hopen : s.shared.localClosed = false := hi.localClosed
  cases hm with
  | send message =>
    simp only [State.callSend]
    split
    · exact h.congr rfl rfl id h.feeder rfl rfl rfl
    · exact h.congr rfl rfl (by simp [State.pushCmd]) h.feeder rfl rfl rfl
  | receive =>
    simp only [State.callReceive, hopen]
    cases hclaim : s.shared.streamClaimed with
    | false => exact h.congr rfl rfl id h.feeder rfl rfl rfl
    | true =>
      refine ⟨h.started, fun _ => hclaim, fun _ => hclaim, fun hc => ?_, ?_, fun hc => ?_⟩
      · exact (Bool.false_ne_true (hc.symm.trans hclaim)).elim
      · change (s.resolveReceive s.nextId (.error .receivingViaStream)).hist.returned <+:
          s.hist.taken
        rw [returned_append (s := s) rfl]
        simpa [Except.toOption] using h.returned
      · exact (Bool.false_ne_true (hc.symm.trans hclaim)).elim
  | receiveViaStream =>
    simp only [State.callReceiveViaStream, hopen]
    split
    · exact h
    · split <;> exact ⟨rfl, fun _ => rfl, fun _ => rfl, by rintro ⟨⟩, h.returned, by rintro ⟨⟩⟩
  | close code reason =>
    rw [hc.callClose_eq]
    exact h
  | drop => exact (hc.1 rfl).elim
  | pollReceive hp => exact h.pollReceive hi hp
  | feederNext hn hs => exact h.feederSelect hi hn hs
  | feederLock hf _ => exact h.congr rfl rfl id (fun _ => h.feeder (by simp [hf])) rfl rfl rfl
  | taken _ _ _ hf _ | dropped hf =>
    refine h.congr rfl rfl id (fun _ => h.feeder ?_) rfl rfl rfl
    rintro hidle
    simp [hidle, FeederPc.holdsQueue] at hf

end State.ReceiveSound

/-- Without a local close, the queue and its takers are in order in every state reached. -/
theorem inbox_sound (h : (system T).ReachableUnder NoLocalClose s) :
    s.InboxSound ∧ s.ReceiveSound := by
  refine System.ReachableUnder.induction (I := fun s => s.InboxSound ∧ s.ReceiveSound) ?_ ?_ h
  · rintro _ ⟨config, ws, io, now, -, heof, rfl⟩
    constructor
    · constructor <;> simp [State.start, History.empty, History.accepted]
    · constructor <;> simp [State.start, History.empty, History.returned, State.EndReceived]
  · rintro s a s' - ⟨hi, hr⟩ hc hstep
    cases step_kind hstep with
    | reader h =>
      have hf := ReaderFrame.step h
      refine ⟨hi.reader h, hr.congr (by rw [hf]) (by rw [hf]) (by rw [hf]; exact id)
        (by rw [hf]; exact hr.feeder) (by rw [hf]) (by rw [hf]) ?_⟩
      exact State.ReceiveSound.reader_terminated h
    | cmd h =>
      have hf := CmdFrame.step h
      refine ⟨hi.cmd h, hr.congr (by rw [hf]) (by rw [hf]) (cmdStep_cmds h _) (fun hfeed => ?_)
        (by rw [hf]) (by rw [hf]) (by rw [hf])⟩
      rcases State.ReceiveSound.cmd_feeder h with hsame | hclaim
      · exact hr.feeder (hsame ▸ hfeed)
      · exact hr.claim hclaim
    | flush t h =>
      have hreader : s'.reader = .finished ↔ s.reader = .finished := by
        cases t with
        | cmd => rw [h.cmd_pc.1]
        | reader =>
          obtain ⟨-, f, next, hpc, hpc' | ⟨g, hpc'⟩⟩ := h.reader_pc
          · cases next <;> simp [hpc, hpc', ReaderNext.pc]
          · simp [hpc, hpc']
      have hf := FlushFrame.of_flushes h
      exact ⟨hi.congr (by rw [hf]) (by rw [hf]) (by rw [hf]) (by rw [hf]) (by rw [hf]) (by rw [hf])
        (by rw [hf]) hreader, hr.congr (by rw [hf]) (by rw [hf]) (by rw [hf]; exact id)
        (by rw [hf]; exact hr.feeder) (by rw [hf]) (by rw [hf]) (by rw [hf])⟩
    | transport h hpc =>
      have hreader : s'.reader = .finished ↔ s.reader = .finished := by
        rcases hpc with hpc | ⟨hp, -, hpc | hpc⟩ <;> simp [*]
      exact ⟨hi.congr (by rw [h]) (by rw [h]) (by rw [h]) (by rw [h]) (by rw [h]) (by rw [h])
        (by rw [h]) hreader, hr.congr (by rw [h]) (by rw [h]) (by rw [h]; exact id)
        (by rw [h]; exact hr.feeder) (by rw [h]) (by rw [h]) (by rw [h])⟩
    | guest h => exact ⟨hi.guest hc h, hr.guest hi hc h⟩

/-! ### Delivery -/

/-- Messages are taken by receive calls before the stream claim and by the feeder after it, and no
receive call returns one once the stream is claimed. -/
theorem takes_of_step (hr : s.ReceiveSound) (hi : s.InboxSound) {a : Action}
    (hc : NoLocalClose s a) (h : step s a = some s') :
    (s'.hist.taken = s.hist.taken ∨
      (s.shared.streamClaimed = false ∧ ∃ id, a = .pollReceive id) ∨
      (s.shared.streamClaimed = true ∧ a = .feederNext)) ∧
    (s.shared.streamClaimed = true → s'.hist.returned = s.hist.returned) := by
  have hsame (ht : s'.hist.taken = s.hist.taken) (hrec : s'.hist.received = s.hist.received) :
      (s'.hist.taken = s.hist.taken ∨
        (s.shared.streamClaimed = false ∧ ∃ id, a = .pollReceive id) ∨
        (s.shared.streamClaimed = true ∧ a = .feederNext)) ∧
      (s.shared.streamClaimed = true → s'.hist.returned = s.hist.returned) :=
    ⟨.inl ht, fun _ => by rw [History.returned, hrec]; rfl⟩
  cases step_kind h with
  | reader h => have hf := ReaderFrame.step h; exact hsame (by rw [hf]) (by rw [hf])
  | cmd h => have hf := CmdFrame.step h; exact hsame (by rw [hf]) (by rw [hf])
  | flush t h => have hf := FlushFrame.of_flushes h; exact hsame (by rw [hf]) (by rw [hf])
  | transport h _ => exact hsame (by rw [h]) (by rw [h])
  | guest h =>
    cases h with
    | send message =>
      exact hsame (by simp only [State.callSend]; split <;> rfl)
        (by simp only [State.callSend]; split <;> rfl)
    | receive =>
      simp only [State.callReceive, hi.localClosed]
      cases hclaim : s.shared.streamClaimed with
      | false => exact ⟨.inl rfl, by rintro ⟨⟩⟩
      | true =>
        refine ⟨.inl rfl, fun _ => ?_⟩
        change (s.resolveReceive s.nextId (.error .receivingViaStream)).hist.returned = _
        rw [State.ReceiveSound.returned_append (s := s) rfl]
        simp [Except.toOption]
    | receiveViaStream =>
      have hclaims : s.callReceiveViaStream.hist = s.hist := by
        simp only [State.callReceiveViaStream]
        split
        · rfl
        · split <;> rfl
      exact hsame (by rw [hclaims]) (by rw [hclaims])
    | close code reason =>
      exact hsame (by rw [hc.callClose_eq]) (by rw [hc.callClose_eq])
    | drop => exact (hc.1 rfl).elim
    | @pollReceive id _ hp =>
      cases receives_of_poll hp with
      | claimed _ _ _ ht hrec =>
        refine ⟨.inl ht, fun _ => ?_⟩
        rw [State.ReceiveSound.returned_append hrec]
        simp [Except.toOption]
      | closed hl _ _ _ => exact (Bool.false_ne_true (hi.localClosed.symm.trans hl)).elim
      | message m hs _ _ _ _ _ =>
        have hunclaimed : s.shared.streamClaimed = false := hr.started ▸ hs
        exact ⟨.inr (.inl ⟨hunclaimed, id, rfl⟩),
          fun hclaim => (Bool.false_ne_true (hunclaimed.symm.trans hclaim)).elim⟩
      | ended hs _ _ _ _ _ ht _ =>
        have hunclaimed : s.shared.streamClaimed = false := hr.started ▸ hs
        exact ⟨.inl ht, fun hclaim => (Bool.false_ne_true (hunclaimed.symm.trans hclaim)).elim⟩
      | waits _ _ _ _ _ ht hrec => exact hsame ht hrec
    | feederNext hn hs =>
      have hclaim : s.shared.streamClaimed = true := hr.feeder (by simp [hn])
      cases feeds_of_select hs with
      | closed hl => exact (Bool.false_ne_true (hi.localClosed.symm.trans hl)).elim
      | message _ _ _ _ _ hrec _ =>
        exact ⟨.inr (.inr ⟨hclaim, rfl⟩), fun _ => by rw [History.returned, hrec]; rfl⟩
      | ended _ _ _ _ ht hrec _ => exact hsame ht hrec
    | feederLock | taken | dropped => exact hsame rfl rfl

/-- A receive call polled at the end of the queue fails as it should exactly when no receive call
has been handed the end before. -/
theorem receive_at_end (hi : s.InboxSound) (hr : s.ReceiveSound) (hfin : s.reader = .finished)
    (hempty : s.shared.queue.items = []) (hunclaimed : s.shared.streamClaimed = false) {id : Nat}
    (h : s.pollReceive id = some s') :
    s'.hist.received = s.hist.received ++ [(id, .error s.queueEnd)] ↔ ¬ s.EndReceived := by
  have hlive : s.shared.queue.senderLive = false :=
    Bool.eq_false_iff.mpr fun hl => hi.sender.mp hl hfin
  have hend : s.shared.queue.terminated = true ↔ s.EndReceived := hr.ended hunclaimed
  cases receives_of_poll h with
  | claimed hs _ _ _ _ => simp [hr.started, hunclaimed] at hs
  | closed hl _ _ _ => exact (Bool.false_ne_true (hi.localClosed.symm.trans hl)).elim
  | message m _ hitems _ _ _ _ => simp [hempty] at hitems
  | ended _ _ _ hn _ _ _ hrec =>
    exact ⟨fun _ => by simp [← hend, hn], fun _ => hrec⟩
  | waits _ _ hl _ _ _ hrec =>
    have hterm : s.shared.queue.terminated = true := hl.resolve_left (by simp [hlive])
    rw [hrec]
    exact ⟨fun hgrow => by simp at hgrow, fun hnot => (hnot (hend.mp hterm)).elim⟩

/-- Inbound delivery in every run without a local close: the messages taken, followed by those
still queued, are the data messages read before the first overflow or closing event; receive calls
take them before the stream claim and the feeder after it, and no receive call returns a message
once the stream is claimed; and a receive call at the end of the queue of a finalized pump fails
with the overflow, if latched, or as closed, exactly when no receive call has been handed the end
before. -/
theorem inbound_delivery (h : (system T).ReachableUnder NoLocalClose s) :
    s.hist.taken ++ s.shared.queue.items = s.hist.data.take s.hist.accepted ∧
    (s.hist.returned <+: s.hist.taken ∧
      (s.shared.streamClaimed = false → s.hist.returned = s.hist.taken)) ∧
    (∀ a s', NoLocalClose s a → step s a = some s' →
      (s'.hist.taken = s.hist.taken ∨
        (s.shared.streamClaimed = false ∧ ∃ id, a = .pollReceive id) ∨
        (s.shared.streamClaimed = true ∧ a = .feederNext)) ∧
      (s.shared.streamClaimed = true → s'.hist.returned = s.hist.returned)) ∧
    (∀ id s', s.reader = .finished → s.shared.queue.items = [] →
      s.shared.streamClaimed = false → step s (.pollReceive id) = some s' →
      (s'.hist.received = s.hist.received ++ [(id, .error s.queueEnd)] ↔ ¬ s.EndReceived)) := by
  obtain ⟨hi, hr⟩ := inbox_sound h
  exact ⟨hi.queued, ⟨hr.returned, hr.unclaimed⟩, fun a s' hc hs => takes_of_step hr hi hc hs,
    fun id s' hfin hempty hunclaimed hs => receive_at_end hi hr hfin hempty hunclaimed hs⟩

/-- Two messages, the second past a budget of one byte: the first is returned, and the next receive
call reports the overflow. -/
theorem inbound_delivery_overflow :
    ∃ s s', (system Core.tungstenite).runUnder NoLocalClose (Core.connection 10 1)
        [.reader, .chunk [.binary [1], .binary [2], .close none, .connectionClosed], .reader,
          .reader, .lock .reader, .accept 6, .writeDone .reader, .reader, .lock .reader, .reader,
          .reader, .receive, .pollReceive 0, .receive] = some s ∧
      step s (.pollReceive 1) = some s' ∧ s.hist.taken = [.binary [1]] ∧
      s'.hist.received = s.hist.received ++ [(1, .error .receiveBufferOverflow)] := by
  have hrun : (system Core.tungstenite).runUnder NoLocalClose (Core.connection 10 1)
      [.reader, .chunk [.binary [1], .binary [2], .close none, .connectionClosed], .reader,
        .reader, .lock .reader, .accept 6, .writeDone .reader, .reader, .lock .reader, .reader,
        .reader, .receive, .pollReceive 0, .receive] = some _ := rfl
  have hstart : (system Core.tungstenite).ReachableUnder NoLocalClose (Core.connection 10 1) :=
    .init ⟨_, Core.fresh, .empty, 0, rfl, rfl, rfl⟩
  have hdelivery := inbound_delivery (hstart.runUnder hrun)
  exact ⟨_, _, hrun, rfl, rfl, (hdelivery.2.2.2 1 _ rfl rfl rfl rfl).mpr (by decide)⟩

/-- The second receive call at the end of a queue is not answered. -/
theorem second_receive_unanswered :
    ¬ ∀ (T : Tungstenite) (s s' : State T) (id : Nat), (system T).ReachableUnder NoLocalClose s →
      s.reader = .finished → s.shared.queue.items = [] → s.shared.streamClaimed = false →
      step s (.pollReceive id) = some s' →
      s'.hist.received = s.hist.received ++ [(id, .error s.queueEnd)] := by
  intro hclaim
  have hrun : (system Core.tungstenite).runUnder NoLocalClose (Core.connection 10 100)
      [.reader, .transportEnd, .reader, .reader, .receive, .pollReceive 0, .receive] =
        some _ := rfl
  have hstart : (system Core.tungstenite).ReachableUnder NoLocalClose (Core.connection 10 100) :=
    .init ⟨_, Core.fresh, .empty, 0, rfl, rfl, rfl⟩
  exact absurd (hclaim Core.tungstenite _ _ 1 (hstart.runUnder hrun) rfl rfl rfl rfl) (by decide)

end Polymorph.Provider
