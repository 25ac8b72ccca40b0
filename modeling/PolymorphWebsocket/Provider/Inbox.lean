import PolymorphWebsocket.Contract.Inbox
import PolymorphWebsocket.Provider.Inbound
import PolymorphWebsocket.Transition.Traces

/-!
# The guest provider: the inbound queue as an inbox

Runs in which the guest only receives: it makes no local close, claims no stream and keeps the
resource, and each receive call has run as far as it gets before the next message arrives or the
next call is made.  What the receive calls returned and what is queued is then what the inbox has
accepted, every call has been answered or waits, and no more than one has been answered with the end
of the queue.
-/

namespace Polymorph.Provider

open Futures Transition

variable {T : Tungstenite} {s s' : State T} {inbox : Inbox}

/-! ### Runs that only receive -/

/-- No pending receive call gets any further by itself. -/
def State.receivesIdle (s : State T) : Bool :=
  match s.shared.queueLock with
  | none => s.receives.isEmpty
  | some (.receive _) => !s.shared.streamStarted && !s.shared.localClosed &&
    match s.shared.queue.pollArm.1 with
    | .pending => true
    | .ready _ => false
  | some .feeder => true

/-- The select of a receive call starts no other one. -/
theorem receiveSelect_receives (s : State T) (id : Nat) :
    (s.receiveSelect id).receives = s.receives := by
  simp only [State.receiveSelect]
  split
  · rfl
  · split
    · rfl
    · split
      · next item queue _ => cases item <;> rfl
      · rfl

/-- Whether a receive call has the lock of the queue. -/
def lockedReceives : Option QueueHolder → Nat
  | some (.receive _) => 1
  | some .feeder | none => 0

/-- How many receive calls wait. -/
def State.pendingReceives (s : State T) : Nat :=
  s.receives.length + lockedReceives s.shared.queueLock

/-- The select of a receive call answers it and drops the lock, or keeps the lock for it. -/
theorem receiveSelect_calls (s : State T) (id : Nat) :
    ((s.receiveSelect id).hist.received.length = s.hist.received.length + 1 ∧
      (s.receiveSelect id).shared.queueLock = none) ∨
    ((s.receiveSelect id).hist.received = s.hist.received ∧
      (s.receiveSelect id).shared.queueLock = some (.receive id)) := by
  simp only [State.receiveSelect]
  split
  · exact .inl ⟨List.length_append, rfl⟩
  · split
    · exact .inl ⟨List.length_append, rfl⟩
    · split
      · next item queue _ => cases item <;> exact .inl ⟨List.length_append, rfl⟩
      · exact .inr ⟨rfl, rfl⟩

/-- A poll of a receive call loses no call. -/
theorem pollReceive_calls {id : Nat} (h : s.pollReceive id = some s') :
    s'.hist.received.length + s'.pendingReceives = s.hist.received.length + s.pendingReceives ∧
      s'.shared.queueLock ≠ some .feeder := by
  have hselect (c : State T) :
      (c.receiveSelect id).hist.received.length + (c.receiveSelect id).pendingReceives =
        c.hist.received.length + c.receives.length + 1 ∧
      (c.receiveSelect id).shared.queueLock ≠ some .feeder := by
    unfold State.pendingReceives
    rw [receiveSelect_receives]
    rcases receiveSelect_calls c id with ⟨hlength, hlock⟩ | ⟨hsame, hlock⟩
    · rw [hlength, hlock]
      exact ⟨by simp only [lockedReceives]; omega, nofun⟩
    · rw [hsame, hlock]
      exact ⟨by simp only [lockedReceives]; omega, nofun⟩
  unfold State.pollReceive at h
  split at h
  · next hlock =>
    cases h
    refine ⟨?_, (hselect s).2⟩
    rw [(hselect s).1, State.pendingReceives, hlock]
    rfl
  · split at h
    · next hfree =>
      cases h
      have hcalls := hselect { s with receives := s.receives.erase id }
      refine ⟨?_, hcalls.2⟩
      rw [hcalls.1, State.pendingReceives, hfree.1]
      have hpos : 0 < s.receives.length := List.length_pos_of_mem hfree.2
      show s.hist.received.length + (s.receives.erase id).length + 1 = _
      rw [List.length_erase_of_mem hfree.2]
      simp only [lockedReceives]
      omega
    · cases h

/-- A receive call that is idle and waits finds the queue empty. -/
theorem items_of_idle (hidle : s.receivesIdle = true) (hpending : s.pendingReceives ≠ 0)
    (hlock : s.shared.queueLock ≠ some .feeder) :
    s.shared.queue.items = [] ∧
      (s.shared.queue.senderLive = true ∨ s.shared.queue.terminated = true) := by
  unfold State.receivesIdle at hidle
  unfold State.pendingReceives at hpending
  cases hholder : s.shared.queueLock with
  | none =>
    rw [hholder] at hidle hpending
    rw [List.isEmpty_iff.mp hidle] at hpending
    exact absurd rfl hpending
  | some holder =>
    cases holder with
    | feeder => exact absurd hholder hlock
    | receive id =>
      rw [hholder] at hidle
      simp only [Bool.and_eq_true] at hidle
      have hpoll := hidle.2
      rcases s.shared.queue.pollArm_cases with
        ⟨m, q, hp, -⟩ | ⟨-, hi, hl⟩ | ⟨q, hp, -⟩ | ⟨-, hi, -, hn⟩
      · rw [hp] at hpoll
        cases hpoll
      · exact ⟨hi, .inl hl⟩
      · rw [hp] at hpoll
        cases hpoll
      · exact ⟨hi, .inr hn⟩

/-- What the next `read()` of the reader returns. -/
def State.reads (s : State T) : Option Inbound :=
  match s.reader with
  | .drain | .lastDrain => s.webSocketRead.1
  | .flushing _ _ | .parked | .finalize | .finished => none

/-- What an action of a run that only receives tells the inbox; other actions are not admitted.  A
message arrives as the reader reads it, before the peer's close frame.  A message past the transport
cap is one that exceeds every limit; after the end of the stream none is found any more. -/
def State.tells (s : State T) (a : Action) (events : List InboxEvent) : Bool :=
  match a with
  | .receive => events == [.receive] && s.receivesIdle
  | .reader =>
    match s.reads with
    | some (.binary bytes) =>
      events == [.message (.binary bytes)] && s.receivesIdle && s.peerFrame.isNone
    | some (.text text) =>
      events == [.message (.string text)] && s.receivesIdle && s.peerFrame.isNone
    | some .capacity =>
      match s.reader, events with
      | .drain, [.message message] =>
        decide (s.shared.budget.limit < message.payloadLen) && s.receivesIdle && s.peerFrame.isNone
      | .lastDrain, [] => true
      | _, _ => false
    | some (.close _) | some (.ping _) | some (.pong _) | some .frame | some .connectionClosed
    | some .error | none => events.isEmpty
  | .receiveViaStream | .close _ _ | .drop => false
  | .send _ | .pollReceive _ | .cmd | .lock _ | .writeDone _ | .writeBound _ | .accept _ | .refuse
  | .chunk _ | .transportEnd | .feederLock | .feederNext | .elementTaken | .streamDropped
  | .payloadTaken _ | .payloadDone | .payloadDropped | .tick _ => events.isEmpty

/-- The connections with the trace of what their inbox is told. -/
def inboxSystem (T : Tungstenite) : System (State T × List InboxEvent) (Action × List InboxEvent) :=
  (system T).traced fun s a events => s.tells a events = true

/-- Only receive calls and the reader tell the inbox anything. -/
theorem nil_of_tells {a : Action} {events : List InboxEvent} (h : s.tells a events = true)
    (hreceive : a ≠ .receive) (hreader : a ≠ .reader) : events = [] := by
  cases a with
  | receive => exact absurd rfl hreceive
  | reader => exact absurd rfl hreader
  | receiveViaStream | close | drop => cases h
  | send | pollReceive | cmd | lock | writeDone | writeBound | accept | refuse | chunk
  | transportEnd | feederLock | feederNext | elementTaken | streamDropped | payloadTaken
  | payloadDone | payloadDropped | tick => exact List.isEmpty_iff.mp h

/-- An admitted action makes no local close. -/
theorem noLocalClose_of_tells {a : Action} {events : List InboxEvent}
    (h : s.tells a events = true) : NoLocalClose s a := by
  refine ⟨?_, ?_⟩
  · rintro rfl
    cases h
  · rintro code reason rfl
    cases h

/-! ### The state of the inbox -/

/-- The state of a connection at the state of the inbox. -/
structure State.Refines (inbox : Inbox) (s : State T) : Prop where
  limit : inbox.limit = s.shared.budget.limit
  unclaimed : s.shared.streamClaimed = false
  lock : s.shared.queueLock ≠ some .feeder
  resource : s.dropped = false
  closes : ∀ code reason, Cmd.close code reason ∉ s.shared.cmds
  accepted : s.hist.returned ++ s.shared.queue.items = inbox.accepted
  calls : s.hist.received.length + s.pendingReceives = inbox.calls
  overflowed : s.shared.budget.overflowed = inbox.overflowed
  used : s.shared.budget.used = totalLen s.shared.queue.items
  /-- The end of the queue has been handed to one call, or to none. -/
  failed : s.hist.received.length = s.hist.returned.length + s.shared.queue.terminated.toNat
  errors : ∀ result ∈ s.hist.received, ∀ error, result.2 = .error error → error = inbox.endError
  /-- The closing handshake begins with an overflow or with the peer's close frame. -/
  closing : s.flags.wireClosing = true → inbox.overflowed = true ∨ s.peerFrame.isSome = true

namespace State.Refines

theorem congr (h : s.Refines inbox) (hqueue : s'.shared.queue = s.shared.queue)
    (hbudget : s'.shared.budget = s.shared.budget)
    (hclaimed : s'.shared.streamClaimed = s.shared.streamClaimed)
    (hlock : s'.shared.queueLock = s.shared.queueLock)
    (hcmds : ∀ code reason, Cmd.close code reason ∈ s'.shared.cmds →
      Cmd.close code reason ∈ s.shared.cmds)
    (hreceives : s'.receives = s.receives) (hdropped : s'.dropped = s.dropped)
    (hreceived : s'.hist.received = s.hist.received)
    (hclosing : s'.flags.wireClosing = true → inbox.overflowed = true ∨ s'.peerFrame.isSome = true) :
    s'.Refines inbox := by
  have hreturned : s'.hist.returned = s.hist.returned := by
    rw [History.returned, hreceived]
    rfl
  have hpending : s'.pendingReceives = s.pendingReceives := by
    rw [State.pendingReceives, hreceives, hlock]
    rfl
  refine ⟨?_, ?_, ?_, ?_, fun code reason hmem => h.closes code reason (hcmds code reason hmem), ?_,
    ?_, ?_, ?_, ?_, ?_, hclosing⟩
  · rw [hbudget]
    exact h.limit
  · rw [hclaimed]
    exact h.unclaimed
  · rw [hlock]
    exact h.lock
  · rw [hdropped]
    exact h.resource
  · rw [hreturned, hqueue]
    exact h.accepted
  · rw [hreceived, hpending]
    exact h.calls
  · rw [hbudget]
    exact h.overflowed
  · rw [hbudget, hqueue]
    exact h.used
  · rw [hreceived, hreturned, hqueue]
    exact h.failed
  · rw [hreceived]
    exact h.errors

/-- With the receive calls idle, the queue is at the state of the inbox. -/
theorem at_rest (h : s.Refines inbox) (hidle : s.receivesIdle = true) :
    inbox.handed = s.hist.returned ∧ inbox.queued = s.shared.queue.items ∧
      inbox.unanswered = inbox.calls - s.hist.returned.length := by
  have hcalls := h.calls
  have hfailed := h.failed
  apply Inbox.at_rest h.accepted (by omega)
  by_cases hpending : s.pendingReceives = 0
  · cases hterm : s.shared.queue.terminated with
    | true => exact .inl (s.shared.queue.terminated_nil hterm).1
    | false =>
      rw [hterm] at hfailed
      exact .inr (by simp at hfailed; omega)
  · exact .inl (items_of_idle hidle hpending h.lock).1

/-- No call has failed while the queue has not ended. -/
theorem no_errors (h : s.Refines inbox) (hterm : s.shared.queue.terminated = false) :
    ∀ result ∈ s.hist.received, ∀ error, result.2 ≠ .error error := by
  intro result hmem error herror
  have hfailed := h.failed
  rw [hterm] at hfailed
  have hall := List.filterMap_length_eq_length.mp hfailed.symm result hmem
  rw [herror] at hall
  cases hall

/-! ### The reader -/

/-- The queue has not ended while the reader runs. -/
theorem not_terminated (hi : s.InboxSound) (hr : s.reader ≠ .finished) :
    s.shared.queue.terminated = false := by
  have hlive : s.shared.queue.senderLive = true := hi.sender.mpr hr
  cases hterm : s.shared.queue.terminated with
  | false => rfl
  | true =>
    rw [(s.shared.queue.terminated_nil hterm).2] at hlive
    cases hlive

/-- A message that is read arrives at the inbox. -/
theorem deliver (h : s.Refines inbox) (hi : s.InboxSound) (hr : s.reader ≠ .finished)
    (hidle : s.receivesIdle = true) (hpeer : s.peerFrame = none) (message : Message) :
    (s.deliver message).Refines (inbox.arrive message) := by
  have hlive : s.shared.queue.senderLive = true := hi.sender.mpr hr
  have hnone := h.no_errors (not_terminated hi hr)
  obtain ⟨-, hqueued, -⟩ := h.at_rest hidle
  have hopen (hover : inbox.overflowed = false) : s.flags.wireClosing = false := by
    cases hw : s.flags.wireClosing with
    | false => rfl
    | true =>
      rcases h.closing hw with ho | hp
      · rw [hover] at ho
        cases ho
      · rw [hpeer] at hp
        cases hp
  rcases inbox.arrive_cases message hqueued with ⟨hover, harrive⟩ | ⟨hover, hlimit, harrive⟩ |
    ⟨hover, hlimit, harrive⟩ <;> rw [harrive] <;> have hover' := h.overflowed.trans hover
  · have hreserve : s.shared.budget.reserve message.payloadLen = (false, s.shared.budget) :=
      if_pos hover'
    unfold State.deliver
    dsimp only
    rw [hreserve]
    split <;> exact h.congr rfl rfl rfl rfl (fun _ _ => id) rfl rfl rfl h.closing
  · have hover'' : ¬ s.shared.budget.overflowed = true := by simp [hover']
    have hfull : s.shared.budget.used + message.payloadLen > s.shared.budget.limit := by
      rw [h.used, ← h.limit]
      exact hlimit
    have hreserve : s.shared.budget.reserve message.payloadLen =
        (false, { s.shared.budget with overflowed := true }) :=
      (if_neg hover'').trans (dif_pos hfull)
    unfold State.deliver
    dsimp only
    rw [if_neg (by simp [hopen hover]), hreserve]
    exact { h with
      overflowed := rfl
      errors := fun result hmem error herror => absurd herror (hnone result hmem error)
      closing := fun _ => .inl rfl }
  · have hover'' : ¬ s.shared.budget.overflowed = true := by simp [hover']
    have hfits : ¬ s.shared.budget.used + message.payloadLen > s.shared.budget.limit := by
      rw [h.used, ← h.limit]
      omega
    have hreserve : s.shared.budget.reserve message.payloadLen = (true, { s.shared.budget with
        used := s.shared.budget.used + message.payloadLen
        used_le := Nat.le_of_not_gt hfits }) :=
      (if_neg hover'').trans (dif_neg hfits)
    have hitems := Receiver.push_items_of_live hlive message
    unfold State.deliver
    dsimp only
    rw [if_neg (by simp [hopen hover]), hreserve]
    refine { h with
      accepted := ?_
      used := ?_
      errors := fun result hmem error herror => absurd herror (hnone result hmem error) }
    · show s.hist.returned ++ (s.shared.queue.push message).items = inbox.accepted ++ [message]
      rw [hitems, ← List.append_assoc, h.accepted]
    · show s.shared.budget.used + message.payloadLen = totalLen (s.shared.queue.push message).items
      rw [hitems, totalLen_append, h.used]
      simp

/-- Beginning the closing handshake for an overflow changes nothing of the inbox. -/
theorem beginClose (h : s.Refines inbox) (hover : inbox.overflowed = true)
    (frame : Option CloseFrame) : (s.beginClose frame).2.Refines inbox := by
  have hframe := CmdFrame.beginClose s frame
  refine h.congr (by rw [hframe]) (by rw [hframe]) (by rw [hframe]) (by rw [hframe]) ?_
    (by rw [hframe]) (by rw [hframe]) (by rw [hframe]) fun _ => .inl hover
  rw [ReaderFrame.beginClose s frame]
  exact fun _ _ => id

theorem readerGoes (h : s.Refines inbox) (flush : Bool) (next : ReaderNext) :
    (s.readerGoes flush next).Refines inbox :=
  h.congr rfl rfl rfl rfl (fun _ _ => id) rfl rfl rfl h.closing

theorem readData (h : s.Refines inbox) (hi : s.InboxSound) (hr : s.reader ≠ .finished)
    (hidle : s.receivesIdle = true) (hpeer : s.peerFrame = none) (message : Message) :
    (s.readData message).Refines (inbox.arrive message) := by
  have hdeliver := h.deliver hi hr hidle hpeer message
  unfold State.readData
  dsimp only
  split
  · next hc =>
    have hover : (inbox.arrive message).overflowed = true := by
      rw [← hdeliver.overflowed]
      exact (Bool.and_eq_true_iff.mp hc).1
    exact (hdeliver.beginClose hover none).readerGoes _ _
  · exact hdeliver.readerGoes false .drain

/-- A message past the transport cap overflows the inbox. -/
theorem oversized (h : s.Refines inbox) (hi : s.InboxSound) (hr : s.reader ≠ .finished)
    {message : Message} (hlen : s.shared.budget.limit < message.payloadLen) :
    (s.drainRead (some .capacity)).Refines (inbox.arrive message) := by
  have hnone := h.no_errors (not_terminated hi hr)
  have harrive : inbox.arrive message = { inbox with overflowed := true } := by
    rcases inbox.arrive_cases message rfl with ⟨ho, harrive⟩ | ⟨-, -, harrive⟩ | ⟨-, hfits, -⟩
    · rw [harrive, ← ho]
    · exact harrive
    · rw [h.limit] at hfits
      omega
  rw [harrive]
  have hlatch : (s.latchOverflow.noteCut s.hist.data.length).Refines
      { inbox with overflowed := true } :=
    { h with
      overflowed := rfl
      errors := fun result hmem error herror => absurd herror (hnone result hmem error)
      closing := fun _ => .inl rfl }
  exact (hlatch.beginClose rfl none).readerGoes _ _

/-- The reader moves on without touching the queue. -/
theorem readerPc (h : s.Refines inbox) (pc : ReaderPc) :
    ({ s with reader := pc } : State T).Refines inbox :=
  h.congr rfl rfl rfl rfl (fun _ _ => id) rfl rfl rfl h.closing

/-- What a `read()` leaves alone. -/
theorem webSocketRead (h : s.Refines inbox) (hi : s.InboxSound) (hr : s.reader ≠ .finished) :
    s.webSocketRead.2.Refines inbox ∧ s.webSocketRead.2.InboxSound ∧
      s.webSocketRead.2.reader ≠ .finished :=
  ⟨h.congr rfl rfl rfl rfl (fun _ _ => id) rfl rfl rfl h.closing,
    hi.congr rfl rfl rfl rfl rfl rfl rfl Iff.rfl, hr⟩

/-- A `read()` of the drain loop. -/
theorem readerDrain (h : s.Refines inbox) (hi : s.InboxSound) {events : List InboxEvent}
    (hr : s.reader = .drain) (htells : s.tells .reader events = true) :
    s.readerDrain.Refines (inbox.run events) := by
  obtain ⟨hread, hread', hr'⟩ := h.webSocketRead hi (by rw [hr]; nofun)
  have hreads : s.reads = s.webSocketRead.1 := by rw [State.reads, hr]
  unfold State.readerDrain
  rcases hnext : s.webSocketRead.1 with - | i <;> rw [hnext] at hreads <;>
    simp only [State.tells, hreads, hr] at htells
  · rw [List.isEmpty_iff.mp htells]
    exact hread.readerPc _
  cases i with
  | binary | text =>
    simp only [Bool.and_eq_true, beq_iff_eq] at htells
    obtain ⟨⟨rfl, hidle⟩, hpeer⟩ := htells
    exact hread.readData hread' hr' hidle (Option.isNone_iff_eq_none.mp hpeer) _
  | capacity =>
    rcases events with - | ⟨event, - | ⟨_, _⟩⟩
    · cases htells
    · cases event with
      | message message =>
        simp only [Bool.and_eq_true, decide_eq_true_eq] at htells
        exact hread.oversized hread' hr' htells.1.1
      | receive => cases htells
    · cases event <;> cases htells
  | close frame =>
    rw [List.isEmpty_iff.mp htells]
    refine hread.congr rfl rfl rfl rfl (fun _ _ => id) rfl rfl rfl fun _ => .inr ?_
    show (s.peerFrame.or (some (closeInfoFrom frame))).isSome = true
    cases s.peerFrame <;> rfl
  | ping | pong =>
    rw [List.isEmpty_iff.mp htells]
    exact hread.readerGoes true .drain
  | frame =>
    rw [List.isEmpty_iff.mp htells]
    exact hread.readerGoes false .drain
  | connectionClosed | error =>
    rw [List.isEmpty_iff.mp htells]
    exact hread.readerPc _

/-- A `read()` of the final drain. -/
theorem readerLastDrain (h : s.Refines inbox) (hi : s.InboxSound) {events : List InboxEvent}
    (hr : s.reader = .lastDrain) (htells : s.tells .reader events = true) :
    s.readerLastDrain.Refines (inbox.run events) := by
  obtain ⟨hread, hread', hr'⟩ := h.webSocketRead hi (by rw [hr]; nofun)
  have hreads : s.reads = s.webSocketRead.1 := by rw [State.reads, hr]
  unfold State.readerLastDrain
  rcases hnext : s.webSocketRead.1 with - | i <;> rw [hnext] at hreads <;>
    simp only [State.tells, hreads, hr] at htells
  · rw [List.isEmpty_iff.mp htells]
    exact hread.readerPc _
  cases i with
  | binary | text =>
    simp only [Bool.and_eq_true, beq_iff_eq] at htells
    obtain ⟨⟨rfl, hidle⟩, hpeer⟩ := htells
    exact hread.deliver hread' hr' hidle (Option.isNone_iff_eq_none.mp hpeer) _
  | capacity =>
    cases events with
    | nil => exact hread.readerPc _
    | cons event events => cases htells
  | close frame =>
    rw [List.isEmpty_iff.mp htells]
    refine hread.congr rfl rfl rfl rfl (fun _ _ => id) rfl rfl rfl fun hw => ?_
    refine (h.closing hw).imp_right fun _ => ?_
    show (s.peerFrame.or (some (closeInfoFrom frame))).isSome = true
    cases s.peerFrame <;> rfl
  | ping | pong | frame =>
    rw [List.isEmpty_iff.mp htells]
    exact hread
  | connectionClosed | error =>
    rw [List.isEmpty_iff.mp htells]
    exact hread.readerPc _

/-- What the reader reads is what the inbox is told. -/
theorem reader (h : s.Refines inbox) (hi : s.InboxSound) {events : List InboxEvent}
    (htells : s.tells .reader events = true) (hs : s.readerStep = some s') :
    s'.Refines (inbox.run events) := by
  have hnil (hnone : s.reads = none) : events = [] := by
    simp only [State.tells, hnone] at htells
    exact List.isEmpty_iff.mp htells
  unfold State.readerStep at hs
  split at hs
  · next hr =>
    cases hs
    exact h.readerDrain hi hr htells
  · next hr =>
    cases hs
    exact h.readerLastDrain hi hr htells
  · next hr =>
    obtain rfl := hnil (by rw [State.reads, hr])
    cases hs
    exact { h with }
  · next hr =>
    obtain rfl := hnil (by rw [State.reads, hr])
    split at hs
    · cases hs
      exact h.readerPc _
    · cases hs
  · cases hs
  · cases hs

/-! ### The other tasks -/

/-- The command task touches neither the queue nor its receivers, and with no close command and the
resource alive it begins no closing handshake. -/
theorem cmd (h : s.Refines inbox) (hs : s.cmdStep = some s') : s'.Refines inbox := by
  have hframe := CmdFrame.step hs
  have hpeer : s'.peerFrame = s.peerFrame := by rw [hframe]
  have hflags : s'.flags.wireClosing = s.flags.wireClosing := by
    have hlive : s.cmdSenderLive = true := cmdSenderLive_of_resource h.resource
    unfold State.cmdStep at hs
    split at hs
    · split at hs
      · cases hs
        rfl
      · split at hs
        · next c rest hcmds =>
          cases hs
          cases c with
          | send id message =>
            simp only [State.cmdLive, State.cmdSend, State.webSocketSend]
            split
            · rfl
            · rcases T.send (s.popCmd rest).ws message with ⟨err | frame, ws⟩ <;> rfl
          | close code reason => exact absurd (by rw [hcmds]; simp) (h.closes code reason)
          | claimStream => rfl
        · cases hs
    · split at hs
      · next c rest hcmds =>
        cases hs
        cases c <;> rfl
      · simp [hlive] at hs
    · cases hs
    · cases hs
  refine h.congr (by rw [hframe]) (by rw [hframe]) (by rw [hframe]) (by rw [hframe])
    (fun code reason => cmdStep_cmds hs _) (by rw [hframe]) (by rw [hframe]) (by rw [hframe])
    fun hw => ?_
  rw [hpeer]
  exact h.closing (hflags ▸ hw)

/-- A receive call takes the oldest message, or the end of the queue, or waits. -/
theorem pollReceive (h : s.Refines inbox) (hi : s.InboxSound) (hr : s.ReceiveSound) {id : Nat}
    (hp : s.pollReceive id = some s') : s'.Refines inbox := by
  have hframe := InboxFrame.pollReceive hp
  obtain ⟨hkept, hlock⟩ := pollReceive_calls hp
  have hclaimed : s'.shared.streamClaimed = false := by
    rw [hframe]
    exact h.unclaimed
  have hresource : s'.dropped = false := by
    rw [hframe]
    exact h.resource
  have hcloses : ∀ code reason, Cmd.close code reason ∉ s'.shared.cmds := by
    rw [hframe]
    exact h.closes
  have hclosing : s'.flags.wireClosing = true →
      inbox.overflowed = true ∨ s'.peerFrame.isSome = true := by
    rw [hframe]
    exact h.closing
  have hcalls := hkept.trans h.calls
  have haccepted := h.accepted
  have hfailed := h.failed
  cases receives_of_poll hp with
  | claimed hs => simp [hr.started, h.unclaimed] at hs
  | closed hl => exact (Bool.false_ne_true (hi.localClosed.symm.trans hl)).elim
  | message m _ hitems hq hb _ hrec =>
    have hreturned : s'.hist.returned = s.hist.returned ++ [m] :=
      State.ReceiveSound.returned_append hrec
    have hused := h.used
    rw [hitems, totalLen_cons] at hused
    refine ⟨by rw [hb]; exact h.limit, hclaimed, hlock, hresource, hcloses, ?_, hcalls,
      by rw [hb]; exact h.overflowed, ?_, ?_, fun result hmem error herror => ?_, hclosing⟩
    · rw [hreturned, ← haccepted, hitems, List.append_assoc]
      rfl
    · rw [hb]
      show s.shared.budget.used - m.payloadLen = totalLen s'.shared.queue.items
      omega
    · rw [hrec, hreturned, hq.2, List.length_append, List.length_append, List.length_singleton,
        List.length_singleton]
      omega
    · rw [hrec] at hmem
      rcases List.mem_append.mp hmem with hold | hnew
      · exact h.errors result hold error herror
      · obtain rfl := List.mem_singleton.mp hnew
        cases herror
  | ended _ hitems _ hn hq hb _ hrec =>
    have hreturned : s'.hist.returned = s.hist.returned := by
      rw [State.ReceiveSound.returned_append hrec]
      exact List.append_nil _
    refine ⟨by rw [hb]; exact h.limit, hclaimed, hlock, hresource, hcloses, ?_, hcalls,
      by rw [hb]; exact h.overflowed, ?_, ?_, fun result hmem error herror => ?_, hclosing⟩
    · rw [hreturned, hq.1, ← hitems]
      exact haccepted
    · rw [hb, hq.1, ← hitems]
      exact h.used
    · rw [hn] at hfailed
      rw [hrec, hreturned, hq.2.2, List.length_append, List.length_singleton]
      simp only [Bool.toNat_false, Bool.toNat_true] at hfailed ⊢
      omega
    · rw [hrec] at hmem
      rcases List.mem_append.mp hmem with hold | hnew
      · exact h.errors result hold error herror
      · obtain rfl := List.mem_singleton.mp hnew
        cases herror
        rw [State.queueEnd, Inbox.endError, h.overflowed]
  | waits _ _ _ hq hb _ hrec =>
    have hreturned : s'.hist.returned = s.hist.returned := by
      rw [History.returned, hrec]
      rfl
    refine ⟨by rw [hb]; exact h.limit, hclaimed, hlock, hresource, hcloses, ?_, hcalls,
      by rw [hb]; exact h.overflowed, ?_, ?_, ?_, hclosing⟩
    · rw [hreturned, hq]
      exact haccepted
    · rw [hb, hq]
      exact h.used
    · rw [hrec, hreturned, hq]
      exact hfailed
    · rw [hrec]
      exact h.errors

/-- The guest's side makes calls and polls them. -/
theorem guest (h : s.Refines inbox) (hi : s.InboxSound) (hr : s.ReceiveSound) {a : Action}
    {events : List InboxEvent} (htells : s.tells a events = true) (hm : GuestMove s a s') :
    s'.Refines (inbox.run events) := by
  have hidle : s.feeder = .idle := by
    by_contra hne
    exact absurd (hr.feeder hne) (by simp [h.unclaimed])
  cases hm with
  | send message =>
    obtain rfl := List.isEmpty_iff.mp htells
    unfold State.callSend
    dsimp only
    split
    · exact h.congr rfl rfl rfl rfl (fun _ _ => id) rfl rfl rfl h.closing
    · refine h.congr rfl rfl rfl rfl (fun code reason hmem => ?_) rfl rfl rfl h.closing
      simpa [State.pushCmd] using hmem
  | receive =>
    simp only [State.tells, Bool.and_eq_true, beq_iff_eq] at htells
    obtain ⟨rfl, -⟩ := htells
    unfold State.callReceive
    dsimp only
    rw [if_neg (by simp [hi.localClosed]), if_neg (by simp [h.unclaimed])]
    refine { h with calls := ?_ }
    have hcalls := h.calls
    unfold State.pendingReceives at hcalls
    show s.hist.received.length +
      ((s.receives ++ [s.nextId]).length + lockedReceives s.shared.queueLock) = inbox.calls + 1
    rw [List.length_append, List.length_singleton]
    omega
  | receiveViaStream | close | drop => cases htells
  | pollReceive hp =>
    obtain rfl := List.isEmpty_iff.mp htells
    exact h.pollReceive hi hr hp
  | feederLock hf =>
    rw [hidle] at hf
    cases hf
  | feederNext hf =>
    rw [hidle] at hf
    cases hf
  | taken _ _ _ hf =>
    rw [hidle] at hf
    cases hf
  | dropped hf =>
    rw [hidle] at hf
    cases hf

/-- Every move of a run that only receives is a move of the inbox. -/
theorem step (h : s.Refines inbox) (hi : s.InboxSound) (hr : s.ReceiveSound) {a : Action}
    {events : List InboxEvent} (htells : s.tells a events = true) (hs : Provider.step s a = some s') :
    s'.Refines (inbox.run events) := by
  by_cases hreceive : a = .receive
  · subst hreceive
    obtain ⟨-, rfl⟩ := guestCall_eq_some.mp hs
    exact h.guest hi hr htells .receive
  by_cases hreader : a = .reader
  · subst hreader
    exact h.reader hi htells hs
  obtain rfl := nil_of_tells htells hreceive hreader
  cases step_kind hs with
  | reader => exact absurd rfl hreader
  | cmd hcmd => exact h.cmd hcmd
  | flush t hflush =>
    have hframe := FlushFrame.of_flushes hflush
    refine h.congr (by rw [hframe]) (by rw [hframe]) (by rw [hframe]) (by rw [hframe]) ?_
      (by rw [hframe]) (by rw [hframe]) (by rw [hframe]) ?_
    · rw [hframe]
      exact fun _ _ => id
    · rw [hframe]
      exact h.closing
  | transport htransport =>
    refine h.congr (by rw [htransport]) (by rw [htransport]) (by rw [htransport])
      (by rw [htransport]) ?_ (by rw [htransport]) (by rw [htransport]) (by rw [htransport]) ?_
    · rw [htransport]
      exact fun _ _ => id
    · rw [htransport]
      exact h.closing
  | guest hguest => exact h.guest hi hr htells hguest

end State.Refines

/-- A run that only receives leaves the connection at the state of the inbox that has been told what
it was told. -/
theorem refines_of_run {s : State T × List InboxEvent} (h : (inboxSystem T).Reachable s) :
    (system T).ReachableUnder NoLocalClose s.1 ∧
      s.1.Refines ((Inbox.new s.1.shared.budget.limit).run s.2) := by
  have hmono {s : State T}
      (hr : (system T).ReachableUnder (fun s a => ∃ events, s.tells a events = true) s) :
      (system T).ReachableUnder NoLocalClose s :=
    hr.mono fun _ _ ⟨_, htells⟩ => noLocalClose_of_tells htells
  have hkeeps := System.Reachable.traced_induction
    (I := fun (s : State T) events => ∃ limit, s.Refines ((Inbox.new limit).run events))
    (by
      rintro _ ⟨config, ws, io, now, -, heof, rfl⟩
      exact ⟨config.maxInboundBufferBytes, rfl, rfl, nofun, rfl, nofun, rfl, rfl, rfl, rfl, rfl,
        nofun, nofun⟩)
    (by
      rintro s events a new s' hr ⟨limit, hrefines⟩ htells hstep
      obtain ⟨hi, hreceive⟩ := inbox_sound (hmono hr)
      refine ⟨limit, ?_⟩
      rw [Inbox.run_append]
      exact hrefines.step hi hreceive htells hstep) h
  obtain ⟨hr, limit, hrefines⟩ := hkeeps
  have hlimit := hrefines.limit
  rw [Inbox.run_limit] at hlimit
  exact ⟨hmono hr, hlimit ▸ hrefines⟩

end Polymorph.Provider
