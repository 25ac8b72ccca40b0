import PolymorphWebsocket.Provider.Feeder
import PolymorphWebsocket.Provider.Inbox

/-!
# The guest provider: pending receives and the claim of the stream

The receive calls and the feeder compete for the lock of the inbound queue.  Here the tasks are told
when they may go on: the holder of the lock waits for the claim, a local close and the queue, and an
unlock wakes one of those that wait for the lock, which any task may still take before it.  A poll
need not have been preceded by a wake.

`pending_receives_fail` says when no receive call outlives the claim: when the feeder takes the lock
after them all.
-/

namespace Polymorph.Provider

open Futures Transition

variable {T : Tungstenite}

/-- The receive calls that wait for the lock of the queue, and the feeder if it does. -/
def State.waiters (s : State T) : List QueueHolder :=
  s.receives.map .receive ++ if s.feeder = .lock then [.feeder] else []

/-- The task that an action polls. -/
def Action.polled : Action → Option QueueHolder
  | .pollReceive id => some (.receive id)
  | .feederLock | .feederNext => some .feeder
  | _ => none

/-- The poll finds nothing to do: the lock is taken, or the queue has nothing for the feeder. -/
def State.suspended (s : State T) : Action → Bool
  | .pollReceive id => s.receives.contains id
  | .feederLock => s.feeder == .lock
  | .feederNext => s.feeder == .next
  | _ => false

/-- The tasks that go on without waiting for anything: a new receive call, a new feeder, and a feeder
that comes back to its select. -/
def State.begins (s s' : State T) (a : Action) : List QueueHolder :=
  (if a = .receive ∧ s.nextId ∈ s'.receives then [.receive s.nextId] else []) ++
    if s'.feeder ≠ s.feeder ∧ (s'.feeder = .lock ∨ s'.feeder = .next) then [.feeder] else []

/-- One of the things that the holder of the lock waits for has happened: the claim, a local close,
a message or the end of the queue. -/
def State.signals (s s' : State T) (a : Action) : Bool :=
  a.polled.isNone && (s'.shared.streamStarted != s.shared.streamStarted ||
    s'.shared.localClosed != s.shared.localClosed ||
    s'.shared.queue.items != s.shared.queue.items ||
    s'.shared.queue.senderLive != s.shared.queue.senderLive)

/-- The lock of the queue has been held and is free. -/
def State.unlocks (s s' : State T) (a : Action) : Bool :=
  s'.shared.queueLock.isNone && (s.shared.queueLock.isSome || a.polled.isSome)

/-- The waiter that an unlock wakes: whichever. -/
def State.wakesWaiter (s' : State T) (choice : Nat) : List QueueHolder :=
  s'.waiters[choice % s'.waiters.length]?.toList

/-- The receive calls that are pending: those that wait for the lock, and the one that has it. -/
def State.pending (s : State T) : List Nat :=
  s.receives ++
    match s.shared.queueLock with
    | some (.receive id) => [id]
    | some .feeder | none => []

/-- A connection with the wakes of its receive calls and its feeder. -/
structure Waking (T : Tungstenite) where
  conn : State T
  /-- Those that may go on: they have begun or been woken and not been polled since. -/
  woken : List QueueHolder
  /-- The receive calls that were pending when the stream was claimed.  The code does not read
  them. -/
  claimed : List Nat

/-- A move of the connection, with the choice of the waiter that an unlock wakes. -/
structure WakingMove where
  action : Action
  choice : Nat := 0
  deriving DecidableEq, Repr

/-- The state after a move of the connection. -/
def Waking.moves (w : Waking T) (m : WakingMove) (conn : State T) : Waking T where
  conn := conn
  woken :=
    w.conn.begins conn m.action ++
      ((if w.conn.signals conn m.action then w.conn.shared.queueLock.toList else []) ++
        ((if w.conn.unlocks conn m.action then conn.wakesWaiter m.choice else []) ++
          w.woken.filter fun t => m.action.polled ≠ some t))
  claimed :=
    if conn.shared.streamStarted && !w.conn.shared.streamStarted then w.conn.pending else w.claimed

/-- The state after a poll that finds nothing to do. -/
def Waking.suspends (w : Waking T) (a : Action) : Waking T :=
  { w with woken := w.woken.filter fun t => a.polled ≠ some t }

/-- The state after a move, if the move is possible. -/
def wakingStep (w : Waking T) (m : WakingMove) : Option (Waking T) :=
  match step w.conn m.action with
  | some conn => some (w.moves m conn)
  | none => if w.conn.suspended m.action then some (w.suspends m.action) else none

/-- The connections of the guest provider with the wakes of their tasks. -/
def wakingSystem (T : Tungstenite) : System (Waking T) WakingMove where
  init w := (system T).init w.conn ∧ w.woken = [] ∧ w.claimed = []
  step := wakingStep

/-- The condition on a move: the feeder takes the lock only when no receive call waits for it. -/
def FeederTakesLast (w : Waking T) (m : WakingMove) : Prop :=
  m.action = .feederLock → w.conn.shared.queueLock = none → w.conn.receives = []

instance (w : Waking T) (m : WakingMove) : Decidable (FeederTakesLast w m) :=
  inferInstanceAs (Decidable (_ → _ → _))

variable {s s' : State T} {w w' : Waking T} {m : WakingMove}

/-! ### What a move does to the queue's waiters -/

/-- The lock and those that wait for it stay; a feeder may begin, and the stream may be claimed. -/
structure QueueKept (s s' : State T) : Prop where
  receives : s'.receives = s.receives
  lock : s'.shared.queueLock = s.shared.queueLock
  feeder : s'.feeder = s.feeder ∨ s'.feeder = .lock
  received : ∀ r, r ∈ s.hist.received → r ∈ s'.hist.received
  started : s.shared.streamStarted = true → s'.shared.streamStarted = true

/-- The state after a receive call has begun. -/
def State.beginsReceive (s : State T) : State T :=
  { s with nextId := s.nextId + 1, receives := s.receives ++ [s.nextId] }

/-- What a move of the connection does to the lock of the queue and its waiters. -/
inductive QueueMove (s : State T) : Action → State T → Prop
  | keeps {a : Action} {s' : State T} (ha : a.polled = none) (h : QueueKept s s') : QueueMove s a s'
  /-- A receive call begins. -/
  | receive (hclaimed : s.shared.streamClaimed = false) : QueueMove s .receive s.beginsReceive
  | poll {id : Nat} {s' : State T} (h : s.pollReceive id = some s') :
      QueueMove s (.pollReceive id) s'
  | feederLock (hf : s.feeder = .lock) (hl : s.shared.queueLock = none) : QueueMove s .feederLock
      { s with feeder := .next, shared := { s.shared with queueLock := some .feeder } }
  /-- The feeder goes on, with the lock. -/
  | feeds {a : Action} {s' : State T} (hlock : s.shared.queueLock = some .feeder)
      (hreceives : s'.receives = s.receives) (hlock' : s'.shared.queueLock = some .feeder)
      (hstarted : s'.shared.streamStarted = s.shared.streamStarted)
      (hreceived : s'.hist.received = s.hist.received) : QueueMove s a s'
  /-- The feeder ends. -/
  | ends {a : Action} {s' : State T} (hlock : s.shared.queueLock = some .feeder)
      (hreceives : s'.receives = s.receives) (hlock' : s'.shared.queueLock = none)
      (hfeeder : s'.feeder = .ended) (hstarted : s'.shared.streamStarted = s.shared.streamStarted)
      (hreceived : s'.hist.received = s.hist.received) : QueueMove s a s'

theorem QueueKept.callClose (s : State T) (code : Option UInt16) (reason : String) :
    QueueKept s (s.callClose code reason) := by
  rcases callClose_cases s code reason with ⟨-, hk⟩ | ⟨-, -, -, hk⟩ | ⟨-, -, -, hk⟩ <;> rw [hk] <;>
    exact ⟨rfl, rfl, .inl rfl, fun _ => id, id⟩

/-- The moves of the pump and the transport leave the lock to the guest's side. -/
theorem QueueKept.of_kind {a : Action} (h : StepKind s a s') (hguest : ¬ GuestMove s a s') :
    QueueKept s s' := by
  cases h with
  | reader h =>
    have hf := ReaderFrame.step h
    refine ⟨by rw [hf], by rw [hf], .inl (by rw [hf]), fun r hr => ?_, fun hs => ?_⟩
    · rw [hf]
      exact hr
    · rw [hf]
      exact hs
  | cmd h =>
    have hf := CmdFrame.step h
    refine ⟨by rw [hf], by rw [hf], ?_, fun r hr => ?_, fun hs => ?_⟩
    · rcases cmdStep_takes h with ⟨-, hfeeder, -⟩ | ⟨c, -, hfeeder⟩
      · exact .inl hfeeder
      · rw [hfeeder]
        split
        · exact .inr rfl
        · exact .inl rfl
    · rw [hf]
      exact hr
    · rw [hf]
      exact hs
  | flush t h =>
    have hf := FlushFrame.of_flushes h
    refine ⟨by rw [hf], by rw [hf], .inl (by rw [hf]), fun r hr => ?_, fun hs => ?_⟩
    · rw [hf]
      exact hr
    · rw [hf]
      exact hs
  | transport h _ =>
    refine ⟨by rw [h], by rw [h], .inl (by rw [h]), fun r hr => ?_, fun hs => ?_⟩
    · rw [h]
      exact hr
    · rw [h]
      exact hs
  | guest h => exact absurd h hguest

/-- A poll that finds something to do is a move of the guest's side. -/
theorem guestMove_of_polled {a : Action} {t : QueueHolder} (ha : a.polled = some t)
    (h : step s a = some s') : GuestMove s a s' := by
  cases a with
  | pollReceive id => exact .pollReceive h
  | feederLock =>
    simp only [step] at h
    split at h
    · next hf =>
      cases h
      exact .feederLock hf.1 hf.2
    · cases h
  | feederNext =>
    simp only [step] at h
    split at h
    · next hf => exact .feederNext hf h
    · cases h
  | _ => cases ha

/-- The feeder's select resolves no receive call. -/
theorem feederSelect_calls (h : s.feederSelect = some s') :
    s'.receives = s.receives ∧ s'.hist.received = s.hist.received := by
  unfold State.feederSelect at h
  split at h
  · cases h
    exact ⟨rfl, rfl⟩
  · split at h
    · cases h
      exact ⟨rfl, rfl⟩
    · cases h
      exact ⟨rfl, rfl⟩
    · cases h

/-- Every move of a connection whose feeder is in order is one of these. -/
theorem queueMove_of_step (hf : s.FeederSound) {a : Action} (h : step s a = some s') :
    QueueMove s a s' := by
  have hkind := step_kind h
  by_cases hguest : GuestMove s a s'
  · cases hguest with
    | send message =>
      refine .keeps rfl ?_
      simp only [State.callSend]
      split <;> exact ⟨rfl, rfl, .inl rfl, fun _ => id, id⟩
    | receive =>
      unfold State.callReceive
      dsimp only
      split
      · exact .keeps rfl ⟨rfl, rfl, .inl rfl, fun _ => List.mem_append_left _, id⟩
      · split
        · exact .keeps rfl ⟨rfl, rfl, .inl rfl, fun _ => List.mem_append_left _, id⟩
        · next hclaimed => exact .receive (by simpa using hclaimed)
    | receiveViaStream =>
      refine .keeps rfl ?_
      simp only [State.callReceiveViaStream]
      split
      · exact ⟨rfl, rfl, .inl rfl, fun _ => id, id⟩
      · split <;> exact ⟨rfl, rfl, .inl rfl, fun _ => id, fun _ => rfl⟩
    | close code reason => exact .keeps rfl (.callClose s code reason)
    | drop =>
      have hk := QueueKept.callClose s none ""
      exact .keeps rfl ⟨hk.receives, hk.lock, hk.feeder, hk.received, hk.started⟩
    | pollReceive hp => exact .poll hp
    | feederLock hpc hl => exact .feederLock hpc hl
    | feederNext hpc hs =>
      have hframe := InboxFrame.feederSelect hs
      have hlock := hf.lock.mpr (by rw [hpc]; rfl)
      obtain ⟨hreceives, hreceived⟩ := feederSelect_calls hs
      rcases feederSelect_lock hs with ⟨m, -, hkept⟩ | ⟨hended, hfree⟩
      · exact .feeds hlock hreceives (hkept.trans hlock) (by rw [hframe]) hreceived
      · exact .ends hlock hreceives hfree hended (by rw [hframe]) hreceived
    | taken pc elements payload hpc _ => exact .feeds (hf.lock.mpr hpc) rfl (hf.lock.mpr hpc) rfl rfl
    | dropped hpc => exact .ends (hf.lock.mpr hpc) rfl rfl rfl rfl rfl
  · refine .keeps ?_ (.of_kind hkind hguest)
    cases ha : a.polled with
    | none => rfl
    | some t => exact absurd (guestMove_of_polled ha h) hguest

/-- What a poll of a receive call that gets the lock does. -/
structure ReceivePolled (s : State T) (id : Nat) (s' : State T) : Prop where
  free : s.shared.queueLock = none ∨ s.shared.queueLock = some (.receive id)
  waits : ∀ other, other ≠ id → other ∈ s.receives → other ∈ s'.receives
  started : s'.shared.streamStarted = s.shared.streamStarted
  received : ∀ r, r ∈ s.hist.received → r ∈ s'.hist.received
  /-- It keeps the lock, or resolves; after the claim it resolves. -/
  outcome : (s.shared.streamStarted = false ∧ s'.shared.queueLock = some (.receive id)) ∨
    s'.shared.queueLock = none ∧ (s.shared.streamStarted = true →
      (id, .error .receivingViaStream) ∈ s'.hist.received)

theorem receivePolled_of_select {id : Nat} {c : State T}
    (hfree : s.shared.queueLock = none ∨ s.shared.queueLock = some (.receive id))
    (hwaits : ∀ other, other ≠ id → other ∈ s.receives → other ∈ c.receives)
    (hstarted : c.shared.streamStarted = s.shared.streamStarted)
    (hreceived : c.hist.received = s.hist.received) :
    ReceivePolled s id (c.receiveSelect id) := by
  have hframe := InboxFrame.receiveSelect c id
  refine ⟨hfree, ?_, ?_, ?_, ?_⟩
  · rw [receiveSelect_receives]
    exact hwaits
  · rw [← hstarted, hframe]
  · intro r hr
    rw [← hreceived] at hr
    unfold State.receiveSelect
    dsimp only
    split
    · exact List.mem_append_left _ hr
    · split
      · exact List.mem_append_left _ hr
      · split
        · next item queue _ =>
          cases item with
          | some message => exact List.mem_append_left _ hr
          | none => exact List.mem_append_left _ hr
        · exact hr
  · rw [← hstarted]
    unfold State.receiveSelect
    dsimp only
    split
    · exact .inr ⟨rfl, fun _ => List.mem_append_right _ (List.mem_singleton.mpr rfl)⟩
    · next hs =>
      have hunclaimed : c.shared.streamStarted = false := by simpa using hs
      split
      · exact .inr ⟨rfl, fun hs' => absurd hs' hs⟩
      · split
        · exact .inr ⟨rfl, fun hs' => absurd hs' hs⟩
        · exact .inl ⟨hunclaimed, rfl⟩

theorem receivePolled_of_poll {id : Nat} (h : s.pollReceive id = some s') :
    ReceivePolled s id s' := by
  unfold State.pollReceive at h
  split at h
  · next hlock =>
    cases h
    exact receivePolled_of_select (.inr hlock) (fun _ _ hmem => hmem) rfl rfl
  · split at h
    · next hlock =>
      cases h
      exact receivePolled_of_select (.inl hlock.1)
        (fun other hne hmem => (List.mem_erase_of_ne hne).mpr hmem) rfl rfl
    · cases h

/-! ### The invariant of the wakes -/

/-- The invariant of a connection in which the feeder takes the lock last: no wake is lost, and no
receive call waits behind the feeder. -/
structure Waking.Sound (w : Waking T) : Prop where
  /-- A receive call with the lock may go on once the stream is claimed. -/
  holder : w.conn.shared.streamStarted = true →
    ∀ id, w.conn.shared.queueLock = some (.receive id) → .receive id ∈ w.woken
  /-- A free lock that someone waits for: one of them may go on. -/
  free : w.conn.shared.queueLock = none → w.conn.waiters ≠ [] → ∃ t ∈ w.conn.waiters, t ∈ w.woken
  feeder : w.conn.shared.queueLock = some .feeder → w.conn.receives = []
  claimed : ∀ id ∈ w.claimed, id ∈ w.conn.pending ∨
    (id, .error .receivingViaStream) ∈ w.conn.hist.received
  unclaimed : w.conn.shared.streamStarted = false → w.claimed = []

theorem mem_waiters {t : QueueHolder} :
    t ∈ s.waiters ↔ (∃ id ∈ s.receives, t = .receive id) ∨ (s.feeder = .lock ∧ t = .feeder) := by
  unfold State.waiters
  rw [List.mem_append, List.mem_map]
  constructor
  · rintro (⟨id, hid, rfl⟩ | hmem)
    · exact .inl ⟨id, hid, rfl⟩
    · split at hmem
      · next hf => exact .inr ⟨hf, List.mem_singleton.mp hmem⟩
      · cases hmem
  · rintro (⟨id, hid, rfl⟩ | ⟨hf, rfl⟩)
    · exact .inl ⟨id, hid, rfl⟩
    · rw [if_pos hf]
      exact .inr List.mem_cons_self

theorem mem_pending {id : Nat} :
    id ∈ s.pending ↔ id ∈ s.receives ∨ s.shared.queueLock = some (.receive id) := by
  unfold State.pending
  rw [List.mem_append]
  cases s.shared.queueLock with
  | none => simp
  | some holder =>
    cases holder with
    | feeder => simp
    | receive other => simp [eq_comm]

/-- The waiter that an unlock wakes is one of those that wait. -/
theorem wakesWaiter_mem (hne : s.waiters ≠ []) (choice : Nat) :
    ∃ t ∈ s.waiters, t ∈ s.wakesWaiter choice := by
  have hlt : choice % s.waiters.length < s.waiters.length :=
    Nat.mod_lt _ (List.length_pos_iff.mpr hne)
  refine ⟨s.waiters[choice % s.waiters.length], List.getElem_mem hlt, ?_⟩
  unfold State.wakesWaiter
  rw [List.getElem?_eq_getElem hlt]
  exact List.mem_singleton.mpr rfl

/-- Those that were woken stay so until they are polled. -/
theorem mem_moves_of_woken {t : QueueHolder} (h : t ∈ w.woken) (ha : m.action.polled ≠ some t)
    (conn : State T) : t ∈ (w.moves m conn).woken := by
  have hmem : t ∈ w.woken.filter fun t => m.action.polled ≠ some t :=
    List.mem_filter.mpr ⟨h, by simpa using ha⟩
  exact List.mem_append_right _ (List.mem_append_right _ (List.mem_append_right _ hmem))

/-- An unlock wakes one of those that wait. -/
theorem mem_moves_of_unlocks {conn : State T} (h : w.conn.unlocks conn m.action = true)
    (hne : conn.waiters ≠ []) : ∃ t ∈ conn.waiters, t ∈ (w.moves m conn).woken := by
  obtain ⟨t, hwaits, hwoken⟩ := wakesWaiter_mem hne m.choice
  refine ⟨t, hwaits, List.mem_append_right _ (List.mem_append_right _ (List.mem_append_left _ ?_))⟩
  rw [if_pos h]
  exact hwoken

/-- The claim wakes the receive call that has the lock. -/
theorem mem_moves_of_claim {conn : State T} {t : QueueHolder} (ha : m.action.polled = none)
    (hs : w.conn.shared.streamStarted = false) (hs' : conn.shared.streamStarted = true)
    (hlock : w.conn.shared.queueLock = some t) : t ∈ (w.moves m conn).woken := by
  have hsignals : w.conn.signals conn m.action = true := by
    unfold State.signals
    rw [ha, hs, hs']
    rfl
  refine List.mem_append_right _ (List.mem_append_left _ ?_)
  rw [if_pos hsignals, hlock]
  exact List.mem_singleton.mpr rfl

/-- A feeder that begins may go on. -/
theorem feeder_mem_moves {conn : State T} (hne : w.conn.feeder ≠ .lock) (hf : conn.feeder = .lock) :
    .feeder ∈ (w.moves m conn).woken := by
  refine List.mem_append_left _ (List.mem_append_right _ ?_)
  have hbegins : conn.feeder ≠ w.conn.feeder ∧ (conn.feeder = .lock ∨ conn.feeder = .next) :=
    ⟨fun heq => hne (heq.symm.trans hf), .inl hf⟩
  rw [if_pos hbegins]
  exact List.mem_singleton.mpr rfl

/-- A receive call that begins may go on. -/
theorem receive_mem_moves {conn : State T} (ha : m.action = .receive)
    (hmem : w.conn.nextId ∈ conn.receives) : .receive w.conn.nextId ∈ (w.moves m conn).woken := by
  refine List.mem_append_left _ (List.mem_append_left _ ?_)
  rw [if_pos ⟨ha, hmem⟩]
  exact List.mem_singleton.mpr rfl

namespace Waking.Sound

/-- Between two states with the same claim, the claimed calls are the same. -/
theorem claimed_moves {conn : State T}
    (hs : conn.shared.streamStarted = w.conn.shared.streamStarted) :
    (w.moves m conn).claimed = w.claimed := by
  refine if_neg ?_
  rw [hs]
  simp

theorem keeps (hw : w.Sound) {conn : State T} (ha : m.action.polled = none)
    (hk : QueueKept w.conn conn) : (w.moves m conn).Sound := by
  have hpending {id : Nat} (h : id ∈ w.conn.pending) : id ∈ conn.pending := by
    rw [mem_pending, hk.receives, hk.lock]
    exact mem_pending.mp h
  constructor
  · intro hs' id hlock
    have hlock := hk.lock.symm.trans hlock
    by_cases hs : w.conn.shared.streamStarted = true
    · exact mem_moves_of_woken (hw.holder hs id hlock) (by rw [ha]; nofun) conn
    · exact mem_moves_of_claim ha (by simpa using hs) hs' hlock
  · intro hfree hne
    by_cases hold : w.conn.waiters = []
    · -- Only a feeder that has just begun can wait.
      have hreceives : conn.receives = [] := by
        rw [hk.receives]
        exact List.map_eq_nil_iff.mp (List.append_eq_nil_iff.mp hold).1
      have hlock : w.conn.feeder ≠ .lock := by
        intro hf
        have hmem : QueueHolder.feeder ∈ w.conn.waiters := mem_waiters.mpr (.inr ⟨hf, rfl⟩)
        rw [hold] at hmem
        cases hmem
      obtain ⟨t, ht⟩ := List.exists_mem_of_ne_nil _ hne
      rcases mem_waiters.mp ht with ⟨id, hid, -⟩ | ⟨hf, -⟩
      · change id ∈ conn.receives at hid
        rw [hreceives] at hid
        cases hid
      · exact ⟨.feeder, mem_waiters.mpr (.inr ⟨hf, rfl⟩), feeder_mem_moves hlock hf⟩
    · obtain ⟨t, hwaits, hwoken⟩ := hw.free (hk.lock.symm.trans hfree) hold
      refine ⟨t, ?_, mem_moves_of_woken hwoken (by rw [ha]; nofun) conn⟩
      rw [mem_waiters] at hwaits ⊢
      rw [show (w.moves m conn).conn.receives = w.conn.receives from hk.receives]
      rcases hwaits with hreceive | ⟨hf, ht⟩
      · exact .inl hreceive
      · rcases hk.feeder with hsame | hmoved
        · exact .inr ⟨hsame.trans hf, ht⟩
        · exact .inr ⟨hmoved, ht⟩
  · intro hlock
    exact hk.receives.trans (hw.feeder (hk.lock.symm.trans hlock))
  · intro id hid
    change id ∈ ite _ _ _ at hid
    split at hid
    · exact .inl (hpending hid)
    · rcases hw.claimed id hid with hwaits | hreceived
      · exact .inl (hpending hwaits)
      · exact .inr (hk.received _ hreceived)
  · intro hs'
    change conn.shared.streamStarted = false at hs'
    have hs : w.conn.shared.streamStarted = false := by
      by_contra hs
      rw [Bool.not_eq_false] at hs
      exact absurd (hk.started hs) (by rw [hs']; nofun)
    rw [claimed_moves (hs'.trans hs.symm)]
    exact hw.unclaimed hs

theorem receive (hw : w.Sound) (ha : m.action = .receive) (hf : w.conn.FeederSound)
    (hunclaimed : w.conn.shared.streamClaimed = false) :
    (w.moves m w.conn.beginsReceive).Sound := by
  have hpolled : m.action.polled = none := by rw [ha]; rfl
  have hclaimed : (w.moves m w.conn.beginsReceive).claimed = w.claimed := claimed_moves rfl
  constructor
  · intro hs id hlock
    exact mem_moves_of_woken (hw.holder hs id hlock) (by rw [hpolled]; nofun) _
  · intro _ _
    have hmem : w.conn.nextId ∈ w.conn.receives ++ [w.conn.nextId] :=
      List.mem_append_right _ (List.mem_singleton.mpr rfl)
    exact ⟨.receive w.conn.nextId, mem_waiters.mpr (.inl ⟨_, hmem, rfl⟩), receive_mem_moves ha hmem⟩
  · intro hlock
    -- A feeder with the lock comes from a claim.
    have hfeeders := hf.feeders
    have hidle := State.FeederSound.ne_idle_of_holdsQueue (hf.lock.mp hlock)
    unfold State.feeders at hfeeders
    rw [hunclaimed, if_neg hidle, Bool.toNat_false] at hfeeders
    omega
  · intro id hid
    rw [hclaimed] at hid
    rcases hw.claimed id hid with hwaits | hreceived
    · refine .inl (mem_pending.mpr ?_)
      rcases mem_pending.mp hwaits with hmem | hlock
      · exact .inl (List.mem_append_left _ hmem)
      · exact .inr hlock
    · exact .inr hreceived
  · intro hs
    rw [hclaimed]
    exact hw.unclaimed hs

theorem poll (hw : w.Sound) {id : Nat} {conn : State T} (ha : m.action = .pollReceive id)
    (hp : ReceivePolled w.conn id conn) : (w.moves m conn).Sound := by
  have hclaimed : (w.moves m conn).claimed = w.claimed := claimed_moves hp.started
  constructor
  · intro hs other hlock
    change conn.shared.streamStarted = true at hs
    change conn.shared.queueLock = _ at hlock
    rw [hp.started] at hs
    rcases hp.outcome with ⟨hs', -⟩ | ⟨hfree, -⟩
    · rw [hs] at hs'
      cases hs'
    · rw [hfree] at hlock
      cases hlock
  · intro hfree hne
    have hunlocks : w.conn.unlocks conn m.action = true := by
      unfold State.unlocks
      rw [show conn.shared.queueLock = none from hfree, ha]
      simp [Action.polled]
    exact mem_moves_of_unlocks hunlocks hne
  · intro hlock
    change conn.shared.queueLock = _ at hlock
    rcases hp.outcome with ⟨-, hkept⟩ | ⟨hfree, -⟩
    · rw [hkept] at hlock
      cases hlock
    · rw [hfree] at hlock
      cases hlock
  · intro other hother
    rw [hclaimed] at hother
    have hs : w.conn.shared.streamStarted = true := by
      by_contra hs
      rw [hw.unclaimed (by simpa using hs)] at hother
      cases hother
    obtain ⟨-, hresolved⟩ : conn.shared.queueLock = none ∧ _ := by
      rcases hp.outcome with ⟨hs', -⟩ | houtcome
      · rw [hs] at hs'
        cases hs'
      · exact houtcome
    by_cases hsame : other = id
    · rw [hsame]
      exact .inr (hresolved hs)
    · rcases hw.claimed other hother with hwaits | hreceived
      · refine .inl (mem_pending.mpr ?_)
        rcases mem_pending.mp hwaits with hmem | hlock
        · exact .inl (hp.waits other hsame hmem)
        · rcases hp.free with hfree | hheld
          · rw [hfree] at hlock
            cases hlock
          · rw [hheld] at hlock
            cases hlock
            exact absurd rfl hsame
      · exact .inr (hp.received _ hreceived)
  · intro hs
    change conn.shared.streamStarted = false at hs
    rw [hclaimed]
    exact hw.unclaimed (hp.started.symm.trans hs)

/-- The feeder goes on with the lock that it has or takes, and no receive call waits. -/
theorem feeds (hw : w.Sound) {conn : State T} (hlock : conn.shared.queueLock = some .feeder)
    (hreceives : conn.receives = w.conn.receives) (hnone : w.conn.receives = [])
    (hheld : ∀ id, w.conn.shared.queueLock ≠ some (.receive id))
    (hstarted : conn.shared.streamStarted = w.conn.shared.streamStarted)
    (hreceived : conn.hist.received = w.conn.hist.received) : (w.moves m conn).Sound := by
  constructor
  · intro _ id hlock'
    change conn.shared.queueLock = _ at hlock'
    rw [hlock] at hlock'
    cases hlock'
  · intro hfree
    change conn.shared.queueLock = _ at hfree
    rw [hlock] at hfree
    cases hfree
  · intro _
    exact hreceives.trans hnone
  · intro id hid
    rw [claimed_moves hstarted] at hid
    rcases hw.claimed id hid with hwaits | hmem
    · exfalso
      rcases mem_pending.mp hwaits with hmem | hlock'
      · rw [hnone] at hmem
        cases hmem
      · exact hheld id hlock'
    · refine .inr ?_
      show _ ∈ conn.hist.received
      rw [hreceived]
      exact hmem
  · intro hs
    rw [claimed_moves hstarted]
    exact hw.unclaimed (hstarted.symm.trans hs)

/-- The feeder ends: the unlock wakes a receive call that waits. -/
theorem ends (hw : w.Sound) {conn : State T} (hlock : w.conn.shared.queueLock = some .feeder)
    (hreceives : conn.receives = w.conn.receives) (hfree : conn.shared.queueLock = none)
    (hstarted : conn.shared.streamStarted = w.conn.shared.streamStarted)
    (hreceived : conn.hist.received = w.conn.hist.received) : (w.moves m conn).Sound := by
  constructor
  · intro _ id hlock'
    change conn.shared.queueLock = _ at hlock'
    rw [hfree] at hlock'
    cases hlock'
  · intro _ hne
    have hunlocks : w.conn.unlocks conn m.action = true := by
      unfold State.unlocks
      rw [hfree, hlock]
      rfl
    exact mem_moves_of_unlocks hunlocks hne
  · intro hlock'
    change conn.shared.queueLock = _ at hlock'
    rw [hfree] at hlock'
    cases hlock'
  · intro id hid
    rw [claimed_moves hstarted] at hid
    rcases hw.claimed id hid with hwaits | hmem
    · refine .inl (mem_pending.mpr ?_)
      rcases mem_pending.mp hwaits with hmem | hlock'
      · refine .inl ?_
        show id ∈ conn.receives
        rw [hreceives]
        exact hmem
      · rw [hlock] at hlock'
        cases hlock'
    · refine .inr ?_
      show _ ∈ conn.hist.received
      rw [hreceived]
      exact hmem
  · intro hs
    rw [claimed_moves hstarted]
    exact hw.unclaimed (hstarted.symm.trans hs)

/-- A poll that finds the lock taken, or nothing for the feeder, loses no wake that is needed. -/
theorem suspends (hw : w.Sound) (hf : w.conn.FeederSound) {a : Action}
    (hsuspended : w.conn.suspended a = true) (hstep : Provider.step w.conn a = none) :
    (w.suspends a).Sound := by
  -- The lock is taken, by another task than the one polled.
  have hheld : w.conn.shared.queueLock ≠ none ∧
      ∀ id, w.conn.shared.queueLock = some (.receive id) → a.polled ≠ some (.receive id) := by
    cases a with
    | pollReceive id =>
      have hmem : id ∈ w.conn.receives := by simpa [State.suspended] using hsuspended
      change w.conn.pollReceive id = none at hstep
      unfold State.pollReceive at hstep
      split at hstep
      · cases hstep
      · next hother =>
        split at hstep
        · cases hstep
        · next htaken =>
          refine ⟨fun hnone => htaken ⟨hnone, hmem⟩, fun other hlock hpolled => ?_⟩
          cases hpolled
          exact hother hlock
    | feederLock =>
      have hpc : w.conn.feeder = .lock := by simpa [State.suspended] using hsuspended
      simp only [Provider.step] at hstep
      split at hstep
      · cases hstep
      · next htaken => exact ⟨fun hnone => htaken ⟨hpc, hnone⟩, by rintro id - ⟨⟩⟩
    | feederNext =>
      have hpc : w.conn.feeder = .next := by simpa [State.suspended] using hsuspended
      have hlock : w.conn.shared.queueLock = some .feeder := hf.lock.mpr (by rw [hpc]; rfl)
      exact ⟨by rw [hlock]; rintro ⟨⟩, by rintro id - ⟨⟩⟩
    | _ => cases hsuspended
  constructor
  · intro hs id hlock
    refine List.mem_filter.mpr ⟨hw.holder hs id hlock, ?_⟩
    simpa using hheld.2 id hlock
  · intro hfree
    exact absurd hfree hheld.1
  · exact hw.feeder
  · exact hw.claimed
  · exact hw.unclaimed

/-- A move under the condition loses no wake and leaves no receive call behind the feeder. -/
theorem step (hw : w.Sound) (hf : w.conn.FeederSound) (hc : FeederTakesLast w m)
    (h : wakingStep w m = some w') : w'.Sound := by
  unfold wakingStep at h
  split at h
  · next conn hstep =>
    cases h
    generalize ha : m.action = a at hstep
    have hmove := queueMove_of_step hf hstep
    cases hmove with
    | keeps hpolled hk => exact hw.keeps (by rw [ha]; exact hpolled) hk
    | receive hunclaimed => exact hw.receive ha hf hunclaimed
    | poll hp => exact hw.poll ha (receivePolled_of_poll hp)
    | feederLock hpc hl =>
      refine hw.feeds rfl rfl (hc ha hl) (fun id hlock => ?_) rfl rfl
      rw [hl] at hlock
      cases hlock
    | feeds hlock hreceives hlock' hstarted hreceived =>
      refine hw.feeds hlock' hreceives (hw.feeder hlock) (fun id hheld => ?_) hstarted hreceived
      rw [hlock] at hheld
      cases hheld
    | ends hlock hreceives hlock' _ hstarted hreceived =>
      exact hw.ends hlock hreceives hlock' hstarted hreceived
  · next hstep =>
    split at h
    · next hsuspended =>
      cases h
      exact hw.suspends hf hsuspended hstep
    · cases h

end Waking.Sound

/-- The connection of a reachable state is a reachable state of the connection alone. -/
theorem conn_reachable (h : (wakingSystem T).Reachable w) : (system T).Reachable w.conn := by
  refine h.induction (I := fun w => (system T).Reachable w.conn) ?_ ?_
  · intro w hinit
    exact .of_init hinit.1
  · intro w m w' _ ih hstep
    change wakingStep w m = some w' at hstep
    unfold wakingStep at hstep
    split at hstep
    · next conn hconn =>
      cases hstep
      exact ih.next hconn
    · split at hstep
      · cases hstep
        exact ih
      · cases hstep

theorem waking_sound (h : (wakingSystem T).ReachableUnder FeederTakesLast w) : w.Sound := by
  refine h.induction (I := Waking.Sound) ?_ ?_
  · rintro w ⟨⟨config, ws, io, now, -, heof, hconn⟩, -, hclaimed⟩
    constructor
    · intro hs
      rw [hconn] at hs
      cases hs
    · intro _ hne
      rw [hconn] at hne
      exact absurd rfl hne
    · intro hlock
      rw [hconn] at hlock
      cases hlock
    · rw [hclaimed]
      nofun
    · intro _
      exact hclaimed
  · intro w m w' hreach ih hc hstep
    exact ih.step (feeder_sound (conn_reachable hreach.reachable)) hc hstep

/-- When the feeder takes the lock after every receive call that waits for it, then once the stream
has been claimed and no task may go on, no receive call is pending, and each of those that were
pending at the claim has failed with `receiving-via-stream`. -/
theorem pending_receives_fail (h : (wakingSystem T).ReachableUnder FeederTakesLast w)
    (hclaimed : w.conn.shared.streamStarted = true) (hidle : w.woken = []) :
    w.conn.pending = [] ∧
      ∀ id ∈ w.claimed, (id, .error .receivingViaStream) ∈ w.conn.hist.received := by
  have hw := waking_sound h
  have hpending : w.conn.pending = [] := by
    rw [List.eq_nil_iff_forall_not_mem]
    intro id hid
    cases hlock : w.conn.shared.queueLock with
    | none =>
      rcases mem_pending.mp hid with hmem | hheld
      · have hne : w.conn.waiters ≠ [] :=
          List.ne_nil_of_mem (mem_waiters.mpr (.inl ⟨id, hmem, rfl⟩))
        obtain ⟨t, -, ht⟩ := hw.free hlock hne
        rw [hidle] at ht
        cases ht
      · rw [hlock] at hheld
        cases hheld
    | some holder =>
      cases holder with
      | receive other =>
        have hmem := hw.holder hclaimed other hlock
        rw [hidle] at hmem
        cases hmem
      | feeder =>
        rcases mem_pending.mp hid with hmem | hheld
        · rw [hw.feeder hlock] at hmem
          cases hmem
        · rw [hlock] at hheld
          cases hheld
  refine ⟨hpending, fun id hid => ?_⟩
  rcases hw.claimed id hid with hwaits | hreceived
  · rw [hpending] at hwaits
    cases hwaits
  · exact hreceived

/-- Two receive calls of which the second is polled before the feeder. -/
theorem pending_receives_fail_two :
    ∃ w, (wakingSystem Core.tungstenite).runUnder FeederTakesLast
        { conn := Core.connection 10 100, woken := [], claimed := [] }
        [⟨.reader, 0⟩, ⟨.receive, 0⟩, ⟨.receive, 0⟩, ⟨.pollReceive 0, 0⟩, ⟨.pollReceive 1, 0⟩,
          ⟨.receiveViaStream, 0⟩, ⟨.cmd, 0⟩, ⟨.pollReceive 0, 0⟩, ⟨.pollReceive 1, 0⟩,
          ⟨.feederLock, 0⟩, ⟨.feederNext, 0⟩] = some w ∧
      w.claimed = [1, 0] ∧ w.conn.pending = [] ∧
      ∀ id ∈ w.claimed, (id, .error .receivingViaStream) ∈ w.conn.hist.received := by
  have hrun : (wakingSystem Core.tungstenite).runUnder FeederTakesLast
      { conn := Core.connection 10 100, woken := [], claimed := [] }
      [⟨.reader, 0⟩, ⟨.receive, 0⟩, ⟨.receive, 0⟩, ⟨.pollReceive 0, 0⟩, ⟨.pollReceive 1, 0⟩,
        ⟨.receiveViaStream, 0⟩, ⟨.cmd, 0⟩, ⟨.pollReceive 0, 0⟩, ⟨.pollReceive 1, 0⟩,
        ⟨.feederLock, 0⟩, ⟨.feederNext, 0⟩] = some _ := rfl
  have hstart : (wakingSystem Core.tungstenite).ReachableUnder FeederTakesLast
      { conn := Core.connection 10 100, woken := [], claimed := [] } :=
    .init ⟨⟨_, Core.fresh, .empty, 0, rfl, rfl, rfl⟩, rfl, rfl⟩
  obtain ⟨hpending, hfailed⟩ := pending_receives_fail (hstart.runUnder hrun) rfl rfl
  exact ⟨_, hrun, rfl, hpending, hfailed⟩

/-- A connection at rest whose feeder waits for a message. -/
theorem quiescent_of_feeding (hr : s.readerStep = none) (hc : s.cmdStep = none)
    (hreader : s.flush .reader = none) (hcmd : s.flush .cmd = none)
    (hlock : s.shared.queueLock = some .feeder) (hf : s.feeder = .next)
    (hselect : s.feederSelect = none) : s.Quiescent := by
  intro a s' hmove hstep
  exfalso
  have hflush (t : Task) : s.flush t = none := by
    cases t with
    | reader => exact hreader
    | cmd => exact hcmd
  cases a with
  | pollReceive id => simp [step, State.pollReceive, hlock] at hstep
  | reader => cases hr.symm.trans hstep
  | cmd => cases hc.symm.trans hstep
  | lock t => simp [step, hflush] at hstep
  | writeDone t => simp [step, hflush] at hstep
  | writeBound t => simp [step, hflush] at hstep
  | feederLock => simp [step, hf] at hstep
  | feederNext => simp [step, hf, hselect] at hstep
  | payloadDone => simp [step, hf] at hstep
  | send | receive | receiveViaStream | close | drop | accept | refuse | chunk | transportEnd
  | elementTaken | streamDropped | payloadTaken | payloadDropped | tick => cases hmove

/-- The feeder is polled before the second of two receive calls: that call stays pending on an open
connection at rest. -/
theorem receive_pending_behind_feeder :
    ¬ ∀ (T : Tungstenite) (w : Waking T), (wakingSystem T).Reachable w →
      w.conn.shared.streamStarted = true → w.conn.shared.state = .open → w.woken = [] →
      w.conn.Quiescent → w.conn.pending = [] := by
  intro hclaim
  have hrun : (wakingSystem Core.tungstenite).run
      { conn := Core.connection 10 100, woken := [], claimed := [] }
      [⟨.reader, 0⟩, ⟨.receive, 0⟩, ⟨.receive, 0⟩, ⟨.pollReceive 0, 0⟩, ⟨.pollReceive 1, 0⟩,
        ⟨.receiveViaStream, 0⟩, ⟨.cmd, 0⟩, ⟨.pollReceive 0, 0⟩, ⟨.feederLock, 0⟩,
        ⟨.feederNext, 0⟩, ⟨.pollReceive 1, 0⟩] = some _ := rfl
  have hstart : (wakingSystem Core.tungstenite).Reachable
      { conn := Core.connection 10 100, woken := [], claimed := [] } :=
    .of_init ⟨⟨_, Core.fresh, .empty, 0, rfl, rfl, rfl⟩, rfl, rfl⟩
  have hnone := hclaim Core.tungstenite _ (hstart.run hrun) rfl rfl rfl
    (quiescent_of_feeding rfl rfl rfl rfl rfl rfl rfl)
  cases hnone

end Polymorph.Provider
