import PolymorphWebsocket.Provider.Closing
import PolymorphWebsocket.Provider.Inbound
import PolymorphWebsocket.Provider.Ownership

/-!
# The guest provider: the stream feeder and a local close

The feeder of `receive-via-stream` alternates between three awaits: the next message of the queue,
the write of its element and the write of its payload.  Only the first is raced against a local
close.  A feeder that waits there, or for the lock of the queue, ends as soon as a task can move; a
feeder that is inside a write stays in it, with the lock, until the consumer reads on or drops the
stream.  `feeder_stops` says what a local close between the writes does.
-/

namespace Polymorph.Provider

open Futures Transition

variable {T : Tungstenite} {s s' : State T}

/-- The feeder is inside a write that waits for the consumer: of its element, of the rest of its
payload, or of a payload without bytes. -/
def State.feederWriting (s : State T) : Bool :=
  match s.feeder with
  | .element _ | .payload (_ :: _) => true
  | .payload [] => s.hist.elements.getLast?.any fun m => m.payload.isEmpty
  | .idle | .lock | .next | .ended => false

/-- The condition on a step: a local close is made while the feeder is between its writes. -/
def ClosesBetweenWrites (s : State T) (a : Action) : Prop :=
  ¬ NoLocalClose s a → s.shared.localClosed = false → s.feederWriting = false

instance (s : State T) (a : Action) : Decidable (ClosesBetweenWrites s a) :=
  inferInstanceAs (Decidable (_ → _ → _))

/-! ### States in which nothing can go on -/

/-- The moves that wait for no one outside the connection: those of its tasks and of its pending
receive calls, and the end of a write the consumer has taken in full. -/
def State.taskMove (s : State T) : Action → Bool
  | .pollReceive _ | .reader | .cmd | .lock _ | .writeDone _ | .writeBound _ | .feederLock
  | .feederNext => true
  | .payloadDone => !s.feederWriting
  | .send _ | .receive | .receiveViaStream | .close _ _ | .drop | .accept _ | .refuse | .chunk _
  | .transportEnd | .elementTaken | .streamDropped | .payloadTaken _ | .payloadDropped
  | .tick _ => false

/-- No task gets any further. -/
def State.Quiescent (s : State T) : Prop :=
  ∀ a s', s.taskMove a = true → step s a = some s' → s' = s

/-- No task gets any further, now or when the deadline has passed. -/
def State.Settled (s : State T) : Prop :=
  ∀ dt s', step s (.tick dt) = some s' → s'.Quiescent

/-! ### The feeder and the lock of the queue -/

/-- The feeders of a connection, in the command channel or spawned. -/
def State.feeders (s : State T) : Nat :=
  s.shared.cmds.count .claimStream + if s.feeder = .idle then 0 else 1

/-- A connection has one feeder at most, after the claim, and it holds the lock of the queue from
the moment it has taken it until it ends. -/
structure State.FeederSound (s : State T) : Prop where
  feeders : s.feeders ≤ s.shared.streamClaimed.toNat
  lock : s.shared.queueLock = some .feeder ↔ s.feeder.holdsQueue = true

/-- A poll of a receive call never leaves the lock with the feeder, and after a local close it frees
the lock. -/
theorem pollReceive_lock {id : Nat} (h : s.pollReceive id = some s') :
    s.shared.queueLock ≠ some .feeder ∧ s'.shared.queueLock ≠ some .feeder ∧
      (s.shared.localClosed = true → s'.shared.queueLock = none) := by
  have hselect (c : State T) : (c.receiveSelect id).shared.queueLock ≠ some .feeder ∧
      (c.shared.localClosed = true → (c.receiveSelect id).shared.queueLock = none) := by
    simp only [State.receiveSelect]
    split
    · exact ⟨by rintro ⟨⟩, fun _ => rfl⟩
    · split
      · exact ⟨by rintro ⟨⟩, fun _ => rfl⟩
      · next hl =>
        split
        · exact ⟨by rintro ⟨⟩, fun _ => rfl⟩
        · exact ⟨by rintro ⟨⟩, fun hl' => absurd hl' hl⟩
  unfold State.pollReceive at h
  split at h
  · next hl =>
    cases h
    refine ⟨?_, hselect s⟩
    rw [hl]
    rintro ⟨⟩
  · split at h
    · next hl =>
      cases h
      refine ⟨?_, hselect _⟩
      rw [hl.1]
      rintro ⟨⟩
    · cases h

/-- The feeder's select hands the feeder a message, with the lock kept, or ends it and frees the
lock. -/
theorem feederSelect_lock (h : s.feederSelect = some s') :
    (∃ m, s'.feeder = .element m ∧ s'.shared.queueLock = s.shared.queueLock) ∨
    (s'.feeder = .ended ∧ s'.shared.queueLock = none) := by
  unfold State.feederSelect at h
  split at h
  · cases h
    exact .inr ⟨rfl, rfl⟩
  · split at h
    · next m queue _ =>
      cases h
      exact .inl ⟨m, rfl, rfl⟩
    · cases h
      exact .inr ⟨rfl, rfl⟩
    · cases h

namespace State.FeederSound

theorem congr (h : s.FeederSound) (hcmds : s'.shared.cmds = s.shared.cmds)
    (hfeeder : s'.feeder = s.feeder) (hclaimed : s'.shared.streamClaimed = s.shared.streamClaimed)
    (hlock : s'.shared.queueLock = s.shared.queueLock) : s'.FeederSound := by
  refine ⟨?_, ?_⟩
  · rw [State.feeders, hcmds, hfeeder, hclaimed]
    exact h.feeders
  · rw [hlock, hfeeder]
    exact h.lock

/-- A command other than a claim enters the channel. -/
theorem pushCmd (h : s.FeederSound) {c : Cmd} (hc : c ≠ .claimStream) :
    (s.pushCmd c).FeederSound := by
  refine ⟨?_, h.lock⟩
  have hcount : (s.shared.cmds ++ [c]).count .claimStream = s.shared.cmds.count .claimStream := by
    simp [List.count_append, hc]
  show (s.shared.cmds ++ [c]).count .claimStream + _ ≤ _
  rw [hcount]
  exact h.feeders

/-- A claim in the channel is the connection's only feeder. -/
theorem idle_of_claim (h : s.FeederSound) (hmem : Cmd.claimStream ∈ s.shared.cmds) :
    s.feeder = .idle := by
  have hcount : 0 < s.shared.cmds.count .claimStream := List.count_pos_iff.mpr hmem
  have hone : s.feeders ≤ 1 := h.feeders.trans (Bool.toNat_le _)
  unfold State.feeders at hone
  by_contra hidle
  rw [if_neg hidle] at hone
  omega

theorem cmdStep (h : s.FeederSound) (hs : s.cmdStep = some s') : s'.FeederSound := by
  have hframe := CmdFrame.step hs
  have hclaimed : s'.shared.streamClaimed = s.shared.streamClaimed := by rw [hframe]
  have hlock : s'.shared.queueLock = s.shared.queueLock := by rw [hframe]
  rcases cmdStep_takes hs with ⟨hcmds, hfeeder, -⟩ | ⟨c, hcmds, hfeeder⟩
  · exact h.congr hcmds hfeeder hclaimed hlock
  · by_cases hc : c = .claimStream
    · subst hc
      have hidle : s.feeder = .idle := h.idle_of_claim (by simp [hcmds])
      rw [if_pos rfl] at hfeeder
      have hfeeders := h.feeders
      unfold State.feeders at hfeeders
      rw [hcmds, hidle, List.count_cons_self] at hfeeders
      refine ⟨?_, ?_⟩
      · unfold State.feeders
        rw [hclaimed, hfeeder]
        simpa using hfeeders
      · rw [hlock, h.lock, hidle, hfeeder]
        rfl
    · rw [if_neg hc] at hfeeder
      have hfeeders := h.feeders
      unfold State.feeders at hfeeders
      rw [hcmds, List.count_cons_of_ne hc] at hfeeders
      refine ⟨?_, ?_⟩
      · unfold State.feeders
        rw [hclaimed, hfeeder]
        exact hfeeders
      · rw [hlock, hfeeder]
        exact h.lock

/-- A feeder that is running moves to another of its awaits, or ends. -/
theorem moves (h : s.FeederSound) (hcmds : s'.shared.cmds = s.shared.cmds)
    (hclaimed : s'.shared.streamClaimed = s.shared.streamClaimed) (hfeeder : s.feeder ≠ .idle)
    (hfeeder' : s'.feeder ≠ .idle)
    (hlock : s'.shared.queueLock = some .feeder ↔ s'.feeder.holdsQueue = true) :
    s'.FeederSound := by
  refine ⟨?_, hlock⟩
  have hfeeders := h.feeders
  unfold State.feeders at hfeeders ⊢
  rw [if_neg hfeeder] at hfeeders
  rw [if_neg hfeeder', hcmds, hclaimed]
  exact hfeeders

/-- A feeder with the lock of the queue is spawned. -/
theorem ne_idle_of_holdsQueue {pc : FeederPc} (h : pc.holdsQueue = true) : pc ≠ .idle := by
  intro hidle
  rw [hidle] at h
  cases h

theorem callClose (h : s.FeederSound) (code : Option UInt16) (reason : String) :
    (s.callClose code reason).FeederSound := by
  rcases callClose_cases s code reason with ⟨-, hk⟩ | ⟨-, -, -, hk⟩ | ⟨-, -, -, hk⟩ <;> rw [hk]
  · exact h
  · exact h.congr rfl rfl rfl rfl
  · apply pushCmd
    · exact h.congr rfl rfl rfl rfl
    · nofun

theorem guest (h : s.FeederSound) (hserving : s.cmd.serving = true) {a : Action}
    (hm : GuestMove s a s') : s'.FeederSound := by
  cases hm with
  | send message =>
    simp only [State.callSend]
    split
    · exact h.congr rfl rfl rfl rfl
    · apply pushCmd
      · exact h.congr rfl rfl rfl rfl
      · rintro ⟨⟩
  | receive =>
    simp only [State.callReceive]
    split
    · exact h.congr rfl rfl rfl rfl
    · split <;> exact h.congr rfl rfl rfl rfl
  | receiveViaStream =>
    simp only [State.callReceiveViaStream]
    split
    · exact h
    · next hopen =>
      have hunclaimed : s.shared.streamClaimed = false := by
        cases hc : s.shared.streamClaimed with
        | false => rfl
        | true => simp [hc] at hopen
      have hfeeders := h.feeders
      rw [hunclaimed] at hfeeders
      rw [if_neg (by simpa using ne_exited_of_serving hserving)]
      refine ⟨?_, h.lock⟩
      show (s.shared.cmds ++ [Cmd.claimStream]).count Cmd.claimStream + _ ≤ 1
      rw [List.count_append, List.count_singleton_self]
      unfold State.feeders at hfeeders
      simp only [Bool.toNat_false] at hfeeders
      change s.shared.cmds.count .claimStream + 1 + (if s.feeder = .idle then 0 else 1) ≤ 1
      omega
  | close code reason => exact h.callClose code reason
  | drop => exact (h.callClose none "").congr rfl rfl rfl rfl
  | pollReceive hp =>
    have hframe := InboxFrame.pollReceive hp
    have hfeeder := pollReceive_feeder hp
    obtain ⟨hlock, hlock', -⟩ := pollReceive_lock hp
    have hcmds : s'.shared.cmds = s.shared.cmds := by rw [hframe]
    have hclaimed : s'.shared.streamClaimed = s.shared.streamClaimed := by rw [hframe]
    refine ⟨?_, ?_⟩
    · rw [State.feeders, hcmds, hfeeder, hclaimed]
      exact h.feeders
    · rw [hfeeder, ← h.lock]
      exact iff_of_false hlock' hlock
  | feederLock hf hl =>
    exact h.moves rfl rfl (by rw [hf]; rintro ⟨⟩) (by rintro ⟨⟩) (iff_of_true rfl rfl)
  | feederNext hf hs =>
    have hframe := InboxFrame.feederSelect hs
    have hcmds : s'.shared.cmds = s.shared.cmds := by rw [hframe]
    have hclaimed : s'.shared.streamClaimed = s.shared.streamClaimed := by rw [hframe]
    have hlock : s.shared.queueLock = some .feeder := h.lock.mpr (by rw [hf]; rfl)
    have hmoved := feederSelect_lock hs
    refine h.moves hcmds hclaimed (by rw [hf]; rintro ⟨⟩) ?_ ?_
    · rcases hmoved with ⟨m, hfeeder, -⟩ | ⟨hfeeder, -⟩ <;> rw [hfeeder] <;> rintro ⟨⟩
    · rcases hmoved with ⟨m, hfeeder, hkept⟩ | ⟨hfeeder, hfree⟩
      · rw [hfeeder, hkept, hlock]
        exact iff_of_true rfl rfl
      · rw [hfeeder, hfree]
        exact iff_of_false (by rintro ⟨⟩) (by rintro ⟨⟩)
  | taken pc elements payload hf hpc =>
    have hlock : s.shared.queueLock = some .feeder := h.lock.mpr hf
    exact h.moves rfl rfl (ne_idle_of_holdsQueue hf) (ne_idle_of_holdsQueue hpc)
      (iff_of_true hlock hpc)
  | dropped hf =>
    exact h.moves rfl rfl (ne_idle_of_holdsQueue hf) (by rintro ⟨⟩)
      (iff_of_false (by rintro ⟨⟩) (by rintro ⟨⟩))

end State.FeederSound

/-- In every reachable state the feeder and the lock of the queue are in order. -/
theorem feeder_sound (h : (system T).Reachable s) : s.FeederSound := by
  refine System.Reachable.induction (I := State.FeederSound) ?_ ?_ h
  · rintro _ ⟨config, ws, io, now, -, heof, rfl⟩
    constructor
    · exact Nat.le_refl 0
    · exact iff_of_false nofun nofun
  · intro s a s' hs ih hstep
    cases step_kind hstep with
    | reader h =>
      have hf := ReaderFrame.step h
      exact ih.congr (by rw [hf]) (by rw [hf]) (by rw [hf]) (by rw [hf])
    | cmd h => exact ih.cmdStep h
    | flush t h =>
      have hf := FlushFrame.of_flushes h
      exact ih.congr (by rw [hf]) (by rw [hf]) (by rw [hf]) (by rw [hf])
    | transport h _ => exact ih.congr (by rw [h]) (by rw [h]) (by rw [h]) (by rw [h])
    | guest h => exact ih.guest (cmd_serving hs) h

/-! ### What reaches the consumer -/

/-- The consumer is handed nothing, and the feeder stays where it is or goes on to an await outside
of its writes. -/
structure FeederKept (s s' : State T) : Prop where
  elements : s'.hist.elements = s.hist.elements
  payload : s'.hist.payload = s.hist.payload
  feeder : s'.feeder = s.feeder ∨ s'.feeder = .lock ∨ s'.feeder = .next ∨ s'.feeder = .ended

theorem FeederKept.feederWriting (h : FeederKept s s') (hf : s.feederWriting = false) :
    s'.feederWriting = false := by
  unfold State.feederWriting at hf ⊢
  rw [h.elements]
  rcases h.feeder with hsame | hmoved | hmoved | hmoved
  · rw [hsame]
    exact hf
  · rw [hmoved]
  · rw [hmoved]
  · rw [hmoved]

/-- A close call leaves the feeder alone. -/
theorem FeederKept.callClose (s : State T) (code : Option UInt16) (reason : String) :
    FeederKept s (s.callClose code reason) := by
  rcases callClose_cases s code reason with ⟨-, hk⟩ | ⟨-, -, -, hk⟩ | ⟨-, -, -, hk⟩ <;> rw [hk] <;>
    exact ⟨rfl, rfl, .inl rfl⟩

/-- After a local close, a feeder outside of its writes hands nothing over and begins no write. -/
theorem feederKept_of_step (hl : s.shared.localClosed = true) (hf : s.feederWriting = false)
    {a : Action} (h : step s a = some s') : FeederKept s s' := by
  unfold State.feederWriting at hf
  cases a with
  | send message =>
    obtain ⟨-, rfl⟩ := guestCall_eq_some.mp h
    simp only [State.callSend]
    split <;> exact ⟨rfl, rfl, .inl rfl⟩
  | receive =>
    obtain ⟨-, rfl⟩ := guestCall_eq_some.mp h
    simp only [State.callReceive, hl, if_true]
    exact ⟨rfl, rfl, .inl rfl⟩
  | receiveViaStream =>
    obtain ⟨-, rfl⟩ := guestCall_eq_some.mp h
    simp only [State.callReceiveViaStream, hl, Bool.true_or, if_true]
    exact ⟨rfl, rfl, .inl rfl⟩
  | close code reason =>
    obtain ⟨-, rfl⟩ := guestCall_eq_some.mp h
    exact .callClose s code reason
  | drop =>
    obtain ⟨-, rfl⟩ := guestCall_eq_some.mp h
    have hclose := FeederKept.callClose s none ""
    exact ⟨hclose.elements, hclose.payload, hclose.feeder⟩
  | pollReceive id =>
    have hframe := InboxFrame.pollReceive h
    exact ⟨by rw [hframe], by rw [hframe], .inl (pollReceive_feeder h)⟩
  | reader =>
    have hframe := ReaderFrame.step h
    exact ⟨by rw [hframe], by rw [hframe], .inl (by rw [hframe])⟩
  | cmd =>
    have hframe := CmdFrame.step h
    refine ⟨by rw [hframe], by rw [hframe], ?_⟩
    rcases cmdStep_takes h with ⟨-, hfeeder, -⟩ | ⟨c, -, hfeeder⟩
    · exact .inl hfeeder
    · by_cases hc : c = .claimStream
      · rw [if_pos hc] at hfeeder
        exact .inr (.inl hfeeder)
      · rw [if_neg hc] at hfeeder
        exact .inl hfeeder
  | lock | writeDone | writeBound | accept | refuse =>
    obtain ⟨t, hflush⟩ := flushes_of_step rfl h
    have hframe := FlushFrame.of_flushes hflush
    exact ⟨by rw [hframe], by rw [hframe], .inl (by rw [hframe])⟩
  | chunk frames =>
    simp only [step] at h
    split at h
    · cases h
      exact ⟨rfl, rfl, .inl rfl⟩
    · cases h
  | transportEnd =>
    simp only [step] at h
    split at h
    · cases h
      exact ⟨rfl, rfl, .inl rfl⟩
    · cases h
  | feederLock =>
    simp only [step] at h
    split at h
    · cases h
      exact ⟨rfl, rfl, .inr (.inr (.inl rfl))⟩
    · cases h
  | feederNext =>
    simp only [step] at h
    split at h
    · simp only [State.feederSelect, hl, if_true, Option.some.injEq] at h
      subst h
      exact ⟨rfl, rfl, .inr (.inr (.inr rfl))⟩
    · cases h
  | elementTaken =>
    simp only [step] at h
    split at h
    · next message hpc =>
      rw [hpc] at hf
      cases hf
    · cases h
  | payloadTaken n =>
    simp only [step] at h
    split at h
    · next rest hpc =>
      cases h
      cases rest with
      | nil => exact ⟨rfl, by simp, .inl (by simp [hpc])⟩
      | cons byte rest =>
        rw [hpc] at hf
        cases hf
    · cases h
  | payloadDone =>
    simp only [step] at h
    split at h
    · cases h
      exact ⟨rfl, rfl, .inr (.inr (.inl rfl))⟩
    · cases h
  | streamDropped | payloadDropped =>
    simp only [step] at h
    split at h
    · cases h
      exact ⟨rfl, rfl, .inr (.inr (.inr rfl))⟩
    · cases h
  | tick dt =>
    cases h
    exact ⟨rfl, rfl, .inl rfl⟩

/-- A step makes no local close, or is a local close and leaves the feeder alone. -/
theorem localClosed_of_step {a : Action} (h : step s a = some s') :
    s'.shared.localClosed = s.shared.localClosed ∨
      (¬ NoLocalClose s a ∧ s'.shared.localClosed = true ∧ FeederKept s s') := by
  cases step_kind h with
  | reader h => exact .inl (by rw [ReaderFrame.step h])
  | cmd h => exact .inl (by rw [CmdFrame.step h])
  | flush t h => exact .inl (by rw [FlushFrame.of_flushes h])
  | transport h _ => exact .inl (by rw [h])
  | guest h =>
    cases h with
    | send message =>
      refine .inl ?_
      simp only [State.callSend]
      split <;> rfl
    | receive =>
      refine .inl ?_
      simp only [State.callReceive]
      split
      · rfl
      · split <;> rfl
    | receiveViaStream =>
      refine .inl ?_
      simp only [State.callReceiveViaStream]
      split
      · rfl
      · split <;> rfl
    | close code reason =>
      have hkept := FeederKept.callClose s code reason
      rcases callClose_cases s code reason with ⟨-, hk⟩ | ⟨-, hv, -, hk⟩ | ⟨-, hv, -, hk⟩
      · exact .inl (by rw [hk])
      · exact .inr ⟨fun hno => hno.2 code reason rfl hv, by rw [hk]; rfl, hkept⟩
      · exact .inr ⟨fun hno => hno.2 code reason rfl hv, by rw [hk]; rfl, hkept⟩
    | drop =>
      have hkept := FeederKept.callClose s none ""
      have hkept' : FeederKept s s.callDrop := ⟨hkept.elements, hkept.payload, hkept.feeder⟩
      refine .inr ⟨fun hno => hno.1 rfl, ?_, hkept'⟩
      change (s.callClose none "").shared.localClosed = true
      rcases callClose_cases s none "" with ⟨hclosed | hv, hk⟩ | ⟨-, -, -, hk⟩ | ⟨-, -, -, hk⟩ <;>
        rw [hk]
      · exact hclosed
      · exact absurd rfl hv
      · rfl
      · rfl
    | pollReceive hp => exact .inl (by rw [InboxFrame.pollReceive hp])
    | feederNext _ hs => exact .inl (by rw [InboxFrame.feederSelect hs])
    | feederLock | taken | dropped => exact .inl rfl

/-- When the local closes fall between the writes of the feeder, it is in none of them after the
close. -/
theorem not_writing (h : (system T).ReachableUnder ClosesBetweenWrites s)
    (hl : s.shared.localClosed = true) : s.feederWriting = false := by
  revert hl
  refine h.induction (I := fun s => s.shared.localClosed = true → s.feederWriting = false) ?_ ?_
  · rintro _ ⟨config, ws, io, now, -, heof, rfl⟩ hl
    cases hl
  · intro s a s' _ ih hc hstep hl'
    cases hl : s.shared.localClosed with
    | true => exact (feederKept_of_step hl (ih hl) hstep).feederWriting (ih hl)
    | false =>
      rcases localClosed_of_step hstep with hsame | ⟨hclose, -, hkept⟩
      · rw [hl', hl] at hsame
        cases hsame
      · exact hkept.feederWriting (hc hclose hl)

/-- After a local close, a feeder outside of its writes hands nothing over in the rest of the run. -/
theorem handed_of_run {actions : List Action} (hl : s.shared.localClosed = true)
    (hf : s.feederWriting = false) (hrun : (system T).run s actions = some s') :
    s'.hist.elements = s.hist.elements ∧ s'.hist.payload = s.hist.payload := by
  induction actions generalizing s with
  | nil =>
    obtain rfl : s = s' := Option.some.inj hrun
    exact ⟨rfl, rfl⟩
  | cons a actions ih =>
    obtain ⟨s₁, hstep, hrest⟩ := Option.bind_eq_some_iff.mp hrun
    have hkept := feederKept_of_step hl hf hstep
    have hl₁ : s₁.shared.localClosed = true := by
      rcases localClosed_of_step hstep with hsame | ⟨-, hclosed, -⟩
      · exact hsame.trans hl
      · exact hclosed
    obtain ⟨helements, hpayload⟩ := ih hl₁ (hkept.feederWriting hf) hrest
    exact ⟨helements.trans hkept.elements, hpayload.trans hkept.payload⟩

/-! ### Where everything comes to rest -/

/-- After a local close, a receive call with the lock of the queue is not at rest. -/
theorem State.Quiescent.no_receive (hq : s.Quiescent) (hl : s.shared.localClosed = true) (id : Nat) :
    s.shared.queueLock ≠ some (.receive id) := by
  intro hlock
  have hpoll : s.pollReceive id = some (s.receiveSelect id) := by
    simp [State.pollReceive, hlock]
  have hsame : s.receiveSelect id = s := hq (.pollReceive id) _ rfl hpoll
  have hfree := (pollReceive_lock hpoll).2.2 hl
  rw [hsame, hlock] at hfree
  cases hfree

/-- After a local close, a feeder outside of its writes is at rest only when it has ended or has not
begun, and then nobody has the lock of the queue. -/
theorem State.Quiescent.feeder (hq : s.Quiescent) (hf : s.FeederSound)
    (hl : s.shared.localClosed = true) (hw : s.feederWriting = false) :
    s.feeder.running = false ∧ s.shared.queueLock = none := by
  have hfree (hholds : s.feeder.holdsQueue = false) : s.shared.queueLock = none := by
    cases hlock : s.shared.queueLock with
    | none => rfl
    | some holder =>
      cases holder with
      | receive id => exact absurd hlock (hq.no_receive hl id)
      | feeder =>
        have hholds' := hf.lock.mp hlock
        rw [hholds] at hholds'
        cases hholds'
  cases hpc : s.feeder with
  | idle => exact ⟨rfl, hfree (by rw [hpc]; rfl)⟩
  | ended => exact ⟨rfl, hfree (by rw [hpc]; rfl)⟩
  | lock =>
    have hlock := hfree (by rw [hpc]; rfl)
    have hstep : step s .feederLock = some _ := if_pos ⟨hpc, hlock⟩
    have hmoved := congrArg State.feeder (hq .feederLock _ rfl hstep)
    rw [hpc] at hmoved
    cases hmoved
  | next =>
    have hstep : step s .feederNext = some s.endFeeder := by
      simp [step, hpc, State.feederSelect, hl]
    have hmoved := congrArg State.feeder (hq .feederNext _ rfl hstep)
    rw [hpc] at hmoved
    cases hmoved
  | element message =>
    rw [State.feederWriting, hpc] at hw
    cases hw
  | payload rest =>
    cases rest with
    | cons byte rest =>
      rw [State.feederWriting, hpc] at hw
      cases hw
    | nil =>
      have hstep : step s .payloadDone = some { s with feeder := .next } := by
        simp [step, hpc]
      have hmove : s.taskMove .payloadDone = true := by
        simp [State.taskMove, hw]
      have hmoved := congrArg State.feeder (hq .payloadDone _ hmove hstep)
      rw [hpc] at hmoved
      cases hmoved

/-- Returning from a flush changes the state. -/
theorem resume_ne {c : State T} {t : Task} {f : FlushPc} (hc : c.flush t = some f)
    (hf : s.flush t = some f) (result : Except Error Unit) : c.resume t result ≠ s := by
  intro hsame
  have hflush := flush_resume hc result t
  rw [hsame, hf, if_pos rfl] at hflush
  cases hflush

/-- Going on inside a flush changes the state. -/
theorem setFlush_ne {c : State T} {t : Task} {f g : FlushPc} (hc : c.flush t = some f)
    (hf : s.flush t = some f) (hg : g ≠ f) : c.setFlush t g ≠ s := by
  intro hsame
  have hflush := flush_setFlush hc g t
  rw [hsame, hf, if_pos rfl] at hflush
  exact hg (Option.some.inj hflush).symm

/-- The awaits inside a flush do not depend on the clock. -/
theorem flush_tick (s : State T) (dt : Nat) (t : Task) :
    ({ s with now := s.now + dt } : State T).flush t = s.flush t := by
  cases t with
  | reader => exact flush_reader_congr rfl
  | cmd => exact flush_cmd_congr rfl

/-- After a local close, no connection settles during a write of the transport. -/
theorem State.Settled.no_write (hs : s.Settled) (ht : s.TimerSound)
    (hl : s.shared.localClosed = true) {t : Task} {rest : Bytes} {bound : WriteBound} :
    s.flush t ≠ some (.write rest bound) := by
  intro hf
  have hnow : s.Quiescent := hs 0 s rfl
  cases rest with
  | nil =>
    have hstep : step s (.writeDone t) = some (s.releaseLock.resume t (.ok ())) := by
      simp [step, hf]
    exact resume_ne (c := s.releaseLock) (by exact hf) hf _ (hnow (.writeDone t) _ rfl hstep)
  | cons byte rest =>
    cases bound with
    | localClose =>
      have hstep : step s (.writeBound t) =
          some (s.armDeadline.setFlush t (.write (byte :: rest) .deadline)) := by
        simp [step, hf, hl]
      exact setFlush_ne (c := s.armDeadline) (by exact hf) hf (by simp)
        (hnow (.writeBound t) _ rfl hstep)
    | deadline =>
      -- The write is given up once the deadline has passed.
      obtain ⟨d, hd⟩ := Option.ne_none_iff_exists'.mp (ht.write t _ hf)
      have harmed : s.flags.deadlineArmed = true := ht.armed (by rw [hd]; rintro ⟨⟩)
      have hlate := hs d _ rfl
      have hf' := (flush_tick s d t).trans hf
      have hexpired : ({ s with now := s.now + d } : State T).expired = true := by
        simp [State.expired, hd, harmed]
      have hstep : step { s with now := s.now + d } (.writeBound t) =
          some (({ s with now := s.now + d } : State T).failWrite t) := by
        simp [step, hf', hexpired]
      exact resume_ne (by exact hf') hf' _ (hlate (.writeBound t) _ rfl hstep)

/-- After a local close, no connection settles with a claim in the command channel. -/
theorem State.Settled.no_claim (hs : s.Settled) (ht : s.TimerSound) (hp : s.pipe.Sound)
    (hserving : s.cmd.serving = true) (hl : s.shared.localClosed = true) :
    Cmd.claimStream ∉ s.shared.cmds := by
  intro hmem
  have hnow : s.Quiescent := hs 0 s rfl
  have hne : s.shared.cmds ≠ [] := List.ne_nil_of_mem hmem
  obtain ⟨c, rest, hcmds⟩ := List.exists_cons_of_ne_nil hne
  have hidle {next : State T} (hstep : s.cmdStep = some next) : False := by
    obtain rfl : next = s := hnow .cmd next rfl hstep
    rcases cmdStep_takes hstep with ⟨-, -, hmoved⟩ | ⟨c', htaken, -⟩
    · obtain ⟨hlive, hdrained⟩ := hmoved hne
      rw [hlive] at hdrained
      cases hdrained
    · exact List.cons_ne_self _ _ htaken.symm
  cases hpc : s.cmd with
  | live =>
    cases hdone : s.flags.pumpDone with
    | true =>
      have hstep : s.cmdStep = some { s with cmd := .drained } := by
        simp [State.cmdStep, hpc, hdone]
      exact hidle hstep
    | false =>
      have hstep : s.cmdStep = some ((s.popCmd rest).cmdLive c) := by
        simp [State.cmdStep, hpc, hdone, hcmds]
      exact hidle hstep
  | drained =>
    have hstep : s.cmdStep = some ((s.popCmd rest).cmdDrained c) := by
      simp [State.cmdStep, hpc, hcmds]
    exact hidle hstep
  | exited =>
    rw [hpc] at hserving
    cases hserving
  | flushing f next =>
    have hf : s.flush .cmd = some f := flush_cmd.mpr ⟨next, hpc⟩
    cases f with
    | write rest bound => exact hs.no_write ht hl hf
    | lock =>
      cases hlock : s.writeLock with
      | some holder =>
        obtain ⟨rest, bound, hw⟩ := write_of_lock hp hlock
        exact hs.no_write ht hl hw
      | none =>
        have hstep : step s (.lock .cmd) = some (s.flushLocked .cmd) := if_pos ⟨hlock, hf⟩
        have hsame := hnow (.lock .cmd) _ rfl hstep
        have hflushes := flushes_of_lock hlock hf
        generalize s.flushLocked .cmd = s' at hsame hflushes
        cases hflushes with
        | empty => exact resume_ne (c := s.drainOutbound.2) (by exact hf) hf _ hsame
        | dead => exact resume_ne (c := s.drainOutbound.2) (by exact hf) hf _ hsame
        | start =>
          refine setFlush_ne (c := s.drainOutbound.2.holdLock .cmd s.io.outbound) (by exact hf) hf
            ?_ hsame
          rintro ⟨⟩
        | done hw | localClose hw | fail hw | accept _ _ hw => exact hs.no_write ht hl hw

/-- In every run whose local closes fall between the writes of the feeder, in every state after the
local close: the consumer is handed no element and no payload byte in the rest of the run; when no
task gets any further, no feeder is running and nobody has the lock of the queue; and when that
stays so past the deadline, the feeder has ended, or there is none. -/
theorem feeder_stops (h : (system T).ReachableUnder ClosesBetweenWrites s)
    (hl : s.shared.localClosed = true) :
    (∀ actions s', (system T).run s actions = some s' →
      s'.hist.elements = s.hist.elements ∧ s'.hist.payload = s.hist.payload) ∧
    (s.Quiescent → s.feeder.running = false ∧ s.shared.queueLock = none) ∧
    (s.Settled → (s.feeder = .ended ∨ s.feeder = .idle ∧ Cmd.claimStream ∉ s.shared.cmds) ∧
      s.shared.queueLock = none) := by
  have hreach := h.reachable
  have hw := not_writing h hl
  have hf := feeder_sound hreach
  refine ⟨fun actions s' hrun => handed_of_run hl hw hrun, fun hq => hq.feeder hf hl hw,
    fun hs => ?_⟩
  have hnow : s.Quiescent := hs 0 s rfl
  obtain ⟨hstopped, hfree⟩ := hnow.feeder hf hl hw
  refine ⟨?_, hfree⟩
  have hclaim := hs.no_claim (timer_sound hreach) (pipe_sound hreach) (cmd_serving hreach) hl
  cases hpc : s.feeder with
  | idle => exact .inr ⟨rfl, hclaim⟩
  | ended => exact .inl rfl
  | lock | next | element | payload =>
    rw [hpc] at hstopped
    cases hstopped

/-- A close while the feeder waits for the next message: of the message that arrives after it,
nothing is handed over. -/
theorem feeder_stops_between_writes :
    ∃ s s', (system Core.tungstenite).runUnder ClosesBetweenWrites (Core.connection 10 100)
        [.reader, .receiveViaStream, .cmd, .feederLock, .chunk [.binary [7]], .reader, .reader,
          .feederNext, .elementTaken, .payloadTaken 1, .close none ""] = some s ∧
      (system Core.tungstenite).run s
        [.payloadDone, .chunk [.binary [8]], .reader, .reader, .feederNext] = some s' ∧
      s'.hist.elements = [.binary [7]] ∧ s'.hist.payload = [7] ∧ s'.feeder = .ended := by
  have hrun : (system Core.tungstenite).runUnder ClosesBetweenWrites (Core.connection 10 100)
      [.reader, .receiveViaStream, .cmd, .feederLock, .chunk [.binary [7]], .reader, .reader,
        .feederNext, .elementTaken, .payloadTaken 1, .close none ""] = some _ := rfl
  have hstart : (system Core.tungstenite).ReachableUnder ClosesBetweenWrites
      (Core.connection 10 100) := .init ⟨_, Core.fresh, .empty, 0, rfl, rfl, rfl⟩
  have hstops := feeder_stops (hstart.runUnder hrun) rfl
  obtain ⟨helements, hpayload⟩ := hstops.1
    [.payloadDone, .chunk [.binary [8]], .reader, .reader, .feederNext] _ rfl
  exact ⟨_, _, hrun, rfl, helements, hpayload, rfl⟩

/-- In its second phase the command task waits for its senders. -/
theorem cmdStep_eq_none (hc : s.cmd = .drained) (hcmds : s.shared.cmds = [])
    (hlive : s.cmdSenderLive = true) : s.cmdStep = none := by
  unfold State.cmdStep
  rw [hc]
  dsimp only
  rw [hcmds]
  exact if_pos hlive

/-- A connection whose tasks are done, with the feeder inside a write to a consumer that does not
read, has settled. -/
theorem settled_of_element {message : Message} (hr : s.reader = .finished) (hc : s.cmd = .drained)
    (hcmds : s.shared.cmds = []) (hserving : s.cmd.serving = true)
    (hlock : s.shared.queueLock = some .feeder) (hf : s.feeder = .element message) :
    s.Settled := by
  have hlive := cmdSenderLive_of_serving hserving
  rintro dt _ ⟨⟩ a s' hmove hstep
  exfalso
  cases a with
  | pollReceive id => simp [step, State.pollReceive, hlock] at hstep
  | reader => simp [step, State.readerStep, hr] at hstep
  | cmd =>
    have hwaits : ({ s with now := s.now + dt } : State T).cmdStep = none :=
      cmdStep_eq_none hc hcmds hlive
    cases hwaits.symm.trans hstep
  | lock t => cases t <;> simp [step, State.flush, hr, hc] at hstep
  | writeDone t => cases t <;> simp [step, State.flush, hr, hc] at hstep
  | writeBound t => cases t <;> simp [step, State.flush, hr, hc] at hstep
  | feederLock => simp [step, hf] at hstep
  | feederNext => simp [step, hf] at hstep
  | payloadDone => simp [step, hf] at hstep
  | send | receive | receiveViaStream | close | drop | accept | refuse | chunk | transportEnd
  | elementTaken | streamDropped | payloadTaken | payloadDropped | tick => cases hmove

/-- A close during the write of an element: the connection settles with the feeder inside the write
and the lock of the queue taken, and a consumer that reads on is handed the element and its
payload. -/
theorem close_during_element_write :
    (¬ ∀ (T : Tungstenite) (s : State T), (system T).Reachable s → s.shared.localClosed = true →
      s.Settled → s.feeder = .ended ∧ s.shared.queueLock ≠ some .feeder) ∧
    ¬ ∀ (T : Tungstenite) (s s' : State T) (actions : List Action), (system T).Reachable s →
      s.shared.localClosed = true → (system T).run s actions = some s' →
      s'.hist.elements = s.hist.elements ∧ s'.hist.payload = s.hist.payload := by
  obtain ⟨s, hrun, hl, hr, hc, hcmds, hlock, hf, helements⟩ : ∃ s,
      (system Core.tungstenite).run (Core.connection 10 100)
        [.reader, .receiveViaStream, .cmd, .feederLock, .chunk [.binary [7], .connectionClosed],
          .reader, .feederNext, .close none "", .reader, .reader, .cmd, .cmd] = some s ∧
      s.shared.localClosed = true ∧ s.reader = .finished ∧ s.cmd = .drained ∧
      s.shared.cmds = [] ∧ s.shared.queueLock = some .feeder ∧
      s.feeder = .element (.binary [7]) ∧ s.hist.elements = [] :=
    ⟨_, rfl, rfl, rfl, rfl, rfl, rfl, rfl, rfl⟩
  have hreach := Core.reachable_of_run hrun
  constructor
  · intro hclaim
    have hsettled := settled_of_element hr hc hcmds (cmd_serving hreach) hlock hf
    exact (hclaim Core.tungstenite s hreach hl hsettled).2 hlock
  · intro hclaim
    have htaken : (system Core.tungstenite).run s [.elementTaken] =
        some { s with
          feeder := .payload [7]
          hist := { s.hist with elements := s.hist.elements ++ [.binary [7]] } } := by
      simp [System.run, system, step, hf, Message.payload]
    have hkept := (hclaim Core.tungstenite s _ [.elementTaken] hreach hl htaken).1
    simp [helements] at hkept

end Polymorph.Provider
