import PolymorphWebsocket.Provider.Closing

/-!
# The guest provider: the close frame the pump initiates

A `close` call only sets the local-close flag and sends a command; the reader task, which reads
neither, can begin a close without a code in between, for a message past the budget or past the
transport cap.  The command then finds the closing handshake begun and its code and reason are
lost.  In the runs in which no reader step does so between a `close` call with a code and its
command, the only close frame the pump initiates is the one of that call.
-/

namespace Polymorph.Provider

open Futures Transition

variable {T : Tungstenite} {s s' : State T}

/-- The close frames the pump has initiated are at most one, and the one of the first accepted
`close` call, when that call found no peer close frame, no overflow and the write side alive. -/
def State.KeepsCloseFrame (s : State T) : Prop :=
  ∀ call, s.hist.closeCall = some call → call.fresh = true →
    s.hist.closeFrames = [] ∨ s.hist.closeFrames = [call.frame]

/-- The first accepted `close` call of the connection has a code, and waits for its command in a
fresh connection. -/
def State.codePending (s : State T) : Bool :=
  !s.flags.wireClosing && s.hist.closeCall.any fun call => call.fresh && call.frame.isSome

/-- The next `read()` of the drain loop makes the reader close toward the peer. -/
def State.readsUncoded (s : State T) : Bool :=
  s.reader == .drain && s.closesUncoded s.io.nextOutcome.1

/-- The condition on a step: between a `close` call with a code and its command, the reader does
not read what makes it close toward the peer. -/
def KeepsCode (s : State T) (a : Action) : Prop :=
  a = .reader → s.codePending = true → s.readsUncoded = false

instance (s : State T) (a : Action) : Decidable (KeepsCode s a) := by
  unfold KeepsCode
  infer_instance

/-! ### Where the closing handshake begins -/

/-- What beginning a close does to the frames initiated and the handshake flag. -/
theorem beginClose_closeFrames (s : State T) (frame : Option CloseFrame) :
    (s.beginClose frame).2.flags.wireClosing = true ∧
    (s.beginClose frame).2.hist.closeFrames =
      if s.flags.wireClosing then s.hist.closeFrames else s.hist.closeFrames ++ [frame] := by
  rcases beginClose_cases s frame with ⟨hw, h⟩ | ⟨hw, _, _, -, h⟩ | ⟨hw, _, _, -, h⟩ <;> rw [h]
  · simp [hw]
  all_goals
    have hclosing : (s.closing frame).flags.wireClosing = true :=
      PumpFlags.armDeadline_wireClosing _ _ _
    exact ⟨hclosing, by rw [if_neg (by simp [hw])]; rfl⟩

/-- Delivering a message initiates no close frame and reads no peer frame; a latched overflow
stays. -/
theorem deliver_close (s : State T) (message : Message) :
    (s.deliver message).hist.closeFrames = s.hist.closeFrames ∧
    (s.deliver message).peerFrame = s.peerFrame ∧
    (s.shared.budget.overflowed = true → (s.deliver message).shared.budget.overflowed = true) := by
  have hkeep {len : Nat} {fits : Bool} {budget : Budget}
      (hb : s.shared.budget.reserve len = (fits, budget))
      (ho : s.shared.budget.overflowed = true) : budget.overflowed = true := by
    simp only [Budget.reserve, ho, if_pos] at hb
    cases hb
    exact ho
  rcases deliver_cases s message with ⟨-, h⟩ | ⟨-, _, hb, h⟩ | ⟨-, _, hb, h⟩ <;> rw [h]
  · exact ⟨rfl, rfl, id⟩
  · exact ⟨rfl, rfl, hkeep hb⟩
  · exact ⟨rfl, rfl, hkeep hb⟩

/-- What the reader does to the closing handshake: nothing or begin it for a peer close frame, or
else, when what it reads makes it close toward the peer, begin it with a close frame without a
code.  The peer's frame and the overflow stay latched. -/
structure ReaderCloses (s : State T) (uncoded : Bool) (s' : State T) : Prop where
  peerFrame : s.peerFrame.isSome = true → s'.peerFrame.isSome = true
  overflowed : s.shared.budget.overflowed = true → s'.shared.budget.overflowed = true
  change :
    (uncoded = false ∧ s'.hist.closeFrames = s.hist.closeFrames ∧
      (s'.flags.wireClosing = s.flags.wireClosing ∨
        (s'.flags.wireClosing = true ∧ s'.peerFrame.isSome = true))) ∨
    (uncoded = true ∧ s.flags.wireClosing = false ∧ s'.flags.wireClosing = true ∧
      s'.hist.closeFrames = s.hist.closeFrames ++ [none] ∧ s'.shared.budget.overflowed = true)

/-- A data message begins a close exactly when it overflows. -/
theorem readData_closes (s : State T) (message : Message) :
    ReaderCloses s (s.overflows message) (s.readData message) := by
  obtain ⟨hframes, hpeer, hlatch⟩ := deliver_close s message
  simp only [State.readData, deliver_overflows]
  split
  · next hover =>
    have hw : s.flags.wireClosing = false := by
      simp only [State.overflows, Bool.and_eq_true, Bool.not_eq_true'] at hover
      exact hover.1
    have ho : (s.deliver message).shared.budget.overflowed = true := by
      rw [← deliver_overflows, Bool.and_eq_true] at hover
      exact hover.1
    have hclose := beginClose_closeFrames (s.deliver message) none
    have hkeep : CmdFrame (s.deliver message) ((s.deliver message).beginClose none).2 :=
      .beginClose _ _
    rw [deliver_flags, hw, hframes] at hclose
    refine ⟨fun h => ?_, fun _ => ?_, .inr ⟨hover, hw, hclose.1, hclose.2, ?_⟩⟩
    · change ((s.deliver message).beginClose none).2.peerFrame.isSome = true
      rw [hkeep, hpeer]
      exact h
    all_goals
      change ((s.deliver message).beginClose none).2.shared.budget.overflowed = true
      rw [hkeep]
      exact ho
  · next hover =>
    refine ⟨fun h => ?_, hlatch, .inl ⟨by simpa using hover, hframes, .inl ?_⟩⟩
    · change (s.deliver message).peerFrame.isSome = true
      rw [hpeer]
      exact h
    · exact congrArg PumpFlags.wireClosing (deliver_flags s message)

/-- What the match on a `read()` of the drain loop does to the closing handshake. -/
theorem drainRead_closes (s : State T) (read : Option Inbound) :
    ReaderCloses s (s.closesUncoded read) (s.drainRead read) := by
  rcases read with - | i
  · exact ⟨id, id, .inl ⟨rfl, rfl, .inl rfl⟩⟩
  cases i with
  | binary bytes => exact readData_closes s _
  | text text => exact readData_closes s _
  | close frame =>
    have hpeer : (s.peerFrame.or (some (closeInfoFrom frame))).isSome = true := by
      cases s.peerFrame <;> rfl
    exact ⟨fun _ => hpeer, id, .inl ⟨rfl, rfl, .inr ⟨rfl, hpeer⟩⟩⟩
  | capacity =>
    have hclose := beginClose_closeFrames (s.latchOverflow.noteCut s.hist.data.length) none
    have hkeep : CmdFrame (s.latchOverflow.noteCut s.hist.data.length)
        ((s.latchOverflow.noteCut s.hist.data.length).beginClose none).2 := .beginClose _ _
    have ho : ((s.latchOverflow.noteCut s.hist.data.length).beginClose none).2.shared.budget.overflowed
        = true := by
      rw [hkeep]
      rfl
    refine ⟨fun h => ?_, fun _ => ho, ?_⟩
    · change ((s.latchOverflow.noteCut s.hist.data.length).beginClose none).2.peerFrame.isSome = true
      rw [hkeep]
      exact h
    · by_cases hw : s.flags.wireClosing = true
      · refine .inl ⟨by simp [State.closesUncoded, hw], hclose.2.trans (if_pos hw), .inl ?_⟩
        exact hclose.1.trans hw.symm
      · refine .inr ⟨?_, by simpa using hw, hclose.1, hclose.2.trans (if_neg hw), ho⟩
        simpa [State.closesUncoded] using hw
  | ping | pong | frame | connectionClosed | error => exact ⟨id, id, .inl ⟨rfl, rfl, .inl rfl⟩⟩

/-- The final drain begins no close. -/
theorem lastDrainRead_closes (s : State T) (read : Option Inbound) :
    (s.peerFrame.isSome = true → (s.lastDrainRead read).peerFrame.isSome = true) ∧
    (s.shared.budget.overflowed = true →
      (s.lastDrainRead read).shared.budget.overflowed = true) ∧
    (s.lastDrainRead read).flags.wireClosing = s.flags.wireClosing ∧
    (s.lastDrainRead read).hist.closeFrames = s.hist.closeFrames := by
  have hdata (message : Message) : (s.peerFrame.isSome = true →
        (s.deliver message).peerFrame.isSome = true) ∧
      (s.shared.budget.overflowed = true →
        (s.deliver message).shared.budget.overflowed = true) ∧
      (s.deliver message).flags.wireClosing = s.flags.wireClosing ∧
      (s.deliver message).hist.closeFrames = s.hist.closeFrames := by
    obtain ⟨hframes, hpeer, hlatch⟩ := deliver_close s message
    exact ⟨fun h => hpeer ▸ h, hlatch, congrArg PumpFlags.wireClosing (deliver_flags s message),
      hframes⟩
  rcases read with - | i
  · exact ⟨id, id, rfl, rfl⟩
  cases i with
  | binary bytes => exact hdata _
  | text text => exact hdata _
  | close frame =>
    refine ⟨fun _ => ?_, id, rfl, rfl⟩
    change (s.peerFrame.or (some (closeInfoFrom frame))).isSome = true
    cases s.peerFrame <;> rfl
  | ping | pong | frame | capacity | connectionClosed | error => exact ⟨id, id, rfl, rfl⟩

/-- What a reader step does to the closing handshake. -/
theorem readerStep_closes (h : s.readerStep = some s') : ReaderCloses s s.readsUncoded s' := by
  have hout (hr : s.reader ≠ .drain) : s.readsUncoded = false := by
    simp [State.readsUncoded, hr]
  unfold State.readerStep at h
  split at h
  · next hr =>
    cases h
    have hread := drainRead_closes s.webSocketRead.2 s.webSocketRead.1
    have huncoded : s.readsUncoded =
        s.webSocketRead.2.closesUncoded s.webSocketRead.1 := by
      rw [State.readsUncoded, hr]
      rfl
    rw [huncoded]
    exact ⟨hread.peerFrame, hread.overflowed, hread.change⟩
  · next hr =>
    cases h
    obtain ⟨hpeer, hlatch, hw, hf⟩ := lastDrainRead_closes s.webSocketRead.2 s.webSocketRead.1
    exact ⟨hpeer, hlatch, .inl ⟨hout (by simp [hr]), hf, .inl hw⟩⟩
  · next hr =>
    cases h
    exact ⟨id, id, .inl ⟨hout (by simp [hr]), rfl, .inl rfl⟩⟩
  · next hr =>
    split at h
    · cases h; exact ⟨id, id, .inl ⟨hout (by simp [hr]), rfl, .inl rfl⟩⟩
    · cases h
  · cases h
  · cases h

/-- What a step of the command task does to the closing handshake: nothing, or begin it for a close
command. -/
theorem cmdStep_closes (h : s.cmdStep = some s') :
    (s'.flags.wireClosing = s.flags.wireClosing ∧ s'.hist.closeFrames = s.hist.closeFrames) ∨
    ∃ code reason, Cmd.close code reason ∈ s.shared.cmds ∧ s'.flags.wireClosing = true ∧
      s'.hist.closeFrames = if s.flags.wireClosing then s.hist.closeFrames
        else s.hist.closeFrames ++ [closeFrameOf code reason] := by
  unfold State.cmdStep at h
  split at h
  · next hc =>
    split at h
    · cases h; exact .inl ⟨rfl, rfl⟩
    · split at h
      · next c rest hcmds =>
        cases h
        cases c with
        | send id message =>
          refine .inl ?_
          simp only [State.cmdLive, State.cmdSend]
          split
          · exact ⟨rfl, rfl⟩
          · simp only [State.webSocketSend]
            rcases T.send (s.popCmd rest).ws message with ⟨err | frame, ws⟩ <;> exact ⟨rfl, rfl⟩
        | close code reason =>
          have hclose := beginClose_closeFrames (s.popCmd rest) (closeFrameOf code reason)
          exact .inr ⟨code, reason, by simp [hcmds], hclose⟩
        | claimStream => exact .inl ⟨rfl, rfl⟩
      · split at h
        · cases h
        · next hlive =>
          -- The command task itself holds a sender of its channel.
          simp [State.cmdSenderLive, hc] at hlive
  · split at h
    · next c rest _ =>
      cases h
      cases c <;> exact .inl ⟨rfl, rfl⟩
    · split at h
      · cases h
      · cases h; exact .inl ⟨rfl, rfl⟩
  · cases h
  · cases h

/-! ### The invariant -/

/-- The close frames against the first accepted `close` call. -/
structure State.CloseFrameSound (s : State T) : Prop where
  /-- The first local close is the call on record. -/
  localClosed : s.shared.localClosed = s.hist.closeCall.isSome
  /-- The close commands carry the code of the call on record. -/
  cmds : ∀ code reason, Cmd.close code reason ∈ s.shared.cmds →
    ∃ call, s.hist.closeCall = some call ∧ closeFrameOf code reason = call.frame
  /-- A close frame begins the closing handshake. -/
  fresh : s.flags.wireClosing = false → s.hist.closeFrames = []
  /-- Without a local close, the closing handshake begins for a peer close frame or an overflow. -/
  closing : s.flags.wireClosing = true → s.hist.closeCall = none →
    s.peerFrame.isSome = true ∨ s.shared.budget.overflowed = true

/-- What the guest's side does to the local close: nothing, or an accepted `close` call whose
command is the only new close command. -/
theorem guest_closeCall {a : Action} (h : GuestMove s a s') :
    (s'.shared.localClosed = s.shared.localClosed ∧ s'.hist.closeCall = s.hist.closeCall ∧
      ∀ code reason, Cmd.close code reason ∈ s'.shared.cmds →
        Cmd.close code reason ∈ s.shared.cmds) ∨
    ∃ code reason, s.shared.localClosed = false ∧ s'.shared.localClosed = true ∧
      s'.hist.closeCall = s.hist.closeCall.or (some
        { frame := closeFrameOf code reason
          fresh := s.peerFrame.isNone && !s.shared.budget.overflowed && !s.flags.writeDead }) ∧
      ∀ c r, Cmd.close c r ∈ s'.shared.cmds →
        Cmd.close c r ∈ s.shared.cmds ∨ (c = code ∧ r = reason) := by
  have hclose (code : Option UInt16) (reason : String) := callClose_cases s code reason
  cases h with
  | send message =>
    simp only [State.callSend]
    split
    · exact .inl ⟨rfl, rfl, fun _ _ => id⟩
    · exact .inl ⟨rfl, rfl, fun _ _ hc => by simpa [State.pushCmd] using hc⟩
  | receive =>
    simp only [State.callReceive]
    split
    · exact .inl ⟨rfl, rfl, fun _ _ => id⟩
    · split <;> exact .inl ⟨rfl, rfl, fun _ _ => id⟩
  | receiveViaStream =>
    simp only [State.callReceiveViaStream]
    split
    · exact .inl ⟨rfl, rfl, fun _ _ => id⟩
    · split
      · exact .inl ⟨rfl, rfl, fun _ _ => id⟩
      · exact .inl ⟨rfl, rfl, fun _ _ hc => by simpa [State.pushCmd] using hc⟩
  | close code reason =>
    rcases hclose code reason with ⟨-, h⟩ | ⟨hl, -, -, h⟩ | ⟨hl, -, -, h⟩ <;> rw [h]
    · exact .inl ⟨rfl, rfl, fun _ _ => id⟩
    · exact .inr ⟨code, reason, hl, rfl, rfl, fun _ _ => .inl⟩
    · exact .inr ⟨code, reason, hl, rfl, rfl, fun _ _ hc => by
        simpa [State.pushCmd, State.closed, State.advance] using hc⟩
  | drop =>
    simp only [State.callDrop]
    rcases hclose none "" with ⟨-, h⟩ | ⟨hl, -, -, h⟩ | ⟨hl, -, -, h⟩ <;> rw [h]
    · exact .inl ⟨rfl, rfl, fun _ _ => id⟩
    · exact .inr ⟨none, "", hl, rfl, rfl, fun _ _ => .inl⟩
    · exact .inr ⟨none, "", hl, rfl, rfl, fun _ _ hc => by
        simpa [State.pushCmd, State.closed, State.advance] using hc⟩
  | pollReceive h => rw [InboxFrame.pollReceive h]; exact .inl ⟨rfl, rfl, fun _ _ => id⟩
  | feederNext _ h => rw [InboxFrame.feederSelect h]; exact .inl ⟨rfl, rfl, fun _ _ => id⟩
  | feederLock | taken | dropped => exact .inl ⟨rfl, rfl, fun _ _ => id⟩

namespace State.CloseFrameSound

/-- The invariant reads the close frames, the call on record and the close commands only. -/
theorem congr (h : s.CloseFrameSound) (hshared : s'.shared = s.shared)
    (hw : s'.flags.wireClosing = s.flags.wireClosing) (hhist : s'.hist.closeCall = s.hist.closeCall)
    (hf : s'.hist.closeFrames = s.hist.closeFrames) (hp : s'.peerFrame = s.peerFrame) :
    s'.CloseFrameSound := by
  refine ⟨?_, ?_, ?_, ?_⟩
  · rw [hshared, hhist]; exact h.localClosed
  · rw [hshared, hhist]; exact h.cmds
  · rw [hw, hf]; exact h.fresh
  · rw [hw, hhist, hp, hshared]; exact h.closing

theorem reader (h : s.CloseFrameSound) (hs : s.readerStep = some s') : s'.CloseFrameSound := by
  have hframe : ReaderFrame s s' := .step hs
  have hcall : s'.hist.closeCall = s.hist.closeCall := by rw [hframe]
  obtain ⟨hpeer, hlatch, hchange⟩ := readerStep_closes hs
  refine ⟨by rw [hframe]; exact h.localClosed, by rw [hframe]; exact h.cmds, ?_, ?_⟩
  · intro hw
    rcases hchange with ⟨-, hf, hw' | ⟨hw', -⟩⟩ | ⟨-, -, hw', -⟩
    · rw [hf]
      exact h.fresh (hw'.symm.trans hw)
    · exact absurd (hw.symm.trans hw') nofun
    · exact absurd (hw.symm.trans hw') nofun
  · intro hw hnone
    rcases hchange with ⟨-, -, hw' | ⟨-, hp⟩⟩ | ⟨-, -, -, -, ho⟩
    · exact (h.closing (hw'.symm.trans hw) (hcall.symm.trans hnone)).imp hpeer hlatch
    · exact .inl hp
    · exact .inr ho

theorem cmd (h : s.CloseFrameSound) (hs : s.cmdStep = some s') : s'.CloseFrameSound := by
  have hframe : CmdFrame s s' := .step hs
  have hcall : s'.hist.closeCall = s.hist.closeCall := by rw [hframe]
  have hlocal : s'.shared.localClosed = s.shared.localClosed := by rw [hframe]
  have hpeer : s'.peerFrame = s.peerFrame := by rw [hframe]
  have hbudget : s'.shared.budget = s.shared.budget := by rw [hframe]
  refine ⟨by rw [hlocal, hcall]; exact h.localClosed, fun code reason hc => ?_, fun hw => ?_,
    fun hw hnone => ?_⟩
  · rw [hcall]
    exact h.cmds code reason (cmdStep_cmds hs _ hc)
  · rcases cmdStep_closes hs with ⟨hw', hf⟩ | ⟨_, _, -, hw', -⟩
    · rw [hf]
      exact h.fresh (hw'.symm.trans hw)
    · exact absurd (hw.symm.trans hw') nofun
  · rw [hcall] at hnone
    rw [hpeer, hbudget]
    rcases cmdStep_closes hs with ⟨hw', -⟩ | ⟨code, reason, hc, -⟩
    · exact h.closing (hw'.symm.trans hw) hnone
    · obtain ⟨call, hsome, -⟩ := h.cmds code reason hc
      exact absurd (hnone.symm.trans hsome) nofun

theorem guest (h : s.CloseFrameSound) {a : Action} (hm : GuestMove s a s') :
    s'.CloseFrameSound := by
  have hframe := GuestFrame.of_move hm
  have hw' : s'.flags.wireClosing = s.flags.wireClosing := by rw [hframe]
  have hf : s'.hist.closeFrames = s.hist.closeFrames := by rw [hframe]
  have hpeer : s'.peerFrame = s.peerFrame := by rw [hframe]
  have hover : s'.shared.budget.overflowed = s.shared.budget.overflowed := by rw [hframe]
  have hfresh : s'.flags.wireClosing = false → s'.hist.closeFrames = [] := by
    rw [hw', hf]
    exact h.fresh
  rcases guest_closeCall hm with ⟨hl, hcall, hcmds⟩ | ⟨code, reason, hl, hl', hcall, hcmds⟩
  · refine ⟨by rw [hl, hcall]; exact h.localClosed, fun c r hc => ?_, hfresh, ?_⟩
    · rw [hcall]
      exact h.cmds c r (hcmds c r hc)
    · rw [hw', hcall, hpeer, hover]
      exact h.closing
  · have hnone : s.hist.closeCall = none := by
      simpa [hl] using h.localClosed.symm
    rw [hnone] at hcall
    refine ⟨by rw [hl', hcall]; rfl, fun c r hc => ?_, hfresh, fun _ hnone' => ?_⟩
    · rcases hcmds c r hc with hc | ⟨rfl, rfl⟩
      · obtain ⟨call, hsome, -⟩ := h.cmds c r hc
        exact absurd (hnone.symm.trans hsome) nofun
      · exact ⟨_, hcall, rfl⟩
    · exact absurd (hcall.symm.trans hnone') nofun

end State.CloseFrameSound

/-- In every reachable state the close frames match the call on record. -/
theorem closeFrame_sound (h : (system T).Reachable s) : s.CloseFrameSound := by
  refine System.Reachable.induction (I := State.CloseFrameSound) ?_ ?_ h
  · rintro _ ⟨config, ws, io, now, -, heof, rfl⟩
    exact ⟨rfl, nofun, fun _ => rfl, nofun⟩
  · intro s a s' _ ih hstep
    cases step_kind hstep with
    | reader h => exact ih.reader h
    | cmd h => exact ih.cmd h
    | flush t h =>
      have hframe := FlushFrame.of_flushes h
      exact ih.congr (by rw [hframe]) (by rw [hframe]) (by rw [hframe]) (by rw [hframe])
        (by rw [hframe])
    | transport h _ =>
      exact ih.congr (by rw [h]) (by rw [h]) (by rw [h]) (by rw [h]) (by rw [h])
    | guest h => exact ih.guest h

/-! ### The frame of the first close call -/

namespace State.KeepsCloseFrame

theorem congr (h : s.KeepsCloseFrame) (hcall : s'.hist.closeCall = s.hist.closeCall)
    (hf : s'.hist.closeFrames = s.hist.closeFrames) : s'.KeepsCloseFrame := by
  unfold State.KeepsCloseFrame
  rw [hcall, hf]
  exact h

/-- A reader step keeps the frame exactly when it does not close for a message it reads between
the call and its command. -/
theorem reader_iff (h : s.KeepsCloseFrame) (hi : s.CloseFrameSound)
    (hs : s.readerStep = some s') : s'.KeepsCloseFrame ↔ KeepsCode s .reader := by
  have hframe : ReaderFrame s s' := .step hs
  have hcall : s'.hist.closeCall = s.hist.closeCall := by rw [hframe]
  rcases (readerStep_closes hs).change with ⟨huncoded, hf, -⟩ | ⟨huncoded, hw, -, hf, -⟩
  · exact ⟨fun _ _ _ => huncoded, fun _ => h.congr hcall hf⟩
  · rw [hi.fresh hw] at hf
    have hpending : s'.KeepsCloseFrame ↔ s.codePending = false := by
      unfold State.KeepsCloseFrame State.codePending
      rw [hcall, hf, hw]
      cases s.hist.closeCall with
      | none => simp
      | some call => simp [@eq_comm _ none call.frame]
    rw [hpending, KeepsCode, huncoded]
    simp

theorem cmd (h : s.KeepsCloseFrame) (hi : s.CloseFrameSound) (hs : s.cmdStep = some s') :
    s'.KeepsCloseFrame := by
  have hframe : CmdFrame s s' := .step hs
  have hcall : s'.hist.closeCall = s.hist.closeCall := by rw [hframe]
  rcases cmdStep_closes hs with ⟨-, hf⟩ | ⟨code, reason, hc, -, hf⟩
  · exact h.congr hcall hf
  · intro call hsome hfresh
    rw [hcall] at hsome
    rw [hf]
    obtain ⟨call', hsome', hframe'⟩ := hi.cmds code reason hc
    obtain rfl : call = call' := Option.some.inj (hsome.symm.trans hsome')
    split
    · exact h call hsome hfresh
    · next hw =>
      rw [hi.fresh (by simpa using hw), hframe']
      exact .inr rfl

theorem guest (h : s.KeepsCloseFrame) (hi : s.CloseFrameSound) {a : Action}
    (hm : GuestMove s a s') : s'.KeepsCloseFrame := by
  have hframe := GuestFrame.of_move hm
  have hf : s'.hist.closeFrames = s.hist.closeFrames := by rw [hframe]
  rcases guest_closeCall hm with ⟨-, hcall, -⟩ | ⟨code, reason, hl, -, hcall, -⟩
  · exact h.congr hcall hf
  · -- A fresh call finds no peer frame and no overflow, so no close frame has been initiated.
    have hnone : s.hist.closeCall = none := by
      simpa [hl] using hi.localClosed.symm
    intro call hsome hfresh
    rw [hcall, hnone] at hsome
    obtain rfl := Option.some.inj hsome
    rw [hf]
    refine .inl (hi.fresh ?_)
    by_contra hw
    simp only [Bool.and_eq_true, Option.isNone_iff_eq_none, Bool.not_eq_true'] at hfresh
    rcases hi.closing (by simpa using hw) hnone with hp | ho
    · simp [hfresh.1.1] at hp
    · exact absurd (ho.symm.trans hfresh.1.2) nofun

end State.KeepsCloseFrame

/-- In every run in which the reader does not close for a message it reads between a `close` call
with a code and its command, the only close frame initiated is the one of the first accepted call,
when it found the connection fresh. -/
theorem keeps_closeFrame (h : (system T).ReachableUnder KeepsCode s) : s.KeepsCloseFrame := by
  refine System.ReachableUnder.induction (I := State.KeepsCloseFrame) ?_ ?_ h
  · rintro _ ⟨config, ws, io, now, -, heof, rfl⟩
    exact nofun
  · intro s a s' hs ih hc hstep
    have hi : s.CloseFrameSound := closeFrame_sound hs.reachable
    cases step_kind hstep with
    | reader h => exact (ih.reader_iff hi h).mpr hc
    | cmd h => exact ih.cmd hi h
    | flush t h =>
      have hframe := FlushFrame.of_flushes h
      exact ih.congr (by rw [hframe]) (by rw [hframe])
    | transport h _ => exact ih.congr (by rw [h]) (by rw [h])
    | guest h => exact ih.guest hi h

end Polymorph.Provider
